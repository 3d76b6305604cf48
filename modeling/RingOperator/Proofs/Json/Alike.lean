import Mathlib.Data.List.Nodup
import RingOperator.Objects.Shape
import RingOperator.Proofs.Json.Records

/-!
# Values that say the same

Two values are alike under a shape (`Alike`) if one becomes the other by steps that no
reader of records should notice: the fields of a record are put in another order, or it gets a
field that the shape does not name, or this is done to a part that the shape names. A
decoder `Respects` a shape if it makes the same of such values. What is found under the
declared names is then alike part by part (`alike_parts?`), and so a decoder of records
respects its shape if what it reads its parts with respects theirs (`required_alike`,
`orDefault_alike`, `respects_list`).
-/

namespace RingOperator.Json

/-- One value becomes another one by steps that do not matter under a shape. -/
inductive Alike : Shape → Json → Json → Prop
  | same (shape : Shape) (value : Json) : Alike shape value value
  | andThen {shape : Shape} {a b c : Json} (first : Alike shape a b) (second : Alike shape b c) :
      Alike shape a c
  /-- Fields are put in another order. -/
  | reordered {shapes : List (String × Shape)} {fields fields' : List (String × Json)}
      (h : fields.Perm fields') : Alike (.record shapes) (.object fields) (.object fields')
  /-- There is a further field, which the shape does not name. -/
  | extended {shapes : List (String × Shape)} {fields : List (String × Json)} {name : String}
      (value : Json) (unknown : name ∉ shapes.map (·.1)) :
      Alike (.record shapes) (.object fields) (.object ((name, value) :: fields))
  /-- A field that the shape names is changed in such a way. -/
  | inside {shapes : List (String × Shape)} {fields : List (String × Json)} {name : String}
      {shape : Shape} {value value' : Json} (known : (name, shape) ∈ shapes)
      (alike : Alike shape value value') :
      Alike (.record shapes) (.object ((name, value) :: fields))
        (.object ((name, value') :: fields))
  /-- So is a part of a record that is written as a list. -/
  | listed {shapes : List (String × Shape)} {before after : List Json} {name : String}
      {shape : Shape} {value value' : Json}
      (known : shapes[before.length]? = some (name, shape)) (alike : Alike shape value value') :
      Alike (.record shapes) (.array (before ++ value :: after))
        (.array (before ++ value' :: after))
  /-- So is an item of a list. -/
  | item {shape : Shape} {before after : List Json} {value value' : Json}
      (alike : Alike shape value value') :
      Alike (.list shape) (.array (before ++ value :: after)) (.array (before ++ value' :: after))

/-- The decoder makes the same of values that are alike. -/
def Respects {α : Type} (shape : Shape) (decode : Json → Option α) : Prop :=
  ∀ value value', Alike shape value value' → decode value' = decode value

variable {shapes : List (String × Shape)} {shape : Shape} {value value' : Json}
  {fields fields' : List (String × Json)} {parts parts' parts'' : List (Option Json)}

/-! ## Parts -/

/-- The parts of two values are alike one by one. -/
inductive AlikeParts : List (String × Shape) → List (Option Json) → List (Option Json) → Prop
  | nil : AlikeParts [] [] []
  | cons {name : String} {shape : Shape} {shapes : List (String × Shape)} {part part' : Option Json}
      {parts parts' : List (Option Json)} (first : Option.Rel (Alike shape) part part')
      (rest : AlikeParts shapes parts parts') :
      AlikeParts ((name, shape) :: shapes) (part :: parts) (part' :: parts')

theorem rel_refl {α : Type} {r : α → α → Prop} (h : ∀ a, r a a) (a : Option α) :
    Option.Rel r a a := by
  cases a with
  | none => exact .none
  | some a => exact .some (h a)

theorem rel_trans {α : Type} {r : α → α → Prop} (h : ∀ a b c, r a b → r b c → r a c)
    {a b c : Option α} (first : Option.Rel r a b) (second : Option.Rel r b c) :
    Option.Rel r a c := by
  cases first with
  | none => exact second
  | some first =>
    cases second with
    | some second => exact .some (h _ _ _ first second)

theorem alikeParts_refl (length : parts.length = shapes.length) :
    AlikeParts shapes parts parts := by
  induction shapes generalizing parts with
  | nil =>
    rw [List.length_eq_zero_iff.1 length]
    exact .nil
  | cons entry shapes ih =>
    obtain ⟨part, parts, rfl⟩ := List.exists_cons_of_length_eq_add_one length
    exact .cons (rel_refl (.same _) part) (ih (Nat.succ.inj length))

theorem AlikeParts.trans (first : AlikeParts shapes parts parts')
    (second : AlikeParts shapes parts' parts'') : AlikeParts shapes parts parts'' := by
  induction first generalizing parts'' with
  | nil => exact second
  | cons part rest ih =>
    cases second with
    | cons part' rest' => exact .cons (rel_trans (fun _ _ _ => .andThen) part part') (ih rest')

/-- Parts that differ in one place. -/
theorem alikeParts_of_place {before after : List (Option Json)} {name : String}
    (known : shapes[before.length]? = some (name, shape)) (alike : Alike shape value value')
    (length : (before ++ some value :: after).length = shapes.length) :
    AlikeParts shapes (before ++ some value :: after) (before ++ some value' :: after) := by
  induction before generalizing shapes with
  | nil =>
    obtain ⟨entry, shapes, rfl⟩ := List.exists_cons_of_length_eq_add_one length.symm
    cases known
    exact .cons (.some alike) (alikeParts_refl (Nat.succ.inj length))
  | cons part before ih =>
    obtain ⟨entry, shapes, rfl⟩ := List.exists_cons_of_length_eq_add_one length.symm
    exact .cons (rel_refl (.same _) part) (ih known (Nat.succ.inj length))

theorem length_of_namedParts? {names : List String} (h : namedParts? fields names = some parts) :
    parts.length = names.length := by
  induction names generalizing parts with
  | nil =>
    cases h
    rfl
  | cons name names ih =>
    obtain ⟨part, -, h⟩ := Option.bind_eq_some_iff.1 h
    obtain ⟨more, rest, h⟩ := Option.bind_eq_some_iff.1 h
    cases h
    rw [List.length_cons, List.length_cons, ih rest]

theorem length_of_listedParts? {count : Nat} {items : List Json}
    (h : listedParts? count items = some parts) : parts.length = count := by
  rw [listedParts?_eq] at h
  split at h
  · cases h
    rw [List.length_append, List.length_map, List.length_replicate]
    omega
  · cases h

theorem length_of_parts? {names : List String} (h : value.parts? names = some parts) :
    parts.length = names.length := by
  cases value with
  | object fields => exact length_of_namedParts? h
  | array items => exact length_of_listedParts? h
  | _ => cases h

/-- Where each declared field is alike, so are the parts. -/
theorem alike_namedParts? (each : ∀ entry ∈ shapes,
      Option.Rel (Option.Rel (Alike entry.2)) (part? fields entry.1) (part? fields' entry.1)) :
    Option.Rel (AlikeParts shapes) (namedParts? fields (shapes.map (·.1)))
      (namedParts? fields' (shapes.map (·.1))) := by
  induction shapes with
  | nil => exact .some .nil
  | cons entry shapes ih =>
    obtain ⟨first, later⟩ := List.forall_mem_cons.1 each
    rw [List.map_cons, namedParts?, namedParts?]
    revert first
    generalize part? fields entry.1 = part, part? fields' entry.1 = part'
    rintro (first | _)
    · have rest := ih later
      revert rest
      generalize namedParts? fields (shapes.map (·.1)) = more,
        namedParts? fields' (shapes.map (·.1)) = more'
      rintro (rest | _)
      · exact .some (.cons first rest)
      · exact .none
    · exact .none

theorem part?_of_perm (h : fields.Perm fields') (name : String) :
    part? fields' name = part? fields name := by
  have given := h.filter fun field => field.1 == name
  rw [part?, part?]
  revert given
  generalize fields.filter (fun field => field.1 == name) = a,
    fields'.filter (fun field => field.1 == name) = b
  intro given
  rcases a with _ | ⟨field, _ | ⟨second, rest⟩⟩
  · rw [List.nil_perm.1 given]
  · rw [List.singleton_perm.1 given]
  · have length := given.length_eq
    rcases b with _ | ⟨_, _ | ⟨_, _⟩⟩
    · cases length
    · cases length
    · rfl

theorem part?_cons_of_ne {field : String × Json} {name : String} (other : field.1 ≠ name) :
    part? (field :: fields) name = part? fields name := by
  rw [part?, List.filter_cons_of_neg (by simpa using other), part?]

/-- A field that is changed is still given once, or still given twice. -/
theorem rel_part?_cons {r : Json → Json → Prop} (h : r value value') (name : String) :
    Option.Rel (Option.Rel r) (part? ((name, value) :: fields) name)
      (part? ((name, value') :: fields) name) := by
  have named (given : Json) : ((name, given) :: fields).filter (fun field => field.1 == name) =
      (name, given) :: fields.filter fun field => field.1 == name :=
    List.filter_cons_of_pos (beq_self_eq_true name)
  rw [part?, part?, named, named]
  cases fields.filter fun field => field.1 == name with
  | nil => exact .some (.some h)
  | cons => exact .none

/-- Values that are alike have parts that are alike, or both have none. -/
theorem alike_parts? (distinct : (shapes.map (·.1)).Nodup)
    (alike : Alike (.record shapes) value value') :
    Option.Rel (AlikeParts shapes) (value.parts? (shapes.map (·.1)))
      (value'.parts? (shapes.map (·.1))) := by
  have whole {part : Option (Option Json)} (shape : Shape) :
      Option.Rel (Option.Rel (Alike shape)) part part := rel_refl (rel_refl (.same shape)) part
  generalize record : Shape.record shapes = shape at alike
  induction alike with
  | same shape value =>
    cases parted : value.parts? (shapes.map (·.1)) with
    | none => exact .none
    | some parts =>
      have length := length_of_parts? parted
      rw [List.length_map] at length
      exact .some (alikeParts_refl length)
  | andThen _ _ first second =>
    exact rel_trans (fun _ _ _ => .trans) (first record) (second record)
  | reordered h =>
    cases record
    exact alike_namedParts? fun entry _ => by
      rw [part?_of_perm h]
      exact whole entry.2
  | @extended _ _ name _ unknown =>
    cases record
    refine alike_namedParts? fun entry known => ?_
    have other : name ≠ entry.1 := by
      rintro rfl
      exact unknown (List.mem_map_of_mem known)
    rw [part?_cons_of_ne other]
    exact whole entry.2
  | @inside _ fields name shape value value' named alike _ =>
    cases record
    refine alike_namedParts? fun entry known => ?_
    by_cases same : name = entry.1
    · subst same
      rw [List.inj_on_of_nodup_map distinct known named rfl]
      exact rel_part?_cons alike _
    · rw [part?_cons_of_ne same, part?_cons_of_ne same]
      exact whole entry.2
  | @listed _ before after name shape value value' place alike _ =>
    cases record
    have parted (item : Json) : (array (before ++ item :: after)).parts? (shapes.map (·.1)) =
        if (before ++ item :: after).length ≤ shapes.length then
          some (before.map some ++ some item :: (after.map some ++
            List.replicate (shapes.length - (before ++ item :: after).length) none))
        else none := by
      rw [parts?, List.length_map, listedParts?_eq, List.map_append, List.map_cons,
        List.append_assoc, List.cons_append]
    have length (item : Json) : (before ++ item :: after).length =
        before.length + after.length + 1 := by
      rw [List.length_append, List.length_cons, Nat.add_assoc]
    rw [parted, parted, length, length]
    split
    · rename_i fits
      refine .some (alikeParts_of_place (by rwa [List.length_map]) alike ?_)
      simp only [List.length_append, List.length_cons, List.length_map, List.length_replicate]
      omega
    · exact .none
  | item => cases record

/-! ## Readers -/

variable {α : Type} {decode : Json → Option α} {part part' : Option Json}

/-- Whether a shape says something about parts. -/
def hasParts : Shape → Bool
  | .record _ => true
  | .list _ => true
  | _ => false

/-- Where a shape says nothing about parts, only what is the same is alike. -/
theorem eq_of_alike (leaf : hasParts shape = false) (alike : Alike shape value value') :
    value' = value := by
  induction alike with
  | same => rfl
  | andThen _ _ first second => rw [second leaf, first leaf]
  | _ => cases leaf

theorem all?_append_cons (before after : List Json) (item : Json) :
    all? decode (before ++ item :: after) = (all? decode before).bind fun first =>
      (decode item).bind fun a => (all? decode after).map fun more => first ++ a :: more := by
  induction before with
  | nil =>
    rw [List.nil_append, all?, all?, Option.bind_some]
    cases decode item <;> cases all? decode after <;> rfl
  | cons other before ih =>
    rw [List.cons_append, all?, all?, ih]
    cases decode other <;> cases all? decode before <;> cases decode item <;>
      cases all? decode after <;> rfl

theorem respects_list (item : Respects shape decode) : Respects (.list shape) (list? decode) := by
  intro value value' alike
  generalize whole : Shape.list shape = outer at alike
  induction alike with
  | same => rfl
  | andThen _ _ first second => rw [second whole, first whole]
  | item alike _ =>
    cases whole
    rw [list?, list?, all?_append_cons, all?_append_cons, item _ _ alike]
  | _ => cases whole

theorem required_alike (respects : Respects shape decode)
    (alike : Option.Rel (Alike shape) part part') :
    required decode part' = required decode part := by
  cases alike with
  | none => rfl
  | some alike => exact respects _ _ alike

theorem orDefault_alike {default : α} (respects : Respects shape decode)
    (alike : Option.Rel (Alike shape) part part') :
    orDefault default decode part' = orDefault default decode part := by
  cases alike with
  | none => rfl
  | some alike => exact respects _ _ alike

theorem eq_of_rel_alike (leaf : hasParts shape = false)
    (alike : Option.Rel (Alike shape) part part') : part' = part := by
  cases alike with
  | none => rfl
  | some alike => rw [eq_of_alike leaf alike]

/-- A decoder of records respects their shape if it makes the same of parts that are alike. -/
theorem respects_record (names : List String) (named : shapes.map (·.1) = names)
    (distinct : names.Nodup) (refuses : ∀ value, value.parts? names = none → decode value = none)
    (each : ∀ value value' parts parts', value.parts? names = some parts →
      value'.parts? names = some parts' → AlikeParts shapes parts parts' →
        decode value' = decode value) : Respects (.record shapes) decode := by
  subst named
  intro value value' alike
  have parted := alike_parts? distinct alike
  cases found : value.parts? (shapes.map (·.1)) <;>
    cases found' : value'.parts? (shapes.map (·.1)) <;> rw [found, found'] at parted
  case none.none => rw [refuses _ found, refuses _ found']
  case some.some =>
    cases parted with
    | some parted => exact each _ _ _ _ found found' parted
  all_goals cases parted

end RingOperator.Json
