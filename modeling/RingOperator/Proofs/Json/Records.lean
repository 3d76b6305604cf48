import RingOperator.Json.Record
import RingOperator.Json.Writer
import RingOperator.Proofs.Table

/-!
# What records are read from

The decoders of records told by the values that they accept. A declared field has just
the values that stand under its name (`valuesOf`), and more than one is refused
(`part?_eq_some_iff`); an array gives its items as the first parts
(`listedParts?_eq`); a list of texts is read of nothing but a list of texts
(`list?_text?_eq_some_iff`). Arranging a value by name leaves each of its fields what it
was, the last one of its name (`parts?_arranged`).
-/

namespace RingOperator

namespace Json

variable {fields : List (String × Json)} {items : List Json} {name : String} {value : Json}
  {part : Option Json} {parts : List (Option Json)} {texts : List String}

/-- The values that stand under a name, in their order. -/
def valuesOf (name : String) (fields : List (String × Json)) : List Json :=
  (fields.filter fun field => field.1 == name).map (·.2)

/-! ## Parts -/

theorem part?_eq_some_iff : part? fields name = some part ↔ valuesOf name fields = part.toList := by
  rw [part?, valuesOf]
  generalize fields.filter (fun field => field.1 == name) = given
  rcases given with _ | ⟨field, _ | ⟨other, rest⟩⟩ <;> cases part <;> simp

theorem part?_entries (t : Table Json) (name : String) :
    part? t.entries name = some (t.get? name) := by
  rw [part?_eq_some_iff, valuesOf, Table.filter_entries]
  cases t.get? name <;> rfl

theorem namedParts?_entries (t : Table Json) (names : List String) :
    namedParts? t.entries names = some (names.map t.get?) := by
  induction names with
  | nil => rfl
  | cons name names ih => rw [namedParts?, part?_entries, ih]; rfl

theorem listedParts?_eq (count : Nat) (items : List Json) : listedParts? count items =
    if items.length ≤ count then
      some (items.map some ++ List.replicate (count - items.length) none)
    else none := by
  induction count generalizing items with
  | zero => cases items <;> rfl
  | succ count ih =>
    cases items with
    | nil => simp [listedParts?, ih, List.replicate_succ]
    | cons item items =>
      simp only [listedParts?, ih, List.length_cons, Nat.add_sub_add_right,
        apply_ite (Option.map _), Nat.add_le_add_iff_right]
      rfl

/-! ## Lists of texts -/

theorem all?_text?_eq_some_iff : all? text? items = some texts ↔ items = texts.map .text := by
  induction items generalizing texts with
  | nil => cases texts <;> simp [all?]
  | cons item items ih =>
    rw [all?, Option.bind_eq_bind, Option.bind_eq_some_iff]
    constructor
    · rintro ⟨first, read, h⟩
      obtain ⟨more, rest, h⟩ := Option.bind_eq_some_iff.1 h
      cases h
      cases item <;> cases read
      rw [ih.1 rest, List.map_cons]
    · intro h
      obtain ⟨first, more, rfl, rfl, rest⟩ := List.map_eq_cons_iff.1 h.symm
      exact ⟨first, rfl, Option.bind_eq_some_iff.2 ⟨more, ih.2 rest.symm, rfl⟩⟩

theorem list?_text?_eq_some_iff :
    list? text? value = some texts ↔ value = .array (texts.map .text) := by
  cases value <;> simp [list?, all?_text?_eq_some_iff]

/-! ## Values arranged by name -/

theorem arranged_eq_text_iff {content : String} :
    value.arranged = .text content ↔ value = .text content := by
  cases value <;> simp [arranged]

theorem arrangedItems_eq_texts_iff :
    arrangedItems items = texts.map .text ↔ items = texts.map .text := by
  induction items generalizing texts with
  | nil => rw [arrangedItems]
  | cons item items ih =>
    cases texts with
    | nil => simp [arrangedItems]
    | cons first texts =>
      rw [arrangedItems, List.map_cons, List.cons_eq_cons, List.cons_eq_cons, ih,
        arranged_eq_text_iff]

theorem arranged_eq_texts_iff :
    value.arranged = .array (texts.map .text) ↔ value = .array (texts.map .text) := by
  cases value with
  | array items => rw [arranged, array.injEq, array.injEq, arrangedItems_eq_texts_iff]
  | _ => simp [arranged]

theorem arrangedItems_eq_map (items : List Json) : arrangedItems items = items.map arranged := by
  induction items with
  | nil => rfl
  | cons item items ih => rw [arrangedItems, ih, List.map_cons]

theorem lookup_arrangedFields (fields : List (String × Json)) (name : String) :
    (arrangedFields fields).reverse.lookup name = (fields.reverse.lookup name).map arranged := by
  have each : arrangedFields fields = fields.map fun field => (field.1, arranged field.2) := by
    induction fields with
    | nil => rfl
    | cons field fields ih => rw [arrangedFields, ih, List.map_cons]
  rw [each, ← List.map_reverse]
  induction fields.reverse with
  | nil => rfl
  | cons field rest ih =>
    rw [List.map_cons, Table.lookup_entry, Table.lookup_entry, ih]
    split <;> rfl

/-- An arranged object gives for each name what the object gives last. -/
theorem parts?_arranged (fields : List (String × Json)) (names : List String) :
    (object fields).arranged.parts? names =
      some (names.map fun name => ((object fields).field? name).map arranged) := by
  rw [arranged, parts?, namedParts?_entries]
  refine congrArg some (List.map_congr_left fun name _ => ?_)
  rw [Table.get?_ofList, lookup_arrangedFields, field?]

end Json

end RingOperator
