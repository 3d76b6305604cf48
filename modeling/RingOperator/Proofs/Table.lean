import RingOperator.Table

/-!
# Look-ups in tables

What a table holds under a key is its entry (`get?_eq_some_iff`). A table that
is made from a list holds of the values of one key the last one
(`get?_ofList`), so, if the keys differ from each other, every value that the
list gives (`get?_ofList_of_mem`), and its keys are those that the list gives
(`mem_keys_ofList`).
-/

namespace RingOperator.Table

variable {α : Type} {l : List (String × α)} {key : String} {value : α}

theorem get?_foldl_insert (l : List (String × α)) (t : Table α) (key : String) :
    (l.foldl (fun t e => t.insert e.1 e.2) t).get? key =
      (l.reverse.lookup key).or (t.get? key) := by
  induction l generalizing t with
  | nil => rfl
  | cons e l ih =>
    rw [List.foldl_cons, ih, get?_insert, List.reverse_cons, List.lookup_append, Option.or_assoc,
      lookup_entry]
    split <;> rfl

/-- Of the values of one key the last one stays. -/
theorem get?_ofList (l : List (String × α)) (key : String) :
    (ofList l).get? key = l.reverse.lookup key := by
  rw [ofList, get?_foldl_insert, get?_empty, Option.or_none]

/-- If no key occurs twice, every value stays. -/
theorem get?_ofList_of_mem (distinct : (l.map (·.1)).Nodup) (h : (key, value) ∈ l) :
    (ofList l).get? key = some value := by
  rw [get?_ofList]
  obtain ⟨before, after, rfl⟩ := List.append_of_mem h
  rw [List.map_append, List.map_cons, List.nodup_append] at distinct
  refine List.lookup_eq_some_iff.2 ⟨after.reverse, before.reverse, by simp, fun e he => ?_⟩
  -- No entry behind this one has its key, so it is the last one that is inserted.
  have other := (List.nodup_cons.1 distinct.2.1).1
  have : key ≠ e.1 := by
    rintro rfl
    exact other (List.mem_map.2 ⟨e, List.mem_reverse.1 he, rfl⟩)
  simpa using this

/-- What is looked up was given. -/
theorem mem_of_get?_ofList (h : (ofList l).get? key = some value) : (key, value) ∈ l := by
  rw [get?_ofList] at h
  obtain ⟨before, after, split, -⟩ := List.lookup_eq_some_iff.1 h
  rw [← List.mem_reverse, split]
  exact List.mem_append_right before List.mem_cons_self

/-- Every key that is given has a value. -/
theorem exists_get?_ofList (h : key ∈ l.map (·.1)) : ∃ value, (ofList l).get? key = some value := by
  rw [get?_ofList]
  cases found : l.reverse.lookup key with
  | some value => exact ⟨value, rfl⟩
  | none =>
    obtain ⟨e, he, rfl⟩ := List.mem_map.1 h
    have := List.lookup_eq_none_iff.1 found e (List.mem_reverse.2 he)
    simp at this

/-- What is looked up is an entry, as keys do not repeat. -/
theorem get?_eq_some_iff {t : Table α} : t.get? key = some value ↔ (key, value) ∈ t.entries := by
  rw [get?]
  constructor
  · intro h
    obtain ⟨before, after, split, -⟩ := List.lookup_eq_some_iff.1 h
    simp [split]
  · intro h
    obtain ⟨before, after, split⟩ := List.append_of_mem h
    have sorted := t.sorted
    rw [split, List.pairwise_append] at sorted
    refine List.lookup_eq_some_iff.2 ⟨before, after, split, fun e he => ?_⟩
    -- The keys before are smaller, so the look-up goes past them.
    have smaller := sorted.2.2 e he _ List.mem_cons_self
    have other : key ≠ e.1 := by
      rintro rfl
      exact String.lt_irrefl _ smaller
    simpa using other

/-- The keys are those that have a value. -/
theorem mem_keys_iff {t : Table α} : key ∈ t.keys ↔ ∃ value, t.get? key = some value := by
  simp [keys, get?_eq_some_iff]

/-- The keys of a table that is made from a list are those that the list gives. -/
theorem mem_keys_ofList : key ∈ (ofList l).keys ↔ key ∈ l.map (·.1) := by
  rw [mem_keys_iff]
  exact ⟨fun ⟨_, h⟩ => List.mem_map.2 ⟨_, mem_of_get?_ofList h, rfl⟩, exists_get?_ofList⟩

/-! ## Tables with the same look-ups -/

theorem keys_pairwise (t : Table α) : t.keys.Pairwise (· < ·) := List.pairwise_map.2 t.sorted

theorem nodup_keys (t : Table α) : t.keys.Nodup := by
  refine List.pairwise_map.2 (t.sorted.imp fun {a b} less same => ?_)
  rw [same] at less
  exact String.lt_irrefl _ less

theorem nodup_entries (t : Table α) : t.entries.Nodup :=
  List.Pairwise.of_map (·.1) (fun _ _ differ same => differ (congrArg (·.1) same)) t.nodup_keys

/-- Two tables that hold the same under every key are the same. -/
theorem ext_get? {t u : Table α} (h : ∀ key, t.get? key = u.get? key) : t = u := by
  have perm : t.entries.Perm u.entries := by
    refine (List.perm_ext_iff_of_nodup t.nodup_entries u.nodup_entries).2 fun e => ?_
    rw [← get?_eq_some_iff, ← get?_eq_some_iff, h]
  have same : t.entries = u.entries :=
    perm.eq_of_pairwise
      (fun a b _ _ less more => absurd (String.lt_trans less more) (String.lt_irrefl _))
      t.sorted u.sorted
  cases t
  cases u
  simpa using same

/-- Two tables with values under the same keys list them alike. -/
theorem keys_eq_of_forall {β : Type} {t : Table α} {u : Table β}
    (h : ∀ key, key ∈ t.keys ↔ key ∈ u.keys) : t.keys = u.keys :=
  ((List.perm_ext_iff_of_nodup t.nodup_keys u.nodup_keys).2 fun key => h key).eq_of_pairwise
    (fun _ _ _ _ less more => absurd (String.lt_trans less more) (String.lt_irrefl _))
    t.keys_pairwise u.keys_pairwise

/-- A key that has a value already keeps its place. -/
theorem keys_insert_of_mem {t : Table α} (h : key ∈ t.keys) (value : α) :
    (t.insert key value).keys = t.keys := by
  refine keys_eq_of_forall fun other => ?_
  rw [mem_keys_iff, get?_insert]
  by_cases same : other = key
  · subst same
    simp [h]
  · rw [if_neg same, mem_keys_iff]

/-- If no key occurs twice, the table holds just what the list gives. -/
theorem get?_ofList_eq_some_iff (distinct : (l.map (·.1)).Nodup) :
    (ofList l).get? key = some value ↔ (key, value) ∈ l :=
  ⟨mem_of_get?_ofList, get?_ofList_of_mem distinct⟩

/-- Then it has an entry for each of them. -/
theorem entries_ofList_perm (distinct : (l.map (·.1)).Nodup) : (ofList l).entries.Perm l := by
  have once : l.Nodup :=
    List.Pairwise.of_map (·.1) (fun _ _ differ same => differ (congrArg (·.1) same)) distinct
  refine (List.perm_ext_iff_of_nodup (ofList l).nodup_entries once).2 fun e => ?_
  rw [← get?_eq_some_iff, get?_ofList_eq_some_iff distinct]

/-- The values of different keys can be given in any order. -/
theorem ofList_perm {l' : List (String × α)} (distinct : (l.map (·.1)).Nodup) (perm : l.Perm l') :
    ofList l = ofList l' := by
  refine ext_get? fun key => Option.ext fun value => ?_
  rw [get?_ofList_eq_some_iff distinct,
    get?_ofList_eq_some_iff ((perm.map (·.1)).nodup_iff.1 distinct)]
  exact perm.mem_iff

/-- Without a key, every other key has what it had. -/
theorem get?_erase (t : Table α) (key other : String) :
    (t.erase key).get? other = if other = key then none else t.get? other := by
  refine Option.ext fun value => ?_
  rw [get?_eq_some_iff, erase, List.mem_filter, decide_eq_true_eq]
  split
  · rename_i same
    simp [same]
  · rename_i differ
    simp [differ, get?_eq_some_iff]

/-- A table is made from its own entries. -/
theorem ofList_entries (t : Table α) : ofList t.entries = t := by
  refine ext_get? fun key => Option.ext fun value => ?_
  rw [get?_ofList_eq_some_iff t.nodup_keys, get?_eq_some_iff]

/-- A key has at most one entry. -/
theorem filter_entries (t : Table α) (key : String) :
    t.entries.filter (fun e => e.1 == key) = ((t.get? key).map (key, ·)).toList := by
  cases found : t.get? key with
  | none =>
    refine List.filter_eq_nil_iff.2 fun e he same => ?_
    have held := get?_eq_some_iff.2 he
    rw [eq_of_beq same, found] at held
    cases held
  | some value =>
    have distinct := t.nodup_entries.filter fun e => e.1 == key
    have alone : [(key, value)].Nodup := List.pairwise_singleton _ _
    refine List.perm_singleton.1 ((List.perm_ext_iff_of_nodup distinct alone).2 fun e => ?_)
    rw [List.mem_filter, beq_iff_eq, List.mem_singleton]
    constructor
    · rintro ⟨he, rfl⟩
      have held := get?_eq_some_iff.2 he
      rw [found] at held
      cases held
      rfl
    · rintro rfl
      exact ⟨get?_eq_some_iff.1 found, rfl⟩

end RingOperator.Table
