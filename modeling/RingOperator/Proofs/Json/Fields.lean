import RingOperator.Api.ConfigMaps
import RingOperator.Json.Patch
import RingOperator.Proofs.Table

/-!
# Fields of objects

A merge patch that names one field changes the look-up of that field only
(`field?_patched`, `field?_patched_null`). An object whose fields are all texts is
read as a table with the same look-ups (`Objects.get?_of_texts?`), and a table that is
written as an object is read back (`Objects.texts?_textTable`). All items of an array are
decoded just if each of them is (`map_of_all?_eq_some`, `exists_all?`).
-/

namespace RingOperator

namespace Json

theorem lookup_reverse_cons (field : String × Json) (fields : List (String × Json))
    (name : String) : (field :: fields).reverse.lookup name =
      (fields.reverse.lookup name).or (if name = field.1 then some field.2 else none) := by
  rw [List.reverse_cons, List.lookup_append, Table.lookup_entry, List.lookup_nil]

theorem lookup_withoutField (gone : String) (fields : List (String × Json)) (name : String) :
    (withoutField gone fields).reverse.lookup name =
      if name = gone then none else fields.reverse.lookup name := by
  induction fields with
  | nil => simp [withoutField]
  | cons field fields ih =>
    rw [withoutField] at ih
    rw [withoutField, List.filter_cons]
    by_cases same : field.1 = gone
    · rw [if_neg (by simp [same]), ih, lookup_reverse_cons, same]
      split <;> simp [*]
    · rw [if_pos (by simp [same]), lookup_reverse_cons, ih, lookup_reverse_cons]
      by_cases found : name = gone
      · subst found
        simp [Ne.symm same]
      · simp [found]

theorem lookup_setField (set : String) (value : Json) (fields : List (String × Json))
    (name : String) : (setField set value fields).reverse.lookup name =
      if name = set then some value else fields.reverse.lookup name := by
  induction fields with
  | nil => simp [setField, Table.lookup_entry]
  | cons field fields ih =>
    rw [setField]
    split
    · rename_i same
      rw [lookup_reverse_cons, lookup_withoutField, lookup_reverse_cons, same]
      by_cases found : name = set <;> simp [found]
    · rename_i other
      rw [lookup_reverse_cons, ih, lookup_reverse_cons]
      by_cases found : name = set <;> simp [found]

theorem field?_eq (value : Json) (name : String) :
    value.field? name = (value.fields?.getD []).reverse.lookup name := by
  cases value <;> rfl

/-- A value that is no object is patched like an object without fields. -/
theorem patched_object (target : Json) (changes : List (String × Json)) :
    target.patched (object changes) =
      object (patchedFields (target.fields?.getD []) changes) := by
  cases target <;> simp only [patched, fields?, Option.getD]

/-- A field of a merge patch that is not null is merged into what the field was. -/
theorem field?_patched {name : String} {change : Json} (given : change ≠ null) (target : Json)
    (other : String) : (target.patched (object [(name, change)])).field? other =
      if other = name then some (((target.field? name).getD null).patched change)
      else target.field? other := by
  rw [patched_object, field?_eq target name, field?_eq target other, patchedFields, patchedFields,
    field?, lookup_setField]
  exact given

/-- A field of a merge patch that is null removes the field. -/
theorem field?_patched_null (name : String) (target : Json) (other : String) :
    (target.patched (object [(name, null)])).field? other =
      if other = name then none else target.field? other := by
  rw [patched_object, field?_eq target other, patchedFields, patchedFields, field?,
    lookup_withoutField]

/-! ## Items of arrays -/

theorem map_of_all?_eq_some {α : Type} {decode : Json → Option α} {items : List Json}
    {decoded : List α} (h : all? decode items = some decoded) :
    items.map decode = decoded.map some := by
  induction items generalizing decoded with
  | nil =>
    cases h
    rfl
  | cons item items ih =>
    obtain ⟨a, first, h⟩ := Option.bind_eq_some_iff.1 h
    obtain ⟨more, rest, h⟩ := Option.bind_eq_some_iff.1 h
    cases h
    rw [List.map_cons, List.map_cons, first, ih rest]

theorem exists_all? {α : Type} {decode : Json → Option α} {items : List Json}
    (each : ∀ item ∈ items, ∃ a, decode item = some a) :
    ∃ decoded, all? decode items = some decoded := by
  induction items with
  | nil => exact ⟨[], rfl⟩
  | cons item items ih =>
    obtain ⟨⟨a, first⟩, later⟩ := List.forall_mem_cons.1 each
    obtain ⟨more, rest⟩ := ih later
    exact ⟨a :: more, by rw [all?, first, rest]; rfl⟩

end Json

namespace Objects

open Json

theorem textFields?_eq_some {fields : List (String × Json)} {given : List (String × String)}
    (h : textFields? fields = some given) : fields = given.map fun e => (e.1, .text e.2) := by
  induction fields generalizing given with
  | nil =>
    cases h
    rfl
  | cons field fields ih =>
    obtain ⟨name, value⟩ := field
    cases value with
    | text value =>
      obtain ⟨rest, found, rfl⟩ := Option.map_eq_some_iff.1 h
      rw [List.map_cons, ← ih found]
    | _ => cases h

theorem textFields?_texts (given : List (String × String)) :
    textFields? (given.map fun e => (e.1, .text e.2)) = some given := by
  induction given with
  | nil => rfl
  | cons e given ih => rw [List.map_cons, textFields?, ih, Option.map_some]

theorem lookup_texts (given : List (String × String)) (key : String) :
    ((given.map fun e => (e.1, Json.text e.2)).lookup key).bind text? = given.lookup key := by
  induction given with
  | nil => rfl
  | cons e given ih =>
    rw [List.map_cons, Table.lookup_entry, Table.lookup_entry, apply_ite (Option.bind · text?), ih]
    rfl

/-- An object of texts is read as a table with the same look-ups. -/
theorem get?_of_texts? {value : Json} {t : Table String} (h : texts? value = some t)
    (key : String) : t.get? key = (value.field? key).bind text? := by
  cases value with
  | object fields =>
    obtain ⟨given, found, rfl⟩ := Option.map_eq_some_iff.1 h
    rw [textFields?_eq_some found, Table.get?_ofList, field?, ← List.map_reverse, lookup_texts]
  | _ => cases h

theorem texts?_textTable (t : Table String) : texts? (Api.textTable t) = some t := by
  rw [Api.textTable, texts?, textFields?_texts, Option.map_some, Table.ofList_entries]

/-- What is read of a field follows from the field. -/
theorem absentOr_congr {α : Type} {value value' : Json} {name : String}
    (same : value.field? name = value'.field? name) (decode : Json → Option α) :
    absentOr name decode value = absentOr name decode value' := by
  rw [absentOr, absentOr, present?, present?, same]

theorem absentOr_of_null {α : Type} {value : Json} {name : String}
    (absent : (value.field? name).getD .null = .null) (decode : Json → Option α) :
    absentOr name decode value = some none := by
  rw [absentOr, present?]
  cases found : value.field? name with
  | none => rfl
  | some part =>
    rw [found] at absent
    cases absent
    rfl

theorem absentOr_of_given {α : Type} {value part : Json} {name : String}
    (found : value.field? name = some part) (given : part ≠ .null) (decode : Json → Option α) :
    absentOr name decode value = (decode part).map some := by
  rw [absentOr, present?, found]
  cases part <;> first | rfl | exact absurd rfl given

end Objects

end RingOperator
