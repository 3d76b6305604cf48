import Mathlib.Data.List.Basic
import RingOperator.Cluster.Status
import RingOperator.Json.Patch
import RingOperator.Proofs.Cluster.Codec

/-!
# A status that is patched in

A status is written as a merge patch in which every field is given: one that is
absent is null, and so is removed. What the patch makes of the declared fields of a
record does not depend on what was there (`part?_patchedFields`), so whatever value
stood in its place, the status that is read back is the one that was written
(`Status.decode_patched`).
-/

namespace RingOperator

namespace Json

variable {fields changes : List (String × Json)} {name : String}

theorem filter_withoutField (gone : String) (fields : List (String × Json)) (name : String) :
    (withoutField gone fields).filter (fun field => field.1 == name) =
      if name = gone then [] else fields.filter fun field => field.1 == name := by
  rw [withoutField, List.filter_filter]
  split
  · rename_i same
    refine List.filter_eq_nil_iff.2 fun field _ => ?_
    simp [same]
  · rename_i other
    refine List.filter_congr fun field _ => ?_
    by_cases found : field.1 = name
    · simp [found, other]
    · simp [found]

theorem filter_setField (set : String) (value : Json) (fields : List (String × Json))
    (name : String) : (setField set value fields).filter (fun field => field.1 == name) =
      if name = set then [(set, value)] else fields.filter fun field => field.1 == name := by
  induction fields with
  | nil =>
    by_cases same : name = set
    · simp [setField, same]
    · simp [setField, same, Ne.symm same]
  | cons field fields ih =>
    rw [setField]
    split
    · rename_i found
      rw [List.filter_cons, filter_withoutField]
      by_cases same : name = set
      · simp [same]
      · simp [same, found, Ne.symm same]
    · rename_i other
      rw [List.filter_cons, ih, List.filter_cons]
      by_cases same : name = set
      · simp [same, other]
      · simp [same]

theorem part?_withoutField (gone : String) (fields : List (String × Json)) (name : String) :
    part? (withoutField gone fields) name =
      if name = gone then some none else part? fields name := by
  rw [part?, filter_withoutField, part?]
  by_cases same : name = gone
  · rw [if_pos same, if_pos same]
  · rw [if_neg same, if_neg same]

theorem part?_setField (set : String) (value : Json) (fields : List (String × Json))
    (name : String) : part? (setField set value fields) name =
      if name = set then some (some value) else part? fields name := by
  rw [part?, filter_setField, part?]
  by_cases same : name = set
  · rw [if_pos same, if_pos same]
  · rw [if_neg same, if_neg same]

/-- What a merge patch says about a field: nothing, if it is null. -/
def given : Json → Option Json
  | null => none
  | value => some value

/-- Where the fields of a merge patch are no objects, they decide about the fields of their names
alone. -/
theorem part?_patchedFields (flat : ∀ change ∈ changes, change.2.fields? = none)
    (target : List (String × Json)) (name : String) :
    part? (patchedFields target changes) name =
      match changes.reverse.lookup name with
      | some change => some (given change)
      | none => part? target name := by
  induction changes generalizing target with
  | nil => rfl
  | cons change changes ih =>
    obtain ⟨changed, value⟩ := change
    obtain ⟨first, later⟩ := List.forall_mem_cons.1 flat
    have step : ∃ target', patchedFields target ((changed, value) :: changes) =
        patchedFields target' changes ∧
          part? target' name =
            if name = changed then some (given value) else part? target name := by
      cases value with
      | null => exact ⟨_, rfl, part?_withoutField _ _ _⟩
      | object => cases first
      | _ => exact ⟨_, rfl, part?_setField _ _ _ _⟩
    obtain ⟨target', same, decides⟩ := step
    rw [same, ih later, lookup_reverse_cons, decides]
    cases changes.reverse.lookup name with
    | some _ => rfl
    | none => by_cases found : name = changed <;> simp [found]

end Json

namespace Phase

theorem decode_name (phase : Phase) : decode (.text phase.name) = some phase := by
  cases phase <;> rfl

end Phase

namespace Status

open Json

variable {status : Status}

theorem fields?_ofText? (content : Option String) : (ofText? content).fields? = none := by
  cases content <;> rfl

theorem orNothing_given (content : Option String) :
    orNothing text? (given (ofText? content)) = some content := by
  cases content <;> rfl

/-- Whatever is there, a status that is patched in is read back in all of its fields. -/
theorem decode_patched (count : IsCount status.readyNodes) (target : Json) :
    decode (target.patched status.encode) = some status := by
  have parts : (target.patched status.encode).parts? ["phase", "readyNodes", "initializingDc",
      "decommissioning", "message", "lastReconciled"] = some [some (.text status.phase.name),
        some (.integer status.readyNodes), given (ofText? status.initializingDc),
        given (ofText? status.decommissioning), given (ofText? status.message),
        given (ofText? status.lastReconciled)] := by
    have flat : ∀ change ∈ [("phase", Json.text status.phase.name),
        ("readyNodes", .integer status.readyNodes),
        ("initializingDc", ofText? status.initializingDc),
        ("decommissioning", ofText? status.decommissioning),
        ("message", ofText? status.message), ("lastReconciled", ofText? status.lastReconciled)],
          change.2.fields? = none := by
      have number : (Json.integer status.readyNodes).fields? = none := rfl
      have name : (Json.text status.phase.name).fields? = none := rfl
      simp [fields?_ofText?, number, name]
    rw [encode, patched_object, parts?]
    simp only [namedParts?, part?_patchedFields flat]
    rfl
  have ready : count? (.integer status.readyNodes) = some status.readyNodes :=
    count?_eq_some_iff.2 ⟨rfl, count⟩
  rw [decode, parts]
  simp only [orDefault, Phase.decode_name, ready, orNothing_given]
  rfl

theorem isCount_of_decode {value : Json} (h : decode value = some status) :
    IsCount status.readyNodes := by
  rw [decode] at h
  split at h
  · simp only [Option.bind_eq_bind, Option.bind_eq_some_iff, Option.pure_def,
      Option.some.injEq] at h
    obtain ⟨_, -, ready, read, _, -, _, -, _, -, _, -, rfl⟩ := h
    obtain rfl | ⟨value, read⟩ := eq_or_exists_of_orDefault read
    · exact isCount_zero
    · exact (count?_eq_some_iff.1 read).2
  · cases h

end Status

end RingOperator
