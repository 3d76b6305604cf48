import Mathlib.Data.Option.Basic
import RingOperator.Proofs.Api.Objects

/-!
# Pods whose seed label is patched

A merge patch of the seed label leaves a pod a pod. It keeps the shape of the object, as it
changes one field of a record to a value of the shape that the field has
(`Shape.admits_record_patched`), and it does to the labels what an entry or a removal does
to their table (`Objects.HoldsTexts.patched`). So what is read of a patched object is told
by what was read before (`Pod.decode_patched`).
-/

namespace RingOperator

open Json Objects

namespace Json

theorem present?_eq_some_iff {value part : Json} {name : String} :
    value.present? name = some part ↔ value.field? name = some part ∧ part ≠ null := by
  rw [present?]
  cases value.field? name with
  | none => simp
  | some given => cases given <;> simp <;> grind

end Json

namespace Shape

variable {shapes : List (String × Shape)} {value target change : Json} {name : String}

theorem admitsAll_iff : admitsAll shapes value = true ↔
    ∀ e ∈ shapes, ∀ part, value.present? e.1 = some part → e.2.admits part = true := by
  induction shapes with
  | nil => simp [admitsAll]
  | cons e rest ih =>
    obtain ⟨name, shape⟩ := e
    rw [admitsAll, Bool.and_eq_true, ih, List.forall_mem_cons]
    cases value.present? name <;> simp

theorem admits_record_iff : (record shapes).admits value = true ↔
    ∃ fields, value = .object fields ∧
      ∀ e ∈ shapes, ∀ part, value.present? e.1 = some part → e.2.admits part = true := by
  rw [← admitsAll_iff]
  cases value <;> simp [admits]

/-- A record whose field is patched to what has the shape of the field is a record of the same
    shape, also if there was none before. -/
theorem admits_record_patched (given : change ≠ .null)
    (before : target = .null ∨ (record shapes).admits target = true)
    (fits : ∀ shape, (name, shape) ∈ shapes →
      shape.admits (((target.field? name).getD .null).patched change) = true) :
    (record shapes).admits (target.patched (.object [(name, change)])) = true := by
  refine admits_record_iff.2 ⟨_, patched_object target _, fun e he part present => ?_⟩
  obtain ⟨found, filled⟩ := present?_eq_some_iff.1 present
  rw [field?_patched given] at found
  split at found
  · rename_i same
    cases found
    exact fits e.2 (same ▸ he)
  · obtain rfl | admitted := before
    · cases found
    · obtain ⟨_, -, each⟩ := admits_record_iff.1 admitted
      exact each e he part (present?_eq_some_iff.2 ⟨found, filled⟩)

end Shape

namespace Objects

variable {value : Json} {t : Table String} {fields : List (String × Json)} {key content : String}

/-! ## Tables of texts -/

theorem exists_textFields?_iff : (∃ given, textFields? fields = some given) ↔
    ∀ field ∈ fields, ∃ content, field.2 = .text content := by
  induction fields with
  | nil => simp [textFields?]
  | cons field fields ih =>
    obtain ⟨name, value⟩ := field
    rw [List.forall_mem_cons, ← ih, ← Option.isSome_iff_exists, ← Option.isSome_iff_exists]
    cases value <;> simp [textFields?]

theorem exists_texts?_iff : (∃ t, texts? value = some t) ↔
    ∃ fields, value = .object fields ∧ ∀ field ∈ fields, ∃ content, field.2 = .text content := by
  cases value with
  | object fields =>
    simp only [Json.object.injEq, exists_eq_left', ← exists_textFields?_iff,
      ← Option.isSome_iff_exists, texts?, Option.isSome_map]
  | _ => simp [texts?]

/-- A map of texts is what a table of texts is read of. -/
theorem admits_texts_iff : (Shape.map .text).admits value = true ↔ ∃ t, texts? value = some t := by
  rw [exists_texts?_iff]
  cases value with
  | object fields =>
    simp only [Shape.admits, List.all_eq_true, Json.object.injEq, exists_eq_left']
    refine forall_congr' fun field => forall_congr' fun _ => ?_
    cases field.2 <;> simp [Json.text?]
  | _ => simp [Shape.admits]

/-- A value holds the texts of a table, where null holds none. -/
def HoldsTexts (value : Json) (t : Table String) : Prop :=
  value = .null ∧ t = Table.empty ∨ texts? value = some t

theorem HoldsTexts.get? (holds : HoldsTexts value t) (key : String) :
    t.get? key = (value.field? key).bind text? := by
  obtain ⟨rfl, rfl⟩ | read := holds
  · rfl
  · exact get?_of_texts? read key

theorem HoldsTexts.texts (holds : HoldsTexts value t) :
    ∀ field ∈ value.fields?.getD [], ∃ content, field.2 = .text content := by
  obtain ⟨rfl, rfl⟩ | read := holds
  · exact List.forall_mem_nil _
  · obtain ⟨fields, rfl, each⟩ := exists_texts?_iff.1 ⟨t, read⟩
    exact each

theorem mem_setField {field : String × Json} (h : field ∈ setField key value fields) :
    field = (key, value) ∨ field ∈ fields := by
  induction fields with
  | nil => exact .inl (List.mem_singleton.1 h)
  | cons first rest ih =>
    rw [setField] at h
    split at h
    · obtain rfl | h := List.mem_cons.1 h
      · exact .inl rfl
      · exact .inr (List.mem_cons_of_mem _ (List.mem_filter.1 h).1)
    · obtain rfl | h := List.mem_cons.1 h
      · exact .inr List.mem_cons_self
      · exact (ih h).imp_right (List.mem_cons_of_mem _)

/-- What is read of an object of texts is told by its look-ups. -/
theorem texts?_eq_some_of_get? (each : ∀ field ∈ fields, ∃ content, field.2 = .text content)
    (same : ∀ key, t.get? key = ((Json.object fields).field? key).bind text?) :
    texts? (.object fields) = some t := by
  obtain ⟨read, found⟩ := exists_texts?_iff.2 ⟨fields, rfl, each⟩
  rw [found, Table.ext_get? fun key => (get?_of_texts? found key).trans (same key).symm]

/-- A text that is patched in is an entry of the table. -/
theorem HoldsTexts.patched (holds : HoldsTexts value t) (key content : String) :
    texts? (value.patched (.object [(key, .text content)])) = some (t.insert key content) := by
  have set : value.patched (.object [(key, .text content)]) =
      .object (setField key (.text content) (value.fields?.getD [])) := by
    rw [patched_object, patchedFields, patchedFields]
    · rfl
    · simp
  rw [set]
  refine texts?_eq_some_of_get? (fun field h => ?_) fun other => ?_
  · obtain rfl | h := mem_setField h
    · exact ⟨content, rfl⟩
    · exact holds.texts field h
  · rw [← set, field?_patched (by simp), Table.get?_insert, holds.get?]
    split <;> rfl

/-- A null that is patched in removes an entry. -/
theorem HoldsTexts.patched_null (holds : HoldsTexts value t) (key : String) :
    texts? (value.patched (.object [(key, .null)])) = some (t.erase key) := by
  have gone : value.patched (.object [(key, .null)]) =
      .object (withoutField key (value.fields?.getD [])) := by
    rw [patched_object, patchedFields, patchedFields]
  rw [gone]
  refine texts?_eq_some_of_get? (fun field h => holds.texts field (List.mem_filter.1 h).1)
    fun other => ?_
  rw [← gone, field?_patched_null, Table.get?_erase, holds.get?]
  split <;> rfl

/-! ## Metadata -/

theorem present?_of_absentOr_text? {given : Option String}
    (read : absentOr key text? value = some given) : value.present? key = given.map .text := by
  rw [absentOr] at read
  cases found : value.present? key with
  | none =>
    rw [found] at read
    cases read
    rfl
  | some part =>
    rw [found] at read
    cases part <;> cases read
    rfl

theorem holdsTexts_of_absentOr {m : Json} {labels : Option (Table String)}
    (read : absentOr "labels" texts? m = some labels) :
    HoldsTexts ((m.field? "labels").getD .null) (labels.getD Table.empty) := by
  by_cases absent : (m.field? "labels").getD .null = .null
  · rw [absentOr_of_null absent] at read
    cases read
    exact .inl ⟨absent, rfl⟩
  · cases found : m.field? "labels" with
    | none => exact absurd (by rw [found]; rfl) absent
    | some part =>
      rw [found] at absent
      rw [absentOr_of_given found absent] at read
      obtain ⟨t, given, rfl⟩ := Option.map_eq_some_iff.1 read
      exact .inr given

/-- What is read of the metadata of an object. -/
structure ReadsWhole (m : Json) (md : Metadata) : Prop extends Reads m md where
  annotations : absentOr "annotations" texts? m = some md.annotations
  version : absentOr "resourceVersion" text? m = some md.version

variable {m m' : Json} {md : Metadata} {labels : Table String}

theorem metadata?_eq_some_iff : metadata? value = some md ↔
    ∃ part, absentOr "metadata" object? value = some part ∧
      ReadsWhole (part.getD (.object [])) md := by
  simp only [metadata?, Option.bind_eq_bind, Option.bind_eq_some_iff, Option.pure_def,
    Option.some.injEq]
  constructor
  · rintro ⟨part, found, name, named, generated, named', uid, hasUid, labels, labelled,
      annotations, annotated, version, versioned, rfl⟩
    exact ⟨part, found, ⟨⟨name, generated, named, named', rfl⟩, hasUid, labels, labelled, rfl⟩,
      annotated, versioned⟩
  · rintro ⟨part, found, ⟨⟨name, generated, named, named', isNamed⟩, hasUid, labels, labelled,
      isLabelled⟩, annotated, versioned⟩
    refine ⟨part, found, name, named, generated, named', _, hasUid, labels, labelled, _, annotated,
      _, versioned, ?_⟩
    rw [← isNamed, ← isLabelled]

/-- Metadata of which the labels were changed. -/
theorem ReadsWhole.relabeled (whole : ReadsWhole m md)
    (others : ∀ key ≠ "labels", m'.field? key = m.field? key)
    (labelled : absentOr "labels" texts? m' = some (some labels)) :
    ReadsWhole m' { md with labels } := by
  have same {α : Type} (key : String) (other : key ≠ "labels") (decode : Json → Option α) :
      absentOr key decode m' = absentOr key decode m := absentOr_congr (others key other) decode
  obtain ⟨name, generated, named, named', isNamed⟩ := whole.named
  exact {
    named := ⟨name, generated, (same _ (by decide) _).trans named,
      (same _ (by decide) _).trans named', isNamed⟩
    uid := (same _ (by decide) _).trans whole.uid
    labels := ⟨some labels, labelled, rfl⟩
    annotations := (same _ (by decide) _).trans whole.annotations
    version := (same _ (by decide) _).trans whole.version }

/-- The labels of an object, as they are written. -/
def labelsField (value : Json) : Json := ((metadataField value).field? "labels").getD .null

theorem holdsTexts_of_metadata? (read : metadata? value = some md) :
    HoldsTexts (labelsField value) md.labels := by
  obtain ⟨given, labelled, isLabelled⟩ := (reads_of_metadata? read).labels
  rw [isLabelled]
  exact holdsTexts_of_absentOr labelled

/-- Of the metadata of an object whose labels are patched, the labels change. -/
theorem metadata?_patched {changes : List (String × Json)} (read : metadata? value = some md)
    (patched : ∀ before, HoldsTexts before md.labels →
      texts? (before.patched (.object changes)) = some labels) :
    metadata? (value.patched (.object [("metadata", .object [("labels", .object changes)])])) =
      some { md with labels } := by
  obtain ⟨part, found, whole⟩ := metadata?_eq_some_iff.1 read
  obtain ⟨fields, isPatched⟩ : ∃ fields, (metadataField value).patched
      (.object [("labels", .object changes)]) = .object fields := ⟨_, patched_object _ _⟩
  have set : (value.patched
      (.object [("metadata", .object [("labels", .object changes)])])).field? "metadata" =
        some (.object fields) := by
    rw [field?_patched (by simp), if_pos rfl, ← metadataField, isPatched]
  have each (key : String) : (Json.object fields).field? key =
      if key = "labels" then some ((labelsField value).patched (.object changes))
      else (part.getD (.object [])).field? key := by
    rw [← isPatched, field?_patched (by simp), labelsField, field?_of_absentOr_object? found,
      ← metadataField]
  have labelled := each "labels"
  rw [if_pos rfl] at labelled
  refine metadata?_eq_some_iff.2 ⟨some (.object fields), ?_,
    whole.relabeled (fun key other => ?_) ?_⟩
  · exact absentOr_of_given set (by simp) object?
  · exact (each key).trans (if_neg other)
  · rw [Option.getD_some, absentOr_of_given labelled (by rw [patched_object]; simp),
      patched _ (holdsTexts_of_metadata? read), Option.map_some]

end Objects

/-! ## Pods -/

namespace Pod

variable {value : Json} {pod : Pod}

/-- A pod with its seed label changed. -/
def relabeled (pod : Pod) (change : String × Seeding.LabelChange) : Pod :=
  { pod with metadata := { pod.metadata with
      labels := match change.2 with
        | .add => pod.metadata.labels.insert Labels.seedKey change.1
        | .remove => pod.metadata.labels.erase Labels.seedKey } }

theorem decode_eq_some_iff : decode value = some pod ↔
    Shape.pod.admits value = true ∧ metadata? value = some pod.metadata ∧
      ∃ spec status, absentOr "spec" object? value = some spec ∧
        absentOr "status" object? value = some status ∧
        absentOr "nodeName" text? (spec.getD (.object [])) = some pod.nodeName ∧
        absentOr "podIP" text? (status.getD (.object [])) = some pod.podIp ∧
        absentOr "containerStatuses" (list? containerReady?) (status.getD (.object [])) =
          some pod.containersReady := by
  simp only [decode, Option.bind_eq_bind, Option.bind_eq_some_iff, Option.pure_def,
    Option.some.injEq, Option.guard_eq_some', exists_and_left, exists_const]
  refine and_congr_right fun _ => ?_
  constructor
  · rintro ⟨_, metadata, spec, hasSpec, status, hasStatus, _, node, _, ip, _, containers, rfl⟩
    exact ⟨metadata, spec, hasSpec, status, hasStatus, node, ip, containers⟩
  · rintro ⟨metadata, spec, hasSpec, status, hasStatus, node, ip, containers⟩
    exact ⟨_, metadata, spec, hasSpec, status, hasStatus, _, node, _, ip, _, containers, rfl⟩

/-- A pod whose labels are patched keeps its shape. -/
theorem admits_patched {changes : List (String × Json)} (admitted : Shape.pod.admits value = true)
    (patched : ∃ t, texts? ((labelsField value).patched (.object changes)) = some t) :
    Shape.pod.admits
      (value.patched (.object [("metadata", .object [("labels", .object changes)])])) = true := by
  have same {name : String} (other : name ≠ "metadata") (expected : String) :
      Shape.matchesText name expected
        (value.patched (.object [("metadata", .object [("labels", .object changes)])])) =
          Shape.matchesText name expected value := by
    rw [Shape.matchesText, Shape.matchesText, field?_patched_metadata value _ other]
  rw [Shape.pod, Shape.admits, Bool.and_eq_true, Bool.and_eq_true] at admitted ⊢
  obtain ⟨expected, record⟩ := admitted
  refine ⟨by rwa [same (by decide), same (by decide)], ?_⟩
  obtain ⟨_, -, each⟩ := Shape.admits_record_iff.1 record
  refine Shape.admits_record_patched (by simp) (.inr record) fun shape h => ?_
  obtain rfl : shape = Shape.metadata := by simpa using h
  refine Shape.admits_record_patched (by simp) ?_ fun shape h => ?_
  · refine or_iff_not_imp_left.2 fun given => ?_
    cases found : value.field? "metadata" with
    | none => exact absurd (by rw [found]; rfl) given
    | some m =>
      rw [found] at given
      exact each (_, Shape.metadata) List.mem_cons_self m (present?_eq_some_iff.2 ⟨found, given⟩)
  · obtain rfl : shape = .map .text := by
      simpa [Shape.texts, Shape.textMaps, Shape.textLists, Shape.times, Shape.longs,
        Shape.each] using h
    exact admits_texts_iff.2 patched

/-- A pod whose seed label is patched is the pod with its seed label changed. -/
theorem decode_patched (h : decode value = some pod) (change : String × Seeding.LabelChange) :
    decode (value.patched (Reconcile.labelPatch change)) = some (pod.relabeled change) := by
  obtain ⟨admitted, read, spec, status, hasSpec, hasStatus, node, ip, containers⟩ :=
    decode_eq_some_iff.1 h
  have same {name : String} (other : name ≠ "metadata") :
      (value.patched (Reconcile.labelPatch change)).field? name = value.field? name :=
    field?_patched_metadata value _ other
  have labels (before : Json) (holds : HoldsTexts before pod.metadata.labels) :
      texts? (before.patched (.object [(Labels.seedKey, Reconcile.seedValue change)])) =
        some (pod.relabeled change).metadata.labels := by
    obtain ⟨name, _ | _⟩ := change
    · exact holds.patched _ _
    · exact holds.patched_null _
  refine decode_eq_some_iff.2 ⟨?_, metadata?_patched read labels, spec, status, ?_, ?_, node, ip,
    containers⟩
  · exact admits_patched admitted ⟨_, labels _ (holdsTexts_of_metadata? read)⟩
  · rwa [absentOr_congr (same (by decide))]
  · rwa [absentOr_congr (same (by decide))]

end Pod

end RingOperator
