import RingOperator.Api.Server
import RingOperator.Proofs.Json.Fields
import RingOperator.Reconcile

/-!
# Objects as they come back

What is read of an object after the server has written it. A pod whose seed label was
patched is the same member as before, but for the label (`Reconcile.ofPod?_relabeled`).
A config map that was written holds the data that it was written with
(`ConfigMap.data_of_written`).
-/

namespace RingOperator

open Json Objects

namespace Objects

variable {value m m' : Json} {md md' : Metadata}

/-- A part that is an object, or absent, has the fields of the field. -/
theorem field?_of_absentOr_object? {name : String} {part : Option Json}
    (h : absentOr name object? value = some part) (key : String) :
    (part.getD (.object [])).field? key = ((value.field? name).getD .null).field? key := by
  rw [absentOr, present?] at h
  cases found : value.field? name with
  | none =>
    rw [found] at h
    cases h
    rfl
  | some given =>
    rw [found] at h
    cases given <;> cases h <;> rfl

/-- The metadata of an object, null if they are missing. -/
def metadataField (value : Json) : Json := (value.field? "metadata").getD .null

/-- What is read of the metadata of an object, as far as it does not change with the version. -/
structure Reads (m : Json) (md : Metadata) : Prop where
  named : ∃ name generated, absentOr "name" text? m = some name ∧
    absentOr "generateName" text? m = some generated ∧
    md.name = (name.orElse fun _ => generated).getD ""
  uid : absentOr "uid" text? m = some md.uid
  labels : ∃ labels, absentOr "labels" texts? m = some labels ∧
    md.labels = labels.getD Table.empty

theorem reads_of_metadata? (h : metadata? value = some md) : Reads (metadataField value) md := by
  simp only [metadata?, Option.bind_eq_bind, Option.bind_eq_some_iff, Option.pure_def,
    Option.some.injEq] at h
  obtain ⟨part, found, name, named, generated, named', uid, hasUid, labels, labelled, annotations,
    -, version, -, rfl⟩ := h
  have same {α : Type} (key : String) (decode : Json → Option α) :
      absentOr key decode (part.getD (.object [])) = absentOr key decode (metadataField value) :=
    absentOr_congr (field?_of_absentOr_object? found key) decode
  rw [same] at named named' hasUid labelled
  exact ⟨⟨name, generated, named, named', rfl⟩, hasUid, labels, labelled, rfl⟩

theorem Reads.name_eq (reads : Reads m md) (reads' : Reads m' md')
    (named : m.field? "name" = m'.field? "name")
    (generated : m.field? "generateName" = m'.field? "generateName") : md.name = md'.name := by
  obtain ⟨name, generatedName, first, second, same⟩ := reads.named
  obtain ⟨name', generatedName', first', second', same'⟩ := reads'.named
  rw [absentOr_congr named, first'] at first
  rw [absentOr_congr generated, second'] at second
  cases first
  cases second
  rw [same, same']

theorem Reads.uid_eq (reads : Reads m md) (reads' : Reads m' md')
    (same : m.field? "uid" = m'.field? "uid") : md.uid = md'.uid := by
  have first := reads.uid
  rw [absentOr_congr same, reads'.uid] at first
  exact (Option.some.inj first).symm

/-- A label is looked up in the labels as they are written. -/
theorem Reads.get?_labels (reads : Reads m md) (key : String) :
    md.labels.get? key = (((m.field? "labels").getD .null).field? key).bind text? := by
  obtain ⟨labels, read, same⟩ := reads.labels
  rw [same]
  by_cases absent : (m.field? "labels").getD .null = .null
  · rw [absentOr_of_null absent] at read
    cases read
    rw [absent]
    rfl
  · cases found : m.field? "labels" with
    | none => exact absurd (by rw [found]; rfl) absent
    | some part =>
      rw [found] at absent
      rw [absentOr_of_given found absent] at read
      obtain ⟨t, given, rfl⟩ := Option.map_eq_some_iff.1 read
      exact get?_of_texts? given key

section Patched

variable (object : Json) (fields : List (String × Json))

/-- A merge patch of metadata merges into the metadata. -/
theorem metadataField_patched :
    metadataField (object.patched (.object [("metadata", .object fields)])) =
      (metadataField object).patched (.object fields) := by
  rw [metadataField, field?_patched (by simp), if_pos rfl, Option.getD_some, metadataField]

/-- It leaves all other fields alone. -/
theorem field?_patched_metadata {name : String} (other : name ≠ "metadata") :
    (object.patched (.object [("metadata", .object fields)])).field? name =
      object.field? name := by
  rw [field?_patched (by simp), if_neg other]

end Patched

end Objects

/-! ## Pods -/

namespace Pod

variable {value value' : Json} {pod pod' : Pod}

theorem reads_of_decode (h : decode value = some pod) :
    Reads (metadataField value) pod.metadata := by
  obtain ⟨-, -, h⟩ := Option.bind_eq_some_iff.1 h
  obtain ⟨metadata, read, h⟩ := Option.bind_eq_some_iff.1 h
  simp only [Option.bind_eq_bind, Option.bind_eq_some_iff, Option.pure_def,
    Option.some.injEq] at h
  obtain ⟨_, _, _, _, _, _, _, _, _, _, rfl⟩ := h
  exact reads_of_metadata? read

/-- Objects that differ in their metadata only are pods that do so. -/
theorem eq_of_decode (h : decode value = some pod) (h' : decode value' = some pod')
    (same : ∀ name ≠ "metadata", value'.field? name = value.field? name) :
    pod' = { pod with metadata := pod'.metadata } := by
  obtain ⟨-, -, h⟩ := Option.bind_eq_some_iff.1 h
  obtain ⟨-, -, h'⟩ := Option.bind_eq_some_iff.1 h'
  simp only [Option.bind_eq_bind, Option.bind_eq_some_iff, Option.pure_def,
    Option.some.injEq] at h h'
  obtain ⟨_, -, spec, hasSpec, status, hasStatus, _, node, _, ip, _, containers, rfl⟩ := h
  obtain ⟨_, -, spec', hasSpec', status', hasStatus', _, node', _, ip', _, containers',
    rfl⟩ := h'
  -- The other parts are read from the same fields.
  rw [absentOr_congr (same "spec" (by decide)), hasSpec] at hasSpec'
  rw [absentOr_congr (same "status" (by decide)), hasStatus] at hasStatus'
  cases hasSpec'
  cases hasStatus'
  cases node.symm.trans node'
  cases ip.symm.trans ip'
  cases containers.symm.trans containers'
  rfl

end Pod

namespace Reconcile

/-- The seed label after a change. -/
def seedValue (change : String × Seeding.LabelChange) : Json :=
  match change.2 with
  | .add => .text change.1
  | .remove => .null

theorem labelPatch_eq (change : String × Seeding.LabelChange) : labelPatch change =
    .object [("metadata", .object [("labels",
      .object [(Labels.seedKey, seedValue change)])])] := rfl

/-- The object of a pod after its seed label was patched. -/
def relabeled (object : Json) (change : String × Seeding.LabelChange) (version : String) : Json :=
  Api.Server.withVersion version (object.patched (labelPatch change))

variable {object : Json} {change : String × Seeding.LabelChange} {version : String}
  {pod pod' : Pod}

theorem field?_relabeled {name : String} (other : name ≠ "metadata") :
    (relabeled object change version).field? name = object.field? name := by
  rw [relabeled, Api.Server.withVersion, field?_patched_metadata _ _ other, labelPatch_eq,
    field?_patched_metadata _ _ other]

theorem metadataField_relabeled {name : String} (other : name ≠ "resourceVersion") :
    (metadataField (relabeled object change version)).field? name =
      if name = "labels" then
        some ((((metadataField object).field? "labels").getD .null).patched
          (.object [(Labels.seedKey, seedValue change)]))
      else (metadataField object).field? name := by
  rw [relabeled, Api.Server.withVersion, metadataField_patched, field?_patched (by simp),
    if_neg other, labelPatch_eq, metadataField_patched, field?_patched (by simp)]

/-- Of the labels, the seed label follows the change, and all others stay. -/
theorem get?_labels_relabeled (h : Pod.decode object = some pod)
    (h' : Pod.decode (relabeled object change version) = some pod') (key : String) :
    pod'.metadata.labels.get? key =
      if key = Labels.seedKey then (if change.2 = .add then some change.1 else none)
      else pod.metadata.labels.get? key := by
  rw [(Pod.reads_of_decode h').get?_labels, (Pod.reads_of_decode h).get?_labels,
    metadataField_relabeled (by decide), if_pos rfl, Option.getD_some]
  obtain ⟨name, _ | _⟩ := change
  · have added : seedValue (name, .add) = .text name := rfl
    rw [added, field?_patched (by simp)]
    split <;> rfl
  · have removed : seedValue (name, .remove) = .null := rfl
    rw [removed, field?_patched_null]
    split <;> rfl

theorem name_relabeled (h : Pod.decode object = some pod)
    (h' : Pod.decode (relabeled object change version) = some pod') :
    pod'.metadata.name = pod.metadata.name :=
  (Pod.reads_of_decode h').name_eq (Pod.reads_of_decode h)
    (metadataField_relabeled (by decide)) (metadataField_relabeled (by decide))

/-- The pod is the same member, but for the seed label. -/
theorem ofPod?_relabeled (h : Pod.decode object = some pod)
    (h' : Pod.decode (relabeled object change version) = some pod') :
    Member.ofPod? pod' =
      (Member.ofPod? pod).map fun m => { m with seed := change.2 = .add } := by
  have name := name_relabeled h h'
  have uid : pod'.metadata.uid = pod.metadata.uid :=
    (Pod.reads_of_decode h').uid_eq (Pod.reads_of_decode h) (metadataField_relabeled (by decide))
  have labels := get?_labels_relabeled h h'
  have dc : pod'.metadata.labels.get? Labels.datacenterKey =
      pod.metadata.labels.get? Labels.datacenterKey := by
    rw [labels, if_neg (by decide)]
  have seed : pod'.metadata.labels.contains Labels.seedKey = (change.2 = .add : Bool) := by
    rw [Table.contains, labels, if_pos rfl]
    split <;> simp [*]
  rw [Pod.eq_of_decode h h' fun _ => field?_relabeled]
  simp only [Member.ofPod?, name, uid, dc, seed]
  cases pod.metadata.labels.get? Labels.datacenterKey <;>
    cases Naming.ordinal? pod.metadata.name <;> rfl

end Reconcile

/-! ## Config maps -/

/-- A config map that was written holds the data that it was written with. -/
theorem ConfigMap.data_of_written {draft : Api.Draft} {version : String} {map : ConfigMap}
    (h : ConfigMap.decode (Api.Server.withVersion version draft.encode) = some map) :
    map.data = some draft.data := by
  obtain ⟨-, -, h⟩ := Option.bind_eq_some_iff.1 h
  obtain ⟨_, -, h⟩ := Option.bind_eq_some_iff.1 h
  obtain ⟨data, read, same⟩ := Option.bind_eq_some_iff.1 h
  cases same
  have kept : (Api.Server.withVersion version draft.encode).field? "data" =
      some (Api.textTable draft.data) := field?_patched_metadata _ _ (by decide)
  rw [absentOr_of_given kept (by simp [Api.textTable]), texts?_textTable] at read
  exact (Option.some.inj read).symm

/-- A config map is created under its name. -/
theorem Api.Server.subject_create (space : String) (draft : Api.Draft) :
    subject { verb := .post, resource := .configMaps, space, body := draft.encode } =
      some draft.name := by
  obtain ⟨name, labels, _ | owner, _ | version, _ | annotations, data⟩ := draft <;> rfl

end RingOperator
