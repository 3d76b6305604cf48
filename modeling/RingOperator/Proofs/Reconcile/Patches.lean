import RingOperator.Proofs.Objects.Patched
import RingOperator.Proofs.Reconcile.Repeat
import RingOperator.Proofs.Seeding

/-!
# The snapshot in memory and the patched pods

A pass that has sent its patches of seed labels does not list the pods again: it changes
the labels in the snapshot that it has. That is what it would find if it listed them
(`rebuilt_after_patches`). Each patch goes to the object of its name (`patchedBy`), which
stays the object of a pod of this name (`Pod.decode_patchedBy`), and the member that the
pod is changes as the member in the snapshot does (`Member.ofPod?_relabeledBy`).
-/

namespace RingOperator

open Json Objects Seeding

/-! ## Patches by name -/

namespace Reconcile

variable {object : Json} {change : String × LabelChange}
  {changes : List (String × LabelChange)}

theorem present?_metadata (object : Json) :
    (object.present? "metadata").getD .null = metadataField object := by
  rw [present?, metadataField]
  cases object.field? "metadata" with
  | none => rfl
  | some m => cases m <;> rfl

/-- A patch of the seed label keeps the name. -/
theorem nameOf_patched (object : Json) (change : String × LabelChange) :
    Api.Server.nameOf (object.patched (labelPatch change)) = Api.Server.nameOf object := by
  have same (key : String) (other : key ≠ "labels") :
      (metadataField (object.patched (labelPatch change))).present? key =
        (metadataField object).present? key := by
    rw [present?, labelPatch_eq, metadataField_patched, field?_patched (by simp), if_neg other,
      ← present?]
  simp only [Api.Server.nameOf, present?_metadata, same "name" (by decide),
    same "generateName" (by decide)]

/-- An object after a patch of a seed label, which is sent to it if it has the name. -/
def patchedFor (change : String × LabelChange) (object : Json) : Json :=
  if Api.Server.nameOf object = change.1 then object.patched (labelPatch change) else object

/-- An object after patches of seed labels, one after another. -/
def patchedBy (changes : List (String × LabelChange)) (object : Json) : Json :=
  changes.foldl (fun object change => patchedFor change object) object

/-- Patches that are sent to others leave an object alone. -/
theorem patchedBy_of_forall (others : ∀ change ∈ changes, Api.Server.nameOf object ≠ change.1) :
    patchedBy changes object = object := by
  induction changes with
  | nil => rfl
  | cons change rest ih =>
    obtain ⟨first, later⟩ := List.forall_mem_cons.1 others
    rw [patchedBy, List.foldl_cons, patchedFor, if_neg first]
    exact ih later

/-- Of patches that are sent to different names, the one of its name is done to an object. -/
theorem patchedBy_of_mem (distinct : (changes.map (·.1)).Nodup) (sent : change ∈ changes)
    (named : Api.Server.nameOf object = change.1) :
    patchedBy changes object = object.patched (labelPatch change) := by
  induction changes with
  | nil => cases sent
  | cons first rest ih =>
    rw [List.map_cons, List.nodup_cons, List.mem_map] at distinct
    obtain ⟨fresh, distinct⟩ := distinct
    rw [patchedBy, List.foldl_cons, ← patchedBy, patchedFor]
    obtain rfl | later := List.mem_cons.1 sent
    · rw [if_pos named]
      refine patchedBy_of_forall fun other h same => fresh ⟨other, h, ?_⟩
      rw [← same, nameOf_patched, named]
    · rw [if_neg fun same => fresh ⟨change, later, named.symm.trans same⟩]
      exact ih distinct later

end Reconcile

/-! ## The pods of patched objects -/

namespace Pod

variable {value : Json} {pod : Pod}

/-- The name of a pod is that of its object. -/
theorem nameOf_of_decode (h : decode value = some pod) :
    Api.Server.nameOf value = pod.metadata.name := by
  obtain ⟨name, generated, named, named', same⟩ := (reads_of_decode h).named
  rw [Api.Server.nameOf, Reconcile.present?_metadata, same]
  simp only [present?_of_absentOr_text? named, present?_of_absentOr_text? named']
  cases name <;> cases generated <;> rfl

/-- A pod after a change of a seed label, which concerns it if it has the name. -/
def relabeledFor (change : String × LabelChange) (pod : Pod) : Pod :=
  if pod.metadata.name = change.1 then pod.relabeled change else pod

/-- A pod after changes of seed labels, one after another. -/
def relabeledBy (changes : List (String × LabelChange)) (pod : Pod) : Pod :=
  changes.foldl (fun pod change => pod.relabeledFor change) pod

theorem decode_patchedFor (h : decode value = some pod) (change : String × LabelChange) :
    decode (Reconcile.patchedFor change value) = some (pod.relabeledFor change) := by
  rw [Reconcile.patchedFor, relabeledFor, nameOf_of_decode h]
  split
  · exact decode_patched h change
  · exact h

/-- The patched object of a pod is that of the pod with its label changed. -/
theorem decode_patchedBy (h : decode value = some pod) (changes : List (String × LabelChange)) :
    decode (Reconcile.patchedBy changes value) = some (pod.relabeledBy changes) := by
  induction changes generalizing value pod with
  | nil => exact h
  | cons change rest ih => exact ih (decode_patchedFor h change)

end Pod

namespace Member

/-- A pod with its seed label changed is the same member, but for the label. -/
theorem ofPod?_relabeled (pod : Pod) (change : String × LabelChange) :
    ofPod? (pod.relabeled change) =
      (ofPod? pod).map fun m => { m with seed := change.2 = .add } := by
  have labels (key : String) : (pod.relabeled change).metadata.labels.get? key =
      if key = Labels.seedKey then (if change.2 = .add then some change.1 else none)
      else pod.metadata.labels.get? key := by
    obtain ⟨name, _ | _⟩ := change
    · exact Table.get?_insert _ _ _ _
    · exact Table.get?_erase _ _ _
  have seed : (pod.relabeled change).metadata.labels.contains Labels.seedKey =
      (change.2 = .add : Bool) := by
    rw [Table.contains, labels, if_pos rfl]
    split <;> simp [*]
  have dc : (pod.relabeled change).metadata.labels.get? Labels.datacenterKey =
      pod.metadata.labels.get? Labels.datacenterKey := by
    rw [labels, if_neg (by decide)]
  have name : (pod.relabeled change).metadata.name = pod.metadata.name := rfl
  simp only [ofPod?, seed, dc, name]
  cases pod.metadata.labels.get? Labels.datacenterKey <;>
    cases Naming.ordinal? pod.metadata.name <;> rfl

theorem ofPod?_relabeledFor (pod : Pod) (change : String × LabelChange) :
    ofPod? (pod.relabeledFor change) = (ofPod? pod).map (touch change) := by
  have touched : ∀ m ∈ ofPod? pod, touch change m =
      if pod.metadata.name = change.1 then { m with seed := change.2 = .add } else m :=
    fun m h => by rw [touch, name_of_ofPod? h]
  rw [Option.map_congr touched, Pod.relabeledFor]
  split
  · exact ofPod?_relabeled pod change
  · exact Option.map_id_apply.symm

/-- A pod after changes of seed labels is the member after them. -/
theorem ofPod?_relabeledBy (pod : Pod) (changes : List (String × LabelChange)) :
    ofPod? (pod.relabeledBy changes) = (ofPod? pod).map (carry changes) := by
  induction changes generalizing pod with
  | nil => exact Option.map_id_apply.symm
  | cons change rest ih =>
    rw [Pod.relabeledBy, List.foldl_cons, ← Pod.relabeledBy, ih, ofPod?_relabeledFor,
      Option.map_map]
    rfl

end Member

/-! ## The snapshot -/

/-- Members of different names need changes of different names. -/
theorem Seeding.nodup_labelChanges {members : List Member}
    (distinct : (members.map (·.name)).Nodup) (spec : Spec) (cluster : String) :
    ((labelChanges spec cluster members).map (·.1)).Nodup := by
  rw [List.Nodup, List.pairwise_map] at distinct ⊢
  refine distinct.filterMap _ fun m m' apart change needs change' needs' => ?_
  rw [name_of_changeFor needs, name_of_changeFor needs']
  exact apart

namespace Reconcile

variable {l : Listing} {objects : List Json} {pods : List Pod}

theorem Listing.nodup_members (distinct : (l.pods.map (·.metadata.name)).Nodup) (spec : Spec)
    (cluster : String) : ((l.view spec cluster).members.map (·.name)).Nodup :=
  ((Snapshot.arrange_perm _).map _).nodup_iff.2 (Member.nodup_names distinct)

/-- The members of pods with their labels changed are the members with their labels changed. -/
theorem Listing.members_relabeledBy (l : Listing) (spec : Spec) (cluster : String)
    (changes : List (String × LabelChange)) :
    ({ l with pods := l.pods.map (Pod.relabeledBy changes) }.view spec cluster).members =
      (l.view spec cluster).members.map (carry changes) := by
  have members : (l.pods.map (Pod.relabeledBy changes)).filterMap Member.ofPod? =
      (l.pods.filterMap Member.ofPod?).map (carry changes) := by
    rw [List.filterMap_map, List.map_filterMap]
    exact List.filterMap_congr fun pod _ => Member.ofPod?_relabeledBy pod changes
  rw [Listing.view, Snapshot.ofObjects, Snapshot.of, members]
  exact Snapshot.arrange_map (name_carry _) _

/-- Each change that is due is due to an object, which has the name. -/
theorem exists_object_of_change (decoded : all? Pod.decode objects = some l.pods) {spec : Spec}
    {cluster : String} {change : String × LabelChange} (due : change ∈ l.changes spec cluster) :
    ∃ object ∈ objects, Api.Server.nameOf object = change.1 := by
  obtain ⟨m, among, needs⟩ := List.mem_filterMap.1 due
  obtain ⟨pod, listed, gives⟩ :=
    List.mem_filterMap.1 ((Snapshot.arrange_perm _).mem_iff.1 among)
  have read : some pod ∈ objects.map Pod.decode := by
    rw [map_of_all?_eq_some decoded]
    exact List.mem_map_of_mem listed
  obtain ⟨object, given, decodes⟩ := List.mem_map.1 read
  refine ⟨object, given, ?_⟩
  rw [Pod.nameOf_of_decode decodes, ← Member.name_of_ofPod? gives, name_of_changeFor needs]

theorem all?_patchedBy (decoded : all? Pod.decode objects = some pods)
    (changes : List (String × LabelChange)) :
    all? Pod.decode (objects.map (patchedBy changes)) =
      some (pods.map (Pod.relabeledBy changes)) := by
  induction objects generalizing pods with
  | nil =>
    cases decoded
    rfl
  | cons object rest ih =>
    obtain ⟨pod, first, more⟩ := Option.bind_eq_some_iff.1 decoded
    obtain ⟨others, later, same⟩ := Option.bind_eq_some_iff.1 more
    cases same
    rw [List.map_cons, all?, Pod.decode_patchedBy first, ih later]
    rfl

/-- The labels that a pass changes in its snapshot are those that it would find if it listed the
    pods again after its patches. Each patch goes to an object of its name and does there what it
    says, objects of other names stay as they are, and what can be read of all of them gives the
    snapshot with its labels changed, to which no change is due. The pods have to differ in their
    names. -/
theorem rebuilt_after_patches (decoded : all? Pod.decode objects = some l.pods)
    (distinct : (l.pods.map (·.metadata.name)).Nodup) (spec : Spec) (cluster : String) :
    (∀ change ∈ l.changes spec cluster, ∃ object ∈ objects,
      Api.Server.nameOf object = change.1) ∧
    (∀ object ∈ objects, ∀ change ∈ l.changes spec cluster,
      Api.Server.nameOf object = change.1 →
        patchedBy (l.changes spec cluster) object = object.patched (labelPatch change)) ∧
    (∀ object ∈ objects, Api.Server.nameOf object ∉ (l.changes spec cluster).map (·.1) →
      patchedBy (l.changes spec cluster) object = object) ∧
    ∃ pods, all? Pod.decode (objects.map (patchedBy (l.changes spec cluster))) = some pods ∧
      { l with pods }.view spec cluster = l.settled spec cluster ∧
      { l with pods }.changes spec cluster = [] := by
  have apart := l.nodup_members distinct spec cluster
  have members := l.members_relabeledBy spec cluster (l.changes spec cluster)
  refine ⟨fun change due => exists_object_of_change decoded due,
    fun object _ change due named => ?_, fun object _ unnamed => ?_, _, all?_patchedBy decoded _,
    ?_, ?_⟩
  · exact patchedBy_of_mem (nodup_labelChanges apart spec cluster) due named
  · exact patchedBy_of_forall fun change due named =>
      unnamed (named ▸ List.mem_map_of_mem due)
  · rw [Listing.settled, Snapshot.relabeled, foldl_relabel apart, ← members]
    rfl
  · rw [Listing.changes, members]
    exact labelChanges_carry apart spec cluster

/-- Of the objects of three pods, one of which is none of the cluster, the two whose labels are
    astray are patched, which exchanges the labels. -/
theorem rebuilt_after_patches_stray :
    let bystander := podObject "c-backup" "10.0.0.9" [(Labels.seedKey, .text "c-backup")]
    let objects := bystander :: strayPods.map (·.2)
    ∃ pods pods', all? Pod.decode objects = some pods ∧
      (pods.map (·.metadata.name)).Nodup ∧
      Listing.changes ⟨pods, [], []⟩ pair.spec "c" =
        [("c-cassandra-dc-0", .add), ("c-cassandra-dc-1", .remove)] ∧
      all? Pod.decode (objects.map
        (patchedBy [("c-cassandra-dc-0", .add), ("c-cassandra-dc-1", .remove)])) = some pods' ∧
      patchedBy [("c-cassandra-dc-0", .add), ("c-cassandra-dc-1", .remove)] bystander =
        bystander ∧
      Listing.view ⟨pods', [], []⟩ pair.spec "c" = Listing.settled ⟨pods, [], []⟩ pair.spec "c" ∧
      Listing.changes ⟨pods', [], []⟩ pair.spec "c" = [] := by
  intro bystander objects
  have all : (all? Pod.decode objects).map (fun pods =>
      (pods.map (·.metadata.name), Listing.changes ⟨pods, [], []⟩ pair.spec "c")) =
        some (["c-backup", "c-cassandra-dc-0", "c-cassandra-dc-1"],
          [("c-cassandra-dc-0", .add), ("c-cassandra-dc-1", .remove)]) := by
    decide +kernel
  obtain ⟨pods, decoded, found⟩ := Option.map_eq_some_iff.1 all
  obtain ⟨names, changes⟩ := Prod.mk.inj found
  have distinct : (pods.map (·.metadata.name)).Nodup := by
    rw [names]
    decide
  obtain ⟨-, -, others, pods', again, view, rest⟩ :=
    rebuilt_after_patches (l := ⟨pods, [], []⟩) decoded distinct pair.spec "c"
  rw [changes] at others again
  exact ⟨pods, pods', decoded, distinct, changes, again,
    others bystander List.mem_cons_self (by decide +kernel), view, rest⟩

end Reconcile

end RingOperator
