import RingOperator.Proofs.Reconcile.Parts
import RingOperator.Proofs.Scaling.Counts
import RingOperator.Proofs.Snapshot

/-!
# Listings in any order

The API server may list the objects of a cluster in any order. A listing and one
with the same objects in another order (`Listing.Reordered`) come to the same, if
no two objects of one kind share a name and no two StatefulSets a datacenter
(`Listing.Distinct`): a pass finds out the same from both of them, and goes on
alike (`Listing.same_pass_of_reordered`). Which nodes there are matters only where
hosts do, so a pass need not list them elsewhere.

All of it comes down to how the objects are kept: pods are arranged by their names
(`Snapshot.ofObjects_perm`), everything else is looked up in tables
(`Table.ofList_perm`).
-/

namespace RingOperator

/-- Whether a pass needs to know the hosts of its members. -/
def Spec.hostsMatter (spec : Spec) : Bool := spec.hostPort.enabled || spec.zonesAsRacks

/-! ## Objects in another order -/

theorem Snapshot.readyCounts_perm {sets sets' : List StatefulSet}
    (distinct : (sets.map (·.metadata.name)).Nodup) (perm : sets.Perm sets') :
    readyCounts sets = readyCounts sets' := by
  refine Table.ofList_perm ?_ (perm.map _)
  rwa [List.map_map]

theorem Snapshot.ofObjects_perm {pods pods' : List Pod} {sets sets' : List StatefulSet}
    (spec : Spec) (cluster : String) (distinctPods : (pods.map (·.metadata.name)).Nodup)
    (distinctSets : (sets.map (·.metadata.name)).Nodup) (permPods : pods.Perm pods')
    (permSets : sets.Perm sets') :
    ofObjects spec cluster pods sets = ofObjects spec cluster pods' sets' := by
  rw [ofObjects, ofObjects, of, of, countsOf, countsOf, readyCounts_perm distinctSets permSets,
    arrange_eq_of_perm (Member.nodup_names distinctPods) (permPods.filterMap _)]

theorem Directory.ofNodes_perm {nodes nodes' : List Node} (hostPort : HostPort)
    (distinct : (nodes.map (·.metadata.name)).Nodup) (perm : nodes.Perm nodes') :
    ofNodes hostPort nodes = ofNodes hostPort nodes' := by
  refine congrArg (Directory.mk hostPort) (Table.ofList_perm ?_ (perm.map _))
  rwa [List.map_map]

/-! ## Where hosts do not matter -/

/-- Where nodes do not use the network of their hosts, no node is looked at for addresses. -/
theorem Directory.addresses_ofNodes {hostPort : HostPort} (alone : hostPort.enabled = false)
    (nodes nodes' : List Node) (members : List Member) :
    (ofNodes hostPort nodes).addresses members = (ofNodes hostPort nodes').addresses members := by
  have each (m : Member) :
      (ofNodes hostPort nodes).address m = (ofNodes hostPort nodes').address m := by
    rw [address, address, ofNodes, ofNodes, alone]
    rfl
  simp only [addresses, each]

/-- Where zones are no racks, the hosts are not looked at for start-up entries. -/
theorem StartSheet.build_congr {spec : Spec} (unracked : spec.zonesAsRacks = false) (s : Snapshot)
    (d d' : Directory) (addresses : Table String) (seeds : List String)
    (decisions : Table Decision) (memory : Table String) :
    build spec s d addresses seeds decisions memory =
      build spec s d' addresses seeds decisions memory := by
  have each (m : Member) : factsOf spec d addresses seeds decisions memory m =
      factsOf spec d' addresses seeds decisions memory m := by
    simp only [factsOf, unracked, Bool.false_eq_true, if_false]
  simp only [build, each]

/-- Where hosts do not matter, a pass derives its facts without a look at the nodes. -/
theorem Pass.facts_ofNodes {spec : Spec} (free : spec.hostsMatter = false) (cluster : Identity)
    (s : Snapshot) (nodes nodes' : List Node) (memory : Table String) :
    facts spec cluster s (.ofNodes spec.hostPort nodes) memory =
      facts spec cluster s (.ofNodes spec.hostPort nodes') memory := by
  obtain ⟨alone, unracked⟩ := Bool.or_eq_false_iff.1 free
  simp only [facts, Directory.addresses_ofNodes alone nodes nodes',
    StartSheet.build_congr unracked s (.ofNodes spec.hostPort nodes)
      (.ofNodes spec.hostPort nodes')]

namespace Reconcile

namespace Listing

/-- Objects of one kind have different names, and StatefulSets different datacenters. Nodes count
    only where hosts matter. -/
structure Distinct (spec : Spec) (l : Listing) : Prop where
  pods : (l.pods.map (·.metadata.name)).Nodup
  sets : (l.sets.map (·.metadata.name)).Nodup
  datacenters : (l.sets.filterMap (·.datacenter?)).Nodup
  nodes : spec.hostsMatter = true → (l.nodes.map (·.metadata.name)).Nodup

/-- The same objects in another order. Where hosts do not matter, the nodes may be any. -/
structure Reordered (spec : Spec) (l l' : Listing) : Prop where
  pods : l.pods.Perm l'.pods
  sets : l.sets.Perm l'.sets
  nodes : spec.hostsMatter = true → l.nodes.Perm l'.nodes

/-- What a pass finds out from a listing. -/
structure Findings where
  /-- The members and the counts of the datacenters, with the seed labels as they are. -/
  view : Snapshot
  changes : List (String × Seeding.LabelChange)
  /-- For each memory of addresses, the facts of the members with their labels in line, and the
  start-up entries as they are written. -/
  facts : Table String → Regions.Exchange (PassFacts × Table String)
  intents : List Scaling.Intent

/-- What a pass finds out from a listing. -/
def findings (l : Listing) (spec : Spec) (cluster : Identity) : Findings where
  view := l.view spec cluster.name
  changes := l.changes spec cluster.name
  facts memory := do
    let found ← Pass.facts spec cluster (l.settled spec cluster.name) (l.directory spec) memory
    return (found, found.sheet.render)
  intents := Scaling.Intent.ofStatefulSets spec l.sets

variable {spec : Spec} {l l' : Listing}

theorem Reordered.view_eq (reordered : l.Reordered spec l') (distinct : l.Distinct spec)
    (cluster : String) : l.view spec cluster = l'.view spec cluster :=
  Snapshot.ofObjects_perm spec cluster distinct.pods distinct.sets reordered.pods reordered.sets

theorem Reordered.changes_eq (reordered : l.Reordered spec l') (distinct : l.Distinct spec)
    (cluster : String) : l.changes spec cluster = l'.changes spec cluster := by
  rw [changes, changes, reordered.view_eq distinct]

theorem Reordered.settled_eq (reordered : l.Reordered spec l') (distinct : l.Distinct spec)
    (cluster : String) : l.settled spec cluster = l'.settled spec cluster := by
  rw [settled, settled, reordered.view_eq distinct, reordered.changes_eq distinct]

theorem Reordered.intents_eq (reordered : l.Reordered spec l') (distinct : l.Distinct spec) :
    Scaling.Intent.ofStatefulSets spec l.sets = Scaling.Intent.ofStatefulSets spec l'.sets := by
  rw [Scaling.Intent.ofStatefulSets, Scaling.Intent.ofStatefulSets,
    Scaling.Intent.byDatacenter_perm distinct.datacenters reordered.sets]

/-- The facts come from the same hosts, or from none. -/
theorem Reordered.facts_eq (reordered : l.Reordered spec l') (distinct : l.Distinct spec)
    (cluster : Identity) (s : Snapshot) (memory : Table String) :
    Pass.facts spec cluster s (l.directory spec) memory =
      Pass.facts spec cluster s (l'.directory spec) memory := by
  by_cases matter : spec.hostsMatter = true
  · rw [directory, directory, Directory.ofNodes_perm _ (distinct.nodes matter)
      (reordered.nodes matter)]
  · exact Pass.facts_ofNodes (by simpa using matter) cluster s _ _ memory

/-- From the same objects in another order a pass finds out the same: the members, the changes of
    seed labels, whatever it derives from what the other regions reply, and the scaling intents. So
    it brings the labels in line and writes down the facts in the same way, and its scaling step is
    the same. -/
theorem same_pass_of_reordered (distinct : l.Distinct spec) (reordered : l.Reordered spec l')
    (around : Surroundings) :
    l.findings spec around.identity = l'.findings spec around.identity ∧
      prepare around spec l = prepare around spec l' ∧
      ∀ facts, scale around spec l facts = scale around spec l' facts := by
  have settled := reordered.settled_eq distinct around.identity.name
  have changes := reordered.changes_eq distinct around.identity.name
  have intents := reordered.intents_eq distinct
  refine ⟨?_, ?_, fun facts => ?_⟩
  · simp only [findings, reordered.view_eq distinct, changes, settled, intents,
      reordered.facts_eq distinct]
  · simp only [prepare, writeFacts, changes, settled, reordered.facts_eq distinct]
  · simp only [scale, settled, intents]

/-- Two datacenters of one node each, in racks and on the network of their hosts. -/
def housed : Cluster where
  metadata := { name := "c" }
  space := some "default"
  ownName := some "c"
  spec := {
    datacenters := [⟨"dc1", 1⟩, ⟨"dc2", 1⟩], hostPort := { enabled := true }, zonesAsRacks := true }
  status := none

/-- The one node of a datacenter. -/
def podIn (dc ip host : String) : Pod where
  metadata := {
    name := "c-cassandra-" ++ dc ++ "-0", labels := Table.ofList [(Labels.datacenterKey, dc)] }
  nodeName := some host
  podIp := some ip

/-- The StatefulSet of a datacenter. -/
def setOf (dc : String) : StatefulSet where
  metadata := {
    name := "c-cassandra-" ++ dc, labels := Table.ofList [(Labels.datacenterKey, dc)] }
  replicas := some 1

/-- A host of a zone. -/
def hostIn (name zone ip : String) : Node where
  metadata := { name, labels := Table.ofList [(Labels.zoneKey, zone)] }
  addresses := [("InternalIP", ip)]

def forwards : Listing where
  pods := [podIn "dc1" "10.1.0.1" "a", podIn "dc2" "10.1.0.2" "b"]
  sets := [setOf "dc1", setOf "dc2"]
  nodes := [hostIn "a" "east" "10.0.0.1", hostIn "b" "west" "10.0.0.2"]

def backwards : Listing :=
  ⟨forwards.pods.reverse, forwards.sets.reverse, forwards.nodes.reverse⟩

theorem same_pass_of_backwards :
    let around := Surroundings.of {} housed ⟨0, 0⟩
    housed.spec.hostsMatter = true ∧ forwards.pods ≠ backwards.pods ∧
      forwards.Distinct housed.spec ∧ forwards.Reordered housed.spec backwards ∧
      forwards.findings housed.spec around.identity =
        backwards.findings housed.spec around.identity ∧
      prepare around housed.spec forwards = prepare around housed.spec backwards ∧
      ∀ facts, scale around housed.spec forwards facts =
        scale around housed.spec backwards facts := by
  intro around
  have distinct : forwards.Distinct housed.spec :=
    ⟨by decide +kernel, by decide +kernel, by decide +kernel, fun _ => by decide +kernel⟩
  have reordered : forwards.Reordered housed.spec backwards :=
    ⟨(List.reverse_perm _).symm, (List.reverse_perm _).symm, fun _ => (List.reverse_perm _).symm⟩
  exact ⟨rfl, by decide +kernel, distinct, reordered,
    same_pass_of_reordered distinct reordered around⟩

end Listing

end Reconcile

end RingOperator
