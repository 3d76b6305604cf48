import RingOperator.Reconcile

/-!
# The parts of a pass

A pass over a cluster lists its objects (`Reconcile.list`), brings the seed labels
in line and writes down the facts (`Reconcile.prepare`), and takes its scaling step
(`Reconcile.scale`). These are all of its parts (`Reconcile.reconcile_eq`). All but the
scaling step is what it finds out (`Reconcile.explore`).
-/

namespace RingOperator.Reconcile

open Surroundings (onServer)

/-- What the API server lists for a pass. -/
structure Listing where
  pods : List Pod
  sets : List StatefulSet
  nodes : List Node

/-- Lists the objects of a cluster. -/
def list (around : Surroundings) (spec : Spec) : Exchange Listing := do
  let pods ← listOwn Pod.decode .pods around.identity
  let sets ← listOwn StatefulSet.decode .statefulSets around.identity
  let nodes ← listNodes spec
  return ⟨pods, sets, nodes⟩

namespace Listing

/-- The snapshot that the objects give, with the seed labels as they are. -/
def view (l : Listing) (spec : Spec) (cluster : String) : Snapshot :=
  Snapshot.ofObjects spec cluster l.pods l.sets

/-- The seed labels that are to be changed. -/
def changes (l : Listing) (spec : Spec) (cluster : String) :
    List (String × Seeding.LabelChange) :=
  Seeding.labelChanges spec cluster (l.view spec cluster).members

/-- The snapshot with the seed labels in line. -/
def settled (l : Listing) (spec : Spec) (cluster : String) : Snapshot :=
  (l.view spec cluster).relabeled (l.changes spec cluster)

/-- The hosts of the nodes. -/
def directory (l : Listing) (spec : Spec) : Directory := Directory.ofNodes spec.hostPort l.nodes

end Listing

/-- Brings the seed labels in line, and writes down the facts if there are members. -/
def prepare (around : Surroundings) (spec : Spec) (l : Listing) :
    Exchange (Option PassFacts) := do
  relabel around.identity.space (l.changes spec around.identity.name)
  let s := l.settled spec around.identity.name
  if s.isEmpty then return none
  else return some (← writeFacts around spec s (l.directory spec))

/-- The addresses among the facts. -/
def addressesOf : Option PassFacts → Table String
  | some facts => facts.addresses
  | none => Table.empty

/-- Takes the scaling step, and reports. -/
def scale (around : Surroundings) (spec : Spec) (l : Listing) (facts : Option PassFacts) :
    Exchange PassReport := do
  let s := l.settled spec around.identity.name
  let scale ← around.onAll (Scaling.step around.now around.identity.name spec s
    (addressesOf facts) (Scaling.Intent.ofStatefulSets spec l.sets))
  if scale.started = 1 then count .started
  if scale.completed = 1 then count .completed
  return { plan := facts.map (·.plan), scale, ready := s.readyMembers }

theorem reconcile_eq (settings : Settings) (cluster : Cluster) (now : Instant) :
    reconcile settings cluster now = (do
      let around := Surroundings.of settings cluster now
      (cluster.spec.check : Outcome Unit)
      let l ← list around cluster.spec
      let facts ← prepare around cluster.spec l
      scale around cluster.spec l facts) := by
  simp only [reconcile, list, prepare, bind_assoc, pure_bind]
  refine bind_congr fun _ => bind_congr fun pods => bind_congr fun sets =>
    bind_congr fun nodes => bind_congr fun _ => ?_
  by_cases alone : (Listing.settled ⟨pods, sets, nodes⟩ cluster.spec
    (Surroundings.of settings cluster now).identity.name).isEmpty = true
  · rw [if_pos alone, pure_bind]
    exact if_pos alone
  · rw [if_neg alone, bind_assoc]
    simp only [pure_bind]
    exact if_neg alone

/-- What a pass finds out and writes down before its scaling step. -/
def explore (settings : Settings) (cluster : Cluster) (now : Instant) :
    Exchange (Listing × Option PassFacts) := do
  let around := Surroundings.of settings cluster now
  (cluster.spec.check : Outcome Unit)
  let l ← list around cluster.spec
  let facts ← prepare around cluster.spec l
  return (l, facts)

theorem reconcile_eq_explore (settings : Settings) (cluster : Cluster) (now : Instant) :
    reconcile settings cluster now = (do
      let (l, facts) ← explore settings cluster now
      scale (Surroundings.of settings cluster now) cluster.spec l facts) := by
  simp only [reconcile_eq, explore, bind_assoc, pure_bind]

/-! ## The parts of the parts -/

/-- Writes the facts of a pass into config maps; the memory of addresses only if it has
    changed. -/
def record (around : Surroundings) (memory : Table String) (facts : PassFacts) :
    Exchange Unit := do
  if facts.memory ≠ memory then
    onServer (Api.applyConfigMap around.identity.space
      (draft around (Naming.addressMemory around.identity.name) facts.memory))
  onServer (Api.applyConfigMap around.identity.space
    (draft around (Naming.startEntries around.identity.name) facts.sheet.render))

/-- The memory of addresses that a config map holds. -/
def recalled (stored : Option ConfigMap) : Table String :=
  (stored.bind (·.data)).getD Table.empty

theorem writeFacts_eq (around : Surroundings) (spec : Spec) (s : Snapshot)
    (directory : Directory) : writeFacts around spec s directory = (do
      let stored ← onServer (Api.getConfigMap around.identity.space
        (Naming.addressMemory around.identity.name))
      let facts ← around.onProbers
        (Pass.facts spec around.identity s directory (recalled stored))
      record around (recalled stored) facts
      count (.decided around.identity.name facts.decisions)
      return facts) := by
  refine bind_congr fun stored => bind_congr fun facts => ?_
  by_cases changed : facts.memory ≠ recalled stored
  · rw [record, if_pos changed, bind_assoc]
    exact if_pos changed
  · rw [record, if_neg changed]
    exact if_neg changed

/-- Counts what a scaling step came to. -/
def tally (result : Scaling.Result) : Exchange Unit := do
  if result.started = 1 then count .started
  if result.completed = 1 then count .completed

theorem scale_eq (around : Surroundings) (spec : Spec) (l : Listing) (facts : Option PassFacts) :
    scale around spec l facts = (do
      let s := l.settled spec around.identity.name
      let result ← around.onAll (Scaling.step around.now around.identity.name spec s
        (addressesOf facts) (Scaling.Intent.ofStatefulSets spec l.sets))
      tally result
      return { plan := facts.map (·.plan), scale := result, ready := s.readyMembers }) := by
  refine bind_congr fun result => ?_
  cases result <;> rfl

end RingOperator.Reconcile
