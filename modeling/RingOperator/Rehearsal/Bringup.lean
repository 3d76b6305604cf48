import RingOperator.Pass
import RingOperator.Rehearsal.Peers

/-!
# Rehearsed bring-up

A declared cluster that is brought up from nothing: every declared pod exists
and has its place, none is ready at first, and after each pass those that may
start become ready. In which order they start is told in `Proofs.Bringup.Order`.
-/

namespace RingOperator.Rehearsal

/-- Where a pod runs. -/
structure Place where
  /-- The instance of the pod. -/
  uid : String
  /-- The address of the pod. -/
  ip : String
  /-- The host of the pod. -/
  node : String

/-- The place of a rehearsed pod, by the position of its datacenter and its ordinal. -/
def place (position : Nat) (ordinal : Int) : Place :=
  let i := Text.Numeral.ofInt ordinal
  let d := Text.Numeral.ofNat position
  { uid := "u" ++ d ++ "-" ++ i, ip := "10.1." ++ d ++ "." ++ i, node := "node-" ++ d ++ "-" ++ i }

/-- The pod of a datacenter with an ordinal, as a member at its place. -/
def declaredMember (cluster : String) (numSeeds : Int) (place : Int → Place) (dc : Datacenter)
    (ready : List String) (ordinal : Int) : Member where
  name := Naming.pod cluster dc.name ordinal
  uid := (place ordinal).uid
  dc := dc.name
  ordinal
  podIp := some (place ordinal).ip
  nodeName := some (place ordinal).node
  ready := ready.contains (Naming.pod cluster dc.name ordinal)
  seed := ordinal < Seeding.seedCount numSeeds dc.replicas

/-- The members of a declared datacenter, which is given with its position. -/
def declaredMembers (cluster : String) (numSeeds : Int) (places : Nat → Int → Place)
    (ready : List String) (entry : Datacenter × Nat) : List Member :=
  (Seeding.ordinals entry.1.replicas).map
    (declaredMember cluster numSeeds (places entry.2) entry.1 ready)

/-- The snapshot of the declared cluster with every pod at its place, given the names of the ready
pods. -/
def declaredAt (places : Nat → Int → Place) (cluster : String) (spec : Spec)
    (ready : List String) : Snapshot :=
  let membersOf := declaredMembers cluster spec.numSeeds places ready
  Snapshot.of (spec.datacenters.zipIdx.flatMap membersOf) <|
    spec.datacenters.zipIdx.map fun entry => {
      name := entry.1.name
      desired := entry.1.replicas
      ready := some (((membersOf entry).countP (·.ready) : Nat) : Int) }

/-- The snapshot of the rehearsed cluster. -/
def declared (cluster : String) (spec : Spec) (ready : List String) : Snapshot :=
  declaredAt place cluster spec ready

/-- The members that start in a pass: not ready, and not paused. -/
def starting (s : Snapshot) (decisions : Table Decision) : List String :=
  (s.members.filter fun m =>
    !m.ready && decisions.get? m.name == some .run).map (·.name)

/-- What a bring-up carries from pass to pass. -/
structure Progress where
  /-- The names of the ready pods. -/
  ready : List String := []
  memory : Table String := Table.empty

/-- What one pass of a bring-up shows. -/
structure PassRecord where
  /-- The facts of the pass, and the pods that start. -/
  result : Outcome (PassFacts × List String)
  published : Published

/-- One pass of a bring-up, after which the first few of the pods that may start are ready. -/
def bringupPass (cluster : Identity) (spec : Spec) (directory : Directory) (peers : Peers)
    (perPass : Option Nat) (p : Progress) : PassRecord × Progress :=
  let s := declared cluster.name spec p.ready
  match peers.play (Pass.facts spec cluster s directory p.memory) with
  | (.error failure, published) => (⟨.error failure, published⟩, p)
  | (.ok facts, published) =>
    let names := starting s facts.decisions
    let started := match perPass with
      | some count => names.take count
      | none => names
    (⟨.ok (facts, names), published⟩, ⟨p.ready ++ started, facts.memory⟩)

/-- A number of passes of a bring-up. -/
def bringup (cluster : Identity) (spec : Spec) (directory : Directory) (peers : Peers)
    (perPass : Option Nat) : Nat → Progress → List PassRecord
  | 0, _ => []
  | count + 1, p =>
    let (record, p) := bringupPass cluster spec directory peers perPass p
    record :: bringup cluster spec directory peers perPass count p

end RingOperator.Rehearsal
