import RingOperator.Regions

/-!
# The order of bring-up

Nodes join one at a time: the seeds of a datacenter first, then its other
nodes one by one, datacenters in declared order, and regions in the order of
their identifiers. Nothing of the order is stored; every pass computes it
anew, in two halves. A `Plan` says which region and which datacenter may make
progress (`Plan.make`), and `Plan.decisions` says of every member whether it may
run.
-/

namespace RingOperator

/-- Why a member must not start yet. -/
inductive PauseReason where
  | otherRegions
  | otherDatacenters
  | seedNodes
  | otherNonSeedNodes
  deriving DecidableEq

/-- The wording of a reason. -/
def PauseReason.text : PauseReason → String
  | otherRegions => "waiting for other regions to init"
  | otherDatacenters => "waiting for other DCs to init"
  | seedNodes => "waiting for seed nodes to init"
  | otherNonSeedNodes =>
    "waiting for other non seed nodes since only one non seed node can start at a time"

/-- Whether a member may run. -/
inductive Decision where
  | run
  | pause (reason : PauseReason)
  deriving DecidableEq, Inhabited

namespace Decision

/-- Whether the member has to wait. -/
def isPaused : Decision → Bool
  | run => false
  | pause _ => true

/-- The wording of a decision. -/
def text : Decision → String
  | run => "pod is not paused"
  | pause reason => reason.text

/-- All decisions. -/
def every : List Decision :=
  [run, pause .otherRegions, pause .otherDatacenters, pause .seedNodes,
    pause .otherNonSeedNodes]

end Decision

/-- Which part of the cluster may make progress. -/
inductive Plan where
  /-- There is nothing to order. -/
  | converged
  /-- Another region goes first. -/
  | regionPaused (next : String)
  /-- Only this datacenter of the own region may bring up members. -/
  | initializing (dc : String)
  deriving DecidableEq

/-- The readiness of every region that takes part, the own one among them. -/
structure Readiness where
  /-- The own region. -/
  own : String
  regions : Table Bool

namespace Readiness

/-- Whether the own region is ready. -/
def ownReady (r : Readiness) : Bool := (r.regions.get? r.own).getD false

/-- The first region, by identifier, that is not ready. -/
def next? (r : Readiness) : Option String :=
  (r.regions.entries.find? fun e => !e.2).map (·.1)

end Readiness

namespace Plan

/-- The plan of a region that waits for no other: the first datacenter that is not ready. -/
def ofRegion (s : Snapshot) : Plan :=
  match s.unready with
  | [] => converged
  | dc :: _ => initializing dc

/-- The plan of one region among several. A ready region has nothing to order, and neither has
any if all are ready; the first region that is not ready brings up its datacenters, and the
others wait for it. -/
def ofRegions (s : Snapshot) (r : Readiness) : Plan :=
  match r.next? with
  | none => converged
  | some next =>
    if r.ownReady then converged
    else if next ≠ r.own then regionPaused next
    else ofRegion s

/-- The plan of a pass. If the cluster spans regions, each managed one is asked for its
readiness, and the own readiness is what the snapshot shows. -/
def make (spec : Spec) (cluster : Identity) (s : Snapshot) : Regions.Exchange Plan := do
  if spec.multiRegion then
    let answers ← Regions.readiness (spec.managedRegions cluster)
    let own := spec.localRegion cluster
    return ofRegions s ⟨own, answers.insert own s.regionReady⟩
  else return ofRegion s

/-- The decision for a member under a plan. In the datacenter that is brought up, seeds run;
once they are all ready, so do the ready members and the first one that is not. -/
def decisionFor (plan : Plan) (s : Snapshot) (m : Member) : Decision :=
  match plan with
  | converged => .run
  | regionPaused _ => .pause .otherRegions
  | initializing dc =>
    if m.dc ≠ dc then .pause .otherDatacenters
    else if m.seed then .run
    else if !s.seedsReady dc then .pause .seedNodes
    else if m.ready ∨ (s.nextNonSeed dc).map (·.name) = some m.name then .run
    else .pause .otherNonSeedNodes

/-- The decision for every member, under its name. -/
def decisions (plan : Plan) (s : Snapshot) : Table Decision :=
  Table.ofList (s.members.map fun m => (m.name, plan.decisionFor s m))

end Plan

end RingOperator
