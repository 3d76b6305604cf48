import RingOperator.Jobs.Bench
import RingOperator.Rehearsal.Outages
import RingOperator.Scaling.Step

/-!
# Rehearsed scaling

Everything that scaling steps meet: StatefulSets with counts and versions,
nodes that say what they were told to say, a store of job records with its
outages, and the tasks under way. Each request is noted in order, except that
questions for the ring view are noted apart, since they are asked all at once.

The ring is a stand-in for the world, not a part of the operator: it lets scaling
steps and jobs run as they are defined, against what was written down, and shows
what they ask for and leave behind. Theorems about them are about every reply that
they can be given; none is about this ring.
-/

namespace RingOperator.Rehearsal

/-- How a node takes the order to leave the ring. -/
inductive Departure where
  | succeeds
  | fails
  /-- The order is not answered until the node is released. -/
  | waits
  deriving DecidableEq

/-- What a node says; nothing if it refuses the connection. -/
structure NodeScript where
  mode : Option String := none
  live : Option (List String) := none
  departure : Departure := .succeeds

/-- How the action of a job goes. -/
inductive Action where
  | ends (failure : Option Failure)
  /-- The action does not end until it is told to. -/
  | waits

/-- A StatefulSet of a datacenter. -/
structure SetState where
  /-- Its datacenter label. -/
  dc : Option String := none
  /-- Its count, if it is given. -/
  replicas : Option Int := none
  version : Nat

/-- A request that was noted. -/
inductive Call where
  | mode (address : String)
  | decommission (address : String)
  | setReplicas (statefulSet : String) (count : Int) (version : String)
  | deleteSet (statefulSet version : String)

/-- What scaling steps meet. -/
structure Ring where
  /-- The reading of every wall clock. -/
  now : Instant
  nodes : Table NodeScript := Table.empty
  sets : Table SetState := Table.empty
  /-- The code with which the next write to a StatefulSet fails. -/
  writeFault : Option Nat := none
  jobs : FaultyStore := {}
  bench : Jobs.Bench := {}
  calls : List Call := []
  ringViews : List String := []
  /-- How many decommissions steps have started. -/
  started : Nat := 0
  /-- How many decommissions steps have completed. -/
  completed : Nat := 0

namespace Ring

/-- A node's control channel that refuses the connection. -/
def refused (address : String) : Failure := .nodeControl address "connection refused"

/-- Plays a dialogue with the store of job records. -/
def onJobs {α : Type} (ring : Ring) (talk : Jobs.Talk α) : α × Ring :=
  let (result, jobs) := talk.run FaultyStore.serve ring.jobs
  (result, { ring with jobs })

/-- Ends the job of a task. -/
def conclude (ring : Ring) (job : String) (failure : Option Failure) : Ring :=
  let (bench, ring) :=
    ring.onJobs (ring.bench.conclude (.replicate _ ring.now) job (failure.map Failure.message))
  { ring with bench }

/-- A write to a StatefulSet under a version. -/
def write (ring : Ring) (name version : String) (change : SetState → Option SetState) :
    Outcome Unit × Ring :=
  match ring.writeFault with
  | some code =>
    (.error (.api (.refused code "Fault" "injected")), { ring with writeFault := none })
  | none =>
    match ring.sets.get? name with
    | none => (.error (.api (.refused 404 "NotFound" (name ++ " not found"))), ring)
    | some set =>
      if Text.Numeral.ofNat set.version = version then
        (.ok (), { ring with
          sets := match change set with
            | some set => ring.sets.insert name set
            | none => ring.sets.erase name })
      else (.error (.api (.refused 409 "Conflict" (name ++ " was modified"))), ring)

/-- What a node says it is doing. -/
def modeOf (ring : Ring) (address : String) : Outcome OperationMode :=
  match (ring.nodes.get? address).bind (·.mode) with
  | none => .error (refused address)
  | some name =>
    match OperationMode.ofName? name with
    | some mode => .ok mode
    | none => .error (.nodeControl address (OperationMode.unknown name))

/-- How a node sees the ring. -/
def viewOf (ring : Ring) (address : String) : Outcome RingView :=
  match (ring.nodes.get? address).bind (·.live) with
  | none => .error (refused address)
  | some live => .ok { live }

/-- Ends the last task that waits for something, and whether there was one. -/
def release (ring : Ring) (awaited : String) (failure : Option Failure) : Bool × Ring :=
  match ring.bench.release? awaited with
  | none => (false, ring)
  | some (task, bench) => (true, { ring with bench }.conclude task.job failure)

/-- Does something in place of the task that waits for something: that one gives way and ends
well, after what is done. -/
def inPlaceOf (ring : Ring) (awaited : String) (act : Ring → Ring) : Ring :=
  match ring.bench.release? awaited with
  | none => act ring
  | some (task, bench) => (act { ring with bench }).conclude task.job none

/-- Starts the task of a job: it ends at once, well or not, or it waits. One task waits for one
thing, so an earlier one gives way. -/
def begin (ring : Ring) (job awaited : String) (action : Action) : Ring :=
  match action with
  | .ends failure => ring.conclude job failure
  | .waits => ring.inPlaceOf awaited fun ring =>
      { ring with bench := ring.bench.begin job awaited }

/-- Starts the task that has a node leave the ring. -/
def launch (ring : Ring) (job address : String) : Ring :=
  let ring := { ring with calls := ring.calls ++ [Call.decommission address] }
  ring.begin job address <|
    match ((ring.nodes.get? address).getD {}).departure with
    | .succeeds => .ends none
    | .fails => .ends (some (.nodeControl address "decommission failed"))
    | .waits => .waits

/-- Serves one request of a scaling step. -/
def serve : (request : Scaling.Ask) → Ring → Scaling.Reply request × Ring
  | .job request, ring =>
    let (reply, jobs) := FaultyStore.serve request ring.jobs
    (reply, { ring with jobs })
  | .setReplicas name count version, ring =>
    let ring := { ring with calls := ring.calls ++ [Call.setReplicas name count version] }
    ring.write name version fun set =>
      some { set with replicas := some count, version := set.version + 1 }
  | .deleteSet name version, ring =>
    let ring := { ring with calls := ring.calls ++ [Call.deleteSet name version] }
    ring.write name version fun _ => none
  | .mode address, ring =>
    (ring.modeOf address, { ring with calls := ring.calls ++ [Call.mode address] })
  | .ringView address, ring =>
    (ring.viewOf address, { ring with ringViews := ring.ringViews ++ [address] })
  | .launch job address, ring => ((), ring.launch job address)

/-- The StatefulSets as objects. -/
def statefulSets (ring : Ring) : List StatefulSet :=
  ring.sets.entries.map fun (name, set) => {
    metadata := {
      name
      labels := match set.dc with
        | some dc => Table.ofList [(Labels.datacenterKey, dc)]
        | none => Table.empty
      version := some (Text.Numeral.ofNat set.version) }
    replicas := set.replicas }

/-- A scaling step. -/
def step (ring : Ring) (cluster : String) (spec : Spec) (s : Snapshot)
    (addresses : Table String) (intents : List Scaling.Intent) :
    Outcome Scaling.Result × Ring :=
  match (Scaling.step ring.now cluster spec s addresses intents).run.run serve ring with
  | (.error failure, ring) => (.error failure, ring)
  | (.ok result, ring) => (.ok result, {
      ring with
      started := ring.started + result.started
      completed := ring.completed + result.completed })

/-- Runs a job: its record is created, and then its task is started. An earlier task that waits
under its name, without a record any more, gives way. -/
def runJob (ring : Ring) (name : String) (action : Action) : Outcome Unit × Ring :=
  match ring.onJobs (Jobs.start ring.now name).run with
  | (.error failure, ring) => (.error failure, ring)
  | (.ok (), ring) => (.ok (), ring.inPlaceOf name fun ring => ring.begin name name action)

/-- The ring some seconds later. -/
def advance (ring : Ring) (seconds : Nat) : Ring :=
  let (bench, ring) := ring.onJobs (ring.bench.advance ring.now seconds)
  { ring with bench }

/-- The ring with an outage of the store of job records announced. -/
def announce (ring : Ring) (outage : Outage) : Ring :=
  { ring with jobs := ring.jobs.announce outage }

/-- The ring with everything noted forgotten. -/
def cleared (ring : Ring) : Ring := { ring with calls := [], ringViews := [] }

end Ring

end RingOperator.Rehearsal
