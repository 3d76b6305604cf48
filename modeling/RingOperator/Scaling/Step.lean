import RingOperator.Jobs.Tracker
import RingOperator.NodeControl
import RingOperator.Scaling.Intent
import RingOperator.Snapshot

/-!
# The scaling step of a pass

A pass takes at most one scaling step, for the first datacenter whose count is
not the declared one. Raising a count needs nothing else. A count is lowered by
one node at a time: the node with the highest ordinal is told to leave, by a
job that outlives the pass, and the count follows only when the node has left
and its peers agree. A datacenter that is no longer declared is emptied in the
same way and then removed.
-/

namespace RingOperator.Scaling

/-- What a scaling step asks of the outside. -/
inductive Ask where
  /-- A request to the store of job records. -/
  | job (request : Jobs.Ask)
  /-- Sets the count of a StatefulSet that is unchanged since a version. -/
  | setReplicas (statefulSet : String) (count : Int) (version : String)
  /-- Deletes a StatefulSet that is unchanged since a version. -/
  | deleteSet (statefulSet version : String)
  /-- Asks a node what it is doing. -/
  | mode (address : String)
  /-- Asks a node how it sees the ring. -/
  | ringView (address : String)
  /-- Starts a task that has a node leave the ring, for a job whose record is there. -/
  | launch (job address : String)
  deriving DecidableEq

/-- What comes back. -/
@[reducible]
def Reply : Ask → Type
  | .job request => Jobs.Reply request
  | .setReplicas _ _ _ => Outcome Unit
  | .deleteSet _ _ => Outcome Unit
  | .mode _ => Outcome OperationMode
  | .ringView _ => Outcome RingView
  | .launch _ _ => Unit

/-- A dialogue of a scaling step that cannot fail. -/
abbrev Talk (α : Type) := Dialogue Ask Reply α

/-- A dialogue of a scaling step. -/
abbrev Exchange (α : Type) := ExceptT Failure (Dialogue Ask Reply) α

/-- What a scaling step did. -/
inductive Result where
  /-- Every datacenter has its count. -/
  | idle
  | scaledUp (dc : String) (replicas : Int)
  /-- A node is leaving. -/
  | waiting (pod : String)
  /-- A node was told to leave. -/
  | decommissionStarted (pod : String)
  | scaledDown (dc : String) (replicas : Int)
  | dcRemoved (dc : String)
  deriving DecidableEq

/-- A dialogue with the store of job records, as part of a scaling step. -/
def onJobs {α : Type} (exchange : Jobs.Exchange α) : Exchange α :=
  ExceptT.mk (Dialogue.within Ask.job (fun _ reply => reply) exchange.run : Talk (Outcome α))

/-- Sets the count of a StatefulSet. -/
def setReplicas (statefulSet : String) (count : Int) (version : String) : Exchange Unit :=
  ExceptT.mk (Dialogue.once (Ask.setReplicas statefulSet count version) : Talk (Outcome Unit))

/-- Deletes a StatefulSet. -/
def deleteSet (statefulSet version : String) : Exchange Unit :=
  ExceptT.mk (Dialogue.once (Ask.deleteSet statefulSet version) : Talk (Outcome Unit))

/-- Asks a node what it is doing, and gives its answer or the failure to get one. -/
def mode (address : String) : Talk (Outcome OperationMode) := Dialogue.once (Ask.mode address)

/-- Starts the task of a job. -/
def launch (job address : String) : Talk Unit := Dialogue.once (Ask.launch job address)

/-- Whether a member confirms that an address has left: it has an address itself, answers, and
does not count the other one among the live. -/
def confirms (departed : String) (addresses : Table String) (m : Member) : Talk Bool :=
  match addresses.get? m.name with
  | none => .done false
  | some peer =>
    .ask (.ringView peer) fun
      | .ok view => .done (!view.live.contains departed)
      | .error _ => .done false

/-- How many of some members confirm that an address has left; each of them is asked. -/
def confirmations (departed : String) (addresses : Table String) : List Member → Talk Nat
  | [] => .done 0
  | m :: rest => do
    let confirmed ← confirms departed addresses m
    let more ← confirmations departed addresses rest
    return (if confirmed then 1 else 0) + more

/-- The members of declared datacenters. -/
def declaredMembers (spec : Spec) (s : Snapshot) : List Member :=
  s.members.filter fun m => spec.declares m.dc

/-- Whether the departure of a pod is confirmed by as many members of declared datacenters as
there are, less one, for the pod itself may be among them. -/
def departureConfirmed (spec : Spec) (pod address : String) (s : Snapshot)
    (addresses : Table String) : Talk Bool := do
  let members := declaredMembers spec s
  let confirmed ← confirmations address addresses (members.filter fun m => m.name ≠ pod)
  return members.length - 1 ≤ confirmed

/-- Lowers the count past a node that has left, and removes the record of its job. -/
def complete (now : Instant) (intent : Intent) (job : String) : Exchange Result := do
  let count := intent.current - 1
  setReplicas intent.statefulSet count intent.version
  onJobs (Jobs.remove now job)
  return .scaledDown intent.dc count

/-- Tells a node to leave, by a new job; the record of an earlier attempt is removed first. -/
def startDecommission (now : Instant) (pod job address : String) : Exchange Result := do
  if (← onJobs (Jobs.job? job)).isSome then
    onJobs (Jobs.remove now job)
  onJobs (Jobs.start now job)
  launch job address
  return .decommissionStarted pod

/-- Takes the highest ordinal of a datacenter one step further out of the ring. -/
def lower (now : Instant) (cluster : String) (spec : Spec) (intent : Intent) (s : Snapshot)
    (addresses : Table String) : Exchange Result := do
  let pod := Naming.pod cluster intent.dc (intent.current - 1)
  let job := Naming.job pod
  if ← onJobs (Jobs.isRunning now job) then return .waiting pod
  if (s.member? pod).isNone then
    throw (.invariant ("couldn't find pod " ++ pod ++ " to start the decommission"))
  match addresses.get? pod with
  | none => throw (.podNotScheduled pod)
  | some address =>
    match ← ExceptT.lift (mode address) with
    | .error failure =>
      if ← (departureConfirmed spec pod address s addresses : Talk _) then
        complete now intent job
      else throw (.departureUnconfirmed pod failure)
    | .ok .leaving => return .waiting pod
    | .ok .decommissioned =>
      if ← (departureConfirmed spec pod address s addresses : Talk _) then
        complete now intent job
      else return .waiting pod
    | .ok _ => startDecommission now pod job address

/-- The scaling step of a pass: the first datacenter that needs one takes it. A count cannot be
lowered while no member exists. -/
def step (now : Instant) (cluster : String) (spec : Spec) (s : Snapshot)
    (addresses : Table String) : List Intent → Exchange Result
  | [] => return .idle
  | intent :: rest =>
    match intent.desired with
    | some desired =>
      if desired = intent.current then step now cluster spec s addresses rest
      else if desired > intent.current then do
        setReplicas intent.statefulSet desired intent.version
        return .scaledUp intent.dc desired
      else if s.isEmpty then step now cluster spec s addresses rest
      else lower now cluster spec intent s addresses
    | none =>
      if intent.current = 0 then do
        deleteSet intent.statefulSet intent.version
        return .dcRemoved intent.dc
      else if s.isEmpty then step now cluster spec s addresses rest
      else lower now cluster spec intent s addresses

namespace Result

/-- How many decommissions the step started. -/
def started : Result → Nat
  | decommissionStarted _ => 1
  | _ => 0

/-- How many decommissions the step completed. -/
def completed : Result → Nat
  | scaledDown _ _ => 1
  | _ => 0

end Result

end RingOperator.Scaling
