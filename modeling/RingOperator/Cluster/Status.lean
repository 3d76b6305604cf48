import RingOperator.Cluster.Codec

/-!
# The status of a cluster

What the operator reports about a cluster. The status is stored with the
declaration, every field of it in each report.
-/

namespace RingOperator

/-- Where a cluster stands. -/
inductive Phase where
  | pending
  | initializing
  | waitingForRegions
  | running
  | scaling
  | failed
  deriving DecidableEq, Inhabited

namespace Phase

/-- All phases. -/
def every : List Phase := [pending, initializing, waitingForRegions, running, scaling, failed]

/-- The name of a phase. -/
def name : Phase → String
  | pending => "Pending"
  | initializing => "Initializing"
  | waitingForRegions => "WaitingForRegions"
  | running => "Running"
  | scaling => "Scaling"
  | failed => "Failed"

/-- The phase of a name. -/
def ofName? (name : String) : Option Phase := every.find? fun phase => phase.name = name

/-- The phase that a JSON value gives: its name, or an object with the name alone, its value
null. -/
def decode : Json → Option Phase
  | .text name => ofName? name
  | .object [(name, .null)] => ofName? name
  | _ => none

end Phase

/-- A report about a cluster. -/
structure Status where
  phase : Phase := .pending
  /-- The number of ready members. -/
  readyNodes : Int := 0
  /-- The datacenter that is brought up. -/
  initializingDc : Option String := none
  /-- The pod that is drained. -/
  decommissioning : Option String := none
  message : Option String := none
  /-- When the report was made. -/
  lastReconciled : Option String := none
  deriving DecidableEq, Inhabited

namespace Status

open Json

/-- The status that a JSON value gives. -/
def decode (value : Json) : Option Status :=
  match value.parts? ["phase", "readyNodes", "initializingDc", "decommissioning", "message",
      "lastReconciled"] with
  | some [phase, ready, initializing, decommissioning, message, last] => do
    return {
      phase := ← orDefault .pending Phase.decode phase
      readyNodes := ← orDefault 0 count? ready
      initializingDc := ← orNothing text? initializing
      decommissioning := ← orNothing text? decommissioning
      message := ← orNothing text? message
      lastReconciled := ← orNothing text? last }
  | _ => none

/-- The status as a JSON value. -/
def encode (status : Status) : Json :=
  .object [
    ("phase", .text status.phase.name),
    ("readyNodes", .integer status.readyNodes),
    ("initializingDc", ofText? status.initializingDc),
    ("decommissioning", ofText? status.decommissioning),
    ("message", ofText? status.message),
    ("lastReconciled", ofText? status.lastReconciled)]

end Status

end RingOperator
