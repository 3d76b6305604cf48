import RingOperator.Failure
import RingOperator.Json.Record

/-!
# The control channel of a node

What a node says about itself (`OperationMode`) and about the ring as it sees
it (`RingView`).
-/

namespace RingOperator

/-- What a node is doing. -/
inductive OperationMode where
  | starting
  | normal
  | joining
  | leaving
  | decommissioned
  | moving
  | draining
  | drained
  deriving DecidableEq

namespace OperationMode

/-- All modes. -/
def every : List OperationMode :=
  [starting, normal, joining, leaving, decommissioned, moving, draining, drained]

/-- The name of a mode. -/
def name : OperationMode → String
  | starting => "STARTING"
  | normal => "NORMAL"
  | joining => "JOINING"
  | leaving => "LEAVING"
  | decommissioned => "DECOMMISSIONED"
  | moving => "MOVING"
  | draining => "DRAINING"
  | drained => "DRAINED"

/-- The mode of a name. -/
def ofName? (name : String) : Option OperationMode := every.find? fun mode => mode.name = name

/-- The complaint about a name of no mode. -/
def unknown (name : String) : String := "unknown operation mode " ++ name

end OperationMode

/-- The ring as one node sees it: addresses of nodes by what they are doing. -/
structure RingView where
  live : List String := []
  leaving : List String := []
  joining : List String := []
  unreachable : List String := []
  moving : List String := []
  deriving DecidableEq

namespace RingView

open Json

/-- The fields of a ring view, in the order in which they are declared. -/
def fields : List String :=
  ["LiveNodes", "LeavingNodes", "JoiningNodes", "UnreachableNodes", "MovingNodes"]

/-- The ring view that a JSON value gives. -/
def decode (value : Json) : Option RingView :=
  match value.parts? fields with
  | some [live, leaving, joining, unreachable, moving] => do
    return {
      live := ← orDefault [] (list? text?) live
      leaving := ← orDefault [] (list? text?) leaving
      joining := ← orDefault [] (list? text?) joining
      unreachable := ← orDefault [] (list? text?) unreachable
      moving := ← orDefault [] (list? text?) moving }
  | _ => none

/-- The ring view as a JSON value. -/
def encode (view : RingView) : Json :=
  let texts (addresses : List String) := Json.array (addresses.map .text)
  .object [
    ("LiveNodes", texts view.live), ("LeavingNodes", texts view.leaving),
    ("JoiningNodes", texts view.joining), ("UnreachableNodes", texts view.unreachable),
    ("MovingNodes", texts view.moving)]

end RingView

end RingOperator
