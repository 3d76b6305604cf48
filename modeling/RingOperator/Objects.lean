import RingOperator.Json.Record
import RingOperator.Labels
import RingOperator.Naming
import RingOperator.Objects.Shape.Kinds

/-!
# Objects of the API server

The parts of pods, StatefulSets, nodes and config maps that the operator looks
at, and how they are read from the objects as the server gives them: a field
that is missing or null is absent, and an object that does not have the shape
of its kind is unreadable, also where nobody looks at it.
-/

namespace RingOperator

open Json

/-- What any object carries. -/
structure Metadata where
  /-- The object's name, or what its name is made from, or nothing. -/
  name : String := ""
  uid : Option String := none
  labels : Table String := Table.empty
  annotations : Option (Table String) := none
  /-- The version that the server gave to the object. -/
  version : Option String := none
  deriving DecidableEq

/-- A pod. -/
structure Pod where
  metadata : Metadata := {}
  nodeName : Option String := none
  podIp : Option String := none
  /-- Whether each container reports ready, if the containers are known. -/
  containersReady : Option (List Bool) := none
  deriving DecidableEq

/-- A StatefulSet. -/
structure StatefulSet where
  metadata : Metadata := {}
  replicas : Option Int := none
  readyReplicas : Option Int := none
  deriving DecidableEq

/-- A node of the Kubernetes cluster. -/
structure Node where
  metadata : Metadata := {}
  /-- Kinds and values of its addresses. -/
  addresses : List (String × String) := []
  deriving DecidableEq

/-- A config map. -/
structure ConfigMap where
  metadata : Metadata := {}
  data : Option (Table String) := none
  deriving DecidableEq

namespace Objects

/-- A field of an object, decoded; absent if it is missing or null. -/
def absentOr {α : Type} (name : String) (decode : Json → Option α) (value : Json) :
    Option (Option α) :=
  match value.present? name with
  | none => some none
  | some part => (decode part).map some

/-- Fields that are all texts. -/
def textFields? : List (String × Json) → Option (List (String × String))
  | [] => some []
  | (name, .text value) :: fields => (textFields? fields).map ((name, value) :: ·)
  | _ => none

/-- An object whose fields are all texts. -/
def texts? : Json → Option (Table String)
  | .object fields => (textFields? fields).map Table.ofList
  | _ => none

/-- Any object at all. -/
def object? : Json → Option Json
  | .object fields => some (.object fields)
  | _ => none

/-- The metadata of an object. -/
def metadata? (value : Json) : Option Metadata := do
  let m := (← absentOr "metadata" object? value).getD (.object [])
  let name ← absentOr "name" text? m
  let generated ← absentOr "generateName" text? m
  let uid ← absentOr "uid" text? m
  let labels ← absentOr "labels" texts? m
  let annotations ← absentOr "annotations" texts? m
  let version ← absentOr "resourceVersion" text? m
  return {
    name := (name.orElse fun _ => generated).getD ""
    uid, labels := labels.getD Table.empty, annotations, version }

end Objects

open Objects

namespace Pod

/-- Whether one container reports ready. -/
def containerReady? (value : Json) : Option Bool := do
  return (← absentOr "ready" bool? value).getD false

/-- The pod that a JSON value gives. -/
def decode (value : Json) : Option Pod := do
  guard (Shape.pod.admits value)
  let metadata ← metadata? value
  let spec := (← absentOr "spec" object? value).getD (.object [])
  let status := (← absentOr "status" object? value).getD (.object [])
  return {
    metadata
    nodeName := ← absentOr "nodeName" text? spec
    podIp := ← absentOr "podIP" text? status
    containersReady := ← absentOr "containerStatuses" (list? containerReady?) status }

end Pod

namespace StatefulSet

/-- A count of a StatefulSet. -/
def count? : Json → Option Int := integerIn? (-2147483648) 2147483647

/-- The StatefulSet that a JSON value gives. -/
def decode (value : Json) : Option StatefulSet := do
  guard (Shape.statefulSet.admits value)
  let metadata ← metadata? value
  let spec := (← absentOr "spec" object? value).getD (.object [])
  let status := (← absentOr "status" object? value).getD (.object [])
  return {
    metadata
    replicas := ← absentOr "replicas" count? spec
    readyReplicas := ← absentOr "readyReplicas" count? status }

end StatefulSet

namespace Node

/-- One address of a node. -/
def address? (value : Json) : Option (String × String) := do
  return ((← absentOr "type" text? value).getD "", (← absentOr "address" text? value).getD "")

/-- The node that a JSON value gives. -/
def decode (value : Json) : Option Node := do
  guard (Shape.node.admits value)
  let metadata ← metadata? value
  let status := (← absentOr "status" object? value).getD (.object [])
  return {
    metadata
    addresses := (← absentOr "addresses" (list? address?) status).getD [] }

end Node

namespace ConfigMap

/-- The config map that a JSON value gives. -/
def decode (value : Json) : Option ConfigMap := do
  guard (Shape.configMap.admits value)
  return { metadata := ← metadata? value, data := ← absentOr "data" texts? value }

end ConfigMap

end RingOperator
