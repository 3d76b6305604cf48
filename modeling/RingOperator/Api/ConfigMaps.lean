import RingOperator.Api.Call

/-!
# Config maps

How the operator writes config maps: with the labels of the cluster, under the
cluster as their owner, and only if their data differ from what is there.
-/

namespace RingOperator

/-- The object that owns another one. -/
structure Owner where
  apiVersion : String
  kind : String
  name : String
  uid : String
  controller : Option Bool := none
  blockDeletion : Option Bool := none
  deriving DecidableEq

namespace Owner

open Objects in
/-- The owner that a JSON value gives. -/
def decode (value : Json) : Option Owner := do
  let value ← object? value
  return {
    apiVersion := (← absentOr "apiVersion" Json.text? value).getD ""
    kind := (← absentOr "kind" Json.text? value).getD ""
    name := (← absentOr "name" Json.text? value).getD ""
    uid := (← absentOr "uid" Json.text? value).getD ""
    controller := ← absentOr "controller" Json.bool? value
    blockDeletion := ← absentOr "blockOwnerDeletion" Json.bool? value }

/-- The owner as a JSON value. -/
def encode (owner : Owner) : Json :=
  .object <|
    [("apiVersion", .text owner.apiVersion), ("kind", .text owner.kind),
      ("name", .text owner.name), ("uid", .text owner.uid)] ++
    (match owner.controller with
      | some value => [("controller", .bool value)]
      | none => []) ++
    (match owner.blockDeletion with
      | some value => [("blockOwnerDeletion", .bool value)]
      | none => [])

end Owner

namespace Api

/-- A table of texts as a JSON value. -/
def textTable (table : Table String) : Json :=
  .object (table.entries.map fun e => (e.1, .text e.2))

/-- A config map to be written. -/
structure Draft where
  name : String
  labels : Table String
  owner : Option Owner
  version : Option String := none
  annotations : Option (Table String) := none
  data : Table String

/-- The config map as a JSON value. -/
def Draft.encode (draft : Draft) : Json :=
  .object [
    ("apiVersion", .text "v1"), ("kind", .text "ConfigMap"),
    ("metadata", .object <|
      [("name", .text draft.name), ("labels", textTable draft.labels)] ++
      (match draft.owner with
        | some owner => [("ownerReferences", .array [owner.encode])]
        | none => []) ++
      (match draft.version with
        | some version => [("resourceVersion", .text version)]
        | none => []) ++
      (match draft.annotations with
        | some annotations => [("annotations", textTable annotations)]
        | none => [])),
    ("data", textTable draft.data)]

/-- Reads a config map that need not exist. -/
def getConfigMap (space name : String) : Exchange (Option ConfigMap) :=
  callPresent ConfigMap.decode { verb := .get, resource := .configMaps, space, name }

/-- Writes a config map: it is created if it does not exist, left alone if its data are the
same, and otherwise replaced under the version at which it was read, with the annotations that
it has. -/
def applyConfigMap (space : String) (draft : Draft) : Exchange Unit := do
  match ← getConfigMap space draft.name with
  | none =>
    let _ ← call ConfigMap.decode {
      verb := .post, resource := .configMaps, space, body := draft.encode }
  | some actual =>
    if actual.data ≠ some draft.data then
      let draft := {
        draft with
        version := actual.metadata.version, annotations := actual.metadata.annotations }
      let _ ← call ConfigMap.decode {
        verb := .put, resource := .configMaps, space, name := draft.name, body := draft.encode }

end Api

end RingOperator
