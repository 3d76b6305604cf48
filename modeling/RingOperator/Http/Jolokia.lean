import RingOperator.Http.Basic
import RingOperator.Json.Reader
import RingOperator.NodeControl
import RingOperator.Text.Decimal

/-!
# The control channel over HTTP

Nodes are asked through a Jolokia proxy, which reads attributes of their
storage service and runs operations of it. A response counts only if its
status reports success, its text is an object and the object reports no
failure of the node.
-/

namespace RingOperator.Http

/-- A Jolokia proxy, and how it reaches the nodes. -/
structure Jolokia where
  url : String
  /-- The TCP port on which a node is managed. -/
  jmxPort : Nat
  user : String
  password : String

namespace Jolokia

/-- The managed object of the storage service. -/
def storageService : String := "org.apache.cassandra.db:type=StorageService"

/-- A request about a node: attributes to read, or an operation to run. -/
def request (proxy : Jolokia) (address kind : String) (attributes : List String)
    (operation : Option String) : Request where
  method := "POST"
  url := proxy.url
  body := .json <| .object <|
    [("type", .text kind), ("mbean", .text storageService)] ++
    (if attributes.isEmpty then [] else [("attribute", .array (attributes.map .text))]) ++
    (match operation with
      | some name => [("operation", .text name)]
      | none => []) ++
    [("target", .object [
      ("url", .text ("service:jmx:rmi:///jndi/rmi://" ++ address ++ ":" ++
        Text.Numeral.ofNat proxy.jmxPort ++ "/jmxrmi")),
      ("user", .text proxy.user), ("password", .text proxy.password)])]

/-- Asks a node what it is doing. -/
def modeRequest (proxy : Jolokia) (address : String) : Request :=
  proxy.request address "read" ["OperationMode"] none

/-- Asks a node how it sees the ring. -/
def viewRequest (proxy : Jolokia) (address : String) : Request :=
  proxy.request address "read" RingView.fields none

/-- Has a node leave the ring. -/
def decommissionRequest (proxy : Jolokia) (address : String) : Request :=
  proxy.request address "exec" [] (some "decommission")

/-- How deep a value in a response may be nested: 127 levels with the response itself. -/
def greatestDepth : Nat := 126

mutual
/-- Whether every text of a value is a text and every number of it in range. -/
def isSound : Json → Bool
  | .broken => false
  | .integer value => value.natAbs < Text.Decimal.excess
  | .decimal spelling => Text.Decimal.isFinite spelling
  | .array items => areSound items
  | .object fields => areSoundFields fields
  | _ => true

/-- Whether every item is sound. -/
def areSound : List Json → Bool
  | [] => true
  | item :: items => isSound item && areSound items

/-- Whether every value is sound. -/
def areSoundFields : List (String × Json) → Bool
  | [] => true
  | (_, value) :: fields => isSound value && areSoundFields fields
end

/-- Any value that is sound and not nested too deep, the fields of objects in order. -/
def value? (value : Json) : Option Json :=
  if isSound value && value.depth ≤ greatestDepth then some value.arranged else none

/-- The value and the failure that a response reports. -/
def decode (content : String) : Option (Json × Option String) := do
  let response ← Json.read content
  match response.parts? ["value", "error"] with
  | some [value, error] =>
    return (← Json.orDefault .null value? value, ← Json.orNothing Json.text? error)
  | _ => none

/-- The value that a reply about a node carries. -/
def result (address : String) : Reply → Outcome Json
  | .error detail => .error (.nodeControl address detail)
  | .ok response =>
    if !isSuccess response.status then
      .error (.nodeControl address (statusText response.status ++ ": " ++ response.content))
    else
      match decode response.content with
      | none => .error (.nodeControl address ("cannot unmarshal response: " ++
          unreadableDetail ++ ", raw body: " ++ response.content))
      | some (value, error) =>
        match error with
        | none => .ok value
        | some error =>
          if error = "" then .ok value
          else .error (.nodeControl address ("received error JMX response: " ++ error))

/-- What a node says it is doing. -/
def understandMode (address : String) (reply : Reply) : Outcome OperationMode := do
  let value ← result address reply
  match (value.field? "OperationMode").bind Json.text? with
  | none => .error (.nodeControl address
      ("couldn't find operation mode field, raw response: " ++ value.write))
  | some name =>
    match OperationMode.ofName? name with
    | some mode => .ok mode
    | none => .error (.nodeControl address (OperationMode.unknown name))

/-- How a node says it sees the ring. -/
def understandView (address : String) (reply : Reply) : Outcome RingView := do
  match RingView.decode (← result address reply) with
  | some view => .ok view
  | none => .error (.unreadable unreadableDetail)

/-- Whether a node has left the ring. -/
def understandDecommission (address : String) (reply : Reply) : Outcome Unit := do
  let _ ← result address reply

end Jolokia

end RingOperator.Http
