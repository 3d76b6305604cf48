import RingOperator.Dialogue
import RingOperator.Failure
import RingOperator.Objects

/-!
# Calls of the API server

A call names a kind of objects, in a namespace or across all of them, one
object of the kind or all of them, and what to do. The answer is an object, or
the server's refusal.
-/

namespace RingOperator.Api

/-- The kinds of objects that the operator handles. -/
inductive Resource where
  | pods
  | statefulSets
  | configMaps
  | nodes
  | clusters
  deriving DecidableEq

namespace Resource

/-- All kinds. -/
def every : List Resource := [pods, statefulSets, configMaps, nodes, clusters]

/-- The plural under which a kind is found. -/
def plural : Resource → String
  | pods => "pods"
  | statefulSets => "statefulsets"
  | configMaps => "configmaps"
  | nodes => "nodes"
  | clusters => "cassandraclusters"

/-- The group and version of a kind. -/
def root : Resource → String
  | statefulSets => "/apis/apps/v1/"
  | clusters => "/apis/db.ibm.com/v1alpha1/"
  | _ => "/api/v1/"

end Resource

/-- What to do. -/
inductive Verb where
  | get | post | put | patch | delete
  deriving DecidableEq

/-- The name of a verb. -/
def Verb.name : Verb → String
  | get => "GET"
  | post => "POST"
  | put => "PUT"
  | patch => "PATCH"
  | delete => "DELETE"

/-- A call. -/
structure Call where
  verb : Verb
  resource : Resource
  /-- The namespace; nothing for all of them. -/
  space : Option String
  /-- The object; nothing for all of the kind. -/
  name : Option String := none
  /-- Only the status of the object is meant. -/
  status : Bool := false
  query : List (String × String) := []
  body : Option Json := none

/-- The path of a call. -/
def Call.path (call : Call) : String :=
  call.resource.root ++
  (match call.space with
    | some space => "namespaces/" ++ space ++ "/"
    | none => "") ++
  call.resource.plural ++
  (match call.name with
    | some name => "/" ++ name
    | none => "") ++
  (if call.status then "/status" else "")

/-- The answer to a call, or why there is none. -/
abbrev Answer := Except ApiFailure Json

/-- The answer to each call. -/
@[reducible]
def Reply (_ : Call) : Type := Answer

/-- A dialogue with the server that cannot fail as a whole. -/
abbrev Talk (α : Type) := Dialogue Call Reply α

/-- A dialogue with the server. -/
abbrev Exchange (α : Type) := ExceptT Failure (Dialogue Call Reply) α

/-- An answer as the object that it should be. -/
def understand {α : Type} (decode : Json → Option α) : Answer → Outcome α
  | .error failure => .error (.api failure)
  | .ok value =>
    match decode value with
    | some object => .ok object
    | none => .error (.api .undecodable)

/-- The object that an answer should be, or nothing if there is none. -/
def understandPresent {α : Type} (decode : Json → Option α) (answer : Answer) :
    Outcome (Option α) :=
  match answer with
  | .error failure => if failure.isMissing then .ok none else .error (.api failure)
  | .ok value =>
    match decode value with
    | some object => .ok (some object)
    | none => .error (.api .undecodable)

/-- The objects of a list. -/
def listed {α : Type} (decode : Json → Option α) (value : Json) : Option (List α) :=
  (value.field? "items").bind (Json.list? decode)

/-- A call whose answer is understood. -/
def call {α : Type} (decode : Json → Option α) (c : Call) : Exchange α :=
  ExceptT.mk (.ask c fun answer => .done (understand decode answer) : Talk (Outcome α))

/-- A call for an object that need not exist. -/
def callPresent {α : Type} (decode : Json → Option α) (c : Call) : Exchange (Option α) :=
  ExceptT.mk (.ask c fun answer => .done (understandPresent decode answer) :
    Talk (Outcome (Option α)))

end RingOperator.Api
