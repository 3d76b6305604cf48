import RingOperator.Api.Sending
import RingOperator.Json.Patch

/-!
# The API server

The server as the operator meets it: objects under their kind and name, each
write giving the object the next version, conditional writes that are refused
when the object has changed, and merge patches. Calls may be refused for a
while, by announcement.
-/

namespace RingOperator.Api

/-- A refusal that was announced. -/
structure Disruption where
  /-- The name of the verb that is refused. -/
  verb : String
  /-- A part of the paths that are refused. -/
  path : String
  code : Nat
  /-- How many calls are still refused. -/
  left : Nat

/-- The server. -/
structure Server where
  /-- The objects of each kind, under the plural of the kind. -/
  objects : Table (Table Json) := Table.empty
  /-- The version of the last write. -/
  lastVersion : Nat := 1000
  disruptions : List Disruption := []

namespace Server

/-- The reason that goes with the code of a refusal. -/
def reason : Nat → String
  | 403 => "Forbidden"
  | 404 => "NotFound"
  | 409 => "Conflict"
  | 422 => "Invalid"
  | 429 => "TooManyRequests"
  | _ => "InternalError"

/-- A refusal with the reason of its code. -/
def refusal (code : Nat) (message : String) : ApiFailure :=
  .refused code (reason code) message

/-- Whether a text occurs in another one. -/
def occurs (part : List Char) : List Char → Bool
  | [] => part.isEmpty
  | c :: cs => part.isPrefixOf (c :: cs) || occurs part cs

/-- Whether a disruption refuses a call. -/
def Disruption.meets (d : Disruption) (call : Call) : Bool :=
  0 < d.left && d.verb == call.verb.name && occurs d.path.toList call.path.toList

/-- The code with which a call is refused, if it is, and the disruptions after it. -/
def disrupted (call : Call) : List Disruption → Option Nat × List Disruption
  | [] => (none, [])
  | d :: rest =>
    if Disruption.meets d call then (some d.code, { d with left := d.left - 1 } :: rest)
    else
      let (code, rest) := disrupted call rest
      (code, d :: rest)

/-- The objects of a kind. -/
def ofKind (server : Server) (resource : Resource) : Table Json :=
  (server.objects.get? resource.plural).getD Table.empty

/-- An object. -/
def object? (server : Server) (resource : Resource) (name : String) : Option Json :=
  (server.ofKind resource).get? name

/-- The server with an object put in its place. -/
def put (server : Server) (resource : Resource) (name : String) (object : Json) : Server :=
  { server with
    objects := server.objects.insert resource.plural
      ((server.ofKind resource).insert name object) }

/-- The server without an object. -/
def remove (server : Server) (resource : Resource) (name : String) : Server :=
  { server with
    objects := server.objects.insert resource.plural ((server.ofKind resource).erase name) }

/-- The version of an object. -/
def version? (object : Json) : Option String :=
  ((object.present? "metadata").bind (Json.present? "resourceVersion")).bind Json.text?

/-- An object with a version. -/
def withVersion (version : String) (object : Json) : Json :=
  object.patched (.object [("metadata", .object [("resourceVersion", .text version)])])

/-- The version on which a call insists. -/
def demanded? (call : Call) : Option String :=
  let body := call.body.getD .null
  match call.verb with
  | .delete =>
    ((body.present? "preconditions").bind (Json.present? "resourceVersion")).bind Json.text?
  | _ => version? body

/-- The server with an object written: it gets the next version. -/
def write (server : Server) (resource : Resource) (name : String) (object : Json) :
    Json × Server :=
  let next := server.lastVersion + 1
  let object := withVersion (Text.Numeral.ofNat next) object
  (object, { server with lastVersion := next }.put resource name object)

/-- The labels that a selector demands. -/
def demands (selector : String) : List (String × String) :=
  ((split ',' selector.toList).filter (!·.isEmpty)).map fun part =>
    let (key, value) := part.span (· ≠ '=')
    (String.ofList key, String.ofList (value.drop 1))

/-- Whether an object carries the labels that a selector demands. -/
def selects (selector : String) (object : Json) : Bool :=
  let labels := (object.present? "metadata").bind (Json.present? "labels")
  (demands selector).all fun (key, value) =>
    (labels.bind (Json.present? key)).bind Json.text? == some value

/-- A message about an object. -/
def about (resource : Resource) (name what : String) : String :=
  resource.plural ++ " \"" ++ name ++ "\" " ++ what

/-- Lists the objects of a kind. -/
def list (server : Server) (call : Call) : Answer :=
  let selector := (call.query.lookup "labelSelector").getD ""
  .ok (.object [("items",
    .array ((server.ofKind call.resource).values.filter (selects selector)))])

/-- Does what a call asks of one object. -/
def handle (server : Server) (call : Call) (name : String) : Answer × Server :=
  let body := call.body.getD .null
  match call.verb, server.object? call.resource name with
  | .post, some _ =>
    (.error (refusal 409 (about call.resource name "already exists")), server)
  | .post, none =>
    let (object, server) := server.write call.resource name body
    (.ok object, server)
  | _, none => (.error (refusal 404 (about call.resource name "not found")), server)
  | .get, some object => (.ok object, server)
  | verb, some object =>
    if (demanded? call).isSome && demanded? call != version? object then
      (.error (refusal 409 (about call.resource name "was modified")), server)
    else
      match verb with
      | .delete => (.ok object, server.remove call.resource name)
      | .patch =>
        let object := object.patched body
        if call.status then (.ok object, server.put call.resource name object)
        else
          let (object, server) := server.write call.resource name object
          (.ok object, server)
      | _ =>
        let (object, server) := server.write call.resource name body
        (.ok object, server)

/-- The object that a call is about: the one in its path, up to a slash, or the one in its
body. -/
def subject (call : Call) : Option String :=
  match call.verb with
  | .post => ((call.body.bind (Json.present? "metadata")).bind (Json.present? "name")).bind
      Json.text?
  | _ => call.name.map fun name => String.ofList (name.toList.takeWhile (· ≠ '/'))

/-- The report of a refusal as an object. -/
def report (code : Nat) (message : String) : Json :=
  .object [("kind", .text "Status"), ("apiVersion", .text "v1"), ("metadata", .object []),
    ("status", .text "Failure"), ("message", .text message), ("reason", .text (reason code)),
    ("code", .integer code)]

/-- What a refusal under a code comes to. Only a code of the fourth or fifth hundred makes it a
failure; under another one the report is all that there is of an answer. -/
def disruptedAnswer (code : Nat) (message : String) : Answer :=
  if 400 ≤ code ∧ code < 600 then .error (refusal code message)
  else .ok (report code message)

/-- The code of an answer. -/
def code : Answer → Nat
  | .error (.refused code _ _) => code
  | _ => 200

/-- Serves one call: the code of the answer, and the answer. -/
def serve (call : Call) (server : Server) : (Nat × Answer) × Server :=
  match disrupted call server.disruptions with
  | (some code, disruptions) =>
    ((code, disruptedAnswer code "injected"), { server with disruptions })
  | (none, _) =>
    let (answer, server) := match subject call with
      | none => (server.list call, server)
      | some name => server.handle call name
    ((code answer, answer), server)

/-- The name of an object as it was given. -/
def nameOf (object : Json) : String :=
  let metadata := (object.present? "metadata").getD .null
  match metadata.present? "name" with
  | some (.text name) => name
  | _ =>
    match metadata.present? "generateName" with
    | some (.text name) => name
    | _ => ""

/-- The server with objects of a kind put in their places. -/
def putAll (server : Server) (resource : Resource) (objects : List Json) : Server :=
  objects.foldl (fun server object => server.put resource (nameOf object) object) server

/-- The server without the object at a place: its plural and its name, with a slash between. -/
def removeAt (server : Server) (place : String) : Server :=
  let (plural, name) := place.toList.span (· ≠ '/')
  match Resource.every.find? fun resource => resource.plural = String.ofList plural with
  | some resource => server.remove resource (String.ofList (name.drop 1))
  | none => server

end Server

end RingOperator.Api
