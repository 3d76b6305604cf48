import RingOperator.Api.ConfigMaps
import RingOperator.Jobs.Tracker
import RingOperator.Json.Reader
import RingOperator.Json.Writer
import RingOperator.Scaling.Step

/-!
# Stores on the API server

Job records are kept as config maps, one for each record, and counts as the
replicas of StatefulSets. Every request to either store is one call.
-/

namespace RingOperator.Api

/-- Where job records are kept. -/
structure JobStore where
  space : String
  cluster : String
  owner : Option Owner

namespace JobStore

/-- The field of a config map that holds the record. -/
def dataKey : String := "job"

/-- The config map of a record. -/
def draft (store : JobStore) (record : Jobs.JobRecord) (version : Option String) : Draft where
  name := record.name
  labels := (Labels.ofComponent store.cluster Labels.cassandra).insert Labels.jobKey "true"
  owner := store.owner
  version := version
  data := Table.ofList [(dataKey, record.encode.write)]

/-- The call that makes a request. -/
def place (store : JobStore) : Jobs.Ask → Call
  | .get name => { verb := .get, resource := .configMaps, space := store.space, name }
  | .create record => {
      verb := .post, resource := .configMaps, space := store.space
      body := (store.draft record none).encode }
  | .update record version => {
      verb := .put, resource := .configMaps, space := store.space, name := record.name
      body := (store.draft record (some version)).encode }
  | .delete name version => {
      verb := .delete, resource := .configMaps, space := store.space, name
      body := some (.object [("preconditions",
        .object [("resourceVersion", .text version)])]) }

/-- The record that a config map holds. -/
def recordOf (name : String) (map : ConfigMap) : Outcome Jobs.Versioned :=
  match map.data.bind (·.get? dataKey) with
  | none => .error (.invariant ("job config map " ++ name ++ " has no record"))
  | some text =>
    match (Json.read text).bind Jobs.JobRecord.decode with
    | none => .error (.unreadable unreadableDetail)
    | some record => .ok ⟨record, map.metadata.version.getD ""⟩

/-- A write that failed: a conflict is one of the job. -/
def writeFailure (name : String) (failure : ApiFailure) : Failure :=
  if failure.isConflict then .jobConflict name else .api failure

/-- The outcome of writing a record. -/
def written (name : String) : Answer → Outcome Unit
  | .error failure => .error (writeFailure name failure)
  | .ok value =>
    match ConfigMap.decode value with
    | some _ => .ok ()
    | none => .error (.api .undecodable)

/-- What the answer to a call says. A record that is not there is deleted. -/
def understand : (request : Jobs.Ask) → Answer → Jobs.Reply request
  | .get name, answer => do
    match ← understandPresent ConfigMap.decode answer with
    | none => return none
    | some map => return some (← recordOf name map)
  | .create record, answer => written record.name answer
  | .update record _, answer => written record.name answer
  | .delete name _, answer =>
    match answer with
    | .ok _ => .ok ()
    | .error failure => if failure.isMissing then .ok () else .error (writeFailure name failure)

/-- A dialogue with the store as one with the server. -/
def onServer {α : Type} (store : JobStore) (talk : Jobs.Talk α) : Talk α :=
  talk.within store.place understand

end JobStore

namespace ReplicaStore

/-- The call that sets the count of a StatefulSet. -/
def setCall (space statefulSet : String) (count : Int) (version : String) : Call where
  verb := .patch
  resource := .statefulSets
  space := space
  name := statefulSet
  body := some (.object [
    ("metadata", .object [("resourceVersion", .text version)]),
    ("spec", .object [("replicas", .integer count)])])

/-- The call that deletes a StatefulSet. -/
def deleteCall (space statefulSet version : String) : Call where
  verb := .delete
  resource := .statefulSets
  space := space
  name := statefulSet
  body := some (.object [("preconditions", .object [("resourceVersion", .text version)])])

/-- Whether the count was set. -/
def understandSet (answer : Answer) : Outcome Unit := do
  let _ ← Api.understand StatefulSet.decode answer

/-- Whether the StatefulSet is gone. -/
def understandDelete : Answer → Outcome Unit
  | .ok _ => .ok ()
  | .error failure => if failure.isMissing then .ok () else .error (.api failure)

end ReplicaStore

end RingOperator.Api
