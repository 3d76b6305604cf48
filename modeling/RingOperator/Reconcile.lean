import RingOperator.Api.Stores
import RingOperator.Cluster.Status
import RingOperator.Http.Jolokia
import RingOperator.Http.Prober
import RingOperator.Pass
import RingOperator.Report
import RingOperator.Telemetry

/-!
# Reconciling a cluster

One pass over a cluster as the API server holds it. The pass reads pods,
StatefulSets and, where hosts matter, nodes; brings the seed labels in line;
derives the facts of the snapshot and writes them into config maps; and takes
one scaling step. `reconcile` is the pass, and `handle` the pass with what
follows from it: counts, the status of the cluster and the time of the next
pass.

A scaling step may start the task of a job, which goes on beside the passes as
the bench of tasks has it: its action is an `order` to a node, and its
heartbeats and its end go to the store of job records (`onJobs`).
-/

namespace RingOperator

/-- A cluster as the API server holds it. -/
structure Cluster where
  metadata : Metadata
  /-- The namespace that holds the cluster. -/
  space : Option String
  /-- The name of the object, if it has one of its own. -/
  ownName : Option String
  spec : Spec
  status : Option Status

namespace Cluster

open Objects in
/-- The cluster that a JSON value gives. Its metadata must be there, and a list must give all of
its parts. -/
def decode (value : Json) : Option Cluster := do
  guard (value.items?.all fun items => items.length = 3)
  let [some m, spec, status] ← value.parts? ["metadata", "spec", "status"] | none
  guard (Shape.metadata.admits m)
  return {
    metadata := ← metadata? (.object [("metadata", m)])
    space := ← absentOr "namespace" Json.text? m
    ownName := ← absentOr "name" Json.text? m
    spec := ← Json.required Spec.decode spec
    status := ← Json.orNothing Status.decode status }

/-- The identity of a cluster in its region. -/
def identity (cluster : Cluster) : Identity := ⟨cluster.metadata.name, cluster.space.getD ""⟩

/-- The cluster as the owner of what the operator creates for it. -/
def owner (cluster : Cluster) : Option Owner := do
  return {
    apiVersion := "db.ibm.com/v1alpha1", kind := "CassandraCluster"
    name := ← cluster.ownName, uid := ← cluster.metadata.uid
    controller := some true }

end Cluster

namespace Reconcile

/-- What a pass asks of the outside. -/
inductive Ask where
  | api (call : Api.Call)
  | http (request : Http.Request)
  /-- Starts the task of a job that has a node leave the ring. -/
  | launch (job address : String)
  /-- Counts something. -/
  | count (event : Telemetry.Event)

/-- What comes back. -/
@[reducible]
def Reply : Ask → Type
  | .api _ => Api.Answer
  | .http _ => Http.Reply
  | .launch _ _ => Unit
  | .count _ => Unit

/-- A dialogue of a pass that cannot fail as a whole. -/
abbrev Talk (α : Type) := Dialogue Ask Reply α

/-- A dialogue of a pass. -/
abbrev Exchange (α : Type) := ExceptT Failure (Dialogue Ask Reply) α

/-- The surroundings of a cluster: where its objects are, and how its prober and nodes are
reached. -/
structure Surroundings where
  now : Instant
  identity : Identity
  owner : Option Owner
  prober : Http.Prober
  jolokia : Http.Jolokia

namespace Surroundings

/-- The surroundings that the settings give to a cluster. -/
def of (settings : Settings) (cluster : Cluster) (now : Instant) : Surroundings :=
  let identity := cluster.identity
  let url (template : String) := UrlTemplate.fill template identity.name identity.space
  {
    now, identity, owner := cluster.owner
    prober := Http.Prober.of (url settings.prober.localUrl) settings.prober.user
      settings.prober.password
    jolokia := {
      url := url settings.jolokia.url, jmxPort := settings.jolokia.jmxPort
      user := settings.jolokia.user, password := settings.jolokia.password } }

/-- The store of the cluster's job records. -/
def jobStore (around : Surroundings) : Api.JobStore :=
  ⟨around.identity.space, around.identity.name, around.owner⟩

/-- A dialogue with the server. -/
def onServer {α : Type} (exchange : Api.Exchange α) : Exchange α :=
  ExceptT.mk (Dialogue.within Ask.api (fun _ answer => answer) exchange.run : Talk (Outcome α))

/-- An exchange between regions, by requests to the probers. -/
def onProbers {α : Type} (around : Surroundings) (exchange : Regions.Exchange α) : Exchange α :=
  ExceptT.mk (Dialogue.within (fun ask => Ask.http (around.prober.request ask))
    around.prober.understand exchange.run : Talk (Outcome α))

/-- What carries a request of a scaling step. -/
def scalingPlace (around : Surroundings) : Scaling.Ask → Ask
  | .job request => .api (around.jobStore.place request)
  | .setReplicas set count version =>
    .api (Api.ReplicaStore.setCall around.identity.space set count version)
  | .deleteSet set version =>
    .api (Api.ReplicaStore.deleteCall around.identity.space set version)
  | .mode address => .http (around.jolokia.modeRequest address)
  | .ringView address => .http (around.jolokia.viewRequest address)
  | .launch job address => .launch job address

/-- What a reply to a request of a scaling step says. -/
def scalingReply (around : Surroundings) :
    (ask : Scaling.Ask) → Reply (around.scalingPlace ask) → Scaling.Reply ask
  | .job request, answer => Api.JobStore.understand request answer
  | .setReplicas _ _ _, answer => Api.ReplicaStore.understandSet answer
  | .deleteSet _ _, answer => Api.ReplicaStore.understandDelete answer
  | .mode address, reply => Http.Jolokia.understandMode address reply
  | .ringView address, reply => Http.Jolokia.understandView address reply
  | .launch _ _, reply => reply

/-- A scaling step, by calls of the server and requests to the nodes. -/
def onAll {α : Type} (around : Surroundings) (exchange : Scaling.Exchange α) : Exchange α :=
  ExceptT.mk (Dialogue.within around.scalingPlace around.scalingReply exchange.run :
    Talk (Outcome α))

/-- The action of the job of a node: it is told to leave the ring. -/
def order (around : Surroundings) (address : String) : Exchange Unit :=
  ExceptT.mk (.ask (.http (around.jolokia.decommissionRequest address)) fun reply =>
    .done (Http.Jolokia.understandDecommission address reply) : Talk (Outcome Unit))

/-- A dialogue of a task with the store of job records. -/
def onJobs {α : Type} (around : Surroundings) (talk : Jobs.Talk α) : Talk α :=
  (around.jobStore.onServer talk).within Ask.api fun _ answer => answer

end Surroundings

open Surroundings

/-- Counts something. -/
def count (event : Telemetry.Event) : Talk Unit := Dialogue.once (Ask.count event)

/-- Lists the objects of a kind that belong to the database nodes of a cluster. -/
def listOwn {α : Type} (decode : Json → Option α) (resource : Api.Resource)
    (identity : Identity) : Exchange (List α) :=
  onServer (Api.call (Api.listed decode) {
    verb := .get, resource, space := identity.space
    query := [("labelSelector", Labels.selector identity.name)] })

/-- Lists the nodes, if hosts matter to a cluster. -/
def listNodes (spec : Spec) : Exchange (List Node) :=
  if spec.hostPort.enabled || spec.zonesAsRacks then
    onServer (Api.call (Api.listed Node.decode) {
      verb := .get, resource := .nodes, space := none })
  else return []

/-- The merge patch that changes the seed label of a pod. -/
def labelPatch (change : String × Seeding.LabelChange) : Json :=
  .object [("metadata", .object [("labels", .object [(Labels.seedKey,
    match change.2 with
    | .add => .text change.1
    | .remove => .null)])])]

/-- Brings the seed labels of pods in line, one by one. -/
def relabel (space : String) : List (String × Seeding.LabelChange) → Exchange Unit
  | [] => return ()
  | change :: rest => do
    let _ ← onServer (Api.call Pod.decode {
      verb := .patch, resource := .pods, space, name := change.1, body := labelPatch change })
    relabel space rest

/-- A config map of a cluster. -/
def draft (around : Surroundings) (name : String) (data : Table String) : Api.Draft where
  name := name
  labels := Labels.ofComponent around.identity.name Labels.cassandra
  owner := around.owner
  data := data

/-- Derives the facts of a snapshot that has members, and writes them down. -/
def writeFacts (around : Surroundings) (spec : Spec) (s : Snapshot) (directory : Directory) :
    Exchange PassFacts := do
  let identity := around.identity
  let memoryName := Naming.addressMemory identity.name
  let stored ← onServer (Api.getConfigMap identity.space memoryName)
  let memory := (stored.bind (·.data)).getD Table.empty
  let facts ← around.onProbers (Pass.facts spec identity s directory memory)
  if facts.memory ≠ memory then
    onServer (Api.applyConfigMap identity.space (draft around memoryName facts.memory))
  onServer (Api.applyConfigMap identity.space
    (draft around (Naming.startEntries identity.name) facts.sheet.render))
  count (.decided identity.name facts.decisions)
  return facts

/-- One pass over a cluster. -/
def reconcile (settings : Settings) (cluster : Cluster) (now : Instant) :
    Exchange PassReport := do
  let around := Surroundings.of settings cluster now
  let spec := cluster.spec
  let identity := around.identity
  (spec.check : Outcome Unit)
  let pods ← listOwn Pod.decode .pods identity
  let sets ← listOwn StatefulSet.decode .statefulSets identity
  let nodes ← listNodes spec
  let s := Snapshot.ofObjects spec identity.name pods sets
  let directory := Directory.ofNodes spec.hostPort nodes
  let changes := Seeding.labelChanges spec identity.name s.members
  relabel identity.space changes
  let s := s.relabeled changes
  let facts ← if s.isEmpty then pure none
    else do
      let facts ← writeFacts around spec s directory
      pure (some facts)
  let addresses := match facts with
    | some facts => facts.addresses
    | none => Table.empty
  let scale ← around.onAll (Scaling.step now identity.name spec s addresses
    (Scaling.Intent.ofStatefulSets spec sets))
  if scale.started = 1 then count .started
  if scale.completed = 1 then count .completed
  return { plan := facts.map (·.plan), scale, ready := s.readyMembers }

/-- Writes the status of a cluster. -/
def writeStatus (identity : Identity) (status : Status) : Exchange Unit := do
  let _ ← onServer (Api.call Cluster.decode {
    verb := .patch, resource := .clusters, space := identity.space, name := identity.name
    status := true
    query := [("fieldManager", "cassandra-operator")]
    body := some (.object [("status", status.encode)]) })

/-- A pass with what follows from it, and the seconds until the next one. The status is written
whatever the pass came to; a failure that does not pass by itself remains one. -/
def handle (settings : Settings) (cluster : Cluster) (now : Instant) : Exchange Nat := do
  let identity := cluster.identity
  match ← ExceptT.lift (reconcile settings cluster now).run with
  | .ok report =>
    count (.passed identity.name true)
    writeStatus identity (report.status now)
    return report.delay settings
  | .error failure =>
    count (.passed identity.name false)
    count (.failed failure.kind)
    writeStatus identity (Status.afterFailure cluster.status failure now)
    match failure.delay settings with
    | some delay => return delay
    | none => throw failure

end Reconcile

end RingOperator
