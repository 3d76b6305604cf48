import RingOperator.Api.Server
import RingOperator.Jobs.Bench
import RingOperator.Reconcile

/-!
# Rehearsed reconciling

Everything that passes over a cluster meet: the API server with a note of
every call and the code of its answer, what is counted, and probers and nodes
that reply to each request over HTTP as a function says. The task of a job runs
to its end as soon as it is started, and its calls are noted apart.

The site is a stand-in as well (compare `Rehearsal.Ring`), with the calls as they
go over the wire. It lets whole passes run as they are defined; theorems about
them are about every server and every reply, and none is about this site.
-/

namespace RingOperator.Rehearsal

/-- A call that was noted, with the code of its answer. -/
abbrev NotedCall := Api.Call × Nat

/-- What passes over a cluster meet. -/
structure Site where
  /-- The reading of every wall clock. -/
  now : Instant
  /-- What is replied to a request over HTTP. -/
  reply : Http.Request → Http.Reply
  server : Api.Server := {}
  calls : List NotedCall := []
  /-- The calls of the tasks of jobs. -/
  jobCalls : List NotedCall := []
  telemetry : Telemetry := {}

namespace Site

/-- Sends one call to the API server, and notes it if it arrives. -/
def call (c : Api.Call) (site : Site) : Api.Answer × Site :=
  match c.sent? with
  | none => (.error .unsendable, site)
  | some c =>
    let ((code, answer), server) := site.server.serve c
    (answer, { site with server, calls := site.calls ++ [(c, code)] })

/-- Serves one request of a pass, where a function runs the task of a job. -/
def serve (runTask : String → String → Site → Site) :
    (ask : Reconcile.Ask) → Site → Reconcile.Reply ask × Site
  | .api c, site => site.call c
  | .http request, site => (site.reply request, site)
  | .launch job address, site => ((), runTask job address site)
  | .count event, site => ((), { site with telemetry := site.telemetry.record 0 event })

/-- Runs the task of a job to its end, before its first heartbeat is due. A task starts no other
one. -/
def runTask (around : Reconcile.Surroundings) (job address : String) (site : Site) : Site :=
  let task : Reconcile.Talk Jobs.Bench := do
    let result ← (around.order address).run
    around.onJobs (Jobs.Bench.conclude (.replicate _ site.now) {} job (Jobs.errorOf result))
  let (_, ended) := task.run (serve fun _ _ site => site) { site with calls := [] }
  { ended with calls := site.calls, jobCalls := site.jobCalls ++ ended.calls }

/-- Plays a part of a pass over a cluster. -/
def play {α : Type} (settings : Settings) (cluster : Cluster) (exchange : Reconcile.Exchange α)
    (site : Site) : Outcome α × Site :=
  exchange.run.run (serve (runTask (Reconcile.Surroundings.of settings cluster site.now))) site

/-- One pass over a cluster. -/
def reconcile (settings : Settings) (cluster : Cluster) (site : Site) :
    Outcome PassReport × Site :=
  site.play settings cluster (Reconcile.reconcile settings cluster site.now)

/-- One pass over a cluster, with what follows from it. -/
def handle (settings : Settings) (cluster : Cluster) (site : Site) : Outcome Nat × Site :=
  site.play settings cluster (Reconcile.handle settings cluster site.now)

/-- Plays a dialogue with the store of job records. -/
def onJobs {α : Type} (store : Api.JobStore) (talk : Jobs.Talk α) (site : Site) : α × Site :=
  (store.onServer talk).run call site

/-- Sets the count of a StatefulSet. -/
def setReplicas (space name : String) (count : Int) (version : String) (site : Site) :
    Outcome Unit × Site :=
  let (answer, site) := site.call (Api.ReplicaStore.setCall space name count version)
  (Api.ReplicaStore.understandSet answer, site)

/-- Deletes a StatefulSet. -/
def deleteSet (space name version : String) (site : Site) : Outcome Unit × Site :=
  let (answer, site) := site.call (Api.ReplicaStore.deleteCall space name version)
  (Api.ReplicaStore.understandDelete answer, site)

/-- The site with everything noted forgotten. -/
def cleared (site : Site) : Site := { site with calls := [], jobCalls := [] }

end Site

end RingOperator.Rehearsal
