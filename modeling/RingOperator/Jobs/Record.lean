import RingOperator.Failure
import RingOperator.Json.Record
import RingOperator.Time.Written

/-!
# Job records

The durable state of a job that outlives the pass that started it. A record
exists from the start of the job until it is removed. While the job runs, its
heartbeat is renewed; a record whose heartbeat is older than the lease belongs
to a job that died and no longer counts as running.
-/

namespace RingOperator.Jobs

/-- The durable state of one job. -/
structure JobRecord where
  name : String
  started : Instant
  heartbeat : Instant
  /-- When the job ended, if it has. -/
  finished : Option Instant := none
  /-- Why the job failed, if it has. -/
  error : Option String := none
  deriving DecidableEq

/-- The seconds between two heartbeats of a running job. -/
def heartbeatPeriod : Nat := 10

/-- The seconds for which a heartbeat vouches for a job. -/
def lease : Nat := 60

namespace JobRecord

/-- The record of a job that starts now. -/
def fresh (name : String) (now : Instant) : JobRecord :=
  { name, started := now, heartbeat := now }

/-- Whether the job counts as running: it has not ended, and its heartbeat is younger than the
lease. -/
def isRunningAt (record : JobRecord) (now : Instant) : Bool :=
  record.finished.isNone && now.sub record.heartbeat < lease * Instant.nanosPerSecond

/-- An instant as a JSON value. -/
def instant? (value : Json) : Option Instant := value.text?.bind Instant.read

open Json

/-- The record that a JSON value gives. -/
def decode (value : Json) : Option JobRecord :=
  match value.parts? ["name", "started", "heartbeat", "finished", "error"] with
  | some [name, started, heartbeat, finished, error] => do
    return {
      name := ← required text? name
      started := ← required instant? started
      heartbeat := ← required instant? heartbeat
      finished := ← orNothing instant? finished
      error := ← orNothing text? error }
  | _ => none

/-- The record as a JSON value. -/
def encode (record : JobRecord) : Json :=
  .object [
    ("name", .text record.name),
    ("started", .text record.started.write),
    ("heartbeat", .text record.heartbeat.write),
    ("finished", ofText? (record.finished.map Instant.write)),
    ("error", ofText? record.error)]

end JobRecord

/-- A record with the version of the store at which it was read. -/
structure Versioned where
  record : JobRecord
  version : String
  deriving DecidableEq

end RingOperator.Jobs
