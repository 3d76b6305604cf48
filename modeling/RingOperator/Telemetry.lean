import RingOperator.Bringup

/-!
# Counts and durations

What the process counts about its passes: passes by cluster and result, their
durations, members by decision, failures by kind, and the decommissions that
were started and completed. A family shows only the label values that it has
met; the two counters of decommissions are always there.
-/

namespace RingOperator

/-- The durations of the passes of one cluster, in seconds. -/
structure Durations where
  count : Nat := 0
  sum : Float := 0
  /-- How many were at most as long as each bound. -/
  within : List Nat := []

namespace Durations

/-- The bounds, in seconds. -/
def bounds : List Float := [0.005, 0.01, 0.025, 0.05, 0.1, 0.25, 0.5, 1, 2.5, 5, 10]

/-- No durations. -/
def none : Durations := { within := bounds.map fun _ => 0 }

/-- The durations with one more. -/
def add (d : Durations) (seconds : Float) : Durations where
  count := d.count + 1
  sum := d.sum + seconds
  within := d.within.zipWith (fun n bound => if seconds ≤ bound then n + 1 else n) bounds

/-- The whole number nearest to the sum in tenths of a microsecond; a half goes away from
zero. -/
def ticks (d : Durations) : Int := (d.sum * 1e7).round.toInt64.toInt

end Durations

/-- A value of a family, by its label values. -/
abbrev Labeled := List (List String × Nat)

/-- All that is counted. -/
structure Telemetry where
  /-- Passes by cluster and result. -/
  passes : Labeled := []
  durations : Table Durations := Table.empty
  /-- Members by cluster and decision. -/
  members : Labeled := []
  started : Nat := 0
  completed : Nat := 0
  /-- Failures by kind. -/
  failures : Labeled := []

namespace Telemetry

/-- The values of a family with one changed, or entered if it is new. -/
def change (labels : List String) (f : Nat → Nat) : Labeled → Labeled
  | [] => [(labels, f 0)]
  | entry :: rest =>
    if entry.1 = labels then (labels, f entry.2) :: rest
    else if labels < entry.1 then (labels, f 0) :: entry :: rest
    else entry :: change labels f rest

/-- A pass of a cluster that ended with a result after some time. -/
def pass (t : Telemetry) (cluster result : String) (seconds : Float) : Telemetry := {
  t with
  passes := change [cluster, result] (· + 1) t.passes
  durations := t.durations.insert cluster
    (((t.durations.get? cluster).getD Durations.none).add seconds) }

/-- A pass that succeeded. -/
def success (t : Telemetry) (cluster : String) (seconds : Float) : Telemetry :=
  t.pass cluster "success" seconds

/-- A pass that failed. -/
def failedPass (t : Telemetry) (cluster : String) (seconds : Float) : Telemetry :=
  t.pass cluster "failure" seconds

/-- A failure of a kind. -/
def failure (t : Telemetry) (kind : String) : Telemetry :=
  { t with failures := change [kind] (· + 1) t.failures }

/-- The decisions for the members of a cluster: each decision gets its number of members. -/
def decided (t : Telemetry) (cluster : String) (decisions : Table Decision) : Telemetry :=
  let count (d : Decision) : Nat := decisions.values.countP (· = d)
  { t with
    members := Decision.every.foldl (fun family d =>
      change [cluster, d.text] (fun _ => count d) family) t.members }

/-- Something that is counted. -/
inductive Event where
  /-- The decisions for the members of a cluster. -/
  | decided (cluster : String) (decisions : Table Decision)
  | started
  | completed
  /-- A pass of a cluster ended, well or not. -/
  | passed (cluster : String) (well : Bool)
  /-- A failure of a kind. -/
  | failed (kind : String)

/-- The counts after an event, which took some time if it is the end of a pass. -/
def record (t : Telemetry) (seconds : Float) : Event → Telemetry
  | .decided cluster decisions => t.decided cluster decisions
  | .started => { t with started := t.started + 1 }
  | .completed => { t with completed := t.completed + 1 }
  | .passed cluster true => t.success cluster seconds
  | .passed cluster false => t.failedPass cluster seconds
  | .failed kind => t.failure kind

/-- One value, with its name and its labels. -/
structure Sample where
  name : String
  labels : List (String × String)
  value : Nat

/-- The values of a family. -/
def family (name : String) (labels : List String) (values : Labeled) : List Sample :=
  values.map fun (texts, value) => ⟨name, labels.zip texts, value⟩

/-- All values but the durations, by name and label values. -/
def samples (t : Telemetry) : List Sample :=
  [⟨"cassandra_operator_decommissions_completed_total", [], t.completed⟩,
    ⟨"cassandra_operator_decommissions_started_total", [], t.started⟩] ++
  family "cassandra_operator_errors_total" ["type"] t.failures ++
  family "cassandra_operator_members" ["cluster", "reason"] t.members ++
  family "cassandra_operator_reconciliations_total" ["cluster", "result"] t.passes

/-- The name of the durations. -/
def durationsName : String := "cassandra_operator_reconciliation_duration_seconds"

end Telemetry

end RingOperator
