import RingOperator.Bringup
import RingOperator.Cluster.Status
import RingOperator.Scaling.Step
import RingOperator.Settings.Basic
import RingOperator.Time.Written

/-!
# Reports of passes

What a pass that succeeded reports (`PassReport.status`), what remains of the
status after one that failed (`Status.afterFailure`), and when the next pass is
due.
-/

namespace RingOperator

/-- What a pass that succeeded has to say. -/
structure PassReport where
  /-- Nothing while the cluster has no pods. -/
  plan : Option Plan
  scale : Scaling.Result
  /-- How many members are ready. -/
  ready : Nat
  deriving DecidableEq

namespace PassReport

/-- The phase, the datacenter that is brought up and the message that follow from the plan
alone. -/
def planned : Option Plan → Phase × Option String × String
  | none => (.pending, none, "waiting for cassandra pods")
  | some (.regionPaused next) =>
    (.waitingForRegions, none, "waiting for region " ++ next ++ " to be ready")
  | some (.initializing dc) => (.initializing, some dc, "initializing dc " ++ dc)
  | some .converged => (.running, none, "cluster is running")

/-- The pod that is drained and the message, if a scaling step was taken. -/
def scaled : Scaling.Result → Option (Option String × String)
  | .idle => none
  | .waiting pod | .decommissionStarted pod => some (some pod, "decommissioning pod " ++ pod)
  | .scaledUp dc replicas | .scaledDown dc replicas =>
    some (none, "scaling dc " ++ dc ++ " to " ++ Text.Numeral.ofInt replicas ++ " replicas")
  | .dcRemoved dc => some (none, "removed dc " ++ dc)

/-- The status after the pass. A running cluster that takes a scaling step is scaling, and the
step has the word. The number of ready members has thirty-two bits. -/
def status (report : PassReport) (now : Instant) : Status :=
  let (phase, initializingDc, message) := planned report.plan
  let readyNodes := Int.bmod report.ready 4294967296
  let lastReconciled := some now.writeWithOffset
  match scaled report.scale with
  | none => { phase, readyNodes, initializingDc, message := some message, lastReconciled }
  | some (decommissioning, message) => {
      phase := if phase = .running then .scaling else phase
      readyNodes, initializingDc, decommissioning, message := some message, lastReconciled }

/-- Whether there is still work under way. -/
def converging (report : PassReport) : Bool :=
  report.scale ≠ .idle || report.plan ≠ some .converged

/-- The delay, in seconds, before the next pass. -/
def delay (settings : Settings) (report : PassReport) : Nat :=
  if report.converging then settings.requeue.retry else settings.requeue.resync

end PassReport

/-- The status after a pass that failed: the message is that of the failure, and the phase is
kept unless the failure is final. -/
def Status.afterFailure (previous : Option Status) (failure : Failure) (now : Instant) : Status :=
  let previous := previous.getD {}
  {
    previous with
    phase := if failure.isRetryable then previous.phase else .failed
    message := some failure.message
    lastReconciled := some now.writeWithOffset }

namespace Failure

/-- The delay, in seconds, after a failure that ended the handling of a cluster. While the state
of the process is taken by somebody else, its settings cannot be read, and it is a minute. -/
def policyDelay (settings : Option Settings) (failure : Failure) : Nat :=
  match settings with
  | none => 60
  | some settings => (failure.delay settings).getD settings.requeue.resync

end Failure

/-- A number of seconds as text. -/
def secondsText (n : Nat) : String :=
  if n = 0 then "0ns" else Text.Numeral.ofNat n ++ "s"

end RingOperator
