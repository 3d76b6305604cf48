import RingOperator.Jobs.Tracker

/-!
# Jobs under way

A process runs its jobs on detached tasks. The `Bench` holds the tasks that
have not ended, on a clock of their own: as the clock advances, each task
renews its heartbeat whenever another period since its start is over, and the
end of a task records the end of its job and then gives one signal. What the
tasks do to the store is a dialogue, so the bench works with any store.
-/

namespace RingOperator.Jobs

/-- A task that has not ended. -/
structure Task where
  job : String
  /-- What the task waits for. -/
  awaited : String
  /-- When it started, in seconds on the clock of the bench. -/
  started : Nat
  deriving DecidableEq

/-- The tasks that have not ended, in the order of their start. -/
structure Bench where
  /-- Seconds since the start. -/
  clock : Nat := 0
  tasks : List Task := []
  /-- Signals of ended jobs that have not been taken. -/
  signals : Nat := 0

namespace Bench

/-- The bench with a task started now. -/
def begin (bench : Bench) (job awaited : String) : Bench :=
  { bench with tasks := bench.tasks ++ [⟨job, awaited, bench.clock⟩] }

/-- The end of a job: it is recorded, and then signalled. -/
def conclude (readings : Vector Instant finishAttempts) (bench : Bench) (job : String)
    (error : Option String) : Talk Bench := do
  finish readings job error
  return { bench with signals := bench.signals + 1 }

/-- How many heartbeats are due from a task by a time of the clock. -/
def beatsBy (task : Task) (time : Nat) : Nat := (time - task.started) / heartbeatPeriod

/-- When the first heartbeat of a task after a time of the clock is due. -/
def nextBeat (time : Nat) (task : Task) : Nat :=
  task.started + (beatsBy task time + 1) * heartbeatPeriod

/-- Some heartbeats of one job, one right after another. -/
def beat (now : Instant) (job : String) : Nat → Talk Unit
  | 0 => .done ()
  | count + 1 => do
    heartbeat now job
    beat now job count

/-- The heartbeats that fall due between two times of the clock, task by task. -/
def catchUp (now : Instant) (before after : Nat) : List Task → Talk Unit
  | [] => .done ()
  | task :: rest => do
    beat now task.job (beatsBy task after - beatsBy task before)
    catchUp now before after rest

/-- The clock advanced at once by some seconds. The tasks wake in the order in which their next
heartbeats are due, those of one time in the order of their start, and each one makes up for all
of its own. -/
def advance (now : Instant) (bench : Bench) (seconds : Nat) : Talk Bench := do
  let after := bench.clock + seconds
  catchUp now bench.clock after <|
    bench.tasks.mergeSort fun a b => nextBeat bench.clock a ≤ nextBeat bench.clock b
  return { bench with clock := after }

/-- The last task that waits for something, and the bench without it. -/
def release? (bench : Bench) (awaited : String) : Option (Task × Bench) :=
  match bench.tasks.reverse.find? fun task => task.awaited = awaited with
  | none => none
  | some task =>
    let before := bench.tasks.reverse.takeWhile fun task => task.awaited ≠ awaited
    let after := bench.tasks.reverse.dropWhile fun task => task.awaited ≠ awaited
    some (task, { bench with tasks := (before ++ after.drop 1).reverse })

/-- The bench with its signals taken, and how many there were. -/
def takeSignals (bench : Bench) : Nat × Bench := (bench.signals, { bench with signals := 0 })

end Bench

end RingOperator.Jobs
