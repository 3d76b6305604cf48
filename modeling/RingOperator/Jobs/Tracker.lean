import RingOperator.Jobs.Store

/-!
# Tracking jobs

At most one job of a name is under way: a job starts by creating its record,
which fails while there is one. While the job runs, `heartbeat` renews the
record from time to time; when it has ended, `finish` records the end. Both
write only under the version that they have just read, and a write that fails
is left to the next heartbeat or tried again.
-/

namespace RingOperator.Jobs

/-- One request to the store. -/
def get (name : String) : Exchange (Option Versioned) :=
  ExceptT.mk (Dialogue.once (Ask.get name) : Talk (Outcome (Option Versioned)))

/-- Creates a record. -/
def create (record : JobRecord) : Exchange Unit :=
  ExceptT.mk (Dialogue.once (Ask.create record) : Talk (Outcome Unit))

/-- Replaces a record that is unchanged since a version. -/
def update (record : JobRecord) (version : String) : Exchange Unit :=
  ExceptT.mk (Dialogue.once (Ask.update record version) : Talk (Outcome Unit))

/-- Deletes a record that is unchanged since a version. -/
def delete (name version : String) : Exchange Unit :=
  ExceptT.mk (Dialogue.once (Ask.delete name version) : Talk (Outcome Unit))

/-- The record of a job, if there is one. -/
def job? (name : String) : Exchange (Option JobRecord) := do
  return (← get name).map (·.record)

/-- Whether a job has a record. -/
def isKnown (name : String) : Exchange Bool := do return (← get name).isSome

/-- Whether a job counts as running. -/
def isRunning (now : Instant) (name : String) : Exchange Bool := do
  match ← get name with
  | some current => return current.record.isRunningAt now
  | none => return false

/-- Creates the record of a job that starts now. -/
def start (now : Instant) (name : String) : Exchange Unit := create (JobRecord.fresh name now)

/-- Removes the record of a job that is not running; nothing to do if there is none. -/
def remove (now : Instant) (name : String) : Exchange Unit := do
  match ← get name with
  | none => return ()
  | some current =>
    if current.record.isRunningAt now then
      throw (.jobConflict (name ++
        " is still running, removing running jobs is not allowed"))
    else delete name current.version

/-- Renews the heartbeat of a job's record, if it can be read and written. -/
def heartbeat (now : Instant) (name : String) : Talk Unit :=
  .ask (.get name) fun
    | .ok (some current) =>
      .ask (.update { current.record with heartbeat := now } current.version) fun _ => .done ()
    | _ => .done ()

/-- How often the end of a job is tried to be recorded. -/
def finishAttempts : Nat := 5

/-- Records the end of a job in rounds of reading and writing, at most one for each reading of the
clock. The first write that succeeds ends it, and so does a record that is no longer there. -/
def finishWithin (name : String) (error : Option String) : List Instant → Talk Unit
  | [] => .done ()
  | now :: later =>
    .ask (.get name) fun
      | .ok (some current) =>
        .ask (.update { current.record with finished := some now, error } current.version) fun
          | .ok () => .done ()
          | .error _ => finishWithin name error later
      | .ok none => .done ()
      | .error _ => finishWithin name error later

/-- Records the end of a job. Every round reads the clock. -/
def finish (readings : Vector Instant finishAttempts) (name : String) (error : Option String) :
    Talk Unit :=
  finishWithin name error readings.toList

/-- The text under which the result of an action is recorded, if it has failed. -/
def errorOf : Outcome Unit → Option String
  | .ok () => none
  | .error failure => some failure.message

end RingOperator.Jobs
