import RingOperator.Jobs.Tracker
import RingOperator.Proofs.Logs

/-!
# What the tracker asks of its store

The logs of the operations of the tracker: which requests they make, in which
order, and what follows from the replies. Every operation asks only about the
job that it is about (`Ask.name`).
-/

namespace RingOperator.Jobs

open Dialogue

/-- The job that a request is about. -/
def Ask.name : Ask → String
  | .get name => name
  | .create record => record.name
  | .update record _ => record.name
  | .delete name _ => name

variable {now : Instant} {name version : String} {record : JobRecord}
  {log : List (Entry Reply)}

@[simp] theorem ends_get {result : Outcome (Option Versioned)} :
    (get name).run.Ends log result ↔ log = [⟨.get name, result⟩] :=
  ends_once

@[simp] theorem ends_create {result : Outcome Unit} :
    (create record).run.Ends log result ↔ log = [⟨.create record, result⟩] :=
  ends_once

@[simp] theorem ends_delete {result : Outcome Unit} :
    (delete name version).run.Ends log result ↔ log = [⟨.delete name version, result⟩] :=
  ends_once

@[simp] theorem ends_start {result : Outcome Unit} :
    (start now name).run.Ends log result ↔ log = [⟨.create (.fresh name now), result⟩] :=
  ends_create

/-- A job counts as running if its record, as it is read, does so. -/
theorem ends_isRunning {result : Outcome Bool} : (isRunning now name).run.Ends log result ↔
    ∃ reply : Outcome (Option Versioned), log = [⟨.get name, reply⟩] ∧
      result = reply.map fun seen => seen.any (·.record.isRunningAt now) := by
  have mapped : isRunning now name =
      get name >>= fun seen => pure (seen.any (·.record.isRunningAt now)) :=
    congrArg (get name >>= ·) (funext fun seen => by cases seen <;> rfl)
  rw [mapped, ends_map_except]
  simp only [ends_get]

/-- The record of a job, as it is read. -/
theorem ends_job? {result : Outcome (Option JobRecord)} : (job? name).run.Ends log result ↔
    ∃ reply : Outcome (Option Versioned), log = [⟨.get name, reply⟩] ∧
      result = reply.map (·.map (·.record)) := by
  rw [job?, ends_map_except]
  simp only [ends_get]

/-- The removal of a job reads its record and, if there is one that is not
    running, deletes that version of it. -/
theorem ends_remove {result : Outcome Unit} (h : (remove now name).run.Ends log result) :
    ∃ reply rest, log = ⟨.get name, reply⟩ :: rest ∧
      (rest = [] ∨ ∃ current, reply = .ok (some current) ∧
        current.record.isRunningAt now = false ∧
          rest = [⟨.delete name current.version, result⟩]) := by
  rw [remove, ends_bind_except] at h
  rcases h with ⟨failure, h, rfl⟩ | ⟨first, second, seen, rfl, h, hr⟩
  · exact ⟨_, [], ends_get.1 h, .inl rfl⟩
  · obtain rfl := ends_get.1 h
    cases seen with
    | none => exact ⟨_, second, rfl, .inl hr.1⟩
    | some current =>
      refine ⟨_, second, rfl, ?_⟩
      by_cases running : current.record.isRunningAt now = true
      · simp only [running, if_true] at hr
        exact .inl hr.1
      · simp only [running] at hr
        exact .inr ⟨current, rfl, by simpa using running, ends_delete.1 hr⟩

theorem name_of_ends_job? {result : Outcome (Option JobRecord)}
    (h : (job? name).run.Ends log result) : ∀ e ∈ log, e.1.name = name := by
  obtain ⟨reply, rfl, -⟩ := ends_job?.1 h
  simp [Ask.name]

theorem name_of_ends_start {result : Outcome Unit} (h : (start now name).run.Ends log result) :
    ∀ e ∈ log, e.1.name = name := by
  obtain rfl := ends_start.1 h
  simp [Ask.name, JobRecord.fresh]

theorem name_of_ends_remove {result : Outcome Unit} (h : (remove now name).run.Ends log result) :
    ∀ e ∈ log, e.1.name = name := by
  obtain ⟨reply, rest, rfl, rfl | ⟨current, -, -, rfl⟩⟩ := ends_remove h <;> simp [Ask.name]

end RingOperator.Jobs
