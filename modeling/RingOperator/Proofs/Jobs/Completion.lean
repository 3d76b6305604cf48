import RingOperator.Jobs.Bench
import RingOperator.Proofs.Jobs.Requests

/-!
# How the end of a job is recorded and signalled

The end of a job is recorded in rounds, each a reading of the record and a writing of what
was read (`Round`). Whatever the store replies, a round that fails is followed by another
one as long as there are rounds left, and nothing follows any other round
(`ends_finishWithin`). So the end of a job stays unrecorded only if its record is not there,
or if all rounds have failed.

Tasks of jobs begin and end on a bench, which counts the signals that they give
(`Bench.Diary.Works`): one for each job, once the recording of its end has ended
(`Bench.ends_conclude`).
-/

namespace RingOperator.Jobs

open Dialogue

/-! ## Rounds -/

/-- What a round in which the end of a job is to be recorded comes to. -/
inductive Round where
  /-- The record cannot be read. -/
  | unread (failure : Failure)
  /-- There is no record. -/
  | missing
  /-- The record that was read is written with the end in it. -/
  | recorded (current : Versioned)
  /-- The record that was read cannot be written. -/
  | refused (current : Versioned) (failure : Failure)

namespace Round

/-- Neither is the end recorded nor is the record gone. -/
def Fails : Round → Prop
  | unread _ | refused _ _ => True
  | missing | recorded _ => False

/-- The requests of a round with their replies. -/
def entries (now : Instant) (name : String) (error : Option String) :
    Round → List (Entry Reply)
  | unread failure => [⟨.get name, .error failure⟩]
  | missing => [⟨.get name, .ok none⟩]
  | recorded current => [⟨.get name, .ok (some current)⟩,
      ⟨.update { current.record with finished := some now, error } current.version, .ok ()⟩]
  | refused current failure => [⟨.get name, .ok (some current)⟩,
      ⟨.update { current.record with finished := some now, error } current.version,
        .error failure⟩]

/-- The requests of rounds, one after another, each with what it has read of the clock. -/
def logOf (name : String) (error : Option String) (rounds : List (Instant × Round)) :
    List (Entry Reply) :=
  rounds.flatMap fun (now, round) => round.entries now name error

end Round

variable {now : Instant} {name : String} {error : Option String} {readings : List Instant}
  {log : List (Entry Reply)}

/-- A round that fails is followed by those that are left, and any other one is the last. -/
theorem ends_finishWithin_cons : (finishWithin name error (now :: readings)).Ends log () ↔
    (∃ last : Round, ¬ last.Fails ∧ log = last.entries now name error) ∨
    ∃ (round : Round) (rest : List (Entry Reply)), round.Fails ∧
      log = round.entries now name error ++ rest ∧
        (finishWithin name error readings).Ends rest () := by
  constructor
  · rintro ⟨read, rest, rfl, ends⟩
    rcases read with failure | _ | current
    · exact .inr ⟨.unread failure, rest, trivial, rfl, ends⟩
    · obtain ⟨rfl, -⟩ := ends
      exact .inl ⟨.missing, id, rfl⟩
    · obtain ⟨wrote, rest, rfl, ends⟩ := ends
      rcases wrote with failure | _
      · exact .inr ⟨.refused current failure, rest, trivial, rfl, ends⟩
      · obtain ⟨rfl, -⟩ := ends
        exact .inl ⟨.recorded current, id, rfl⟩
  · rintro (⟨last, closes, rfl⟩ | ⟨round, rest, fails, rfl, ends⟩)
    · cases last with
      | unread | refused => exact absurd trivial closes
      | missing => exact ⟨_, [], rfl, rfl, rfl⟩
      | recorded current => exact ⟨_, _, rfl, .ok (), [], rfl, rfl, rfl⟩
    · cases round with
      | missing | recorded => cases fails
      | unread failure => exact ⟨_, rest, rfl, ends⟩
      | refused current failure => exact ⟨_, _, rfl, .error failure, rest, rfl, ends⟩

/-- The end of a job is tried to be recorded until a round does not fail, or all are spent. -/
theorem ends_finishWithin : (finishWithin name error readings).Ends log () ↔
    ∃ failing : List Round, (∀ round ∈ failing, round.Fails) ∧
      ((failing.length = readings.length ∧ log = Round.logOf name error (readings.zip failing)) ∨
        failing.length < readings.length ∧ ∃ last : Round, ¬ last.Fails ∧
          log = Round.logOf name error (readings.zip (failing ++ [last]))) := by
  induction readings generalizing log with
  | nil =>
    constructor
    · rintro ⟨rfl, -⟩
      exact ⟨[], by simp, .inl ⟨rfl, rfl⟩⟩
    · rintro ⟨failing, -, ⟨none, rfl⟩ | ⟨none, -⟩⟩
      · exact ⟨rfl, rfl⟩
      · exact absurd none (Nat.not_lt_zero _)
  | cons now readings ih =>
    rw [ends_finishWithin_cons]
    constructor
    · rintro (⟨last, closes, rfl⟩ | ⟨round, rest, fails, rfl, ends⟩)
      · exact ⟨[], by simp, .inr ⟨Nat.succ_pos _, last, closes, by simp [Round.logOf]⟩⟩
      · obtain ⟨failing, all, spent⟩ := ih.1 ends
        refine ⟨round :: failing, List.forall_mem_cons.2 ⟨fails, all⟩, ?_⟩
        obtain ⟨count, rfl⟩ | ⟨few, last, closes, rfl⟩ := spent
        · exact .inl ⟨congrArg (· + 1) count, rfl⟩
        · exact .inr ⟨Nat.succ_lt_succ few, last, closes, rfl⟩
    · rintro ⟨_ | ⟨round, failing⟩, all, ⟨count, rfl⟩ | ⟨few, last, closes, rfl⟩⟩
      · cases count
      · exact .inl ⟨last, closes, by simp [Round.logOf]⟩
      · obtain ⟨fails, all⟩ := List.forall_mem_cons.1 all
        exact .inr ⟨round, _, fails, rfl,
          ih.2 ⟨failing, all, .inl ⟨Nat.succ.inj count, rfl⟩⟩⟩
      · obtain ⟨fails, all⟩ := List.forall_mem_cons.1 all
        exact .inr ⟨round, _, fails, rfl,
          ih.2 ⟨failing, all, .inr ⟨Nat.lt_of_succ_lt_succ few, last, closes, rfl⟩⟩⟩

/-! ## What is written -/

/-- A write replaces the record that was read right before it, under the version that it had then,
by the same one with the end in it, at one of some instants. -/
def WritesRead (readings : List Instant) (name : String) (error : Option String)
    (before : List (Entry Reply)) (e : Entry Reply) : Prop :=
  ∀ record version, e.1 = .update record version → ∃ now ∈ readings, ∃ earlier current,
    before = earlier ++ [⟨.get name, .ok (some current)⟩] ∧ version = current.version ∧
      record = { current.record with finished := some now, error }

/-- A record was not there, or was written. -/
def Closes : Entry Reply → Prop
  | ⟨.get _, .ok none⟩ | ⟨.update _ _, .ok ()⟩ => True
  | _ => False

namespace Round

variable {round : Round} {rounds : List (Instant × Round)}

theorem throughout_entries (read : now ∈ readings) (earlier : List (Entry Reply)) (round : Round) :
    Throughout (fun before => WritesRead readings name error (earlier ++ before))
      (round.entries now name error) := by
  have reads (e : Entry Reply) (asks : e.1 = .get name) (before : List (Entry Reply)) :
      WritesRead readings name error before e := by
    intro record version writes
    rw [asks] at writes
    cases writes
  have wrote (current : Versioned) (reply : Outcome Unit) : WritesRead readings name error
      (earlier ++ [⟨.get name, .ok (some current)⟩])
      ⟨.update { current.record with finished := some now, error } current.version, reply⟩ := by
    rintro record version ⟨⟩
    exact ⟨now, read, earlier, current, rfl, rfl, rfl⟩
  cases round with
  | unread | missing => exact throughout_cons (reads _ rfl _) throughout_nil
  | recorded current | refused current =>
    exact throughout_cons (reads _ rfl _) (throughout_cons (wrote current _) throughout_nil)

theorem throughout_logOf (read : ∀ r ∈ rounds, r.1 ∈ readings) :
    Throughout (WritesRead readings name error) (logOf name error rounds) := by
  have later (earlier : List (Entry Reply)) :
      Throughout (fun before => WritesRead readings name error (earlier ++ before))
        (logOf name error rounds) := by
    induction rounds generalizing earlier with
    | nil => exact throughout_nil
    | cons round rounds ih =>
      obtain ⟨first, others⟩ := List.forall_mem_cons.1 read
      refine throughout_append (throughout_entries first earlier round.2) ?_
      have rest := ih others (earlier ++ round.2.entries round.1 name error)
      simp only [List.append_assoc] at rest
      exact rest
  exact later []

theorem not_closes_of_fails (fails : ∀ r ∈ rounds, r.2.Fails) :
    ∀ e ∈ logOf name error rounds, ¬ Closes e := by
  intro e among
  obtain ⟨⟨now, round⟩, given, among⟩ := List.mem_flatMap.1 among
  cases round with
  | missing | recorded => exact absurd (fails _ given) id
  | unread failure =>
    obtain rfl := List.mem_singleton.1 among
    exact id
  | refused current failure =>
    obtain rfl | rfl : e = _ ∨ e = _ := by simpa [entries] using among
    · exact id
    · exact id

/-- Of the entries of a round only the last one can close. -/
theorem not_closes_of_mem_dropLast :
    ∀ e ∈ (round.entries now name error).dropLast, ¬ Closes e := by
  intro e among
  cases round with
  | unread | missing => cases among
  | recorded current | refused current =>
    obtain rfl := List.mem_singleton.1 among
    exact id

theorem entries_ne_nil : round.entries now name error ≠ [] := by
  cases round <;> exact List.cons_ne_nil _ _

/-- The round after some others reads the clock as well, if there are readings left. -/
theorem exists_zip_concat {failing : List Round} (few : failing.length < readings.length)
    (last : Round) : ∃ now ∈ readings,
      readings.zip (failing ++ [last]) = readings.zip failing ++ [(now, last)] := by
  induction readings generalizing failing with
  | nil => cases few
  | cons now readings ih =>
    cases failing with
    | nil => exact ⟨now, List.mem_cons_self, by simp⟩
    | cons round failing =>
      obtain ⟨later, among, same⟩ := ih (Nat.lt_of_succ_lt_succ few)
      exact ⟨later, List.mem_cons_of_mem _ among, congrArg ((now, round) :: ·) same⟩

end Round

/-- What is read is written back with the end in it, and after a record was written or was not
there, nothing is asked. If no record was written, there was none, or all rounds have failed. -/
theorem writes_of_ends_finishWithin (ends : (finishWithin name error readings).Ends log ()) :
    Throughout (WritesRead readings name error) log ∧ (∀ e ∈ log.dropLast, ¬ Closes e) ∧
      ((∀ record version, ⟨.update record version, .ok ()⟩ ∉ log) →
        log.getLast? = some ⟨.get name, .ok none⟩ ∨ ∃ failing : List Round,
          failing.length = readings.length ∧ (∀ round ∈ failing, round.Fails) ∧
            log = Round.logOf name error (readings.zip failing)) := by
  obtain ⟨failing, fails, spent⟩ := ends_finishWithin.1 ends
  have open' : ∀ e ∈ Round.logOf name error (readings.zip failing), ¬ Closes e :=
    Round.not_closes_of_fails fun r among => fails _ (List.of_mem_zip among).2
  obtain ⟨count, rfl⟩ | ⟨few, last, closes, rfl⟩ := spent
  · exact ⟨Round.throughout_logOf fun r among => (List.of_mem_zip among).1,
      fun e among => open' e (List.dropLast_subset _ among),
      fun _ => .inr ⟨failing, count, fails, rfl⟩⟩
  refine ⟨Round.throughout_logOf fun r among => (List.of_mem_zip among).1, ?_, ?_⟩
  all_goals
    obtain ⟨now, -, split⟩ := Round.exists_zip_concat few last
    rw [split, Round.logOf, List.flatMap_append, List.flatMap_singleton]
  · rw [List.dropLast_append_of_ne_nil Round.entries_ne_nil]
    exact List.forall_mem_append.2 ⟨open', Round.not_closes_of_mem_dropLast⟩
  · refine fun unwritten => .inl ?_
    cases last with
    | unread | refused => exact absurd trivial closes
    | missing => simp [Round.entries]
    | recorded current =>
      refine absurd ?_ (unwritten { current.record with finished := some now, error }
        current.version)
      simp [Round.entries]

/-! ## Signals -/

namespace Bench

variable {bench bench' rest : Bench} {task : Task} {awaited job : String} {result : Outcome Unit}
  {clock : Vector Instant finishAttempts}

/-- Once the recording of the end of a job has ended, there is one signal more. -/
theorem ends_conclude : (bench.conclude clock job error).Ends log bench' ↔
    (finish clock job error).Ends log () ∧
      bench' = { bench with signals := bench.signals + 1 } := by
  rw [conclude, ends_bind]
  constructor
  · rintro ⟨first, second, ⟨⟩, rfl, ends, rfl, rfl⟩
    exact ⟨by rwa [List.append_nil], rfl⟩
  · rintro ⟨ends, rfl⟩
    exact ⟨log, [], (), (List.append_nil log).symm, ends, rfl, rfl⟩

/-- Whatever serves its requests, the end of a job comes to a signal. -/
theorem run_conclude {σ : Type} (serve : (request : Ask) → σ → Reply request × σ) (s : σ) :
    (bench.conclude clock job error).run serve s =
      ({ bench with signals := bench.signals + 1 }, ((finish clock job error).run serve s).2) := by
  rw [conclude, run_bind, run_pure]

/-- A task that is released is one of the bench, and the others stay. -/
theorem perm_of_release? (h : bench.release? awaited = some (task, rest)) :
    bench.tasks.Perm (task :: rest.tasks) ∧ rest.signals = bench.signals := by
  rw [release?] at h
  split at h
  · cases h
  · rename_i last found
    obtain ⟨waits, before, after, split, others⟩ := List.find?_eq_some_iff_append.1 found
    have differ : ∀ other ∈ before, decide (other.awaited ≠ awaited) = true := by
      simpa using others
    have passed : (before ++ last :: after).takeWhile (fun task => task.awaited ≠ awaited) =
        before := by
      rw [List.takeWhile_append_of_pos differ, List.takeWhile_cons_of_neg (by simpa using waits),
        List.append_nil]
    have left : (before ++ last :: after).dropWhile (fun task => task.awaited ≠ awaited) =
        last :: after := by
      rw [List.dropWhile_append_of_pos differ, List.dropWhile_cons_of_neg (by simpa using waits)]
    simp only [split, passed, left] at h
    cases h
    refine ⟨?_, rfl⟩
    have turned := (List.reverse_perm bench.tasks).symm
    rw [split] at turned
    exact (turned.trans List.perm_middle).trans ((List.reverse_perm (before ++ after)).symm.cons _)

/-- Time passes without a signal. -/
theorem tasks_of_ends_advance {seconds : Nat} (ends : (bench.advance now seconds).Ends log bench') :
    bench'.tasks = bench.tasks ∧ bench'.signals = bench.signals := by
  obtain ⟨_, _, _, -, -, -, rfl⟩ := ends_bind.1 ends
  exact ⟨rfl, rfl⟩

/-- A task that has ended: what its action came to, what was read of the clock to record that, and
what was asked. -/
structure Ending where
  task : Task
  clock : Vector Instant finishAttempts
  result : Outcome Unit
  log : List (Entry Reply)

/-- What has happened on a bench. -/
structure Diary where
  /-- The tasks of the jobs that have started. -/
  begun : List Task := []
  /-- The tasks that have ended. -/
  ended : List Ending := []
  /-- The number of signals that were taken. -/
  taken : Nat := 0

/-- How a bench can come about, whatever is replied to what its tasks ask. -/
inductive Diary.Works : Diary → Bench → Prop
  | opens (clock : Nat) : Works {} { clock }
  /-- A job starts, once its record is created. -/
  | begins {diary : Diary} {bench : Bench} {now : Instant} {job awaited : String}
      {log : List (Entry Reply)} (works : Works diary bench)
      (created : (start now job).run.Ends log (.ok ())) :
      Works { diary with begun := ⟨job, awaited, bench.clock⟩ :: diary.begun }
        (bench.begin job awaited)
  /-- Time passes, and heartbeats are due. -/
  | passes {diary : Diary} {bench bench' : Bench} {now : Instant} {seconds : Nat}
      {log : List (Entry Reply)} (works : Works diary bench)
      (ends : (bench.advance now seconds).Ends log bench') : Works diary bench'
  /-- The action of a task comes to its result. -/
  | concludes {diary : Diary} {bench rest bench' : Bench} {task : Task}
      {clock : Vector Instant finishAttempts} {awaited : String} {result : Outcome Unit}
      {log : List (Entry Reply)} (works : Works diary bench)
      (released : bench.release? awaited = some (task, rest))
      (ends : (rest.conclude clock task.job (errorOf result)).Ends log bench') :
      Works { diary with ended := ⟨task, clock, result, log⟩ :: diary.ended } bench'
  | takes {diary : Diary} {bench : Bench} (works : Works diary bench) :
      Works { diary with taken := diary.taken + bench.takeSignals.1 } bench.takeSignals.2

/-- Every job that has started is under way or has ended, and those that have ended have given a
signal each, once the recording of the end had ended. -/
theorem Diary.Works.signals {diary : Diary} (works : diary.Works bench) :
    diary.begun.Perm (diary.ended.map (·.task) ++ bench.tasks) ∧
      diary.taken + bench.signals = diary.ended.length ∧
      ∀ ending ∈ diary.ended, (finish ending.clock ending.task.job (errorOf ending.result)).Ends
        ending.log () := by
  induction works with
  | opens clock => exact ⟨.nil, rfl, by simp⟩
  | @begins diary bench now job awaited log works created ih =>
    obtain ⟨same, count, recorded⟩ := ih
    refine ⟨?_, count, recorded⟩
    rw [begin, ← List.append_assoc]
    exact (same.cons _).trans (List.perm_append_singleton _ _).symm
  | passes works ends ih =>
    obtain ⟨tasks, signals⟩ := tasks_of_ends_advance ends
    rw [tasks, signals]
    exact ih
  | concludes works released ends ih =>
    obtain ⟨same, count, recorded⟩ := ih
    obtain ⟨others, signals⟩ := perm_of_release? released
    obtain ⟨finished, rfl⟩ := ends_conclude.1 ends
    refine ⟨?_, ?_, List.forall_mem_cons.2 ⟨finished, recorded⟩⟩
    · exact same.trans ((others.append_left _).trans List.perm_middle)
    · rw [List.length_cons, ← count, ← signals]
      rfl
  | takes works ih =>
    obtain ⟨same, count, recorded⟩ := ih
    exact ⟨same, count, recorded⟩

end Bench

/-- Whatever the store replies, the end of a job is recorded in rounds that fail, of which there are
at most so many, and one that does not unless all are spent. Each writes what it has read, with the
end of the job in it as of its own time, under the version that was read, and nothing if there was
no record. So the end is left unrecorded only if the record was not there or all rounds have failed;
in each case there is one signal, after all of that. Over any time every job that has started is
under way or has ended in this way, and there is a signal for each of those that have ended. -/
theorem recorded_and_signalled :
    (∀ clock name error log, (finish clock name error).Ends log () ↔
      ∃ failing : List Round, (∀ round ∈ failing, round.Fails) ∧
        ((failing.length = 5 ∧ log = Round.logOf name error (clock.toList.zip failing)) ∨
          failing.length < 5 ∧ ∃ last : Round, ¬ last.Fails ∧
            log = Round.logOf name error (clock.toList.zip (failing ++ [last])))) ∧
    (∀ clock name error log, (finish clock name error).Ends log () →
      Throughout (WritesRead clock.toList name error) log ∧ (∀ e ∈ log.dropLast, ¬ Closes e) ∧
        ((∀ record version, ⟨.update record version, .ok ()⟩ ∉ log) →
          log.getLast? = some ⟨.get name, .ok none⟩ ∨ ∃ failing : List Round,
            failing.length = 5 ∧ (∀ round ∈ failing, round.Fails) ∧
              log = Round.logOf name error (clock.toList.zip failing))) ∧
    (∀ clock (bench : Bench) job error log bench',
      (bench.conclude clock job error).Ends log bench' ↔ (finish clock job error).Ends log () ∧
        bench' = { bench with signals := bench.signals + 1 }) ∧
    (∀ (σ : Type) (serve : (request : Ask) → σ → Reply request × σ) clock (bench : Bench) job error
      s, (bench.conclude clock job error).run serve s =
        ({ bench with signals := bench.signals + 1 },
          ((finish clock job error).run serve s).2)) ∧
    ∀ (diary : Bench.Diary) bench, diary.Works bench →
      diary.begun.Perm (diary.ended.map (·.task) ++ bench.tasks) ∧
        diary.taken + bench.signals = diary.ended.length ∧
        ∀ ending ∈ diary.ended,
          (finish ending.clock ending.task.job (errorOf ending.result)).Ends ending.log () := by
  have five (clock : Vector Instant finishAttempts) : clock.toList.length = 5 := clock.length_toList
  refine ⟨fun clock name error log => ?_, fun clock name error log ends => ?_,
    fun _ _ _ _ _ _ => Bench.ends_conclude, fun _ serve _ _ _ _ => Bench.run_conclude serve,
    fun _ _ => Bench.Diary.Works.signals⟩
  · rw [← five clock]
    exact ends_finishWithin
  · rw [← five clock]
    exact writes_of_ends_finishWithin ends

/-- A record at its start, under its first version. -/
def atStart (name : String) : Versioned := ⟨.fresh name ⟨0, 0⟩, "1"⟩

/-- A record that was renewed since. -/
def renewed (name : String) : Versioned :=
  ⟨{ JobRecord.fresh name ⟨0, 0⟩ with heartbeat := ⟨10, 0⟩ }, "2"⟩

/-- The clock as it goes on second by second. -/
def ticking : Vector Instant finishAttempts := ⟨#[⟨15, 0⟩, ⟨16, 0⟩, ⟨17, 0⟩, ⟨18, 0⟩, ⟨19, 0⟩], rfl⟩

/-- A job whose end is recorded in the third round, since the record could not be read at first and
was renewed by somebody else then. -/
theorem recorded_and_signalled_third :
    ∃ (diary : Bench.Diary) (bench : Bench) (log : List (Entry Reply)), diary.Works bench ∧
      bench.tasks = [] ∧ diary.begun.Perm [⟨"a", "10.0.0.1", 0⟩] ∧ diary.taken = 1 ∧
      (finish ticking "a" (some (Failure.timeout "decommission").message)).Ends log () ∧
      Throughout (WritesRead ticking.toList "a" (some (Failure.timeout "decommission").message))
        log ∧
      log.getLast? = some ⟨.update { (renewed "a").record with
        finished := some ⟨17, 0⟩
        error := some (Failure.timeout "decommission").message } "2", .ok ()⟩ := by
  obtain ⟨rounds, writes, concludes, -, works⟩ := recorded_and_signalled
  let result : Outcome Unit := .error (.timeout "decommission")
  have ends := (rounds ticking "a" (errorOf result) _).2
    ⟨[.unread (.transport "reset"), .refused (atStart "a") (.jobConflict "a")],
      by simp [Round.Fails], .inr ⟨by decide, .recorded (renewed "a"), id, rfl⟩⟩
  have created : (start ⟨0, 0⟩ "a").run.Ends _ (.ok ()) := ends_start.2 rfl
  let opened : Bench := {}
  have begun : Bench.Diary.Works _ (opened.begin "a" "10.0.0.1") := .begins (.opens 0) created
  have released : (opened.begin "a" "10.0.0.1").release? "10.0.0.1" =
    some (⟨"a", "10.0.0.1", 0⟩, opened) := rfl
  have ended := begun.concludes released
    ((concludes ticking opened "a" (errorOf result) _ _).2 ⟨ends, rfl⟩)
  obtain ⟨same, signals, -⟩ := works _ _ ended.takes
  exact ⟨_, _, _, ended.takes, rfl, same, signals, ends, (writes _ _ _ _ ends).1, rfl⟩

end RingOperator.Jobs
