import Mathlib.Data.Fintype.EquivFin
import Mathlib.Data.List.Infix
import Mathlib.Data.List.TakeWhile
import Mathlib.Data.Set.Finite.Basic
import RingOperator.Jobs.Bench
import RingOperator.Proofs.Jobs.Requests
import RingOperator.Proofs.Jobs.Threads
import RingOperator.Proofs.Naming

/-!
# A job that runs does not look abandoned

A job is started and its task kept on a bench whose clock goes on second by second, while the
instants that are recorded are read from the same clock (`Bench.Tends`). With every period one
heartbeat is due, which either renews the record or leaves it alone (`of_plays_heartbeat`). So the
heartbeat in the record is that of the last renewal (`Bench.Tends.tended`), and as long as no five
heartbeats in a row fail, it is younger than the lease at every instant (`never_abandoned`). Any
pattern of failures can come about (`Bench.exists_tends`).

The clock reads no leap seconds, and where a record was given one, it is at the end of a day
(`Instant.LeapsAtMidnight`): there are no others. Between such times differences are the plain ones
(`Instant.sub_eq_elapsed`), so they grow as the clock goes on.
-/

namespace RingOperator

namespace Instant

/-- The nanoseconds from the start of 1970, leap seconds not counted. -/
def elapsed (t : Instant) : Int := t.second * nanosPerSecond + t.nano

/-- A leap second is where leap seconds are, at the end of a day. -/
def LeapsAtMidnight (t : Instant) : Prop := t.isLeap = true → t.timeOfDay = secondsPerDay - 1

variable {t a b : Instant}

theorem sub_eq_elapsed (ha : a.isLeap = false) (hb : b.LeapsAtMidnight) :
    a.sub b = a.elapsed - b.elapsed := by
  have before : a.timeOfDay < secondsPerDay := Int.emod_lt_of_pos _ (by decide)
  have plain : a.sub b = (a.second - b.second) * nanosPerSecond + ((a.nano : Int) - b.nano) := by
    rw [sub]
    cases leaps : b.isLeap with
    | false => simp [ha]
    | true =>
      rw [if_neg (by rw [hb leaps]; omega)]
      simp [ha]
  rw [plain, elapsed, elapsed, Int.sub_mul]
  omega

theorem leapsAtMidnight_of_not_isLeap (h : t.isLeap = false) : t.LeapsAtMidnight := by
  intro leaps
  cases h.symm.trans leaps

theorem elapsed_addSeconds (n : Int) :
    (t.addSeconds n).elapsed = t.elapsed + n * nanosPerSecond := by
  have seconds : (t.addSeconds n).second = t.second + n := rfl
  have fraction : (t.addSeconds n).nano = t.nano := rfl
  rw [elapsed, elapsed, seconds, fraction, Int.add_mul]
  omega

end Instant

namespace Jobs

open Dialogue

variable {now : Instant} {name awaited : String} {log : List (Entry Reply)} {l l' : Ledger}
  {record : JobRecord}

/-- The record of a job that has not ended. -/
def JobRecord.ongoing (name : String) (started heartbeat : Instant) : JobRecord :=
  { name, started, heartbeat }

theorem JobRecord.isRunningAt_iff : record.isRunningAt now = true ↔
    record.finished = none ∧ now.sub record.heartbeat < lease * Instant.nanosPerSecond := by
  rw [isRunningAt, Bool.and_eq_true, Option.isNone_iff_eq_none, decide_eq_true_iff]

/-- What does not count as running does not come to do so by itself. -/
theorem JobRecord.not_isRunningAt_later {later : Instant} (hn : now.isLeap = false)
    (hl : later.isLeap = false) (written : record.heartbeat.LeapsAtMidnight)
    (after : 0 ≤ later.sub now) (idle : record.isRunningAt now = false) :
    record.isRunningAt later = false := by
  rw [Instant.sub_eq_elapsed hl (Instant.leapsAtMidnight_of_not_isLeap hn)] at after
  rw [← Bool.not_eq_true, isRunningAt_iff, Instant.sub_eq_elapsed hn written] at idle
  rw [← Bool.not_eq_true, isRunningAt_iff, Instant.sub_eq_elapsed hl written]
  rintro ⟨unfinished, young⟩
  exact idle ⟨unfinished, by omega⟩

/-! ## One heartbeat -/

/-- For each heartbeat of a log whether it has renewed the record, the latest one first. -/
def renewals : List (Entry Reply) → List Bool
  | ⟨.get _, _⟩ :: ⟨.update _ _, reply⟩ :: rest => renewals rest ++ [reply.isOk]
  | ⟨.get _, _⟩ :: rest => renewals rest ++ [false]
  | _ :: rest => renewals rest
  | [] => []

theorem ends_heartbeat : (heartbeat now name).Ends log () ↔
    (∃ reply : Outcome (Option Versioned), log = [⟨.get name, reply⟩] ∧
      ∀ current, reply ≠ .ok (some current)) ∨
    ∃ (current : Versioned) (reply : Outcome Unit), log = [⟨.get name, .ok (some current)⟩,
      ⟨.update { current.record with heartbeat := now } current.version, reply⟩] := by
  constructor
  · rintro ⟨read, rest, rfl, ends⟩
    rcases read with failure | _ | current
    · obtain ⟨rfl, -⟩ := ends
      exact .inl ⟨_, rfl, nofun⟩
    · obtain ⟨rfl, -⟩ := ends
      exact .inl ⟨_, rfl, nofun⟩
    · obtain ⟨reply, rest, rfl, rfl, -⟩ := ends
      exact .inr ⟨current, reply, rfl⟩
  · rintro (⟨reply, rfl, unread⟩ | ⟨current, reply, rfl⟩)
    · rcases reply with failure | _ | current
      · exact ⟨_, [], rfl, rfl, rfl⟩
      · exact ⟨_, [], rfl, rfl, rfl⟩
      · exact absurd rfl (unread current)
    · exact ⟨_, _, rfl, reply, [], rfl, rfl, rfl⟩

theorem Ledger.finite_spent_write {version : String} (h : (l.spent name).Finite) :
    ((l.write record version).spent name).Finite := by
  rw [spent_write]
  split
  · rename_i same
    exact (same ▸ h).insert version
  · exact h

/-- An update that succeeds writes the record, under whatever version. -/
theorem Returns.eq_write {version : String}
    (h : Returns l (.update record version) (.ok ()) l') :
    ∃ version, l' = l.write record version := by
  rcases h with served | ⟨⟨⟩⟩
  cases served with
  | updated => exact ⟨_, rfl⟩

/-- A record that is created is written, under whatever version. -/
theorem Returns.eq_write_of_create (h : Returns l (.create record) (.ok ()) l') :
    ∃ version, l' = l.write record version := by
  rcases h with served | ⟨⟨⟩⟩
  cases served with
  | created => exact ⟨_, rfl⟩

/-- A heartbeat that fails changes nothing, and any other one only the heartbeat of the record that
is there. -/
theorem of_plays_heartbeat (ends : (heartbeat now name).Ends log ())
    (plays : Plays Returns l log l') :
    (renewals log = [false] ∧ l' = l) ∨ renewals log = [true] ∧ ∃ current version,
      l.records name = some current ∧
        l' = l.write { current.record with heartbeat := now } version := by
  rcases ends_heartbeat.1 ends with ⟨reply, rfl, -⟩ | ⟨current, reply, rfl⟩
  · exact .inl ⟨rfl, (plays_singleton.1 plays).eq_of_get⟩
  · obtain ⟨between, read, wrote⟩ := plays_cons.1 plays
    have found := read.eq_of_read
    have wrote := plays_singleton.1 wrote
    obtain rfl := read.eq_of_get
    cases reply with
    | error failure => exact .inl ⟨rfl, wrote.eq_of_fails (.update _ _ _)⟩
    | ok _ =>
      obtain ⟨version, rfl⟩ := wrote.eq_write
      exact .inr ⟨rfl, current, version, found, rfl⟩

/-- A heartbeat can fail, and it can succeed as long as there is a version left. -/
theorem exists_plays_heartbeat (now : Instant) (renewed : Bool) {current : Versioned}
    (found : l.records name = some current) {version : String} (new : version ∉ l.spent name) :
    ∃ log, (heartbeat now name).Ends log () ∧ renewals log = [renewed] ∧
      Plays Returns l log
        (if renewed then l.write { current.record with heartbeat := now } version else l) := by
  cases renewed with
  | false =>
    refine ⟨[⟨.get name, .error (.jobConflict name)⟩], ?_, rfl, ?_⟩
    · exact ends_heartbeat.2 (.inl ⟨_, rfl, nofun⟩)
    · exact plays_singleton.2 (.failed (.get name _))
  | true =>
    refine ⟨_, ends_heartbeat.2 (.inr ⟨current, .ok (), rfl⟩), rfl, ?_⟩
    obtain rfl := l.named name current found
    have read : Returns l (.get current.record.name) (.ok (some current)) l :=
      found ▸ .served (.get _)
    refine plays_cons.2 ⟨l, read, plays_singleton.2 (.served ?_)⟩
    exact .updated found new

/-! ## One second of a task that is alone -/

namespace Bench

variable {bench bench' : Bench} {task : Task}

theorem beatsBy_succ (task : Task) {clock : Nat} (since : task.started ≤ clock) :
    beatsBy task (clock + 1) = beatsBy task clock ∨
      beatsBy task (clock + 1) = beatsBy task clock + 1 := by
  rw [beatsBy, beatsBy, heartbeatPeriod]
  omega

theorem beatsBy_add (job awaited : String) (started seconds : Nat) :
    beatsBy ⟨job, awaited, started⟩ (started + seconds) = seconds / heartbeatPeriod := by
  rw [beatsBy, Nat.add_sub_cancel_left]

theorem ends_beat_one {job : String} :
    (beat now job 1).Ends log () ↔ (heartbeat now job).Ends log () := by
  simp only [beat, ends_bind, ends_done]
  constructor
  · rintro ⟨_, _, _, rfl, ends, rfl, -⟩
    simpa using ends
  · exact fun ends => ⟨log, [], (), (List.append_nil log).symm, ends, rfl, trivial⟩

/-- Within a second, at most one heartbeat is due. -/
theorem ends_advance_one (alone : bench.tasks = [task]) (since : task.started ≤ bench.clock) :
    (bench.advance now 1).Ends log bench' ↔
      bench' = { bench with clock := bench.clock + 1 } ∧
        (beatsBy task (bench.clock + 1) = beatsBy task bench.clock ∧ log = [] ∨
          beatsBy task (bench.clock + 1) = beatsBy task bench.clock + 1 ∧
            (heartbeat now task.job).Ends log ()) := by
  have split : (bench.advance now 1).Ends log bench' ↔
      bench' = { bench with clock := bench.clock + 1 } ∧ (beat now task.job
        (beatsBy task (bench.clock + 1) - beatsBy task bench.clock)).Ends log () := by
    rw [advance, alone, List.mergeSort_singleton, catchUp]
    simp only [ends_bind, catchUp, ends_done, ends_pure]
    constructor
    · rintro ⟨_, _, _, rfl, ⟨_, _, _, rfl, ends, rfl, -⟩, rfl, rfl⟩
      exact ⟨rfl, by simpa using ends⟩
    · rintro ⟨rfl, ends⟩
      have whole : log = log ++ [] := (List.append_nil log).symm
      exact ⟨log, [], (), whole, ⟨log, [], (), whole, ends, rfl, trivial⟩, rfl, rfl⟩
  rw [split]
  rcases beatsBy_succ task since with none | one
  · simp [none, beat]
  · simp [one, ends_beat_one]

/-- A job as it goes on while nobody else writes its record: it is started, and the clock goes on
second by second. The list says of each heartbeat whether it has renewed the record, the latest one
first. -/
inductive Tends (epoch : Instant) (name : String) (started : Nat) :
    Bench → Ledger → List Bool → Prop
  | starts {awaited : String} {log : List (Entry Reply)} {l l' : Ledger}
      (ends : (start (epoch.addSeconds started) name).run.Ends log (.ok ()))
      (plays : Plays Returns l log l') :
      Tends epoch name started (({ clock := started } : Bench).begin name awaited) l' []
  | passes {bench bench' : Bench} {log : List (Entry Reply)} {l l' : Ledger} {outcomes : List Bool}
      (h : Tends epoch name started bench l outcomes)
      (ends : (bench.advance (epoch.addSeconds (bench.clock + 1)) 1).Ends log bench')
      (plays : Plays Returns l log l') :
      Tends epoch name started bench' l' (renewals log ++ outcomes)
  /-- What others do leaves the record as it is. -/
  | meanwhile {bench : Bench} {l l' : Ledger} {outcomes : List Bool}
      (h : Tends epoch name started bench l outcomes) (same : l'.records name = l.records name) :
      Tends epoch name started bench l' outcomes

/-- How many heartbeats have failed since the last one that has not. -/
def silence (outcomes : List Bool) : Nat := (outcomes.takeWhile fun renewed => !renewed).length

theorem silence_le_length (outcomes : List Bool) : silence outcomes ≤ outcomes.length :=
  (List.takeWhile_prefix _).length_le

theorem silence_lt {outcomes : List Bool} {bound : Nat}
    (h : ¬ List.replicate bound false <:+: outcomes) : silence outcomes < bound := by
  by_contra long
  have silent : outcomes.takeWhile (fun renewed => !renewed) =
      List.replicate (silence outcomes) false :=
    List.eq_replicate_iff.2 ⟨rfl, fun renewed among => by simpa using List.mem_takeWhile_imp among⟩
  refine h (List.IsInfix.trans ?_ (List.takeWhile_prefix fun renewed => !renewed).isInfix)
  rw [silent]
  exact (List.prefix_replicate_iff.2 ⟨by simpa using long, by simp⟩).isInfix

/-- A task that is alone, and the record of its job with the heartbeat of the last renewal. -/
structure Tended (epoch : Instant) (name : String) (started : Nat) (bench : Bench) (l : Ledger)
    (outcomes : List Bool) : Prop where
  alone : ∃ awaited, bench.tasks = [⟨name, awaited, started⟩]
  since : started ≤ bench.clock
  due : outcomes.length = (bench.clock - started) / heartbeatPeriod
  found : ∃ version, l.records name = some ⟨.ongoing name (epoch.addSeconds started)
    (epoch.addSeconds (started + heartbeatPeriod * (outcomes.length - silence outcomes) : Nat)),
      version⟩

variable {epoch : Instant} {started : Nat} {outcomes : List Bool}

theorem tended_starts (ends : (start (epoch.addSeconds started) name).run.Ends log (.ok ()))
    (plays : Plays Returns l log l') :
    (({ clock := started } : Bench).begin name awaited).Tended epoch name started l' [] where
  alone := ⟨awaited, rfl⟩
  since := le_rfl
  due := by simp [begin]
  found := by
    obtain rfl := ends_start.1 ends
    obtain ⟨version, rfl⟩ := (plays_singleton.1 plays).eq_write_of_create
    exact ⟨version, Ledger.records_write_self⟩

/-- A second goes by without a heartbeat, or with one that renews the record or leaves it. -/
theorem Tended.passes (h : bench.Tended epoch name started l outcomes)
    (ends : (bench.advance (epoch.addSeconds (bench.clock + 1)) 1).Ends log bench')
    (plays : Plays Returns l log l') :
    bench'.Tended epoch name started l' (renewals log ++ outcomes) := by
  obtain ⟨⟨awaited, alone⟩, since, due, version, found⟩ := h
  obtain ⟨rfl, ⟨idle, rfl⟩ | ⟨one, beats⟩⟩ := (ends_advance_one alone since).1 ends
  · obtain rfl := plays_nil.1 plays
    exact ⟨⟨awaited, alone⟩, since.trans (Nat.le_succ _), due.trans idle.symm, version, found⟩
  · have due' : outcomes.length + 1 = (bench.clock + 1 - started) / heartbeatPeriod :=
      (congrArg (· + 1) due).trans one.symm
    obtain ⟨failed, rfl⟩ | ⟨renewed, current, version', there, rfl⟩ :=
      of_plays_heartbeat beats plays
    · rw [failed]
      refine ⟨⟨awaited, alone⟩, since.trans (Nat.le_succ _), due', version, ?_⟩
      simpa [silence] using found
    · rw [renewed]
      refine ⟨⟨awaited, alone⟩, since.trans (Nat.le_succ _), due', version', ?_⟩
      cases there.symm.trans found
      -- The heartbeat that has just been due is the one of this instant.
      have instant : bench.clock + 1 = started + heartbeatPeriod * (outcomes.length + 1) := by
        simp only [heartbeatPeriod, beatsBy] at *
        omega
      have last : started + heartbeatPeriod *
          (([true] ++ outcomes).length - silence ([true] ++ outcomes)) = bench.clock + 1 :=
        instant.symm
      rw [last]
      exact Ledger.records_write_self

theorem Tends.tended (h : bench.Tends epoch name started l outcomes) :
    bench.Tended epoch name started l outcomes := by
  induction h with
  | starts ends plays => exact tended_starts ends plays
  | passes _ ends plays ih => exact ih.passes ends plays
  | meanwhile _ same ih => exact { ih with found := same ▸ ih.found }

/-- A heartbeat is as old as the silence since then, and what has gone by of a period. -/
theorem Tended.isRunningAt (plain : epoch.isLeap = false)
    (h : bench.Tended epoch name started l outcomes) (awake : silence outcomes < 5) :
    ∃ heartbeat version,
      l.records name = some ⟨.ongoing name (epoch.addSeconds started) heartbeat, version⟩ ∧
        ∀ now : Instant, now.isLeap = false →
          now.sub (epoch.addSeconds bench.clock) ≤ Instant.nanosPerSecond →
            (JobRecord.ongoing name (epoch.addSeconds started) heartbeat).isRunningAt now =
              true := by
  obtain ⟨-, since, due, version, found⟩ := h
  refine ⟨_, version, found, fun now hn soon => JobRecord.isRunningAt_iff.2 ⟨rfl, ?_⟩⟩
  have most := silence_le_length outcomes
  have plainly (n : Int) : (epoch.addSeconds n).LeapsAtMidnight :=
    Instant.leapsAtMidnight_of_not_isLeap plain
  rw [Instant.sub_eq_elapsed hn (plainly _), Instant.elapsed_addSeconds] at soon
  rw [JobRecord.ongoing, Instant.sub_eq_elapsed hn (plainly _), Instant.elapsed_addSeconds]
  simp only [heartbeatPeriod, lease, Instant.nanosPerSecond] at *
  omega

end Bench

/-- Infinitely many versions can be told apart. -/
theorem exists_version {spent : Set String} (h : spent.Finite) : ∃ version, version ∉ spent := by
  have : Infinite String :=
    .of_injective Text.Numeral.ofNat fun _ _ => Text.Numeral.ofNat_inj.1
  exact h.exists_notMem

namespace Bench

/-- Heartbeats may fail and succeed in any order. -/
theorem exists_tends (epoch : Instant) (name : String) (started seconds : Nat)
    (outcomes : List Bool) (due : outcomes.length = seconds / heartbeatPeriod) :
    ∃ (bench : Bench) (l : Ledger), bench.Tends epoch name started l outcomes ∧
      bench.clock = started + seconds := by
  suffices ∃ (bench : Bench) (l : Ledger), bench.Tends epoch name started l outcomes ∧
      bench.clock = started + seconds ∧ (l.spent name).Finite by
    obtain ⟨bench, l, tends, clock, -⟩ := this
    exact ⟨bench, l, tends, clock⟩
  induction seconds generalizing outcomes with
  | zero =>
    obtain rfl := List.length_eq_zero_iff.1 due
    have created : Returns .blank (.create (.fresh name (epoch.addSeconds started))) (.ok ())
        (Ledger.blank.write _ name) := .served (.created rfl (Set.notMem_empty _))
    have tends : (({ clock := started } : Bench).begin name name).Tends epoch name started _ [] :=
      .starts (ends_start.2 rfl) (plays_singleton.2 created)
    exact ⟨_, _, tends, rfl, Ledger.finite_spent_write Set.finite_empty⟩
  | succ seconds ih =>
    by_cases idle : (seconds + 1) / heartbeatPeriod = seconds / heartbeatPeriod
    · obtain ⟨bench, l, tends, clock, finite⟩ := ih outcomes (due.trans idle)
      obtain ⟨⟨awaited, alone⟩, since, -, -⟩ := tends.tended
      have none : beatsBy ⟨name, awaited, started⟩ (bench.clock + 1) =
          beatsBy ⟨name, awaited, started⟩ bench.clock := by
        rw [clock, Nat.add_assoc, beatsBy_add, beatsBy_add, idle]
      have ends : (bench.advance (epoch.addSeconds (bench.clock + 1)) 1).Ends []
          { bench with clock := bench.clock + 1 } :=
        (ends_advance_one alone since).2 ⟨rfl, .inl ⟨none, rfl⟩⟩
      exact ⟨_, l, .passes tends ends (.nil l), by rw [clock, Nat.add_assoc], finite⟩
    · have one : (seconds + 1) / heartbeatPeriod = seconds / heartbeatPeriod + 1 := by
        rw [heartbeatPeriod] at idle ⊢
        omega
      obtain ⟨renewed, outcomes, rfl⟩ := List.exists_cons_of_length_eq_add_one (due.trans one)
      obtain ⟨bench, l, tends, clock, finite⟩ := ih outcomes (Nat.succ.inj (due.trans one))
      obtain ⟨⟨awaited, alone⟩, since, -, _, found⟩ := tends.tended
      obtain ⟨version, new⟩ := exists_version finite
      obtain ⟨log, beats, outcome, plays⟩ := exists_plays_heartbeat
        (epoch.addSeconds (bench.clock + 1)) renewed found new
      have due : beatsBy ⟨name, awaited, started⟩ (bench.clock + 1) =
          beatsBy ⟨name, awaited, started⟩ bench.clock + 1 := by
        rw [clock, Nat.add_assoc, beatsBy_add, beatsBy_add, one]
      have passes := Tends.passes tends
        ((ends_advance_one alone since).2 ⟨rfl, .inr ⟨due, beats⟩⟩) plays
      rw [outcome] at passes
      refine ⟨_, _, passes, by rw [clock, Nat.add_assoc], ?_⟩
      split
      · exact Ledger.finite_spent_write finite
      · exact finite

end Bench

/-- As long as no five heartbeats in a row fail, the record of a job counts as running at every
instant, up to the one at which the next heartbeat can be due; a heartbeat changes nothing else of
it; and what does not count as running does not come to do so as the clock goes on. -/
theorem never_abandoned {epoch : Instant} (plain : epoch.isLeap = false) (name : String) :
    (∀ (started : Nat) (bench : Bench) (l : Ledger) (outcomes : List Bool),
      bench.Tends epoch name started l outcomes → ¬ List.replicate 5 false <:+: outcomes →
        ∃ heartbeat version,
          l.records name = some ⟨.ongoing name (epoch.addSeconds started) heartbeat, version⟩ ∧
            ∀ now : Instant, now.isLeap = false →
              now.sub (epoch.addSeconds bench.clock) ≤ Instant.nanosPerSecond →
                (JobRecord.ongoing name (epoch.addSeconds started) heartbeat).isRunningAt now =
                  true) ∧
    (∀ (now : Instant) (log : List (Entry Reply)) (l l' : Ledger),
      (heartbeat now name).Ends log () → Plays Returns l log l' →
        (renewals log = [false] ∧ l' = l) ∨ renewals log = [true] ∧ ∃ current version,
          l.records name = some current ∧
            l' = l.write { current.record with heartbeat := now } version) ∧
    ∀ (record : JobRecord) (now later : Instant), now.isLeap = false → later.isLeap = false →
      record.heartbeat.LeapsAtMidnight → 0 ≤ later.sub now → record.isRunningAt now = false →
        record.isRunningAt later = false := by
  refine ⟨fun started bench l outcomes tends often => ?_, fun now log l l' ends plays => ?_,
    fun record now later hn hl written after idle => ?_⟩
  · exact tends.tended.isRunningAt plain (Bench.silence_lt often)
  · exact of_plays_heartbeat ends plays
  · exact record.not_isRunningAt_later hn hl written after idle

/-- Four heartbeats in a row fail, and a minute after its start the job still counts as running.
A heartbeat renews the record that it finds, and one that is a minute old does not vouch for a job,
then or later. -/
theorem never_abandoned_silent :
    (Instant.isLeap ⟨0, 0⟩ = false ∧
      ¬ List.replicate 5 false <:+: [false, false, false, false, true] ∧
      ∃ (bench : Bench) (l : Ledger) (heartbeat : Instant) (version : String),
        bench.Tends ⟨0, 0⟩ "job" 0 l [false, false, false, false, true] ∧ bench.clock = 59 ∧
          l.records "job" = some ⟨.ongoing "job" ⟨0, 0⟩ heartbeat, version⟩ ∧
            (JobRecord.ongoing "job" ⟨0, 0⟩ heartbeat).isRunningAt ⟨60, 0⟩ = true) ∧
    (∃ (log : List (Entry Reply)) (l l' : Ledger), (heartbeat ⟨10, 0⟩ "job").Ends log () ∧
      Plays Returns l log l' ∧ ∃ current version, l.records "job" = some current ∧
        l' = l.write { current.record with heartbeat := ⟨10, 0⟩ } version) ∧
    (JobRecord.fresh "job" ⟨0, 0⟩).isRunningAt ⟨60, 0⟩ = false ∧
      (JobRecord.fresh "job" ⟨0, 0⟩).isRunningAt ⟨60, 1⟩ = false := by
  have plain : Instant.isLeap ⟨0, 0⟩ = false := rfl
  obtain ⟨running, renewing, later⟩ := never_abandoned plain "job"
  obtain ⟨bench, l, tends, clock⟩ :=
    Bench.exists_tends ⟨0, 0⟩ "job" 0 59 [false, false, false, false, true] rfl
  obtain ⟨heartbeat, version, found, young⟩ := running 0 bench l _ tends (by decide)
  refine ⟨⟨plain, by decide, bench, l, heartbeat, version, tends, clock, found, ?_⟩, ?_,
    by decide, ?_⟩
  · exact young ⟨60, 0⟩ rfl (by rw [clock]; decide)
  · have found : (Ledger.blank.write (.fresh "job" ⟨0, 0⟩) "1").records "job" =
        some ⟨.fresh "job" ⟨0, 0⟩, "1"⟩ := Ledger.records_write_self
    have new : "2" ∉ (Ledger.blank.write (.fresh "job" ⟨0, 0⟩) "1").spent "job" := by
      simp [Ledger.spent_write, Ledger.blank]
    obtain ⟨log, ends, outcome, plays⟩ := exists_plays_heartbeat ⟨10, 0⟩ true found new
    refine ⟨log, _, _, ends, plays, ?_⟩
    obtain ⟨failed, -⟩ | ⟨-, renewed⟩ := renewing _ _ _ _ ends plays
    · cases outcome.symm.trans failed
    · exact renewed
  · exact later _ ⟨60, 0⟩ _ rfl rfl (Instant.leapsAtMidnight_of_not_isLeap rfl) (by decide)
      (by decide)

end Jobs

end RingOperator
