import RingOperator.Proofs.Jobs.Chronicle
import RingOperator.Proofs.Jobs.SingleFlight

/-!
# Who writes a record

A heartbeat and the end of a job are written to the record that has the name of the job
by then. That is the job's own one, unless it has been deleted meanwhile
(`written_by_owner`): then the task of a job that was given up for dead writes to the
record of its successor, and a job is shown as finished whose action is under way
(`finished_by_another`).
-/

namespace RingOperator.Jobs

open Dialogue

/-- A record as it was read under a version: as long as the version is the same, it has ended or has
    not as it had then. -/
def Seen (l : Ledger) (record : JobRecord) (version : String) : Prop :=
  version ∈ l.spent record.name ∧ ∀ current, l.records record.name = some current →
    current.version = version → current.record.finished = record.finished

/-- A thread that has read a version of a record which did not count as running at the time as of
    which it removes it. -/
def FoundIdle (past : List Event) (id : Nat) (name version : String) : Prop :=
  ∃ now current, .removing id now name ∈ past ∧
    .returned id (.get name) (.ok (some current)) ∈ past ∧
      current.version = version ∧ current.record.isRunningAt now = false

/-- Where a thread can be, by what it has done. -/
inductive Thread.At (l : Ledger) (past : List Event) (id : Nat) : Thread → Prop
  | toCreate (now : Instant) (name : String) : At l past id (.starting name (start now name).run)
  | created {name : String} (own : Owns past id name) :
      At l past id (.starting name (.done (.ok ())))
  | refused (name : String) (failure : Failure) :
      At l past id (.starting name (.done (.error failure)))
  | toRead {now : Instant} {name : String} (begun : .removing id now name ∈ past) :
      At l past id (.removing now name (remove now name).run)
  | toDelete (now : Instant) {name version : String} (idle : FoundIdle past id name version) :
      At l past id (.removing now name (.ask (.delete name version) .done))
  | removed (now : Instant) (name : String) (result : Outcome Unit) :
      At l past id (.removing now name (.done result))
  | between {name : String} (own : Owns past id name) : At l past id (.working name (.done ()))
  | toBeat (now : Instant) {name : String} (own : Owns past id name) :
      At l past id (.working name (heartbeat now name))
  | toRenew {name version : String} {record : JobRecord} (named : record.name = name)
      (own : Owns past id name) (seen : Seen l record version) :
      At l past id (.working name (.ask (.update record version) fun _ => .done ()))
  | toFinish {name : String} (error : Option String) (readings : List Instant)
      (own : Owns past id name) (ended : .ended id ∈ past) :
      At l past id (.ending name (finishWithin name error readings))
  | toMark {name version : String} {record : JobRecord} {next : Outcome Unit → Talk Unit}
      (named : record.name = name) (own : Owns past id name) (ended : .ended id ∈ past)
      (marked : next (.ok ()) = .done ())
      (again : ∀ failure, ∃ error readings,
        next (.error failure) = finishWithin name error readings) :
      At l past id (.ending name (.ask (.update record version) next))

/-- Nothing that threads rely on is taken back. -/
structure Onward (l : Ledger) (past : List Event) (l' : Ledger) (past' : List Event) : Prop where
  owns : ∀ id name, Owns past id name → Owns past' id name
  more : ∀ e ∈ past, e ∈ past'
  seen : ∀ record version, Seen l record version → Seen l' record version

variable {l l' : Ledger} {past past' : List Event} {id : Nat} {t : Thread}

theorem FoundIdle.mono {name version : String} (idle : FoundIdle past id name version)
    (more : ∀ e ∈ past, e ∈ past') : FoundIdle past' id name version := by
  obtain ⟨now, current, begun, read, found⟩ := idle
  exact ⟨now, current, more _ begun, more _ read, found⟩

theorem Thread.At.mono (h : t.At l past id) (onward : Onward l past l' past') :
    t.At l' past' id := by
  cases h with
  | toCreate now name => exact .toCreate now name
  | created own => exact .created (onward.owns _ _ own)
  | refused name failure => exact .refused name failure
  | toRead begun => exact .toRead (onward.more _ begun)
  | toDelete now idle => exact .toDelete now (idle.mono onward.more)
  | removed now name result => exact .removed now name result
  | between own => exact .between (onward.owns _ _ own)
  | toBeat now own => exact .toBeat now (onward.owns _ _ own)
  | toRenew named own seen => exact .toRenew named (onward.owns _ _ own) (onward.seen _ _ seen)
  | toFinish error readings own ended =>
    exact .toFinish error readings (onward.owns _ _ own) (onward.more _ ended)
  | toMark named own ended marked again =>
    exact .toMark named (onward.owns _ _ own) (onward.more _ ended) marked again

section

variable {request : Ask} {reply : Reply request}

/-- What was read under a version stays as it is, since no version is given twice. -/
theorem Seen.of_returns {record : JobRecord} {version : String} (seen : Seen l record version)
    (returns : Returns l request reply l') : Seen l' record version := by
  obtain ⟨spent, same⟩ := seen
  have write {other : JobRecord} {version' : String} (new : version' ∉ l.spent other.name) :
      Seen (l.write other version') record version := by
    refine ⟨l.spent_subset_write other version' _ spent, fun current found at' => ?_⟩
    rw [Ledger.records_write] at found
    split at found
    · rename_i named
      cases found
      rw [named, ← at'] at spent
      exact absurd spent new
    · exact same current found at'
  cases returns with
  | failed fails => exact ⟨spent, same⟩
  | served served =>
    cases served with
    | created vacant new => exact write new
    | updated found new => exact write new
    | deleted found =>
      refine ⟨spent, fun current found' at' => ?_⟩
      rw [Ledger.records_erase] at found'
      split at found'
      · cases found'
      · exact same current found' at'
    | get | taken | changed | missing | outdated => exact ⟨spent, same⟩

theorem onward_of_returns (vacant : ∀ name, l.records name = none → author past name = none)
    (returns : Returns l request reply l') (id : Nat) :
    Onward l past l' (.returned id request reply :: past) where
  owns _ _ own := own.of_returns vacant returns
  more _ he := List.mem_cons_of_mem _ he
  seen _ _ seen := seen.of_returns returns

theorem Onward.refl (l : Ledger) (past : List Event) : Onward l past l past :=
  ⟨fun _ _ => id, fun _ => id, fun _ _ => id⟩

theorem onward_cons {e : Event} (same : ∀ name, author (e :: past) name = author past name) :
    Onward l past l (e :: past) where
  owns _ name own := own.cons (same name)
  more _ he := List.mem_cons_of_mem _ he
  seen _ _ seen := seen

/-! ## One step of a thread -/

/-- A removal that has read the record of its job is over, or it has found the record idle. -/
theorem at_of_remove {now : Instant} {name : String} {next : Reply request → Talk (Outcome Unit)}
    (h : (remove now name).run = .ask request next) (begun : .removing id now name ∈ past)
    (returned : .returned id request reply ∈ past) :
    (Thread.removing now name (next reply)).At l past id := by
  obtain ⟨read, run, failed, nothing, decided⟩ := run_remove now name
  rw [run] at h
  cases h
  match reply with
  | .error failure =>
    rw [failed]
    exact .removed now name _
  | .ok none =>
    rw [nothing]
    exact .removed now name _
  | .ok (some current) =>
    cases running : current.record.isRunningAt now with
    | true =>
      obtain ⟨failure, ends⟩ := (decided current).1 running
      rw [ends]
      exact .removed now name _
    | false =>
      rw [(decided current).2 running]
      exact .toDelete now ⟨now, current, begun, returned, rfl, running⟩

/-- A heartbeat that has read a record is to renew it, or it is over. -/
theorem at_of_heartbeat {now : Instant} {name : String} {next : Reply request → Talk Unit}
    (h : heartbeat now name = .ask request next) (own : Owns past id name)
    (returns : Returns l request reply l') : (Thread.working name (next reply)).At l' past id := by
  cases h
  obtain rfl := returns.eq_of_get
  match reply with
  | .error failure => exact .between own
  | .ok none => exact .between own
  | .ok (some current) =>
    have found := returns.eq_of_read
    have named := l'.named _ _ found
    refine .toRenew named own ?_
    rw [Seen, named]
    refine ⟨l'.versioned _ current found, fun current' found' _ => ?_⟩
    cases found.symm.trans found'
    rfl

/-- A task that is to record its end is to mark the record that it has read, or it tries again, or
    it is over. -/
theorem at_of_finishWithin {name : String} {error : Option String} {readings : List Instant}
    {next : Reply request → Talk Unit}
    (h : finishWithin name error readings = .ask request next) (own : Owns past id name)
    (ended : .ended id ∈ past) (returns : Returns l request reply l') :
    (Thread.ending name (next reply)).At l' past id := by
  cases readings with
  | nil => cases h
  | cons now later =>
    cases h
    match reply with
    | .error failure => exact .toFinish error later own ended
    | .ok none => exact .toFinish error [] own ended
    | .ok (some current) =>
      have named := l.named _ _ returns.eq_of_read
      exact .toMark named own ended rfl fun _ => ⟨error, later, rfl⟩

/-- A thread whose call returns comes to another place. -/
theorem Thread.At.next (h : t.At l past id) {next : Reply request → Thread}
    (asks : t.Asks request next)
    (vacant : ∀ name, l.records name = none → author past name = none)
    (returns : Returns l request reply l') :
    (next reply).At l' (.returned id request reply :: past) id := by
  have onward := onward_of_returns vacant returns id
  cases h with
  | toCreate now name =>
    cases asks with | start h =>
    cases h
    cases reply with
    | error failure => exact .refused name failure
    | ok _ => exact .created ⟨⟨_, List.mem_cons_self, rfl⟩, .inl (if_pos rfl)⟩
  | toRead begun =>
    cases asks with | remove h =>
    exact at_of_remove h (onward.more _ begun) List.mem_cons_self
  | toDelete now idle =>
    cases asks with | remove h =>
    cases h
    exact .removed now _ _
  | toBeat now own =>
    cases asks with | work h =>
    exact at_of_heartbeat h (onward.owns _ _ own) returns
  | toRenew named own seen =>
    cases asks with | work h =>
    cases h
    exact .between (onward.owns _ _ own)
  | toFinish error readings own ended =>
    cases asks with | finish h =>
    exact at_of_finishWithin h (onward.owns _ _ own) (onward.more _ ended) returns
  | @toMark name _ _ rest named own ended marked again =>
    cases asks with | finish h =>
    cases h
    show (Thread.ending name (rest reply)).At l' _ id
    have own := onward.owns _ _ own
    have ended := onward.more _ ended
    cases reply with
    | ok _ =>
      rw [marked]
      exact .toFinish none [] own ended
    | error failure =>
      obtain ⟨error, readings, rest⟩ := again failure
      rw [rest]
      exact .toFinish error readings own ended
  | created own | refused name failure | removed now name result | between own =>
    cases asks with | _ h => cases h

/-- A thread whose call fails comes to another place, whatever the store has done. -/
theorem Thread.At.fail (h : t.At l past id) {next : Reply request → Thread}
    (asks : t.Asks request next) (fails : Fails request reply) : (next reply).At l past id := by
  cases h with
  | toCreate now name =>
    cases asks with | start h =>
    cases h
    cases fails
    exact .refused name _
  | @toRead now name begun =>
    obtain ⟨read, run, failed, -⟩ := run_remove now name
    rw [run] at asks
    cases asks with | remove h =>
    cases h
    cases fails
    simp only [failed]
    exact .removed now name _
  | toDelete now idle =>
    cases asks with | remove h =>
    cases h
    exact .removed now _ _
  | toBeat now own =>
    cases asks with | work h =>
    cases h
    cases fails
    exact .between own
  | toRenew named own seen =>
    cases asks with | work h =>
    cases h
    exact .between own
  | toFinish error readings own ended =>
    cases asks with | finish h =>
    cases readings with
    | nil => cases h
    | cons now later =>
      cases h
      cases fails
      exact .toFinish error later own ended
  | toMark named own ended marked again =>
    cases asks with | finish h =>
    cases h
    cases fails with | update _ _ failure =>
    obtain ⟨error, readings, rest⟩ := again failure
    simp only [rest]
    exact .toFinish error readings own ended
  | created own | refused name failure | removed now name result | between own =>
    cases asks with | _ h => cases h

/-- What a thread must have done before it asks: who writes a record owns one of its name, and has
    either seen it as it leaves it or ended, and who deletes one has found it not to be running. -/
def Ask.Warranted (l : Ledger) (past : List Event) (id : Nat) : Ask → Prop
  | .get _ => True
  | .create record => record.finished = none
  | .update record version =>
    Owns past id record.name ∧ (Seen l record version ∨ .ended id ∈ past)
  | .delete name version => FoundIdle past id name version

/-- Whatever a thread asks is warranted. -/
theorem Thread.At.warranted (h : t.At l past id) {next : Reply request → Thread}
    (asks : t.Asks request next) : request.Warranted l past id := by
  cases h with
  | toCreate now name =>
    cases asks with | start h =>
    cases h
    rfl
  | @toRead now name begun =>
    obtain ⟨read, run, -⟩ := run_remove now name
    rw [run] at asks
    cases asks with | remove h =>
    cases h
    trivial
  | toDelete now idle =>
    cases asks with | remove h =>
    cases h
    exact idle
  | toBeat now own =>
    cases asks with | work h =>
    cases h
    trivial
  | toRenew named own seen =>
    cases asks with | work h =>
    cases h
    exact ⟨named ▸ own, .inl seen⟩
  | toFinish error readings own ended =>
    cases asks with | finish h =>
    cases readings with
    | nil => cases h
    | cons now later =>
      cases h
      trivial
  | toMark named own ended marked again =>
    cases asks with | finish h =>
    cases h
    exact ⟨named ▸ own, .inr ended⟩
  | created own | refused name failure | removed now name result | between own =>
    cases asks with | _ h => cases h

/-- Who has written a record owned one of its name, and who has deleted one had found it not to be
    running. -/
def Event.Warranted (before : List Event) : Event → Prop
  | .returned id (.update record _) (.ok ()) => Owns before id record.name
  | .returned id (.delete name version) (.ok ()) => FoundIdle before id name version
  | _ => True

theorem Ask.Warranted.event (h : request.Warranted l past id) :
    Event.Warranted past (.returned id request reply) := by
  match request, reply with
  | .update _ _, .ok () => exact h.1
  | .delete _ _, .ok () => exact h
  | .update _ _, .error _ | .delete _ _, .error _ | .get _, _ | .create _, _ => trivial

end

/-! ## Whole runs -/

/-- What holds in every state. -/
structure Chronicle.Sound (c : Chronicle) : Prop where
  places : ∀ id t, c.world.threads id = some t → t.At c.world.ledger c.past id
  /-- A name without a record has no author. -/
  vacant : ∀ name, c.world.ledger.records name = none → author c.past name = none
  warranted : Always Event.Warranted c.past
  /-- A record with an author that is finished was finished by a job of its name. -/
  finished : ∀ name current id, c.world.ledger.records name = some current →
    author c.past name = some id → current.record.finished ≠ none →
      ∃ other, .ended other ∈ c.past ∧ Owns c.past other name

namespace Chronicle

variable {c c' : Chronicle}

/-- A thread that takes a new place leaves all else sound, if the store and the authors stay. -/
theorem Sound.quiet (sound : c.Sound) {past : List Event} {new : Option Thread} {count : Nat}
    (onward : Onward c.world.ledger c.past c.world.ledger past)
    (same : ∀ name, author past name = author c.past name) (warranted : Always Event.Warranted past)
    (sane : ∀ t, new = some t → t.At c.world.ledger past id) :
    (Chronicle.mk (c.world.put id c.world.ledger new) count past).Sound where
  places j t here := by
    rw [threads_put] at here
    split at here
    · rename_i at'
      exact at' ▸ sane t here
    · exact (sound.places j t here).mono onward
  vacant name free := (same name).trans (sound.vacant name free)
  warranted := warranted
  finished name current id found own ended := by
    obtain ⟨other, ends, owns⟩ := sound.finished name current id found ((same name).symm.trans own)
      ended
    exact ⟨other, onward.more _ ends, onward.owns _ _ owns⟩

/-- After a call, a record with an author is still finished only by a job of its name. -/
theorem Sound.finished_of_returns (sound : c.Sound) {request : Ask} {reply : Reply request}
    (warranted : request.Warranted c.world.ledger c.past id)
    (returns : Returns c.world.ledger request reply l) {name : String} {current : Versioned}
    {j : Nat} (found : l.records name = some current)
    (own : author (.returned id request reply :: c.past) name = some j)
    (ended : current.record.finished ≠ none) :
    ∃ other, .ended other ∈ Event.returned id request reply :: c.past ∧
      Owns (.returned id request reply :: c.past) other name := by
  have onward := onward_of_returns sound.vacant returns id
  have before {current : Versioned} (found : c.world.ledger.records name = some current)
      (own : author c.past name = some j) (ended : current.record.finished ≠ none) :
      ∃ other, .ended other ∈ Event.returned id request reply :: c.past ∧
        Owns (.returned id request reply :: c.past) other name := by
    obtain ⟨other, ends, owns⟩ := sound.finished name current j found own ended
    exact ⟨other, onward.more _ ends, onward.owns _ _ owns⟩
  cases returns with
  | failed fails => exact before found ((author_of_fails fails).symm.trans own) ended
  | served served =>
    cases served with
    | created free new =>
      rw [Ledger.records_write] at found
      split at found
      · cases found
        exact absurd warranted ended
      · rename_i different
        exact before found ((if_neg different).symm.trans own) ended
    | @updated record last version found' new =>
      rw [Ledger.records_write] at found
      split at found
      · rename_i named
        subst named
        cases found
        obtain ⟨owns, seen | ends⟩ := warranted
        -- A heartbeat finds the record as finished as it leaves it.
        · exact before found' own (seen.2 last found' rfl ▸ ended)
        · exact ⟨id, onward.more _ ends, onward.owns _ _ owns⟩
      · exact before found own ended
    | @deleted name' last found' =>
      rw [Ledger.records_erase] at found
      split at found
      · cases found
      · rename_i different
        exact before found ((if_neg different).symm.trans own) ended
    | @missing name' version free =>
      by_cases same : name = name'
      · cases (if_pos same).symm.trans own
      · exact before found ((if_neg same).symm.trans own) ended
    | get | taken | changed | outdated => exact before found own ended

/-- A call that returns leaves everything sound, if the thread comes to a place of its. -/
theorem Sound.call (sound : c.Sound) {t t' : Thread} {request : Ask}
    {next : Reply request → Thread} {reply : Reply request}
    (here : c.world.threads id = some t) (asks : t.Asks request next)
    (returns : Returns c.world.ledger request reply l)
    (goesOn : t'.At l (.returned id request reply :: c.past) id) {count : Nat} :
    (Chronicle.mk (c.world.put id l (some t')) count
      (.returned id request reply :: c.past)).Sound where
  places j t' here' := by
    rw [threads_put] at here'
    split at here'
    · rename_i at'
      cases here'
      exact at' ▸ goesOn
    · exact (sound.places j t' here').mono (onward_of_returns sound.vacant returns id)
  vacant name free := author_of_returns sound.vacant returns free
  warranted := always_cons ((sound.places id t here).warranted asks).event sound.warranted
  finished _ _ _ found own ended :=
    sound.finished_of_returns ((sound.places id t here).warranted asks) returns found own ended

/-- Every step leaves everything sound. -/
theorem sound_step (sound : c.Sound) (step : Step c c') : c'.Sound := by
  have stays {id : Nat} {count : Nat} {new : Option Thread}
      (sane : ∀ t, new = some t → t.At c.world.ledger c.past id) :
      (Chronicle.mk (c.world.put id c.world.ledger new) count c.past).Sound :=
    sound.quiet (.refl _ _) (fun _ => rfl) sound.warranted sane
  cases step with
  | run now name =>
    refine stays ?_
    rintro _ ⟨⟩
    exact .toCreate now name
  | remove now name =>
    refine sound.quiet (onward_cons fun _ => rfl) (fun _ => rfl)
      (always_cons trivial sound.warranted) ?_
    rintro _ ⟨⟩
    exact .toRead List.mem_cons_self
  | @launch id name here =>
    refine stays ?_
    rintro _ ⟨⟩
    cases sound.places id _ here with | created own => exact .between own
  | @beat id name now here =>
    refine stays ?_
    rintro _ ⟨⟩
    cases sound.places id _ here with | between own => exact .toBeat now own
  | @conclude id name readings error here =>
    refine sound.quiet (onward_cons fun _ => rfl) (fun _ => rfl)
      (always_cons trivial sound.warranted) ?_
    rintro _ ⟨⟩
    cases sound.places id _ here with
    | between own => exact .toFinish error readings.toList (own.cons rfl) List.mem_cons_self
  | leave id => exact stays nofun
  | @call id t request next reply l here asks returns =>
    exact sound.call here asks returns ((sound.places id t here).next asks sound.vacant returns)
  | @lost id t request next reply heard l here asks served fails =>
    have returns := Returns.served served
    have onward := onward_of_returns sound.vacant returns id
    exact sound.call here asks returns (((sound.places id t here).mono onward).fail asks fails)

/-- Whatever can come about is sound. -/
theorem sound_of_reachable (h : Reachable c) : c.Sound := by
  induction h with
  | init l => exact ⟨nofun, fun _ _ => rfl, always_nil, nofun⟩
  | step _ step ih => exact sound_step ih step

/-- Whatever trackers that share a store do, and in whatever order: who has written a record, be it
    a heartbeat or an end, is the task of a job of its name that has created a record, namely this
    one unless that was deleted before; who has deleted a record had found that version of it not
    to be running at the time as of which it was to be removed; and where a record is finished, the
    action of the job that it stands for has ended, unless a job of the name whose action has ended
    had lost its own record. -/
theorem written_by_owner (h : Reachable c) :
    (∀ after before id record version,
      c.past = after ++ .returned id (.update record version) (.ok ()) :: before →
        Begun before id record.name ∧
          (author before record.name = some id ∨ Lost before id record.name)) ∧
    (∀ after before id name version,
      c.past = after ++ .returned id (.delete name version) (.ok ()) :: before →
        ∃ now current, .removing id now name ∈ before ∧
          .returned id (.get name) (.ok (some current)) ∈ before ∧
            current.version = version ∧ current.record.isRunningAt now = false) ∧
    ∀ name current id, c.world.ledger.records name = some current →
      author c.past name = some id → current.record.finished ≠ none →
        .ended id ∈ c.past ∨ ∃ other, .ended other ∈ c.past ∧ Lost c.past other name := by
  have sound := sound_of_reachable h
  refine ⟨fun after before id record version split => ?_,
    fun after before id name version split => ?_, fun name current id found own finished => ?_⟩
  · exact sound.warranted after _ before split
  · exact sound.warranted after _ before split
  · obtain ⟨other, ended, -, own' | lost⟩ := sound.finished name current id found own finished
    · cases own.symm.trans own'
      exact .inl ended
    · exact .inr ⟨other, ended, lost⟩

/-! ## A job that was given up for dead -/

/-- A time at which the heartbeat of a job that began at the start of 1970 has expired. -/
def late : Instant := ⟨60, 0⟩

/-- The first job of a name is not heard of for a minute, so its record is removed and a second one
    starts. Then the action of the first one ends, and its task finds the record of the second. -/
theorem reachable_overtaken : ∃ c record before, Reachable c ∧
    c.past = .returned 0 (.update record "2") (.ok ()) :: before ∧
    record.name = "job" ∧ record.finished = some late ∧
    c.world.ledger.records "job" = some ⟨record, "3"⟩ ∧
    author before "job" = some 2 ∧ .ended 2 ∉ c.past ∧
    c.world.threads 2 = some (.working "job" (.done ())) := by
  -- The store, after each write.
  let first : JobRecord := .fresh "job" default
  let second : JobRecord := .fresh "job" late
  let marked : JobRecord := { second with finished := some late }
  let l := Ledger.blank.write first "1"
  let l' := (l.erase "job").write second "2"
  have found : l.records "job" = some ⟨first, "1"⟩ := Ledger.records_write_self
  have found' : l'.records "job" = some ⟨second, "2"⟩ := Ledger.records_write_self
  have free : (l.erase "job").records "job" = none := Ledger.records_erase_self
  have spent : l.spent "job" = {"1"} := Ledger.spent_write_self.trans (insert_empty_eq "1")
  have spent' : l'.spent "job" = {"2", "1"} :=
    Ledger.spent_write_self.trans (congrArg (insert "2") spent)
  have create : Ledger.blank.Serves (.create first) (.ok ()) l := .created rfl (by rintro ⟨⟩)
  have read : l.Serves (.get "job") (.ok (some ⟨first, "1"⟩)) l := found ▸ .get "job"
  have delete : l.Serves (.delete "job" "1") (.ok ()) (l.erase "job") := .deleted found
  have create' : (l.erase "job").Serves (.create second) (.ok ()) l' :=
    .created free (show "2" ∉ l.spent "job" by rw [spent]; decide)
  have read' : l'.Serves (.get "job") (.ok (some ⟨second, "2"⟩)) l' := found' ▸ .get "job"
  have mark : l'.Serves (.update marked "2") (.ok ()) (l'.write marked "3") :=
    @Ledger.Serves.updated l' marked ⟨second, "2"⟩ "3" found'
      (show "3" ∉ l'.spent "job" by rw [spent']; decide)
  have own (past : List Event) :
      author (.returned 0 (.get "job") (.ok (some ⟨second, "2"⟩)) :: .ended 0 ::
        .returned 2 (.create second) (.ok ()) :: past) "job" = some 2 := by
    rw [author, author, author]
    · exact if_pos rfl
    all_goals nofun
  obtain ⟨decide', run, -, -, decided⟩ := run_remove late "job"
  have idle : first.isRunningAt late = false := by decide
  -- The first job starts, and is removed.
  have h := Reachable.init Ledger.blank
  replace h := h.step (.run default "job")
  replace h := h.step (@Step.call _ 0 _ _ _ _ _ rfl (.start rfl) (.served create))
  replace h := h.step (@Step.launch _ 0 "job" rfl)
  replace h := h.step (.remove late "job")
  replace h := h.step (@Step.call _ 1 _ _ _ _ _ rfl (.remove run) (.served read))
  replace h := h.step (@Step.call _ 1 _ _ _ _ _ rfl (.remove ((decided _).2 idle)) (.served delete))
  -- The second one starts, and the end of the first is recorded.
  replace h := h.step (.run late "job")
  replace h := h.step (@Step.call _ 2 _ _ _ _ _ rfl (.start rfl) (.served create'))
  replace h := h.step (@Step.launch _ 2 "job" rfl)
  replace h := h.step (@Step.conclude _ 0 "job" (.replicate _ late) none rfl)
  replace h := h.step (@Step.call _ 0 _ _ _ _ _ rfl (.finish rfl) (.served read'))
  replace h := h.step (@Step.call _ 0 _ _ _ _ _ rfl (.finish rfl) (.served mark))
  exact ⟨_, marked, _, h, rfl, rfl, rfl, Ledger.records_write_self, own _, by simp, rfl⟩

/-- The record of a job whose action is under way is shown as finished, by the task of another
    job. -/
theorem finished_by_another : ∃ c record before, Reachable c ∧
    c.past = .returned 0 (.update record "2") (.ok ()) :: before ∧
    author before record.name = some 2 ∧
    c.world.ledger.records record.name = some ⟨record, "3"⟩ ∧ record.finished ≠ none ∧
    .ended 2 ∉ c.past ∧ c.world.threads 2 = some (.working record.name (.done ())) := by
  obtain ⟨c, record, before, h, split, named, finished, found, own, open', working⟩ :=
    reachable_overtaken
  rw [← named] at own found working
  exact ⟨c, record, before, h, split, own, found, by simp [finished], open', working⟩

/-- The task that finishes the record of another job had lost its own. -/
theorem written_by_owner_overtaken : ∃ c record before, Reachable c ∧
    c.past = .returned 0 (.update record "2") (.ok ()) :: before ∧
    author before record.name = some 2 ∧ Begun before 0 record.name ∧ Lost before 0 record.name ∧
    ∃ other, .ended other ∈ c.past ∧ Lost c.past other record.name := by
  obtain ⟨c, record, before, h, split, named, finished, found, own, open', -⟩ :=
    reachable_overtaken
  rw [← named] at own found
  obtain ⟨written, -, ended⟩ := written_by_owner h
  obtain ⟨begun, own' | lost⟩ := written [] before 0 record "2" split
  · cases own.symm.trans own'
  refine ⟨c, record, before, h, split, own, begun, lost, ?_⟩
  have own' : author c.past record.name = some 2 := by rwa [split]
  exact (ended _ _ 2 found own' (by simp [finished])).resolve_left open'

end Chronicle

end RingOperator.Jobs
