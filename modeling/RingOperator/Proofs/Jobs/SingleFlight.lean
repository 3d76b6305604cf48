import RingOperator.Proofs.Jobs.Places

/-!
# One job of a name at a time

Of live jobs no two have one name, whatever trackers that share a store do and
in whatever order (`single_flight`). The record of a live job is not removed,
since a removal deletes only the version of a record that it has found not to
be running, and a record that is created later has another version.

This takes that a task whose end the store has recorded is told so. A task that
is not told looks for its record again, and marks whatever has the name by then:
the record of the next job, which counts as finished from then on, so that it
is removed and a third job starts beside the second (`two_live`).
-/

namespace RingOperator.Jobs

open Dialogue

variable {lossy : Thread → Prop} {w w' : World} {id : Nat} {l : Ledger} {name : String}

/-! ## Calls -/

/-- What a removal does with what it has read. -/
theorem run_remove (now : Instant) (name : String) :
    ∃ next, (remove now name).run = .ask (.get name) next ∧
      (∀ failure, next (.error failure) = .done (.error failure)) ∧
      next (.ok none) = .done (.ok ()) ∧
      ∀ current : Versioned,
        (current.record.isRunningAt now = true →
          ∃ failure, next (.ok (some current)) = .done (.error failure)) ∧
        (current.record.isRunningAt now = false →
          next (.ok (some current)) = .ask (.delete name current.version) .done) := by
  refine ⟨_, rfl, fun _ => rfl, rfl, fun current => ⟨fun running => ?_, fun idle => ?_⟩⟩
  · refine ⟨.jobConflict (name ++ " is still running, removing running jobs is not allowed"), ?_⟩
    show ((if current.record.isRunningAt now = true then _ else _ : Exchange Unit)).run = _
    rw [if_pos running]
    rfl
  · show ((if current.record.isRunningAt now = true then _ else _ : Exchange Unit)).run = _
    rw [if_neg (by simp [idle])]
    rfl

/-- A job whose end is being recorded is live as long as there is a request left. -/
theorem live_ending {name : String} {request : Ask} {next : Reply request → Talk Unit} :
    (Thread.ending name (.ask request next)).Live name :=
  ⟨rfl, nofun⟩

/-- A job whose end is being recorded stays the one that it is. -/
theorem live_of_live_ending {name name' : String} {request : Ask}
    {next : Reply request → Talk Unit} {rest : Talk Unit}
    (live : (Thread.ending name rest).Live name') :
    (Thread.ending name (.ask request next)).Live name' := by
  obtain ⟨rfl, -⟩ := live
  exact live_ending

/-- A thread whose call fails goes on soundly, and its job is live only if it was. -/
theorem Thread.Sound.fail {t : Thread} (sound : t.Sound w) {request : Ask}
    {next : Reply request → Thread} {reply : Reply request} (asks : t.Asks request next)
    (fails : Fails request reply) :
    (next reply).Sound w ∧ ∀ name, (next reply).Live name → t.Live name := by
  cases sound with
  | toCreate now name =>
    cases asks with | start h =>
    cases h
    cases fails
    exact ⟨.refused _ _, by rintro name ⟨-, ⟨⟩⟩⟩
  | toRead now name =>
    obtain ⟨read, run, failed, -⟩ := run_remove now name
    rw [run] at asks
    cases asks with | remove h =>
    cases h
    cases fails
    simp only [failed]
    exact ⟨.removed _ _ _, fun _ live => live⟩
  | toDelete now spent old =>
    cases asks with | remove h =>
    cases h
    exact ⟨.removed _ _ _, fun _ live => live⟩
  | toBeat now name =>
    cases asks with | work h =>
    cases h
    cases fails
    exact ⟨.between name, fun _ live => live⟩
  | toRenew own unfinished =>
    cases asks with | work h =>
    cases h
    exact ⟨.between _, fun _ live => live⟩
  | toFinish name error readings =>
    cases asks with | finish h =>
    cases readings with
    | nil => cases h
    | cons now later =>
      cases h
      cases fails
      exact ⟨.toFinish name error later, fun _ => live_of_live_ending⟩
  | toMark own marked again =>
    cases asks with | finish h =>
    cases h
    cases fails with | update _ _ failure =>
    obtain ⟨error, readings, rest⟩ := again failure
    simp only [rest]
    exact ⟨.toFinish _ error readings, fun _ => live_of_live_ending⟩
  | created name | refused name failure | removed now name result | between name =>
    cases asks with | _ h => cases h

section

variable {request : Ask} {reply : Reply request}

/-- After a record was created for a job that starts, everything is sound, whether or not the call
    is told so: the record of a live job exists, so none of the name was live. -/
theorem sound_created (sound : w.Sound) {record : JobRecord} {version : String}
    (vacant : w.ledger.records record.name = none) (new : version ∉ w.ledger.spent record.name)
    (unfinished : record.finished = none) (result : Outcome Unit) :
    (w.put id (w.ledger.write record version)
      (some (.starting record.name (.done result)))).Sound := by
  have dead : ¬ w.Live record.name := by
    intro live
    obtain ⟨current, found, -⟩ := sound.held record.name live
    cases found.symm.trans vacant
  refine sound_write sound new (fun _ => ?_) ?_ (fun _ => .inr dead) fun _ => unfinished
  · cases result with
    | ok _ => exact .created record.name
    | error failure => exact .refused record.name failure
  · rintro _ ⟨rfl, -⟩
    rfl

/-- After the store has served a removal's last call, everything is sound: only the version that was
    read is deleted, and no live job's record has it. -/
theorem sound_removed (sound : w.Sound) {now : Instant} {version : String}
    (here : w.threads id = some (.removing now name (.ask (.delete name version) .done)))
    (old : w.Live name → ∀ current, w.ledger.records name = some current →
      current.version ≠ version) {reply : Outcome Unit}
    (served : w.ledger.Serves (.delete name version) reply l) (result : Outcome Unit) :
    (w.put id l (some (.removing now name (.done result)))).Sound := by
  cases served with
  | deleted found =>
    refine sound_erase sound (fun _ => .removed _ _ _) (fun _ live => live) fun live => ?_
    exact old live _ found rfl
  | missing | outdated => exact sound_next sound here (.removed _ _ _) fun _ live => live

/-- After the store has served a heartbeat's last call, everything is sound. -/
theorem sound_renewed (sound : w.Sound) {record : JobRecord} {version : String}
    {rest : Talk Unit} (here : w.threads id = some (.working name rest))
    (own : record.name = name) (unfinished : record.finished = none) {reply : Outcome Unit}
    (served : w.ledger.Serves (.update record version) reply l) :
    (w.put id l (some (.working name (.done ())))).Sound := by
  cases served with
  | updated found new =>
    refine sound_write sound new (fun _ => .between _) ?_ ?_ fun _ => unfinished
    · rintro _ rfl
      exact own.symm
    · exact fun live => .inl ⟨_, here, live⟩
  | changed => exact sound_next sound here (.between _) fun _ live => live

/-- A call that starts a job goes on soundly. -/
theorem sound_call_starting (sound : w.Sound) {rest : Talk (Outcome Unit)}
    (here : w.threads id = some (.starting name rest))
    {next : Reply request → Talk (Outcome Unit)} (asks : rest = .ask request next)
    (served : w.ledger.Serves request reply l) :
    (w.put id l (some (.starting name (next reply)))).Sound := by
  cases sound.threads id _ here with
  | toCreate now _ =>
    cases asks
    cases served with
    | created vacant new => exact sound_created sound vacant new rfl _
    | taken found job => exact sound_next sound here (.refused _ _) (by rintro _ ⟨-, ⟨⟩⟩)
  | created | refused => cases asks

/-- A call that removes a job goes on soundly: it is about to delete only what it has found not to
    be running, so its job is not live. -/
theorem sound_call_removing (sound : w.Sound) {now : Instant} {rest : Talk (Outcome Unit)}
    (here : w.threads id = some (.removing now name rest))
    {next : Reply request → Talk (Outcome Unit)} (asks : rest = .ask request next)
    (vouched : request = .get name → w.Vouched now name)
    (served : w.ledger.Serves request reply l) :
    (w.put id l (some (.removing now name (next reply)))).Sound := by
  cases sound.threads id _ here with
  | toRead =>
    obtain ⟨read, run, -, nothing, decided⟩ := run_remove now name
    rw [run] at asks
    cases asks
    cases served
    cases found : w.ledger.records name with
    | none =>
      rw [nothing]
      exact sound_next sound here (.removed _ _ _) fun _ live => live
    | some current =>
      cases running : current.record.isRunningAt now with
      | true =>
        obtain ⟨failure, ends⟩ := (decided current).1 running
        rw [ends]
        exact sound_next sound here (.removed _ _ _) fun _ live => live
      | false =>
        -- The record of a live job would count as running, as its heartbeat is young.
        have dead : ¬ w.Live name := by
          intro live
          obtain ⟨_, found', unfinished⟩ := sound.held name live
          cases found.symm.trans found'
          have young := vouched rfl live current found
          simp [JobRecord.isRunningAt, unfinished, young] at running
        have spent := w.ledger.versioned name current found
        rw [(decided current).2 running]
        exact sound_next sound here (.toDelete now spent fun live => absurd live dead)
          fun _ live => live
  | toDelete _ spent old =>
    cases asks
    exact sound_removed sound here old served reply
  | removed => cases asks

/-- A heartbeat goes on soundly. -/
theorem sound_call_working (sound : w.Sound) {rest : Talk Unit}
    (here : w.threads id = some (.working name rest)) {next : Reply request → Talk Unit}
    (asks : rest = .ask request next) (served : w.ledger.Serves request reply l) :
    (w.put id l (some (.working name (next reply)))).Sound := by
  cases sound.threads id _ here with
  | between => cases asks
  | toBeat now _ =>
    cases asks
    cases served
    cases found : w.ledger.records name with
    | none => exact sound_next sound here (.between name) fun _ live => live
    | some current =>
      obtain ⟨_, found', unfinished⟩ := sound.held name ⟨id, _, here, rfl⟩
      cases found.symm.trans found'
      have own := w.ledger.named name current found
      exact sound_next sound here (.toRenew own unfinished) fun _ live => live
  | toRenew own unfinished =>
    cases asks
    exact sound_renewed sound here own unfinished served

/-- The end of a job goes on being recorded soundly: once it is, no job of the name is live. -/
theorem sound_call_ending (sound : w.Sound) {rest : Talk Unit}
    (here : w.threads id = some (.ending name rest)) {next : Reply request → Talk Unit}
    (asks : rest = .ask request next) (served : w.ledger.Serves request reply l) :
    (w.put id l (some (.ending name (next reply)))).Sound := by
  have idle {name name' : String} : ¬ (Thread.ending name (.done ())).Live name' :=
    fun live => live.2 rfl
  cases sound.threads id _ here with
  | toFinish _ error readings =>
    cases readings with
    | nil => cases asks
    | cons now later =>
      cases asks
      cases served
      cases found : w.ledger.records name with
      | none => exact sound_next sound here (.toFinish name error []) fun _ => live_of_live_ending
      | some current =>
        have own := w.ledger.named name current found
        refine sound_next sound here (.toMark own rfl fun _ => ?_) fun _ => live_of_live_ending
        exact ⟨error, later, rfl⟩
  | toMark own marked again =>
    cases asks
    cases served with
    | updated found new =>
      rw [marked]
      refine sound_write sound new (fun _ => .toFinish _ none [])
        (fun _ live => absurd live idle) (fun live => absurd live idle) ?_
      -- No other job of the name is live, so nobody relies on its record any more.
      rintro ⟨j, t', there, live⟩
      rw [threads_put] at there
      split at there
      · cases there
        exact absurd live idle
      · rename_i other
        exact absurd (sound.single _ j id _ _ there live here (own ▸ live_ending)) other
    | changed h job =>
      obtain ⟨error, readings, rest⟩ := again (.jobConflict job)
      rw [rest]
      exact sound_next sound here (.toFinish _ error readings) fun _ => live_of_live_ending

/-- A thread that does not hear that it was served goes on soundly, unless it records an end. -/
theorem sound_lost (sound : w.Sound) {t : Thread} (here : w.threads id = some t)
    {next : Reply request → Thread} (asks : t.Asks request next)
    (told : ∀ name rest, t ≠ .ending name rest) (served : w.ledger.Serves request reply l)
    {heard : Reply request} (fails : Fails request heard) :
    (w.put id l (some (next heard))).Sound := by
  have reads {name : String} {reply heard : Reply (.get name)} {next : Reply (.get name) → Thread}
      (asks : t.Asks (.get name) next) (served : w.ledger.Serves (.get name) reply l)
      (fails : Fails (.get name) heard) : (w.put id l (some (next heard))).Sound := by
    obtain ⟨sane, less⟩ := (sound.threads id t here).fail asks fails
    cases served
    exact sound_next sound here sane less
  cases sound.threads id t here with
  | toCreate now name =>
    cases asks with | start h =>
    cases h
    cases fails with | create _ failure =>
    cases served with
    | created vacant new => exact sound_created sound vacant new rfl (.error failure)
    | taken => exact sound_next sound here (.refused _ _) (by rintro _ ⟨-, ⟨⟩⟩)
  | toRead now name =>
    obtain ⟨read, run, -⟩ := run_remove now name
    have asks' := asks
    rw [run] at asks'
    cases asks' with | remove h =>
    cases h
    exact reads asks served fails
  | toDelete now spent old =>
    cases asks with | remove h =>
    cases h
    exact sound_removed sound here old served heard
  | toBeat now name =>
    have asks' := asks
    cases asks' with | work h =>
    cases h
    exact reads asks served fails
  | toRenew own unfinished =>
    cases asks with | work h =>
    cases h
    exact sound_renewed sound here own unfinished served
  | toFinish | toMark => exact absurd rfl (told _ _)
  | created | refused | removed | between => cases asks with | _ h => cases h

end

/-! ## Steps -/

section

variable (told : ∀ name rest, ¬ lossy (.ending name rest))

include told

/-- Every step leaves everything sound. -/
theorem sound_step (sound : w.Sound) (step : Step lossy w w') : w'.Sound := by
  cases step with
  | run now name free =>
    refine sound_quiet sound ?_ ?_
    · rintro _ ⟨⟩
      exact .toCreate now name
    · rintro _ name' ⟨⟩ ⟨-, ⟨⟩⟩
  | remove now name free =>
    refine sound_quiet sound ?_ ?_
    · rintro _ ⟨⟩
      exact .toRead now name
    · rintro _ name' ⟨⟩ ⟨⟩
  | launch here => exact sound_next sound here (.between _) fun _ live => ⟨live, rfl⟩
  | beat now here => exact sound_next sound here (.toBeat now _) fun _ live => live
  | conclude readings error here =>
    exact sound_next sound here (.toFinish _ error readings.toList) fun _ live => live.1
  | leave here idle => exact sound_quiet sound (by rintro _ ⟨⟩) (by rintro _ _ ⟨⟩)
  | call here asks vouched served =>
    cases asks with
    | start asks => exact sound_call_starting sound here asks served
    | remove asks => exact sound_call_removing sound here asks (vouched _ _ _ rfl) served
    | work asks => exact sound_call_working sound here asks served
    | finish asks => exact sound_call_ending sound here asks served
  | @fail id t request next reply here asks fails =>
    obtain ⟨sane, less⟩ := (sound.threads id t here).fail asks fails
    exact sound_next sound here sane less
  | lost here asks loses served fails =>
    refine sound_lost sound here asks ?_ served fails
    rintro name rest rfl
    exact told name rest loses

/-- Whatever can come about is sound. -/
theorem sound_of_reachable (h : Reachable lossy w) : w.Sound := by
  induction h with
  | init l => exact ⟨nofun, nofun, nofun⟩
  | step _ step ih => exact sound_step told ih step

end

/-! ## One at a time -/

/-- While a job is live, a call that starts another one of its name cannot create a record. -/
theorem refused_of_live (sound : w.Sound) (live : w.Live name) {rest : Talk (Outcome Unit)}
    (here : w.threads id = some (.starting name rest)) {request : Ask}
    {next : Reply request → Talk (Outcome Unit)} (asks : rest = .ask request next)
    (reply : Reply request) :
    (∀ l, w.ledger.Serves request reply l →
      ∃ job, next reply = .done (.error (.jobConflict job))) ∧
    (Fails request reply → ∃ failure, next reply = .done (.error failure)) := by
  cases sound.threads id _ here with
  | toCreate now _ =>
    cases asks
    refine ⟨fun l served => ?_, fun fails => ?_⟩
    · cases served with
      | created vacant new =>
        obtain ⟨current, found, -⟩ := sound.held name live
        cases found.symm.trans vacant
      | taken found job => exact ⟨job, rfl⟩
    · cases fails with
      | create _ failure => exact ⟨failure, rfl⟩
  | created | refused => cases asks

/-- A step puts one thread in the place of another. -/
theorem Step.exists_eq_put (step : Step lossy w w') : ∃ id l new, w' = w.put id l new := by
  cases step <;> exact ⟨_, _, _, rfl⟩

/-- While a job is live, no other one of its name becomes live. -/
theorem live_of_step (told : ∀ name rest, ¬ lossy (.ending name rest)) (sound : w.Sound)
    (step : Step lossy w w') (live : w.Live name) {t : Thread}
    (there : w'.threads id = some t) (becomes : t.Live name) :
    ∃ t, w.threads id = some t ∧ t.Live name := by
  have sound' := sound_step told sound step
  obtain ⟨j, l, new, rfl⟩ := step.exists_eq_put
  obtain ⟨k, t', here, live⟩ := live
  by_cases same : k = id
  · exact ⟨t', same ▸ here, live⟩
  by_cases other : id = j
  · -- The live job goes on beside the one that became live, which cannot be.
    have stays : (w.put j l new).threads k = some t' := by
      rw [threads_put, if_neg (other ▸ same), here]
    exact absurd (sound'.single name k id t' t stays live there becomes) same
  · rw [threads_put, if_neg other] at there
    exact ⟨t, there, becomes⟩

/-- No thread deletes the record of a live job under the version that it has. -/
theorem Thread.Sound.version_ne {t : Thread} (sound : t.Sound w) {version : String}
    {next : Outcome Unit → Thread} (asks : t.Asks (.delete name version) next) (live : w.Live name)
    {current : Versioned} (found : w.ledger.records name = some current) :
    current.version ≠ version := by
  cases sound with
  | toDelete now spent old =>
    cases asks with | remove h =>
    cases h
    exact old live current found
  | toRead now name =>
    obtain ⟨read, run, -⟩ := run_remove now name
    rw [run] at asks
    cases asks with | remove h => cases h
  | toFinish name error readings =>
    cases asks with | finish h => cases readings <;> cases h
  | toCreate | created | refused | removed | between | toBeat | toRenew | toMark =>
    cases asks with | _ h => cases h

/-- Only calls that start jobs create records. -/
theorem Thread.Sound.starting {t : Thread} (sound : t.Sound w) {record : JobRecord}
    {next : Outcome Unit → Thread} (asks : t.Asks (.create record) next) :
    ∃ rest, t = .starting record.name rest ∧
      ∀ reply, next reply = .starting record.name (.done reply) := by
  cases sound with
  | toCreate now name =>
    cases asks with | start h =>
    cases h
    exact ⟨_, rfl, fun _ => rfl⟩
  | toRead now name =>
    obtain ⟨read, run, -⟩ := run_remove now name
    rw [run] at asks
    cases asks with | remove h => cases h
  | toFinish name error readings =>
    cases asks with | finish h => cases readings <;> cases h
  | created | refused | toDelete | removed | between | toBeat | toRenew | toMark =>
    cases asks with | _ h => cases h

/-- Whatever happens, the record of a live job stays in existence. -/
theorem exists_record_of_step (sound : w.Sound) (step : Step lossy w w') (live : w.Live name) :
    ∃ current, w'.ledger.records name = some current := by
  obtain ⟨current, found, -⟩ := sound.held name live
  -- A record goes only by a deletion under its own version.
  have kept {id : Nat} {t : Thread} {request : Ask} {next : Reply request → Thread}
      {reply : Reply request} {l : Ledger} (here : w.threads id = some t)
      (asks : t.Asks request next) (served : w.ledger.Serves request reply l) :
      ∃ current, l.records name = some current := by
    rcases served.kept found with kept | rfl
    · exact kept
    · exact absurd rfl ((sound.threads id t here).version_ne asks live found)
  cases step with
  | call here asks vouched served => exact kept here asks served
  | lost here asks loses served fails => exact kept here asks served
  | _ => exact ⟨current, found⟩

/-- A record comes into being only as a call that starts a job creates it, which goes on unless it
    does not hear of it. -/
theorem starting_of_step (sound : w.Sound) (step : Step lossy w w')
    (vacant : w.ledger.records name = none) {current : Versioned}
    (found : w'.ledger.records name = some current) :
    ∃ id rest result, w.threads id = some (.starting name rest) ∧
      w'.threads id = some (.starting name (.done result)) ∧
        (result = .ok () ∨ lossy (.starting name rest)) := by
  cases step with
  | @call id t request next reply l here asks vouched served =>
    obtain ⟨record, rfl, rfl⟩ := served.eq_create vacant found
    obtain ⟨rest, rfl, goesOn⟩ := (sound.threads id t here).starting asks
    refine ⟨id, rest, reply, here, ?_, ?_⟩
    · rw [threads_put, if_pos rfl, goesOn]
    · cases served with
      | created => exact .inl rfl
      | taken => cases vacant.symm.trans found
  | @lost id t request next reply heard l here asks loses served fails =>
    obtain ⟨record, rfl, rfl⟩ := served.eq_create vacant found
    obtain ⟨rest, rfl, goesOn⟩ := (sound.threads id t here).starting asks
    refine ⟨id, rest, heard, here, ?_, .inr loses⟩
    rw [threads_put, if_pos rfl, goesOn]
  | _ => cases vacant.symm.trans found

/-- Whatever trackers that share a store do, and in whatever order, if every task hears of its end
    being recorded: no two live jobs have one name; the record of a live job exists and is not
    finished; while a job is live, every call that starts another one of its name fails, with a
    conflict unless the call to the store failed, and no other job of the name becomes live; no step
    deletes the record of a live job; and a record comes into being only as a call that starts a job
    creates it. -/
theorem single_flight (told : ∀ name rest, ¬ lossy (.ending name rest)) (h : Reachable lossy w)
    (name : String) :
    (∀ id id' t t', w.threads id = some t → t.Live name →
      w.threads id' = some t' → t'.Live name → id = id') ∧
    (w.Live name → ∃ current, w.ledger.records name = some current ∧
      current.record.finished = none) ∧
    (w.Live name → ∀ id rest request (next : Reply request → Talk (Outcome Unit)),
      w.threads id = some (.starting name rest) → rest = .ask request next → ∀ reply,
        (∀ l, w.ledger.Serves request reply l →
          ∃ job, next reply = .done (.error (.jobConflict job))) ∧
        (Fails request reply → ∃ failure, next reply = .done (.error failure))) ∧
    (∀ w' id t, Step lossy w w' → w.Live name → w'.threads id = some t → t.Live name →
      ∃ t, w.threads id = some t ∧ t.Live name) ∧
    (∀ w', Step lossy w w' → w.Live name → ∃ current, w'.ledger.records name = some current) ∧
    ∀ w' current, Step lossy w w' → w.ledger.records name = none →
      w'.ledger.records name = some current →
        ∃ id rest result, w.threads id = some (.starting name rest) ∧
          w'.threads id = some (.starting name (.done result)) ∧
            (result = .ok () ∨ lossy (.starting name rest)) := by
  have sound := sound_of_reachable told h
  refine ⟨fun id id' t t' here live here' live' => ?_, sound.held name, ?_, ?_, ?_, ?_⟩
  · exact sound.single name id id' t t' here live here' live'
  · exact fun live id rest request next here asks => refused_of_live sound live here asks
  · exact fun w' id t step live there becomes => live_of_step told sound step live there becomes
  · exact fun w' step live => exists_record_of_step sound step live
  · exact fun w' current step vacant found => starting_of_step sound step vacant found

/-! ## Whole calls -/

theorem put_put {old new : Option Thread} {l' : Ledger} :
    (w.put id l old).put id l' new = w.put id l' new := by
  simp [World.put]

theorem threads_put_self {new : Option Thread} : (w.put id l new).threads id = new :=
  Function.update_self ..

namespace Reachable

variable {version : String} {current : Versioned}

/-- Where there is no record, a job can start. -/
theorem starts (h : Reachable lossy w) (id : Nat) (name : String) (now : Instant)
    (free : w.threads id = none) (vacant : w.ledger.records name = none)
    (new : version ∉ w.ledger.spent name) :
    Reachable lossy
      (w.put id (w.ledger.write (.fresh name now) version) (some (.working name (.done ())))) := by
  have begun := h.step (.run now name free)
  have created := begun.step
    (.call threads_put_self (.start rfl) (by rintro _ _ _ ⟨⟩) (.created vacant new))
  have launched := created.step (.launch threads_put_self)
  rwa [put_put, put_put] at launched

/-- A record that does not count as running, though its heartbeat is young, can be removed. -/
theorem removes (h : Reachable lossy w) (id : Nat) (name : String) (now : Instant)
    (free : w.threads id = none) (found : w.ledger.records name = some current)
    (idle : current.record.isRunningAt now = false)
    (young : now.sub current.record.heartbeat < lease * Instant.nanosPerSecond) :
    Reachable lossy (w.put id (w.ledger.erase name) none) := by
  obtain ⟨next, run, -, -, decided⟩ := run_remove now name
  have begun := h.step (.remove now name free)
  have read := begun.step <| .call threads_put_self (.remove run)
    (by
      rintro _ _ _ ⟨⟩ - - other found'
      cases found.symm.trans found'
      exact young)
    (.get name)
  rw [put_put] at read
  have deletes :
      next (.ok (w.ledger.records name)) = .ask (.delete name current.version) .done := by
    rw [found, (decided current).2 idle]
  have deleted := read.step <| .call threads_put_self (.remove deletes)
    (by rintro _ _ _ - ⟨⟩) (.deleted found)
  have gone := deleted.step (.leave threads_put_self fun _ live => live)
  rwa [put_put, put_put] at gone

/-- A task that records its end marks the record of its name, and if the reply to that is lost, it
    has the rounds that are left. -/
theorem marks (h : Reachable lossy w) (id : Nat) (now : Instant) (later : List Instant)
    {error : Option String}
    (here : w.threads id = some (.ending name (finishWithin name error (now :: later))))
    (found : w.ledger.records name = some current) (new : version ∉ w.ledger.spent name)
    (loses : ∀ rest, lossy (.ending name rest)) :
    Reachable lossy (w.put id
      (w.ledger.write { current.record with finished := some now, error } version)
      (some (.ending name (finishWithin name error later)))) := by
  have named := w.ledger.named name current found
  have read := h.step (.call here (.finish rfl) (by rintro _ _ _ ⟨⟩) (.get name))
  rw [found] at read
  have marked := read.step <| .lost threads_put_self (.finish rfl) (loses _)
    (@Ledger.Serves.updated w.ledger { current.record with finished := some now, error } current
      version (named ▸ found) (named ▸ new))
    (.update _ _ (.api (.unanswered "connection reset")))
  rwa [put_put] at marked

end Reachable

/-- A job is under way, and its last heartbeat was not told that it was written. Another one of its
    name is to be started, which cannot succeed. -/
theorem single_flight_twice : ∃ w,
    Reachable (fun t => ∀ name rest, t ≠ .ending name rest) w ∧ w.Live "job" ∧
    w.threads 1 = some (.starting "job" (start default "job").run) ∧
    ∀ l, ¬ w.ledger.Serves (.create (.fresh "job" default)) (.ok ()) l := by
  let lossy (t : Thread) : Prop := ∀ name rest, t ≠ .ending name rest
  let renewed : JobRecord := .fresh "job" default
  let l := Ledger.blank.write renewed "1"
  have found : l.records "job" = some ⟨renewed, "1"⟩ := Ledger.records_write_self
  have new : "2" ∉ l.spent "job" := by simp [l, renewed, Ledger.spent_write, Ledger.blank]
  have read : l.Serves (.get "job") (.ok (some ⟨renewed, "1"⟩)) l := found ▸ .get "job"
  have renew : l.Serves (.update renewed "1") (.ok ()) (l.write renewed "2") :=
    @Ledger.Serves.updated l renewed ⟨renewed, "1"⟩ "2" found new
  have h : Reachable lossy _ := .init Ledger.blank
  replace h := h.starts 0 "job" default rfl rfl (Set.notMem_empty "1")
  replace h := h.step (@Step.beat _ _ 0 "job" default rfl)
  replace h := h.step (@Step.call _ _ 0 _ _ _ _ _ rfl (.work rfl) (by rintro _ _ _ ⟨⟩) read)
  replace h := h.step (@Step.lost _ _ 0 _ _ _ _ _ _ rfl (.work rfl) nofun renew
    (.update _ _ (.api (.unanswered "connection reset"))))
  replace h := h.step (@Step.run _ _ 1 default "job" rfl)
  refine ⟨_, h, ⟨0, _, rfl, rfl⟩, rfl, fun l served => ?_⟩
  obtain ⟨-, -, refused, -⟩ := single_flight (fun name rest told => told name rest rfl) h "job"
  obtain ⟨job, conflict⟩ := (refused ⟨0, _, rfl, rfl⟩ 1 _ _ _ rfl rfl (.ok ())).1 l served
  cases conflict

/-- A task is not told that its end is recorded. The record is removed, and a second job starts. Now
    the task of the first one finds the record of the second, and marks it. So that is removed as
    well, and a third job starts while the action of the second one is under way. -/
theorem two_live : ∃ w id id' t t', Reachable (fun t => ∃ name rest, t = .ending name rest) w ∧
    w.threads id = some t ∧ t.Live "job" ∧ w.threads id' = some t' ∧ t'.Live "job" ∧
    id ≠ id' := by
  let lossy (t : Thread) : Prop := ∃ name rest, t = .ending name rest
  let first : JobRecord := .fresh "job" default
  let marked : JobRecord := { first with finished := some default }
  -- The store as each job starts, and as its record is marked.
  let l := Ledger.blank.write first "1"
  let m := (l.write marked "2").erase "job"
  let l' := m.write first "3"
  have found : l.records "job" = some ⟨first, "1"⟩ := Ledger.records_write_self
  have found' : l'.records "job" = some ⟨first, "3"⟩ := Ledger.records_write_self
  have ended : (l.write marked "2").records "job" = some ⟨marked, "2"⟩ := Ledger.records_write_self
  have ended' : (l'.write marked "4").records "job" = some ⟨marked, "4"⟩ :=
    Ledger.records_write_self
  have spent : l.spent "job" = {"1"} := Ledger.spent_write_self.trans (insert_empty_eq "1")
  have left : (l.write marked "2").spent "job" = {"2", "1"} :=
    Ledger.spent_write_self.trans (congrArg (insert "2") spent)
  -- What is deleted leaves its versions used up.
  have spent' : l'.spent "job" = {"3", "2", "1"} :=
    Ledger.spent_write_self.trans (congrArg (insert "3") left)
  have left' : (l'.write marked "4").spent "job" = {"4", "3", "2", "1"} :=
    Ledger.spent_write_self.trans (congrArg (insert "4") spent')
  have idle : marked.isRunningAt default = false := rfl
  have young : (default : Instant).sub marked.heartbeat < lease * Instant.nanosPerSecond := by
    decide
  have unheard (rest : Talk Unit) : lossy (.ending "job" rest) := ⟨_, _, rfl⟩
  have h : Reachable lossy _ := .init Ledger.blank
  -- The first job starts and ends, and its record is marked and removed.
  replace h := h.starts 0 "job" default rfl rfl (Set.notMem_empty "1")
  replace h := h.step (@Step.conclude _ _ 0 "job" (.replicate _ default) none rfl)
  replace h := h.marks 0 default (.replicate 4 default) rfl found
    (show "2" ∉ l.spent "job" by simp [spent]) unheard
  replace h := h.removes 1 "job" default rfl ended idle young
  -- The second one starts, and is marked and removed in the same way.
  replace h := h.starts 2 "job" default rfl Ledger.records_erase_self
    (show "3" ∉ (l.write marked "2").spent "job" by simp [left])
  replace h := h.marks 0 default (.replicate 3 default) rfl found'
    (show "4" ∉ l'.spent "job" by simp [spent']) unheard
  replace h := h.removes 3 "job" default rfl ended' idle young
  replace h := h.starts 4 "job" default rfl Ledger.records_erase_self
    (show "5" ∉ (l'.write marked "4").spent "job" by simp [left'])
  exact ⟨_, 2, 4, _, _, h, rfl, rfl, rfl, rfl, by decide⟩

end RingOperator.Jobs
