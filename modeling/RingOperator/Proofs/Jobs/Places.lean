import RingOperator.Proofs.Jobs.Threads

/-!
# What holds while trackers share a store

`World.Sound` is what holds in every state: of live jobs no two have one name,
the record of a live job is there and not finished, and every thread is at one
of its places (`Thread.Sound`). A step changes one thread and at most one record,
so there are three ways in which all this can stay: the store does not change
(`sound_quiet`), a record is written under a new version (`sound_write`), or the
record of a job that is not live is deleted (`sound_erase`).
-/

namespace RingOperator.Jobs

open Dialogue

/-- Where a thread can be. A removal that is about to delete has read a version that the record of
    no live job has, and a job writes its own record. -/
inductive Thread.Sound (w : World) : Thread → Prop
  | toCreate (now : Instant) (name : String) : Sound w (.starting name (start now name).run)
  | created (name : String) : Sound w (.starting name (.done (.ok ())))
  | refused (name : String) (failure : Failure) : Sound w (.starting name (.done (.error failure)))
  | toRead (now : Instant) (name : String) : Sound w (.removing now name (remove now name).run)
  | toDelete (now : Instant) {name version : String} (spent : version ∈ w.ledger.spent name)
      (old : w.Live name → ∀ current, w.ledger.records name = some current →
        current.version ≠ version) :
      Sound w (.removing now name (.ask (.delete name version) .done))
  | removed (now : Instant) (name : String) (result : Outcome Unit) :
      Sound w (.removing now name (.done result))
  | between (name : String) : Sound w (.working name (.done ()))
  | toBeat (now : Instant) (name : String) : Sound w (.working name (heartbeat now name))
  | toRenew {name version : String} {record : JobRecord} (own : record.name = name)
      (unfinished : record.finished = none) :
      Sound w (.working name (.ask (.update record version) fun _ => .done ()))
  | toFinish (name : String) (error : Option String) (readings : List Instant) :
      Sound w (.ending name (finishWithin name error readings))
  | toMark {name version : String} {record : JobRecord} {next : Outcome Unit → Talk Unit}
      (own : record.name = name) (marked : next (.ok ()) = .done ())
      (again : ∀ failure, ∃ error readings,
        next (.error failure) = finishWithin name error readings) :
      Sound w (.ending name (.ask (.update record version) next))

/-- What holds in every state: every thread is at one of its places, no two live jobs have one
    name, and the record of a live job is there and not finished. -/
structure World.Sound (w : World) : Prop where
  threads : ∀ id t, w.threads id = some t → t.Sound w
  single : ∀ name id id' t t', w.threads id = some t → t.Live name →
    w.threads id' = some t' → t'.Live name → id = id'
  held : ∀ name, w.Live name → ∃ current, w.ledger.records name = some current ∧
    current.record.finished = none

/-! ## What a step leaves -/

/-- No version is forgotten, and of every name the record is kept and no job has become live, or
    the version of the record is new. -/
def Kept (w w' : World) : Prop :=
  ∀ name, w.ledger.spent name ⊆ w'.ledger.spent name ∧
    ((w'.Live name → w.Live name) ∧ w'.ledger.records name = w.ledger.records name ∨
      ∀ current, w'.ledger.records name = some current → current.version ∉ w.ledger.spent name)

variable {w w' : World} {id : Nat} {l : Ledger} {old : Thread} {new : Option Thread}

theorem Thread.Sound.mono {t : Thread} (sound : t.Sound w) (kept : Kept w w') : t.Sound w' := by
  cases sound with
  | toDelete now spent old =>
    obtain ⟨more, same | fresh⟩ := kept _
    · refine .toDelete now (more spent) fun live current found => ?_
      exact old (same.1 live) current (same.2 ▸ found)
    -- The version to delete was spent before, so it is not the new one.
    · refine .toDelete now (more spent) ?_
      rintro - current found rfl
      exact fresh current found spent
  | toCreate now name => exact .toCreate now name
  | created name => exact .created name
  | refused name failure => exact .refused name failure
  | toRead now name => exact .toRead now name
  | removed now name result => exact .removed now name result
  | between name => exact .between name
  | toBeat now name => exact .toBeat now name
  | toRenew own unfinished => exact .toRenew own unfinished
  | toFinish name error readings => exact .toFinish name error readings
  | toMark own marked again => exact .toMark own marked again

theorem threads_put (j : Nat) : (w.put id l new).threads j = if j = id then new else w.threads j :=
  Function.update_apply ..

/-- A job that is live is the one put there, or was live before. -/
theorem live_put {name : String} (h : (w.put id l new).Live name) :
    (∃ t, new = some t ∧ t.Live name) ∨ w.Live name := by
  obtain ⟨j, t, here, live⟩ := h
  rw [threads_put] at here
  split at here
  · exact .inl ⟨t, here, live⟩
  · exact .inr ⟨j, t, here, live⟩

/-- A thread that goes on leaves all else sound, if a job becomes live only where none was. -/
theorem sound_put (sound : w.Sound) (kept : Kept w (w.put id l new))
    (sane : ∀ t, new = some t → t.Sound (w.put id l new))
    (alone : ∀ t name, new = some t → t.Live name →
      (∃ old, w.threads id = some old ∧ old.Live name) ∨ ¬ w.Live name)
    (held : ∀ name, (w.put id l new).Live name → ∃ current, l.records name = some current ∧
      current.record.finished = none) : (w.put id l new).Sound where
  threads j t here := by
    rw [threads_put] at here
    split at here
    · exact sane t here
    · exact (sound.threads j t here).mono kept
  single name j k t t' here live here' live' := by
    -- Where the thread that was put is live, no other one of the name is.
    have other {t t' : Thread} {j : Nat} (put : new = some t) (live : t.Live name)
        (here : w.threads j = some t') (live' : t'.Live name) : id = j := by
      rcases alone t name put live with ⟨old, before, live⟩ | none
      · exact sound.single name id j old t' before live here live'
      · exact absurd ⟨j, t', here, live'⟩ none
    rw [threads_put] at here here'
    split at here
    · rename_i first
      split at here'
      · rename_i second
        exact first.trans second.symm
      · exact first.trans (other here live here' live')
    · split at here'
      · rename_i second
        exact (other here' live' here live).symm.trans second.symm
      · exact sound.single name j k t t' here live here' live'
  held := held

/-- A thread that takes the place of another one leaves all else sound if the store does not change
    and its job is live only if that of the other one was. -/
theorem sound_quiet (sound : w.Sound) (sane : ∀ t, new = some t → t.Sound w)
    (less : ∀ t name, new = some t → t.Live name →
      ∃ old, w.threads id = some old ∧ old.Live name) : (w.put id w.ledger new).Sound := by
  have before {name : String} (h : (w.put id w.ledger new).Live name) : w.Live name := by
    rcases live_put h with ⟨t, put, live⟩ | live
    · obtain ⟨old, here, live⟩ := less t name put live
      exact ⟨id, old, here, live⟩
    · exact live
  have kept : Kept w (w.put id w.ledger new) := fun name => ⟨subset_rfl, .inl ⟨before, rfl⟩⟩
  refine sound_put sound kept (fun t put => (sane t put).mono kept) ?_ ?_
  · exact fun t name put live => .inl (less t name put live)
  · exact fun name live => sound.held name (before live)

/-- A thread that goes on without a change of the store leaves all else sound, if its job is live
    only if it was. -/
theorem sound_next (sound : w.Sound) {t t' : Thread} (here : w.threads id = some t)
    (sane : t'.Sound w) (less : ∀ name, t'.Live name → t.Live name) :
    (w.put id w.ledger (some t')).Sound := by
  refine sound_quiet sound ?_ ?_
  · rintro _ ⟨⟩
    exact sane
  · rintro _ name ⟨⟩ live
    exact ⟨t, here, less name live⟩

/-- A thread that writes a record under a new version leaves all else sound, if the record is not
    finished or its job is no longer live, and the job is live only if it was or nobody was. -/
theorem sound_write (sound : w.Sound) {record : JobRecord} {version : String} {t : Thread}
    (unspent : version ∉ w.ledger.spent record.name)
    (sane : ∀ w, t.Sound w)
    (own : ∀ name, t.Live name → name = record.name)
    (alone : t.Live record.name →
      (∃ old, w.threads id = some old ∧ old.Live record.name) ∨ ¬ w.Live record.name)
    (unfinished : (w.put id (w.ledger.write record version) (some t)).Live record.name →
      record.finished = none) :
    (w.put id (w.ledger.write record version) (some t)).Sound := by
  have before {name : String} (other : name ≠ record.name)
      (h : (w.put id (w.ledger.write record version) (some t)).Live name) : w.Live name := by
    rcases live_put h with ⟨_, ⟨⟩, live⟩ | live
    · exact absurd (own name live) other
    · exact live
  refine sound_put sound ?_ (fun _ put => by cases put; exact sane _) ?_ ?_
  · intro name
    refine ⟨w.ledger.spent_subset_write record version name, ?_⟩
    by_cases here : name = record.name
    · refine .inr fun current found => ?_
      rw [World.put, Ledger.records_write, if_pos here] at found
      cases found
      exact here ▸ unspent
    · refine .inl ⟨before here, ?_⟩
      rw [World.put, Ledger.records_write, if_neg here]
  · rintro _ name ⟨⟩ live
    obtain rfl := own name live
    exact alone live
  · intro name live
    rw [Ledger.records_write]
    split
    · rename_i here
      subst here
      exact ⟨_, rfl, unfinished live⟩
    · rename_i other
      exact sound.held name (before other live)

/-- A record that is deleted under the version of no live job's record leaves all else sound. -/
theorem sound_erase (sound : w.Sound) {name : String} {t : Thread} (sane : ∀ w, t.Sound w)
    (idle : ∀ name, ¬ t.Live name) (dead : ¬ w.Live name) :
    (w.put id (w.ledger.erase name) (some t)).Sound := by
  have before {name' : String} (h : (w.put id (w.ledger.erase name) (some t)).Live name') :
      w.Live name' := by
    rcases live_put h with ⟨_, ⟨⟩, live⟩ | live
    · exact absurd live (idle name')
    · exact live
  refine sound_put sound ?_ (fun _ put => by cases put; exact sane _) ?_ ?_
  · intro other
    refine ⟨subset_rfl, ?_⟩
    by_cases here : other = name
    · refine .inr fun current found => ?_
      rw [World.put, Ledger.records_erase, if_pos here] at found
      cases found
    · refine .inl ⟨before, ?_⟩
      rw [World.put, Ledger.records_erase, if_neg here]
  · rintro _ name' ⟨⟩ live
    exact absurd live (idle name')
  · intro other live
    rw [Ledger.records_erase, if_neg]
    · exact sound.held other (before live)
    · rintro rfl
      exact dead (before live)

end RingOperator.Jobs
