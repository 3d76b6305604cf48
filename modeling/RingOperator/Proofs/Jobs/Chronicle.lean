import RingOperator.Proofs.Jobs.Threads

/-!
# Who has done what to a record

A `Chronicle` is what any number of trackers have done to the store that they share: the
threads that are under way, and all events so far, the latest one first. Threads are
numbered as they begin, so a call that starts a job and the task of that job have one
number, which no other thread has. Here nothing vouches for a job: its heartbeat may
fail to be written for any time, whereupon its record is removed and a job of the same
name starts while the task still executes, and a thread may also vanish at any time. Any
call may fail, be it that the store did not serve it or that the reply was lost.

The *author* of a record is the thread that created it (`author`). A thread has *lost*
its record if that was deleted (`Lost`).
-/

namespace RingOperator.Jobs

/-- What happens to a thread and is told of it later. -/
inductive Event where
  /-- A call that removes a job begins, as of some time. -/
  | removing (id : Nat) (now : Instant) (name : String)
  /-- A call is answered by the store, whether or not the answer arrives, or fails without that. -/
  | returned (id : Nat) (request : Ask) (reply : Reply request)
  /-- The action of a job ends. -/
  | ended (id : Nat)

/-- The thread that created the record of a name, unless that was deleted since. -/
def author : List Event → String → Option Nat
  | [], _ => none
  | .returned id (.create record) (.ok ()) :: past, name =>
    if name = record.name then some id else author past name
  | .returned _ (.delete other _) (.ok ()) :: past, name =>
    if name = other then none else author past name
  | _ :: past, name => author past name

/-- A thread that has created a record of a name. -/
def Begun (past : List Event) (id : Nat) (name : String) : Prop :=
  ∃ record, .returned id (.create record) (.ok ()) ∈ past ∧ record.name = name

/-- A thread whose record of a name has been deleted. -/
def Lost (past : List Event) (id : Nat) (name : String) : Prop :=
  ∃ after before other version,
    past = after ++ .returned other (.delete name version) (.ok ()) :: before ∧
      author before name = some id

/-- Of every event, given those before it, something holds. -/
def Always (p : List Event → Event → Prop) (past : List Event) : Prop :=
  ∀ after e before, past = after ++ e :: before → p before e

theorem always_nil {p : List Event → Event → Prop} : Always p [] := by
  intro after e before split
  cases after <;> cases split

theorem always_cons {p : List Event → Event → Prop} {e : Event} {past : List Event} (h : p past e)
    (h' : Always p past) : Always p (e :: past) := by
  intro after e' before split
  cases after with
  | nil =>
    obtain ⟨rfl, rfl⟩ := List.cons_eq_cons.1 split
    exact h
  | cons _ after =>
    obtain ⟨-, rest⟩ := List.cons_eq_cons.1 split
    exact h' after e' before rest

/-- The store with the threads that are under way, and what has happened. -/
structure Chronicle where
  world : World
  /-- How many threads have begun. -/
  count : Nat
  /-- The events so far, the latest one first. -/
  past : List Event

namespace Chronicle

/-- What can happen next. -/
inductive Step (c : Chronicle) : Chronicle → Prop
  /-- A job is to be started. -/
  | run (now : Instant) (name : String) :
      Step c ⟨c.world.put c.count c.world.ledger (some (.starting name (start now name).run)),
        c.count + 1, c.past⟩
  /-- A job is to be removed. -/
  | remove (now : Instant) (name : String) :
      Step c ⟨c.world.put c.count c.world.ledger (some (.removing now name (remove now name).run)),
        c.count + 1, .removing c.count now name :: c.past⟩
  /-- The action of a job begins, once its record is created. -/
  | launch {id : Nat} {name : String}
      (h : c.world.threads id = some (.starting name (.done (.ok ())))) :
      Step c ⟨c.world.put id c.world.ledger (some (.working name (.done ()))), c.count, c.past⟩
  /-- A heartbeat is due. -/
  | beat {id : Nat} {name : String} (now : Instant)
      (h : c.world.threads id = some (.working name (.done ()))) :
      Step c ⟨c.world.put id c.world.ledger (some (.working name (heartbeat now name))),
        c.count, c.past⟩
  /-- The action of a job ends. -/
  | conclude {id : Nat} {name : String} (readings : Vector Instant finishAttempts)
      (error : Option String) (h : c.world.threads id = some (.working name (.done ()))) :
      Step c ⟨c.world.put id c.world.ledger (some (.ending name (finish readings name error))),
        c.count, .ended id :: c.past⟩
  /-- A thread returns, is given up, or dies. -/
  | leave (id : Nat) : Step c ⟨c.world.put id c.world.ledger none, c.count, c.past⟩
  /-- A call to the store returns. -/
  | call {id : Nat} {t : Thread} {request : Ask} {next : Reply request → Thread}
      {reply : Reply request} {l : Ledger} (h : c.world.threads id = some t)
      (asks : t.Asks request next) (returns : Returns c.world.ledger request reply l) :
      Step c ⟨c.world.put id l (some (next reply)), c.count, .returned id request reply :: c.past⟩
  /-- The store serves a call, but the reply is lost, so that the call fails. -/
  | lost {id : Nat} {t : Thread} {request : Ask} {next : Reply request → Thread}
      {reply heard : Reply request} {l : Ledger} (h : c.world.threads id = some t)
      (asks : t.Asks request next) (served : c.world.ledger.Serves request reply l)
      (fails : Fails request heard) :
      Step c ⟨c.world.put id l (some (next heard)), c.count, .returned id request reply :: c.past⟩

/-- What can come about from a store with any records, as threads begin. -/
inductive Reachable : Chronicle → Prop
  | init (l : Ledger) : Reachable ⟨⟨l, fun _ => none⟩, 0, []⟩
  | step {c c' : Chronicle} (h : Reachable c) (step : Step c c') : Reachable c'

end Chronicle

/-! ## What events add -/

/-- A thread that has created a record of a name, which is still there, unless it was deleted. -/
def Owns (past : List Event) (id : Nat) (name : String) : Prop :=
  Begun past id name ∧ (author past name = some id ∨ Lost past id name)

variable {past : List Event} {e : Event} {id : Nat} {name : String}

theorem Begun.cons (h : Begun past id name) : Begun (e :: past) id name := by
  obtain ⟨record, created, named⟩ := h
  exact ⟨record, List.mem_cons_of_mem e created, named⟩

theorem Lost.cons (h : Lost past id name) : Lost (e :: past) id name := by
  obtain ⟨after, before, other, version, rfl, h⟩ := h
  exact ⟨e :: after, before, other, version, rfl, h⟩

/-- Whose record it is stays with an event that changes no author. -/
theorem Owns.cons (h : Owns past id name) (same : author (e :: past) name = author past name) :
    Owns (e :: past) id name :=
  ⟨h.1.cons, h.2.imp same.trans Lost.cons⟩

section

variable {l l' : Ledger} {other : Nat} {request : Ask} {reply : Reply request}

/-- A call that fails changes no author. -/
theorem author_of_fails (fails : Fails request reply) :
    author (.returned other request reply :: past) name = author past name := by
  cases fails <;> rfl

/-- Whose record it is stays, until it is deleted. -/
theorem Owns.of_returns (h : Owns past id name)
    (vacant : ∀ name, l.records name = none → author past name = none)
    (returns : Returns l request reply l') :
    Owns (.returned other request reply :: past) id name := by
  refine ⟨h.1.cons, ?_⟩
  rcases h.2 with own | lost
  · have exists_record {name' : String} (free : l.records name' = none) : name ≠ name' := by
      rintro rfl
      cases (vacant _ free).symm.trans own
    cases returns with
    | failed fails => exact .inl ((author_of_fails fails).trans own)
    | served served =>
      cases served with
      -- A record is created only where there is none, so not in the place of this one.
      | created free new => exact .inl ((if_neg (exists_record free)).trans own)
      | missing free => exact .inl ((if_neg (exists_record free)).trans own)
      | @deleted name' current found =>
        by_cases same : name = name'
        · subst same
          exact .inr ⟨[], past, other, _, rfl, own⟩
        · exact .inl ((if_neg same).trans own)
      | get | taken | updated | changed | outdated => exact .inl own
  · exact .inr lost.cons

/-- A name without a record has no author. -/
theorem author_of_returns (vacant : ∀ name, l.records name = none → author past name = none)
    (returns : Returns l request reply l') (free : l'.records name = none) :
    author (.returned other request reply :: past) name = none := by
  cases returns with
  | failed fails => exact (author_of_fails fails).trans (vacant name free)
  | served served =>
    cases served with
    | created free' new =>
      rw [Ledger.records_write] at free
      split at free
      · cases free
      · rename_i different
        exact (if_neg different).trans (vacant name free)
    | updated found new =>
      rw [Ledger.records_write] at free
      split at free
      · cases free
      · exact vacant name free
    | @deleted name' current found =>
      rw [Ledger.records_erase] at free
      by_cases same : name = name'
      · exact if_pos same
      · exact (if_neg same).trans (vacant name (by rwa [if_neg same] at free))
    | @missing name' version free' =>
      by_cases same : name = name'
      · exact if_pos same
      · exact (if_neg same).trans (vacant name free)
    | get | taken | changed | outdated => exact vacant name free

end

end RingOperator.Jobs
