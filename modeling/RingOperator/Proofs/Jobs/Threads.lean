import RingOperator.Jobs.Tracker
import RingOperator.Proofs.Jobs.Ledger

/-!
# Trackers that share a store

Any number of trackers share one store of job records. Each call that starts or
removes a job and each task of a job that has started is a `Thread`: a dialogue
with the store that has come some way. Whatever threads do for any names
interleaves at every single call to the store, and any call may fail (`Step`),
either before the store has served it or, where replies can be lost, after
that: then what it writes is written all the same. A job is *live*
(`World.Live`) from the creation of its record until its end is recorded or
given up.
-/

namespace RingOperator.Jobs

open Dialogue

/-- A call that starts or removes a job, or the task of a job. -/
inductive Thread where
  /-- A call that starts a job, and what is left of it. -/
  | starting (name : String) (rest : Talk (Outcome Unit))
  /-- A call that removes a job as of some time. -/
  | removing (now : Instant) (name : String) (rest : Talk (Outcome Unit))
  /-- A job whose action is under way, and what is left of a heartbeat. -/
  | working (name : String) (rest : Talk Unit)
  /-- A job whose end is being recorded. -/
  | ending (name : String) (rest : Talk Unit)

/-- Whether a thread is of a live job: its record has been created, and its end is not yet
    recorded nor given up. -/
def Thread.Live (name : String) : Thread → Prop
  | starting job rest => job = name ∧ rest = .done (.ok ())
  | removing _ _ _ => False
  | working job _ => job = name
  | ending job rest => job = name ∧ rest ≠ .done ()

/-- What a thread asks next, and how it goes on from each reply. -/
inductive Thread.Asks : Thread → (request : Ask) → (Reply request → Thread) → Prop
  | start {name : String} {rest : Talk (Outcome Unit)} {request : Ask}
      {next : Reply request → Talk (Outcome Unit)} (h : rest = .ask request next) :
      Asks (.starting name rest) request fun reply => .starting name (next reply)
  | remove {now : Instant} {name : String} {rest : Talk (Outcome Unit)} {request : Ask}
      {next : Reply request → Talk (Outcome Unit)} (h : rest = .ask request next) :
      Asks (.removing now name rest) request fun reply => .removing now name (next reply)
  | work {name : String} {rest : Talk Unit} {request : Ask} {next : Reply request → Talk Unit}
      (h : rest = .ask request next) :
      Asks (.working name rest) request fun reply => .working name (next reply)
  | finish {name : String} {rest : Talk Unit} {request : Ask} {next : Reply request → Talk Unit}
      (h : rest = .ask request next) :
      Asks (.ending name rest) request fun reply => .ending name (next reply)

/-- The store, and all threads that are under way. -/
structure World where
  ledger : Ledger
  threads : Nat → Option Thread

namespace World

/-- Whether there is a live job of a name. -/
def Live (w : World) (name : String) : Prop := ∃ id t, w.threads id = some t ∧ t.Live name

/-- The heartbeat of a live job's record is younger than the lease. -/
def Vouched (w : World) (now : Instant) (name : String) : Prop :=
  w.Live name → ∀ current, w.ledger.records name = some current →
    now.sub current.record.heartbeat < lease * Instant.nanosPerSecond

/-- One thread put in the place of another, or none, with what the store holds then. -/
def put (w : World) (id : Nat) (l : Ledger) (t : Option Thread) : World :=
  ⟨l, Function.update w.threads id t⟩

end World

/-- What can happen next, where `lossy` says to which threads replies can be lost. -/
inductive Step (lossy : Thread → Prop) (w : World) : World → Prop
  /-- A job is to be started. -/
  | run {id : Nat} (now : Instant) (name : String) (free : w.threads id = none) :
      Step lossy w (w.put id w.ledger (some (.starting name (start now name).run)))
  /-- A job is to be removed. -/
  | remove {id : Nat} (now : Instant) (name : String) (free : w.threads id = none) :
      Step lossy w (w.put id w.ledger (some (.removing now name (remove now name).run)))
  /-- The action of a job begins, once its record is created. -/
  | launch {id : Nat} {name : String}
      (h : w.threads id = some (.starting name (.done (.ok ())))) :
      Step lossy w (w.put id w.ledger (some (.working name (.done ()))))
  /-- A heartbeat is due. -/
  | beat {id : Nat} {name : String} (now : Instant)
      (h : w.threads id = some (.working name (.done ()))) :
      Step lossy w (w.put id w.ledger (some (.working name (heartbeat now name))))
  /-- The action of a job ends. -/
  | conclude {id : Nat} {name : String} (readings : Vector Instant finishAttempts)
      (error : Option String) (h : w.threads id = some (.working name (.done ()))) :
      Step lossy w (w.put id w.ledger (some (.ending name (finish readings name error))))
  /-- A call that is of no live job returns, or is given up. -/
  | leave {id : Nat} {t : Thread} (h : w.threads id = some t) (idle : ∀ name, ¬ t.Live name) :
      Step lossy w (w.put id w.ledger none)
  /-- The store answers a call. Whoever wants to remove a job reads its record while the
      heartbeat of a live job is young. -/
  | call {id : Nat} {t : Thread} {request : Ask} {next : Reply request → Thread}
      {reply : Reply request} {l : Ledger} (h : w.threads id = some t) (asks : t.Asks request next)
      (vouched : ∀ now name rest, t = .removing now name rest → request = .get name →
        w.Vouched now name)
      (served : w.ledger.Serves request reply l) : Step lossy w (w.put id l (some (next reply)))
  /-- A call to the store fails, and changes nothing. -/
  | fail {id : Nat} {t : Thread} {request : Ask} {next : Reply request → Thread}
      {reply : Reply request} (h : w.threads id = some t) (asks : t.Asks request next)
      (fails : Fails request reply) : Step lossy w (w.put id w.ledger (some (next reply)))
  /-- The store serves a call, but the reply is lost, so that the call fails. -/
  | lost {id : Nat} {t : Thread} {request : Ask} {next : Reply request → Thread}
      {reply heard : Reply request} {l : Ledger} (h : w.threads id = some t)
      (asks : t.Asks request next) (loses : lossy t) (served : w.ledger.Serves request reply l)
      (fails : Fails request heard) : Step lossy w (w.put id l (some (next heard)))

/-- The states that can come about from a store with any records and no threads. -/
inductive Reachable (lossy : Thread → Prop) : World → Prop
  | init (l : Ledger) : Reachable lossy ⟨l, fun _ => none⟩
  | step {w w' : World} (h : Reachable lossy w) (step : Step lossy w w') : Reachable lossy w'

end RingOperator.Jobs
