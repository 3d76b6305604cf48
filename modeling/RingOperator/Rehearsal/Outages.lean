import RingOperator.Jobs.Store

/-!
# Rehearsed outages

A store that refuses the next few requests of a kind, each with the failure
that was announced, and is left unchanged by what it refuses. Of one kind, the
outage that was announced last is the one that counts.

This is for runs of the operator's own definitions against a written world
(`Rehearsal.Ring`). Theorems about jobs are about every reply that a store can
give; none is about these outages.
-/

namespace RingOperator.Rehearsal

/-- The kinds of requests to a store of job records. -/
inductive RequestKind where
  | get | create | update | delete
  deriving DecidableEq

/-- The kind of a request. -/
def RequestKind.of : Jobs.Ask → RequestKind
  | .get _ => get
  | .create _ => create
  | .update _ _ => update
  | .delete _ _ => delete

/-- Requests that will be refused. -/
structure Outage where
  kind : RequestKind
  /-- How many requests are still refused. -/
  left : Nat
  failure : Failure

namespace Outage

/-- The failure of the next request of a kind, if it is refused, and the outages after it. -/
def next (kind : RequestKind) : List Outage → Option Failure × List Outage
  | [] => (none, [])
  | outage :: rest =>
    if outage.kind = kind ∧ 0 < outage.left then
      (some outage.failure, { outage with left := outage.left - 1 } :: rest)
    else
      let (failure, rest) := next kind rest
      (failure, outage :: rest)

end Outage

/-- A store in memory, with outages. -/
structure FaultyStore where
  records : Jobs.MemoryStore := Table.empty
  outages : List Outage := []

namespace FaultyStore

/-- The store with an outage announced, in place of an earlier one of its kind. -/
def announce (store : FaultyStore) (outage : Outage) : FaultyStore :=
  { store with outages := outage :: store.outages.filter fun other => other.kind ≠ outage.kind }

/-- A refusal as the reply to any request. -/
def refuse (failure : Failure) : (request : Jobs.Ask) → Jobs.Reply request
  | .get _ => .error failure
  | .create _ => .error failure
  | .update _ _ => .error failure
  | .delete _ _ => .error failure

/-- Serves one request. -/
def serve (request : Jobs.Ask) (store : FaultyStore) : Jobs.Reply request × FaultyStore :=
  match Outage.next (.of request) store.outages with
  | (some failure, outages) => (refuse failure request, { store with outages })
  | (none, outages) =>
    let (reply, records) := Jobs.MemoryStore.serve request store.records
    (reply, { records, outages })

end FaultyStore

end RingOperator.Rehearsal
