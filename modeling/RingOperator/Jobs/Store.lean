import RingOperator.Dialogue
import RingOperator.Jobs.Record
import RingOperator.Table

/-!
# Stores of job records

What a store of job records is asked, and the store that a process keeps in
its memory. A record is created once, and changed or deleted only under the
version at which it was read.
-/

namespace RingOperator.Jobs

/-- What a store is asked. -/
inductive Ask where
  | get (name : String)
  | create (record : JobRecord)
  | update (record : JobRecord) (version : String)
  | delete (name version : String)
  deriving DecidableEq

/-- What comes back. -/
@[reducible]
def Reply : Ask → Type
  | .get _ => Outcome (Option Versioned)
  | .create _ => Outcome Unit
  | .update _ _ => Outcome Unit
  | .delete _ _ => Outcome Unit

/-- A dialogue with a store that cannot fail as a whole. -/
abbrev Talk (α : Type) := Dialogue Ask Reply α

/-- A dialogue with a store that may fail. -/
abbrev Exchange (α : Type) := ExceptT Failure (Dialogue Ask Reply) α

/-- Records with the number of the write that made each. -/
abbrev MemoryStore := Table (JobRecord × Nat)

namespace MemoryStore

/-- Serves one request. Creation numbers a record one, and each update counts on from there. -/
def serve : (request : Ask) → MemoryStore → Reply request × MemoryStore
  | .get name, store =>
    (.ok ((store.get? name).map fun (record, n) => ⟨record, Text.Numeral.ofNat n⟩), store)
  | .create record, store =>
    match store.get? record.name with
    | some _ => (.error (.jobConflict record.name), store)
    | none => (.ok (), store.insert record.name (record, 1))
  | .update record version, store =>
    match store.get? record.name with
    | some (_, n) =>
      if Text.Numeral.ofNat n = version then
        (.ok (), store.insert record.name (record, n + 1))
      else (.error (.jobConflict record.name), store)
    | none => (.error (.jobConflict record.name), store)
  | .delete name version, store =>
    match store.get? name with
    | none => (.ok (), store)
    | some (_, n) =>
      if Text.Numeral.ofNat n = version then (.ok (), store.erase name)
      else (.error (.jobConflict name), store)

end MemoryStore

end RingOperator.Jobs
