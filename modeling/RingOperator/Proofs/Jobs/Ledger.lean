import Mathlib.Data.Set.Insert
import Mathlib.Logic.Function.Basic
import RingOperator.Jobs.Store

/-!
# What a store of job records promises

A `Ledger` is what any store of job records amounts to, as far as its promises
go: the records with their versions, and all versions that a name has ever had.
`Ledger.Serves` says how a call that is answered is answered. A record is created
only where there is none, and changed or deleted only under the version that it
has, and every write gives it a version that its name has never had. A call may
also fail for a reason of its own (`Fails`), and then changes nothing (`Returns`).
-/

namespace RingOperator.Jobs

/-- The records of jobs with their versions, and the versions that have been used up. -/
structure Ledger where
  records : String → Option Versioned
  /-- The versions that records of a name have had. -/
  spent : String → Set String
  /-- A record is kept under its name. -/
  named : ∀ name current, records name = some current → current.record.name = name
  /-- The version of a record is one that its name has had. -/
  versioned : ∀ name current, records name = some current → current.version ∈ spent name

namespace Ledger

/-- A store without records. -/
def blank : Ledger where
  records _ := none
  spent _ := ∅
  named := nofun
  versioned := nofun

/-- A record written under a version. -/
def write (l : Ledger) (record : JobRecord) (version : String) : Ledger where
  records := Function.update l.records record.name (some ⟨record, version⟩)
  spent := Function.update l.spent record.name (insert version (l.spent record.name))
  named name current h := by
    rw [Function.update_apply] at h
    split at h
    · cases h
      symm
      assumption
    · exact l.named name current h
  versioned name current h := by
    rw [Function.update_apply] at h
    rw [Function.update_apply]
    split at h
    · cases h
      rw [if_pos (by assumption)]
      exact Set.mem_insert _ _
    · rw [if_neg (by assumption)]
      exact l.versioned name current h

/-- The record of a name deleted. Its versions stay used up. -/
def erase (l : Ledger) (name : String) : Ledger where
  records := Function.update l.records name none
  spent := l.spent
  named other current h := by
    rw [Function.update_apply] at h
    split at h
    · cases h
    · exact l.named other current h
  versioned other current h := by
    rw [Function.update_apply] at h
    split at h
    · cases h
    · exact l.versioned other current h

variable {l : Ledger} {record : JobRecord} {name version : String}

theorem records_write (name : String) : (l.write record version).records name =
    if name = record.name then some ⟨record, version⟩ else l.records name :=
  Function.update_apply ..

theorem records_erase (other : String) :
    (l.erase name).records other = if other = name then none else l.records other :=
  Function.update_apply ..

theorem records_write_self :
    (l.write record version).records record.name = some ⟨record, version⟩ :=
  Function.update_self ..

theorem records_erase_self : (l.erase name).records name = none :=
  Function.update_self ..

theorem spent_write (name : String) : (l.write record version).spent name =
    if name = record.name then insert version (l.spent record.name) else l.spent name :=
  Function.update_apply ..

theorem spent_write_self :
    (l.write record version).spent record.name = insert version (l.spent record.name) :=
  Function.update_self ..

theorem spent_subset_write (l : Ledger) (record : JobRecord) (version name : String) :
    l.spent name ⊆ (l.write record version).spent name := by
  rw [write]
  simp only [Function.update_apply]
  split
  · rename_i same
    rw [same]
    exact Set.subset_insert _ _
  · exact subset_rfl

/-- How a call that is answered is answered, and what the store holds then. -/
inductive Serves (l : Ledger) : (request : Ask) → Reply request → Ledger → Prop
  | get (name : String) : Serves l (.get name) (.ok (l.records name)) l
  /-- A record is created under a new version. -/
  | created {record : JobRecord} {version : String} (vacant : l.records record.name = none)
      (new : version ∉ l.spent record.name) :
      Serves l (.create record) (.ok ()) (l.write record version)
  /-- There is a record of that name. -/
  | taken {record : JobRecord} {current : Versioned} (found : l.records record.name = some current)
      (job : String) : Serves l (.create record) (.error (.jobConflict job)) l
  /-- A record that has not changed since a version gets a new one. -/
  | updated {record : JobRecord} {current : Versioned} {version : String}
      (found : l.records record.name = some current) (new : version ∉ l.spent record.name) :
      Serves l (.update record current.version) (.ok ()) (l.write record version)
  /-- A record has changed, or is no longer there. -/
  | changed {record : JobRecord} {version : String}
      (h : ∀ current, l.records record.name = some current → current.version ≠ version)
      (job : String) : Serves l (.update record version) (.error (.jobConflict job)) l
  /-- A record that has not changed since a version is deleted. -/
  | deleted {name : String} {current : Versioned} (found : l.records name = some current) :
      Serves l (.delete name current.version) (.ok ()) (l.erase name)
  /-- There is no record to delete. -/
  | missing {name version : String} (vacant : l.records name = none) :
      Serves l (.delete name version) (.ok ()) l
  /-- The record to delete has changed. -/
  | outdated {name version : String} {current : Versioned} (found : l.records name = some current)
      (differs : current.version ≠ version) (job : String) :
      Serves l (.delete name version) (.error (.jobConflict job)) l

/-- A call that is answered leaves a record of every name that has one, unless it deletes it
    under the version that it has. -/
theorem Serves.kept {request : Ask} {reply : Reply request} {l' : Ledger}
    (served : l.Serves request reply l') {current : Versioned}
    (found : l.records name = some current) :
    (∃ current, l'.records name = some current) ∨ request = .delete name current.version := by
  cases served with
  | created | updated =>
    rw [records_write]
    split
    · exact .inl ⟨_, rfl⟩
    · exact .inl ⟨current, found⟩
  | @deleted other _ found' =>
    rw [records_erase]
    split
    · rename_i same
      subst same
      cases found.symm.trans found'
      exact .inr rfl
    · exact .inl ⟨current, found⟩
  | get | taken | changed | missing | outdated => exact .inl ⟨current, found⟩

/-- A record comes into being only by its creation. -/
theorem Serves.eq_create {request : Ask} {reply : Reply request} {l' : Ledger}
    (served : l.Serves request reply l') (vacant : l.records name = none) {current : Versioned}
    (found : l'.records name = some current) :
    ∃ record, request = .create record ∧ record.name = name := by
  cases served with
  | @created record _ _ _ =>
    rw [records_write] at found
    split at found
    · rename_i same
      exact ⟨record, rfl, same.symm⟩
    · cases vacant.symm.trans found
  | @updated record _ _ before _ =>
    rw [records_write] at found
    split at found
    · rename_i same
      subst same
      cases vacant.symm.trans before
    · cases vacant.symm.trans found
  | deleted =>
    rw [records_erase] at found
    split at found
    · cases found
    · cases vacant.symm.trans found
  | get | taken | changed | missing | outdated => cases vacant.symm.trans found

end Ledger

/-- The replies of calls that fail. -/
inductive Fails : (request : Ask) → Reply request → Prop
  | get (name : String) (failure : Failure) : Fails (.get name) (.error failure)
  | create (record : JobRecord) (failure : Failure) : Fails (.create record) (.error failure)
  | update (record : JobRecord) (version : String) (failure : Failure) :
      Fails (.update record version) (.error failure)
  | delete (name version : String) (failure : Failure) :
      Fails (.delete name version) (.error failure)

/-- How a call returns: the store answers it, or it fails and changes nothing. -/
inductive Returns (l : Ledger) : (request : Ask) → Reply request → Ledger → Prop
  | served {request : Ask} {reply : Reply request} {l' : Ledger} (h : l.Serves request reply l') :
      Returns l request reply l'
  | failed {request : Ask} {reply : Reply request} (h : Fails request reply) :
      Returns l request reply l

section

variable {l l' : Ledger} {request : Ask} {reply : Reply request} {name version : String}

/-- A call that fails changes nothing, whatever it fails for. -/
theorem Returns.eq_of_fails (h : Returns l request reply l') (fails : Fails request reply) :
    l' = l := by
  rcases h with served | _
  · cases served with
    | created | updated | deleted => cases fails
    | get | taken | changed | missing | outdated => rfl
  · rfl

theorem Returns.eq_of_get {reply : Reply (.get name)} (h : Returns l (.get name) reply l') :
    l' = l := by
  rcases h with ⟨⟨⟩⟩ | _ <;> rfl

/-- The record that a call has read is the one that is there. -/
theorem Returns.eq_of_read {seen : Option Versioned} (h : Returns l (.get name) (.ok seen) l') :
    l.records name = seen := by
  rcases h with ⟨⟨⟩⟩ | ⟨⟨⟩⟩
  rfl

/-- After a record was deleted, there is none of its name. -/
theorem Returns.eq_erase (h : Returns l (.delete name version) (.ok ()) l') {current : Versioned}
    (found : l.records name = some current) : l' = l.erase name := by
  rcases h with served | ⟨⟨⟩⟩
  cases served with
  | deleted => rfl
  | missing vacant => cases found.symm.trans vacant

end

end RingOperator.Jobs
