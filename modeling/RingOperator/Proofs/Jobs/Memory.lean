import RingOperator.Proofs.Jobs.Requests
import RingOperator.Proofs.Naming
import RingOperator.Proofs.Table

/-!
# The store in memory

A store in memory serves every name by itself, as a `Cell` that holds a record with the
number of its writes, or nothing (`serve_cell`). So a history is for each name one of its
own (`alone`), and how often the record of a name has been written since it was
created is told by the replies (`written`, `counted`).

These numbers are the versions, and they begin anew with every creation. A call under a
version that was read earlier takes effect just if the record is there and has been
written as often as it had been then (`guarded_by_count`). As long as no record of the
name is deleted, that is just if no call has changed it. But a record that was created
later, in the place of the one that was read, is overwritten too
(`overwritten_after_recreation`).
-/

namespace RingOperator.Jobs.MemoryStore

open Dialogue

variable {store store' : MemoryStore} {request : Ask} {reply : Reply request}
  {log between : List (Entry Reply)} {name : String}

/-! ## One name by itself -/

/-- What a name has: a record with the number of its writes, or nothing. -/
abbrev Cell := Option (JobRecord × Nat)

variable {cell cell' : Cell}

/-- Serves a request as far as its name is concerned. -/
def serveCell : (request : Ask) → Cell → Reply request × Cell
  | .get _, cell => (.ok (cell.map fun (record, n) => ⟨record, Text.Numeral.ofNat n⟩), cell)
  | .create record, none => (.ok (), some (record, 1))
  | .create record, some found => (.error (.jobConflict record.name), some found)
  | .update record _, none => (.error (.jobConflict record.name), none)
  | .update record version, some (found, n) =>
    if Text.Numeral.ofNat n = version then (.ok (), some (record, n + 1))
    else (.error (.jobConflict record.name), some (found, n))
  | .delete _ _, none => (.ok (), none)
  | .delete name version, some (found, n) =>
    if Text.Numeral.ofNat n = version then (.ok (), none)
    else (.error (.jobConflict name), some (found, n))

/-- A store serves the name of a request as the cell of that name, and leaves the others alone. -/
theorem serve_cell (request : Ask) (store : MemoryStore) :
    (serve request store).1 = (serveCell request (store.get? request.name)).1 ∧
    ∀ name, (serve request store).2.get? name =
      if name = request.name then (serveCell request (store.get? request.name)).2
      else store.get? name := by
  have still {own : String} {cell : Cell} (found : store.get? own = cell) (name : String) :
      store.get? name = if name = own then cell else store.get? name := by
    split
    · rwa [‹name = own›]
    · rfl
  cases request with
  | get own => exact ⟨rfl, still rfl⟩
  | create record =>
    simp only [serve, Ask.name]
    cases found : store.get? record.name with
    | none => exact ⟨rfl, fun name => Table.get?_insert ..⟩
    | some current => exact ⟨rfl, still found⟩
  | update record version =>
    simp only [serve, Ask.name]
    cases found : store.get? record.name with
    | none => exact ⟨rfl, still found⟩
    | some current =>
      simp only [serveCell]
      split
      · exact ⟨rfl, fun name => Table.get?_insert ..⟩
      · exact ⟨rfl, still found⟩
  | delete own version =>
    simp only [serve, Ask.name]
    cases found : store.get? own with
    | none => exact ⟨rfl, still found⟩
    | some current =>
      simp only [serveCell]
      split
      · exact ⟨rfl, fun name => Table.get?_erase ..⟩
      · exact ⟨rfl, still found⟩

/-- How a store replies to a request, and what becomes of it then. -/
def Serves (store : MemoryStore) (request : Ask) (reply : Reply request) (store' : MemoryStore) :
    Prop :=
  serve request store = (reply, store')

/-- How a cell replies to a request, and what becomes of it then. -/
def CellServes (cell : Cell) (request : Ask) (reply : Reply request) (cell' : Cell) : Prop :=
  serveCell request cell = (reply, cell')

theorem Serves.cellServes (h : Serves store request reply store') :
    CellServes (store.get? request.name) request reply (store'.get? request.name) := by
  obtain ⟨replied, holds⟩ := serve_cell request store
  have held := holds request.name
  rw [h] at replied held
  rw [if_pos rfl] at held
  exact Prod.ext replied.symm held.symm

theorem Serves.other (h : Serves store request reply store') (other : name ≠ request.name) :
    store'.get? name = store.get? name := by
  have held := (serve_cell request store).2 name
  rwa [h, if_neg other] at held

/-- Where a cell replies, so does a store that has it. -/
theorem CellServes.exists_serves (h : CellServes cell request reply cell')
    (same : store.get? request.name = cell) :
    ∃ store', Serves store request reply store' ∧ store'.get? request.name = cell' := by
  obtain ⟨replied, holds⟩ := serve_cell request store
  have held := holds request.name
  rw [same, h] at replied held
  rw [if_pos rfl] at held
  exact ⟨(serve request store).2, Prod.ext replied rfl, held⟩

/-- The calls of a history about a name. -/
def about (name : String) (log : List (Entry Reply)) : List (Entry Reply) :=
  log.filter fun e => e.1.name = name

theorem about_cons_of_eq {e : Entry Reply} (same : e.1.name = name) :
    about name (e :: log) = e :: about name log :=
  List.filter_cons_of_pos (by simpa using same)

theorem about_cons_of_ne {e : Entry Reply} (other : e.1.name ≠ name) :
    about name (e :: log) = about name log :=
  List.filter_cons_of_neg (by simpa using other)

theorem name_of_mem_about (name : String) (log : List (Entry Reply)) :
    ∀ e ∈ about name log, e.1.name = name :=
  fun _ h => of_decide_eq_true (List.mem_filter.1 h).2

/-- The calls about a name are a history of its cell. -/
theorem plays_cell (plays : Plays Serves store log store') (name : String) :
    Plays CellServes (store.get? name) (about name log) (store'.get? name) := by
  induction plays with
  | nil => exact .nil _
  | @cons store between _ e log served _ ih =>
    by_cases here : e.1.name = name
    · subst here
      rw [about_cons_of_eq rfl]
      exact .cons served.cellServes ih
    · rw [about_cons_of_ne here, ← served.other (Ne.symm here)]
      exact ih

/-- A history of the cell of a name is one of any store that has that cell. -/
theorem exists_plays_of_cell (plays : Plays CellServes cell log cell')
    (own : ∀ e ∈ log, e.1.name = name) (same : store.get? name = cell) :
    ∃ store', Plays Serves store log store' ∧ store'.get? name = cell' := by
  induction plays generalizing store with
  | nil => exact ⟨store, .nil store, same⟩
  | cons served _ ih =>
    obtain ⟨rfl, others⟩ := List.forall_mem_cons.1 own
    obtain ⟨next, serves, same⟩ := served.exists_serves same
    obtain ⟨last, plays, same⟩ := ih others same
    exact ⟨last, .cons serves plays, same⟩

/-! ## How often a record has been written -/

/-- Whether a call that is to change a record has succeeded. -/
def writes : Entry Reply → Bool
  | ⟨.create _, .ok _⟩ => true
  | ⟨.update _ _, .ok _⟩ => true
  | ⟨.delete _ _, .ok _⟩ => true
  | _ => false

/-- Whether a call that is to delete a record has succeeded. -/
def deletes : Entry Reply → Bool
  | ⟨.delete _ _, .ok _⟩ => true
  | _ => false

/-- How the number of writes of a record goes on with a call about it. -/
def tally (count : Option Nat) : Entry Reply → Option Nat
  | ⟨.create _, .ok _⟩ => some 1
  | ⟨.update _ _, .ok _⟩ => count.map (· + 1)
  | ⟨.delete _ _, .ok _⟩ => none
  | _ => count

/-- How often the record of a name has been written since it was created, if there is one, as the
    replies of a history tell. -/
def written (name : String) (log : List (Entry Reply)) : Option Nat :=
  (about name log).foldl tally none

theorem CellServes.map_eq (h : CellServes cell request reply cell') :
    cell'.map (·.2) = tally (cell.map (·.2)) ⟨request, reply⟩ := by
  cases request with
  | get => cases h; rfl
  | create => cases cell <;> cases h <;> rfl
  | update | delete =>
    cases cell with
    | none => cases h; rfl
    | some found =>
      rw [CellServes, serveCell] at h
      split at h <;> cases h <;> rfl

/-- While a record is not deleted, every write counts. -/
theorem CellServes.exists_of_kept {record : JobRecord} {n : Nat}
    (h : CellServes (some (record, n)) request reply cell)
    (kept : deletes ⟨request, reply⟩ = false) :
    ∃ record, cell = some (record, n + if writes ⟨request, reply⟩ then 1 else 0) := by
  cases request with
  | get | create => cases h; exact ⟨_, rfl⟩
  | update =>
    rw [CellServes, serveCell] at h
    split at h <;> cases h <;> exact ⟨_, rfl⟩
  | delete =>
    rw [CellServes, serveCell] at h
    split at h <;> cases h
    · cases kept
    · exact ⟨_, rfl⟩

theorem foldl_tally (plays : Plays CellServes cell log cell') :
    cell'.map (·.2) = log.foldl tally (cell.map (·.2)) := by
  induction plays with
  | nil => rfl
  | cons served _ ih => rw [ih, List.foldl_cons, served.map_eq]

/-- A history tells how often a record has been written. -/
theorem counted (plays : Plays Serves Table.empty log store) (name : String) :
    (store.get? name).map (·.2) = written name log :=
  foldl_tally (plays_cell plays name)

/-- As long as a record is not deleted, the writes add up. -/
theorem exists_of_kept {record : JobRecord} {n : Nat}
    (plays : Plays CellServes (some (record, n)) log cell)
    (kept : ∀ e ∈ log, deletes e = false) :
    ∃ record, cell = some (record, n + log.countP writes) := by
  generalize start : some (record, n) = first at plays
  induction plays generalizing record n with
  | nil => exact ⟨record, start.symm⟩
  | cons served _ ih =>
    obtain ⟨now, later⟩ := List.forall_mem_cons.1 kept
    obtain ⟨next, rfl⟩ := (start ▸ served).exists_of_kept now
    obtain ⟨last, rfl⟩ := ih later rfl
    rw [List.countP_cons]
    exact ⟨last, by rw [Nat.add_right_comm, Nat.add_assoc]⟩

/-! ## Calls under a version that was read -/

/-- How a store serves calls after a history. -/
structure Guarded (log : List (Entry Reply)) (store : MemoryStore) : Prop where
  /-- A record is created just if there is none of its name. -/
  create : ∀ record : JobRecord, serve (.create record) store =
    if written record.name log = none then (.ok (), store.insert record.name (record, 1))
    else (.error (.jobConflict record.name), store)
  /-- Under a version that was read, a record is overwritten just if it is there and has been
      written as often as it had been then. -/
  update : ∀ {name before seen between}, log = before ++ ⟨.get name, .ok (some seen)⟩ :: between →
    ∀ record : JobRecord, record.name = name → serve (.update record seen.version) store =
      if written name log = written name before then
        (.ok (), store.insert name (record, (written name log).getD 0 + 1))
      else (.error (.jobConflict name), store)
  /-- So it is with a deletion, but where there is no record there is nothing to do. -/
  delete : ∀ {name before seen between}, log = before ++ ⟨.get name, .ok (some seen)⟩ :: between →
    serve (.delete name seen.version) store =
      if written name log = none then (.ok (), store)
      else if written name log = written name before then (.ok (), store.erase name)
      else (.error (.jobConflict name), store)
  /-- As long as no record of the name is deleted, it has been written as often just if no call has
      changed it. -/
  unchanged : ∀ {name before seen between},
    log = before ++ ⟨.get name, .ok (some seen)⟩ :: between →
    (∀ e ∈ about name between, deletes e = false) →
    (written name log = written name before ↔ ∀ e ∈ about name between, writes e = false)
  /-- A record is there just if the history tells so, and has been written as often as it tells. -/
  holds : ∀ name, (store.get? name).map (·.2) = written name log
  /-- Without the calls about other names, the history would have gone as it did for a name. -/
  apart : ∀ name, ∃ own, Plays Serves Table.empty (about name log) own ∧
    own.get? name = store.get? name

/-- The version under which a record was read is the number of its writes. -/
theorem exists_of_read {before : List (Entry Reply)} {seen : Versioned}
    (plays : Plays Serves Table.empty (before ++ ⟨.get name, .ok (some seen)⟩ :: between) store) :
    ∃ record n earlier, written name before = some n ∧ seen.version = Text.Numeral.ofNat n ∧
      earlier.get? name = some (record, n) ∧ Plays Serves earlier between store := by
  obtain ⟨earlier, first, rest⟩ := plays_append.1 plays
  obtain ⟨_, read, later⟩ := plays_cons.1 rest
  obtain ⟨replied, rfl⟩ := Prod.mk.inj read
  obtain ⟨⟨record, n⟩, found, rfl⟩ := Option.map_eq_some_iff.1 (Except.ok.inj replied)
  refine ⟨record, n, earlier, ?_, rfl, found, later⟩
  rw [← counted first, found]
  rfl

/-- Whatever calls a store has served, each name is served by itself, and calls under a version that
    was read are guarded by the number of writes since the creation of the record. -/
theorem guarded_by_count (plays : Plays Serves Table.empty log store) : Guarded log store where
  create record := by
    rw [← counted plays, serve]
    cases store.get? record.name <;> rfl
  update := by
    rintro name before seen between rfl record rfl
    obtain ⟨_, n, _, count, version, -, -⟩ := exists_of_read plays
    rw [serve, count, version, ← counted plays]
    cases store.get? record.name with
    | none => rfl
    | some found => simp [Text.Numeral.ofNat_inj]
  delete := by
    rintro name before seen between rfl
    obtain ⟨_, n, _, count, version, -, -⟩ := exists_of_read plays
    rw [serve, count, version, ← counted plays]
    cases store.get? name with
    | none => rfl
    | some found => simp [Text.Numeral.ofNat_inj]
  unchanged := by
    rintro name before seen between rfl kept
    obtain ⟨_, n, earlier, count, -, found, later⟩ := exists_of_read plays
    obtain ⟨_, held⟩ := exists_of_kept (found ▸ plays_cell later name) kept
    rw [← counted plays, held, count]
    simp [List.countP_eq_zero]
  holds := counted plays
  apart name := exists_plays_of_cell (plays_cell plays name) (name_of_mem_about name log) rfl

/-- A job that began some seconds after the start of 1970, and has ended if it says when. -/
def jobAt (name : String) (began : Int) (ended : Option Int := none) : JobRecord :=
  { JobRecord.fresh name ⟨began, 0⟩ with finished := ended.map (⟨·, 0⟩) }

/-- Two jobs are created. The record of one is read, and changed by somebody else. -/
def changedSince : List (Entry Reply) := [⟨.create (jobAt "a" 0), .ok ()⟩,
  ⟨.create (jobAt "b" 1), .ok ()⟩, ⟨.get "a", .ok (some ⟨jobAt "a" 0, "1"⟩)⟩,
  ⟨.update (jobAt "a" 0 (some 2)) "1", .ok ()⟩]

/-- The first reader neither overwrites nor deletes the record that was changed. -/
theorem guarded_by_count_changed :
    let store : MemoryStore := Table.ofList [("a", jobAt "a" 0 (some 2), 2), ("b", jobAt "b" 1, 1)]
    Plays Serves Table.empty changedSince store ∧
    serve (.update (jobAt "a" 3) "1") store = (.error (.jobConflict "a"), store) ∧
    serve (.delete "a" "1") store = (.error (.jobConflict "a"), store) ∧
    serve (.create (jobAt "b" 3)) store = (.error (.jobConflict "b"), store) := by
  intro store
  let unread : MemoryStore := Table.ofList [("a", jobAt "a" 0, 1), ("b", jobAt "b" 1, 1)]
  have one : Text.Numeral.ofNat 1 = "1" := by decide +kernel
  have read : serve (.get "a") unread = (.ok (some ⟨jobAt "a" 0, "1"⟩), unread) := by
    rw [← one]
    rfl
  have changed : serve (.update (jobAt "a" 0 (some 2)) "1") unread = (.ok (), store) := if_pos one
  have plays : Plays Serves Table.empty changedSince store :=
    .cons rfl (.cons rfl (.cons read (.cons changed (.nil store))))
  have guarded := guarded_by_count plays
  have split : changedSince = changedSince.take 2 ++ ⟨.get "a", .ok (some ⟨jobAt "a" 0, "1"⟩)⟩ ::
    changedSince.drop 3 := rfl
  refine ⟨plays, ?_, ?_, ?_⟩
  · rw [guarded.update split _ rfl]
    rfl
  · rw [guarded.delete split]
    rfl
  · rw [guarded.create]
    rfl

/-- The record that was read is deleted, and another job is created under its name. The reader finds
    the version that it knows, and overwrites or deletes the record of the other job. -/
theorem overwritten_after_recreation :
    let read : Entry Reply := ⟨.get "a", .ok (some ⟨jobAt "a" 0, "1"⟩)⟩
    let between : List (Entry Reply) :=
      [⟨.delete "a" "1", .ok ()⟩, ⟨.create (jobAt "a" 5), .ok ()⟩]
    let store : MemoryStore := Table.ofList [("a", jobAt "a" 5, 1)]
    Plays Serves Table.empty (⟨.create (jobAt "a" 0), .ok ()⟩ :: read :: between) store ∧
    (∀ e ∈ about "a" between, writes e = true) ∧
    serve (.update (jobAt "a" 0 (some 2)) "1") store =
      (.ok (), Table.ofList [("a", jobAt "a" 0 (some 2), 2)]) ∧
    serve (.delete "a" "1") store = (.ok (), Table.empty) := by
  intro _ between store
  let unread : MemoryStore := Table.ofList [("a", jobAt "a" 0, 1)]
  have one : Text.Numeral.ofNat 1 = "1" := by decide +kernel
  have read : serve (.get "a") unread = (.ok (some ⟨jobAt "a" 0, "1"⟩), unread) := by
    rw [← one]
    rfl
  have deleted : serve (.delete "a" "1") unread = (.ok (), Table.empty) := if_pos one
  exact ⟨.cons rfl (.cons read (.cons deleted (.cons rfl (.nil store)))), by decide,
    if_pos one, if_pos one⟩

end RingOperator.Jobs.MemoryStore
