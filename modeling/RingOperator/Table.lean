/-!
# Tables keyed by text

A `Table` keeps one value for each of finitely many text keys, in the order of
the keys. The order is part of the type, so two tables with the same look-ups
list their entries alike, and everything derived from a table comes in a
stable order.
-/

namespace RingOperator

variable {α β : Type}

namespace Table

/-- The entries with the value of one key set, at the place where the key belongs. -/
def insertEntry (key : String) (value : α) : List (String × α) → List (String × α)
  | [] => [(key, value)]
  | entry :: rest =>
    if key < entry.1 then (key, value) :: entry :: rest
    else if key = entry.1 then (key, value) :: rest
    else entry :: insertEntry key value rest

theorem mem_insertEntry {key : String} {value : α} {e : String × α} {l : List (String × α)}
    (h : e ∈ insertEntry key value l) : e = (key, value) ∨ e ∈ l := by
  induction l with
  | nil => simpa [insertEntry] using h
  | cons entry rest ih =>
    unfold insertEntry at h
    split at h
    · simpa using h
    · split at h
      · rcases List.mem_cons.1 h with h | h
        · exact .inl h
        · exact .inr (List.mem_cons_of_mem _ h)
      · rcases List.mem_cons.1 h with h | h
        · exact .inr (h ▸ List.mem_cons_self)
        · exact (ih h).imp id (List.mem_cons_of_mem _)

theorem sorted_insertEntry (key : String) (value : α) {l : List (String × α)}
    (h : l.Pairwise fun a b => a.1 < b.1) :
    (insertEntry key value l).Pairwise fun a b => a.1 < b.1 := by
  induction l with
  | nil => simp [insertEntry]
  | cons entry rest ih =>
    obtain ⟨first, tail⟩ := List.pairwise_cons.1 h
    unfold insertEntry
    split
    · rename_i lt
      refine List.pairwise_cons.2 ⟨fun e he => ?_, h⟩
      rcases List.mem_cons.1 he with rfl | he
      · exact lt
      · exact String.lt_trans lt (first e he)
    · split
      · rename_i eq
        exact List.pairwise_cons.2 ⟨fun e he => eq ▸ first e he, tail⟩
      · rename_i notLt notEq
        refine List.pairwise_cons.2 ⟨fun e he => ?_, ih tail⟩
        rcases mem_insertEntry he with rfl | he
        · rcases String.le_total entry.1 key with le | le
          · exact Decidable.byContradiction fun h' =>
              notEq (String.le_antisymm (String.not_lt.1 h') le)
          · exact absurd (String.le_antisymm le (String.not_lt.1 notLt)) notEq
        · exact first e he

end Table

/-- One value for each of finitely many text keys. -/
structure Table (α : Type) where
  /-- Keys and values. -/
  entries : List (String × α)
  /-- Each key occurs once, and the keys ascend by code points. -/
  sorted : entries.Pairwise fun a b => a.1 < b.1

namespace Table

/-- The table without entries. -/
def empty : Table α := ⟨[], List.Pairwise.nil⟩

instance : Inhabited (Table α) := ⟨empty⟩

instance [DecidableEq α] : DecidableEq (Table α) := fun a b =>
  if h : a.entries = b.entries then
    isTrue (by cases a; cases b; simp_all)
  else
    isFalse (fun eq => h (eq ▸ rfl))

/-- The value kept under a key. -/
def get? (t : Table α) (key : String) : Option α := t.entries.lookup key

/-- Whether a value is kept under a key. -/
def contains (t : Table α) (key : String) : Bool := (t.get? key).isSome

/-- The table with the value of one key set. -/
def insert (t : Table α) (key : String) (value : α) : Table α :=
  ⟨insertEntry key value t.entries, sorted_insertEntry key value t.sorted⟩

/-- The table without a key. -/
def erase (t : Table α) (key : String) : Table α :=
  ⟨t.entries.filter fun e => e.1 ≠ key, t.sorted.filter _⟩

/-- The table of a list of keys and values; of two values of one key the later one stays. -/
def ofList (l : List (String × α)) : Table α :=
  l.foldl (fun t e => t.insert e.1 e.2) empty

/-- The keys in ascending order. -/
def keys (t : Table α) : List String := t.entries.map (·.1)

/-- The values in the order of their keys. -/
def values (t : Table α) : List α := t.entries.map (·.2)

@[simp] theorem get?_empty (key : String) : (empty : Table α).get? key = none := rfl

/-- The first entry decides, if it has the key. -/
theorem lookup_entry (e : String × α) (l : List (String × α)) (key : String) :
    (e :: l).lookup key = if key = e.1 then some e.2 else l.lookup key := by
  obtain ⟨name, value⟩ := e
  rw [List.lookup_cons]
  by_cases h : key = name
  · simp [h]
  · have : (key == name) = false := by simp [h]
    rw [this, if_neg h]

theorem lookup_insertEntry (l : List (String × α)) (key other : String) (value : α) :
    (insertEntry key value l).lookup other =
      if other = key then some value else l.lookup other := by
  induction l with
  | nil => simp [insertEntry, lookup_entry]
  | cons e l ih =>
    unfold insertEntry
    split
    · rw [lookup_entry]
    · split
      · rename_i eq
        simp only [lookup_entry, eq]
        split <;> rfl
      · rename_i notEq
        simp only [lookup_entry, ih]
        grind

/-- After an insertion the key has the new value and every other key what it had. -/
theorem get?_insert (t : Table α) (key other : String) (value : α) :
    (t.insert key value).get? other = if other = key then some value else t.get? other :=
  lookup_insertEntry t.entries key other value

end Table

end RingOperator
