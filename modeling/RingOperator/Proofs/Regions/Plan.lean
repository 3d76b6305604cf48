import RingOperator.Bringup
import RingOperator.Proofs.Table

/-!
# Which region goes first

Among the regions whose readiness is known, the next one is the first by
identifier that is not ready (`Readiness.next?_eq_some_iff`). The plan of a region
that others come before follows from it: it has converged just if it is ready
itself (`Plan.ofRegions_eq_converged_iff`); otherwise it waits for the least region
before it that is not ready (`Plan.ofRegions_eq_regionPaused_iff`), and if there is
none, brings up its own first datacenter that is not ready
(`Plan.ofRegions_eq_initializing_iff`).
-/

namespace RingOperator

namespace Readiness

variable {r : Readiness} {region : String}

/-- No region is next if all are ready. -/
theorem next?_eq_none_iff : r.next? = none ↔
    ∀ other ready, r.regions.get? other = some ready → ready = true := by
  rw [next?, Option.map_eq_none_iff, List.find?_eq_none]
  constructor
  · intro all other ready h
    simpa using all _ (Table.get?_eq_some_iff.1 h)
  · rintro all ⟨other, ready⟩ he
    simpa using all other ready (Table.get?_eq_some_iff.2 he)

/-- All regions before the next one are ready, and it is not. -/
theorem of_next?_eq_some (h : r.next? = some region) : r.regions.get? region = some false ∧
    ∀ other < region, ∀ ready, r.regions.get? other = some ready → ready = true := by
  have sorted := r.regions.sorted
  obtain ⟨⟨_, notReady⟩, found, rfl⟩ := Option.map_eq_some_iff.1 h
  obtain ⟨isFalse, before, after, split, first⟩ := List.find?_eq_some_iff_append.1 found
  obtain rfl : notReady = false := by simpa using isFalse
  refine ⟨Table.get?_eq_some_iff.2 (by simp [split]), fun other less ready h => ?_⟩
  -- Entries are sorted by identifier, so a smaller one stands before the one that is found.
  have entry := Table.get?_eq_some_iff.1 h
  rw [split] at entry sorted
  rcases List.mem_append.1 entry with entry | entry
  · simpa using first _ entry
  rcases List.mem_cons.1 entry with same | entry
  · cases same
    exact absurd less (String.lt_irrefl _)
  · have more := (List.pairwise_cons.1 (List.pairwise_append.1 sorted).2.1).1 _ entry
    exact absurd (String.lt_trans less more) (String.lt_irrefl _)

/-- The next region is the first one that is not ready. -/
theorem next?_eq_some_iff : r.next? = some region ↔ r.regions.get? region = some false ∧
    ∀ other < region, ∀ ready, r.regions.get? other = some ready → ready = true := by
  refine ⟨of_next?_eq_some, fun ⟨found, first⟩ => ?_⟩
  cases h : r.next? with
  | none => exact absurd (next?_eq_none_iff.1 h region false found) (by simp)
  | some next =>
    obtain ⟨found', first'⟩ := of_next?_eq_some h
    -- Both are not ready and have only ready ones before them, so neither is before the other.
    have notLess : ¬ next < region := fun less => by simpa using first next less false found'
    have notMore : ¬ region < next := fun less => by simpa using first' region less false found
    rw [String.le_antisymm (String.not_lt.1 notMore) (String.not_lt.1 notLess)]

end Readiness

namespace Plan

variable {s : Snapshot} {own name : String} {told : Table Bool}

/-- The readiness of all regions, the own one as the snapshot shows it. -/
theorem ownReady_insert :
    Readiness.ownReady ⟨own, told.insert own s.regionReady⟩ = s.regionReady := by
  rw [Readiness.ownReady, Table.get?_insert, if_pos rfl, Option.getD_some]

theorem ofRegion_eq_converged_iff : ofRegion s = converged ↔ s.regionReady = true := by
  rw [ofRegion, Snapshot.regionReady]
  cases s.unready <;> simp

theorem ofRegion_ne_regionPaused {next : String} : ofRegion s ≠ regionPaused next := by
  rw [ofRegion]
  cases s.unready <;> simp

theorem isReady_iff {dc : DatacenterCount} : dc.isReady = true ↔ dc.ready = some dc.desired := by
  rw [DatacenterCount.isReady, beq_iff_eq]

theorem regionReady_iff :
    s.regionReady = true ↔ ∀ dc ∈ s.datacenters, dc.ready = some dc.desired := by
  rw [Snapshot.regionReady, Snapshot.unready, List.isEmpty_iff, List.map_eq_nil_iff,
    List.filter_eq_nil_iff]
  simp only [Bool.not_eq_true', Bool.not_eq_false, isReady_iff]

/-- The first datacenter, in declared order, that has not as many ready nodes as it should. -/
def FirstUnready (s : Snapshot) (name : String) : Prop :=
  ∃ before dc after, s.datacenters = before ++ dc :: after ∧ dc.name = name ∧
    dc.ready ≠ some dc.desired ∧ ∀ d ∈ before, d.ready = some d.desired

theorem ofRegion_eq_initializing_iff : ofRegion s = initializing name ↔ FirstUnready s name := by
  have first : ofRegion s = ((s.datacenters.find? fun dc => !dc.isReady).map (·.name)).elim
      converged initializing := by
    rw [← List.head?_filter, ← List.head?_map, ofRegion, Snapshot.unready]
    cases (s.datacenters.filter fun dc => !dc.isReady).map (·.name) <;> rfl
  rw [first]
  constructor
  · intro h
    cases found : s.datacenters.find? fun dc => !dc.isReady with
    | none => simp [found] at h
    | some dc =>
      obtain ⟨unready, before, after, split, ready⟩ := List.find?_eq_some_iff_append.1 found
      refine ⟨before, dc, after, split, by simpa [found] using h, ?_, fun d hd => ?_⟩
      · exact fun same => by simp [isReady_iff.2 same] at unready
      · exact isReady_iff.1 (by simpa using ready d hd)
  · rintro ⟨before, dc, after, split, rfl, unready, ready⟩
    have found : s.datacenters.find? (fun dc => !dc.isReady) = some dc := by
      refine List.find?_eq_some_iff_append.2 ⟨?_, before, after, split, fun d hd => ?_⟩
      · simpa using fun same => unready (isReady_iff.1 same)
      · simp [isReady_iff.2 (ready d hd)]
    rw [found]
    rfl

/-- A region that has converged is ready. -/
theorem ready_of_ofRegions_eq_converged
    (h : ofRegions s ⟨own, told.insert own s.regionReady⟩ = converged) : s.regionReady = true := by
  rw [ofRegions, ownReady_insert] at h
  split at h
  · rename_i none
    exact Readiness.next?_eq_none_iff.1 none own _ (by rw [Table.get?_insert, if_pos rfl])
  · split at h
    · assumption
    · split at h
      · cases h
      · exact ofRegion_eq_converged_iff.1 h

/-- A ready region has nothing to order, whatever the others answer. -/
theorem ofRegions_of_ready (ready : s.regionReady = true) :
    ofRegions s ⟨own, told.insert own s.regionReady⟩ = converged := by
  rw [ofRegions, ownReady_insert, ready]
  split <;> rfl

theorem ofRegions_eq_converged_iff :
    ofRegions s ⟨own, told.insert own s.regionReady⟩ = converged ↔ s.regionReady = true :=
  ⟨ready_of_ofRegions_eq_converged, ofRegions_of_ready⟩

/-- Among regions whose readiness is told, one that comes before the own one and is not ready. -/
def Earlier (told : Table Bool) (own region : String) : Prop :=
  region < own ∧ told.get? region = some false

/-- A region that is not ready waits for the least earlier one, or, if there is none, brings up its
    own datacenters. -/
theorem ofRegions_of_unready (own : String) (told : Table Bool) (unready : s.regionReady = false) :
    (∃ next, ofRegions s ⟨own, told.insert own s.regionReady⟩ = regionPaused next ∧
      Earlier told own next ∧ ∀ region, Earlier told own region → next ≤ region) ∨
    (ofRegions s ⟨own, told.insert own s.regionReady⟩ = ofRegion s ∧
      ∀ region, ¬ Earlier told own region) := by
  have entry : (told.insert own s.regionReady).get? own = some false := by
    rw [Table.get?_insert, if_pos rfl, unready]
  have notOwn : Readiness.ownReady ⟨own, told.insert own s.regionReady⟩ = false :=
    ownReady_insert.trans unready
  have earlier_iff {region : String} : Earlier told own region ↔
      region < own ∧ (told.insert own s.regionReady).get? region = some false := by
    refine and_congr_right fun less => ?_
    rw [Table.get?_insert, if_neg]
    rintro rfl
    exact String.lt_irrefl _ less
  cases found : Readiness.next? ⟨own, told.insert own s.regionReady⟩ with
  | none => exact absurd (Readiness.next?_eq_none_iff.1 found own false entry) (by simp)
  | some next =>
    obtain ⟨notReady, before⟩ := Readiness.next?_eq_some_iff.1 found
    have least {region : String}
        (h : (told.insert own s.regionReady).get? region = some false) : next ≤ region :=
      String.not_lt.1 fun less => by simpa using before region less false h
    by_cases same : next = own
    · subst same
      refine .inr ⟨by simp [ofRegions, found, notOwn], fun region earlier => ?_⟩
      obtain ⟨less, isFalse⟩ := earlier_iff.1 earlier
      exact String.not_lt.2 (least isFalse) less
    -- The own region is not ready, so the first one that is not does not come after it.
    · have less : next < own := Decidable.byContradiction fun notLess =>
        same (String.le_antisymm (least entry) (String.not_lt.1 notLess))
      refine .inl ⟨next, by simp [ofRegions, found, notOwn, same], earlier_iff.2 ⟨less, notReady⟩,
        fun region earlier => least (earlier_iff.1 earlier).2⟩

theorem ofRegions_eq_regionPaused_iff {next : String} :
    ofRegions s ⟨own, told.insert own s.regionReady⟩ = regionPaused next ↔
      s.regionReady = false ∧ Earlier told own next ∧
        ∀ region, Earlier told own region → next ≤ region := by
  rcases Bool.eq_false_or_eq_true s.regionReady with ready | unready
  · rw [ofRegions_of_ready ready]
    simp [ready]
  · rcases ofRegions_of_unready own told unready with ⟨first, plan, earlier, least⟩ | ⟨plan, none⟩
    · rw [plan, regionPaused.injEq]
      constructor
      · rintro rfl
        exact ⟨unready, earlier, least⟩
      · rintro ⟨-, earlier', least'⟩
        exact String.le_antisymm (least next earlier') (least' first earlier)
    · exact iff_of_false (plan ▸ ofRegion_ne_regionPaused) fun h => none next h.2.1

theorem ofRegions_eq_initializing_iff :
    ofRegions s ⟨own, told.insert own s.regionReady⟩ = initializing name ↔
      (∀ region, ¬ Earlier told own region) ∧ FirstUnready s name := by
  rcases Bool.eq_false_or_eq_true s.regionReady with ready | unready
  · rw [ofRegions_of_ready ready, ← ofRegion_eq_initializing_iff,
      ofRegion_eq_converged_iff.2 ready]
    simp
  · rcases ofRegions_of_unready own told unready with ⟨first, plan, earlier, -⟩ | ⟨plan, none⟩
    · rw [plan]
      exact iff_of_false (by simp) fun h => h.1 first earlier
    · rw [plan, ofRegion_eq_initializing_iff]
      exact ⟨fun first => ⟨none, first⟩, fun h => h.2⟩

/-- While a region brings up a datacenter, it is not ready, and all regions before it are. -/
theorem before_of_ofRegions_eq_initializing {dc : String}
    (h : ofRegions s ⟨own, told.insert own s.regionReady⟩ = initializing dc) :
    ∀ other < own, ∀ ready, told.get? other = some ready → ready = true := by
  intro other less ready known
  obtain ⟨none, -⟩ := ofRegions_eq_initializing_iff.1 h
  cases ready with
  | true => rfl
  | false => exact absurd ⟨less, known⟩ (none other)

/-- A region waits for the first one that is not ready, which comes before it. -/
theorem before_of_ofRegions_eq_regionPaused {next : String}
    (h : ofRegions s ⟨own, told.insert own s.regionReady⟩ = regionPaused next) :
    next < own ∧ told.get? next = some false :=
  (ofRegions_eq_regionPaused_iff.1 h).2.1

end Plan

end RingOperator
