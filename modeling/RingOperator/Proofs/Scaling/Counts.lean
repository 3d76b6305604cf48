import Mathlib.Data.List.Nodup
import RingOperator.Proofs.Cluster.Spec
import RingOperator.Proofs.Table
import RingOperator.Scaling.Intent

/-!
# Counts and the declared topology

The datacenter and the count of a StatefulSet are its `Row`. If the StatefulSets
are of different datacenters, there is an intent for each labelled one, whichever
order they are listed in (`Intent.mem_ofStatefulSets_iff`,
`Intent.byDatacenter_perm`).

A row moves towards the declared topology in four ways (`Row.Moves`): its count is
raised to the desired one or lowered by one towards it, or, where its datacenter is
no longer declared, lowered by one or removed if there is nothing left. Each move
leaves less to be done (`Row.Moves.remaining_lt`), and however many moves there are,
the count stays between where it began and where it shall be (`Row.Within.moves`).
What remains to be done for all StatefulSets is the sum over their rows.
-/

namespace RingOperator

/-- The datacenter that a StatefulSet is labelled with. -/
def StatefulSet.datacenter? (set : StatefulSet) : Option String :=
  set.metadata.labels.get? Labels.datacenterKey

namespace Spec

variable {spec : Spec}

/-- How many nodes a datacenter shall have, if it is declared. -/
def replicas? (spec : Spec) (dc : String) : Option Int :=
  (spec.datacenter? dc).map (·.replicas)

theorem replicas?_eq_none_iff {dc : String} :
    spec.replicas? dc = none ↔ spec.declares dc = false := by
  simp [replicas?, datacenter?, declares]

/-- Where no name is declared twice, every declaration counts. -/
theorem replicas?_of_mem (distinct : (spec.datacenters.map (·.name)).Nodup) {dc : Datacenter}
    (declared : dc ∈ spec.datacenters) : spec.replicas? dc.name = some dc.replicas := by
  obtain ⟨found, first⟩ : ∃ found, spec.datacenter? dc.name = some found :=
    Option.isSome_iff_exists.1 (List.find?_isSome.2 ⟨dc, declared, by simp⟩)
  have same : found.name = dc.name := by simpa using List.find?_some first
  obtain rfl := List.inj_on_of_nodup_map distinct (List.mem_of_find?_eq_some first) declared same
  rw [replicas?, first, Option.map_some]

theorem exists_of_replicas? {dc : String} {count : Int} (h : spec.replicas? dc = some count) :
    ∃ declared ∈ spec.datacenters, declared.name = dc ∧ declared.replicas = count := by
  obtain ⟨declared, found, rfl⟩ := Option.map_eq_some_iff.1 h
  exact ⟨declared, List.mem_of_find?_eq_some found, by simpa using List.find?_some found, rfl⟩

/-- A declaration that is accepted wants no negative count. -/
theorem replicas?_nonneg (valid : spec.check = .ok ()) {dc : String} {count : Int}
    (h : spec.replicas? dc = some count) : 0 ≤ count := by
  obtain ⟨declared, among, -, rfl⟩ := exists_of_replicas? h
  exact ((check_eq_ok_iff.1 valid).2.1 declared among).1

end Spec

namespace Scaling

/-! ## Intents -/

namespace Intent

variable {spec : Spec} {sets : List StatefulSet}

/-- The labels and what they are of, one StatefulSet after another. -/
theorem keys_byDatacenter (sets : List StatefulSet) :
    (sets.filterMap fun set => (set.metadata.labels.get? Labels.datacenterKey).map
      fun dc => (dc, set)).map (·.1) = sets.filterMap (·.datacenter?) := by
  rw [List.map_filterMap]
  simp only [Option.map_map, Function.comp_def, Option.map_id', StatefulSet.datacenter?]

/-- StatefulSets of different datacenters can be listed in any order. -/
theorem byDatacenter_perm {sets' : List StatefulSet}
    (distinct : (sets.filterMap (·.datacenter?)).Nodup) (perm : sets.Perm sets') :
    byDatacenter sets = byDatacenter sets' :=
  Table.ofList_perm (by rwa [keys_byDatacenter]) (perm.filterMap _)

theorem get?_byDatacenter (distinct : (sets.filterMap (·.datacenter?)).Nodup) {dc : String}
    {set : StatefulSet} :
    (byDatacenter sets).get? dc = some set ↔ set ∈ sets ∧ set.datacenter? = some dc := by
  rw [byDatacenter, Table.get?_ofList_eq_some_iff (by rwa [keys_byDatacenter]), List.mem_filterMap]
  constructor
  · rintro ⟨_, among, same⟩
    obtain ⟨_, labelled, ⟨⟩⟩ := Option.map_eq_some_iff.1 same
    exact ⟨among, labelled⟩
  · rintro ⟨among, labelled⟩
    exact ⟨set, among, Option.map_eq_some_iff.2 ⟨dc, labelled, rfl⟩⟩

/-- There is one intent for each StatefulSet that has a label. -/
theorem mem_ofStatefulSets_iff (declaredOnce : (spec.datacenters.map (·.name)).Nodup)
    (distinct : (sets.filterMap (·.datacenter?)).Nodup) {intent : Intent} :
    intent ∈ ofStatefulSets spec sets ↔
      ∃ set ∈ sets, ∃ dc, set.datacenter? = some dc ∧ intent = of dc set (spec.replicas? dc) := by
  rw [ofStatefulSets, List.mem_append, List.mem_filterMap, List.mem_map]
  constructor
  · rintro (⟨dc, declared, h⟩ | ⟨e, among, rfl⟩)
    · obtain ⟨set, found, rfl⟩ := Option.map_eq_some_iff.1 h
      obtain ⟨hs, labelled⟩ := (get?_byDatacenter distinct).1 found
      exact ⟨set, hs, dc.name, labelled, by rw [Spec.replicas?_of_mem declaredOnce declared]⟩
    · obtain ⟨entry, undeclared⟩ := List.mem_filter.1 among
      obtain ⟨hs, labelled⟩ := (get?_byDatacenter distinct).1 (Table.get?_eq_some_iff.2 entry)
      exact ⟨e.2, hs, e.1, labelled,
        by rw [Spec.replicas?_eq_none_iff.2 (by simpa using undeclared)]⟩
  · rintro ⟨set, hs, dc, labelled, rfl⟩
    have found := (get?_byDatacenter distinct).2 ⟨hs, labelled⟩
    cases wanted : spec.replicas? dc with
    | some count =>
      obtain ⟨declared, among, rfl, rfl⟩ := Spec.exists_of_replicas? wanted
      exact .inl ⟨declared, among, Option.map_eq_some_iff.2 ⟨set, found, rfl⟩⟩
    | none =>
      refine .inr ⟨(dc, set), List.mem_filter.2 ⟨Table.get?_eq_some_iff.1 found, ?_⟩, rfl⟩
      simpa using Spec.replicas?_eq_none_iff.1 wanted

end Intent

/-! ## Rows -/

/-- What scaling is about in a StatefulSet. -/
structure Row where
  /-- The datacenter, if there is a label. -/
  dc : Option String
  count : Int
  deriving DecidableEq

/-- The row of a StatefulSet. A count that is not given is one. -/
def rowOf (set : StatefulSet) : Row := ⟨set.datacenter?, set.replicas.getD 1⟩

namespace Row

/-- A step towards the declared topology. -/
inductive Moves (spec : Spec) : Row → Option Row → Prop
  | raised {dc : String} {count desired : Int} (declared : spec.replicas? dc = some desired)
      (below : count < desired) : Moves spec ⟨some dc, count⟩ (some ⟨some dc, desired⟩)
  | lowered {dc : String} {count desired : Int} (declared : spec.replicas? dc = some desired)
      (above : desired < count) : Moves spec ⟨some dc, count⟩ (some ⟨some dc, count - 1⟩)
  | drained {dc : String} {count : Int} (undeclared : spec.replicas? dc = none)
      (left : 0 < count) : Moves spec ⟨some dc, count⟩ (some ⟨some dc, count - 1⟩)
  | removed {dc : String} (undeclared : spec.replicas? dc = none) : Moves spec ⟨some dc, 0⟩ none

/-- What can have become of a row by any such steps: without a label it stays; the count of a
    declared datacenter is between the first one and the desired one; and that of another one is no
    more than the first one, if it is not removed. -/
inductive Within (spec : Spec) : Row → Option Row → Prop
  | unlabelled (count : Int) : Within spec ⟨none, count⟩ (some ⟨none, count⟩)
  | declared {dc : String} {first desired count : Int} (declared : spec.replicas? dc = some desired)
      (low : min first desired ≤ count) (high : count ≤ max first desired) :
      Within spec ⟨some dc, first⟩ (some ⟨some dc, count⟩)
  | draining {dc : String} {first count : Int} (undeclared : spec.replicas? dc = none)
      (low : 0 ≤ count) (high : count ≤ first) :
      Within spec ⟨some dc, first⟩ (some ⟨some dc, count⟩)
  | gone {dc : String} {first : Int} (undeclared : spec.replicas? dc = none) :
      Within spec ⟨some dc, first⟩ none

/-- How far a row is from the declared topology: the distance from the desired count or, where
    nothing is declared, one for each node and one for the StatefulSet. -/
def remaining (spec : Spec) (row : Row) : Nat :=
  match row.dc with
  | none => 0
  | some dc =>
    match spec.replicas? dc with
    | some desired => (row.count - desired).natAbs
    | none => row.count.toNat + 1

variable {spec : Spec} {row first : Row} {after : Option Row}

theorem Moves.remaining_lt (h : row.Moves spec after) :
    (after.map (remaining spec)).getD 0 < row.remaining spec := by
  cases h with
  | raised declared below =>
    simp only [Option.map_some, Option.getD_some, remaining, declared]
    omega
  | lowered declared above =>
    simp only [Option.map_some, Option.getD_some, remaining, declared]
    omega
  | drained undeclared left =>
    simp only [Option.map_some, Option.getD_some, remaining, undeclared]
    omega
  | removed undeclared =>
    simp [remaining, undeclared]

theorem Moves.dc_eq {row' : Row} (h : row.Moves spec (some row')) : row'.dc = row.dc := by
  cases h <;> rfl

/-- Counts stay where they can be. -/
theorem Moves.nonneg (valid : spec.check = .ok ()) {row' : Row} (h : row.Moves spec (some row')) :
    0 ≤ row'.count := by
  cases h with
  | raised declared => exact Spec.replicas?_nonneg valid declared
  | lowered declared above =>
    have := Spec.replicas?_nonneg valid declared
    show 0 ≤ _ - 1
    omega
  | drained _ left =>
    show 0 ≤ _ - 1
    omega

theorem Within.refl (nonneg : 0 ≤ row.count) : row.Within spec (some row) := by
  obtain ⟨_ | dc, count⟩ := row
  · exact .unlabelled count
  · cases wanted : spec.replicas? dc with
    | some desired => exact .declared wanted (Int.min_le_left _ _) (Int.le_max_left _ _)
    | none => exact .draining wanted nonneg (Int.le_refl _)

/-- A count that moves stays within. -/
theorem Within.moves (within : first.Within spec (some row)) (h : row.Moves spec after) :
    first.Within spec after := by
  cases within with
  | unlabelled => cases h
  | declared wanted low high =>
    cases h with
    | raised declared below =>
      cases wanted.symm.trans declared
      exact .declared wanted (Int.min_le_right _ _) (Int.le_max_right _ _)
    | lowered declared above =>
      cases wanted.symm.trans declared
      exact .declared wanted (by omega) (by omega)
    | drained undeclared => cases wanted.symm.trans undeclared
    | removed undeclared => cases wanted.symm.trans undeclared
  | draining undeclared low high =>
    cases h with
    | raised declared => cases undeclared.symm.trans declared
    | lowered declared => cases undeclared.symm.trans declared
    | drained _ left => exact .draining undeclared (by omega) (by omega)
    | removed => exact .gone undeclared

end Row

/-! ## What remains to be done -/

/-- How much remains to be done for some StatefulSets. -/
def remaining (spec : Spec) : List StatefulSet → Nat
  | [] => 0
  | set :: rest => (rowOf set).remaining spec + remaining spec rest

variable {spec : Spec} {sets sets' : List StatefulSet}

theorem remaining_append (sets sets' : List StatefulSet) :
    remaining spec (sets ++ sets') = remaining spec sets + remaining spec sets' := by
  induction sets with
  | nil => simp [remaining]
  | cons set rest ih =>
    rw [List.cons_append, remaining, remaining, ih, Nat.add_assoc]

theorem remaining_perm (perm : sets.Perm sets') :
    remaining spec sets = remaining spec sets' := by
  induction perm with
  | nil => rfl
  | cons set _ ih => rw [remaining, remaining, ih]
  | swap set set' rest =>
    simp only [remaining]
    omega
  | trans _ _ ih ih' => rw [ih, ih']

theorem remaining_eq_zero (h : ∀ set ∈ sets, (rowOf set).remaining spec = 0) :
    remaining spec sets = 0 := by
  induction sets with
  | nil => rfl
  | cons set rest ih =>
    obtain ⟨first, others⟩ := List.forall_mem_cons.1 h
    rw [remaining, first, ih others]

end Scaling

end RingOperator
