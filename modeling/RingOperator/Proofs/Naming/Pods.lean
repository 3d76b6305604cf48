import Mathlib.Algebra.BigOperators.Group.List.Basic
import Mathlib.Data.Int.Cast.Lemmas
import RingOperator.Proofs.Bringup.Schedule
import RingOperator.Proofs.Seeding
import RingOperator.Proofs.Text.Numeral

/-!
# Pods are told by their names

The ordinal of a pod is read back from its name (`ordinal?_pod`), as the digits behind the last
dash are read as the number that they were written for (`signed_digits`). So a name is of one
datacenter and one ordinal, and where the datacenters of a declaration differ by name, the pods
of any ordinals in them do too (`nodup_placed`): those that are declared, and among them those
that should be seeds (`told_by_name`).
-/

namespace RingOperator

namespace Text.Numeral

/-- Digits without a sign are read as the number that they were written for. -/
theorem signed_digits (n : Nat) : signed (digits n) = some (n : Int) := by
  have unsigned {sign : Char} {cs : List Char} (h : sign.isDigit = false) :
      digits n ≠ sign :: cs := by
    intro same
    have digit := isDigit_of_mem_digits (same ▸ List.mem_cons_self : sign ∈ digits n)
    cases h.symm.trans digit
  have read : natOf (digits n) = some n := by
    rw [natOf, if_pos ⟨digits_ne_nil n, List.all_eq_true.2 fun _ => isDigit_of_mem_digits⟩,
      value_digits]
  unfold signed
  split
  · rename_i same
    exact absurd same (unsigned rfl)
  · rename_i same
    exact absurd same (unsigned rfl)
  · rw [read]
    rfl

end Text.Numeral

namespace Naming

open Text.Numeral

/-- The ordinal of a pod is read back from its name, whatever the cluster and the datacenter are
called. -/
theorem ordinal?_pod (cluster dc : String) {i : Int} (positive : 0 ≤ i)
    (small : i ≤ greatestOrdinal) : ordinal? (pod cluster dc i) = some i := by
  have turned : (pod cluster dc i).toList.reverse =
      (digits i.toNat).reverse ++ '-' :: (datacenter cluster dc).toList.reverse := by
    rw [toList_pod cluster dc positive]
    simp
  have undashed : ∀ c ∈ (digits i.toNat).reverse, decide (c ≠ '-') = true := by
    intro c hc
    refine decide_eq_true fun same => dash_not_mem_digits i.toNat ?_
    exact same ▸ List.mem_reverse.1 hc
  have last : (pod cluster dc i).toList.reverse.takeWhile (· ≠ '-') = (digits i.toNat).reverse := by
    rw [turned, List.takeWhile_append_of_pos undashed, List.takeWhile_cons_of_neg (by simp),
      List.append_nil]
  have dashed : (pod cluster dc i).toList.reverse.contains '-' = true := by
    rw [turned]
    simp
  have number : ((i.toNat : Nat) : Int) = i := Int.toNat_of_nonneg positive
  simp only [ordinal?, last, dashed, List.reverse_reverse, signed_digits, number, if_true,
    if_pos small]

theorem toList_job (p : String) : (job p).toList = "pod-decommission-".toList ++ p.toList :=
  String.toList_append

/-- Jobs that drain pods are of one name only if the pods are. -/
theorem job_inj {p q : String} (h : job p = job q) : p = q := by
  have chars := congrArg String.toList h
  rw [toList_job, toList_job] at chars
  exact String.toList_inj.1 (List.append_cancel_left chars)

end Naming

namespace Seeding

open Bringup

variable {cluster : String} {spec : Spec}

/-! ## Declared pods and seeds -/

/-- The names of the pods of the first ordinals of each datacenter, any number in each. -/
def placed (cluster : String) (dcs : List Datacenter) (count : Datacenter → Int) : List String :=
  dcs.flatMap fun dc => podNames cluster ⟨dc.name, count dc⟩

theorem declaredNames_eq : declaredNames cluster spec =
    placed cluster spec.datacenters (·.replicas) := rfl

theorem seedPods_eq : seedPods spec cluster =
    placed cluster spec.datacenters fun dc => seedCount spec.numSeeds dc.replicas := by
  simp only [seedPods, seedPlaces, placed, podNames, List.map_flatMap, List.map_map,
    Function.comp_def]

/-- Where datacenters differ by name, so do pods. -/
theorem nodup_placed {dcs : List Datacenter} (distinct : (dcs.map (·.name)).Nodup)
    (count : Datacenter → Int) : (placed cluster dcs count).Nodup := by
  refine List.nodup_flatMap.2 ⟨fun _ _ => nodup_podNames, ?_⟩
  refine (List.pairwise_map.1 distinct).imp fun {d e} differ name hd he => ?_
  exact differ (name_inj (d := ⟨d.name, count d⟩) (e := ⟨e.name, count e⟩) hd he)

theorem placed_subset {dcs : List Datacenter} {count count' : Datacenter → Int}
    (fewer : ∀ dc, count dc ≤ max 0 (count' dc)) :
    placed cluster dcs count ⊆ placed cluster dcs count' := by
  intro name among
  obtain ⟨dc, hd, here⟩ := List.mem_flatMap.1 among
  obtain ⟨i, hi, rfl⟩ := List.mem_map.1 here
  obtain ⟨positive, less⟩ := mem_ordinals.1 hi
  have few := fewer dc
  have bounds : i < count' dc := by
    simp only at less
    omega
  exact List.mem_flatMap.2 ⟨dc, hd, List.mem_map_of_mem (mem_ordinals.2 ⟨positive, bounds⟩)⟩

theorem length_placed (dcs : List Datacenter) (count : Datacenter → Int) :
    ((placed cluster dcs count).length : Int) = (dcs.map fun dc => max 0 (count dc)).sum := by
  induction dcs with
  | nil => rfl
  | cons dc rest ih =>
    have here : ((podNames cluster ⟨dc.name, count dc⟩).length : Int) = max 0 (count dc) := by
      rw [podNames, List.length_map, ordinals, List.length_map, List.length_range]
      exact Int.toNat_eq_max _ |>.trans (max_comm _ _)
    rw [placed, List.flatMap_cons, List.length_append, Nat.cast_add, here, ← placed, ih,
      List.map_cons, List.sum_cons]

/-- No seed is more than is declared, also where a count is negative. -/
theorem seedCount_le_max (target replicas : Int) :
    seedCount target replicas ≤ max 0 replicas := by
  rw [seedCount]
  split <;> omega

/-- Of the declared pods, those that should be seeds are all that should. -/
theorem filter_declaredNames_perm (distinct : (spec.datacenters.map (·.name)).Nodup) :
    ((declaredNames cluster spec).filter (· ∈ seedPods spec cluster)).Perm
      (seedPods spec cluster) := by
  rw [declaredNames_eq, seedPods_eq]
  refine (List.perm_ext_iff_of_nodup ((nodup_placed distinct _).filter _)
    (nodup_placed distinct _)).2 fun name => ?_
  rw [List.mem_filter, decide_eq_true_iff]
  constructor
  · exact And.right
  · exact fun seed => ⟨placed_subset (fun dc => seedCount_le_max _ dc.replicas) seed, seed⟩

/-- Members without the label need it just if they should be seeds. -/
theorem labelChanges_of_unlabelled {members : List Member} (plain : ∀ m ∈ members, m.seed = false) :
    labelChanges spec cluster members =
      ((members.map (·.name)).filter (· ∈ seedPods spec cluster)).map fun name => (name, .add) := by
  induction members with
  | nil => rfl
  | cons m rest ih =>
    obtain ⟨first, later⟩ := List.forall_mem_cons.1 plain
    have rest := ih later
    rw [labelChanges] at rest ⊢
    rw [List.map_cons, List.filter_cons]
    by_cases seed : m.name ∈ seedPods spec cluster
    · have needs : changeFor (seedPods spec cluster) m = some (m.name, .add) := by
        simp [changeFor, first, seed]
      rw [List.filterMap_cons_some needs, rest, if_pos (decide_eq_true seed), List.map_cons]
    · have needs : changeFor (seedPods spec cluster) m = none := by
        simp [changeFor, first, seed]
      rw [List.filterMap_cons_none needs, rest, if_neg (by simp [seed])]

/-- Whatever the names of the cluster and of its datacenters hold, pods of one name, or with jobs
of one name, are of one datacenter and have one ordinal, and the ordinal is read back from the
name. So the pods of a declaration differ by name if its datacenters do; as many of them should be
seeds as there are seeds in all datacenters, and if none has the label, so many get it. -/
theorem told_by_name (cluster : String) :
    (∀ d e i j, 0 ≤ i → i ≤ Naming.greatestOrdinal → 0 ≤ j → j ≤ Naming.greatestOrdinal →
      (Naming.pod cluster d i = Naming.pod cluster e j → d = e ∧ i = j) ∧
      (Naming.job (Naming.pod cluster d i) = Naming.job (Naming.pod cluster e j) →
        d = e ∧ i = j) ∧
      Naming.ordinal? (Naming.pod cluster d i) = some i) ∧
    ∀ spec : Spec, (spec.datacenters.map (·.name)).Nodup →
      let seeds := (spec.datacenters.map fun dc => max 0 (seedCount spec.numSeeds dc.replicas)).sum
      (declaredNames cluster spec).Nodup ∧
      (((declaredNames cluster spec).filter (· ∈ seedPods spec cluster)).length : Int) = seeds ∧
      ∀ members : List Member, (members.map (·.name)).Perm (declaredNames cluster spec) →
        (∀ m ∈ members, m.seed = false) →
        ((labelChanges spec cluster members).length : Int) = seeds := by
  refine ⟨fun d e i j positive small positive' _ => ⟨?_, ?_, ?_⟩, fun spec distinct => ?_⟩
  · exact Naming.pod_inj positive positive'
  · exact fun same => Naming.pod_inj positive positive' (Naming.job_inj same)
  · exact Naming.ordinal?_pod cluster d positive small
  intro seeds
  have count : (((declaredNames cluster spec).filter (· ∈ seedPods spec cluster)).length : Int) =
      seeds := by
    rw [(filter_declaredNames_perm distinct).length_eq, seedPods_eq, length_placed]
  refine ⟨nodup_placed distinct _, count, fun members named plain => ?_⟩
  rw [labelChanges_of_unlabelled plain, List.length_map, (named.filter _).length_eq, count]

/-- Two datacenters, of which one is called as the other with a number behind a dash. -/
def dashed : Spec where
  datacenters := [⟨"a", 3⟩, ⟨"a-1", 2⟩]

theorem told_by_name_dashed :
    Naming.pod "c" "a" 1 ≠ Naming.pod "c" "a-1" 1 ∧
    Naming.ordinal? (Naming.pod "c" "a-1" 11) = some 11 ∧
    (declaredNames "c" dashed).Nodup ∧
    (((declaredNames "c" dashed).filter (· ∈ seedPods dashed "c")).length : Int) = 3 ∧
    ((labelChanges dashed "c"
      ((declaredNames "c" dashed).map fun name => { name, dc := "" })).length : Int) = 3 := by
  obtain ⟨told, declared⟩ := told_by_name "c"
  obtain ⟨distinct, seeds, labels⟩ := declared dashed (by decide)
  have differ := (told "a" "a-1" 1 1 (by decide) (by decide) (by decide) (by decide)).1
  refine ⟨fun same => absurd (differ same).1 (by decide), ?_, distinct, seeds.trans (by decide), ?_⟩
  · exact (told "a-1" "a-1" 11 11 (by decide) (by decide) (by decide) (by decide)).2.2
  · refine (labels _ ?_ ?_).trans (by decide)
    · rw [List.map_map]
      exact .of_eq (List.map_id _)
    · exact List.forall_mem_map.2 fun _ _ => rfl

end Seeding

end RingOperator
