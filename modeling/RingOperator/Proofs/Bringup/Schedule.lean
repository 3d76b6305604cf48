import Mathlib.Data.List.Nodup
import Mathlib.Data.List.Perm.Basic
import RingOperator.Proofs.Cluster.Spec
import RingOperator.Proofs.Naming
import RingOperator.Proofs.Snapshot
import RingOperator.Seeding

/-!
# The order in which pods start

The pods that start together are a *batch*. In each datacenter the seeds come
first, all of them at once, and then the other pods, one by one in the order of
their names; the `schedule` of a declaration has the batches of its datacenters,
one datacenter after another. Every declared pod is in one batch
(`schedule_perm`, `nodup_declaredNames`), and no batch is empty
(`nil_not_mem_schedule`).
-/

namespace RingOperator.Bringup

open Seeding

/-! ## Ordinals and names -/

@[simp] theorem mem_ordinals {count i : Int} : i ∈ ordinals count ↔ 0 ≤ i ∧ i < count := by
  constructor
  · intro h
    obtain ⟨n, hn, rfl⟩ := List.mem_map.1 h
    have := List.mem_range.1 hn
    exact ⟨Int.natCast_nonneg n, by simp only [Int.ofNat_eq_natCast]; omega⟩
  · rintro ⟨positive, less⟩
    exact List.mem_map.2 ⟨i.toNat, List.mem_range.2 (by omega), Int.toNat_of_nonneg positive⟩

theorem nodup_ordinals (count : Int) : (ordinals count).Nodup :=
  List.nodup_range.map fun _ _ => Int.ofNat.inj

theorem length_ordinals {count : Int} (h : 0 ≤ count) :
    ((ordinals count).length : Int) = count := by
  rw [ordinals, List.length_map, List.length_range, Int.toNat_of_nonneg h]

variable {cluster : String} {numSeeds : Int} {dc : Datacenter} {spec : Spec}

/-- The names of the pods of a datacenter, by ordinal. -/
def podNames (cluster : String) (dc : Datacenter) : List String :=
  (ordinals dc.replicas).map (Naming.pod cluster dc.name)

/-- The names of all declared pods. -/
def declaredNames (cluster : String) (spec : Spec) : List String :=
  spec.datacenters.flatMap (podNames cluster)

/-- Pods of one name are one pod. -/
theorem nodup_podNames : (podNames cluster dc).Nodup := by
  refine List.Nodup.map_on (fun i hi j hj same => ?_) (nodup_ordinals _)
  exact (Naming.pod_inj (mem_ordinals.1 hi).1 (mem_ordinals.1 hj).1 same).2

/-- A name is of a pod of one datacenter only. -/
theorem name_inj {d e : Datacenter} {name : String} (hd : name ∈ podNames cluster d)
    (he : name ∈ podNames cluster e) : d.name = e.name := by
  obtain ⟨i, hi, rfl⟩ := List.mem_map.1 hd
  obtain ⟨j, hj, same⟩ := List.mem_map.1 he
  exact (Naming.pod_inj (mem_ordinals.1 hi).1 (mem_ordinals.1 hj).1 same.symm).1

/-- In a declaration that is accepted all pods differ by name. -/
theorem nodup_declaredNames (accepted : spec.check = .ok ()) :
    (declaredNames cluster spec).Nodup := by
  obtain ⟨distinct, -⟩ := Spec.check_eq_ok_iff.1 accepted
  refine List.nodup_flatMap.2 ⟨fun _ _ => nodup_podNames, ?_⟩
  refine (List.pairwise_map.1 distinct).imp fun differ name hd he => ?_
  exact differ (name_inj hd he)

/-! ## Batches -/

/-- The names of the seeds of a datacenter, in their order. -/
def seedNames (cluster : String) (numSeeds : Int) (dc : Datacenter) : List String :=
  inOrder <| ((ordinals dc.replicas).filter (· < seedCount numSeeds dc.replicas)).map
    (Naming.pod cluster dc.name)

/-- The names of the other pods of a datacenter, in their order. -/
def otherNames (cluster : String) (numSeeds : Int) (dc : Datacenter) : List String :=
  inOrder <| ((ordinals dc.replicas).filter fun i => !(i < seedCount numSeeds dc.replicas)).map
    (Naming.pod cluster dc.name)

/-- The pods of a datacenter that start together: the seeds, if there are any, and each of the
    others by itself. -/
def batches (cluster : String) (numSeeds : Int) (dc : Datacenter) : List (List String) :=
  [seedNames cluster numSeeds dc].filter (· ≠ []) ++
    (otherNames cluster numSeeds dc).map fun name => [name]

/-- The batches of a declaration. -/
def schedule (cluster : String) (spec : Spec) : List (List String) :=
  spec.datacenters.flatMap (batches cluster spec.numSeeds)

theorem flatten_batches : (batches cluster numSeeds dc).flatten =
    seedNames cluster numSeeds dc ++ otherNames cluster numSeeds dc := by
  have seeds : ([seedNames cluster numSeeds dc].filter (· ≠ [])).flatten =
      seedNames cluster numSeeds dc := by
    cases seedNames cluster numSeeds dc <;> simp
  have others : ((otherNames cluster numSeeds dc).map fun name => [name]).flatten =
      otherNames cluster numSeeds dc := by
    rw [← List.flatMap_def, List.flatMap_singleton']
  rw [batches, List.flatten_append, seeds, others]

theorem flatten_batches_perm :
    (batches cluster numSeeds dc).flatten.Perm (podNames cluster dc) := by
  rw [flatten_batches]
  refine ((inOrder_perm _).append (inOrder_perm _)).trans ?_
  rw [← List.map_append]
  exact (List.filter_append_perm _ _).map _

/-- Names are ordered as texts: of twelve pods, the ones with the ordinals 10 and 11 come before the
    one with the ordinal 2. -/
example : batches "c" 1 ⟨"dc", 12⟩ = [["c-cassandra-dc-0"], ["c-cassandra-dc-1"],
    ["c-cassandra-dc-10"], ["c-cassandra-dc-11"], ["c-cassandra-dc-2"], ["c-cassandra-dc-3"],
    ["c-cassandra-dc-4"], ["c-cassandra-dc-5"], ["c-cassandra-dc-6"], ["c-cassandra-dc-7"],
    ["c-cassandra-dc-8"], ["c-cassandra-dc-9"]] := by
  decide +kernel

/-- A name is of a pod of the datacenter if it is of a seed or of another one. -/
theorem mem_podNames_iff {name : String} : name ∈ podNames cluster dc ↔
    name ∈ seedNames cluster numSeeds dc ∨ name ∈ otherNames cluster numSeeds dc := by
  rw [← List.mem_append, ← flatten_batches, flatten_batches_perm.mem_iff]

theorem flatten_flatMap_batches (dcs : List Datacenter) :
    (dcs.flatMap (batches cluster numSeeds)).flatten =
      dcs.flatMap fun dc => (batches cluster numSeeds dc).flatten := by
  rw [List.flatMap_def, List.flatten_flatten, List.map_map, List.flatMap_def]
  rfl

/-- The schedule has every declared pod, and no other. -/
theorem schedule_perm : (schedule cluster spec).flatten.Perm (declaredNames cluster spec) := by
  rw [schedule, flatten_flatMap_batches]
  exact List.Perm.flatMap_left _ fun _ _ => flatten_batches_perm

theorem nil_not_mem_batches : [] ∉ batches cluster numSeeds dc := by
  simp [batches]

/-- Something starts with every batch. -/
theorem nil_not_mem_schedule : [] ∉ schedule cluster spec := by
  intro h
  obtain ⟨dc, -, h⟩ := List.mem_flatMap.1 h
  exact nil_not_mem_batches h

/-! ## Stages -/

/-- Where an element of a list that is put together from parts comes from. -/
theorem exists_of_flatMap_eq_append_cons {α β : Type} {f : α → List β} {l : List α}
    {before : List β} {b : β} {after : List β} (h : l.flatMap f = before ++ b :: after) :
    ∃ done a later first last, l = done ++ a :: later ∧ f a = first ++ b :: last ∧
      before = done.flatMap f ++ first := by
  induction l generalizing before with
  | nil => simp at h
  | cons a l ih =>
    rw [List.flatMap_cons] at h
    -- Either the part of `a` ends before the element, or the element is in it.
    rcases List.append_eq_append_iff.1 h with ⟨first, rfl, rest⟩ | ⟨first, same, rest⟩
    · obtain ⟨done, x, later, first, last, rfl, part, rfl⟩ := ih rest
      exact ⟨a :: done, x, later, first, last, rfl, part, by simp⟩
    · cases first with
      | nil =>
        -- The part of `a` ends just where the element stands, so that is in a later one.
        obtain ⟨done, x, later, first, last, rfl, part, none⟩ := @ih [] rest.symm
        refine ⟨a :: done, x, later, first, last, rfl, part, ?_⟩
        rw [List.flatMap_cons, List.append_assoc, ← none, same, List.append_nil, List.append_nil]
      | cons c first =>
        obtain ⟨rfl, -⟩ := List.cons_eq_cons.1 rest
        exact ⟨[], a, l, before, first, rfl, same, rfl⟩

/-- How far the pods of a datacenter have started, and which of them are next. -/
inductive Stage (cluster : String) (numSeeds : Int) (dc : Datacenter) :
    List String → List String → Prop
  /-- Nothing has started, and the seeds are next. -/
  | seeds : Stage cluster numSeeds dc [] (seedNames cluster numSeeds dc)
  /-- The seeds have started and some of the other pods, the next one of which follows. -/
  | others {first last : List String} {name : String}
      (order : otherNames cluster numSeeds dc = first ++ name :: last) :
      Stage cluster numSeeds dc (seedNames cluster numSeeds dc ++ first) [name]

theorem stage_of_batches {first last : List (List String)} {batch : List String}
    (h : batches cluster numSeeds dc = first ++ batch :: last) :
    Stage cluster numSeeds dc first.flatten batch := by
  have others {before after : List (List String)} {names : List String}
      (h : (otherNames cluster numSeeds dc).map (fun name => [name]) = before ++ names :: after) :
      Stage cluster numSeeds dc (seedNames cluster numSeeds dc ++ before.flatten) names := by
    obtain ⟨here, _, order, rfl, next⟩ := List.map_eq_append_iff.1 h
    obtain ⟨name, last, rfl, rfl, -⟩ := List.map_eq_cons_iff.1 next
    rw [← List.flatMap_def, List.flatMap_singleton']
    exact .others order
  rw [batches] at h
  -- Without seeds the batches are those of the other pods alone.
  by_cases none : seedNames cluster numSeeds dc = []
  · rw [none] at others h
    exact others h
  · rw [List.filter_cons_of_pos (by simp [none])] at h
    cases first with
    | nil =>
      obtain ⟨rfl, -⟩ := List.cons_eq_cons.1 h
      exact .seeds
    | cons names first =>
      obtain ⟨rfl, rest⟩ := List.cons_eq_cons.1 h
      exact others rest

/-- Those that are next are pods of the datacenter. -/
theorem Stage.subset {here batch : List String} (stage : Stage cluster numSeeds dc here batch) :
    batch ⊆ podNames cluster dc := by
  intro name hn
  rw [@mem_podNames_iff cluster numSeeds]
  cases stage with
  | seeds => exact .inl hn
  | others order =>
    obtain rfl := List.mem_singleton.1 hn
    exact .inr (by simp [order])

/-- At every batch of the schedule all earlier datacenters have started, and one is at a stage. -/
theorem exists_stage {started rest : List (List String)} {batch : List String}
    (h : schedule cluster spec = started ++ batch :: rest) :
    ∃ done dc later here, spec.datacenters = done ++ dc :: later ∧
      Stage cluster spec.numSeeds dc here batch ∧
      started.flatten =
        (done.flatMap fun d => (batches cluster spec.numSeeds d).flatten) ++ here := by
  obtain ⟨done, dc, later, first, last, split, part, rfl⟩ := exists_of_flatMap_eq_append_cons h
  refine ⟨done, dc, later, first.flatten, split, stage_of_batches part, ?_⟩
  rw [List.flatten_append, flatten_flatMap_batches]

end RingOperator.Bringup
