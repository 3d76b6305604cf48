import RingOperator.Proofs.Bringup.Schedule
import RingOperator.Rehearsal.Bringup

/-!
# What a bring-up sees

The snapshot of a declared cluster, wherever its pods run. Its members are the
declared pods, each under a name of its own (`mem_declaredAt`,
`nodup_declaredAt`), and a datacenter is ready when all its pods are
(`unready_declaredAt`). The names of the members of a datacenter, seeds and
others, are those of its batches (`names_seeds`, `names_others`).
-/

namespace RingOperator.Bringup

open Seeding Rehearsal

variable {places : Nat → Int → Place} {cluster : String} {spec : Spec} {ready : List String}

/-! ## Members -/

/-- The members are the declared pods. -/
theorem mem_declaredAt {m : Member} : m ∈ (declaredAt places cluster spec ready).members ↔
    ∃ position dc i, spec.datacenters[position]? = some dc ∧ 0 ≤ i ∧ i < dc.replicas ∧
      m = declaredMember cluster spec.numSeeds (places position) dc ready i := by
  rw [declaredAt, Snapshot.of, (Snapshot.arrange_perm _).mem_iff, List.mem_flatMap]
  constructor
  · rintro ⟨⟨dc, position⟩, entry, hm⟩
    obtain ⟨i, hi, rfl⟩ := List.mem_map.1 hm
    obtain ⟨positive, less⟩ := mem_ordinals.1 hi
    exact ⟨position, dc, i, List.mem_zipIdx_iff_getElem?.1 entry, positive, less, rfl⟩
  · rintro ⟨position, dc, i, entry, positive, less, rfl⟩
    refine ⟨(dc, position), List.mem_zipIdx_iff_getElem?.2 entry, ?_⟩
    exact List.mem_map_of_mem (mem_ordinals.2 ⟨positive, less⟩)

theorem ready_of_mem {m : Member} (hm : m ∈ (declaredAt places cluster spec ready).members) :
    m.ready = ready.contains m.name := by
  obtain ⟨position, dc, i, -, -, -, rfl⟩ := mem_declaredAt.1 hm
  rfl

/-- A member belongs to the datacenter that its name is of. -/
theorem dc_eq_iff {m : Member} (hm : m ∈ (declaredAt places cluster spec ready).members)
    {dc : Datacenter} (hd : dc ∈ spec.datacenters)
    (distinct : (spec.datacenters.map (·.name)).Nodup) :
    m.dc = dc.name ↔ m.name ∈ podNames cluster dc := by
  obtain ⟨position, other, i, entry, positive, less, rfl⟩ := mem_declaredAt.1 hm
  constructor
  · intro same
    have := List.inj_on_of_nodup_map distinct (List.mem_of_getElem? entry) hd same
    rw [← this]
    exact List.mem_map_of_mem (mem_ordinals.2 ⟨positive, less⟩)
  · exact fun h => name_inj (List.mem_map_of_mem (mem_ordinals.2 ⟨positive, less⟩)) h

theorem names_declaredAt_perm :
    ((declaredAt places cluster spec ready).members.map (·.name)).Perm
      (declaredNames cluster spec) := by
  refine ((Snapshot.arrange_perm _).map _).trans ?_
  rw [List.map_flatMap, declaredNames]
  conv_rhs => rw [← List.zipIdx_map_fst 0 spec.datacenters, List.flatMap_map]
  simp only [declaredMembers, List.map_map]
  exact List.Perm.refl _

/-- In a declaration that is accepted no two members have one name. -/
theorem nodup_declaredAt (accepted : spec.check = .ok ()) :
    ((declaredAt places cluster spec ready).members.map (·.name)).Nodup :=
  names_declaredAt_perm.nodup_iff.2 (nodup_declaredNames accepted)

/-- The names of members of a datacenter, where it is told by the ordinal which ones are meant. -/
theorem names_filter (accepted : spec.check = .ok ()) {dc : Datacenter}
    (hd : dc ∈ spec.datacenters) {q : Member → Bool} {p : Int → Bool}
    (h : ∀ place i, q (declaredMember cluster spec.numSeeds place dc ready i) = p i) :
    (((declaredAt places cluster spec ready).membersOf dc.name).filter q).map (·.name) =
      inOrder (((ordinals dc.replicas).filter p).map (Naming.pod cluster dc.name)) := by
  obtain ⟨distinct, -⟩ := Spec.check_eq_ok_iff.1 accepted
  -- No name occurs twice on either side, so it is enough that both sides have the same ones.
  refine eq_inOrder_of_perm ((List.perm_ext_iff_of_nodup ?_ ?_).2 fun name => ?_) ?_
  · exact (nodup_declaredAt accepted).sublist
      ((List.filter_sublist.trans List.filter_sublist).map _)
  · exact nodup_podNames.sublist (List.filter_sublist.map _)
  · constructor
    · intro hn
      obtain ⟨m, hm, rfl⟩ := List.mem_map.1 hn
      obtain ⟨hm, meant⟩ := List.mem_filter.1 hm
      obtain ⟨hm, here⟩ := List.mem_filter.1 hm
      obtain ⟨position, other, i, entry, positive, less, rfl⟩ := mem_declaredAt.1 hm
      obtain rfl := List.inj_on_of_nodup_map distinct (List.mem_of_getElem? entry) hd
        (of_decide_eq_true here)
      refine List.mem_map_of_mem (List.mem_filter.2 ⟨mem_ordinals.2 ⟨positive, less⟩, ?_⟩)
      rwa [h] at meant
    · intro hn
      obtain ⟨i, hi, rfl⟩ := List.mem_map.1 hn
      obtain ⟨hi, meant⟩ := List.mem_filter.1 hi
      obtain ⟨positive, less⟩ := mem_ordinals.1 hi
      obtain ⟨position, entry⟩ := List.getElem?_of_mem hd
      refine List.mem_map.2 ⟨declaredMember cluster spec.numSeeds (places position) dc ready i,
        List.mem_filter.2 ⟨List.mem_filter.2 ⟨?_, by simp [declaredMember]⟩, ?_⟩, rfl⟩
      · exact mem_declaredAt.2 ⟨position, dc, i, entry, positive, less, rfl⟩
      · rwa [h]
  · exact List.pairwise_map.2 (((Snapshot.arrange_pairwise _).filter _).filter _)

/-! ## Readiness -/

/-- As many nodes of a datacenter are ready as it should have if all its pods are. -/
theorem count_eq_iff {numSeeds : Int} {entry : Datacenter × Nat} (h : 0 ≤ entry.1.replicas) :
    (((declaredMembers cluster numSeeds places ready entry).countP (·.ready) : Nat) : Int) =
      entry.1.replicas ↔ (podNames cluster entry.1).all ready.contains = true := by
  have length := length_ordinals h
  have same : (fun m : Member => m.ready) ∘
      declaredMember cluster numSeeds (places entry.2) entry.1 ready =
        ready.contains ∘ Naming.pod cluster entry.1.name := rfl
  rw [declaredMembers, List.countP_map, same, podNames, List.all_map, List.all_eq_true]
  constructor
  · intro all
    exact List.countP_eq_length.1 (by omega)
  · intro all
    rw [List.countP_eq_length.2 all, length]

/-- The datacenters that are not ready are those with a pod that is not. -/
theorem unready_declaredAt (accepted : spec.check = .ok ()) :
    (declaredAt places cluster spec ready).unready =
      (spec.datacenters.filter fun dc => !(podNames cluster dc).all ready.contains).map
        (·.name) := by
  obtain ⟨-, counts, -⟩ := Spec.check_eq_ok_iff.1 accepted
  -- Counts are made from datacenters with their positions, which play no part in being ready.
  conv_rhs => rw [← List.zipIdx_map_fst 0 spec.datacenters, List.filter_map, List.map_map]
  rw [Snapshot.unready, declaredAt, Snapshot.of, List.filter_map, List.map_map]
  refine congrArg _ (List.filter_congr fun entry he => ?_)
  have positive := (counts entry.1 (List.fst_mem_of_mem_zipIdx he)).1
  have same := @count_eq_iff places cluster ready spec.numSeeds entry positive
  simp only [Function.comp_apply, DatacenterCount.isReady]
  rw [Bool.eq_iff_iff]
  simpa using not_congr same

end RingOperator.Bringup
