import RingOperator.Proofs.Bringup.View
import RingOperator.Proofs.Pass

/-!
# Whose turn it is

If the pods of the first batches of the schedule are ready, the plan is to
bring up the datacenter of the next batch, and those that start are that batch
(`exists_turn`); if those of all batches are, there is nothing left to do
(`turn_of_all`). Whom a plan lets run meanwhile is said once
(`Plan.decisionFor_initializing_eq_run_iff`).
-/

namespace RingOperator

/-- Of the datacenter that is brought up the seeds run, and once they are ready, the other members
    that are ready and the next one that is not. -/
theorem Plan.decisionFor_initializing_eq_run_iff {s : Snapshot} {dc : String} {m : Member} :
    (initializing dc).decisionFor s m = .run ↔ m.dc = dc ∧ (m.seed = true ∨
      s.seedsReady dc = true ∧
        (m.ready = true ∨ (s.nextNonSeed dc).map (·.name) = some m.name)) := by
  rw [decisionFor]
  by_cases here : m.dc = dc
  · rw [if_neg (by simp [here])]
    by_cases seed : m.seed = true
    · simp [here, seed]
    · rw [if_neg seed]
      cases s.seedsReady dc <;> cases m.ready <;> simp [here, seed]
  · simp [here]

/-- Of those that are neither ready nor seeds, the one runs before which everyone is ready, where
    the seeds of the datacenter come before the others. -/
theorem Plan.decisionFor_waiting_eq_run_iff {s : Snapshot}
    (ascend : s.members.Pairwise fun a b => a.name < b.name) {dc : String} {m : Member}
    (hm : m ∈ s.members) (notReady : m.ready = false) (other : m.seed = false) :
    (initializing dc).decisionFor s m = .run ↔ m.dc = dc ∧
      ∀ n ∈ s.members, n.dc = dc → n.seed = true ∨ n.name < m.name → n.ready = true := by
  rw [decisionFor_initializing_eq_run_iff]
  refine and_congr_right fun here => ?_
  have next : (s.nextNonSeed dc).map (·.name) = some m.name ↔
      ∀ n ∈ s.members, n.dc = dc → n.name < m.name → n.seed = true ∨ n.ready = true := by
    have found : (s.nextNonSeed dc).map (·.name) = some m.name ↔ s.nextNonSeed dc = some m := by
      refine ⟨fun h => ?_, fun h => by rw [h, Option.map_some]⟩
      obtain ⟨n, first, same⟩ := Option.map_eq_some_iff.1 h
      have among := ((Snapshot.nextNonSeed_eq_some_iff ascend).1 first).1.1
      rw [first, Snapshot.eq_of_ascend ascend among hm same]
    rw [found, Snapshot.nextNonSeed_eq_some_iff ascend]
    simp only [hm, here, other, notReady, true_and]
  rw [Snapshot.seedsReady_iff hm, next]
  simp only [other, notReady, Bool.false_eq_true, false_or]
  constructor
  · rintro ⟨seeds, before⟩ n hn here (seed | less)
    · exact seeds n hn here seed
    · exact (before n hn here less).elim (seeds n hn here) id
  · exact fun all => ⟨fun n hn here seed => all n hn here (.inl seed),
      fun n hn here less => .inr (all n hn here (.inr less))⟩

/-- Those that start are the ones that are not ready and that the plan lets run. -/
theorem Rehearsal.starting_decisions {s : Snapshot} (distinct : (s.members.map (·.name)).Nodup)
    (plan : Plan) : starting s (plan.decisions s) =
      (s.members.filter fun m => !m.ready && plan.decisionFor s m == .run).map (·.name) := by
  refine congrArg _ (List.filter_congr fun m hm => ?_)
  rw [Plan.get?_decisions distinct hm]
  rfl

namespace Bringup

open Seeding Rehearsal

variable {places : Nat → Int → Place} {cluster : String} {spec : Spec} {ready : List String}
  {dc : Datacenter}

/-! ## Seeds and others -/

theorem names_seeds (accepted : spec.check = .ok ()) (hd : dc ∈ spec.datacenters) :
    (((declaredAt places cluster spec ready).membersOf dc.name).filter (·.seed)).map (·.name) =
      seedNames cluster spec.numSeeds dc :=
  names_filter accepted hd fun _ _ => rfl

theorem names_others (accepted : spec.check = .ok ()) (hd : dc ∈ spec.datacenters) :
    (((declaredAt places cluster spec ready).membersOf dc.name).filter (!·.seed)).map (·.name) =
      otherNames cluster spec.numSeeds dc :=
  names_filter accepted hd fun _ _ => rfl

/-- The seeds of a datacenter are ready if the pods with their names are. -/
theorem seedsReady_iff (accepted : spec.check = .ok ()) (hd : dc ∈ spec.datacenters)
    {m : Member} (hm : m ∈ (declaredAt places cluster spec ready).members) :
    (declaredAt places cluster spec ready).seedsReady dc.name = true ↔
      ∀ name ∈ seedNames cluster spec.numSeeds dc, name ∈ ready := by
  rw [Snapshot.seedsReady_iff hm, ← @names_seeds places cluster spec ready dc accepted hd,
    List.forall_mem_map]
  simp only [Snapshot.membersOf, List.mem_filter, decide_eq_true_eq, and_imp]
  refine forall₂_congr fun n hn => forall₂_congr fun _ _ => ?_
  rw [ready_of_mem hn, List.contains_iff_mem]

/-! ## The next batch -/

section

variable (accepted : spec.check = .ok ()) (hd : dc ∈ spec.datacenters)

include accepted hd

theorem mem_seedNames {m : Member} (hm : m ∈ (declaredAt places cluster spec ready).members)
    (here : m.dc = dc.name) (seed : m.seed = true) :
    m.name ∈ seedNames cluster spec.numSeeds dc := by
  rw [← @names_seeds places cluster spec ready dc accepted hd]
  exact List.mem_map_of_mem (List.mem_filter.2 ⟨List.mem_filter.2 ⟨hm, by simp [here]⟩, seed⟩)

/-- While no seed of the datacenter is ready, those that start are the seeds. -/
theorem starting_seeds (waiting : ∀ name ∈ seedNames cluster spec.numSeeds dc, name ∉ ready)
    (some : seedNames cluster spec.numSeeds dc ≠ []) :
    starting (declaredAt places cluster spec ready)
      ((Plan.initializing dc.name).decisions (declaredAt places cluster spec ready)) =
        seedNames cluster spec.numSeeds dc := by
  rw [starting_decisions (nodup_declaredAt accepted),
    ← @names_seeds places cluster spec ready dc accepted hd, Snapshot.membersOf, List.filter_filter]
  refine congrArg _ (List.filter_congr fun m hm => ?_)
  have unready : (declaredAt places cluster spec ready).seedsReady dc.name = false := by
    rw [Bool.eq_false_iff, ne_eq, seedsReady_iff accepted hd hm]
    intro all
    obtain ⟨name, hn⟩ := List.exists_mem_of_ne_nil _ some
    exact waiting name hn (all name hn)
  -- Only seeds are let run as long as they are not all ready, and none of them is.
  rw [Bool.eq_iff_iff, Bool.and_eq_true, Bool.and_eq_true, beq_iff_eq, decide_eq_true_eq,
    Plan.decisionFor_initializing_eq_run_iff, unready]
  constructor
  · rintro ⟨-, here, seed | ⟨⟨⟩, -⟩⟩
    exact ⟨seed, here⟩
  · rintro ⟨seed, here⟩
    have notReady : m.ready = false := by
      rw [ready_of_mem hm]
      simpa using waiting _ (mem_seedNames accepted hd hm here seed)
    exact ⟨by simp [notReady], here, .inl seed⟩

/-- Once the seeds are ready, the one that starts is the first of the other pods that is not. -/
theorem starting_other {first last : List String} {name : String}
    (order : otherNames cluster spec.numSeeds dc = first ++ name :: last)
    (seeds : ∀ name ∈ seedNames cluster spec.numSeeds dc, name ∈ ready)
    (past : ∀ name ∈ first, name ∈ ready) (next : name ∉ ready) :
    starting (declaredAt places cluster spec ready)
      ((Plan.initializing dc.name).decisions (declaredAt places cluster spec ready)) = [name] := by
  have distinct := @nodup_declaredAt places cluster spec ready accepted
  have turn : ((declaredAt places cluster spec ready).nextNonSeed dc.name).map (·.name) =
      some name := by
    rw [Snapshot.nextNonSeed_name (fun m hm => ready_of_mem hm), names_others accepted hd, order,
      List.find?_append, List.find?_eq_none.2 (by simpa using past), List.find?_cons]
    simp [next]
  have other : name ∈ otherNames cluster spec.numSeeds dc := by simp [order]
  have pod : name ∈ podNames cluster dc := mem_podNames_iff.2 (.inr other)
  rw [starting_decisions distinct]
  -- The member of that name is the only one that runs without being ready.
  have only : ∀ m ∈ (declaredAt places cluster spec ready).members,
      (!m.ready && (Plan.initializing dc.name).decisionFor (declaredAt places cluster spec ready) m
        == .run) = (m.name == name) := by
    intro m hm
    have isReady : m.ready = true ↔ m.name ∈ ready := by
      rw [ready_of_mem hm, List.contains_iff_mem]
    rw [Bool.eq_iff_iff, Bool.and_eq_true, Bool.not_eq_true', ← Bool.not_eq_true, isReady,
      beq_iff_eq, beq_iff_eq, Plan.decisionFor_initializing_eq_run_iff, turn, isReady]
    constructor
    · rintro ⟨unready, here, seed | ⟨-, started | same⟩⟩
      · exact absurd (seeds _ (mem_seedNames accepted hd hm here seed)) unready
      · exact absurd started unready
      · exact (Option.some.inj same).symm
    · rintro rfl
      have here := (dc_eq_iff hm hd (Spec.check_eq_ok_iff.1 accepted).1).2 pod
      exact ⟨next, here, .inr ⟨(seedsReady_iff accepted hd hm).2 seeds, .inr rfl⟩⟩
  have member : name ∈ (declaredAt places cluster spec ready).members.map (·.name) :=
    names_declaredAt_perm.mem_iff.2 (List.mem_flatMap.2 ⟨dc, hd, pod⟩)
  have same : ((declaredAt places cluster spec ready).members.filter (·.name == name)).map
      (·.name) =
        ((declaredAt places cluster spec ready).members.map (·.name)).filter (· == name) := by
    rw [List.filter_map]
    rfl
  rw [List.filter_congr only, same, List.filter_beq, List.count_eq_one_of_mem distinct member]
  rfl

/-- The pods that start at a stage are those that are next. -/
theorem starting_at_stage {here batch : List String}
    (stage : Stage cluster spec.numSeeds dc here batch) (past : ∀ name ∈ here, name ∈ ready)
    (next : ∀ name ∈ batch, name ∉ ready) (some : batch ≠ []) :
    starting (declaredAt places cluster spec ready)
      ((Plan.initializing dc.name).decisions (declaredAt places cluster spec ready)) = batch := by
  cases stage with
  | seeds => exact starting_seeds accepted hd next some
  | others order =>
    refine starting_other accepted hd order ?_ ?_ (next _ List.mem_cons_self)
    · exact fun name hn => past name (List.mem_append_left _ hn)
    · exact fun name hn => past name (List.mem_append_right _ hn)

end

/-! ## Turns -/

/-- Datacenters of which all pods are ready are not among those to bring up. -/
theorem filter_unready_eq_nil {dcs : List Datacenter}
    (all : ∀ d ∈ dcs, ∀ name ∈ podNames cluster d, name ∈ ready) :
    dcs.filter (fun d => !(podNames cluster d).all ready.contains) = [] := by
  refine List.filter_eq_nil_iff.2 fun d hd => ?_
  have here : (podNames cluster d).all ready.contains = true :=
    List.all_eq_true.2 fun name hn => List.contains_iff_mem.2 (all d hd name hn)
  simp [here]

/-- If the pods of the batches before are ready, it is the turn of the next batch. -/
theorem exists_turn (places : Nat → Int → Place) (accepted : spec.check = .ok ())
    {started rest : List (List String)} {batch : List String}
    (h : schedule cluster spec = started ++ batch :: rest) :
    let s := declaredAt places cluster spec started.flatten
    ∃ dc ∈ spec.datacenters, Plan.ofRegion s = .initializing dc.name ∧
      starting s ((Plan.initializing dc.name).decisions s) = batch := by
  intro s
  obtain ⟨done, dc, later, here, split, stage, past⟩ := exists_stage h
  have hd : dc ∈ spec.datacenters := by simp [split]
  have some : batch ≠ [] := by
    rintro rfl
    exact nil_not_mem_schedule (h.symm ▸ List.mem_append_right started List.mem_cons_self)
  have next : ∀ name ∈ batch, name ∉ started.flatten := by
    have distinct := schedule_perm.nodup_iff.2 (@nodup_declaredNames cluster spec accepted)
    rw [h, List.flatten_append, List.flatten_cons] at distinct
    intro name hn again
    exact List.disjoint_of_nodup_append distinct again (List.mem_append_left _ hn)
  refine ⟨dc, hd, ?_, starting_at_stage accepted hd stage ?_ next some⟩
  -- The first datacenter with a pod that is not ready is the one of the next batch.
  · have before : ∀ d ∈ done, ∀ name ∈ podNames cluster d, name ∈ started.flatten := by
      intro d hd name hn
      rw [past]
      exact List.mem_append_left _
        (List.mem_flatMap.2 ⟨d, hd, flatten_batches_perm.mem_iff.2 hn⟩)
    have here : (podNames cluster dc).all started.flatten.contains = false := by
      obtain ⟨name, hn⟩ := List.exists_mem_of_ne_nil _ some
      exact List.all_eq_false.2 ⟨name, stage.subset hn, by simpa using next name hn⟩
    rw [Plan.ofRegion, unready_declaredAt accepted, split, List.filter_append,
      filter_unready_eq_nil before, List.nil_append,
      List.filter_cons_of_pos (by simp only [here, Bool.not_false])]
    rfl
  · intro name hn
    rw [past]
    exact List.mem_append_right _ hn

/-- If all pods are ready, nothing is left to do. -/
theorem turn_of_all (places : Nat → Int → Place) (accepted : spec.check = .ok ())
    (all : ∀ name ∈ declaredNames cluster spec, name ∈ ready) :
    let s := declaredAt places cluster spec ready
    Plan.ofRegion s = .converged ∧ (∀ m ∈ s.members, m.ready = true) ∧
      starting s (Plan.converged.decisions s) = [] := by
  intro s
  have each : ∀ m ∈ s.members, m.ready = true := by
    intro m hm
    rw [ready_of_mem hm]
    exact List.contains_iff_mem.2 (all _ (names_declaredAt_perm.mem_iff.1 (List.mem_map_of_mem hm)))
  refine ⟨?_, each, ?_⟩
  · have each : ∀ d ∈ spec.datacenters, ∀ name ∈ podNames cluster d, name ∈ ready :=
      fun d hd name hn => all name (List.mem_flatMap.2 ⟨d, hd, hn⟩)
    rw [Plan.ofRegion, unready_declaredAt accepted, filter_unready_eq_nil each]
    rfl
  · rw [starting, List.map_eq_nil_iff, List.filter_eq_nil_iff]
    intro m hm
    simp [each m hm]

end Bringup

end RingOperator
