import Mathlib.Data.List.Forall2
import Mathlib.Data.List.Perm.Subperm
import RingOperator.Proofs.Bringup.Turn
import RingOperator.Proofs.Pass.Facts
import RingOperator.Proofs.Regions.Plan

/-!
# Clusters that grow

A pass over a cluster, together with what it sees and derives, is a *look* at it. A
look is sound (`Look.Sound`) if the pass succeeds without asking other regions, its
members are declared pods, labelled as seeds if they should be, and its counts are
those of the ready members. From one look to the next the cluster may grow
(`Look.Grows`): counts are raised, pods turn up, and ready ones stay ready.

In a sound look a datacenter is ready if all its pods are (`Look.Sound.count_eq_iff`),
and a node that is not ready may run just if all datacenters before its own are
complete and it is a seed or the next one (`Look.Sound.runs_iff`).
-/

namespace RingOperator.Bringup

open Dialogue

/-! ## Seeds of a declaration -/

section

variable {target r r' i j : Int}

/-- From two nodes on, more nodes do not make fewer seeds. -/
theorem seedCount_mono (several : 2 ≤ r) (more : r ≤ r') :
    Seeding.seedCount target r ≤ Seeding.seedCount target r' := by
  rw [Seeding.seedCount, Seeding.seedCount, if_neg (by omega), if_neg (by omega)]
  omega

/-- As long as some node is no seed when nodes are added, no other one becomes a seed. -/
theorem lt_seedCount_of_other (more : r ≤ r') (positive : 0 ≤ i) (hi : i < r)
    (other : ¬ i < Seeding.seedCount target r) (other' : ¬ i < Seeding.seedCount target r')
    (hj : j < r) (seed : j < Seeding.seedCount target r') : j < Seeding.seedCount target r := by
  have several : 2 ≤ r := by
    refine Decidable.byContradiction fun few => other ?_
    rw [Seeding.seedCount, if_pos (by omega)]
    omega
  rw [Seeding.seedCount, if_neg (by omega)] at other other' seed ⊢
  omega

end

theorem mem_seedPods_iff {spec : Spec} (accepted : spec.check = .ok ()) {dc : Datacenter}
    (hd : dc ∈ spec.datacenters) {cluster : String} {i : Int} (positive : 0 ≤ i) :
    Naming.pod cluster dc.name i ∈ Seeding.seedPods spec cluster ↔
      i < Seeding.seedCount spec.numSeeds dc.replicas := by
  rw [Seeding.seedPods, Seeding.seedPlaces, List.map_flatMap, List.mem_flatMap]
  constructor
  · rintro ⟨other, ho, among⟩
    rw [List.map_map] at among
    obtain ⟨j, hj, same⟩ := List.mem_map.1 among
    obtain ⟨positive', less⟩ := mem_ordinals.1 hj
    obtain ⟨named, rfl⟩ := Naming.pod_inj positive' positive same
    rwa [← List.inj_on_of_nodup_map (Spec.check_eq_ok_iff.1 accepted).1 ho hd named]
  · intro less
    refine ⟨dc, hd, ?_⟩
    rw [List.map_map]
    exact List.mem_map.2 ⟨i, mem_ordinals.2 ⟨positive, less⟩, rfl⟩

/-! ## Looks at a cluster -/

/-- A pass over a cluster: how the cluster is declared, what the pass sees of it, and what it
    derives. -/
structure Look where
  spec : Spec
  view : Snapshot
  found : PassFacts

namespace Look

/-- A pod that may run, as the pass has decided. -/
def Runs (a : Look) (name : String) : Prop := a.found.decisions.get? name = some .run

/-- A successful pass over a cluster that asks no other region. -/
structure Sound (cluster : Identity) (a : Look) : Prop where
  accepted : a.spec.check = .ok ()
  alone : a.spec.multiRegion = false
  succeeds : ∃ directory memory log,
    (Pass.facts a.spec cluster a.view directory memory).run.Ends log (.ok a.found)
  /-- Members stand in the order of their names, which differ. -/
  ascend : a.view.members.Pairwise fun m n => m.name < n.name
  /-- Members are declared pods. -/
  declared : ∀ m ∈ a.view.members, ∃ dc ∈ a.spec.datacenters, m.dc = dc.name ∧
    m.name ∈ podNames cluster.name dc
  /-- The labels of seeds follow the declaration. -/
  labelled : ∀ m ∈ a.view.members,
    (m.seed = true ↔ m.name ∈ Seeding.seedPods a.spec cluster.name)
  /-- As many nodes are ready as there are ready members. -/
  counted : a.view.datacenters = a.spec.datacenters.map fun dc =>
    ⟨dc.name, dc.replicas, some (((a.view.membersOf dc.name).countP (·.ready) : Nat) : Int)⟩

/-- Counts of declared datacenters are raised, and pods turn up. -/
structure Grows (a b : Look) : Prop where
  numSeeds : b.spec.numSeeds = a.spec.numSeeds
  raised : List.Forall₂ (fun d e => d.name = e.name ∧ d.replicas ≤ e.replicas)
    a.spec.datacenters b.spec.datacenters
  /-- No pod goes, and a ready one stays ready. -/
  stays : ∀ m ∈ a.view.members, ∃ n ∈ b.view.members, n.name = m.name ∧
    (m.ready = true → n.ready = true)

variable {cluster : Identity} {a b : Look} {m n : Member} {dc : Datacenter}

/-- All pods of a datacenter are ready. -/
def Complete (cluster : Identity) (a : Look) (dc : Datacenter) : Prop :=
  ∀ name ∈ podNames cluster.name dc, ∃ m ∈ a.view.members, m.name = name ∧ m.ready = true

/-- All datacenters that are declared before one of a name are complete. -/
def Reached (cluster : Identity) (a : Look) (name : String) : Prop :=
  ∃ before dc after, a.spec.datacenters = before ++ dc :: after ∧ dc.name = name ∧
    ∀ d ∈ before, Complete cluster a d

/-- All seeds of the datacenter of a member are ready, and so are all members before it. -/
def Next (a : Look) (m : Member) : Prop :=
  ∀ n ∈ a.view.members, n.dc = m.dc → n.seed = true ∨ n.name < m.name → n.ready = true

namespace Sound

variable (sound : a.Sound cluster)

include sound

theorem distinct : (a.view.members.map (·.name)).Nodup :=
  List.pairwise_map.2 (sound.ascend.imp fun less => String.ne_of_lt less)

theorem eq_of_name (hm : m ∈ a.view.members) (hn : n ∈ a.view.members) (h : m.name = n.name) :
    m = n :=
  Snapshot.eq_of_ascend sound.ascend hm hn h

theorem eq_of_dc {d e : Datacenter} (hd : d ∈ a.spec.datacenters) (he : e ∈ a.spec.datacenters)
    (h : d.name = e.name) : d = e :=
  List.inj_on_of_nodup_map (Spec.check_eq_ok_iff.1 sound.accepted).1 hd he h

/-- A member belongs to the datacenter that its name is of. -/
theorem dc_eq (hm : m ∈ a.view.members) (h : m.name ∈ podNames cluster.name dc) :
    m.dc = dc.name := by
  obtain ⟨own, -, here, among⟩ := sound.declared m hm
  rw [here, name_inj among h]

theorem mem_podNames (hm : m ∈ a.view.members) (hd : dc ∈ a.spec.datacenters)
    (here : m.dc = dc.name) : m.name ∈ podNames cluster.name dc := by
  obtain ⟨own, ho, same, among⟩ := sound.declared m hm
  rwa [← sound.eq_of_dc ho hd (same.symm.trans here)]

/-- As many nodes of a datacenter are ready as it should have if all its pods are. -/
theorem count_eq_iff (hd : dc ∈ a.spec.datacenters) :
    (((a.view.membersOf dc.name).countP (·.ready) : Nat) : Int) = dc.replicas ↔
      Complete cluster a dc := by
  have positive := ((Spec.check_eq_ok_iff.1 sound.accepted).2.1 dc hd).1
  have length : ((podNames cluster.name dc).length : Int) = dc.replicas := by
    rw [podNames, List.length_map, length_ordinals positive]
  -- The names of the ready members are names of pods, and no name occurs twice among them.
  let names := ((a.view.membersOf dc.name).filter (·.ready)).map (·.name)
  have count : (a.view.membersOf dc.name).countP (·.ready) = names.length := by
    rw [List.length_map, List.countP_eq_length_filter]
  have mem_names {name : String} :
      name ∈ names ↔ ∃ m ∈ a.view.members, m.dc = dc.name ∧ m.name = name ∧ m.ready = true := by
    simp only [names, Snapshot.membersOf, List.mem_map, List.mem_filter, decide_eq_true_eq]
    constructor
    · rintro ⟨m, ⟨⟨hm, here⟩, ready⟩, same⟩
      exact ⟨m, hm, here, same, ready⟩
    · rintro ⟨m, hm, here, same, ready⟩
      exact ⟨m, ⟨⟨hm, here⟩, ready⟩, same⟩
  have unique : names.Nodup :=
    sound.distinct.sublist ((List.filter_sublist.trans List.filter_sublist).map _)
  have pods : names ⊆ podNames cluster.name dc := by
    intro name hn
    obtain ⟨m, hm, here, rfl, -⟩ := mem_names.1 hn
    exact sound.mem_podNames hm hd here
  rw [count, ← length, Int.natCast_inj]
  constructor
  · intro same name hn
    obtain ⟨m, hm, -, named, ready⟩ := mem_names.1
      (((unique.subperm pods).perm_of_length_le (by omega)).mem_iff.2 hn)
    exact ⟨m, hm, named, ready⟩
  · intro complete
    refine List.Perm.length_eq ((List.perm_ext_iff_of_nodup unique nodup_podNames).2 fun name => ?_)
    refine ⟨@pods name, fun hn => ?_⟩
    obtain ⟨m, hm, rfl, ready⟩ := complete name hn
    exact mem_names.2 ⟨m, hm, sound.dc_eq hm hn, rfl, ready⟩

/-- A datacenter with a member that is not ready is not complete. -/
theorem not_complete (hm : m ∈ a.view.members) (notReady : m.ready = false)
    (hd : dc ∈ a.spec.datacenters) (here : m.dc = dc.name) : ¬ Complete cluster a dc := by
  intro complete
  obtain ⟨n, hn, same, ready⟩ := complete m.name (sound.mem_podNames hm hd here)
  rw [sound.eq_of_name hn hm same, notReady] at ready
  cases ready

/-! ## Whom a pass lets run -/

/-- The pass decides by the plan of the own region. -/
theorem decisions_eq : a.found.decisions = (Plan.ofRegion a.view).decisions a.view := by
  obtain ⟨directory, memory, log, h⟩ := sound.succeeds
  obtain ⟨part, -, made⟩ := Pass.ends_make_of_ends_facts h
  rw [Plan.make, if_neg (by simp [sound.alone])] at made
  obtain ⟨-, plan⟩ := made
  rw [← Except.ok.inj plan]
  obtain ⟨_, -, -, ⟨⟩⟩ | ⟨addresses, -, ⟨_, -, ⟨⟩⟩ | ⟨told, -, same⟩⟩ := Pass.ends_facts.1 h
  obtain ⟨sheet, -, found⟩ := Pass.conclude_eq_ok_iff.1 same.symm
  rw [found]
  rfl

theorem ready_eq_iff (hd : dc ∈ a.spec.datacenters) :
    some (((a.view.membersOf dc.name).countP (·.ready) : Nat) : Int) = some dc.replicas ↔
      Complete cluster a dc := by
  rw [Option.some_inj, sound.count_eq_iff hd]

/-- The datacenter that is brought up is the first one that is not complete. -/
theorem firstUnready_iff {name : String} :
    Plan.FirstUnready a.view name ↔ Reached cluster a name ∧
      ∃ dc ∈ a.spec.datacenters, dc.name = name ∧ ¬ Complete cluster a dc := by
  rw [Plan.FirstUnready, sound.counted]
  constructor
  · rintro ⟨_, _, _, split, rfl, unready, ready⟩
    obtain ⟨before, rest, order, rfl, rest'⟩ := List.map_eq_append_iff.1 split
    obtain ⟨dc, after, rfl, rfl, rfl⟩ := List.map_eq_cons_iff.1 rest'
    have declared : dc ∈ a.spec.datacenters := by simp [order]
    refine ⟨⟨before, dc, after, order, rfl, fun d hd => ?_⟩, dc, declared, rfl, ?_⟩
    · have declared : d ∈ a.spec.datacenters := by simp [order, hd]
      exact (sound.ready_eq_iff declared).1 (ready _ (List.mem_map_of_mem hd))
    · exact mt (sound.ready_eq_iff declared).2 unready
  · rintro ⟨⟨before, dc, after, order, rfl, complete⟩, other, ho, same, open'⟩
    have declared : dc ∈ a.spec.datacenters := by simp [order]
    obtain rfl := sound.eq_of_dc declared ho same.symm
    refine ⟨_, _, _, by rw [order, List.map_append, List.map_cons], rfl, ?_, ?_⟩
    · exact mt (sound.ready_eq_iff declared).1 open'
    · intro count counted
      obtain ⟨d, hd, rfl⟩ := List.mem_map.1 counted
      have declared : d ∈ a.spec.datacenters := by simp [order, hd]
      exact (sound.ready_eq_iff declared).2 (complete d hd)

/-- The datacenter of a member that is not ready is brought up if it is reached. -/
theorem ofRegion_eq_iff (hm : m ∈ a.view.members) (notReady : m.ready = false) :
    Plan.ofRegion a.view = .initializing m.dc ↔ Reached cluster a m.dc := by
  obtain ⟨dc, hd, here, -⟩ := sound.declared m hm
  rw [Plan.ofRegion_eq_initializing_iff, sound.firstUnready_iff]
  exact and_iff_left ⟨dc, hd, here.symm, sound.not_complete hm notReady hd here⟩

/-- If a node may run that is not ready, its datacenter is brought up. -/
theorem ofRegion_eq_of_runs (hm : m ∈ a.view.members) (notReady : m.ready = false)
    (runs : a.Runs m.name) : Plan.ofRegion a.view = .initializing m.dc := by
  rw [Runs, sound.decisions_eq, Plan.get?_decisions sound.distinct hm, Option.some_inj] at runs
  cases plan : Plan.ofRegion a.view with
  | converged =>
    -- Not every datacenter is ready, as this member is not.
    obtain ⟨dc, hd, here, -⟩ := sound.declared m hm
    rw [Plan.ofRegion_eq_converged_iff, Plan.regionReady_iff, sound.counted] at plan
    have ready := plan _ (List.mem_map_of_mem hd)
    exact absurd ((sound.ready_eq_iff hd).1 ready) (sound.not_complete hm notReady hd here)
  | regionPaused next => exact absurd plan Plan.ofRegion_ne_regionPaused
  | initializing name =>
    rw [plan, Plan.decisionFor_initializing_eq_run_iff] at runs
    rw [runs.1]

/-- A node that is not ready may run just if all datacenters before its own are complete and it is a
    seed or the next one. -/
theorem runs_iff (hm : m ∈ a.view.members) (notReady : m.ready = false) :
    a.Runs m.name ↔ Reached cluster a m.dc ∧ (m.seed = true ∨ a.Next m) := by
  have run (plan : Plan.ofRegion a.view = .initializing m.dc) :
      a.Runs m.name ↔ m.seed = true ∨ a.Next m := by
    rw [Runs, sound.decisions_eq, Plan.get?_decisions sound.distinct hm, Option.some_inj, plan]
    cases seed : m.seed with
    | true => simp [Plan.decisionFor_initializing_eq_run_iff, seed]
    | false => simp [Plan.decisionFor_waiting_eq_run_iff sound.ascend hm notReady seed, Next]
  rw [← sound.ofRegion_eq_iff hm notReady]
  constructor
  · intro runs
    have plan := sound.ofRegion_eq_of_runs hm notReady runs
    exact ⟨plan, (run plan).1 runs⟩
  · exact fun ⟨plan, first⟩ => (run plan).2 first

/-- Of nodes that are not ready, only one may run if one of them is no seed. -/
theorem eq_of_runs (hm : m ∈ a.view.members) (hn : n ∈ a.view.members) (notReady : m.ready = false)
    (notReady' : n.ready = false) (other : n.seed = false) (runs : a.Runs m.name)
    (runs' : a.Runs n.name) : m = n := by
  have same : m.dc = n.dc := Plan.initializing.inj
    ((sound.ofRegion_eq_of_runs hm notReady runs).symm.trans
      (sound.ofRegion_eq_of_runs hn notReady' runs'))
  obtain ⟨-, seed | next'⟩ := (sound.runs_iff hn notReady').1 runs'
  · rw [other] at seed
    cases seed
  -- The one that is no seed runs, so those that come before it are ready.
  have waits (before : m.seed = true ∨ m.name < n.name) : False := by
    have ready := next' m hm same before
    rw [notReady] at ready
    cases ready
  obtain ⟨-, seed | next⟩ := (sound.runs_iff hm notReady).1 runs
  · exact (waits (.inl seed)).elim
  · have notLess : ¬ n.name < m.name := fun less => by
      have ready := next n hn same.symm (.inr less)
      rw [notReady'] at ready
      cases ready
    exact sound.eq_of_name hm hn (String.le_antisymm (String.not_lt.1 notLess)
      (String.not_lt.1 fun less => waits (.inr less)))

/-- A member is a seed if its ordinal is small enough. -/
theorem seed_iff (hm : m ∈ a.view.members) (hd : dc ∈ a.spec.datacenters) {i : Int}
    (positive : 0 ≤ i) (named : m.name = Naming.pod cluster.name dc.name i) :
    m.seed = true ↔ i < Seeding.seedCount a.spec.numSeeds dc.replicas := by
  rw [sound.labelled m hm, named, mem_seedPods_iff sound.accepted hd positive]

end Sound

/-! ## From one look to the next -/

theorem Sound.dc_eq_of_name (before : a.Sound cluster) (after : b.Sound cluster)
    (hm : m ∈ a.view.members) (hn : n ∈ b.view.members) (same : n.name = m.name) :
    n.dc = m.dc := by
  obtain ⟨dc, -, here, among⟩ := before.declared m hm
  rw [here, after.dc_eq hn (same ▸ among)]

namespace Grows

variable (grows : a.Grows b)

include grows

theorem exists_datacenter (hd : dc ∈ a.spec.datacenters) :
    ∃ e ∈ b.spec.datacenters, e.name = dc.name ∧ dc.replicas ≤ e.replicas := by
  have raised := grows.raised
  generalize a.spec.datacenters = before, b.spec.datacenters = after at hd raised
  induction raised with
  | nil => cases hd
  | cons first rest ih =>
    rcases List.mem_cons.1 hd with rfl | hd
    · exact ⟨_, List.mem_cons_self, first.1.symm, first.2⟩
    · obtain ⟨e, he, same⟩ := ih hd
      exact ⟨e, List.mem_cons_of_mem _ he, same⟩

/-- A complete datacenter stays complete, unless its count is raised. -/
theorem complete (h : Complete cluster a dc) : Complete cluster b dc := by
  intro name hn
  obtain ⟨m, hm, rfl, ready⟩ := h name hn
  obtain ⟨n, hn, same, stays⟩ := grows.stays m hm
  exact ⟨n, hn, same, stays ready⟩

variable (before : a.Sound cluster) (after : b.Sound cluster) (hm : m ∈ a.view.members)
  (hn : n ∈ b.view.members) (same : n.name = m.name)

include after hm hn same

/-- A member that is not ready has not been ready. -/
theorem not_ready (notReady : n.ready = false) : m.ready = false := by
  obtain ⟨n', hn', same', stays⟩ := grows.stays m hm
  obtain rfl := after.eq_of_name hn' hn (same'.trans same.symm)
  cases ready : m.ready with
  | false => rfl
  | true => rw [stays ready] at notReady; cases notReady

include before

/-- In a datacenter of several nodes a seed stays a seed. -/
theorem seed_of_seed (several : ∃ dc ∈ a.spec.datacenters, dc.name = m.dc ∧ 2 ≤ dc.replicas)
    (seed : m.seed = true) : n.seed = true := by
  obtain ⟨dc, hd, here, two⟩ := several
  obtain ⟨i, hi, named⟩ := List.mem_map.1 (before.mem_podNames hm hd here.symm)
  obtain ⟨positive, -⟩ := mem_ordinals.1 hi
  obtain ⟨e, he, named', more⟩ := grows.exists_datacenter hd
  rw [before.seed_iff hm hd positive named.symm] at seed
  rw [after.seed_iff hn he positive (by rw [same, ← named, named']), grows.numSeeds]
  have := @seedCount_mono a.spec.numSeeds _ _ two more
  omega

/-- As long as a member is no seed, no other one of its datacenter becomes a seed. -/
theorem seed_of_other (other : m.seed = false) (other' : n.seed = false) {o p : Member}
    (ho : o ∈ a.view.members) (hp : p ∈ b.view.members) (same' : p.name = o.name)
    (here : o.dc = m.dc) (seed : p.seed = true) : o.seed = true := by
  obtain ⟨dc, hd, within, among⟩ := before.declared m hm
  obtain ⟨e, he, named', more⟩ := grows.exists_datacenter hd
  obtain ⟨i, hi, named⟩ := List.mem_map.1 among
  obtain ⟨j, hj, named''⟩ := List.mem_map.1 (before.mem_podNames ho hd (here.trans within))
  obtain ⟨positive, less⟩ := mem_ordinals.1 hi
  obtain ⟨positive', less'⟩ := mem_ordinals.1 hj
  rw [← Bool.not_eq_true, before.seed_iff hm hd positive named.symm] at other
  rw [← Bool.not_eq_true, after.seed_iff hn he positive (by rw [same, ← named, named']),
    grows.numSeeds] at other'
  rw [after.seed_iff hp he positive' (by rw [same', ← named'', named']), grows.numSeeds] at seed
  rw [before.seed_iff ho hd positive' named''.symm]
  exact lt_seedCount_of_other more positive less other other' less' seed

end Grows

end Look

end RingOperator.Bringup
