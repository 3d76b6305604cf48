import RingOperator.Proofs.Bringup.Growth
import RingOperator.Proofs.Bringup.Order

/-!
# Joining while the cluster grows

A node is *joining* from the pass that lets it run, as another node than a seed, until
it is ready (`Joining`). Every pass decides anew who may run, by what it sees, so what
is added meanwhile may come before a joining node: a datacenter before its own whose
count is raised, a new seed, or a new pod with a smaller name. As long as nothing of
that kind is added (`Look.Spares`), a joining node may run in every pass, and no two
nodes are joining at a time (`joins_alone`). Otherwise the permission is taken back and
another node joins as well (`permission_taken_back`): of eleven nodes the one with the
ordinal 10 comes before the one with the ordinal 2.
-/

namespace RingOperator.Bringup

open Look

/-- What is added to a cluster comes after a member: the datacenters before its own stay as they
    are, and the new pods of its own datacenter are no seeds and have greater names, where it is no
    seed itself. -/
structure Look.Spares (a b : Look) (m : Member) : Prop where
  earlier : ∀ before dc after, a.spec.datacenters = before ++ dc :: after → dc.name = m.dc →
    before <+: b.spec.datacenters
  own : m.seed = false → ∀ n ∈ b.view.members, n.dc = m.dc →
    n.name ∉ a.view.members.map (·.name) → n.seed = false ∧ m.name < n.name

/-- A pod that is not ready, and that some pass up to this one has let run when it was neither ready
    nor a seed. -/
def Joining (looks : Nat → Look) (k : Nat) (name : String) : Prop :=
  (∃ m ∈ (looks k).view.members, m.name = name ∧ m.ready = false) ∧
  ∃ j ≤ k, ∃ m ∈ (looks j).view.members, m.name = name ∧ m.ready = false ∧ m.seed = false ∧
    (looks j).Runs name

variable {cluster : Identity}

/-! ## One change -/

section

variable {a b : Look} {m n : Member} (before : a.Sound cluster) (after : b.Sound cluster)
  (grows : a.Grows b)

include grows

theorem Look.Spares.reached (spares : a.Spares b m) (h : Reached cluster a m.dc) :
    Reached cluster b m.dc := by
  obtain ⟨done, dc, later, split, here, complete⟩ := h
  obtain ⟨rest, split'⟩ := spares.earlier done dc later split here
  have raised := grows.raised
  rw [split, ← split'] at raised
  have tail : List.Forall₂ (fun d e : Datacenter => d.name = e.name ∧ d.replicas ≤ e.replicas)
      (dc :: later) rest := by
    have dropped := List.forall₂_drop done.length raised
    rwa [List.drop_left, List.drop_left] at dropped
  obtain ⟨dc', later', ⟨same, -⟩, -, rfl⟩ := List.forall₂_cons_left_iff.1 tail
  exact ⟨done, dc', later', split'.symm, same.symm.trans here,
    fun d hd => grows.complete (complete d hd)⟩

include before after

/-- A node that is next stays next, unless it becomes a seed. -/
theorem Look.Spares.next (hm : m ∈ a.view.members) (hn : n ∈ b.view.members)
    (same : n.name = m.name) (spares : a.Spares b n) (other : m.seed = false)
    (other' : n.seed = false) (h : a.Next m) : b.Next n := by
  intro p hp here first
  by_cases new : p.name ∈ a.view.members.map (·.name)
  -- A pod that was there before comes first as it did then, so it was ready already.
  · obtain ⟨o, ho, named⟩ := List.mem_map.1 new
    have here' : o.dc = m.dc := by
      rw [← before.dc_eq_of_name after ho hp named.symm, here,
        before.dc_eq_of_name after hm hn same]
    have ready : o.ready = true := by
      refine h o ho here' (first.imp (fun seed => ?_) fun less => ?_)
      · exact grows.seed_of_other before after hm hn same other other' ho hp named.symm here' seed
      · rwa [named, ← same]
    obtain ⟨p', hp', named', stays⟩ := grows.stays o ho
    rw [← after.eq_of_name hp' hp (named'.trans named)]
    exact stays ready
  -- A new one does not come first.
  · obtain ⟨seed, more⟩ := spares.own other' p hp here new
    rcases first with seed' | less
    · rw [seed] at seed'
      cases seed'
    · exact absurd (String.lt_trans less more) (String.lt_irrefl _)

/-- A node that may run keeps its permission if what is added comes after it. -/
theorem Look.Spares.runs (hm : m ∈ a.view.members) (hn : n ∈ b.view.members)
    (same : n.name = m.name) (notReady : n.ready = false) (spares : a.Spares b n)
    (several : ∃ dc ∈ a.spec.datacenters, dc.name = m.dc ∧ 2 ≤ dc.replicas)
    (runs : a.Runs m.name) : b.Runs n.name := by
  have notReady' := grows.not_ready after hm hn same notReady
  have here := before.dc_eq_of_name after hm hn same
  obtain ⟨reached, first⟩ := (before.runs_iff hm notReady').1 runs
  refine (after.runs_iff hn notReady).2 ⟨spares.reached grows (here ▸ reached), ?_⟩
  cases other' : n.seed with
  | true => exact .inl rfl
  | false =>
    rcases first with seed | next
    · rw [grows.seed_of_seed before after hm hn same several seed] at other'
      cases other'
    · cases other : m.seed with
      | true =>
        rw [grows.seed_of_seed before after hm hn same several other] at other'
        cases other'
      | false => exact .inr (spares.next before after grows hm hn same other other' next)

end

/-! ## Whole runs -/

section

variable {looks : Nat → Look} (sound : ∀ k, (looks k).Sound cluster)
  (grows : ∀ k, (looks k).Grows (looks (k + 1))) {j k : Nat} {m : Member}

include grows

/-- Members stay, and so does their readiness. -/
theorem exists_member_of_le (le : j ≤ k) (hm : m ∈ (looks j).view.members) :
    ∃ n ∈ (looks k).view.members, n.name = m.name ∧ (m.ready = true → n.ready = true) := by
  induction k, le using Nat.le_induction with
  | base => exact ⟨m, hm, rfl, id⟩
  | succ k le ih =>
    obtain ⟨n, hn, same, stays⟩ := ih
    obtain ⟨p, hp, same', stays'⟩ := (grows k).stays n hn
    exact ⟨p, hp, same'.trans same, fun ready => stays' (stays ready)⟩

theorem exists_datacenter_of_le (le : j ≤ k) {dc : Datacenter}
    (hd : dc ∈ (looks j).spec.datacenters) :
    ∃ e ∈ (looks k).spec.datacenters, e.name = dc.name ∧ dc.replicas ≤ e.replicas := by
  induction k, le using Nat.le_induction with
  | base => exact ⟨dc, hd, rfl, Int.le_refl _⟩
  | succ k le ih =>
    obtain ⟨e, he, same, more⟩ := ih
    obtain ⟨f, hf, same', more'⟩ := (grows k).exists_datacenter he
    exact ⟨f, hf, same'.trans same, Int.le_trans more more'⟩

include sound

/-- A pod that is not ready in some pass has not been ready before. -/
theorem not_ready_of_le (le : j ≤ k) (hm : m ∈ (looks j).view.members) {n : Member}
    (hn : n ∈ (looks k).view.members) (same : n.name = m.name) (notReady : n.ready = false) :
    m.ready = false := by
  obtain ⟨n', hn', same', stays⟩ := exists_member_of_le grows le hm
  obtain rfl := (sound k).eq_of_name hn' hn (same'.trans same.symm)
  cases ready : m.ready with
  | false => rfl
  | true => rw [stays ready] at notReady; cases notReady

/-- The datacenter of a node that is no seed has several nodes. -/
theorem several_of_other (le : j ≤ k) (hm : m ∈ (looks j).view.members) (other : m.seed = false)
    {n : Member} (hn : n ∈ (looks k).view.members) (same : n.name = m.name) :
    ∃ dc ∈ (looks k).spec.datacenters, dc.name = n.dc ∧ 2 ≤ dc.replicas := by
  obtain ⟨dc, hd, here, among⟩ := (sound j).declared m hm
  obtain ⟨i, hi, named⟩ := List.mem_map.1 among
  obtain ⟨positive, less⟩ := mem_ordinals.1 hi
  obtain ⟨e, he, named', more⟩ := exists_datacenter_of_le grows le hd
  refine ⟨e, he, ?_, ?_⟩
  · rw [(sound j).dc_eq_of_name (sound k) hm hn same, here, named']
  · rw [← Bool.not_eq_true, (sound j).seed_iff hm hd positive named.symm,
      Seeding.seedCount] at other
    split at other <;> omega

/-- A joining node may run in every pass, if what is added comes after joining nodes. -/
theorem runs_of_joining
    (spares : ∀ k, ∀ m ∈ (looks (k + 1)).view.members, m.ready = false → Joining looks k m.name →
      (looks k).Spares (looks (k + 1)) m)
    {name : String} (joining : Joining looks k name) : (looks k).Runs name := by
  obtain ⟨⟨n, hn, same, notReady⟩, j, le, m, hm, rfl, notReady', other, runs⟩ := joining
  rw [← same]
  induction k, le using Nat.le_induction generalizing n with
  | base => rwa [same]
  | succ k le ih =>
    obtain ⟨p, hp, same', -⟩ := exists_member_of_le grows le hm
    have waiting := (grows k).not_ready (sound (k + 1)) hp hn (same.trans same'.symm) notReady
    have joining : Joining looks k n.name :=
      ⟨⟨p, hp, same'.trans same.symm, waiting⟩, j, le, m, hm, same.symm, notReady', other,
        same.symm ▸ runs⟩
    exact (spares k n hn notReady joining).runs (sound k) (sound (k + 1)) (grows k) hp hn
      (same.trans same'.symm) notReady (several_of_other sound grows le hm other hp same')
      (ih p hp waiting same')

end

/-! ## Declared clusters -/

section

variable {spec spec' : Spec} {scene : Scene spec} {scene' : Scene spec'}
  {ready ready' : List String}

/-- The counts of a declared cluster are those of its ready members. -/
theorem datacenters_snapshot (accepted : spec.check = .ok ()) :
    (scene.snapshot cluster ready).datacenters = spec.datacenters.map fun dc => {
      name := dc.name
      desired := dc.replicas
      ready := some ((((scene.snapshot cluster ready).membersOf dc.name).countP (·.ready) : Nat) :
        Int) } := by
  conv_rhs => rw [← List.zipIdx_map_fst 0 spec.datacenters, List.map_map]
  refine List.map_congr_left fun entry he => ?_
  have names := @names_filter scene.places cluster.name spec ready accepted entry.1
    (List.fst_mem_of_mem_zipIdx he) (·.ready)
    (fun i => ready.contains (Naming.pod cluster.name entry.1.name i)) fun _ _ => rfl
  have count := congrArg List.length names
  rw [List.length_map, (inOrder_perm _).length_eq, List.length_map, ← List.countP_eq_length_filter,
    ← List.countP_eq_length_filter] at count
  rw [Function.comp_apply, Scene.snapshot, count, Rehearsal.declaredMembers, List.countP_map]
  rfl

/-- A pass over a declared cluster is a sound look at it. -/
theorem exists_look (accepted : spec.check = .ok ()) (alone : spec.hostPort.enabled = false)
    (scene : Scene spec) (cluster : Identity) (ready : List String) :
    ∃ found, Look.Sound cluster ⟨spec, scene.snapshot cluster ready, found⟩ := by
  obtain ⟨found, -, -, seeds, ends⟩ := Scene.exists_facts accepted alone scene cluster ready
    Table.empty
  refine ⟨found, {
    accepted
    alone := by simp [Spec.multiRegion, alone]
    succeeds := ⟨_, _, _, ends⟩
    ascend := ?_
    declared := fun m hm => ?_
    labelled := fun m hm => ?_
    counted := datacenters_snapshot accepted }⟩
  · exact Snapshot.ascend_of_nodup (Snapshot.arrange_pairwise _) (nodup_declaredAt accepted)
  · obtain ⟨position, dc, i, entry, positive, less, rfl⟩ := mem_declaredAt.1 hm
    exact ⟨dc, List.mem_of_getElem? entry, rfl,
      List.mem_map_of_mem (mem_ordinals.2 ⟨positive, less⟩)⟩
  · obtain ⟨position, dc, i, entry, positive, less, rfl⟩ := mem_declaredAt.1 hm
    exact decide_eq_true_iff.trans
      (mem_seedPods_iff accepted (List.mem_of_getElem? entry) positive).symm

/-- Raising the counts of a declared cluster makes it grow, as long as ready pods stay ready. -/
theorem grows_declared (found found' : PassFacts) (seeds : spec'.numSeeds = spec.numSeeds)
    (raised : List.Forall₂ (fun d e => d.name = e.name ∧ d.replicas ≤ e.replicas)
      spec.datacenters spec'.datacenters) (stay : ready ⊆ ready') :
    Look.Grows ⟨spec, scene.snapshot cluster ready, found⟩
      ⟨spec', scene'.snapshot cluster ready', found'⟩ := by
  refine ⟨seeds, raised, fun m hm => ?_⟩
  obtain ⟨position, dc, i, entry, positive, less, rfl⟩ := mem_declaredAt.1 hm
  obtain ⟨length, each⟩ := List.forall₂_iff_get.1 raised
  obtain ⟨within, rfl⟩ := List.getElem?_eq_some_iff.1 entry
  obtain ⟨named, more⟩ := each position within (length ▸ within)
  refine ⟨_, mem_declaredAt.2 ⟨position, _, i, List.getElem?_eq_getElem (length ▸ within), positive,
    Int.lt_of_lt_of_le less more, rfl⟩, congrArg (Naming.pod cluster.name · i) named.symm, ?_⟩
  intro isReady
  rw [Rehearsal.declaredMember, List.contains_iff_mem] at isReady ⊢
  exact named ▸ stay isReady

/-- Nothing is added to a cluster that is declared as before. -/
theorem spares_declared {scene scene' : Scene spec} {found found' : PassFacts} (m : Member) :
    Look.Spares ⟨spec, scene.snapshot cluster ready, found⟩
      ⟨spec, scene'.snapshot cluster ready', found'⟩ m where
  earlier _ _ _ split _ := ⟨_, split.symm⟩
  own _ _ hn _ new := absurd
    (names_declaredAt_perm.mem_iff.2 (names_declaredAt_perm.mem_iff.1 (List.mem_map_of_mem hn))) new

end

/-! ## One at a time -/

/-- In a cluster that grows, as long as what is added comes after joining nodes, a joining node may
    run in every pass, and no two nodes are joining at a time. -/
theorem joins_alone {looks : Nat → Look} (sound : ∀ k, (looks k).Sound cluster)
    (grows : ∀ k, (looks k).Grows (looks (k + 1)))
    (spares : ∀ k, ∀ m ∈ (looks (k + 1)).view.members, m.ready = false → Joining looks k m.name →
      (looks k).Spares (looks (k + 1)) m) :
    (∀ k name, Joining looks k name → (looks k).Runs name) ∧
    ∀ k name name', Joining looks k name → Joining looks k name' → name = name' := by
  refine ⟨fun k name => runs_of_joining sound grows spares, ?_⟩
  -- The pass that lets the later one run lets the earlier one run too, as it is not ready yet.
  have later {k : Nat} {name name' : String} {j j' : Nat} (le : j ≤ j') (le' : j' ≤ k)
      (joining : Joining looks k name)
      (begun : ∃ m ∈ (looks j).view.members, m.name = name ∧ m.ready = false ∧ m.seed = false ∧
        (looks j).Runs name)
      (begun' : ∃ m ∈ (looks j').view.members, m.name = name' ∧ m.ready = false ∧
        m.seed = false ∧ (looks j').Runs name') : name = name' := by
    obtain ⟨⟨n, hn, rfl, notReady⟩, -⟩ := joining
    obtain ⟨m', hm', rfl, notReady', other, runs'⟩ := begun'
    obtain ⟨m, hm, same, _⟩ := begun
    obtain ⟨p, hp, same', -⟩ := exists_member_of_le grows le hm
    have waiting := not_ready_of_le sound grows le' hp hn (same.symm.trans same'.symm) notReady
    have runs : (looks j').Runs p.name := runs_of_joining sound grows spares
      ⟨⟨p, hp, rfl, waiting⟩, j, le, m, hm, same'.symm, by simpa [same', same]⟩
    rw [← same, ← same', (sound j').eq_of_runs hp hm' waiting notReady' other runs runs']
  intro k name name' joining joining'
  have ⟨_, j, le, begun⟩ := joining
  have ⟨_, j', le', begun'⟩ := joining'
  rcases Nat.le_total j j' with first | first
  · exact later first le' joining begun begun'
  · exact (later first le joining' begun' begun).symm

/-- One datacenter with some nodes, two of which are seeds. -/
def single (replicas : Int) : Spec := { datacenters := [⟨"dc", replicas⟩] }

/-- A directory that knows one host. -/
def oneHost : Directory := { hosts := Table.empty.insert "node" {} }

theorem hostPort_oneHost (replicas : Int) : oneHost.hostPort = (single replicas).hostPort := rfl

theorem placed_oneHost (replicas : Int) (position : Nat) (dc : Datacenter) (i : Int)
    (_ : (single replicas).datacenters[position]? = some dc) (_ : 0 ≤ i) (_ : i < dc.replicas) :
    "10.0.0.1" ≠ "" ∧ ∃ host, oneHost.hosts.get? "node" = some host :=
  ⟨by decide, {}, rfl⟩

/-- All pods run on one host. -/
def onOneHost (replicas : Int) : Scene (single replicas) where
  places _ _ := ⟨"u", "10.0.0.1", "node"⟩
  directory := oneHost
  exposed := hostPort_oneHost replicas
  placed := placed_oneHost replicas

/-- What is seen of one datacenter, given how many nodes it has and which pods are ready. -/
def seen (replicas : Int) (ready : List String) : Snapshot :=
  (onOneHost replicas).snapshot ⟨"c", "default"⟩ ready

/-- Looks at one datacenter. -/
def growing (counts : Nat → Int) (ready : Nat → List String) (found : Nat → PassFacts) (k : Nat) :
    Look where
  spec := single (counts k)
  view := seen (counts k) (ready k)
  found := found k

section

variable {counts : Nat → Int} {ready : Nat → List String} {found : Nat → PassFacts} {k : Nat}
  {name : String}

theorem exists_growing (several : ∀ k, 2 ≤ counts k) (more : ∀ k, counts k ≤ counts (k + 1))
    (stay : ∀ k, ready k ⊆ ready (k + 1)) :
    ∃ found, (∀ k, (growing counts ready found k).Sound ⟨"c", "default"⟩) ∧
      ∀ k, (growing counts ready found k).Grows (growing counts ready found (k + 1)) := by
  have accepted (k : Nat) : (single (counts k)).check = .ok () := by
    have := several k
    refine Spec.check_eq_ok_iff.2 ⟨by simp [single], fun dc hd => ?_, by simp [single]⟩
    obtain rfl := List.mem_singleton.1 hd
    exact ⟨by simp only; omega, this⟩
  have each (k : Nat) := exists_look (accepted k) rfl (onOneHost (counts k)) ⟨"c", "default"⟩
    (ready k)
  refine ⟨fun k => (each k).choose, fun k => (each k).choose_spec, fun k => ?_⟩
  exact grows_declared _ _ rfl (.cons ⟨rfl, more k⟩ .nil) (stay k)

/-- The decisions of a look at the datacenter follow from what is seen. -/
theorem runs_growing (sound : (growing counts ready found k).Sound ⟨"c", "default"⟩) {s : Snapshot}
    (view : seen (counts k) (ready k) = s) : (growing counts ready found k).Runs name ↔
      ((Plan.ofRegion s).decisions s).get? name = some .run := by
  rw [Runs, sound.decisions_eq, ← view]
  rfl

theorem joining_growing {j : Nat} (sound : (growing counts ready found j).Sound ⟨"c", "default"⟩)
    (le : j ≤ k) {s s' : Snapshot} (view : seen (counts j) (ready j) = s)
    (view' : seen (counts k) (ready k) = s')
    (begins : ∃ m ∈ s.members, m.name = name ∧ m.ready = false ∧ m.seed = false)
    (runs : ((Plan.ofRegion s).decisions s).get? name = some .run)
    (waits : ∃ m ∈ s'.members, m.name = name ∧ m.ready = false) :
    Joining (growing counts ready found) k name := by
  subst view view'
  obtain ⟨m, hm, same, notReady, other⟩ := begins
  exact ⟨waits, j, le, m, hm, same, notReady, other, (runs_growing sound rfl).2 runs⟩

end

/-- The names of the first two pods. -/
def firstTwo : List String := ["c-cassandra-dc-0", "c-cassandra-dc-1"]

/-- A third node is joining when a fourth one is added, which is joining once the third is ready. -/
theorem joins_alone_handover :
    let counts : Nat → Int := fun k => if k = 0 then 3 else 4
    let ready : Nat → List String := fun k =>
      if k ≤ 1 then firstTwo else "c-cassandra-dc-2" :: firstTwo
    ∃ found, (∀ k, (growing counts ready found k).Sound ⟨"c", "default"⟩) ∧
      (∀ k, (growing counts ready found k).Grows (growing counts ready found (k + 1))) ∧
      Joining (growing counts ready found) 1 "c-cassandra-dc-2" ∧
      (∀ name, Joining (growing counts ready found) 1 name → name = "c-cassandra-dc-2") ∧
      ∀ name, Joining (growing counts ready found) 2 name → name = "c-cassandra-dc-3" := by
  intro counts ready
  obtain ⟨found, sound, grows⟩ := @exists_growing counts ready
    (fun k => by simp only [counts]; split <;> decide)
    (fun k => by simp only [counts]; split <;> simp)
    (fun k => by
      simp only [ready]
      split <;> split <;> first | omega | simp)
  -- What is added, a fourth node, comes after the third one.
  have added : ∀ m ∈ (seen 4 firstTwo).members, m.name ∈ (seen 3 firstTwo).members.map (·.name) →
      ∀ n ∈ (seen 4 firstTwo).members, n.name ∉ (seen 3 firstTwo).members.map (·.name) →
        m.ready = false → n.seed = false ∧ m.name < n.name := by
    decide +kernel
  have spares (k : Nat) (m : Member)
      (hm : m ∈ (growing counts ready found (k + 1)).view.members) (notReady : m.ready = false)
      (joining : Joining (growing counts ready found) k m.name) :
      (growing counts ready found k).Spares (growing counts ready found (k + 1)) m := by
    cases k with
    | succ k => exact spares_declared m
    | zero =>
      obtain ⟨⟨o, ho, same, -⟩, -⟩ := joining
      refine ⟨fun before dc after split here => ?_, fun _ n hn _ new => ?_⟩
      · obtain rfl : before = [] := by
          have length := congrArg List.length split
          exact List.eq_nil_of_length_eq_zero (by simp [growing, single] at length; omega)
        exact List.nil_prefix
      · exact added m hm (same ▸ List.mem_map_of_mem ho) n hn new notReady
  obtain ⟨-, only⟩ := joins_alone sound grows spares
  have third : Joining (growing counts ready found) 1 "c-cassandra-dc-2" :=
    joining_growing (sound 0) (Nat.zero_le 1) (rfl : _ = seen 3 firstTwo)
      (rfl : _ = seen 4 firstTwo) (by decide +kernel) (by decide +kernel) (by decide +kernel)
  have fourth : Joining (growing counts ready found) 2 "c-cassandra-dc-3" :=
    joining_growing (sound 2) (Nat.le_refl 2) (rfl : _ = seen 4 ("c-cassandra-dc-2" :: firstTwo))
      rfl (by decide +kernel) (by decide +kernel) (by decide +kernel)
  exact ⟨found, sound, grows, third, fun name joining => only 1 name _ joining third,
    fun name joining => only 2 name _ joining fourth⟩

/-- When eight nodes are added while the third one is joining, the permission of that is taken back,
    and the one with the ordinal 10 is joining as well. -/
theorem permission_taken_back :
    let counts : Nat → Int := fun k => if k = 0 then 3 else 11
    ∃ found, (∀ k, (growing counts (fun _ => firstTwo) found k).Sound ⟨"c", "default"⟩) ∧
      (∀ k, (growing counts (fun _ => firstTwo) found k).Grows
        (growing counts (fun _ => firstTwo) found (k + 1))) ∧
      Joining (growing counts (fun _ => firstTwo) found) 1 "c-cassandra-dc-2" ∧
      ¬ (growing counts (fun _ => firstTwo) found 1).Runs "c-cassandra-dc-2" ∧
      Joining (growing counts (fun _ => firstTwo) found) 1 "c-cassandra-dc-10" := by
  intro counts
  obtain ⟨found, sound, grows⟩ := @exists_growing counts (fun _ => firstTwo)
    (fun k => by simp only [counts]; split <;> decide)
    (fun k => by simp only [counts]; split <;> simp) (fun k => List.Subset.refl _)
  refine ⟨found, sound, grows, ?_, ?_, ?_⟩
  · exact joining_growing (sound 0) (Nat.zero_le 1) (rfl : _ = seen 3 firstTwo)
      (rfl : _ = seen 11 firstTwo) (by decide +kernel) (by decide +kernel) (by decide +kernel)
  · rw [runs_growing (sound 1) (rfl : _ = seen 11 firstTwo)]
    decide +kernel
  · exact joining_growing (sound 1) (Nat.le_refl 1) (rfl : _ = seen 11 firstTwo)
      rfl (by decide +kernel) (by decide +kernel) (by decide +kernel)

end RingOperator.Bringup
