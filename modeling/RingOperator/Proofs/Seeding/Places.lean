import Mathlib.Data.List.Forall2
import RingOperator.Proofs.Bringup.Schedule
import RingOperator.Proofs.Seeding
import RingOperator.Proofs.StartSheet

/-!
# Labels and seed lists name the same nodes

The seeds of a declaration have places: a datacenter and an ordinal. There is one order of
them (`InSeedOrder`, `InSeedOrder.unique`): datacenters as they are declared, and in each
the ordinals as numbers, which is not the order of the names of the pods. The labels, once
they are brought in line, and the seed list are derived from the declaration apart from
each other; they agree on the places (`seeds_agree`).
-/

namespace RingOperator.Seeding

variable {spec : Spec} {cluster : Identity} {s : Snapshot} {places : List (String × Int)}

/-- A place comes before another one: its datacenter is declared earlier, or it is of the same
    datacenter and its ordinal is less. -/
def Before (spec : Spec) (p q : String × Int) : Prop :=
  (spec.datacenters.map (·.name)).idxOf p.1 < (spec.datacenters.map (·.name)).idxOf q.1 ∨
    p.1 = q.1 ∧ p.2 < q.2

/-- All places of seeds, in order. -/
structure InSeedOrder (spec : Spec) (places : List (String × Int)) : Prop where
  complete : ∀ place, place ∈ places ↔ ∃ dc ∈ spec.datacenters, dc.name = place.1 ∧
    0 ≤ place.2 ∧ place.2 < seedCount spec.numSeeds dc.replicas
  ordered : places.Pairwise (Before spec)

theorem before_asymm {p q : String × Int} (h : Before spec p q) : ¬ Before spec q p := by
  rintro (earlier | ⟨same, less⟩)
  · rcases h with h | ⟨same, -⟩
    · omega
    · rw [same] at earlier
      omega
  · rcases h with h | ⟨-, h⟩
    · rw [same] at h
      omega
    · omega

theorem InSeedOrder.nodup (order : InSeedOrder spec places) : places.Nodup :=
  order.ordered.imp fun {p q} (h : Before spec p q) (same : p = q) =>
    before_asymm h (by rwa [same] at h ⊢)

/-- The order leaves no choice. -/
theorem InSeedOrder.unique {places' : List (String × Int)} (order : InSeedOrder spec places)
    (order' : InSeedOrder spec places') : places = places' :=
  ((List.perm_ext_iff_of_nodup order.nodup order'.nodup).2 fun place =>
    (order.complete place).trans (order'.complete place).symm).eq_of_pairwise
      (fun _ _ _ _ h h' => absurd h' (before_asymm h)) order.ordered order'.ordered

theorem mem_seedPlaces_iff {place : String × Int} : place ∈ seedPlaces spec ↔
    ∃ dc ∈ spec.datacenters, dc.name = place.1 ∧ 0 ≤ place.2 ∧
      place.2 < seedCount spec.numSeeds dc.replicas := by
  obtain ⟨d, i⟩ := place
  simp only [seedPlaces, List.mem_flatMap, List.mem_map, Bringup.mem_ordinals, Prod.mk.injEq]
  constructor
  · rintro ⟨dc, hd, _, bounds, rfl, rfl⟩
    exact ⟨dc, hd, rfl, bounds⟩
  · rintro ⟨dc, hd, rfl, bounds⟩
    exact ⟨dc, hd, i, bounds, rfl, rfl⟩

theorem pairwise_ordinals (count : Int) : (ordinals count).Pairwise (· < ·) :=
  List.pairwise_map.2 (List.pairwise_lt_range.imp Int.ofNat_lt.2)

/-- What differs comes in the order of its positions. -/
theorem pairwise_idxOf {names : List String} (distinct : names.Nodup) :
    names.Pairwise fun a b => names.idxOf a < names.idxOf b := by
  refine List.pairwise_iff_getElem.2 fun i j hi hj less => ?_
  rwa [distinct.idxOf_getElem, distinct.idxOf_getElem]

/-- The places of a declaration that is accepted are in order. -/
theorem inSeedOrder_seedPlaces (accepted : spec.check = .ok ()) :
    InSeedOrder spec (seedPlaces spec) where
  complete place := mem_seedPlaces_iff
  ordered := by
    obtain ⟨distinct, -⟩ := Spec.check_eq_ok_iff.1 accepted
    have declared := List.pairwise_map.1 (pairwise_idxOf distinct)
    refine List.pairwise_flatMap.2 ⟨fun dc _ => ?_, declared.imp fun earlier p hp q hq => ?_⟩
    · exact List.pairwise_map.2 ((pairwise_ordinals _).imp fun less => .inr ⟨rfl, less⟩)
    · obtain ⟨i, -, rfl⟩ := List.mem_map.1 hp
      obtain ⟨j, -, rfl⟩ := List.mem_map.1 hq
      exact .inl earlier

/-- The name of the pod at a place. -/
def podAt (cluster : Identity) (place : String × Int) : String :=
  Naming.pod cluster.name place.1 place.2

/-- The host name of the pod at a place. -/
def hostAt (cluster : Identity) (place : String × Int) : String :=
  Naming.podHost cluster.name cluster.space place.1 place.2

/-- At different places are pods of different names. -/
theorem nodup_podsAt (order : InSeedOrder spec places) :
    (places.map (podAt cluster)).Nodup := by
  refine List.Nodup.map_on (fun p hp q hq same => ?_) order.nodup
  obtain ⟨_, -, -, positive, -⟩ := (order.complete p).1 hp
  obtain ⟨_, -, -, positive', -⟩ := (order.complete q).1 hq
  obtain ⟨dc, ordinal⟩ := Naming.pod_inj positive positive' same
  exact Prod.ext dc ordinal

/-! ## Labels -/

/-- The members once their labels are brought in line. -/
def labelled (spec : Spec) (cluster : Identity) (s : Snapshot) : Snapshot :=
  s.relabeled (labelChanges spec cluster.name s.members)

theorem nodup_labelled (distinct : (s.members.map (·.name)).Nodup) :
    ((labelled spec cluster s).members.map (·.name)).Nodup := by
  rw [labelled, Snapshot.relabeled, foldl_relabel distinct]
  simpa [Function.comp_def] using distinct

/-- A member that is brought in line is a seed if its name is that of a place. -/
theorem seed_iff_of_labelled (distinct : (s.members.map (·.name)).Nodup) {m : Member}
    (hm : m ∈ (labelled spec cluster s).members) :
    m.seed = true ↔ m.name ∈ (seedPlaces spec).map (podAt cluster) := by
  rw [labelled, Snapshot.relabeled, foldl_relabel distinct] at hm
  obtain ⟨m, among, rfl⟩ := List.mem_map.1 hm
  rw [labelChanges, carry_changes distinct among]
  exact List.contains_iff_mem

/-! ## Seed lists -/

theorem member?_eq_some_iff (distinct : (s.members.map (·.name)).Nodup) {name : String}
    {m : Member} : s.member? name = some m ↔ m ∈ s.members ∧ m.name = name := by
  have found {other : Member} (h : s.member? name = some other) :
      other ∈ s.members ∧ other.name = name := by
    have named := List.find?_some h
    exact ⟨List.mem_of_find?_eq_some h, by simpa using named⟩
  refine ⟨found, fun ⟨hm, named⟩ => ?_⟩
  obtain ⟨other, h⟩ : ∃ other, s.member? name = some other := by
    rw [← Option.isSome_iff_exists, Snapshot.member?, List.find?_isSome]
    exact ⟨m, hm, by simpa using named⟩
  obtain ⟨ho, named'⟩ := found h
  rw [h, List.inj_on_of_nodup_map distinct hm ho (named.trans named'.symm)]

/-- Values that are found of the same places belong together. -/
theorem forall₂_filterMap {α β γ : Type} {R : β → γ → Prop} {f : α → Option β} {g : α → Option γ}
    {l : List α} (each : ∀ a ∈ l, (f a = none ∧ g a = none) ∨
      ∃ b c, f a = some b ∧ g a = some c ∧ R b c) :
    List.Forall₂ R (l.filterMap f) (l.filterMap g) := by
  induction l with
  | nil => exact .nil
  | cons a l ih =>
    obtain ⟨first, later⟩ := List.forall_mem_cons.1 each
    obtain ⟨gone, gone'⟩ | ⟨b, c, found, found', related⟩ := first
    · rw [List.filterMap_cons_none gone, List.filterMap_cons_none gone']
      exact ih later
    · rw [List.filterMap_cons_some found, List.filterMap_cons_some found']
      exact .cons related (ih later)

/-- The members at the places, as far as there are any. -/
def membersAt (cluster : Identity) (s : Snapshot) (places : List (String × Int)) : List Member :=
  places.filterMap fun place => s.member? (podAt cluster place)

theorem mem_membersAt (distinct : (s.members.map (·.name)).Nodup) {m : Member} :
    m ∈ membersAt cluster s places ↔ m ∈ s.members ∧ m.name ∈ places.map (podAt cluster) := by
  simp only [membersAt, List.mem_filterMap, member?_eq_some_iff distinct, List.mem_map]
  constructor
  · rintro ⟨place, hp, hm, named⟩
    exact ⟨hm, place, hp, named.symm⟩
  · rintro ⟨hm, place, hp, named⟩
    exact ⟨place, hp, hm, named.symm⟩

theorem localSeeds_of_pods (alone : spec.hostPort.enabled = false) (addresses : Table String) :
    localSeeds spec cluster addresses = (seedPlaces spec).map (hostAt cluster) := by
  rw [localSeeds, ← List.filterMap_eq_map]
  exact List.filterMap_congr fun place _ => if_neg (by simp [alone])

theorem localSeeds_of_hosts (hosted : spec.hostPort.enabled = true) (addresses : Table String) :
    localSeeds spec cluster addresses =
      (seedPlaces spec).filterMap fun place => addresses.get? (podAt cluster place) :=
  List.filterMap_congr fun _ _ => if_pos hosted

/-- On the network of their hosts, the seed list has the addresses of the members at the places. -/
theorem forall₂_membersAt (hosted : spec.hostPort.enabled = true)
    (distinct : (s.members.map (·.name)).Nodup) {directory : Directory} {addresses : Table String}
    (reached : directory.addresses s.members = .ok addresses) :
    List.Forall₂ (fun m address => directory.Reaches m address ∧
        addresses.get? m.name = some address)
      (membersAt cluster s (seedPlaces spec)) (localSeeds spec cluster addresses) := by
  obtain ⟨keys, known⟩ := Directory.addresses_spec distinct reached
  rw [localSeeds_of_hosts hosted]
  refine forall₂_filterMap fun place _ => ?_
  cases found : s.member? (podAt cluster place) with
  | none =>
    refine .inl ⟨rfl, Option.eq_none_iff_forall_ne_some.2 fun address held => ?_⟩
    obtain ⟨m, hm, named⟩ := List.mem_map.1 ((keys _).1 (Table.mem_keys_iff.2 ⟨address, held⟩))
    have found' := (member?_eq_some_iff distinct).2 ⟨hm, named⟩
    rw [found] at found'
    cases found'
  | some m =>
    obtain ⟨hm, named⟩ := (member?_eq_some_iff distinct).1 found
    obtain ⟨address, reaches, held⟩ := known m hm
    exact .inr ⟨m, address, rfl, named ▸ held, reaches, held⟩

/-! ## Both together -/

/-- Labels and seed lists name the same nodes. Once the labels are brought in line, a member is a
    seed just if it is one of the first pods of a declared datacenter, as many as that has seeds.
    The seed list follows the same places in their order. By host names it has all of them,
    whether or not there are pods. By addresses it has the address of every member that is a
    seed, once, and no other. -/
theorem seeds_agree (accepted : spec.check = .ok ()) (distinct : (s.members.map (·.name)).Nodup) :
    (∀ m ∈ (labelled spec cluster s).members, m.seed = true ↔ ∃ dc ∈ spec.datacenters, ∃ i,
      0 ≤ i ∧ i < seedCount spec.numSeeds dc.replicas ∧
        m.name = Naming.pod cluster.name dc.name i) ∧
    ∃ places, InSeedOrder spec places ∧
      (spec.hostPort.enabled = false → ∀ addresses,
        localSeeds spec cluster addresses = places.map (hostAt cluster)) ∧
      (spec.hostPort.enabled = true → ∀ (directory : Directory) addresses,
        directory.addresses (labelled spec cluster s).members = .ok addresses →
          ∃ seeds : List Member,
            (∀ m, m ∈ seeds ↔ m ∈ (labelled spec cluster s).members ∧ m.seed = true) ∧
            (seeds.map (·.name)).Nodup ∧
            (seeds.map (·.name)).Sublist (places.map (podAt cluster)) ∧
            List.Forall₂ (fun m address => directory.Reaches m address ∧
              addresses.get? m.name = some address) seeds
                (localSeeds spec cluster addresses)) := by
  have order := inSeedOrder_seedPlaces accepted
  have distinct' : ((labelled spec cluster s).members.map (·.name)).Nodup :=
    nodup_labelled distinct
  refine ⟨fun m hm => ?_, seedPlaces spec, order, localSeeds_of_pods, ?_⟩
  · rw [seed_iff_of_labelled distinct hm, List.mem_map]
    constructor
    · rintro ⟨place, hp, named⟩
      obtain ⟨dc, hd, same, positive, less⟩ := mem_seedPlaces_iff.1 hp
      exact ⟨dc, hd, place.2, positive, less, by rw [same, ← named, podAt]⟩
    · rintro ⟨dc, hd, i, positive, less, named⟩
      exact ⟨(dc.name, i), mem_seedPlaces_iff.2 ⟨dc, hd, rfl, positive, less⟩, named.symm⟩
  · intro hosted directory addresses reached
    have named : ((membersAt cluster (labelled spec cluster s) (seedPlaces spec)).map
        (·.name)).Sublist ((seedPlaces spec).map (podAt cluster)) :=
      Member.sublist_names (fun _ _ found => ((member?_eq_some_iff distinct').1 found).2) _
    refine ⟨_, fun m => ?_, (nodup_podsAt order).sublist named, named,
      forall₂_membersAt hosted distinct' reached⟩
    rw [mem_membersAt distinct']
    exact and_congr_right fun hm => (seed_iff_of_labelled distinct hm).symm

/-- Twelve nodes, eleven of which are seeds. -/
def dozen : Spec where
  datacenters := [⟨"dc", 12⟩]
  numSeeds := 11
  hostPort := { enabled := true }

/-- Three of the seeds, as texts in the order of their names, and a node of a datacenter that is
    not declared, which still has the label. -/
def someOfDozen : Snapshot where
  members := [{ name := "c-cassandra-dc-0", dc := "dc", ordinal := 0, nodeName := some "n0" },
    { name := "c-cassandra-dc-10", dc := "dc", ordinal := 10, nodeName := some "n10" },
    { name := "c-cassandra-dc-2", dc := "dc", ordinal := 2, nodeName := some "n2" },
    { name := "c-cassandra-old-0", dc := "old", nodeName := some "n0", seed := true }]
  datacenters := [⟨"dc", 12, none⟩]

/-- The hosts of these nodes. -/
def hostsOfDozen : Directory where
  hostPort := dozen.hostPort
  hosts := Table.ofList [("n0", { internal := some "10.0.0.1" }),
    ("n2", { internal := some "10.0.0.3" }), ("n10", { internal := some "10.0.0.11" })]

/-- The list is in the order of the ordinals, and so are the seeds that have these addresses. -/
theorem seeds_agree_dozen :
    let identity : Identity := ⟨"c", "default"⟩
    let found := labelled dozen identity someOfDozen
    dozen.check = .ok () ∧ (someOfDozen.members.map (·.name)).Nodup ∧
    ∃ addresses, hostsOfDozen.addresses found.members = .ok addresses ∧
      localSeeds dozen identity addresses = ["10.0.0.1", "10.0.0.3", "10.0.0.11"] ∧
      ∃ seeds : List Member, (∀ m, m ∈ seeds ↔ m ∈ found.members ∧ m.seed = true) ∧
        (seeds.map (·.name)).Nodup ∧
        List.Forall₂ (fun m address => hostsOfDozen.Reaches m address ∧
          addresses.get? m.name = some address) seeds ["10.0.0.1", "10.0.0.3", "10.0.0.11"] := by
  intro identity found
  have accepted : dozen.check = .ok () := by decide
  have distinct : (someOfDozen.members.map (·.name)).Nodup := by decide
  have reached : hostsOfDozen.addresses found.members = .ok (Table.ofList [
      ("c-cassandra-dc-0", "10.0.0.1"), ("c-cassandra-dc-10", "10.0.0.11"),
      ("c-cassandra-dc-2", "10.0.0.3"), ("c-cassandra-old-0", "10.0.0.1")]) := by
    decide +kernel
  have listed : localSeeds dozen identity (Table.ofList [
      ("c-cassandra-dc-0", "10.0.0.1"), ("c-cassandra-dc-10", "10.0.0.11"),
      ("c-cassandra-dc-2", "10.0.0.3"), ("c-cassandra-old-0", "10.0.0.1")]) =
        ["10.0.0.1", "10.0.0.3", "10.0.0.11"] := by
    decide +kernel
  obtain ⟨-, places, -, -, hosted⟩ := seeds_agree accepted distinct
  obtain ⟨seeds, are, unlike, -, each⟩ := hosted rfl hostsOfDozen _ reached
  exact ⟨accepted, distinct, _, reached, listed, seeds, are, unlike, listed ▸ each⟩

end RingOperator.Seeding
