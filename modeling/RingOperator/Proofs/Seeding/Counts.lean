import RingOperator.Proofs.Regions.Fetching
import RingOperator.Proofs.Pass.Facts
import RingOperator.Proofs.Seeding.Places
import RingOperator.Proofs.StartSheet.Reading

/-!
# How many seeds there are

A declaration that is accepted leaves room for nodes that are no seeds (`seedCount_le_pred`), but it
may ask for no seeds at all. Whether there is a seed is told by the declaration
(`one_le_seedCount_iff`, `Seeded`), and where nodes are contacted by their host names, so is whether
a pass gives them any seeds to contact (`seeds_as_asked`).
-/

namespace RingOperator

open Dialogue

namespace Seeding

variable {spec : Spec} {cluster : Identity} {target replicas : Int}

theorem seedCount_le (h : 0 ≤ replicas) : seedCount target replicas ≤ replicas := by
  rw [seedCount]
  split <;> omega

theorem seedCount_le_pred (h : 2 ≤ replicas) : seedCount target replicas ≤ replicas - 1 := by
  rw [seedCount, if_neg (by omega)]
  exact Int.min_le_right _ _

theorem one_le_seedCount_iff :
    1 ≤ seedCount target replicas ↔ replicas = 1 ∨ 2 ≤ replicas ∧ 1 ≤ target := by
  rw [seedCount]
  split <;> omega

/-- Some datacenter has a seed: its only node, or else the first of as many as are asked for. -/
def Seeded (spec : Spec) : Prop :=
  ∃ dc ∈ spec.datacenters, dc.replicas = 1 ∨ 2 ≤ dc.replicas ∧ 1 ≤ spec.numSeeds

instance : Decidable (Seeded spec) :=
  inferInstanceAs (Decidable (∃ dc ∈ spec.datacenters, _))

theorem seedPlaces_ne_nil_iff : seedPlaces spec ≠ [] ↔ Seeded spec := by
  simp only [Seeded, ← one_le_seedCount_iff]
  constructor
  · intro some
    obtain ⟨place, hp⟩ := List.exists_mem_of_ne_nil _ some
    obtain ⟨dc, hd, -, positive, less⟩ := mem_seedPlaces_iff.1 hp
    exact ⟨dc, hd, by omega⟩
  · rintro ⟨dc, hd, some⟩
    have first : (dc.name, (0 : Int)) ∈ seedPlaces spec :=
      mem_seedPlaces_iff.2 ⟨dc, hd, rfl, Int.le_refl 0, show (0 : Int) < _ by omega⟩
    exact List.ne_nil_of_mem first

theorem localSeeds_ne_nil_iff (alone : spec.hostPort.enabled = false) (addresses : Table String) :
    localSeeds spec cluster addresses ≠ [] ↔ Seeded spec := by
  rw [localSeeds_of_pods alone, Ne, List.map_eq_nil_iff]
  exact seedPlaces_ne_nil_iff

/-- The text of the own seeds is empty only if there are none, as host names are not. -/
theorem joined_localSeeds_eq_empty_iff (alone : spec.hostPort.enabled = false)
    (addresses : Table String) :
    String.intercalate "," (localSeeds spec cluster addresses) = "" ↔ ¬ Seeded spec := by
  rw [← localSeeds_ne_nil_iff alone addresses, not_not, localSeeds_of_pods alone]
  cases seedPlaces spec with
  | nil => simp
  | cons place places =>
    have host : hostAt cluster place ≠ "" := by simp [hostAt, Naming.podHost]
    simp [PodFacts.intercalate_cons_ne_empty host]

end Seeding

namespace Pass

variable {spec : Spec} {cluster : Identity} {s : Snapshot} {directory : Directory}
  {memory : Table String} {log : List (Entry Regions.Reply)} {found : PassFacts}

/-- If nodes do not use the network of their hosts, what a pass is told are the own seeds. -/
theorem told_of_ends_talk (alone : spec.hostPort.enabled = false) {addresses : Table String}
    {told : List String × Plan}
    (h : (talk spec cluster s addresses).run.Ends log (.ok told)) :
    told.1 = Seeding.localSeeds spec cluster addresses := by
  obtain ⟨_, -, ⟨⟩⟩ | ⟨_, _, seeds, rfl, listed, rest⟩ := ends_bind_except.1 h
  obtain ⟨_, -, ⟨⟩⟩ | ⟨_, _, _, rfl, -, rest⟩ := ends_bind_except.1 rest
  obtain ⟨_, -, ⟨⟩⟩ | ⟨_, _, plan, rfl, -, rest⟩ := ends_bind_except.1 rest
  obtain ⟨-, ⟨⟩⟩ := ends_pure.1 rest
  obtain ⟨_, -, ⟨⟩⟩ | ⟨_, _, _, rfl, -, own⟩ := ends_bind_except.1 listed
  rw [if_neg (by simp [alone])] at own
  obtain ⟨-, ⟨⟩⟩ := ends_pure.1 own
  rfl

/-- And these are handed out to all nodes. -/
theorem seeds_of_ends_facts (alone : spec.hostPort.enabled = false)
    (h : (facts spec cluster s directory memory).run.Ends log (.ok found)) {name : String}
    {facts : PodFacts} (entry : found.sheet.get? name = some facts) :
    facts.seeds = Seeding.localSeeds spec cluster found.addresses := by
  obtain ⟨_, -, -, ⟨⟩⟩ | ⟨addresses, -, ⟨_, -, ⟨⟩⟩ | ⟨told, talked, made⟩⟩ := ends_facts.1 h
  obtain ⟨sheet, built, rfl⟩ := conclude_eq_ok_iff.1 made.symm
  obtain ⟨m, -, -, describes⟩ := StartSheet.describes_of_get? built entry
  exact describes.seeded.trans (told_of_ends_talk alone talked)

end Pass

namespace Seeding

/-- In a declaration that is accepted there are no more seeds than nodes in a datacenter, and at
    least one node is no seed where there are several. Whether there is a seed at all is up to the
    declaration: the only node of a datacenter is one, and of several nodes some are if at least one
    is asked for. If nodes do not use the network of their hosts, the own seeds are empty just if no
    datacenter has one, and then every pass hands out an empty list to all nodes. -/
theorem seeds_as_asked (accepted : spec.check = .ok ()) :
    (∀ dc ∈ spec.datacenters, 0 ≤ dc.replicas ∧
      seedCount spec.numSeeds dc.replicas ≤ dc.replicas ∧
      (2 ≤ dc.replicas → seedCount spec.numSeeds dc.replicas ≤ dc.replicas - 1) ∧
      (1 ≤ seedCount spec.numSeeds dc.replicas ↔
        dc.replicas = 1 ∨ 2 ≤ dc.replicas ∧ 1 ≤ spec.numSeeds)) ∧
    (spec.hostPort.enabled = false → ∀ cluster,
      (∀ addresses, localSeeds spec cluster addresses ≠ [] ↔ Seeded spec) ∧
      ∀ s directory memory log found,
        (Pass.facts spec cluster s directory memory).run.Ends log (.ok found) →
        ∀ name facts, found.sheet.get? name = some facts →
          (("CASSANDRA_SEEDS", "") ∈ facts.exports ↔ ¬ Seeded spec)) := by
  obtain ⟨-, counts, -⟩ := Spec.check_eq_ok_iff.1 accepted
  refine ⟨fun dc hd => ?_, fun alone cluster => ⟨localSeeds_ne_nil_iff alone, ?_⟩⟩
  · obtain ⟨positive, -⟩ := counts dc hd
    exact ⟨positive, seedCount_le positive, seedCount_le_pred, one_le_seedCount_iff⟩
  · intro s directory memory log found ends name facts entry
    rw [PodFacts.seeds_mem_exports_iff, eq_comm, Pass.seeds_of_ends_facts alone ends entry]
    exact joined_localSeeds_eq_empty_iff alone found.addresses

/-- Two nodes, and as many seeds as are asked for. -/
def pairOf (numSeeds : Int) : Spec where
  datacenters := [⟨"dc", 2⟩]
  numSeeds := numSeeds

/-- The first of the nodes. -/
def firstOfPair : Snapshot where
  members := [{ name := "c-cassandra-dc-0", dc := "dc", podIp := some "10.0.0.1" }]
  datacenters := [⟨"dc", 2, none⟩]

/-- What a pass gives to this node. -/
def handedOut (seeds : List String) : PodFacts where
  uid := ""
  decision := .run
  broadcast := "10.0.0.1"
  rpc := "10.0.0.1"
  previous := ""
  seeds := seeds
  rack := none
  snitch := none

/-- A pass over the first node, if what it tells is heard. -/
theorem exists_facts_pairOf (numSeeds : Int) : ∃ log found,
    (Pass.facts (pairOf numSeeds) ⟨"c", "default"⟩ firstOfPair {} Table.empty).run.Ends log
      (.ok found) ∧
    found.sheet.get? "c-cassandra-dc-0" =
      some (handedOut (localSeeds (pairOf numSeeds) ⟨"c", "default"⟩ Table.empty)) := by
  let seeds := localSeeds (pairOf numSeeds) ⟨"c", "default"⟩ Table.empty
  have ends := @Pass.ends_facts_alone (pairOf numSeeds) ⟨"c", "default"⟩ firstOfPair {} Table.empty
    rfl (Table.ofList [("c-cassandra-dc-0", "10.0.0.1")])
    (Table.ofList [("c-cassandra-dc-0", handedOut seeds)]) rfl rfl
  exact ⟨_, _, ends, rfl⟩

theorem seeds_as_asked_pairOf :
    let identity : Identity := ⟨"c", "default"⟩
    (pairOf 2).check = .ok () ∧ 1 ≤ seedCount 2 2 ∧ seedCount 2 2 ≤ 1 ∧
    localSeeds (pairOf 2) identity Table.empty ≠ [] ∧
    ∃ log found,
      (Pass.facts (pairOf 2) identity firstOfPair {} Table.empty).run.Ends log (.ok found) ∧
      ∃ facts, found.sheet.get? "c-cassandra-dc-0" = some facts ∧
        ("CASSANDRA_SEEDS", "") ∉ facts.exports := by
  intro identity
  have accepted : (pairOf 2).check = .ok () := by decide
  have seeded : Seeded (pairOf 2) := by decide
  obtain ⟨counts, lists⟩ := seeds_as_asked accepted
  obtain ⟨own, handed⟩ := lists rfl identity
  obtain ⟨-, -, room, some⟩ := counts ⟨"dc", 2⟩ List.mem_cons_self
  obtain ⟨log, found, ends, entry⟩ := exists_facts_pairOf 2
  refine ⟨accepted, some.2 (.inr (by decide)), room (by decide), (own _).2 seeded, log, found, ends,
    _, entry, ?_⟩
  rw [handed _ _ _ _ _ ends _ _ entry, not_not]
  exact seeded

/-- So it is not so that every declaration that is accepted has seeds: if none are asked for, there
    are none, and every node gets an empty list. -/
theorem unseeded_though_accepted :
    let identity : Identity := ⟨"c", "default"⟩
    (pairOf 0).check = .ok () ∧ ⟨"dc", 2⟩ ∈ (pairOf 0).datacenters ∧ ¬ 1 ≤ seedCount 0 2 ∧
    localSeeds (pairOf 0) identity Table.empty = [] ∧
    ∃ log found,
      (Pass.facts (pairOf 0) identity firstOfPair {} Table.empty).run.Ends log (.ok found) ∧
      ∃ facts, found.sheet.get? "c-cassandra-dc-0" = some facts ∧
        ("CASSANDRA_SEEDS", "") ∈ facts.exports := by
  intro identity
  obtain ⟨log, found, ends, entry⟩ := exists_facts_pairOf 0
  refine ⟨by decide, by decide, by decide, rfl, log, found, ends, _, entry, ?_⟩
  exact PodFacts.seeds_mem_exports_iff.2 rfl

end Seeding

end RingOperator
