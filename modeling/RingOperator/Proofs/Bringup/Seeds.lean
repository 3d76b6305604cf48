import RingOperator.Proofs.Bringup.Growth
import RingOperator.Proofs.Bringup.Starting

/-!
# Seeds that are missing

Which pods should be seeds of a datacenter is told by the declaration (`SeedsListed`,
`SeedsUp`), and a pass brings the labels of its members in line with that
(`Snapshot.aligned`). But only members are waited for: another node of the datacenter
that is brought up starts just if those of its seeds that exist are ready, and so is
everyone before it (`waits_for_listed`). As long as all seed pods exist, they are ready
first. One that is not created yet, or was evicted, holds nobody back
(`started_without_seed`).
-/

namespace RingOperator

open Dialogue Seeding

variable {spec : Spec} {pods : List Pod} {sets : List StatefulSet} {m : Member}

namespace Snapshot

/-- What the API server lists, with the labels of the seeds brought in line with the declaration. -/
def aligned (spec : Spec) (cluster : String) (pods : List Pod) (sets : List StatefulSet) :
    Snapshot :=
  let listed := ofObjects spec cluster pods sets
  listed.relabeled (labelChanges spec cluster listed.members)

variable {cluster : String} (distinct : (pods.map (·.metadata.name)).Nodup)

include distinct

theorem ascend_aligned :
    (aligned spec cluster pods sets).members.Pairwise fun a b => a.name < b.name :=
  ascend_relabeled (Member.nodup_names distinct)

omit distinct in
theorem datacenters_aligned : (aligned spec cluster pods sets).datacenters =
    countsOf spec cluster sets := rfl

/-- The members that carry the label are those that should be seeds. -/
theorem seed_iff_of_mem_aligned (hm : m ∈ (aligned spec cluster pods sets).members) :
    m.seed = true ↔ m.name ∈ seedPods spec cluster := by
  have unlike : ((ofObjects spec cluster pods sets).members.map (·.name)).Nodup :=
    ((arrange_perm _).map _).nodup_iff.2 (Member.nodup_names distinct)
  rw [aligned, relabeled, foldl_relabel unlike] at hm
  obtain ⟨n, hn, rfl⟩ := List.mem_map.1 hm
  rw [labelChanges, carry_changes unlike hn, List.contains_iff_mem]

end Snapshot

namespace Bringup

/-- Every pod that should be a seed of a datacenter is a member of it. -/
def SeedsListed (spec : Spec) (cluster : String) (s : Snapshot) (dc : Datacenter) : Prop :=
  ∀ i, 0 ≤ i → i < seedCount spec.numSeeds dc.replicas →
    ∃ n ∈ s.members, n.dc = dc.name ∧ n.name = Naming.pod cluster dc.name i

/-- Every pod that should be a seed of a datacenter is a member of it and ready. -/
def SeedsUp (spec : Spec) (cluster : String) (s : Snapshot) (dc : Datacenter) : Prop :=
  ∀ i, 0 ≤ i → i < seedCount spec.numSeeds dc.replicas →
    ∃ n ∈ s.members, n.dc = dc.name ∧ n.name = Naming.pod cluster dc.name i ∧ n.ready = true

theorem SeedsUp.listed {cluster : String} {s : Snapshot} {dc : Datacenter}
    (up : SeedsUp spec cluster s dc) : SeedsListed spec cluster s dc := by
  intro i positive less
  obtain ⟨n, hn, here, named, -⟩ := up i positive less
  exact ⟨n, hn, here, named⟩

/-- Whatever the API server lists: in the datacenter that is brought up, a node that is no seed
    starts just if all of its members that should be seeds are ready, and so are those before the
    node. If the node starts, all seed pods of the datacenter are ready just if all of them
    exist. -/
theorem waits_for_listed (accepted : spec.check = .ok ()) {cluster : Identity}
    (distinct : (pods.map (·.metadata.name)).Nodup) {s : Snapshot}
    (seen : s = Snapshot.aligned spec cluster.name pods sets) {log : List (Entry Regions.Reply)}
    {name : String}
    (made : (Plan.make spec cluster s).run.Ends log (.ok (.initializing name))) :
    ∃ dc ∈ spec.datacenters, dc.name = name ∧
      ∀ m ∈ s.members, m.dc = name → m.ready = false → m.seed = false →
        (((Plan.initializing name).decisions s).get? m.name = some .run ↔
          ∀ n ∈ s.members, n.dc = name →
            n.name ∈ seedPods spec cluster.name ∨ n.name < m.name → n.ready = true) ∧
        (((Plan.initializing name).decisions s).get? m.name = some .run →
          (SeedsUp spec cluster.name s dc ↔ SeedsListed spec cluster.name s dc)) := by
  have ascend : s.members.Pairwise fun a b => a.name < b.name :=
    seen ▸ Snapshot.ascend_aligned distinct
  obtain ⟨before, count, after, split, rfl, -⟩ := Plan.firstUnready_of_make made
  have counted : count ∈ s.datacenters := split ▸ List.mem_append_right _ List.mem_cons_self
  rw [seen, Snapshot.datacenters_aligned] at counted
  obtain ⟨dc, hd, rfl⟩ := List.mem_map.1 counted
  refine ⟨dc, hd, rfl, fun m hm here notReady notSeed => ?_⟩
  have exact : ((Plan.initializing dc.name).decisions s).get? m.name = some .run ↔
      ∀ n ∈ s.members, n.dc = dc.name →
        n.name ∈ seedPods spec cluster.name ∨ n.name < m.name → n.ready = true := by
    rw [Plan.get?_decisions_of_ascend ascend hm, Option.some_inj,
      Plan.decisionFor_waiting_eq_run_iff ascend hm notReady notSeed, and_iff_right here]
    refine forall₃_congr fun n hn _ => ?_
    rw [Snapshot.seed_iff_of_mem_aligned distinct (seen ▸ hn)]
  refine ⟨exact, fun starts => ⟨SeedsUp.listed, fun listed i positive less => ?_⟩⟩
  obtain ⟨n, hn, within, named⟩ := listed i positive less
  refine ⟨n, hn, within, named, exact.1 starts n hn within (.inl ?_)⟩
  rw [named, mem_seedPods_iff accepted hd positive]
  exact less

/-! ## A datacenter with two seeds -/

/-- One datacenter of four nodes, two of which should be seeds. -/
def twoSeeds : Spec := { datacenters := [⟨"dc", 4⟩], numSeeds := 2 }

theorem lt_seedCount_twoSeeds {i : Int} (positive : 0 ≤ i)
    (less : i < seedCount twoSeeds.numSeeds 4) : i = 0 ∨ i = 1 := by
  have two : seedCount twoSeeds.numSeeds 4 = 2 := by decide
  omega

/-- The pod of an ordinal of that datacenter, which may be ready. It carries no seed label yet. -/
def podOf (ordinal : String) (ready : Bool) : Pod where
  metadata := {
    name := "c-cassandra-dc-" ++ ordinal
    labels := Table.ofList [(Labels.datacenterKey, "dc")] }
  containersReady := some [ready]

/-- The pods of that datacenter, listed in no order. Both seeds are ready. -/
def fourPods : List Pod := [podOf "3" false, podOf "1" true, podOf "0" true, podOf "2" false]

/-- The first of the other two nodes starts, and the second one waits for it. -/
theorem waits_for_listed_both :
    let s := Snapshot.aligned twoSeeds "c" fourPods []
    twoSeeds.check = .ok () ∧ (fourPods.map (·.metadata.name)).Nodup ∧
    (Plan.make twoSeeds ⟨"c", "default"⟩ s).run.Ends [] (.ok (.initializing "dc")) ∧
    ((Plan.initializing "dc").decisions s).get? "c-cassandra-dc-2" = some .run ∧
    ((Plan.initializing "dc").decisions s).get? "c-cassandra-dc-3" ≠ some .run ∧
    SeedsUp twoSeeds "c" s ⟨"dc", 4⟩ := by
  intro s
  have accepted : twoSeeds.check = .ok () := rfl
  have distinct : (fourPods.map (·.metadata.name)).Nodup := by decide +kernel
  have plan : Plan.ofRegion s = .initializing "dc" := by decide +kernel
  have made : (Plan.make twoSeeds ⟨"c", "default"⟩ s).run.Ends [] (.ok (.initializing "dc")) :=
    plan ▸ Plan.ends_make_alone rfl
  obtain ⟨dc, hd, -, waits⟩ := waits_for_listed accepted distinct rfl made
  obtain rfl := List.mem_singleton.1 hd
  obtain ⟨second, up⟩ := waits ⟨"c-cassandra-dc-2", "", "dc", 2, none, none, false, false⟩
    (by decide +kernel) rfl rfl rfl
  obtain ⟨last, -⟩ := waits ⟨"c-cassandra-dc-3", "", "dc", 3, none, none, false, false⟩
    (by decide +kernel) rfl rfl rfl
  have starts := second.2 (by decide +kernel)
  refine ⟨accepted, distinct, made, starts, mt last.1 (by decide +kernel), (up starts).2 ?_⟩
  intro i positive less
  rcases lt_seedCount_twoSeeds positive less with rfl | rfl <;> decide +kernel

/-- The pod of the first seed does not exist. Nevertheless a node that is no seed starts. -/
theorem started_without_seed :
    let pods := [podOf "1" true, podOf "2" false]
    let s := Snapshot.aligned twoSeeds "c" pods []
    twoSeeds.check = .ok () ∧ (pods.map (·.metadata.name)).Nodup ∧
    (Plan.make twoSeeds ⟨"c", "default"⟩ s).run.Ends [] (.ok (.initializing "dc")) ∧
    Plan.Starts (.initializing "dc") s
      ⟨"c-cassandra-dc-2", "", "dc", 2, none, none, false, false⟩ ∧
    ¬ SeedsUp twoSeeds "c" s ⟨"dc", 4⟩ := by
  intro pods s
  have plan : Plan.ofRegion s = .initializing "dc" := by decide +kernel
  refine ⟨rfl, by decide +kernel, plan ▸ Plan.ends_make_alone rfl,
    ⟨by decide +kernel, rfl, rfl, by decide +kernel⟩, fun up => ?_⟩
  have missing : ∀ n ∈ s.members, n.name ≠ Naming.pod "c" "dc" 0 := by decide +kernel
  obtain ⟨n, hn, -, named, -⟩ := up 0 (by decide) (by decide)
  exact missing n hn named

end Bringup

end RingOperator
