import RingOperator.Proofs.Bringup.Turn
import RingOperator.Proofs.Regions.Plan
import RingOperator.Proofs.Seeding

/-!
# Who starts

Whatever a pass sees, be it that the counts of the datacenters contradict the readiness of
the members, that seeds have any ordinals, or that members belong to no declared
datacenter: if its plan has not converged, at most one member starts that is no seed
(`Exclusive`, `starts_alone`). That rests on the order in which a snapshot keeps its
members, so it is about snapshots as they are built, with changes of seed labels applied.
-/

namespace RingOperator

open Dialogue Seeding

namespace Snapshot

variable {members : List Member} {datacenters : List DatacenterCount}
  {changes : List (String × LabelChange)}

/-- Members that are arranged stay in the order of their names as their labels change. -/
theorem ascend_relabeled (distinct : (members.map (·.name)).Nodup) :
    ((of members datacenters).relabeled changes).members.Pairwise fun a b => a.name < b.name := by
  have unlike : ((arrange members).map (·.name)).Nodup :=
    ((arrange_perm members).map (·.name)).nodup_iff.2 distinct
  rw [relabeled, of, foldl_relabel unlike]
  refine List.pairwise_map.2 ((ascend_of_nodup (arrange_pairwise members) unlike).imp ?_)
  intro a b less
  rwa [name_carry, name_carry]

end Snapshot

namespace Plan

variable {plan : Plan} {s : Snapshot} {m : Member}

/-- Where names ascend, a plan decides about the members one by one, in their order. -/
theorem keys_decisions (ascend : s.members.Pairwise fun a b => a.name < b.name) (plan : Plan) :
    (plan.decisions s).keys = s.members.map (·.name) := by
  let t : Table Decision :=
    ⟨s.members.map fun m => (m.name, plan.decisionFor s m), List.pairwise_map.2 ascend⟩
  have made : plan.decisions s = t := Table.ofList_entries t
  rw [made, Table.keys, List.map_map]
  rfl

/-- The datacenter that a pass brings up is the first one that is not ready. -/
theorem firstUnready_of_make {spec : Spec} {cluster : Identity} {log : List (Entry Regions.Reply)}
    {dc : String} (made : (make spec cluster s).run.Ends log (.ok (initializing dc))) :
    FirstUnready s dc := by
  cases among : spec.multiRegion with
  | false =>
    rw [make, if_neg (by simp [among])] at made
    exact ofRegion_eq_initializing_iff.1 (Except.ok.inj made.2).symm
  | true =>
    obtain ⟨told, plan, -⟩ := ends_make among made
    exact (ofRegions_eq_initializing_iff.1 plan.symm).2

/-- A member that is neither ready nor a seed, and may run. -/
structure Starts (plan : Plan) (s : Snapshot) (m : Member) : Prop where
  isMember : m ∈ s.members
  notReady : m.ready = false
  notSeed : m.seed = false
  runs : (plan.decisions s).get? m.name = some .run

/-- How a plan that has not converged orders the start of members. -/
structure Exclusive (plan : Plan) (s : Snapshot) : Prop where
  /-- There is one decision for each member. -/
  decided : (plan.decisions s).keys = s.members.map (·.name)
  /-- At most one member starts that is no seed. -/
  alone : plan ≠ converged → ∀ m n, Starts plan s m → Starts plan s n → m = n
  /-- It is of the datacenter that is brought up, before which all are ready. All seeds of this
      one are ready, and it has the least name of the others that are not. -/
  first : plan ≠ converged → ∀ m, Starts plan s m → plan = initializing m.dc ∧
    FirstUnready s m.dc ∧
    (∀ n ∈ s.members, n.dc = m.dc → n.seed = true → n.ready = true) ∧
    ∀ n ∈ s.members, n.dc = m.dc → n.seed = false → n.ready = false → m.name ≤ n.name
  /-- While a seed of the datacenter that is brought up is not ready, only its seeds run. -/
  seedsFirst : ∀ dc, plan = initializing dc →
    (∃ seed ∈ s.members, seed.dc = dc ∧ seed.seed = true ∧ seed.ready = false) →
    ∀ n ∈ s.members, n.dc = dc →
      (plan.decisions s).get? n.name = some (if n.seed then .run else .pause .seedNodes)
  elsewhere : ∀ dc, plan = initializing dc → ∀ n ∈ s.members, n.dc ≠ dc →
    (plan.decisions s).get? n.name = some (.pause .otherDatacenters)
  paused : ∀ next, plan = regionPaused next → ∀ n ∈ s.members,
    (plan.decisions s).get? n.name = some (.pause .otherRegions)

section

variable (ascend : s.members.Pairwise fun a b => a.name < b.name)

include ascend

theorem get?_decisions_of_ascend (hm : m ∈ s.members) (plan : Plan) :
    (plan.decisions s).get? m.name = some (plan.decisionFor s m) :=
  get?_decisions (List.pairwise_map.2 (ascend.imp fun less => String.ne_of_lt less)) hm plan

/-- A member starts in the datacenter that is brought up, once everyone before it is ready. -/
theorem Starts.before (starts : Starts plan s m) (open' : plan ≠ converged) :
    plan = initializing m.dc ∧ ∀ n ∈ s.members, n.dc = m.dc →
      n.seed = true ∨ n.name < m.name → n.ready = true := by
  have runs := starts.runs
  rw [get?_decisions_of_ascend ascend starts.isMember, Option.some_inj] at runs
  cases plan with
  | converged => exact absurd rfl open'
  | regionPaused next => cases runs
  | initializing dc =>
    obtain ⟨rfl, before⟩ := (decisionFor_waiting_eq_run_iff ascend starts.isMember starts.notReady
      starts.notSeed).1 runs
    exact ⟨rfl, before⟩

theorem Starts.le (starts : Starts plan s m) (open' : plan ≠ converged) {n : Member}
    (hn : n ∈ s.members) (here : n.dc = m.dc) (notReady : n.ready = false) : m.name ≤ n.name := by
  refine String.not_lt.1 fun less => ?_
  have ready := (starts.before ascend open').2 n hn here (.inr less)
  rw [notReady] at ready
  cases ready

/-- Of two members that start, neither comes before the other. -/
theorem Starts.unique {n : Member} (starts : Starts plan s m) (starts' : Starts plan s n)
    (open' : plan ≠ converged) : m = n := by
  have same : m.dc = n.dc := initializing.inj
    ((starts.before ascend open').1.symm.trans (starts'.before ascend open').1)
  exact Snapshot.eq_of_ascend ascend starts.isMember starts'.isMember <| String.le_antisymm
    (starts.le ascend open' starts'.isMember same.symm starts'.notReady)
    (starts'.le ascend open' starts.isMember same starts.notReady)

/-- Where names ascend, a plan that brings up the first datacenter that is not ready keeps the
    order. -/
theorem exclusive_of_ascend (brings : ∀ dc, plan = initializing dc → FirstUnready s dc) :
    Exclusive plan s where
  decided := keys_decisions ascend plan
  alone open' m n starts starts' := starts.unique ascend starts' open'
  first open' m starts := by
    obtain ⟨here, before⟩ := starts.before ascend open'
    refine ⟨here, brings m.dc here, fun n hn same seed => before n hn same (.inl seed), ?_⟩
    exact fun n hn same _ notReady => starts.le ascend open' hn same notReady
  seedsFirst := by
    rintro dc rfl ⟨seed, hs, within, isSeed, notReady⟩ n hn here
    have waiting : s.seedsReady dc = false := by
      refine Bool.eq_false_iff.2 fun all => ?_
      rw [(Snapshot.seedsReady_iff hs).1 all seed hs within isSeed] at notReady
      cases notReady
    rw [get?_decisions_of_ascend ascend hn, decisionFor, if_neg (by simp [here]), waiting]
    cases n.seed <;> rfl
  elsewhere := by
    rintro dc rfl n hn other
    rw [get?_decisions_of_ascend ascend hn, decisionFor, if_pos other]
  paused := by
    rintro next rfl n hn
    exact get?_decisions_of_ascend ascend hn _

end

/-- Whatever a pass sees and whatever other regions answer: if its plan has not converged, at most
    one member starts that is no seed. -/
theorem starts_alone {members : List Member} (distinct : (members.map (·.name)).Nodup)
    (datacenters : List DatacenterCount) (changes : List (String × LabelChange)) {spec : Spec}
    {cluster : Identity} {log : List (Entry Regions.Reply)} {plan : Plan}
    (made : (make spec cluster ((Snapshot.of members datacenters).relabeled changes)).run.Ends log
      (.ok plan)) :
    Exclusive plan ((Snapshot.of members datacenters).relabeled changes) := by
  refine exclusive_of_ascend (Snapshot.ascend_relabeled distinct) ?_
  rintro dc rfl
  exact firstUnready_of_make made

/-- A seed that is ready, though no node of its datacenter counts as ready, two other nodes of the
    datacenter, and a node of a datacenter that nobody has declared. -/
def motley : List Member := [⟨"b-2", "", "b", 2, none, none, false, true⟩,
  ⟨"x-0", "", "x", 0, none, none, false, false⟩, ⟨"b-10", "", "b", 10, none, none, false, false⟩,
  ⟨"b-7", "", "b", 7, none, none, true, true⟩]

/-- The node with the ordinal 2 is no longer a seed. The one with the ordinal 10 comes before it,
    and is the only one that starts. -/
theorem starts_alone_motley :
    let s := (Snapshot.of motley [⟨"a", 1, some 1⟩, ⟨"b", 3, some 0⟩]).relabeled [("b-2", .remove)]
    (motley.map (·.name)).Nodup ∧
    (make { datacenters := [] } ⟨"c", "default"⟩ s).run.Ends [] (.ok (initializing "b")) ∧
    Starts (initializing "b") s ⟨"b-10", "", "b", 10, none, none, false, false⟩ ∧
    ∀ m, Starts (initializing "b") s m → m.name = "b-10" := by
  intro s
  have distinct : (motley.map (·.name)).Nodup := by decide
  have plan : ofRegion s = initializing "b" := by decide +kernel
  have made :
      (make { datacenters := [] } ⟨"c", "default"⟩ s).run.Ends [] (.ok (initializing "b")) :=
    plan ▸ ends_make_alone rfl
  have starts : Starts (initializing "b") s ⟨"b-10", "", "b", 10, none, none, false, false⟩ :=
    ⟨by decide +kernel, rfl, rfl, by decide +kernel⟩
  have exclusive := starts_alone distinct _ _ made
  exact ⟨distinct, made, starts,
    fun m starts' => congrArg Member.name (exclusive.alone (by simp) m _ starts' starts)⟩

end Plan

end RingOperator
