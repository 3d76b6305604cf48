import RingOperator.Proofs.Pass.Facts

/-!
# Pods that are not scheduled

A pass looks for what its members need at two places. Before its first call it looks for
their addresses, and if a member is not reached it makes no call. But after its last call
it makes the entries for their start, for which it needs more: the address of each pod
itself, an address that is not empty, and, where racks are asked for, the host
(`Pass.Unentered`). A pass that fails there has told its seeds and its readiness already
(`Pass.unscheduled_exact`, `Pass.told_without_pod_address`).

In between only replies let a pass down, and the pass fails as they do (`Regions.Relays`).
-/

namespace RingOperator

open Dialogue

namespace Regions

variable {α β : Type} {log : List (Entry Reply)} {failure : Failure}

/-- The own prober refuses what it is told, and this is how. -/
def Refused (log : List (Entry Reply)) (failure : Failure) : Prop :=
  (∃ seeds, ⟨.publishSeeds seeds, .error failure⟩ ∈ log) ∨
    ∃ ready, ⟨.publishReady ready, .error failure⟩ ∈ log

/-- A part of a pass fails just as its prober does, or because another region is not ready. -/
structure Relays (exchange : Exchange α) : Prop where
  failed : ∀ {log failure}, exchange.run.Ends log (.error failure) →
    Refused log failure ∨ ∃ region, failure = .regionNotReady region
  refused : ∀ {log result failure}, exchange.run.Ends log result → Refused log failure →
    result = .error failure

theorem refused_append {log' : List (Entry Reply)} :
    Refused (log ++ log') failure ↔ Refused log failure ∨ Refused log' failure := by
  simp only [Refused, List.mem_append]
  grind

theorem Relays.pure (a : α) : Relays (pure a) where
  failed h := by cases h.2
  refused h refused := by
    obtain ⟨rfl, -⟩ := h
    simp [Refused] at refused

theorem Relays.bind {exchange : Exchange α} {f : α → Exchange β} (first : Relays exchange)
    (second : ∀ a, Relays (f a)) : Relays (exchange >>= f) where
  failed h := by
    obtain ⟨failure, failed, ⟨⟩⟩ | ⟨log, log', a, rfl, -, goesOn⟩ := ends_bind_except.1 h
    · exact first.failed failed
    · exact ((second a).failed goesOn).imp_left fun refused => refused_append.2 (.inr refused)
  refused h refused := by
    obtain ⟨failure, failed, rfl⟩ | ⟨log, log', a, rfl, begins, goesOn⟩ := ends_bind_except.1 h
    · cases first.refused failed refused
      rfl
    · rcases refused_append.1 refused with refused | refused
      · cases first.refused begins refused
      · exact (second a).refused goesOn refused

theorem relays_publishSeeds (seeds : List String) : Relays (publishSeeds seeds) where
  failed h := by
    obtain rfl := ends_publishSeeds.1 h
    exact .inl (.inl ⟨seeds, List.mem_cons_self⟩)
  refused h refused := by
    obtain rfl := ends_publishSeeds.1 h
    obtain ⟨_, hm⟩ | ⟨_, hm⟩ := refused
    · cases List.mem_singleton.1 hm
      rfl
    · cases List.mem_singleton.1 hm

theorem relays_publishReady (ready : Bool) : Relays (publishReady ready) where
  failed h := by
    obtain rfl := ends_publishReady.1 h
    exact .inl (.inr ⟨ready, List.mem_cons_self⟩)
  refused h refused := by
    obtain rfl := ends_publishReady.1 h
    obtain ⟨_, hm⟩ | ⟨_, hm⟩ := refused
    · cases List.mem_singleton.1 hm
    · cases List.mem_singleton.1 hm
      rfl

/-- A part that tells nothing and fails only if answers cannot be joined. -/
theorem relays_joined {ask : String → Dialogue Ask Reply (Option α)} {exchange : Exchange β}
    {regions : List String} {calls : List Ask} (follows : Follows exchange calls)
    (untold : ∀ request ∈ calls, (∀ seeds, request ≠ .publishSeeds seeds) ∧
      ∀ ready, request ≠ .publishReady ready) (f : List (String × α) → β)
    (is : exchange = ExceptT.lift (askAll ask regions) >>= fun answers =>
      (liftM (joined answers : Outcome _) : Exchange _) >>= fun values => Pure.pure (f values)) :
    Relays exchange where
  failed h := by
    rw [is] at h
    obtain ⟨_, _, answers, rfl, -, h⟩ := ends_bind_lift.1 h
    obtain ⟨failure, failed, -, ⟨⟩⟩ | ⟨_, _, _, ⟨⟩⟩ := ends_bind_outcome.1 h
    exact .inr ((mem_of_joined_eq_error failed).imp fun _ lacking => lacking.2)
  refused h refused := by
    obtain ⟨seeds, hm⟩ | ⟨ready, hm⟩ := refused
    · exact absurd rfl ((untold _ ((follows.begun h).subset (List.mem_map_of_mem hm))).1 seeds)
    · exact absurd rfl ((untold _ ((follows.begun h).subset (List.mem_map_of_mem hm))).2 ready)

theorem relays_seeds (regions : List String) : Relays (seeds regions) :=
  relays_joined (follows_seeds regions) (by simp) (·.map (·.2)) rfl

theorem relays_readiness (regions : List String) : Relays (readiness regions) :=
  relays_joined (follows_readiness regions) (by simp) Table.ofList rfl

end Regions

namespace Pass

open Regions (Favourable Relays Refused)

variable {spec : Spec} {cluster : Identity} {s : Snapshot} {directory : Directory}
  {addresses memory : Table String} {log : List (Entry Regions.Reply)} {what : String}
  {result : Outcome PassFacts}

theorem relays_gather (own : List String) : Relays (gather spec cluster own) := by
  unfold gather
  split
  · exact (Regions.relays_seeds _).bind fun _ => Relays.pure _
  · exact Relays.pure own

theorem relays_make : Relays (Plan.make spec cluster s) := by
  unfold Plan.make
  split
  · exact (Regions.relays_readiness _).bind fun _ => Relays.pure _
  · exact Relays.pure _

/-- So does a whole pass between the addresses and the entries. -/
theorem relays_talk : Relays (talk spec cluster s addresses) := by
  refine Relays.bind (allSeeds_eq ▸ (Regions.relays_publishSeeds _).bind fun _ => relays_gather _)
    fun seeds => ?_
  exact (Regions.relays_publishReady _).bind fun _ => relays_make.bind fun plan => Relays.pure _

theorem ne_nil_of_ends_talk {outcome : Outcome (List String × Plan)}
    (h : (talk spec cluster s addresses).run.Ends log outcome) : log ≠ [] := by
  rw [talk, allSeeds_eq, bind_assoc] at h
  obtain ⟨failure, told, -⟩ | ⟨first, _, _, rfl, told, -⟩ := ends_bind_except.1 h
  · rw [Regions.ends_publishSeeds.1 told]
    exact List.cons_ne_nil _ _
  · rw [Regions.ends_publishSeeds.1 told]
    exact List.cons_ne_nil _ _

/-! ## Entries that cannot be made -/

/-- A member has no entry for its start: its pod has no address, the address that it is reached at
    is empty, or its host is not known and racks are asked for. -/
def Unentered (spec : Spec) (directory : Directory) (addresses : Table String) (m : Member) :
    Prop :=
  m.podIp = none ∨ addresses.get? m.name = some "" ∨
    spec.zonesAsRacks = true ∧ ∀ host, ¬ directory.Knows m host

theorem exists_decision {m : Member} (hm : m ∈ s.members) (plan : Plan) :
    ∃ decision, (plan.decisions s).get? m.name = some decision :=
  Table.mem_keys_iff.1 (Plan.mem_keys_decisions.2 (List.mem_map_of_mem hm))

variable {seeds : List String} {decisions : Table Decision} {m : Member}

/-- An entry that cannot be made fails for the pod. -/
theorem unscheduled_of_factsOf {decision : Decision} {failure : Failure}
    (decided : decisions.get? m.name = some decision)
    (h : StartSheet.factsOf spec directory addresses seeds decisions memory m = .error failure) :
    ∃ what, failure = .podNotScheduled what := by
  cases pod : m.podIp with
  | none =>
    simp only [StartSheet.factsOf, pod] at h
    cases h
    exact ⟨_, rfl⟩
  | some rpc =>
  cases filled : StartSheet.filled? addresses m.name with
  | none =>
    simp only [StartSheet.factsOf, pod, filled] at h
    cases h
    exact ⟨_, rfl⟩
  | some broadcast =>
    rw [StartSheet.factsOf_eq pod filled decided] at h
    split at h
    · rw [Directory.host] at h
      split at h
      · cases h
        exact ⟨_, rfl⟩
      · split at h
        · cases h
          exact ⟨_, rfl⟩
        · cases h
    · cases h

theorem unentered_iff (reached : directory.addresses s.members = .ok addresses)
    (hm : m ∈ s.members) (plan : Plan) : Unentered spec directory addresses m ↔
      ¬ ∃ facts, StartSheet.factsOf spec directory addresses seeds (plan.decisions s) memory m =
        .ok facts := by
  obtain ⟨address, found⟩ := Directory.exists_get?_addresses reached hm
  have pod : m.podIp = none ↔ ¬ ∃ own, m.podIp = some own := by
    cases m.podIp <;> simp
  simp only [StartSheet.exists_factsOf_iff, Directory.host_eq_ok_iff, exists_decision hm plan,
    found, Unentered, pod]
  grind

/-- A pass that was told everything fails only for a pod, and just if some member has no entry. -/
theorem unscheduled_of_conclude {told : List String × Plan}
    (reached : directory.addresses s.members = .ok addresses) :
    (∃ what, conclude spec s directory addresses memory told = .error (.podNotScheduled what)) ↔
      ∃ m ∈ s.members, Unentered spec directory addresses m := by
  have entered : (∃ sheet, StartSheet.build spec s directory addresses told.1 (told.2.decisions s)
      (StartSheet.remember memory s addresses) = .ok sheet) ↔
        ¬ ∃ m ∈ s.members, Unentered spec directory addresses m := by
    rw [StartSheet.exists_build_iff, not_exists]
    refine forall_congr' fun m => ?_
    rw [not_and]
    refine forall_congr' fun hm => ?_
    rw [unentered_iff reached hm told.2, Classical.not_not]
  unfold conclude
  cases built : StartSheet.build spec s directory addresses told.1 (told.2.decisions s)
      (StartSheet.remember memory s addresses) with
  | ok sheet =>
    have all := entered.1 ⟨sheet, built⟩
    simp [Except.map, all]
  | error failure =>
    rw [built] at entered
    obtain ⟨m, hm, failed⟩ := exists_of_table_eq_error built
    obtain ⟨decision, decided⟩ := exists_decision hm told.2
    obtain ⟨what, rfl⟩ := unscheduled_of_factsOf decided failed
    have lacking : ∃ m ∈ s.members, Unentered spec directory addresses m := by
      refine Classical.byContradiction fun all => ?_
      obtain ⟨sheet, ⟨⟩⟩ := entered.2 all
    simp [Except.map, lacking]

/-- A pass makes no call just if some member is not reached. Once it has made one, it fails for a
    pod that is not scheduled in two cases only: the own prober refuses what it is told for this
    reason, or everything was told and asked, all replies were favourable, and then some member
    has no entry for its start. -/
theorem unscheduled_exact (h : (facts spec cluster s directory memory).run.Ends log result) :
    (log = [] ↔ ∃ m ∈ s.members, ∀ address, ¬ directory.Reaches m address) ∧
    (log ≠ [] → ((∃ what, result = .error (.podNotScheduled what)) ↔
      (∃ what, Refused log (.podNotScheduled what)) ∨
      ∃ addresses, directory.addresses s.members = .ok addresses ∧
        log.map (·.1) = calls spec cluster s addresses ∧ (∀ e ∈ log, Favourable e) ∧
          ∃ m ∈ s.members, Unentered spec directory addresses m)) := by
  obtain ⟨failure, failed, rfl, rfl⟩ | ⟨addresses, reached, h⟩ := ends_facts.1 h
  · refine ⟨iff_of_true rfl ?_, fun asked => absurd rfl asked⟩
    refine Classical.byContradiction fun all => ?_
    obtain ⟨addresses, found⟩ := Directory.exists_addresses_iff.2 (by simpa using all)
    cases failed.symm.trans found
  have all := Directory.exists_addresses_iff.1 ⟨addresses, reached⟩
  have asked : log ≠ [] := h.elim (fun ⟨_, failed, _⟩ => ne_nil_of_ends_talk failed)
    fun ⟨_, talked, _⟩ => ne_nil_of_ends_talk talked
  refine ⟨iff_of_false asked fun ⟨m, hm, unreached⟩ => ?_, fun _ => ?_⟩
  · obtain ⟨address, reaches⟩ := all m hm
    exact unreached address reaches
  obtain ⟨failure, failed, rfl⟩ | ⟨told, talked, rfl⟩ := h
  -- A reply lets the pass down, so it is not favourable.
  · constructor
    · rintro ⟨what, ⟨⟩⟩
      obtain refused | ⟨region, ⟨⟩⟩ := relays_talk.failed failed
      exact .inl ⟨what, refused⟩
    · rintro (⟨what, refused⟩ | ⟨_, _, _, good, _⟩)
      · cases relays_talk.refused failed refused
        exact ⟨what, rfl⟩
      · obtain ⟨_, ⟨⟩⟩ := (follows_talk.succeeds failed).2 good
  -- Everything was told and asked, so nothing was refused.
  · rw [unscheduled_of_conclude reached]
    constructor
    · exact fun unentered => .inr ⟨addresses, reached, follows_talk.complete talked,
        (follows_talk.succeeds talked).1 ⟨told, rfl⟩, unentered⟩
    · rintro (⟨what, refused⟩ | ⟨_, reached', _, _, unentered⟩)
      · cases relays_talk.refused talked refused
      · cases reached.symm.trans reached'
        exact unentered

/-! ## A pod without address, and a host that is not known -/

/-- One node, in a rack. -/
def racked : Spec := { datacenters := [⟨"dc", 1⟩], zonesAsRacks := true }

/-- The node has its address, but its host is not known. So the pass fails after it has told its
    seeds and its readiness. -/
theorem unscheduled_exact_racked :
    let log : List (Entry Regions.Reply) :=
      [⟨.publishSeeds ["c-cassandra-dc-0.c-cassandra-dc.default.svc.cluster.local"], .ok ()⟩,
        ⟨.publishReady false, .ok ()⟩]
    (facts racked spanningIdentity starting {} Table.empty).run.Ends log
      (.error (.podNotScheduled "c-cassandra-dc-0 (node n unknown)")) ∧
    ∃ addresses, Directory.addresses {} starting.members = .ok addresses ∧
      log.map (·.1) = calls racked spanningIdentity starting addresses ∧
        ∃ m ∈ starting.members, Unentered racked {} addresses m := by
  intro log
  have ends : (facts racked spanningIdentity starting {} Table.empty).run.Ends log
      (.error (.podNotScheduled "c-cassandra-dc-0 (node n unknown)")) := by
    have own : Seeding.localSeeds racked spanningIdentity
        (Table.ofList [("c-cassandra-dc-0", "10.1.0.1")]) =
          ["c-cassandra-dc-0.c-cassandra-dc.default.svc.cluster.local"] := by
      decide +kernel
    refine ends_facts.2 (.inr ⟨Table.ofList [("c-cassandra-dc-0", "10.1.0.1")], rfl,
      .inr ⟨(["c-cassandra-dc-0.c-cassandra-dc.default.svc.cluster.local"],
        Plan.ofRegion starting), ?_, rfl⟩⟩)
    rw [talk, allSeeds_eq, bind_assoc, own]
    exact ⟨_, _, rfl, _, _, rfl, rfl, rfl⟩
  obtain ⟨what, refused⟩ | ⟨addresses, reached, order, -, unentered⟩ :=
    ((unscheduled_exact ends).2 (List.cons_ne_nil _ _)).1 ⟨_, rfl⟩
  · simp [Refused, log] at refused
  · exact ⟨ends, addresses, reached, order, unentered⟩

/-- One node, on the network of its host. -/
def exposed : Spec := { datacenters := [⟨"dc", 1⟩], hostPort := { enabled := true } }

/-- The node is on a host that is known, but its pod has no address yet. -/
def addressless : Snapshot where
  members := [{ name := "c-cassandra-dc-0", dc := "dc", nodeName := some "n" }]
  datacenters := [⟨"dc", 1, some 0⟩]

/-- So it is not so that nothing was told whenever a pass fails for a pod that is not scheduled. -/
theorem told_without_pod_address :
    ¬ ∀ log what,
      (facts exposed spanningIdentity addressless hosts Table.empty).run.Ends log
        (.error (.podNotScheduled what)) → log = [] := by
  intro untold
  have ends : (facts exposed spanningIdentity addressless hosts Table.empty).run.Ends
      [⟨.publishSeeds ["10.0.0.1"], .ok ()⟩, ⟨.publishReady false, .ok ()⟩]
      (.error (.podNotScheduled "c-cassandra-dc-0")) := by
    have own : Seeding.localSeeds exposed spanningIdentity
        (Table.ofList [("c-cassandra-dc-0", "10.0.0.1")]) = ["10.0.0.1"] := by
      decide +kernel
    refine ends_facts.2 (.inr ⟨Table.ofList [("c-cassandra-dc-0", "10.0.0.1")], rfl,
      .inr ⟨(["10.0.0.1"], Plan.ofRegion addressless), ?_, rfl⟩⟩)
    rw [talk, allSeeds_eq, bind_assoc, own]
    exact ⟨_, _, rfl, _, _, rfl, rfl, rfl⟩
  exact absurd (untold _ _ ends) (List.cons_ne_nil _ _)

end Pass

end RingOperator
