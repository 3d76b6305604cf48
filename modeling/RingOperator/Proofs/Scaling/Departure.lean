import Mathlib.Data.Finset.Card
import RingOperator.Proofs.Scaling.Safety

/-!
# When a departure is confirmed

The peers of a pod are the other members of declared datacenters (`peersOf`). Those
that have an address are asked for their ring views, and a peer sees the pod gone
(`SeesGone`) if it has an address, answers, and does not count the pod among the live.

As many confirmations are asked for as there are members of declared datacenters, less
one. Of a pod that is one of these members that is every peer. Of a pod whose
datacenter is no longer declared it is one less than there are peers, so one of them
may be silent or disagree (`departure_exact`): a node of such a datacenter is taken
for gone, and its count is lowered, while one peer still counts it among the live
(`confirmed_though_live`).
-/

namespace RingOperator.Scaling

open Dialogue

variable {spec : Spec} {s : Snapshot} {addresses : Table String} {pod address : String}
  {answer : String → Outcome RingView} {members : List Member} {m : Member}
  {log : List (Entry Reply)}

/-! ## What peers answer -/

/-- The questions for the ring views of members, each with what the member answers. A member
    without an address is not asked. -/
def viewsOf (addresses : Table String) (answer : String → Outcome RingView)
    (members : List Member) : List (Entry Reply) :=
  members.filterMap fun m =>
    (addresses.get? m.name).map fun peer => ⟨.ringView peer, answer m.name⟩

/-- A member has an address, answers, and does not count the departed address among the live. -/
def SeesGone (departed : String) (addresses : Table String) (answer : String → Outcome RingView)
    (m : Member) : Prop :=
  ∃ peer view, addresses.get? m.name = some peer ∧ answer m.name = .ok view ∧ departed ∉ view.live

instance (departed : String) : DecidablePred (SeesGone departed addresses answer) := fun m =>
  match located : addresses.get? m.name, answered : answer m.name with
  | none, _ => isFalse (by simp [SeesGone, located])
  | some _, .error _ => isFalse (by simp [SeesGone, answered])
  | some _, .ok view =>
    decidable_of_iff (departed ∉ view.live) (by simp [SeesGone, located, answered])

theorem viewsOf_cons : viewsOf addresses answer (m :: members) =
    viewsOf addresses answer [m] ++ viewsOf addresses answer members :=
  List.filterMap_append (l := [m])

theorem viewsOf_congr {answer' : String → Outcome RingView}
    (same : ∀ m ∈ members, answer m.name = answer' m.name) :
    viewsOf addresses answer members = viewsOf addresses answer' members :=
  List.filterMap_congr fun m hm => by rw [same m hm]

/-- A member confirms a departure if it sees the address gone. -/
theorem ends_confirms_viewsOf (answer : String → Outcome RingView) (m : Member) :
    (confirms address addresses m).Ends (viewsOf addresses answer [m])
      (SeesGone address addresses answer m) := by
  rw [confirms, viewsOf]
  cases located : addresses.get? m.name with
  | none => exact ⟨by simp [located], by simp [SeesGone, located]⟩
  | some peer =>
    refine ⟨answer m.name, [], by simp [located], ?_⟩
    cases answered : answer m.name with
    | error failure => exact ⟨rfl, by simp [SeesGone, answered]⟩
    | ok view => exact ⟨rfl, by simp [SeesGone, located, answered]⟩

theorem exists_answer_of_ends_confirms {confirmed : Bool}
    (h : (confirms address addresses m).Ends log confirmed) :
    ∃ reply, log = viewsOf addresses (fun _ => reply) [m] := by
  rw [confirms] at h
  cases located : addresses.get? m.name with
  | none =>
    rw [located] at h
    exact ⟨.error (.timeout ""), by simp [h.1, viewsOf, located]⟩
  | some peer =>
    rw [located] at h
    obtain ⟨reply, rest, rfl, h⟩ := h
    refine ⟨reply, ?_⟩
    cases reply <;> simp [h.1, viewsOf, located]

/-- As many confirmations are counted as there are members that see the address gone. -/
theorem ends_confirmations_viewsOf (answer : String → Outcome RingView) (members : List Member) :
    (confirmations address addresses members).Ends (viewsOf addresses answer members)
      (members.countP (SeesGone address addresses answer)) := by
  induction members with
  | nil => exact ⟨rfl, rfl⟩
  | cons m rest ih =>
    rw [viewsOf_cons, confirmations, ends_bind]
    refine ⟨_, _, _, rfl, ends_confirms_viewsOf answer m,
      ends_bind.2 ⟨_, [], _, by simp, ih, rfl, ?_⟩⟩
    rw [List.countP_cons, Nat.add_comm]

/-- Members of different names can each be told to have given an answer. -/
theorem exists_answer_of_ends_confirmations (distinct : (members.map (·.name)).Nodup) {count : Nat}
    (h : (confirmations address addresses members).Ends log count) :
    ∃ answer, log = viewsOf addresses answer members := by
  induction members generalizing log count with
  | nil => exact ⟨fun _ => .error (.timeout ""), h.1⟩
  | cons m rest ih =>
    obtain ⟨fresh, distinct⟩ := List.nodup_cons.1 distinct
    obtain ⟨first, _, _, rfl, asked, h⟩ := ends_bind.1 h
    obtain ⟨second, _, _, rfl, askedRest, rfl, -⟩ := ends_bind.1 h
    obtain ⟨reply, rfl⟩ := exists_answer_of_ends_confirms asked
    obtain ⟨answer, rfl⟩ := ih distinct askedRest
    refine ⟨Function.update answer m.name reply, ?_⟩
    rw [List.append_nil, @viewsOf_cons addresses _ rest m]
    refine congrArg₂ _ (viewsOf_congr ?_) (viewsOf_congr fun other ho => ?_)
    · simp
    · rw [Function.update_of_ne]
      exact fun same => fresh (List.mem_map.2 ⟨other, ho, same⟩)

/-! ## How many have to confirm -/

theorem nodup_declaredMembers (distinct : (s.members.map (·.name)).Nodup) :
    ((declaredMembers spec s).map (·.name)).Nodup :=
  distinct.sublist (List.filter_sublist.map _)

/-- The members of declared datacenters are the peers of a pod and, if its own datacenter is
    declared, the pod itself. -/
theorem length_declaredMembers (distinct : (s.members.map (·.name)).Nodup) (pod : String) :
    (declaredMembers spec s).length = (peersOf spec s pod).length +
      if pod ∈ (declaredMembers spec s).map (·.name) then 1 else 0 := by
  have own : (declaredMembers spec s).countP (·.name = pod) =
      ((declaredMembers spec s).map (·.name)).count pod := by
    rw [List.count, List.countP_map]
    rfl
  rw [peersOf, ← List.countP_eq_length_filter, List.length_eq_countP_add_countP (·.name = pod), own,
    (nodup_declaredMembers distinct).count, Nat.add_comm]
  simp

/-- All but at most one element of a list have a property. -/
theorem length_le_countP_succ_iff {α : Type} [DecidableEq α] {l : List α} (distinct : l.Nodup)
    {p : α → Prop} [DecidablePred p] :
    l.length ≤ l.countP p + 1 ↔ ∀ a ∈ l, p a ∨ ∀ b ∈ l, b ≠ a → p b := by
  have card : l.countP (¬ p ·) = (l.filter (¬ p ·)).toFinset.card := by
    rw [List.toFinset_card_of_nodup (distinct.filter _), List.countP_eq_length_filter]
  have few : l.length ≤ l.countP p + 1 ↔ l.countP (¬ p ·) ≤ 1 := by
    have split := l.length_eq_countP_add_countP (p ·)
    simp only [decide_eq_true_eq] at split
    omega
  rw [few, card, Finset.card_le_one]
  simp only [List.mem_toFinset, List.mem_filter, decide_eq_true_eq, and_imp]
  constructor
  · intro alone a ha
    refine or_iff_not_imp_left.2 fun lacks b hb other => ?_
    exact Decidable.byContradiction fun lacks' => other (alone b hb lacks' a ha lacks)
  · intro each a ha lacks b hb lacks'
    refine Decidable.byContradiction fun other => lacks' ?_
    exact (each a ha).resolve_left lacks b hb (Ne.symm other)

/-- As many of the peers have a property as there are members of declared datacenters, less one,
    just if all have it, or all but one and the pod is none of these members. -/
theorem enough_iff (distinct : (s.members.map (·.name)).Nodup) {p : Member → Prop}
    [DecidablePred p] :
    (declaredMembers spec s).length - 1 ≤ (peersOf spec s pod).countP p ↔
      ∀ m ∈ peersOf spec s pod, p m ∨ (∀ own ∈ declaredMembers spec s, own.name ≠ pod) ∧
        ∀ n ∈ peersOf spec s pod, n ≠ m → p n := by
  have unlike : (peersOf spec s pod).Nodup :=
    ((nodup_declaredMembers distinct).of_map _).filter _
  have declared : pod ∈ (declaredMembers spec s).map (·.name) ↔
      ¬ ∀ own ∈ declaredMembers spec s, own.name ≠ pod := by
    simp
  rw [length_declaredMembers distinct pod]
  by_cases here : pod ∈ (declaredMembers spec s).map (·.name)
  · rw [if_pos here, Nat.add_sub_cancel]
    simp only [declared.1 here, false_and, or_false]
    rw [List.countP_le_length.ge_iff_eq, List.countP_eq_length]
    simp only [decide_eq_true_eq]
  · rw [if_neg here, Nat.add_zero, Nat.sub_le_iff_le_add, length_le_countP_succ_iff unlike]
    have elsewhere := Decidable.not_not.1 (mt declared.2 here)
    simp only [and_iff_right elsewhere]

/-! ## When it is confirmed -/

theorem ends_departureConfirmed_viewsOf (answer : String → Outcome RingView) :
    (departureConfirmed spec pod address s addresses).Ends
      (viewsOf addresses answer (peersOf spec s pod))
      ((declaredMembers spec s).length - 1 ≤
        (peersOf spec s pod).countP (SeesGone address addresses answer)) :=
  ends_bind.2 ⟨_, [], _, (List.append_nil _).symm, ends_confirmations_viewsOf answer _, rfl, rfl⟩

/-- Whatever the peers of a pod answer, its departure is confirmed if all of them see it gone, or
    all but one, where its own datacenter is not declared. -/
theorem departure_exact (distinct : (s.members.map (·.name)).Nodup) {confirmed : Bool} :
    (departureConfirmed spec pod address s addresses).Ends log confirmed ↔
      ∃ answer, log = viewsOf addresses answer (peersOf spec s pod) ∧
        (confirmed = true ↔ ∀ m ∈ peersOf spec s pod, SeesGone address addresses answer m ∨
          (∀ own ∈ declaredMembers spec s, own.name ≠ pod) ∧
            ∀ n ∈ peersOf spec s pod, n ≠ m → SeesGone address addresses answer n) := by
  have unlike : ((peersOf spec s pod).map (·.name)).Nodup :=
    (nodup_declaredMembers distinct).sublist (List.filter_sublist.map _)
  constructor
  · intro h
    obtain ⟨first, _, count, rfl, asked, rfl, -⟩ := ends_bind.1 h
    obtain ⟨answer, rfl⟩ := exists_answer_of_ends_confirmations unlike asked
    refine ⟨answer, List.append_nil _, ?_⟩
    rw [List.append_nil] at h
    rw [h.unique (ends_departureConfirmed_viewsOf answer), decide_eq_true_eq, enough_iff distinct]
  · rintro ⟨answer, rfl, exact⟩
    rw [← enough_iff distinct, ← decide_eq_true_eq (p := _ ≤ _), ← Bool.eq_iff_iff] at exact
    exact exact ▸ ends_departureConfirmed_viewsOf answer

/-! ## A datacenter that is no longer declared -/

/-- One datacenter of two nodes. -/
def kept : Spec := { datacenters := [⟨"dc1", 2⟩] }

/-- The two nodes, and one of a datacenter that is no longer declared. -/
def draining : Snapshot where
  members := [⟨"c-cassandra-dc1-0", "", "dc1", 0, none, none, true, true⟩,
    ⟨"c-cassandra-dc1-1", "", "dc1", 1, none, none, true, false⟩,
    ⟨"c-cassandra-dc2-0", "", "dc2", 0, none, none, true, false⟩]
  datacenters := [⟨"dc1", 2, some 2⟩]

/-- Where the three nodes are. -/
def drainingAt : Table String := Table.ofList [("c-cassandra-dc1-0", "10.0.1.0"),
  ("c-cassandra-dc1-1", "10.0.1.1"), ("c-cassandra-dc2-0", "10.0.2.0")]

/-- The datacenter that is no longer declared, with its one node. -/
def drained (version : String) : Intent := ⟨"dc2", "c-cassandra-dc2", 1, none, version⟩

theorem target_drained (version : String) : (drained version).target "c" = "c-cassandra-dc2-0" := by
  have last : Naming.pod "c" "dc2" (1 - 1) = "c-cassandra-dc2-0" := by decide +kernel
  exact last

/-- Where its peers confirm that the node has left, as it says itself, the count is lowered. -/
theorem ends_step_drained {now : Instant} {version : String} {intents : List Intent}
    {views : List (Entry Reply)}
    (first : intents.find? (·.isDue draining) = some (drained version))
    (confirmed : (departureConfirmed kept "c-cassandra-dc2-0" "10.0.2.0" draining drainingAt).Ends
      views true) :
    (step now "c" kept draining drainingAt intents).run.Ends
      (⟨.job (.get "pod-decommission-c-cassandra-dc2-0"), .ok none⟩ ::
        ⟨.mode "10.0.2.0", .ok .decommissioned⟩ :: (views ++
        [⟨.setReplicas "c-cassandra-dc2" 0 version, .ok ()⟩,
          ⟨.job (.get "pod-decommission-c-cassandra-dc2-0"), .ok none⟩]))
      (.ok (.scaledDown "dc2" 0)) := by
  have isMember : ∃ m ∈ draining.members, m.name = "c-cassandra-dc2-0" := by decide +kernel
  have located : drainingAt.get? "c-cassandra-dc2-0" = some "10.0.2.0" := by decide +kernel
  have job : Naming.job "c-cassandra-dc2-0" = "pod-decommission-c-cassandra-dc2-0" := by
    decide +kernel
  rw [← target_drained version] at isMember located confirmed job
  have left := @ends_lower_of_gone now "c" kept draining drainingAt (drained version) "10.0.2.0"
    (.ok .decommissioned) views (by simp) isMember located confirmed
  rw [job] at left
  rwa [step_of_lowers first rfl]

/-- What the first node answers, and the second one. -/
def answering (first second : Outcome RingView) (name : String) : Outcome RingView :=
  if name = "c-cassandra-dc1-0" then first else second

theorem viewsOf_answering (first second : Outcome RingView) :
    viewsOf drainingAt (answering first second) (peersOf kept draining "c-cassandra-dc2-0") =
      [⟨.ringView "10.0.1.0", first⟩, ⟨.ringView "10.0.1.1", second⟩] := by
  have peers : peersOf kept draining "c-cassandra-dc2-0" = draining.members.take 2 := by
    decide +kernel
  have located : drainingAt.get? "c-cassandra-dc1-0" = some "10.0.1.0" := by decide +kernel
  have located' : drainingAt.get? "c-cassandra-dc1-1" = some "10.0.1.1" := by decide +kernel
  rw [peers]
  simp [viewsOf, draining, located, located', answering]

/-- The second node is silent. So the first one is not found to have left, but the node of the
    datacenter that is no longer declared is. -/
theorem departure_exact_silent :
    (draining.members.map (·.name)).Nodup ∧
    (departureConfirmed kept "c-cassandra-dc1-0" "10.0.1.0" draining drainingAt).Ends
      [⟨.ringView "10.0.1.1", .error (.timeout "")⟩] false ∧
    (departureConfirmed kept "c-cassandra-dc2-0" "10.0.2.0" draining drainingAt).Ends
      [⟨.ringView "10.0.1.0", .ok {}⟩, ⟨.ringView "10.0.1.1", .error (.timeout "")⟩] true := by
  have distinct : (draining.members.map (·.name)).Nodup := by decide
  have peers : peersOf kept draining "c-cassandra-dc1-0" = [draining.members[1]] := by
    decide +kernel
  have located : drainingAt.get? "c-cassandra-dc1-1" = some "10.0.1.1" := by decide +kernel
  refine ⟨distinct, (departure_exact distinct).2 ⟨fun _ => .error (.timeout ""), ?_, ?_⟩,
    (departure_exact distinct).2
      ⟨answering (.ok {}) (.error (.timeout "")), (viewsOf_answering _ _).symm, ?_⟩⟩
  · rw [peers]
    simp [viewsOf, draining, located]
  · decide +kernel
  · decide +kernel

/-- The second node still counts the node of the datacenter that is no longer declared among the
    live. Nevertheless that is found to have left, and the count is lowered. -/
theorem confirmed_though_live :
    let views : List (Entry Reply) := [⟨.ringView "10.0.1.0", .ok {}⟩,
      ⟨.ringView "10.0.1.1", .ok { live := ["10.0.2.0"] }⟩]
    (∃ m ∈ peersOf kept draining "c-cassandra-dc2-0", ¬ SeesGone "10.0.2.0" drainingAt
      (answering (.ok {}) (.ok { live := ["10.0.2.0"] })) m) ∧
    (departureConfirmed kept "c-cassandra-dc2-0" "10.0.2.0" draining drainingAt).Ends views true ∧
    (step ⟨0, 0⟩ "c" kept draining drainingAt [⟨"dc2", "c-cassandra-dc2", 1, none, "1"⟩]).run.Ends
      (⟨.job (.get "pod-decommission-c-cassandra-dc2-0"), .ok none⟩ ::
        ⟨.mode "10.0.2.0", .ok .decommissioned⟩ :: views ++
        [⟨.setReplicas "c-cassandra-dc2" 0 "1", .ok ()⟩,
          ⟨.job (.get "pod-decommission-c-cassandra-dc2-0"), .ok none⟩])
      (.ok (.scaledDown "dc2" 0)) := by
  intro views
  have confirmed :
      (departureConfirmed kept "c-cassandra-dc2-0" "10.0.2.0" draining drainingAt).Ends views
        true := by
    have enough : (declaredMembers kept draining).length - 1 ≤
        (peersOf kept draining "c-cassandra-dc2-0").countP (SeesGone "10.0.2.0" drainingAt
          (answering (.ok {}) (.ok { live := ["10.0.2.0"] }))) := by
      decide +kernel
    have ends := @ends_departureConfirmed_viewsOf kept draining drainingAt "c-cassandra-dc2-0"
      "10.0.2.0" (answering (.ok {}) (.ok { live := ["10.0.2.0"] }))
    rwa [decide_eq_true enough, viewsOf_answering] at ends
  refine ⟨by decide +kernel, confirmed, ?_⟩
  exact ends_step_drained rfl confirmed

end RingOperator.Scaling
