import RingOperator.Pass
import RingOperator.Proofs.Logs
import RingOperator.Proofs.Table

/-!
# What a pass asks of the probers

The logs of a pass. The readiness that it tells is the one of its snapshot,
also if it fails later (`Pass.eq_regionReady_of_told`); if it succeeds, its plan
is one that other regions were asked for in this very pass
(`Pass.ends_make_of_ends_facts`), and it rests on what they answered
(`Plan.ends_make`). Where nodes do not use the network of their hosts, nobody is
asked for anything (`Pass.ends_facts_alone`).
-/

namespace RingOperator

open Dialogue

variable {spec : Spec} {cluster : Identity} {s : Snapshot}

namespace Regions

variable {log : List (Entry Reply)}

@[simp] theorem ends_publishSeeds {seeds : List String} {result : Outcome Unit} :
    (publishSeeds seeds).run.Ends log result ↔ log = [⟨.publishSeeds seeds, result⟩] :=
  ends_once

@[simp] theorem ends_publishReady {ready : Bool} {result : Outcome Unit} :
    (publishReady ready).run.Ends log result ↔ log = [⟨.publishReady ready, result⟩] :=
  ends_once

/-- Every region of a list is asked, in some part of the log. -/
theorem ends_askAll {α : Type} {ask : String → Dialogue Ask Reply α} {regions : List String}
    {answers : List (String × α)} (h : (askAll ask regions).Ends log answers) :
    answers.map (·.1) = regions ∧
      ∀ answer ∈ answers, ∃ part, part ⊆ log ∧ (ask answer.1).Ends part answer.2 := by
  induction regions generalizing log answers with
  | nil =>
    obtain ⟨rfl, rfl⟩ := h
    exact ⟨rfl, by simp⟩
  | cons region rest ih =>
    obtain ⟨first, _, answer, rfl, asked, h⟩ := ends_bind.1 h
    obtain ⟨second, _, more, rfl, askedRest, rfl, rfl⟩ := ends_bind.1 h
    obtain ⟨same, replied⟩ := ih askedRest
    refine ⟨congrArg (region :: ·) same, List.forall_mem_cons.2 ⟨?_, ?_⟩⟩
    · exact ⟨first, List.subset_append_left _ _, asked⟩
    · intro answer hm
      obtain ⟨part, within, asked⟩ := replied answer hm
      refine ⟨part, fun e he => ?_, asked⟩
      simp [within he]

theorem asksOnly_askAll {α : Type} {ask : String → Dialogue Ask Reply α} {q : Ask → Prop}
    (h : ∀ region, (ask region).AsksOnly q) (regions : List String) :
    (askAll ask regions).AsksOnly q := by
  induction regions with
  | nil => exact asksOnly_pure _
  | cons region rest ih => exact (h region).bind fun _ => ih.bind fun _ => asksOnly_pure _

/-- Answers that are joined are all there. -/
theorem eq_of_joined_eq_ok {α : Type} {answers : List (String × Option α)}
    {values : List (String × α)} (h : joined answers = .ok values) :
    answers = values.map fun v => (v.1, some v.2) := by
  induction answers generalizing values with
  | nil =>
    cases h
    rfl
  | cons answer answers ih =>
    obtain ⟨region, _ | value⟩ := answer
    · cases h
    · cases rest : joined answers with
      | error failure =>
        simp only [joined, rest] at h
        cases h
      | ok others =>
        simp only [joined, rest] at h
        cases h
        rw [ih rest]
        rfl

/-- The readiness of regions is told if each of them answers, and it is what they answer. -/
theorem ends_readiness {regions : List String} {told : Table Bool}
    (h : (readiness regions).run.Ends log (.ok told)) :
    (∀ region ∈ regions, ∃ ready, told.get? region = some ready) ∧
      ∀ region ready, told.get? region = some ready →
        region ∈ regions ∧ ⟨.readyOf region, .ok ready⟩ ∈ log := by
  obtain ⟨first, second, answers, rfl, asked, h⟩ := ends_bind_lift.1 h
  obtain ⟨_, _, -, ⟨⟩⟩ | ⟨values, joint, rfl, told⟩ := ends_bind_outcome.1 h
  cases told
  obtain ⟨rfl, replied⟩ := ends_askAll asked
  obtain rfl := eq_of_joined_eq_ok joint
  -- As the answers could be joined, each region has one, and it is the one in the log.
  refine ⟨fun region h => Table.exists_get?_ofList ?_, fun region ready h => ?_⟩
  · simpa [Function.comp_def] using h
  · have given := Table.mem_of_get?_ofList h
    obtain ⟨part, within, reply, _, rfl, rfl, same⟩ := replied _ (List.mem_map_of_mem given)
    refine ⟨List.mem_map.2 ⟨_, List.mem_map_of_mem given, rfl⟩, ?_⟩
    cases reply with
    | error failure => cases same
    | ok answer =>
      cases same
      exact List.mem_append_left _ (within List.mem_cons_self)

/-- Requests other than telling the own readiness. -/
def Ask.Reserved (request : Ask) : Prop := ∀ ready, request ≠ .publishReady ready

/-- While others are asked for their readiness, the own one is not told. -/
theorem asksOnly_readiness (regions : List String) :
    (readiness regions).run.AsksOnly Ask.Reserved := by
  have asked : ∀ region, (readinessOf region).AsksOnly Ask.Reserved :=
    fun region => ⟨by simp [Ask.Reserved], fun _ => trivial⟩
  exact (asksOnly_askAll asked regions).bind_lift fun _ =>
    asksOnly_bind_outcome fun _ => asksOnly_pure _

/-- While others are asked for their seeds, the own readiness is not told. -/
theorem asksOnly_seeds (regions : List String) : (seeds regions).run.AsksOnly Ask.Reserved := by
  have asked : ∀ region, (someSeedsOf region).AsksOnly Ask.Reserved :=
    fun region => ⟨by simp [Ask.Reserved], fun _ => trivial⟩
  exact (asksOnly_askAll asked regions).bind_lift fun _ =>
    asksOnly_bind_outcome fun _ => asksOnly_pure _

/-- Nor is it while the own seeds are told. -/
theorem asksOnly_allSeeds (addresses : Table String) :
    (allSeeds spec cluster addresses).run.AsksOnly Ask.Reserved := by
  have told : (publishSeeds (Seeding.localSeeds spec cluster addresses)).run.AsksOnly
      Ask.Reserved := asksOnly_once (by simp [Ask.Reserved])
  refine told.bind_except fun _ => ?_
  split
  · exact (asksOnly_seeds _).bind_except fun _ => asksOnly_pure _
  · exact asksOnly_pure _

/-- Where nodes do not use the network of their hosts, the own seeds are told, and they are
    all the seeds. -/
theorem ends_allSeeds_alone (alone : spec.hostPort.enabled = false) {addresses : Table String} :
    (allSeeds spec cluster addresses).run.Ends
      [⟨.publishSeeds (Seeding.localSeeds spec cluster addresses), .ok ()⟩]
      (.ok (Seeding.localSeeds spec cluster addresses)) := by
  refine ends_bind_except.2 (.inr ⟨_, [], (), (List.append_nil _).symm, ?_, ?_⟩)
  · exact ends_publishSeeds.2 rfl
  · rw [if_neg (by simp [alone])]
    exact ends_pure.2 ⟨rfl, rfl⟩

end Regions

/-! ## The plan -/

namespace Plan

/-- A region that waits for no other asks nobody. -/
theorem ends_make_alone (alone : spec.multiRegion = false) :
    (make spec cluster s).run.Ends [] (.ok (ofRegion s)) := by
  rw [make, if_neg (by simp [alone])]
  exact ends_pure.2 ⟨rfl, rfl⟩

/-- The plan of one region among several follows from what the others answered in this pass, and
    all of them did. -/
theorem ends_make (among : spec.multiRegion = true) {log : List (Entry Regions.Reply)}
    {plan : Plan} (h : (make spec cluster s).run.Ends log (.ok plan)) :
    ∃ told : Table Bool,
      plan = ofRegions s
        ⟨spec.localRegion cluster, told.insert (spec.localRegion cluster) s.regionReady⟩ ∧
      (∀ region ∈ spec.managedRegions cluster, ∃ ready, told.get? region = some ready) ∧
      ∀ region ready, told.get? region = some ready →
        region ∈ spec.managedRegions cluster ∧ ⟨.readyOf region, .ok ready⟩ ∈ log := by
  rw [make, if_pos among] at h
  obtain ⟨_, -, ⟨⟩⟩ | ⟨first, _, told, rfl, asked, rfl, same⟩ := ends_bind_except.1 h
  cases same
  obtain ⟨replied, heard⟩ := Regions.ends_readiness asked
  exact ⟨told, rfl, replied, by simpa using heard⟩

/-- Every member has the decision that the plan makes for it. -/
theorem get?_decisions (distinct : (s.members.map (·.name)).Nodup) {m : Member}
    (hm : m ∈ s.members) (plan : Plan) :
    (plan.decisions s).get? m.name = some (plan.decisionFor s m) := by
  refine Table.get?_ofList_of_mem ?_ (List.mem_map.2 ⟨m, hm, rfl⟩)
  rwa [List.map_map]

/-- No other decisions are made. -/
theorem mem_keys_decisions {name : String} {plan : Plan} :
    name ∈ (plan.decisions s).keys ↔ name ∈ s.members.map (·.name) := by
  rw [decisions, Table.mem_keys_ofList, List.map_map]
  rfl

theorem asksOnly_make : (make spec cluster s).run.AsksOnly Regions.Ask.Reserved := by
  rw [make]
  split
  · exact (Regions.asksOnly_readiness _).bind_except fun _ => asksOnly_pure _
  · exact asksOnly_pure _

end Plan

/-! ## The pass -/

namespace Pass

variable {directory : Directory} {memory : Table String} {log : List (Entry Regions.Reply)}

/-- Whatever becomes of a pass, the readiness that it tells is the one of its snapshot. -/
theorem eq_regionReady_of_told {result : Outcome PassFacts}
    (h : (facts spec cluster s directory memory).run.Ends log result) {ready : Bool}
    {reply : Outcome Unit} (hm : ⟨.publishReady ready, reply⟩ ∈ log) : ready = s.regionReady := by
  -- One request tells a readiness; everything before and after it leaves that alone.
  have only : (facts spec cluster s directory memory).run.AsksOnly
      fun request => ∀ ready, request = .publishReady ready → ready = s.regionReady := by
    have reserved {α : Type} {part : Regions.Exchange α}
        (h : part.run.AsksOnly Regions.Ask.Reserved) : part.run.AsksOnly
          fun request => ∀ ready, request = .publishReady ready → ready = s.regionReady :=
      h.mono fun request other ready same => absurd same (other ready)
    refine asksOnly_bind_outcome fun addresses => ?_
    refine (reserved (Regions.asksOnly_allSeeds addresses)).bind_except fun seeds => ?_
    refine AsksOnly.bind_except (asksOnly_once (by simp)) fun _ => ?_
    refine (reserved Plan.asksOnly_make).bind_except fun plan => ?_
    exact asksOnly_bind_outcome fun _ => asksOnly_pure _
  exact only.of_ends h _ hm ready rfl

/-- The plan of a pass that succeeds was made in that pass. -/
theorem ends_make_of_ends_facts {found : PassFacts}
    (h : (facts spec cluster s directory memory).run.Ends log (.ok found)) :
    ∃ part, part ⊆ log ∧ (Plan.make spec cluster s).run.Ends part (.ok found.plan) := by
  obtain ⟨_, -, -, ⟨⟩⟩ | ⟨addresses, -, h⟩ := ends_bind_outcome.1 h
  obtain ⟨_, -, ⟨⟩⟩ | ⟨first, _, seeds, rfl, -, h⟩ := ends_bind_except.1 h
  obtain ⟨_, -, ⟨⟩⟩ | ⟨second, _, _, rfl, -, h⟩ := ends_bind_except.1 h
  obtain ⟨_, -, ⟨⟩⟩ | ⟨third, _, plan, rfl, made, h⟩ := ends_bind_except.1 h
  obtain ⟨_, -, -, ⟨⟩⟩ | ⟨sheet, -, rfl, same⟩ := ends_bind_outcome.1 h
  cases same
  exact ⟨third, fun e he => by simp [he], made⟩

/-- Where nodes do not use the network of their hosts, a pass that finds an address for everyone
    and all entries tells its seeds and its readiness, and asks nobody. -/
theorem ends_facts_alone (alone : spec.hostPort.enabled = false) {addresses : Table String}
    {sheet : StartSheet} (reached : directory.addresses s.members = .ok addresses)
    (built : StartSheet.build spec s directory addresses
      (Seeding.localSeeds spec cluster addresses) ((Plan.ofRegion s).decisions s)
      (StartSheet.remember memory s addresses) = .ok sheet) :
    (facts spec cluster s directory memory).run.Ends
      [⟨.publishSeeds (Seeding.localSeeds spec cluster addresses), .ok ()⟩,
        ⟨.publishReady s.regionReady, .ok ()⟩]
      (.ok {
        addresses
        seeds := Seeding.localSeeds spec cluster addresses
        plan := Plan.ofRegion s
        decisions := (Plan.ofRegion s).decisions s
        memory := StartSheet.remember memory s addresses
        sheet }) := by
  have single : spec.multiRegion = false := by simp [Spec.multiRegion, alone]
  refine ends_bind_outcome.2 (.inr ⟨addresses, reached, ?_⟩)
  refine ends_bind_except.2 (.inr ⟨_, _, _, rfl, Regions.ends_allSeeds_alone alone, ?_⟩)
  refine ends_bind_except.2 (.inr ⟨_, _, (), rfl, Regions.ends_publishReady.2 rfl, ?_⟩)
  refine ends_bind_except.2 (.inr ⟨_, [], _, rfl, Plan.ends_make_alone single, ?_⟩)
  exact ends_bind_outcome.2 (.inr ⟨sheet, built, ends_pure.2 ⟨rfl, rfl⟩⟩)

end Pass

end RingOperator
