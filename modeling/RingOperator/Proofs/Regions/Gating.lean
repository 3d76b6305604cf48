import RingOperator.Proofs.Pass.Facts
import RingOperator.Proofs.Regions.Plan

/-!
# What a plan depends on

The plan of a pass is told by the counts of the own datacenters and by what other
regions answer, where each of them answers the same way whenever it is asked
(`Regions.Steady`). `Plan.Gated` says which plan it is, or that there is none:

* there is none just if the cluster spans regions and one of the others cannot be
  asked;
* it has converged just if every datacenter has as many ready nodes as it should;
* otherwise it waits for the least region that goes first, i.e., that comes before
  the own one and is not ready, and if there is none, it brings up the first
  datacenter that is not ready.

An answer under the identifier of the own region plays no part, and the readiness
that a pass has told is the one by which its plan has converged or not
(`Plan.gating_exact`).
-/

namespace RingOperator

open Dialogue

variable {σ : Type}

/-! ## Answers that do not change -/

namespace Regions

/-- Whenever a region is asked for its readiness, it answers in one way. -/
def Steady (serve : (request : Ask) → σ → Reply request × σ) (answer : String → Outcome Bool) :
    Prop :=
  ∀ region st, (serve (.readyOf region) st).1 = answer region

variable {serve : (request : Ask) → σ → Reply request × σ} {answer : String → Outcome Bool}

theorem run_askAll_readinessOf (steady : Steady serve answer) (regions : List String) (st : σ) :
    ((askAll readinessOf regions).run serve st).1 =
      regions.map fun region => (region, (answer region).toOption) := by
  induction regions generalizing st with
  | nil => rfl
  | cons region rest ih =>
    have first : ((readinessOf region).run serve st).1 = (answer region).toOption := by
      rw [readinessOf, run_ask, run_done, steady]
      cases answer region <;> rfl
    rw [askAll, run_bind, run_bind, run_pure, first, ih, List.map_cons]

/-- The values of answers, if all are there, and otherwise the first region without one. -/
theorem joined_map {α : Type} (f : String → Option α) (regions : List String) :
    joined (regions.map fun region => (region, f region)) =
      match regions.find? fun region => (f region).isNone with
      | some region => .error (.regionNotReady region)
      | none => .ok (regions.filterMap fun region => (f region).map (region, ·)) := by
  induction regions with
  | nil => rfl
  | cons region rest ih =>
    cases answered : f region with
    | none => simp [joined, answered]
    | some value =>
      rw [List.map_cons, answered, joined, ih, List.find?_cons_of_neg (by simp [answered]),
        List.filterMap_cons_some (by rw [answered]; rfl)]
      cases rest.find? fun region => (f region).isNone <;> rfl

/-- The readiness of each region of a list that answers. -/
def known (answer : String → Outcome Bool) (regions : List String) : Table Bool :=
  Table.ofList (regions.filterMap fun region => (answer region).toOption.map (region, ·))

theorem toOption_eq_some_iff {α : Type} {outcome : Outcome α} {a : α} :
    outcome.toOption = some a ↔ outcome = .ok a := by
  cases outcome <;> simp [Except.toOption]

theorem isNone_toOption_iff {α : Type} {outcome : Outcome α} :
    outcome.toOption.isNone = true ↔ ∃ failure, outcome = .error failure := by
  cases outcome <;> simp [Except.toOption]

theorem get?_known {regions : List String} {region : String} {ready : Bool} :
    (known answer regions).get? region = some ready ↔
      region ∈ regions ∧ answer region = .ok ready := by
  have given {ready : Bool} (h : (known answer regions).get? region = some ready) :
      region ∈ regions ∧ answer region = .ok ready := by
    obtain ⟨other, among, found⟩ := List.mem_filterMap.1 (Table.mem_of_get?_ofList h)
    obtain ⟨value, answered, same⟩ := Option.map_eq_some_iff.1 found
    cases same
    exact ⟨among, toOption_eq_some_iff.1 answered⟩
  refine ⟨given, fun ⟨among, answered⟩ => ?_⟩
  have listed : (region, ready) ∈
      regions.filterMap fun region => (answer region).toOption.map (region, ·) :=
    List.mem_filterMap.2 ⟨region, among, by rw [toOption_eq_some_iff.2 answered, Option.map_some]⟩
  obtain ⟨value, found⟩ := Table.exists_get?_ofList (List.mem_map_of_mem listed)
  -- Whatever value is kept, it is the one that the region answers.
  obtain ⟨-, again⟩ := given found
  cases answered.symm.trans again
  exact found

/-- The readiness of regions is told if each of them answers. -/
theorem run_readiness (steady : Steady serve answer) (regions : List String) (st : σ) :
    ((readiness regions).run.run serve st).1 =
      match regions.find? fun region => (answer region).toOption.isNone with
      | some region => .error (.regionNotReady region)
      | none => .ok (known answer regions) := by
  have parts : (readiness regions).run = askAll readinessOf regions >>= fun answers =>
      pure ((joined answers).map Table.ofList) := by
    change (ExceptT.lift (askAll readinessOf regions) >>= fun answers =>
      (liftM (joined answers : Outcome _) : Exchange _) >>= fun values =>
        pure (Table.ofList values)).run = _
    rw [ExceptT.run_bind_lift]
    refine congrArg (askAll readinessOf regions >>= ·) (funext fun answers => ?_)
    cases joined answers <;> rfl
  rw [parts, run_bind, run_pure, run_askAll_readinessOf steady, joined_map]
  cases regions.find? fun region => (answer region).toOption.isNone <;> rfl

end Regions

namespace Plan

open Regions (Steady known)

variable {spec : Spec} {cluster : Identity} {s : Snapshot} {answer : String → Outcome Bool}

/-! ## The plan of a pass -/

/-- A managed region that cannot be asked for its readiness. -/
def Silent (spec : Spec) (cluster : Identity) (answer : String → Outcome Bool) (region : String) :
    Prop :=
  region ∈ spec.managedRegions cluster ∧ ∃ failure, answer region = .error failure

/-- A managed region that comes before the own one and is not ready. -/
def GoesFirst (spec : Spec) (cluster : Identity) (answer : String → Outcome Bool)
    (region : String) : Prop :=
  region ∈ spec.managedRegions cluster ∧ region < spec.localRegion cluster ∧
    answer region = .ok false

/-- Which plan a pass makes, or that it makes none, given the answers of other regions. -/
structure Gated (spec : Spec) (cluster : Identity) (s : Snapshot) (answer : String → Outcome Bool)
    (outcome : Outcome Plan) : Prop where
  fails : (∃ failure, outcome = .error failure) ↔
    spec.multiRegion = true ∧ ∃ region, Silent spec cluster answer region
  /-- The failure names a region that cannot be asked. -/
  named : ∀ failure, outcome = .error failure →
    ∃ region, Silent spec cluster answer region ∧ failure = .regionNotReady region
  converges : ∀ plan, outcome = .ok plan →
    (plan = .converged ↔ ∀ dc ∈ s.datacenters, dc.ready = some dc.desired)
  /-- The least region that goes first is waited for. -/
  pauses : ∀ plan next, outcome = .ok plan → (plan = .regionPaused next ↔
    (∃ dc ∈ s.datacenters, dc.ready ≠ some dc.desired) ∧ spec.multiRegion = true ∧
      GoesFirst spec cluster answer next ∧
        ∀ region, GoesFirst spec cluster answer region → next ≤ region)
  initializes : ∀ plan name, outcome = .ok plan → (plan = .initializing name ↔
    ¬ (spec.multiRegion = true ∧ ∃ region, GoesFirst spec cluster answer region) ∧
      FirstUnready s name)

variable {serve : (request : Regions.Ask) → σ → Regions.Reply request × σ}

/-- The plan of a pass, computed from the answers. -/
theorem run_make (steady : Steady serve answer) (st : σ) :
    ((make spec cluster s).run.run serve st).1 =
      if spec.multiRegion then
        match (spec.managedRegions cluster).find? fun region => (answer region).toOption.isNone with
        | some region => .error (.regionNotReady region)
        | none => .ok (ofRegions s ⟨spec.localRegion cluster,
            (known answer (spec.managedRegions cluster)).insert (spec.localRegion cluster)
              s.regionReady⟩)
      else .ok (ofRegion s) := by
  cases among : spec.multiRegion with
  | false =>
    rw [make, if_neg (by simp [among])]
    rfl
  | true =>
    rw [make, if_pos among, ExceptT.run_bind, run_bind, Regions.run_readiness steady, if_pos rfl]
    cases (spec.managedRegions cluster).find? fun region => (answer region).toOption.isNone <;> rfl

theorem gated_ofRegion (alone : spec.multiRegion = false) :
    Gated spec cluster s answer (.ok (ofRegion s)) where
  fails := by simp [alone]
  named := by simp
  converges plan h := by
    cases h
    rw [ofRegion_eq_converged_iff, regionReady_iff]
  pauses plan next h := by
    cases h
    exact iff_of_false ofRegion_ne_regionPaused (by simp [alone])
  initializes plan name h := by
    cases h
    rw [ofRegion_eq_initializing_iff]
    simp [alone]

/-- Where all regions that are asked answer, there is a plan. -/
theorem gated_ofRegions (among : spec.multiRegion = true)
    (answered : ∀ region ∈ spec.managedRegions cluster, ∃ ready, answer region = .ok ready) :
    Gated spec cluster s answer (.ok (ofRegions s ⟨spec.localRegion cluster,
      (known answer (spec.managedRegions cluster)).insert (spec.localRegion cluster)
        s.regionReady⟩)) := by
  have goesFirst {region : String} : GoesFirst spec cluster answer region ↔
      Earlier (known answer (spec.managedRegions cluster)) (spec.localRegion cluster) region := by
    rw [Earlier, Regions.get?_known, GoesFirst, and_left_comm]
  have heard : ¬ ∃ region, Silent spec cluster answer region := by
    rintro ⟨region, asked, failure, silent⟩
    obtain ⟨ready, answers⟩ := answered region asked
    cases silent.symm.trans answers
  constructor
  case fails => simp [heard]
  case named => simp
  case converges =>
    rintro _ ⟨⟩
    rw [ofRegions_eq_converged_iff, regionReady_iff]
  case pauses =>
    rintro _ next ⟨⟩
    simp only [goesFirst]
    rw [ofRegions_eq_regionPaused_iff, ← Bool.not_eq_true, regionReady_iff]
    simp [among]
  case initializes =>
    rintro _ name ⟨⟩
    simp only [goesFirst]
    rw [ofRegions_eq_initializing_iff]
    simp [among]

/-- The plan of a pass is the one that it has to be. -/
theorem gated_make (steady : Steady serve answer) (st : σ) :
    Gated spec cluster s answer ((make spec cluster s).run.run serve st).1 := by
  rw [run_make steady]
  cases among : spec.multiRegion with
  | false => exact gated_ofRegion among
  | true =>
    rw [if_pos rfl]
    cases found : (spec.managedRegions cluster).find? fun region =>
        (answer region).toOption.isNone with
    | some region =>
      have silent : Silent spec cluster answer region := ⟨List.mem_of_find?_eq_some found,
        Regions.isNone_toOption_iff.1 (by simpa using List.find?_some found)⟩
      refine ⟨?_, ?_, by simp, by simp, by simp⟩
      · exact iff_of_true ⟨_, rfl⟩ ⟨among, region, silent⟩
      · rintro _ ⟨⟩
        exact ⟨region, silent, rfl⟩
    | none =>
      refine gated_ofRegions among fun region asked => ?_
      have some := List.find?_eq_none.1 found region asked
      rw [Regions.isNone_toOption_iff] at some
      cases answers : answer region with
      | error failure => exact absurd ⟨failure, answers⟩ some
      | ok ready => exact ⟨ready, rfl⟩

/-- Given which regions go first, there is only one plan. -/
theorem Gated.unique {answer' : String → Outcome Bool} {plan plan' : Plan}
    (gated : Gated spec cluster s answer (.ok plan))
    (gated' : Gated spec cluster s answer' (.ok plan'))
    (same : ∀ region,
      GoesFirst spec cluster answer region ↔ GoesFirst spec cluster answer' region) :
    plan = plan' := by
  cases plan with
  | converged => exact ((gated'.converges _ rfl).2 ((gated.converges _ rfl).1 rfl)).symm
  | regionPaused next =>
    have paused := (gated.pauses _ next rfl).1 rfl
    simp only [same] at paused
    exact ((gated'.pauses _ next rfl).2 paused).symm
  | initializing name =>
    have first := (gated.initializes _ name rfl).1 rfl
    simp only [same] at first
    exact ((gated'.initializes _ name rfl).2 first).symm

/-- An answer under the identifier of the own region plays no part, as long as there is one. -/
theorem run_make_eq {σ' : Type} {serve' : (request : Regions.Ask) → σ' → Regions.Reply request × σ'}
    {answer' : String → Outcome Bool} (steady : Steady serve answer)
    (steady' : Steady serve' answer')
    (same : ∀ region, region ≠ spec.localRegion cluster → answer' region = answer region)
    (answered : ∃ ready, answer (spec.localRegion cluster) = .ok ready)
    (answered' : ∃ ready, answer' (spec.localRegion cluster) = .ok ready) (st : σ) (st' : σ') :
    ((make spec cluster s).run.run serve' st').1 = ((make spec cluster s).run.run serve st).1 := by
  have goesFirst {region : String} :
      GoesFirst spec cluster answer' region ↔ GoesFirst spec cluster answer region := by
    refine and_congr_right fun _ => and_congr_right fun less => ?_
    rw [same region]
    rintro rfl
    exact String.lt_irrefl _ less
  have silent : (fun region => (answer' region).toOption.isNone) =
      fun region => (answer region).toOption.isNone := by
    funext region
    by_cases own : region = spec.localRegion cluster
    · obtain ⟨ready, h⟩ := answered
      obtain ⟨ready', h'⟩ := answered'
      rw [own, h, h']
      rfl
    · rw [same region own]
  cases among : spec.multiRegion with
  | false =>
    rw [run_make steady, run_make steady', among]
    rfl
  | true =>
    have gated : Gated spec cluster s answer _ := gated_make steady st
    have gated' : Gated spec cluster s answer' _ := gated_make steady' st'
    rw [run_make steady, among, if_pos rfl] at gated ⊢
    rw [run_make steady', among, if_pos rfl, silent] at gated' ⊢
    -- The same regions cannot be asked; and if all of them can, the same ones go first.
    cases found : (spec.managedRegions cluster).find? fun region =>
        (answer region).toOption.isNone with
    | some region => rfl
    | none =>
      rw [found] at gated gated'
      exact congrArg Except.ok (gated'.unique gated fun region => goesFirst)

/-- The readiness that a pass tells is there if the pass succeeds, and it is true just if the plan
    has converged. -/
theorem told_iff_converged {directory : Directory} {memory : Table String}
    {log : List (Entry Regions.Reply)} {found : PassFacts}
    (h : (Pass.facts spec cluster s directory memory).run.Ends log (.ok found)) :
    (∃ ready, ⟨.publishReady ready, .ok ()⟩ ∈ log) ∧
      ∀ ready reply, ⟨.publishReady ready, reply⟩ ∈ log →
        (ready = true ↔ found.plan = .converged) := by
  constructor
  · obtain ⟨_, -, -, ⟨⟩⟩ | ⟨addresses, -, ⟨_, -, ⟨⟩⟩ | ⟨told, talked, -⟩⟩ := Pass.ends_facts.1 h
    have called : Regions.Ask.publishReady s.regionReady ∈ log.map (·.1) := by
      rw [Pass.follows_talk.complete talked, Pass.calls]
      simp
    obtain ⟨⟨_, reply⟩, among, rfl⟩ := List.mem_map.1 called
    -- A pass goes on only if its readiness was taken.
    obtain rfl : reply = .ok () := (Pass.follows_talk.succeeds talked).1 ⟨told, rfl⟩ _ among
    exact ⟨_, among⟩
  · intro ready reply among
    obtain rfl := Pass.eq_regionReady_of_told h among
    obtain ⟨part, -, made⟩ := Pass.ends_make_of_ends_facts h
    cases several : spec.multiRegion with
    | false =>
      rw [make, if_neg (by simp [several])] at made
      obtain ⟨-, plan⟩ := made
      rw [Except.ok.inj plan, ofRegion_eq_converged_iff]
    | true =>
      obtain ⟨told, plan, -⟩ := ends_make several made
      rw [plan, ofRegions_eq_converged_iff]

/-- The plan of a pass is told by the counts of the own datacenters and by what other regions
    answer (`Gated`). An answer under the identifier of the own region plays no part, as long as
    there is one. And a pass that succeeds has told its readiness, which is true just if its plan
    has converged. -/
theorem gating_exact (spec : Spec) (cluster : Identity) (s : Snapshot)
    {serve : (request : Regions.Ask) → σ → Regions.Reply request × σ}
    {answer : String → Outcome Bool} (steady : Steady serve answer) (st : σ) :
    Gated spec cluster s answer ((make spec cluster s).run.run serve st).1 ∧
    (∀ {σ' : Type} (serve' : (request : Regions.Ask) → σ' → Regions.Reply request × σ')
      (answer' : String → Outcome Bool) (st' : σ'), Steady serve' answer' →
      (∀ region, region ≠ spec.localRegion cluster → answer' region = answer region) →
      (∃ ready, answer (spec.localRegion cluster) = .ok ready) →
      (∃ ready, answer' (spec.localRegion cluster) = .ok ready) →
      ((make spec cluster s).run.run serve' st').1 = ((make spec cluster s).run.run serve st).1) ∧
    ∀ directory memory log found,
      (Pass.facts spec cluster s directory memory).run.Ends log (.ok found) →
        (∃ ready, ⟨.publishReady ready, .ok ()⟩ ∈ log) ∧
          ∀ ready reply, ⟨.publishReady ready, reply⟩ ∈ log →
            (ready = true ↔ found.plan = .converged) := by
  refine ⟨gated_make steady st, ?_, fun _ _ _ _ => told_iff_converged⟩
  exact fun serve' answer' st' steady' same answered answered' =>
    run_make_eq steady steady' same answered answered' st st'

/-! ## A region between two others -/

/-- A region whose identifier is between those of two others, which it manages. -/
def between : Spec where
  datacenters := [⟨"dc", 1⟩]
  hostPort := { enabled := true }
  domain := "b"
  managed := [{ domain := "c" }, { domain := "a" }, { domain := "" }]

/-- No other region is ready. -/
def unreadyPeers : (request : Regions.Ask) → Unit → Regions.Reply request × Unit
  | .publishSeeds _, st => (.ok (), st)
  | .publishReady _, st => (.ok (), st)
  | .seedsOf _, st => (.ok ["10.0.1.1"], st)
  | .readyOf _, st => (.ok false, st)

/-- Neither of the two others is ready. The region waits for the one that comes before it. -/
theorem gating_exact_between :
    Steady unreadyPeers (fun _ => .ok false) ∧
    ((make between ⟨"c", "default"⟩ ⟨[], [⟨"dc", 1, none⟩]⟩).run.run unreadyPeers ()).1 =
      .ok (.regionPaused "default-c-cassandra-prober.a") := by
  have steady : Steady unreadyPeers (fun _ => .ok false) := fun _ _ => rfl
  refine ⟨steady, ?_⟩
  have gated := (gating_exact between ⟨"c", "default"⟩ ⟨[], [⟨"dc", 1, none⟩]⟩ steady ()).1
  have managed : between.managedRegions ⟨"c", "default"⟩ =
      ["default-c-cassandra-prober.c", "default-c-cassandra-prober.a"] := by decide +kernel
  have own : between.localRegion ⟨"c", "default"⟩ = "default-c-cassandra-prober.b" := by
    decide +kernel
  cases made : ((make between ⟨"c", "default"⟩ ⟨[], [⟨"dc", 1, none⟩]⟩).run.run
      unreadyPeers ()).1 with
  | error failure =>
    obtain ⟨-, region, -, _, silent⟩ := gated.fails.1 ⟨failure, made⟩
    cases silent
  | ok plan =>
    refine congrArg Except.ok ((gated.pauses plan _ made).2 ?_)
    refine ⟨⟨_, List.mem_singleton_self _, by simp⟩, rfl, ⟨by simp [managed], ?_, rfl⟩, ?_⟩
    · rw [own]
      decide
    · rintro region ⟨among, less, -⟩
      rw [managed] at among
      rw [own] at less
      simp only [List.mem_cons, List.not_mem_nil, or_false] at among
      rcases among with rfl | rfl
      · exact absurd less (by decide)
      · exact String.le_refl _

end Plan

end RingOperator
