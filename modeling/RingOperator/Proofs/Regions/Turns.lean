import RingOperator.Proofs.Pass
import RingOperator.Proofs.Regions.Federation
import RingOperator.Proofs.Regions.Plan

/-!
# Regions take turns

Of regions that are not ready, never two bring up datacenters at a time, however
their passes interleave (`one_at_a_time`). What makes it so is that nothing a
region knows about another one being ready can turn out to be wrong: only the
own readiness is told, and it lasts. `Region.Sound` says so of everything that a
region holds: what its prober was told, what its pass under way has seen and
heard, and what its plan rests on.
-/

namespace RingOperator.Regions

open Dialogue Function

variable {ι : Type} {f : Federation ι} {i j : ι} {ready ready' : ι → Prop}

/-! ## What a region knows -/

/-- What a pass under way has seen, heard and been told holds, and it has come where it is by its
    requests. -/
structure Underway.Sound (f : Federation ι) (ready : ι → Prop) (i : ι) (p : Underway) : Prop where
  seen : p.seen.regionReady = true → ready i
  heard : ∀ j, p.heard (f.name j) = some (.ok true) → ready j
  asked : ∀ j, ⟨.readyOf (f.name j), .ok true⟩ ∈ p.asked → ready j
  leads : ∀ more result, p.rest.Ends more result →
    (Pass.facts (f.spec i) (f.cluster i) p.seen p.directory p.memory).run.Ends (p.asked ++ more)
      result

/-- What a plan rests on: a region that has converged is ready, and all regions are that come
    before one that brings up its datacenters, or it is itself by now. -/
structure Warranted (f : Federation ι) (ready : ι → Prop) (i : ι) (plan : Plan) : Prop where
  converged : plan = .converged → ready i
  initializing : ∀ dc, plan = .initializing dc → ready i ∨ ∀ j, f.name j < f.name i → ready j

/-- Everything that a region holds is sound. -/
structure Region.Sound (f : Federation ι) (ready : ι → Prop) (i : ι) (r : Region) : Prop where
  told : r.told = some true → ready i
  plan : ∀ plan, r.plan = some plan → Warranted f ready i plan
  pass : ∀ p, r.pass = some p → p.Sound f ready i

theorem Underway.Sound.mono {p : Underway} (sound : p.Sound f ready i)
    (more : ∀ j, ready j → ready' j) : p.Sound f ready' i where
  seen h := more i (sound.seen h)
  heard j h := more j (sound.heard j h)
  asked j h := more j (sound.asked j h)
  leads := sound.leads

theorem Warranted.mono {plan : Plan} (warranted : Warranted f ready i plan)
    (more : ∀ j, ready j → ready' j) : Warranted f ready' i plan where
  converged h := more i (warranted.converged h)
  initializing dc h := by
    rcases warranted.initializing dc h with own | before
    · exact .inl (more i own)
    · exact .inr fun j less => more j (before j less)

theorem Region.Sound.mono {r : Region} (sound : r.Sound f ready i)
    (more : ∀ j, ready j → ready' j) : r.Sound f ready' i where
  told h := more i (sound.told h)
  plan plan h := (sound.plan plan h).mono more
  pass p h := (sound.pass p h).mono more

/-! ## What a pass does -/

theorem nonempty_reply (request : Ask) : Nonempty (Reply request) := by
  cases request with
  | publishSeeds | publishReady => exact ⟨.ok ()⟩
  | seedsOf => exact ⟨.ok []⟩
  | readyOf => exact ⟨.ok true⟩

/-- Every region takes part in ordering the regions. -/
theorem Federation.multiRegion [Nontrivial ι] (f : Federation ι) :
    (f.spec i).multiRegion = true := by
  obtain ⟨j, other⟩ := exists_ne i
  have managed := (f.managed i _).2 ⟨j, other, rfl⟩
  have some : (f.spec i).managed ≠ [] := by
    intro none
    rw [Spec.managedRegions, none] at managed
    cases managed
  rw [Spec.multiRegion, f.exposed, List.isEmpty_eq_false_iff.2 some]
  rfl

namespace Underway.Sound

variable {p : Underway}

theorem start {s : Snapshot} (h : s.regionReady = true → ready i) (directory : Directory)
    (memory : Table String) : (f.start i s directory memory).Sound f ready i where
  seen := h
  heard _ h := by cases h
  asked _ h := by cases h
  leads _ _ h := h

/-- The readiness that is told is the one that was seen. -/
theorem ready_of_publishReady (sound : p.Sound f ready i) {told : Bool}
    {next : Outcome Unit → Dialogue Ask Reply (Outcome PassFacts)}
    (asks : p.rest = .ask (.publishReady told) next) (h : told = true) : ready i := by
  -- The pass can go on to some end, and all of its log is one of a pass from the beginning.
  obtain ⟨log, result, ends⟩ := exists_ends nonempty_reply (next (.ok ()))
  have whole := sound.leads (⟨.publishReady told, .ok ()⟩ :: log) result
    (asks ▸ ends_ask.2 ⟨_, _, rfl, ends⟩)
  have same := Pass.eq_regionReady_of_told whole (List.mem_append_right _ List.mem_cons_self)
  exact sound.seen (same ▸ h)

/-- Also after a request the own prober was told to be ready only if the region is. -/
theorem told_of_served (sound : p.Sound f ready i) {r : Region}
    (before : r.told = some true → ready i) {request : Ask}
    {next : Reply request → Dialogue Ask Reply (Outcome PassFacts)}
    (asks : p.rest = .ask request next) {reply : Reply request} {told : Option Bool}
    (served : Served r p request reply told) (h : told = some true) : ready i := by
  cases served with
  | seedsTold | seedsAsked | readyAsked => exact before h
  | readyTold => exact sound.ready_of_publishReady asks (Option.some.inj h)
  | readyRefused _ either =>
    rcases either with same | same
    · exact before (same ▸ h)
    · exact sound.ready_of_publishReady asks (Option.some.inj (same.symm.trans h))

/-- A pass may hear of a region that it is ready if it is. -/
theorem hear (sound : p.Sound f ready i) {reply : Outcome Bool} (h : reply = .ok true → ready j) :
    Underway.Sound f ready i { p with heard := update p.heard (f.name j) (some reply) } where
  seen := sound.seen
  heard k hk := by
    have heard : update p.heard (f.name j) (some reply) (f.name k) = some (.ok true) := hk
    rw [update_apply] at heard
    split at heard
    · rename_i same
      obtain rfl := f.distinct same
      exact h (Option.some.inj heard)
    · exact sound.heard k heard
  asked := sound.asked
  leads := sound.leads

/-- What the pass has heard it goes on with. -/
theorem replied (sound : p.Sound f ready i) {request : Ask} {reply : Reply request}
    {next : Reply request → Dialogue Ask Reply (Outcome PassFacts)}
    (asks : p.rest = .ask request next) {r : Region} {told : Option Bool}
    (served : Served r p request reply told) :
    (p.replied request reply (next reply)).Sound f ready i where
  seen := sound.seen
  heard := sound.heard
  asked j h := by
    rcases List.mem_append.1 h with h | h
    · exact sound.asked j h
    · cases List.mem_singleton.1 h
      cases served with
      | readyAsked h => exact sound.heard j h
  leads more result h := by
    rw [Underway.replied, List.append_assoc]
    exact sound.leads _ result (asks ▸ ends_ask.2 ⟨reply, more, rfl, h⟩)

/-- The plan of a pass that succeeds follows from what all other regions answered in it. -/
theorem exists_told [Nontrivial ι] (sound : p.Sound f ready i) {facts : PassFacts}
    (ends : p.rest = .done (.ok facts)) :
    ∃ told : Table Bool,
      facts.plan = Plan.ofRegions p.seen
        ⟨f.name i, told.insert (f.name i) p.seen.regionReady⟩ ∧
      (∀ j, j ≠ i → ∃ ready, told.get? (f.name j) = some ready) ∧
      ∀ region ready, told.get? region = some ready →
        ∃ j, region = f.name j ∧ ⟨.readyOf region, .ok ready⟩ ∈ p.asked := by
  have whole := sound.leads [] (.ok facts) (ends ▸ ends_done.2 ⟨rfl, rfl⟩)
  rw [List.append_nil] at whole
  obtain ⟨part, within, made⟩ := Pass.ends_make_of_ends_facts whole
  obtain ⟨told, plan, answered, heard⟩ := Plan.ends_make f.multiRegion made
  refine ⟨told, plan, fun j other => ?_, fun region ready known => ?_⟩
  · exact answered _ ((f.managed i _).2 ⟨j, other, rfl⟩)
  · obtain ⟨managed, replied⟩ := heard region ready known
    obtain ⟨j, -, same⟩ := (f.managed i _).1 managed
    exact ⟨j, same, within replied⟩

/-- The plan of a pass that succeeds is warranted. -/
theorem warranted [Nontrivial ι] (sound : p.Sound f ready i) {facts : PassFacts}
    (ends : p.rest = .done (.ok facts)) : Warranted f ready i facts.plan := by
  obtain ⟨told, plan, answered, heard⟩ := sound.exists_told ends
  constructor
  · intro converged
    exact sound.seen (Plan.ready_of_ofRegions_eq_converged (plan.symm.trans converged))
  · intro dc initializing
    refine .inr fun j less => ?_
    have other : j ≠ i := by
      rintro rfl
      exact String.lt_irrefl _ less
    -- The region was asked in this pass, and by the plan it answered that it is ready.
    obtain ⟨readiness, known⟩ := answered j other
    have := Plan.before_of_ofRegions_eq_initializing (plan.symm.trans initializing)
      (f.name j) less readiness known
    subst this
    obtain ⟨_, -, replied⟩ := heard _ _ known
    exact sound.asked j replied

/-- A pass to which all regions before have answered that they are ready waits for none. -/
theorem ne_regionPaused [Nontrivial ι] (sound : p.Sound f ready i) {facts : PassFacts}
    (ends : p.rest = .done (.ok facts))
    (before : ∀ j, f.name j < f.name i → ∀ reply, ⟨.readyOf (f.name j), reply⟩ ∈ p.asked →
      reply = .ok true) (next : String) : facts.plan ≠ .regionPaused next := by
  intro paused
  obtain ⟨told, plan, -, heard⟩ := sound.exists_told ends
  obtain ⟨less, known⟩ := Plan.before_of_ofRegions_eq_regionPaused (plan.symm.trans paused)
  obtain ⟨j, rfl, replied⟩ := heard _ _ known
  cases before j less _ replied

end Underway.Sound

/-! ## Every step -/

variable {w w' : World ι}

/-- Whether a region is ready. -/
def Ready (w : World ι) (i : ι) : Prop := (w i).now.regionReady = true

/-- A region that is not ready brings up a datacenter. -/
def BringsUp (r : Region) : Prop :=
  r.now.regionReady = false ∧ ∃ dc, r.plan = some (.initializing dc)

/-- No region before one that brings up a datacenter is not ready, unless that one is ready. -/
theorem not_less_of_bringsUp (sound : (w j).Sound f (Ready w) j)
    (notReady : (w i).now.regionReady = false) (h : BringsUp (w j)) : ¬ f.name i < f.name j := by
  intro less
  obtain ⟨notReady', dc, plan⟩ := h
  rcases (sound.plan _ plan).initializing dc rfl with own | before
  · rw [Ready, notReady'] at own
    cases own
  · have := before i less
    rw [Ready, notReady] at this
    cases this

variable [DecidableEq ι]

/-- A region does not cease to be ready. -/
theorem ready_step (step : Step f w w') (j : ι) (h : Ready w j) : Ready w' j := by
  cases step with
  | change i s lasts =>
    rw [Ready, update_apply]
    split
    · rename_i same
      exact lasts (same ▸ h)
    · exact h
  | _ =>
    rw [Ready, update_apply]
    split
    · rename_i same
      exact same ▸ h
    · exact h

/-- What regions hold stays sound. -/
theorem sound_step [Nontrivial ι] (sound : ∀ i, (w i).Sound f (Ready w) i)
    (step : Step f w w') (i : ι) : (w' i).Sound f (Ready w') i := by
  refine Region.Sound.mono ?_ (ready_step step)
  -- A step changes one region only, so it is enough to look at that one.
  have others {i' : ι} {r : Region} (h : r.Sound f (Ready w) i') :
      (update w i' r i).Sound f (Ready w) i := by
    rw [update_apply]
    split
    · rename_i same
      exact same ▸ h
    · exact sound i
  cases step with
  | change i' s lasts =>
    exact others ⟨(sound i').told, (sound i').plan, (sound i').pass⟩
  | begin i' directory memory =>
    refine others ⟨(sound i').told, (sound i').plan, ?_⟩
    rintro _ ⟨⟩
    refine Underway.Sound.start ?_ directory memory
    exact fun seen => seen
  | @hear i' j p reply pass peer answer =>
    -- A prober answers with what it was told, which holds by the invariant of the other region.
    have known := (sound i').pass p pass
    refine others ⟨(sound i').told, (sound i').plan, ?_⟩
    rintro _ ⟨⟩
    refine known.hear fun h => (sound j).told (answer true h)
  | @ask i' p request next reply told pass asks served =>
    have known := (sound i').pass p pass
    refine others ⟨?_, (sound i').plan, ?_⟩
    · exact fun h => known.told_of_served (sound i').told asks served h
    · rintro _ ⟨⟩
      exact known.replied asks served
  | @succeed i' p facts pass ends =>
    refine others ⟨(sound i').told, ?_, ?_⟩
    · rintro _ ⟨⟩
      exact ((sound i').pass p pass).warranted ends
    · rintro _ ⟨⟩
  | abandon i' =>
    refine others ⟨(sound i').told, (sound i').plan, ?_⟩
    rintro _ ⟨⟩

/-- Whatever can come about is sound. -/
theorem sound_of_reachable [Nontrivial ι] (h : Reachable f w) :
    ∀ i, (w i).Sound f (Ready w) i := by
  induction h with
  | start now => exact fun i => ⟨nofun, nofun, nofun⟩
  | step _ step ih => exact sound_step ih step

/-! ## One at a time -/

/-- However the passes of two or more regions interleave, never two regions that are not ready
    bring up datacenters; a region that is not ready never gets the plan that it has converged;
    and a pass to which all regions before have answered that they are ready does not wait for
    another region. -/
theorem one_at_a_time [Nontrivial ι] (h : Reachable f w) :
    (∀ i j, BringsUp (w i) → BringsUp (w j) → i = j) ∧
    (∀ i, (w i).now.regionReady = false → (w i).plan ≠ some .converged ∧
      ∀ p facts, (w i).pass = some p → p.rest = .done (.ok facts) → facts.plan ≠ .converged) ∧
    ∀ i p facts, (w i).pass = some p → p.rest = .done (.ok facts) →
      (∀ j, f.name j < f.name i → ∀ reply, ⟨.readyOf (f.name j), reply⟩ ∈ p.asked →
        reply = .ok true) →
      ∀ next, facts.plan ≠ .regionPaused next := by
  have sound := sound_of_reachable h
  refine ⟨fun i j hi hj => ?_, fun i notReady => ⟨fun converged => ?_, ?_⟩, ?_⟩
  · have notMore := not_less_of_bringsUp (sound i) hj.1 hi
    have notLess := not_less_of_bringsUp (sound j) hi.1 hj
    -- Neither of the two comes before the other, and identifiers differ.
    exact f.distinct (String.le_antisymm (String.not_lt.1 notMore) (String.not_lt.1 notLess))
  · have := ((sound i).plan _ converged).converged rfl
    rw [Ready, notReady] at this
    cases this
  · intro p facts pass ends converged
    have := (((sound i).pass p pass).warranted ends).converged converged
    rw [Ready, notReady] at this
    cases this
  · intro i p facts pass ends before
    exact ((sound i).pass p pass).ne_regionPaused ends before

/-- Two regions with one datacenter each. -/
def couple : Federation Bool where
  spec second := {
    datacenters := [⟨"dc", 1⟩]
    hostPort := { enabled := true }
    domain := if second then "b" else "a"
    managed := [{ domain := if second then "a" else "b" }] }
  cluster _ := ⟨"c", "default"⟩
  exposed _ := rfl
  distinct i j same := by
    revert i j
    decide +kernel
  managed i region := by
    cases i <;> simp [Spec.managedRegions, Spec.localRegion]

/-- A region that no node of has started yet. -/
def bare : Snapshot := ⟨[], [⟨"dc", 1, none⟩]⟩

/-- Once both regions have told that they are not ready, passes of both succeed: the first one
    brings up its datacenter, and the second one waits for it. -/
theorem one_at_a_time_couple : ∃ w, Reachable couple w ∧ BringsUp (w false) ∧
    (w true).plan = some (.regionPaused (couple.name false)) ∧ ¬ BringsUp (w true) := by
  have h := Reachable.start (f := couple) fun _ => bare
  replace h := h.step (.begin true {} Table.empty)
  replace h := h.step (.ask (i := true) rfl rfl (.seedsTold _ (.ok ())))
  replace h := h.step (.ask (i := true) rfl rfl (.seedsAsked _ (.ok ["x"])))
  replace h := h.step (.ask (i := true) rfl rfl (.readyTold _))
  replace h := h.step (.begin false {} Table.empty)
  replace h := h.step (.ask (i := false) rfl rfl (.seedsTold _ (.ok ())))
  replace h := h.step (.ask (i := false) rfl rfl (.seedsAsked _ (.ok ["x"])))
  replace h := h.step (.ask (i := false) rfl rfl (.readyTold _))
  -- Each region answers the other one that it is not ready.
  have answer : Answers (some false) (.ok false) := by
    rintro _ ⟨⟩
    rfl
  replace h := h.step (.hear (i := false) (j := true) rfl (by decide) answer)
  replace h := h.step (.ask (i := false) rfl rfl (.readyAsked rfl))
  replace h := h.step (.succeed (i := false) rfl rfl)
  replace h := h.step (.hear (i := true) (j := false) rfl (by decide) answer)
  replace h := h.step (.ask (i := true) rfl rfl (.readyAsked rfl))
  replace h := h.step (.succeed (i := true) rfl rfl)
  refine ⟨_, h, ⟨rfl, "dc", rfl⟩, rfl, fun also => ?_⟩
  cases (one_at_a_time h).1 false true ⟨rfl, "dc", rfl⟩ also

end RingOperator.Regions
