import RingOperator.Proofs.Pass

/-!
# The order of the calls of a pass

A pass that has found the addresses of all members makes its calls in one order
(`Pass.calls`): the own seeds are told, other regions are asked for their seeds,
the own readiness is told, and other regions are asked for their readiness. It
goes on as long as the replies are *favourable* and ends with the first part
that has one that is not. `Follows` says so of any part of a pass, and parts in
sequence follow their calls in sequence (`Follows.bind`).

So a region that is asked for its readiness is asked after both own facts were
told (`Pass.told_in_order`). But regions are asked for their seeds before the
own readiness is told, and one without seeds keeps it from being told
(`Pass.untold_of_region_without_seeds`).
-/

namespace RingOperator

open Dialogue

namespace Regions

/-- A reply with which a pass goes on: something was told, a region has seeds, or it answers
    whether it is ready. -/
def Favourable : Entry Reply → Prop
  | ⟨.publishSeeds _, reply⟩ => reply = .ok ()
  | ⟨.publishReady _, reply⟩ => reply = .ok ()
  | ⟨.seedsOf _, reply⟩ => ∃ seeds, seeds ≠ [] ∧ reply = .ok seeds
  | ⟨.readyOf _, reply⟩ => ∃ ready, reply = .ok ready

/-- A part of a pass makes some calls in order: the calls of every log are the first ones of them,
    and it succeeds just if all replies are favourable, after it has made all of them. -/
structure Follows {α : Type} (exchange : Exchange α) (calls : List Ask) : Prop where
  begun : ∀ {log result}, exchange.run.Ends log result → log.map (·.1) <+: calls
  complete : ∀ {log a}, exchange.run.Ends log (.ok a) → log.map (·.1) = calls
  succeeds : ∀ {log result}, exchange.run.Ends log result →
    ((∃ a, result = .ok a) ↔ ∀ e ∈ log, Favourable e)

variable {α β : Type}

theorem Follows.pure (a : α) : Follows (pure a) [] where
  begun h := by
    obtain ⟨rfl, -⟩ := h
    exact List.prefix_rfl
  complete h := by
    obtain ⟨rfl, -⟩ := h
    rfl
  succeeds h := by
    obtain ⟨rfl, rfl⟩ := h
    exact ⟨fun _ => by simp, fun _ => ⟨a, rfl⟩⟩

/-- Two parts in sequence make the calls of the first one, and then those of the second. -/
theorem Follows.bind {exchange : Exchange α} {f : α → Exchange β} {calls calls' : List Ask}
    (first : Follows exchange calls) (second : ∀ a, Follows (f a) calls') :
    Follows (exchange >>= f) (calls ++ calls') where
  begun h := by
    obtain ⟨failure, failed, rfl⟩ | ⟨log, log', a, rfl, begins, goesOn⟩ := ends_bind_except.1 h
    · exact (first.begun failed).trans (List.prefix_append _ _)
    · rw [List.map_append, first.complete begins, List.prefix_append_right_inj]
      exact (second a).begun goesOn
  complete h := by
    obtain ⟨_, -, ⟨⟩⟩ | ⟨log, log', a, rfl, begins, goesOn⟩ := ends_bind_except.1 h
    rw [List.map_append, first.complete begins, (second a).complete goesOn]
  succeeds h := by
    obtain ⟨failure, failed, rfl⟩ | ⟨log, log', a, rfl, begins, goesOn⟩ := ends_bind_except.1 h
    -- If the first part fails, one of its replies is not favourable.
    · rw [← first.succeeds failed]
      simp
    · have good := (first.succeeds begins).1 ⟨a, rfl⟩
      rw [(second a).succeeds goesOn, List.forall_mem_append]
      exact ⟨fun good' => ⟨good, good'⟩, fun both => both.2⟩

/-- A single call that tells something. -/
theorem follows_single {exchange : Exchange Unit} {call : Ask}
    (single : ∀ {log result}, exchange.run.Ends log result →
      ∃ e, log = [e] ∧ e.1 = call ∧ (result = .ok () ↔ Favourable e)) :
    Follows exchange [call] where
  begun h := by
    obtain ⟨e, rfl, rfl, -⟩ := single h
    exact List.prefix_rfl
  complete h := by
    obtain ⟨e, rfl, rfl, -⟩ := single h
    rfl
  succeeds h := by
    obtain ⟨e, rfl, -, good⟩ := single h
    rw [List.forall_mem_singleton, ← good]
    exact ⟨fun ⟨_, ok⟩ => ok, fun ok => ⟨(), ok⟩⟩

theorem follows_publishSeeds (seeds : List String) :
    Follows (publishSeeds seeds) [.publishSeeds seeds] :=
  follows_single fun h => ⟨_, ends_publishSeeds.1 h, rfl, Iff.rfl⟩

theorem follows_publishReady (ready : Bool) :
    Follows (publishReady ready) [.publishReady ready] :=
  follows_single fun h => ⟨_, ends_publishReady.1 h, rfl, Iff.rfl⟩

/-- Answers can be joined if all of them are there. -/
theorem exists_joined_iff {answers : List (String × Option α)} :
    (∃ values, joined answers = .ok values) ↔ ∀ answer ∈ answers, answer.2.isSome := by
  induction answers with
  | nil => simp [joined]
  | cons answer rest ih =>
    obtain ⟨region, _ | value⟩ := answer
    · simp [joined]
    · rw [List.forall_mem_cons, ← ih, joined]
      cases joined rest with
      | error failure => simp [Bind.bind, Except.bind]
      | ok values => simp [Bind.bind, Except.bind, Pure.pure, Except.pure]

/-- Answers that cannot be joined fail for a region without one. -/
theorem mem_of_joined_eq_error {answers : List (String × Option α)} {failure : Failure}
    (h : joined answers = .error failure) :
    ∃ region, (region, none) ∈ answers ∧ failure = .regionNotReady region := by
  induction answers with
  | nil => cases h
  | cons answer rest ih =>
    obtain ⟨region, _ | value⟩ := answer
    · cases h
      exact ⟨region, List.mem_cons_self, rfl⟩
    · cases others : joined rest with
      | error other =>
        simp only [joined, others] at h
        cases h
        obtain ⟨region, hm, same⟩ := ih others
        exact ⟨region, List.mem_cons_of_mem _ hm, same⟩
      | ok values =>
        simp only [joined, others] at h
        cases h

/-- Regions that are asked one by one are asked in order, and they all answer just if all replies
    are favourable. -/
theorem ends_askAll_of_single {ask : String → Dialogue Ask Reply (Option α)} {call : String → Ask}
    (single : ∀ {region log answer}, (ask region).Ends log answer →
      ∃ e, log = [e] ∧ e.1 = call region ∧ (answer.isSome ↔ Favourable e))
    {regions : List String} {log : List (Entry Reply)} {answers : List (String × Option α)}
    (h : (askAll ask regions).Ends log answers) :
    log.map (·.1) = regions.map call ∧
      ((∀ answer ∈ answers, answer.2.isSome) ↔ ∀ e ∈ log, Favourable e) := by
  induction regions generalizing log answers with
  | nil =>
    obtain ⟨rfl, rfl⟩ := h
    simp
  | cons region rest ih =>
    obtain ⟨first, _, answer, rfl, asked, h⟩ := ends_bind.1 h
    obtain ⟨second, _, more, rfl, askedRest, rfl, rfl⟩ := ends_bind.1 h
    obtain ⟨e, rfl, same, good⟩ := single asked
    obtain ⟨order, goodRest⟩ := ih askedRest
    constructor
    · simp [same, order]
    · rw [List.append_nil, List.forall_mem_append, List.forall_mem_singleton, List.forall_mem_cons,
        good, goodRest]

/-- Answers that are joined are asked for in order. -/
theorem follows_joined (ask : String → Dialogue Ask Reply (Option α)) {call : String → Ask}
    (single : ∀ {region log answer}, (ask region).Ends log answer →
      ∃ e, log = [e] ∧ e.1 = call region ∧ (answer.isSome ↔ Favourable e))
    {exchange : Exchange β} {regions : List String} (f : List (String × α) → β)
    (is : exchange = ExceptT.lift (askAll ask regions) >>= fun answers =>
      (liftM (joined answers : Outcome _) : Exchange _) >>= fun values => Pure.pure (f values)) :
    Follows exchange (regions.map call) := by
  have parts : ∀ {log result}, exchange.run.Ends log result →
      ∃ answers, (askAll ask regions).Ends log answers ∧
        ((∃ a, result = .ok a) ↔ ∃ values, joined answers = .ok values) := by
    intro log result h
    rw [is] at h
    obtain ⟨first, second, answers, rfl, asked, h⟩ := ends_bind_lift.1 h
    obtain ⟨failure, failed, rfl, rfl⟩ | ⟨values, joint, rfl, rfl⟩ := ends_bind_outcome.1 h
    · exact ⟨answers, by rwa [List.append_nil], by simp [failed]⟩
    · exact ⟨answers, by rwa [List.append_nil], by simp [joint]⟩
  have order : ∀ {log result}, exchange.run.Ends log result →
      log.map (·.1) = regions.map call := by
    intro log result h
    obtain ⟨answers, asked, -⟩ := parts h
    exact (ends_askAll_of_single single asked).1
  refine ⟨fun h => order h ▸ List.prefix_rfl, order, fun h => ?_⟩
  obtain ⟨answers, asked, joint⟩ := parts h
  rw [joint, exists_joined_iff, (ends_askAll_of_single single asked).2]

/-- Regions are asked for their readiness in order. -/
theorem follows_readiness (regions : List String) :
    Follows (readiness regions) (regions.map .readyOf) := by
  refine follows_joined readinessOf ?_ Table.ofList rfl
  rintro region log answer ⟨reply, _, rfl, rfl, rfl⟩
  refine ⟨_, rfl, rfl, ?_⟩
  cases reply <;> simp [Favourable]

/-- Regions are asked for their seeds in order. -/
theorem follows_seeds (regions : List String) :
    Follows (seeds regions) (regions.map .seedsOf) := by
  refine follows_joined someSeedsOf ?_ (·.map (·.2)) rfl
  rintro region log answer ⟨reply, _, rfl, rfl, rfl⟩
  refine ⟨_, rfl, rfl, ?_⟩
  rcases reply with failure | _ | ⟨first, rest⟩ <;> simp [Favourable]

end Regions

namespace Pass

open Regions (Favourable Follows)

variable {spec : Spec} {cluster : Identity} {s : Snapshot} {directory : Directory}
  {addresses memory : Table String}

/-- The calls that ask other regions for their seeds: only nodes on the network of their hosts can
    reach them. -/
def fetches (spec : Spec) (cluster : Identity) : List Regions.Ask :=
  if spec.hostPort.enabled then (spec.managedRegions cluster).map .seedsOf else []

/-- The calls that ask other regions for their readiness, if the cluster spans regions. -/
def inquiries (spec : Spec) (cluster : Identity) : List Regions.Ask :=
  if spec.multiRegion then (spec.managedRegions cluster).map .readyOf else []

/-- The calls of a pass, in order. -/
def calls (spec : Spec) (cluster : Identity) (s : Snapshot) (addresses : Table String) :
    List Regions.Ask :=
  .publishSeeds (Seeding.localSeeds spec cluster addresses) :: fetches spec cluster ++
    .publishReady s.regionReady :: inquiries spec cluster

/-- After the own seeds were told, the seeds of other regions are added. -/
def gather (spec : Spec) (cluster : Identity) (own : List String) :
    Regions.Exchange (List String) :=
  if spec.hostPort.enabled then do
    let others ← Regions.seeds (spec.managedRegions cluster)
    return own ++ others.flatten ++ spec.unmanaged.flatten
  else return own

theorem allSeeds_eq : Regions.allSeeds spec cluster addresses =
    Regions.publishSeeds (Seeding.localSeeds spec cluster addresses) >>= fun _ =>
      gather spec cluster (Seeding.localSeeds spec cluster addresses) := rfl

theorem follows_gather (own : List String) : Follows (gather spec cluster own)
    (fetches spec cluster) := by
  unfold gather fetches
  split
  · have fetched := Regions.follows_seeds (spec.managedRegions cluster)
    simpa using fetched.bind fun others =>
      Follows.pure (own ++ others.flatten ++ spec.unmanaged.flatten)
  · exact Follows.pure own

theorem follows_allSeeds : Follows (Regions.allSeeds spec cluster addresses)
    (.publishSeeds (Seeding.localSeeds spec cluster addresses) :: fetches spec cluster) :=
  allSeeds_eq ▸ (Regions.follows_publishSeeds _).bind fun _ => follows_gather _

theorem follows_make : Follows (Plan.make spec cluster s) (inquiries spec cluster) := by
  unfold Plan.make inquiries
  split
  · have asked := Regions.follows_readiness (spec.managedRegions cluster)
    simpa using asked.bind fun answers => Follows.pure <| Plan.ofRegions s
      ⟨spec.localRegion cluster, answers.insert (spec.localRegion cluster) s.regionReady⟩
  · exact Follows.pure _

/-- What a pass does after it has got the seeds: the own readiness is told, and then the plan is
    made. -/
theorem ends_after_seeds {α : Type} {f : Plan → Regions.Exchange α} {result : Outcome α}
    {log : List (Entry Regions.Reply)}
    (still : ∀ {plan log result}, (f plan).run.Ends log result → log = [])
    (h : (Regions.publishReady s.regionReady >>= fun _ => Plan.make spec cluster s >>= f).run.Ends
      log result) :
    ∃ reply asked, log = ⟨.publishReady s.regionReady, reply⟩ :: asked ∧
      asked.map (·.1) <+: inquiries spec cluster ∧ (reply ≠ .ok () → asked = []) := by
  obtain ⟨failure, failed, -⟩ | ⟨_, asked, _, rfl, told, planned⟩ := ends_bind_except.1 h
  · exact ⟨_, [], Regions.ends_publishReady.1 failed, List.nil_prefix, fun _ => rfl⟩
  obtain rfl := Regions.ends_publishReady.1 told
  obtain ⟨failure, failed, -⟩ | ⟨first, rest, plan, rfl, made, ends⟩ := ends_bind_except.1 planned
  · exact ⟨_, asked, rfl, follows_make.begun failed, by simp⟩
  · obtain rfl := still ends
    exact ⟨_, _, rfl, by simpa using follows_make.begun made, by simp⟩

/-- In every pass that has found all addresses, the own seeds are told first. If that succeeds,
    other regions are asked for their seeds, if the nodes use the network of their hosts. If each
    of those has some, the own readiness is told next, and only then other regions are asked for
    theirs. If one of them has none, or cannot be asked, the own readiness is not told. -/
theorem told_in_order {log : List (Entry Regions.Reply)} {result : Outcome PassFacts}
    (reached : directory.addresses s.members = .ok addresses)
    (h : (facts spec cluster s directory memory).run.Ends log result) :
    ∃ told fetched later,
      log = ⟨.publishSeeds (Seeding.localSeeds spec cluster addresses), told⟩ ::
        (fetched ++ later) ∧
      fetched.map (·.1) <+: fetches spec cluster ∧
      (told ≠ .ok () → fetched = [] ∧ later = []) ∧
      (told = .ok () → (∀ e ∈ fetched, Favourable e) → fetched.map (·.1) = fetches spec cluster ∧
        ∃ reply asked, later = ⟨.publishReady s.regionReady, reply⟩ :: asked ∧
          asked.map (·.1) <+: inquiries spec cluster ∧ (reply ≠ .ok () → asked = [])) ∧
      ((∃ e ∈ fetched, ¬ Favourable e) → later = []) := by
  obtain ⟨_, failed, -⟩ | ⟨_, found, talk⟩ := ends_bind_outcome.1 h
  · cases reached.symm.trans failed
  cases reached.symm.trans found
  have own : Follows (gather spec cluster (Seeding.localSeeds spec cluster addresses))
      (fetches spec cluster) := follows_gather _
  rw [allSeeds_eq, bind_assoc] at talk
  obtain ⟨failure, failed, -⟩ | ⟨_, more, _, rfl, told, fetches⟩ := ends_bind_except.1 talk
  · refine ⟨_, [], [], Regions.ends_publishSeeds.1 failed, List.nil_prefix, ?_, ?_, ?_⟩ <;> simp
  obtain rfl := Regions.ends_publishSeeds.1 told
  obtain ⟨failure, failed, -⟩ | ⟨fetched, later, seeds, rfl, gathered, goesOn⟩ :=
    ends_bind_except.1 fetches
  -- A region let the pass down, so nothing follows.
  · refine ⟨.ok (), more, [], by rw [List.append_nil]; rfl, own.begun failed, by simp,
      fun _ good => ?_, fun _ => rfl⟩
    obtain ⟨seeds, ⟨⟩⟩ := (own.succeeds failed).2 good
  · have good := (own.succeeds gathered).1 ⟨seeds, rfl⟩
    refine ⟨_, fetched, later, rfl, own.begun gathered, by simp, fun _ _ => ?_, ?_⟩
    · refine ⟨own.complete gathered, ends_after_seeds (fun ends => ?_) goesOn⟩
      obtain ⟨_, -, rfl, -⟩ | ⟨sheet, -, rfl, -⟩ := ends_bind_outcome.1 ends <;> rfl
    · rintro ⟨e, he, bad⟩
      exact absurd (good e he) bad

/-! ## A cluster that spans two regions -/

/-- One node in this region, and another region. -/
def spanning : Spec where
  datacenters := [⟨"dc", 1⟩]
  hostPort := { enabled := true }
  domain := "a"
  managed := [{ domain := "b" }]

/-- The identity of the cluster. -/
def spanningIdentity : Identity := ⟨"c", "default"⟩

/-- The prober of the other region. -/
def elsewhere : String := "default-c-cassandra-prober.b"

/-- The hosts of this region. -/
def hosts : Directory :=
  ⟨spanning.hostPort, Table.ofList [("n", { internal := some "10.0.0.1" })]⟩

/-- The node is not ready yet. -/
def starting : Snapshot where
  members := [{
    name := "c-cassandra-dc-0", dc := "dc", podIp := some "10.1.0.1", nodeName := some "n"
    seed := true }]
  datacenters := [⟨"dc", 1, some 0⟩]

theorem addresses_starting : hosts.addresses starting.members =
    .ok (Table.ofList [("c-cassandra-dc-0", "10.0.0.1")]) := by rfl

theorem localSeeds_starting : Seeding.localSeeds spanning spanningIdentity
    (Table.ofList [("c-cassandra-dc-0", "10.0.0.1")]) = ["10.0.0.1"] := by decide +kernel

/-- What the pass of this region tells, and what the other one answers. It has seeds, but it does
    not answer whether it is ready. -/
def heard : List (Entry Regions.Reply) :=
  [⟨.publishSeeds ["10.0.0.1"], .ok ()⟩, ⟨.seedsOf elsewhere, .ok ["10.0.1.1"]⟩,
    ⟨.publishReady false, .ok ()⟩, ⟨.readyOf elsewhere, .error (.timeout "")⟩]

theorem told_in_order_spanning :
    hosts.addresses starting.members = .ok (Table.ofList [("c-cassandra-dc-0", "10.0.0.1")]) ∧
    (facts spanning spanningIdentity starting hosts Table.empty).run.Ends heard
      (.error (.regionNotReady elsewhere)) ∧
    ∃ told fetched later,
      heard = ⟨.publishSeeds (Seeding.localSeeds spanning spanningIdentity
        (Table.ofList [("c-cassandra-dc-0", "10.0.0.1")])), told⟩ :: (fetched ++ later) ∧
      fetched.map (·.1) <+: fetches spanning spanningIdentity ∧
      (told ≠ .ok () → fetched = [] ∧ later = []) ∧
      (told = .ok () → (∀ e ∈ fetched, Favourable e) →
        fetched.map (·.1) = fetches spanning spanningIdentity ∧
        ∃ reply asked, later = ⟨.publishReady starting.regionReady, reply⟩ :: asked ∧
          asked.map (·.1) <+: inquiries spanning spanningIdentity ∧
            (reply ≠ .ok () → asked = [])) ∧
      ((∃ e ∈ fetched, ¬ Favourable e) → later = []) := by
  have ends : (facts spanning spanningIdentity starting hosts Table.empty).run.Ends heard
      (.error (.regionNotReady elsewhere)) := by
    refine ends_bind_outcome.2 (.inr ⟨_, addresses_starting, ?_⟩)
    rw [allSeeds_eq, bind_assoc, localSeeds_starting]
    exact ⟨_, _, rfl, _, _, rfl, _, _, rfl, _, _, rfl, rfl, rfl⟩
  exact ⟨addresses_starting, ends, told_in_order addresses_starting ends⟩

/-- If the other region cannot be asked for its seeds, the pass ends there. -/
theorem ends_spanning_of_timeout :
    (facts spanning spanningIdentity starting hosts Table.empty).run.Ends
      [⟨.publishSeeds ["10.0.0.1"], .ok ()⟩, ⟨.seedsOf elsewhere, .error (.timeout "")⟩]
      (.error (.regionNotReady elsewhere)) := by
  refine ends_bind_outcome.2 (.inr ⟨_, addresses_starting, ?_⟩)
  rw [allSeeds_eq, bind_assoc, localSeeds_starting]
  exact ⟨_, _, rfl, _, _, rfl, rfl, rfl⟩

/-- So it is not so that a region that has told its seeds tells its readiness whatever becomes of
    the others, nor that it asks them for nothing before. -/
theorem untold_of_region_without_seeds :
    ¬ ∀ log result,
      (facts spanning spanningIdentity starting hosts Table.empty).run.Ends log result →
      ⟨.publishSeeds ["10.0.0.1"], .ok ()⟩ ∈ log →
      ∃ reply, ⟨.publishReady starting.regionReady, reply⟩ ∈ log := by
  intro always
  obtain ⟨reply, hm⟩ := always _ _ ends_spanning_of_timeout List.mem_cons_self
  simp at hm

end Pass

end RingOperator
