import RingOperator.Proofs.Bringup.Turn
import RingOperator.Proofs.Pass
import RingOperator.Proofs.StartSheet

/-!
# The whole bring-up

A declared cluster is brought up from nothing, pass by pass: every pod has its
place, and after each pass those that start are ready. Where nodes do not use
the network of their hosts, the pods start batch by batch as the schedule has
it, and then the plan has converged for good (`starts_in_order`). The invariant is
that after some passes just the pods of as many batches are ready
(`ready_standing`).
-/

namespace RingOperator.Bringup

open Dialogue Rehearsal

variable {spec : Spec} {σ : Type}

/-- What a pass of a bring-up meets: every declared pod has an address and runs on a host that is
    known. -/
structure Scene (spec : Spec) where
  /-- Where the pods run, by the position of the datacenter and the ordinal. -/
  places : Nat → Int → Place
  directory : Directory
  exposed : directory.hostPort = spec.hostPort
  placed : ∀ position dc i, spec.datacenters[position]? = some dc → 0 ≤ i → i < dc.replicas →
    (places position i).ip ≠ "" ∧ ∃ host, directory.hosts.get? (places position i).node = some host

/-- Probers that take what they are told, whatever they answer when they are asked. -/
structure Gateway (σ : Type) where
  serve : (request : Regions.Ask) → σ → Regions.Reply request × σ
  takesSeeds : ∀ seeds s, (serve (.publishSeeds seeds) s).1 = .ok ()
  takesReady : ∀ ready s, (serve (.publishReady ready) s).1 = .ok ()

/-- Where a bring-up stands between two passes. -/
structure Standing (σ : Type) where
  /-- The names of the ready pods. -/
  ready : List String
  /-- The address that each pod was last ready with. -/
  memory : Table String
  probers : σ

namespace Scene

/-- The snapshot of a pass. -/
def snapshot (scene : Scene spec) (cluster : Identity) (ready : List String) : Snapshot :=
  declaredAt scene.places cluster.name spec ready

variable {scene : Scene spec} {cluster : Identity} {ready : List String} {m : Member}

theorem podIp_of_mem (hm : m ∈ (scene.snapshot cluster ready).members) :
    ∃ ip, m.podIp = some ip ∧ ip ≠ "" := by
  obtain ⟨position, dc, i, entry, positive, less, rfl⟩ := mem_declaredAt.1 hm
  exact ⟨_, rfl, (scene.placed position dc i entry positive less).1⟩

theorem host_of_mem (hm : m ∈ (scene.snapshot cluster ready).members) :
    ∃ host, scene.directory.host m = .ok host := by
  obtain ⟨position, dc, i, entry, positive, less, rfl⟩ := mem_declaredAt.1 hm
  obtain ⟨-, host, known⟩ := scene.placed position dc i entry positive less
  refine ⟨host, ?_⟩
  rw [Directory.host, declaredMember]
  simp only [known]

/-- The addresses of the members. -/
def addresses (scene : Scene spec) (cluster : Identity) (ready : List String) : Table String :=
  Table.ofList ((scene.snapshot cluster ready).members.map fun m => (m.name, m.podIp.getD ""))

theorem addresses_eq_ok (alone : spec.hostPort.enabled = false) :
    scene.directory.addresses (scene.snapshot cluster ready).members =
      .ok (scene.addresses cluster ready) := by
  refine Directory.addresses_eq_ok (by rw [scene.exposed, alone]) fun m hm => ?_
  obtain ⟨ip, found, -⟩ := podIp_of_mem hm
  exact ⟨ip, found⟩

/-- There are start-up entries for all members, under whatever plan. -/
theorem exists_sheet (accepted : spec.check = .ok ()) (plan : Plan) (seeds : List String)
    (memory : Table String) :
    ∃ sheet, StartSheet.build spec (scene.snapshot cluster ready) scene.directory
      (scene.addresses cluster ready) seeds (plan.decisions (scene.snapshot cluster ready))
      memory = .ok sheet := by
  have distinct : ((scene.snapshot cluster ready).members.map (·.name)).Nodup :=
    nodup_declaredAt accepted
  refine StartSheet.exists_build_iff.2 fun m hm => ?_
  obtain ⟨ip, found, filled⟩ := podIp_of_mem hm
  obtain ⟨host, known⟩ := host_of_mem hm
  exact StartSheet.exists_factsOf found (StartSheet.filled?_of_mem distinct hm found filled)
    (Plan.get?_decisions distinct hm plan) known

/-- Every pass succeeds if the probers take what they are told: it tells its seeds and its
    readiness, and asks nobody. -/
theorem exists_facts (accepted : spec.check = .ok ()) (alone : spec.hostPort.enabled = false)
    (scene : Scene spec) (cluster : Identity) (ready : List String) (memory : Table String) :
    ∃ facts : PassFacts, facts.plan = Plan.ofRegion (scene.snapshot cluster ready) ∧
      facts.decisions = facts.plan.decisions (scene.snapshot cluster ready) ∧
      ∃ seeds, (Pass.facts spec cluster (scene.snapshot cluster ready) scene.directory
        memory).run.Ends
          [⟨.publishSeeds seeds, .ok ()⟩,
            ⟨.publishReady (scene.snapshot cluster ready).regionReady, .ok ()⟩] (.ok facts) := by
  have reached := @addresses_eq_ok spec scene cluster ready alone
  obtain ⟨sheet, built⟩ := @exists_sheet spec scene cluster ready accepted
    (Plan.ofRegion (scene.snapshot cluster ready))
    (Seeding.localSeeds spec cluster (scene.addresses cluster ready))
    (StartSheet.remember memory (scene.snapshot cluster ready) (scene.addresses cluster ready))
  exact ⟨_, rfl, rfl, _, Pass.ends_facts_alone alone reached built⟩

end Scene

/-- A pass over the declared cluster: its facts with the pods that start, and where the bring-up
    stands once these are ready. -/
def pass (cluster : Identity) (scene : Scene spec) (gateway : Gateway σ) (now : Standing σ) :
    Outcome (PassFacts × List String) × Standing σ :=
  let s := scene.snapshot cluster now.ready
  match (Pass.facts spec cluster s scene.directory now.memory).run.run gateway.serve
      now.probers with
  | (.error failure, probers) => (.error failure, { now with probers })
  | (.ok facts, probers) =>
    let names := starting s facts.decisions
    (.ok (facts, names), ⟨now.ready ++ names, facts.memory, probers⟩)

/-- Where a bring-up stands after some passes, if no pod is ready at first. -/
def standing (cluster : Identity) (scenes : Nat → Scene spec) (gateway : Gateway σ)
    (memory : Table String) (probers : σ) : Nat → Standing σ
  | 0 => ⟨[], memory, probers⟩
  | k + 1 => (pass cluster (scenes k) gateway
      (standing cluster scenes gateway memory probers k)).2

variable {cluster : Identity} {scenes : Nat → Scene spec} {gateway : Gateway σ}
  {memory : Table String} {probers : σ}

/-- A pass succeeds, and those that start are ready after it. -/
theorem exists_pass (accepted : spec.check = .ok ()) (alone : spec.hostPort.enabled = false)
    (cluster : Identity) (scene : Scene spec) (gateway : Gateway σ) (now : Standing σ) :
    let s := scene.snapshot cluster now.ready
    ∃ facts, facts.plan = Plan.ofRegion s ∧ facts.decisions = facts.plan.decisions s ∧
      (pass cluster scene gateway now).1 = .ok (facts, starting s facts.decisions) ∧
      (pass cluster scene gateway now).2.ready = now.ready ++ starting s facts.decisions := by
  intro s
  obtain ⟨facts, plan, decisions, seeds, ends⟩ :=
    Scene.exists_facts accepted alone scene cluster now.ready now.memory
  -- All that the pass asks of the probers is to take its seeds and its readiness.
  have result := run_of_ends ends (List.forall_mem_cons.2 ⟨gateway.takesSeeds seeds,
    List.forall_mem_singleton.2 (gateway.takesReady s.regionReady)⟩) now.probers
  refine ⟨facts, plan, decisions, ?_⟩
  rw [pass]
  cases played : (Pass.facts spec cluster s scene.directory now.memory).run.run gateway.serve
      now.probers with
  | mk outcome probers =>
    rw [played] at result
    cases result
    exact ⟨rfl, rfl⟩

/-- The pods that start after the first batches are those of the next one, and once no batch is
    left the plan has converged. -/
theorem starting_eq (accepted : spec.check = .ok ()) (cluster : Identity) (scene : Scene spec)
    {k : Nat} {ready : List String} (h : ready = ((schedule cluster.name spec).take k).flatten) :
    let order := schedule cluster.name spec
    let s := scene.snapshot cluster ready
    starting s ((Plan.ofRegion s).decisions s) = order[k]?.getD [] ∧
      (k < order.length → ∃ dc ∈ spec.datacenters, Plan.ofRegion s = .initializing dc.name) ∧
      (order.length ≤ k → Plan.ofRegion s = .converged ∧ ∀ m ∈ s.members, m.ready = true) := by
  intro order s
  subst h
  rcases Nat.lt_or_ge k order.length with more | past
  · have split : order = order.take k ++ order[k] :: order.drop (k + 1) := by
      rw [← List.drop_eq_getElem_cons more, List.take_append_drop]
    obtain ⟨dc, hd, plan, start⟩ := exists_turn scene.places accepted split
    refine ⟨?_, fun _ => ⟨dc, hd, plan⟩, fun past => absurd more (by omega)⟩
    rw [List.getElem?_eq_getElem more]
    exact (congrArg (fun plan : Plan => starting s (plan.decisions s)) plan).trans start
  · have all : ∀ name ∈ declaredNames cluster.name spec, name ∈ (order.take k).flatten := by
      rw [List.take_of_length_le past]
      exact fun name hn => schedule_perm.mem_iff.2 hn
    obtain ⟨plan, ready, start⟩ := turn_of_all scene.places accepted all
    refine ⟨?_, fun more => absurd more (by omega), fun _ => ⟨plan, ready⟩⟩
    rw [List.getElem?_eq_none past]
    exact (congrArg (fun plan : Plan => starting s (plan.decisions s)) plan).trans start

/-- After some passes just the pods of as many batches are ready. -/
theorem ready_standing (accepted : spec.check = .ok ()) (alone : spec.hostPort.enabled = false)
    (k : Nat) : (standing cluster scenes gateway memory probers k).ready =
      ((schedule cluster.name spec).take k).flatten := by
  induction k with
  | zero => rfl
  | succ k ih =>
    obtain ⟨facts, plan, decisions, -, ready⟩ := exists_pass accepted alone cluster (scenes k)
      gateway (standing cluster scenes gateway memory probers k)
    -- By induction those that start in this pass are the next batch, if one is left.
    rw [standing, ready, decisions, plan, (starting_eq accepted cluster (scenes k) ih).1, ih,
      List.take_add_one, List.flatten_append]
    cases (schedule cluster.name spec)[k]? with
    | none => rfl
    | some batch => simp

/-- The pods start batch by batch, in the order of the schedule, one batch in each pass, and every
    pass before the last batch is in brings up some datacenter. Afterwards the plan has
    converged: every member is ready and runs, for ever. Every declared pod starts in one
    batch, and none is empty. -/
theorem starts_in_order (cluster : Identity) (accepted : spec.check = .ok ())
    (alone : spec.hostPort.enabled = false) (scenes : Nat → Scene spec) (gateway : Gateway σ)
    (memory : Table String) (probers : σ) :
    let order := schedule cluster.name spec
    let now := standing cluster scenes gateway memory probers
    (∀ k, ∃ facts, (pass cluster (scenes k) gateway (now k)).1 = .ok (facts, order[k]?.getD []) ∧
      (k < order.length → ∃ dc ∈ spec.datacenters, facts.plan = .initializing dc.name) ∧
      (order.length ≤ k → facts.plan = .converged ∧
        ∀ m ∈ ((scenes k).snapshot cluster (now k).ready).members,
          m.ready = true ∧ facts.decisions.get? m.name = some .run)) ∧
    order.flatten.Perm (declaredNames cluster.name spec) ∧
    (declaredNames cluster.name spec).Nodup ∧ [] ∉ order := by
  intro order now
  refine ⟨fun k => ?_, schedule_perm, nodup_declaredNames accepted, nil_not_mem_schedule⟩
  obtain ⟨facts, plan, decisions, result, -⟩ :=
    exists_pass accepted alone cluster (scenes k) gateway (now k)
  obtain ⟨start, before, after⟩ := starting_eq accepted cluster (scenes k)
    (ready_standing accepted alone k : (now k).ready = _)
  refine ⟨facts, ?_, ?_, fun past => ?_⟩
  · rw [result, decisions, plan, start]
  · rw [plan]
    exact before
  · obtain ⟨converged, ready⟩ := after past
    have decided {m : Member} (hm : m ∈ ((scenes k).snapshot cluster (now k).ready).members) :=
      Plan.get?_decisions (nodup_declaredAt accepted) hm Plan.converged
    rw [decisions, plan, converged]
    exact ⟨rfl, fun m hm => ⟨ready m hm, decided hm⟩⟩

/-- Two datacenters, with three nodes and with two. -/
def pair : Spec := { datacenters := [⟨"one", 3⟩, ⟨"two", 2⟩] }

/-- All pods run on one host. -/
def together : Scene pair where
  places _ _ := ⟨"u", "10.0.0.1", "node"⟩
  directory := { hosts := Table.empty.insert "node" {} }
  exposed := rfl
  placed _ _ _ _ _ _ := ⟨by decide, {}, rfl⟩

/-- Probers that note what they are told, and reach no other region. -/
def noting : Gateway Published where
  serve := Peers.serve {}
  takesSeeds _ _ := rfl
  takesReady _ _ := rfl

theorem starts_in_order_pair :
    let cluster : Identity := ⟨"c", "default"⟩
    let now := standing cluster (fun _ => together) noting Table.empty {}
    pair.check = .ok () ∧ pair.hostPort.enabled = false ∧
      schedule cluster.name pair = [["c-cassandra-one-0", "c-cassandra-one-1"],
        ["c-cassandra-one-2"], ["c-cassandra-two-0"], ["c-cassandra-two-1"]] ∧
      ∀ k, ∃ facts, (pass cluster together noting (now k)).1 =
          .ok (facts, (schedule cluster.name pair)[k]?.getD []) ∧
        (4 ≤ k → facts.plan = .converged) := by
  intro cluster now
  have order : schedule cluster.name pair = [["c-cassandra-one-0", "c-cassandra-one-1"],
      ["c-cassandra-one-2"], ["c-cassandra-two-0"], ["c-cassandra-two-1"]] := by
    decide +kernel
  refine ⟨rfl, rfl, order, fun k => ?_⟩
  obtain ⟨facts, result, -, after⟩ :=
    (starts_in_order cluster rfl rfl (fun _ => together) noting Table.empty {}).1 k
  exact ⟨facts, result, fun past => (after (by rwa [order])).1⟩

end RingOperator.Bringup
