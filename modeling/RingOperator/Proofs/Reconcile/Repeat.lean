import RingOperator.Proofs.Naming
import RingOperator.Proofs.Pass.Facts
import RingOperator.Proofs.Reconcile.World
import RingOperator.Proofs.Scaling.Results

/-!
# A pass once more

A pass that succeeds and finds nothing to scale leaves nothing to do: once more, against
what it left and with the same answers of the probers, it comes to the same report and
finds out the same, and it writes nothing (`repeats_quietly`).

Each part of the pass leaves the server such that the part asks no write of it again.
The labels are in line (`Lists.settles`), what is remembered is remembered already
(`Pass.yields_facts_again`), both config maps hold what would be written
(`Kept.yields_record`), and no intent is due (`step_eq_idle`).
-/

namespace RingOperator

open Dialogue

/-- With the memory that a pass leaves, and the same answers, it derives the same. -/
theorem Pass.yields_facts_again {σ : Type}
    {serve : (ask : Regions.Ask) → σ → Regions.Reply ask × σ} {q : Regions.Ask → Prop}
    {spec : Spec} {cluster : Identity} {s : Snapshot} {directory : Directory}
    {memory : Table String} {prober prober' : σ} {found : PassFacts}
    (h : Yields serve q (facts spec cluster s directory memory) prober found prober') :
    Yields serve q (facts spec cluster s directory found.memory) prober found prober' := by
  rw [facts_eq] at h ⊢
  obtain ⟨addresses, reached, onward⟩ := yields_bind_outcome.1 h
  obtain ⟨told, between, talked, further⟩ := yields_bind.1 onward
  obtain ⟨sheet, built, last⟩ := yields_bind_outcome.1 further
  obtain ⟨rfl, rfl⟩ := yields_pure.1 last
  have same : StartSheet.remember (StartSheet.remember memory s addresses) s addresses =
      StartSheet.remember memory s addresses := StartSheet.remember_remember
  refine yields_bind_outcome.2 ⟨addresses, reached, yields_bind.2 ⟨told, _, talked, ?_⟩⟩
  refine yields_bind_outcome.2 ⟨sheet, ?_, yields_pure.2 ⟨?_, rfl⟩⟩
  · rw [gathered, same, built]
  · simp only [gathered, same]

/-- Where nothing is due, a scaling step does nothing. -/
theorem Scaling.step_eq_idle {s : Snapshot} {intents : List Intent}
    (rest : intents.find? (·.isDue s) = none) (now : Instant) (cluster : String) (spec : Spec)
    (addresses : Table String) : step now cluster spec s addresses intents = pure .idle := by
  rw [step_eq, rest]

namespace Reconcile

open Surroundings (onServer)

variable {σ : Type} {probe : Http.Request → σ → Http.Reply × σ} {q : Ask → Prop}
  {w w' : World σ} {around : Surroundings} {spec : Spec}

/-- A request that writes nothing. -/
def Ask.Quiet (ask : Ask) : Prop := ask.writes = false

theorem quiet_of_get (call : Api.Call) (reads : call.verb = .get) : Ask.Quiet (.api call) := by
  simp [Ask.Quiet, Ask.writes, reads]

/-! ## Config maps -/

/-- The server holds a memory of addresses, or none where it is empty. -/
def Recalls (around : Surroundings) (memory : Table String) (server : Api.Server) : Prop :=
  ∃ stored, recalled stored = memory ∧ Yields Api.Server.answer (·.verb = .get)
    (Api.getConfigMap around.identity.space (Naming.addressMemory around.identity.name)) server
    stored server

/-- What the facts of a pass are written into is there already. -/
structure Kept (around : Surroundings) (facts : PassFacts) (server : Api.Server) : Prop where
  memory : Recalls around facts.memory server
  entries : server.Holds (Naming.startEntries around.identity.name) facts.sheet.render

variable {memory : Table String} {facts : PassFacts} {server server' : Api.Server}

theorem Recalls.of_holds
    (holds : server.Holds (Naming.addressMemory around.identity.name) memory) :
    Recalls around memory server := by
  obtain ⟨object, map, present, decoded, same⟩ := holds
  refine ⟨some map, ?_, Api.Server.yields_getConfigMap.2 ⟨rfl, rfl, ?_⟩⟩
  · rw [recalled, Option.bind_some, same, Option.getD_some]
  · rw [present]
    exact ⟨map, decoded, rfl⟩

theorem Recalls.congr (recalls : Recalls around memory server)
    (same : server'.object? .configMaps (Naming.addressMemory around.identity.name) =
      server.object? .configMaps (Naming.addressMemory around.identity.name)) :
    Recalls around memory server' := by
  obtain ⟨stored, holds, yields⟩ := recalls
  obtain ⟨reads, -, found⟩ := Api.Server.yields_getConfigMap.1 yields
  refine ⟨stored, holds, Api.Server.yields_getConfigMap.2 ⟨reads, rfl, ?_⟩⟩
  rw [same]
  exact found

/-- After the facts were written down, they are there, and only config maps have changed. -/
theorem kept_of_yields (recalls : Recalls around memory w.server)
    (h : Yields (World.serve probe) q (record around memory facts) w () w') :
    ∃ server, w' = { w with server } ∧ Kept around facts server ∧
      ∀ resource ≠ .configMaps, server.ofKind resource = w.server.ofKind resource := by
  have differ := Naming.addressMemory_ne_startEntries around.identity.name
  rw [record] at h
  by_cases changed : facts.memory ≠ memory
  · rw [if_pos changed] at h
    obtain ⟨_, _, first, second⟩ := yields_bind.1 h
    obtain ⟨between, remembers, rfl⟩ := yields_onServer.1 first
    obtain ⟨server, enters, rfl⟩ := yields_onServer.1 second
    obtain ⟨remembered, others⟩ := Api.Server.applies remembers
    obtain ⟨entered, others'⟩ := Api.Server.applies enters
    refine ⟨server, rfl, ⟨?_, entered⟩, fun resource other => ?_⟩
    · exact (Recalls.of_holds remembered).congr (others'.maps _ differ)
    · rw [others'.kinds _ other, others.kinds _ other]
  · rw [if_neg changed] at h
    obtain ⟨server, enters, rfl⟩ := yields_onServer.1 h
    obtain ⟨entered, others⟩ := Api.Server.applies enters
    refine ⟨server, rfl, ⟨?_, entered⟩, others.kinds⟩
    rw [Decidable.not_not.1 changed]
    exact recalls.congr (others.maps _ differ)

/-- Facts that are there are not written once more. -/
theorem Kept.yields_record (kept : Kept around facts w.server) :
    Yields (World.serve probe) Ask.Quiet (record around facts.memory facts) w () w := by
  rw [record, if_neg (by simp)]
  refine yields_onServer.2 ⟨w.server, ?_, rfl⟩
  exact (Api.Server.yields_applyConfigMap kept.entries).mono quiet_of_get

/-- Once more, the facts are derived alike and not written. -/
theorem writeFacts_repeats {s : Snapshot} {directory : Directory}
    (h : Yields (World.serve probe) q (writeFacts around spec s directory) w facts w') :
    (∀ resource ≠ .configMaps, w'.server.ofKind resource = w.server.ofKind resource) ∧
      Yields (World.serve probe) Ask.Quiet (writeFacts around spec s directory)
        { w' with prober := w.prober } facts w' := by
  rw [writeFacts_eq] at h ⊢
  obtain ⟨stored, _, read, onward⟩ := yields_bind.1 h
  obtain ⟨_, reads, rfl⟩ := yields_onServer.1 read
  obtain ⟨_, _, derived, further⟩ := yields_bind.1 onward
  obtain ⟨prober, derives, rfl⟩ := yields_onProbers.1 derived
  obtain ⟨_, _, written, last⟩ := yields_bind.1 further
  obtain ⟨-, ends⟩ := yields_count.1 last
  obtain ⟨rfl, rfl⟩ := yields_pure.1 ends
  obtain ⟨-, rfl, found⟩ := Api.Server.yields_getConfigMap.1 reads
  have recalls : Recalls around (recalled stored) w.server :=
    ⟨stored, rfl, Api.Server.yields_getConfigMap.2 ⟨rfl, rfl, found⟩⟩
  obtain ⟨server, rfl, kept, others⟩ := kept_of_yields (w := ⟨w.server, prober⟩) recalls written
  refine ⟨others, ?_⟩
  obtain ⟨stored', same, reads'⟩ := kept.memory
  refine yields_bind.2 ⟨stored', { server, prober := w.prober },
    yields_onServer.2 ⟨server, reads'.mono quiet_of_get, rfl⟩, ?_⟩
  rw [same]
  refine yields_bind.2 ⟨facts, { server, prober }, yields_onProbers.2 ⟨prober, ?_, rfl⟩, ?_⟩
  · exact (Pass.yields_facts_again derives).mono fun _ _ => rfl
  · refine yields_bind.2 ⟨(), _, kept.yields_record, ?_⟩
    exact yields_count.2 ⟨rfl, yields_pure.2 ⟨rfl, rfl⟩⟩

/-! ## The whole pass -/

/-- A step that did nothing, because nothing is due, changes nothing. -/
theorem idle_of_yields {s : Snapshot} {now : Instant} {cluster : String}
    {addresses : Table String} {intents : List Scaling.Intent}
    (h : Yields (World.serve probe) q
      (around.onAll (Scaling.step now cluster spec s addresses intents)) w .idle w') :
    w' = w ∧ intents.find? (·.isDue s) = none := by
  obtain ⟨log, ends⟩ := ends_run (World.serve probe)
    (around.onAll (Scaling.step now cluster spec s addresses intents)).run w
  rw [h.run_eq] at ends
  obtain ⟨inner, -, ends⟩ := ends_within.1 ends
  have rest := (Scaling.ends_idle_iff.1 ends).2
  rw [Scaling.step_eq_idle rest] at h
  exact ⟨(yields_pure.1 h).2, rest⟩

theorem Lists.congr {l : Listing} (lists : Lists server spec l)
    (same : ∀ resource ≠ .configMaps, server'.ofKind resource = server.ofKind resource) :
    Lists server' spec l := by
  refine ⟨?_, ?_, ?_⟩
  · rw [same _ (by decide)]
    exact lists.pods
  · rw [same _ (by decide)]
    exact lists.sets
  · rw [same _ (by decide)]
    exact lists.nodes

/-- Once more, the labels are in line, and the facts are derived alike and not written. -/
theorem prepare_repeats {l : Listing} {found : Option PassFacts} (lists : Lists w.server spec l)
    (keeps : KeepsPods w.server)
    (h : Yields (World.serve probe) q (prepare around spec l) w found w') :
    ∃ pods, Lists w'.server spec { l with pods } ∧
      { l with pods }.settled spec around.identity.name = l.settled spec around.identity.name ∧
      Yields (World.serve probe) Ask.Quiet (prepare around spec { l with pods })
        { w' with prober := w.prober } found w' := by
  obtain ⟨_, _, patched, onward⟩ := yields_bind.1 h
  obtain ⟨server, rfl, relabeled⟩ := Relabeled.of_yields keeps patched
  obtain ⟨pods, lists', changes, settled⟩ := lists.settles keeps relabeled
  have again : prepare around spec { l with pods } =
      if (l.settled spec around.identity.name).isEmpty then pure none
      else do
        let facts ← writeFacts around spec (l.settled spec around.identity.name)
          (l.directory spec)
        return some facts := by
    simp only [prepare, changes, settled, relabel, pure_bind]
    rfl
  by_cases alone : (l.settled spec around.identity.name).isEmpty = true
  · simp only [alone, if_true] at onward
    obtain ⟨rfl, rfl⟩ := yields_pure.1 onward
    refine ⟨pods, lists', settled, ?_⟩
    rw [again, if_pos alone]
    exact yields_pure.2 ⟨rfl, rfl⟩
  · simp only [alone] at onward
    obtain ⟨facts, _, written, last⟩ := yields_bind.1 onward
    obtain ⟨rfl, rfl⟩ := yields_pure.1 last
    obtain ⟨others, repeats⟩ := writeFacts_repeats written
    refine ⟨pods, lists'.congr others, settled, ?_⟩
    rw [again, if_neg alone]
    exact yields_bind.2 ⟨facts, _, repeats, yields_pure.2 ⟨rfl, rfl⟩⟩

/-- A scaling step that did nothing does nothing at any time, if the snapshot is the same. -/
theorem scale_repeats {l : Listing} {found : Option PassFacts} {report : PassReport}
    (h : Yields (World.serve probe) q (scale around spec l found) w report w')
    (idle : report.scale = .idle) : w' = w ∧
      ∀ (now : Instant) (pods : List Pod) (v : World σ),
        { l with pods }.settled spec around.identity.name =
          l.settled spec around.identity.name →
        Yields (World.serve probe) Ask.Quiet
          (scale { around with now } spec { l with pods } found) v report v := by
  rw [scale_eq] at h
  obtain ⟨result, _, stepped, onward⟩ := yields_bind.1 h
  obtain ⟨_, _, tallied, last⟩ := yields_bind.1 onward
  obtain ⟨rfl, rfl⟩ := yields_pure.1 last
  obtain rfl : result = .idle := idle
  obtain ⟨-, rfl⟩ := yields_pure.1 tallied
  obtain ⟨rfl, rest⟩ := idle_of_yields stepped
  refine ⟨rfl, fun now pods v settled => ?_⟩
  rw [scale_eq]
  simp only [settled, Scaling.step_eq_idle rest]
  exact yields_bind.2 ⟨.idle, v, yields_pure.2 ⟨rfl, rfl⟩,
    yields_bind.2 ⟨(), v, yields_pure.2 ⟨rfl, rfl⟩, yields_pure.2 ⟨rfl, rfl⟩⟩⟩

/-- A pass that succeeds and finds nothing to scale leaves nothing to do. At any later time, once
    more against what it left and with the same answers of the probers, it succeeds with the same
    report and leaves everything as it is; what it derives, the memory of addresses and the
    start-up entries among it, is the same; and none of its requests writes anything. Pods have to
    be kept under their names, nothing else is asked of the server. -/
theorem repeats_quietly {settings : Settings} {cluster : Cluster} {now : Instant}
    {server : Api.Server} {prober : σ} {report : PassReport} {left : World σ}
    (named : ∀ name object pod, server.object? .pods name = some object →
      Pod.decode object = some pod → pod.metadata.name = name)
    (first : (reconcile settings cluster now).run.run (World.serve probe) ⟨server, prober⟩ =
      (.ok report, left))
    (idle : report.scale = .idle) (later : Instant) :
    (reconcile settings cluster later).run.run (World.serve probe) ⟨left.server, prober⟩ =
        (.ok report, left) ∧
      (∀ ask ∈ (reconcile settings cluster later).run.requests (World.serve probe)
        ⟨left.server, prober⟩, ask.writes = false) ∧
      ∃ l l' facts,
        ((explore settings cluster now).run.run (World.serve probe) ⟨server, prober⟩).1 =
            .ok (l, facts) ∧
          ((explore settings cluster later).run.run (World.serve probe)
            ⟨left.server, prober⟩).1 = .ok (l', facts) := by
  have whole : Yields (World.serve probe) (fun _ => True) (reconcile settings cluster now)
      ⟨server, prober⟩ report left := ⟨first, fun _ _ => trivial⟩
  rw [reconcile_eq_explore] at whole
  obtain ⟨⟨l, facts⟩, between, explored, scaled⟩ := yields_bind.1 whole
  obtain ⟨_, valid, onward⟩ := yields_bind_outcome.1 explored
  obtain ⟨_, _, listed, further⟩ := yields_bind.1 onward
  obtain ⟨rfl, lists⟩ := (yields_list fun _ _ => trivial).1 listed
  obtain ⟨_, _, prepared, last⟩ := yields_bind.1 further
  obtain ⟨same, rfl⟩ := yields_pure.1 last
  cases same
  obtain ⟨pods, lists', settled, again⟩ := prepare_repeats lists (lists.keepsPods named) prepared
  obtain ⟨rfl, rests⟩ := scale_repeats scaled idle
  have exploredAgain : Yields (World.serve probe) Ask.Quiet (explore settings cluster later)
      { left with prober } ({ l with pods }, facts) left := by
    refine yields_bind_outcome.2 ⟨_, valid,
      yields_bind.2 ⟨{ l with pods }, { left with prober }, ?_, ?_⟩⟩
    · exact (yields_list quiet_of_get).2 ⟨rfl, lists'⟩
    · exact yields_bind.2 ⟨facts, left, again, yields_pure.2 ⟨rfl, rfl⟩⟩
  have secondPass : Yields (World.serve probe) Ask.Quiet (reconcile settings cluster later)
      { left with prober } report left := by
    rw [reconcile_eq_explore]
    exact yields_bind.2 ⟨_, left, exploredAgain, rests later pods left settled⟩
  exact ⟨secondPass.run_eq, secondPass.asked, l, { l with pods }, facts,
    congrArg (·.1) explored.run_eq, congrArg (·.1) exploredAgain.run_eq⟩

/-! ## Labels astray -/

/-- The object of a pod that is ready. -/
def podObject (name ip : String) (labels : List (String × Json)) : Json :=
  .object [
    ("metadata", .object [("name", .text name),
      ("labels", .object ((Labels.datacenterKey, .text "dc") :: labels))]),
    ("status", .object [("podIP", .text ip),
      ("containerStatuses", .array [.object [("ready", .bool true)]])])]

/-- Two pods, of which the wrong one carries the seed label. -/
def strayPods : List (String × Json) := [
  ("c-cassandra-dc-0", podObject "c-cassandra-dc-0" "10.0.0.1" []),
  ("c-cassandra-dc-1", podObject "c-cassandra-dc-1" "10.0.0.2"
    [(Labels.seedKey, .text "c-cassandra-dc-1")])]

/-- The StatefulSet of two nodes. -/
def pairSet : Json := .object [
  ("metadata", .object [("name", .text "c-cassandra-dc"),
    ("labels", .object [(Labels.datacenterKey, .text "dc")])]),
  ("spec", .object [("replicas", .integer 2)]),
  ("status", .object [("readyReplicas", .integer 2)])]

/-- Start-up entries for nobody. -/
def blankEntries : Json := .object [
  ("metadata", .object [("name", .text "c-pods-config"), ("resourceVersion", .text "7")]),
  ("data", .object [])]

/-- A server with all of these, and without a memory of addresses. -/
def stray : Api.Server where
  objects := Table.ofList [("pods", Table.ofList strayPods),
    ("statefulsets", Table.ofList [("c-cassandra-dc", pairSet)]),
    ("configmaps", Table.ofList [("c-pods-config", blankEntries)])]

/-- The cluster of the two nodes. -/
def pair : Cluster where
  metadata := { name := "c" }
  space := some "default"
  ownName := some "c"
  spec := { datacenters := [⟨"dc", 2⟩] }
  status := none

/-- A prober that takes whatever it is told, and counts. -/
def willing (_ : Http.Request) (told : Nat) : Http.Reply × Nat := (.ok ⟨200, ""⟩, told + 1)

theorem named_strayPods {name : String} {object : Json} {pod : Pod}
    (present : stray.object? .pods name = some object) (decoded : Pod.decode object = some pod) :
    pod.metadata.name = name := by
  have kept : stray.ofKind .pods = Table.ofList strayPods := by
    rw [Api.Server.ofKind, stray, Table.get?_ofList]
    rfl
  rw [Api.Server.object?, kept] at present
  have each : ∀ e ∈ strayPods, (Pod.decode e.2).map (·.metadata.name) = some e.1 := by
    decide +kernel
  have same := each _ (Table.mem_of_get?_ofList present)
  rw [decoded] at same
  exact Option.some.inj same

/-- The first pass exchanges the labels, replaces the entries and creates the memory. The second one
    only reads. -/
theorem repeats_quietly_stray : ∃ report left,
    (reconcile {} pair ⟨0, 0⟩).run.run (World.serve willing) ⟨stray, 0⟩ = (.ok report, left) ∧
    report.scale = .idle ∧
    ((reconcile {} pair ⟨0, 0⟩).run.requests (World.serve willing) ⟨stray, 0⟩).countP (·.writes) =
      4 ∧
    (reconcile {} pair ⟨60, 0⟩).run.run (World.serve willing) ⟨left.server, 0⟩ =
      (.ok report, left) ∧
    ∀ ask ∈ (reconcile {} pair ⟨60, 0⟩).run.requests (World.serve willing) ⟨left.server, 0⟩,
      ask.writes = false := by
  have idle : ((reconcile {} pair ⟨0, 0⟩).run.run (World.serve willing) ⟨stray, 0⟩).1.map
      (·.scale) = .ok .idle := by decide +kernel
  have writes : ((reconcile {} pair ⟨0, 0⟩).run.requests (World.serve willing)
      ⟨stray, 0⟩).countP (·.writes) = 4 := by decide +kernel
  obtain ⟨⟨_ | report, left⟩, first⟩ :
      ∃ result, (reconcile {} pair ⟨0, 0⟩).run.run (World.serve willing) ⟨stray, 0⟩ = result :=
    ⟨_, rfl⟩
  · rw [first] at idle
    cases idle
  · rw [first] at idle
    have idle : report.scale = .idle := Except.ok.inj idle
    obtain ⟨again, quiet, -⟩ :=
      repeats_quietly (fun _ _ _ => named_strayPods) first idle ⟨60, 0⟩
    exact ⟨report, left, first, idle, writes, again, quiet⟩

end Reconcile

end RingOperator
