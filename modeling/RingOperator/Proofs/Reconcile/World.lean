import RingOperator.Proofs.Api.Server
import RingOperator.Proofs.Reconcile.Listing
import RingOperator.Proofs.Seeding

/-!
# The world of a pass

A pass meets the API server, which keeps the objects of the cluster, and the probers,
which answer as they like (`World`). What it lists is what the server keeps
(`yields_list`), and when it brings the seed labels in line, the pods that the server
keeps give the members with their labels in line (`Relabeled.of_yields`).
-/

namespace RingOperator

open Dialogue

namespace Reconcile

/-- Whether a request may change an object of the server, itself or by the task that it starts. -/
def Ask.writes : Ask → Bool
  | .api call => call.verb ≠ .get
  | .launch _ _ => true
  | .http _ | .count _ => false

variable {σ : Type}

/-- What a pass meets: the server, and the probers in whatever state they are. -/
structure World (σ : Type) where
  server : Api.Server
  prober : σ

/-- Serves the requests of a pass. -/
def World.serve (probe : Http.Request → σ → Http.Reply × σ) :
    (ask : Ask) → World σ → Reply ask × World σ
  | .api call, w =>
    let answered := Api.Server.answer call w.server
    (answered.1, { w with server := answered.2 })
  | .http request, w =>
    let answered := probe request w.prober
    (answered.1, { w with prober := answered.2 })
  | .launch _ _, w => ((), w)
  | .count _, w => ((), w)

section Exchanges

variable {α : Type} {probe : Http.Request → σ → Http.Reply × σ} {q : Ask → Prop} {w w' : World σ}
  {a : α}

/-- An exchange with the server leaves the probers alone. -/
theorem yields_onServer {x : Api.Exchange α} :
    Yields (World.serve probe) q (Surroundings.onServer x) w a w' ↔
      ∃ server, Yields Api.Server.answer (fun call => q (.api call)) x w.server a server ∧
        w' = { w with server } := by
  have serves : Serves Api.Server.answer (World.serve probe) Ask.api (fun _ answer => answer)
      fun server => { w with server } := fun _ _ => ⟨rfl, rfl⟩
  exact serves.yields_within

/-- The probers as they are asked by a pass. -/
def consult (around : Surroundings) (probe : Http.Request → σ → Http.Reply × σ)
    (ask : Regions.Ask) (prober : σ) : Regions.Reply ask × σ :=
  let answered := probe (around.prober.request ask) prober
  (around.prober.understand ask answered.1, answered.2)

/-- An exchange with the probers leaves the server alone. -/
theorem yields_onProbers {around : Surroundings} {x : Regions.Exchange α} :
    Yields (World.serve probe) q (around.onProbers x) w a w' ↔
      ∃ prober, Yields (consult around probe) (fun ask => q (.http (around.prober.request ask))) x
          w.prober a prober ∧
        w' = { w with prober } := by
  have serves : Serves (consult around probe) (World.serve probe)
      (fun ask => Ask.http (around.prober.request ask)) around.prober.understand
      fun prober => { w with prober } := fun _ _ => ⟨rfl, rfl⟩
  exact serves.yields_within

theorem yields_count {event : Telemetry.Event} {f : Unit → Exchange α} :
    Yields (World.serve probe) q (ExceptT.lift (count event) >>= f) w a w' ↔
      q (.count event) ∧ Yields (World.serve probe) q (f ()) w a w' := by
  rw [yields_bind_lift]
  exact and_congr_left fun _ => List.forall_mem_singleton

/-! ## What is listed -/

theorem yields_listed {decode : Json → Option α} {call : Api.Call} {objects : List α}
    (all : Api.Server.named? call = none) :
    Yields (World.serve probe) q (Surroundings.onServer (Api.call (Api.listed decode) call)) w
        objects w' ↔
      q (.api call) ∧ w' = w ∧
        Json.all? decode (w.server.ofKind call.resource).values = some objects := by
  have served : Api.Server.answer call w.server = (.ok (.object
      [("items", .array (w.server.ofKind call.resource).values)]), w.server) := by
    rw [Api.Server.answer, all]
  rw [yields_onServer]
  constructor
  · rintro ⟨server, yields, rfl⟩
    obtain ⟨holds, ⟨value, replied, read⟩, rfl⟩ := Api.Server.yields_call.1 yields
    rw [served] at replied ⊢
    cases replied
    exact ⟨holds, rfl, read⟩
  · rintro ⟨holds, rfl, read⟩
    refine ⟨w'.server, Api.Server.yields_call.2 ⟨holds, ?_, ?_⟩, rfl⟩
    · rw [served]
      exact ⟨_, rfl, read⟩
    · rw [served]

/-- What a server keeps is listed. -/
structure Lists (server : Api.Server) (spec : Spec) (l : Listing) : Prop where
  pods : Json.all? Pod.decode (server.ofKind .pods).values = some l.pods
  sets : Json.all? StatefulSet.decode (server.ofKind .statefulSets).values = some l.sets
  nodes : if spec.hostsMatter then
      Json.all? Node.decode (server.ofKind .nodes).values = some l.nodes
    else l.nodes = []

/-- The objects are listed as the server keeps them, and nothing changes. -/
theorem yields_list {around : Surroundings} {spec : Spec} {l : Listing}
    (reads : ∀ call, call.verb = .get → q (.api call)) :
    Yields (World.serve probe) q (list around spec) w l w' ↔
      w' = w ∧ Lists w.server spec l := by
  have nodes {nodes : List Node} {w w' : World σ} :
      Yields (World.serve probe) q (listNodes spec) w nodes w' ↔ w' = w ∧
        if spec.hostsMatter then
          Json.all? Node.decode (w.server.ofKind .nodes).values = some nodes
        else nodes = [] := by
    rw [listNodes, ← Spec.hostsMatter]
    split
    · exact (yields_listed rfl).trans (and_iff_right (reads _ rfl))
    · exact yields_pure.trans and_comm
  constructor
  · intro h
    obtain ⟨_, _, first, onward⟩ := yields_bind.1 h
    obtain ⟨-, rfl, hasPods⟩ := (yields_listed rfl).1 first
    obtain ⟨_, _, second, further⟩ := yields_bind.1 onward
    obtain ⟨-, rfl, hasSets⟩ := (yields_listed rfl).1 second
    obtain ⟨_, _, third, last⟩ := yields_bind.1 further
    obtain ⟨rfl, hasNodes⟩ := nodes.1 third
    obtain ⟨rfl, rfl⟩ := yields_pure.1 last
    exact ⟨rfl, hasPods, hasSets, hasNodes⟩
  · rintro ⟨rfl, hasPods, hasSets, hasNodes⟩
    refine yields_bind.2 ⟨l.pods, w', (yields_listed rfl).2 ⟨reads _ rfl, rfl, hasPods⟩, ?_⟩
    refine yields_bind.2 ⟨l.sets, w', (yields_listed rfl).2 ⟨reads _ rfl, rfl, hasSets⟩, ?_⟩
    exact yields_bind.2 ⟨l.nodes, w', nodes.2 ⟨rfl, hasNodes⟩, yields_pure.2 ⟨rfl, rfl⟩⟩

end Exchanges

/-! ## Seed labels in line -/

/-- The member that a pod is, told from its object. -/
def memberOf? (object : Json) : Option Member := (Pod.decode object).bind Member.ofPod?

/-- The member of a name. -/
def memberAt (server : Api.Server) (name : String) : Option Member :=
  (server.object? .pods name).bind memberOf?

/-- The members that a server keeps, in the order of their names. -/
def membersIn (server : Api.Server) : List Member :=
  (server.ofKind .pods).keys.filterMap (memberAt server)

/-- Every pod that the server keeps can be read, and it is kept under its name. -/
def KeepsPods (server : Api.Server) : Prop :=
  ∀ name object, server.object? .pods name = some object →
    ∃ pod, Pod.decode object = some pod ∧ pod.metadata.name = name

/-- The server keeps the same objects, but for the labels of pods, which give other members. -/
structure Relabeled (change : Member → Member) (server server' : Api.Server) : Prop where
  keeps : KeepsPods server'
  keys : (server'.ofKind .pods).keys = (server.ofKind .pods).keys
  members : ∀ name, memberAt server' name = (memberAt server name).map change
  kinds : ∀ resource ≠ .pods, server'.ofKind resource = server.ofKind resource

variable {server server' : Api.Server}

theorem KeepsPods.name_eq (keeps : KeepsPods server) {name : String} {m : Member}
    (h : memberAt server name = some m) : m.name = name := by
  obtain ⟨object, present, h⟩ := Option.bind_eq_some_iff.1 h
  obtain ⟨pod, decoded, named⟩ := keeps name object present
  rw [memberOf?, decoded] at h
  exact (Member.name_of_ofPod? h).trans named

theorem KeepsPods.nodup_names (keeps : KeepsPods server) :
    ((membersIn server).map (·.name)).Nodup := by
  have names : ((membersIn server).map (·.name)).Sublist ((server.ofKind .pods).keys.map id) :=
    Member.sublist_names (fun _ _ => keeps.name_eq) _
  rw [List.map_id] at names
  exact (server.ofKind .pods).nodup_keys.sublist names

theorem Relabeled.membersIn_eq {change : Member → Member}
    (relabeled : Relabeled change server server') :
    membersIn server' = (membersIn server).map change := by
  rw [membersIn, membersIn, relabeled.keys, List.map_filterMap]
  exact congrArg (List.filterMap · _) (funext relabeled.members)

theorem Relabeled.refl (keeps : KeepsPods server) : Relabeled id server server :=
  ⟨keeps, rfl, fun _ => Option.map_id_apply.symm, fun _ _ => rfl⟩

theorem Relabeled.trans {change change' : Member → Member} {server'' : Api.Server}
    (first : Relabeled change server server') (second : Relabeled change' server' server'') :
    Relabeled (change' ∘ change) server server'' where
  keeps := second.keeps
  keys := second.keys.trans first.keys
  members name := by rw [second.members, first.members, Option.map_map]
  kinds resource other := (second.kinds resource other).trans (first.kinds resource other)

/-- The object of one pod is patched: its member is touched, and no other one. -/
theorem relabeled_of_patched (keeps : KeepsPods server) {change : String × Seeding.LabelChange}
    {object : Json} {version : String} {pod : Pod}
    (present : server.object? .pods change.1 = some object)
    (decoded : Pod.decode (relabeled object change version) = some pod)
    (left : ∀ resource, server'.ofKind resource =
      if resource = .pods then
        (server.ofKind .pods).insert change.1 (relabeled object change version)
      else server.ofKind resource) : Relabeled (Seeding.touch change) server server' := by
  obtain ⟨before, decodedBefore, named⟩ := keeps _ _ present
  have pods : server'.ofKind .pods =
      (server.ofKind .pods).insert change.1 (relabeled object change version) := by
    rw [left, if_pos rfl]
  have objects (name : String) : server'.object? .pods name =
      if name = change.1 then some (relabeled object change version)
      else server.object? .pods name := by
    rw [Api.Server.object?, pods, Table.get?_insert, Api.Server.object?]
  refine ⟨fun name object' h => ?_, ?_, fun name => ?_, fun resource other => ?_⟩
  · rw [objects] at h
    split at h
    · rename_i same
      cases h
      exact ⟨pod, decoded, (name_relabeled decodedBefore decoded).trans (named.trans same.symm)⟩
    · exact keeps name object' h
  · rw [pods]
    exact Table.keys_insert_of_mem (Table.mem_keys_iff.2 ⟨object, present⟩) _
  · have touched : ∀ m ∈ memberAt server name, Seeding.touch change m =
        if name = change.1 then { m with seed := change.2 = .add } else m := fun m h => by
      rw [Seeding.touch, keeps.name_eq h]
    rw [Option.map_congr touched]
    by_cases same : name = change.1
    · subst same
      simp only [memberAt, objects, present, if_true, Option.bind_some, memberOf?, decoded,
        decodedBefore]
      exact ofPod?_relabeled decodedBefore decoded
    · simp only [memberAt, objects, if_neg same, Option.map_id']
  · rw [left, if_neg other]

/-- After seed labels were brought in line, the pods give the members with their labels changed,
    and nothing else has changed. -/
theorem Relabeled.of_yields {probe : Http.Request → σ → Http.Reply × σ} {q : Ask → Prop}
    {space : String} {changes : List (String × Seeding.LabelChange)} {w w' : World σ}
    (keeps : KeepsPods w.server)
    (h : Yields (World.serve probe) q (relabel space changes) w () w') :
    ∃ server, w' = { w with server } ∧
      Relabeled (Seeding.carry changes) w.server server := by
  induction changes generalizing w with
  | nil =>
    obtain ⟨-, rfl⟩ := yields_pure.1 h
    exact ⟨w'.server, rfl, .refl keeps⟩
  | cons change rest ih =>
    obtain ⟨pod, _, patched, onward⟩ := yields_bind.1 h
    obtain ⟨server, yields, rfl⟩ := yields_onServer.1 patched
    obtain ⟨object, version, present, decoded, left⟩ := Api.Server.yields_relabel yields
    have first := relabeled_of_patched keeps present decoded left
    obtain ⟨server', rfl, second⟩ := ih first.keeps onward
    exact ⟨server', rfl, first.trans second⟩

/-! ## Listed again -/

namespace Lists

variable {spec : Spec} {l : Listing}

/-- Where pods that can be read are kept under their names, and the listing succeeds, all of them
    can be read. -/
theorem keepsPods (lists : Lists server spec l)
    (named : ∀ name object pod, server.object? .pods name = some object →
      Pod.decode object = some pod → pod.metadata.name = name) : KeepsPods server := by
  intro name object present
  have among : object ∈ (server.ofKind .pods).values :=
    List.mem_map.2 ⟨_, Table.get?_eq_some_iff.1 present, rfl⟩
  have decoded := List.mem_map_of_mem (f := Pod.decode) among
  rw [Json.map_of_all?_eq_some lists.pods] at decoded
  obtain ⟨pod, -, same⟩ := List.mem_map.1 decoded
  exact ⟨pod, same.symm, named name object pod present same.symm⟩

/-- The members of a listing are those that the server keeps. -/
theorem members_eq (lists : Lists server spec l) :
    l.pods.filterMap Member.ofPod? = membersIn server := by
  have kept : membersIn server = (server.ofKind .pods).values.filterMap memberOf? := by
    rw [membersIn, Table.keys, Table.values, List.filterMap_map, List.filterMap_map]
    refine List.filterMap_congr fun e among => ?_
    have found : server.object? .pods e.1 = some e.2 := Table.get?_eq_some_iff.2 among
    rw [Function.comp, Function.comp, memberAt, found, Option.bind_some]
  have each : (server.ofKind .pods).values.filterMap memberOf? =
      ((server.ofKind .pods).values.map Pod.decode).filterMap (·.bind Member.ofPod?) := by
    rw [List.filterMap_map]
    rfl
  rw [kept, each, Json.map_of_all?_eq_some lists.pods, List.filterMap_map]
  rfl

theorem view_eq (lists : Lists server spec l) (cluster : String) :
    l.view spec cluster = .of (membersIn server) (Snapshot.countsOf spec cluster l.sets) := by
  rw [Listing.view, Snapshot.ofObjects, lists.members_eq]

/-- Once the labels have been brought in line, the listing changes in its pods only. It needs no
    further change, and gives the snapshot that the former one gave after its changes. -/
theorem settles (lists : Lists server spec l) (keeps : KeepsPods server) {cluster : String}
    (relabeled : Relabeled (Seeding.carry (l.changes spec cluster)) server server') :
    ∃ pods, Lists server' spec { l with pods } ∧
      { l with pods }.changes spec cluster = [] ∧
      { l with pods }.settled spec cluster = l.settled spec cluster := by
  obtain ⟨pods, hasPods⟩ : ∃ pods,
      Json.all? Pod.decode (server'.ofKind .pods).values = some pods := by
    refine Json.exists_all? fun object among => ?_
    obtain ⟨e, entry, rfl⟩ := List.mem_map.1 among
    exact (relabeled.keeps e.1 e.2 (Table.get?_eq_some_iff.2 entry)).imp fun _ h => h.1
  have lists' : Lists server' spec { l with pods } := by
    refine ⟨hasPods, ?_, ?_⟩
    · rw [relabeled.kinds _ (by decide)]
      exact lists.sets
    · rw [relabeled.kinds _ (by decide)]
      exact lists.nodes
  have distinct : ((l.view spec cluster).members.map (·.name)).Nodup := by
    rw [lists.view_eq]
    exact ((Snapshot.arrange_perm _).map _).nodup_iff.2 keeps.nodup_names
  -- The members are those of before, each with its label in line.
  have members : ({ l with pods }.view spec cluster).members =
      (l.view spec cluster).members.map (Seeding.carry (l.changes spec cluster)) := by
    rw [lists'.view_eq, lists.view_eq, relabeled.membersIn_eq]
    exact Snapshot.arrange_map (Seeding.name_carry _) _
  have changes : { l with pods }.changes spec cluster = [] := by
    rw [Listing.changes, members, Listing.changes, Seeding.labelChanges_carry distinct]
  refine ⟨pods, lists', changes, ?_⟩
  rw [Listing.settled, Listing.settled, changes, Snapshot.relabeled, Snapshot.relabeled,
    Seeding.foldl_relabel distinct, List.foldl_nil, members]
  rfl

end Lists

end Reconcile

end RingOperator
