import RingOperator.Proofs.Pass.Calls
import RingOperator.Proofs.StartSheet

/-!
# All facts of a pass, or none

A pass goes through stages that may fail: every member must be reached at an
address, the calls must be answered favourably, and every member must have an
entry for its start. Between the addresses and the entries a pass only talks
(`Pass.talk`, `Pass.ends_facts`). It succeeds just if nothing is missing
(`Pass.complete_or_none`), and then all that it derives is about the same
members and fits together (`Pass.Coherent`).
-/

namespace RingOperator

open Dialogue

namespace Pass

open Regions (Favourable Follows)

variable {spec : Spec} {cluster : Identity} {s : Snapshot} {directory : Directory}
  {addresses memory : Table String} {log : List (Entry Regions.Reply)}
  {result : Outcome PassFacts}

/-! ## What is asked in between -/

/-- All that a pass asks, once it has found the addresses. -/
def talk (spec : Spec) (cluster : Identity) (s : Snapshot) (addresses : Table String) :
    Regions.Exchange (List String × Plan) := do
  let seeds ← Regions.allSeeds spec cluster addresses
  Regions.publishReady s.regionReady
  let plan ← Plan.make spec cluster s
  return (seeds, plan)

theorem follows_talk :
    Follows (talk spec cluster s addresses) (calls spec cluster s addresses) := by
  refine follows_allSeeds.bind fun seeds => ?_
  refine (Regions.follows_publishReady s.regionReady).bind fun _ => ?_
  have planned : Follows (do return (seeds, ← Plan.make spec cluster s))
      (inquiries spec cluster ++ []) := follows_make.bind fun plan => Follows.pure (seeds, plan)
  rwa [List.append_nil] at planned

/-- The facts, once the entries are made. -/
def gathered (s : Snapshot) (addresses memory : Table String) (told : List String × Plan)
    (sheet : StartSheet) : PassFacts where
  addresses := addresses
  seeds := told.1
  plan := told.2
  decisions := told.2.decisions s
  memory := StartSheet.remember memory s addresses
  sheet := sheet

/-- What a pass derives from what it was told. -/
def conclude (spec : Spec) (s : Snapshot) (directory : Directory) (addresses memory : Table String)
    (told : List String × Plan) : Outcome PassFacts :=
  (StartSheet.build spec s directory addresses told.1 (told.2.decisions s)
    (StartSheet.remember memory s addresses)).map (gathered s addresses memory told)

theorem facts_eq : facts spec cluster s directory memory =
    (liftM (directory.addresses s.members) : Regions.Exchange _) >>= fun addresses =>
      talk spec cluster s addresses >>= fun told =>
        (liftM (StartSheet.build spec s directory addresses told.1 (told.2.decisions s)
          (StartSheet.remember memory s addresses)) : Regions.Exchange _) >>= fun sheet =>
            pure (gathered s addresses memory told sheet) := by
  simp only [facts, talk, gathered, bind_assoc, pure_bind]

/-- A pass finds the addresses, talks, and concludes. -/
theorem ends_facts : (facts spec cluster s directory memory).run.Ends log result ↔
    (∃ failure, directory.addresses s.members = .error failure ∧ log = [] ∧
      result = .error failure) ∨
    ∃ addresses, directory.addresses s.members = .ok addresses ∧
      ((∃ failure, (talk spec cluster s addresses).run.Ends log (.error failure) ∧
        result = .error failure) ∨
      ∃ told, (talk spec cluster s addresses).run.Ends log (.ok told) ∧
        result = conclude spec s directory addresses memory told) := by
  rw [facts_eq, ends_bind_outcome]
  refine or_congr Iff.rfl (exists_congr fun addresses => and_congr_right fun _ => ?_)
  rw [ends_bind_except]
  simp only [ends_map_outcome]
  constructor
  · rintro (failed | ⟨first, _, told, rfl, talked, rfl, same⟩)
    · exact .inl failed
    · exact .inr ⟨told, by rwa [List.append_nil], same⟩
  · rintro (failed | ⟨told, talked, same⟩)
    · exact .inl failed
    · exact .inr ⟨log, [], told, (List.append_nil log).symm, talked, rfl, same⟩

/-! ## What is derived -/

/-- What a pass derives fits together: its tables are about the members, and each entry of the
    sheet describes its member as the other tables have it. -/
structure Coherent (spec : Spec) (s : Snapshot) (directory : Directory) (memory : Table String)
    (found : PassFacts) : Prop where
  addressed : ∀ name, name ∈ found.addresses.keys ↔ name ∈ s.members.map (·.name)
  decided : ∀ name, name ∈ found.decisions.keys ↔ name ∈ s.members.map (·.name)
  listed : ∀ name, name ∈ found.sheet.keys ↔ name ∈ s.members.map (·.name)
  reached : ∀ m ∈ s.members, ∃ address, directory.Reaches m address ∧
    found.addresses.get? m.name = some address
  planned : ∀ m ∈ s.members, found.decisions.get? m.name = some (found.plan.decisionFor s m)
  /-- The address of a ready member is remembered. -/
  remembered : ∀ m ∈ s.members, m.ready = true →
    found.memory.get? m.name = found.addresses.get? m.name
  /-- What is remembered of others stays. -/
  kept : ∀ name, (∀ m ∈ s.members, m.ready = true → m.name ≠ name) →
    found.memory.get? name = memory.get? name
  described : ∀ m ∈ s.members, ∃ facts, found.sheet.get? m.name = some facts ∧
    StartSheet.Describes spec directory found.addresses found.seeds found.decisions found.memory m
      facts

variable {told : List String × Plan}

theorem conclude_eq_ok_iff {found : PassFacts} :
    conclude spec s directory addresses memory told = .ok found ↔
      ∃ sheet, StartSheet.build spec s directory addresses told.1 (told.2.decisions s)
        (StartSheet.remember memory s addresses) = .ok sheet ∧
          found = gathered s addresses memory told sheet := by
  unfold conclude
  cases StartSheet.build spec s directory addresses told.1 (told.2.decisions s)
    (StartSheet.remember memory s addresses) <;> simp [Except.map, eq_comm]

/-- Given all addresses, the facts are there just if every member has an address of its own, no
    address is empty, and the hosts are known where racks are asked for. -/
theorem exists_conclude_iff (distinct : (s.members.map (·.name)).Nodup)
    (reached : directory.addresses s.members = .ok addresses) :
    (∃ found, conclude spec s directory addresses memory told = .ok found) ↔
      (∀ m ∈ s.members, ∃ address, m.podIp = some address) ∧
      (∀ m ∈ s.members, ∃ address, directory.Reaches m address ∧ address ≠ "") ∧
      (spec.zonesAsRacks = true → ∀ m ∈ s.members, ∃ host, directory.Knows m host) := by
  have sheet : (∃ found, conclude spec s directory addresses memory told = .ok found) ↔
      ∃ sheet, StartSheet.build spec s directory addresses told.1 (told.2.decisions s)
        (StartSheet.remember memory s addresses) = .ok sheet := by
    simp only [conclude_eq_ok_iff]
    exact ⟨fun ⟨_, sheet, built, _⟩ => ⟨sheet, built⟩, fun ⟨sheet, built⟩ => ⟨_, sheet, built, rfl⟩⟩
  rw [sheet, StartSheet.exists_build_iff]
  simp only [StartSheet.exists_factsOf_iff, Directory.host_eq_ok_iff]
  obtain ⟨-, known⟩ := Directory.addresses_spec distinct reached
  constructor
  · intro each
    refine ⟨fun m hm => (each m hm).1, fun m hm => ?_, fun asked m hm => (each m hm).2.2.2 asked⟩
    obtain ⟨address, reaches, found⟩ := known m hm
    obtain ⟨-, ⟨same, found', filled⟩, -⟩ := each m hm
    cases found.symm.trans found'
    exact ⟨address, reaches, filled⟩
  · rintro ⟨own, filled, hosted⟩ m hm
    obtain ⟨address, reaches, found⟩ := known m hm
    obtain ⟨same, reaches', filled⟩ := filled m hm
    obtain rfl := reaches.unique reaches'
    exact ⟨own m hm, ⟨address, found, filled⟩, ⟨_, Plan.get?_decisions distinct hm told.2⟩,
      fun asked => hosted asked m hm⟩

/-- The facts fit together. -/
theorem coherent_of_conclude (distinct : (s.members.map (·.name)).Nodup)
    (reached : directory.addresses s.members = .ok addresses) {found : PassFacts}
    (h : conclude spec s directory addresses memory told = .ok found) :
    Coherent spec s directory memory found := by
  obtain ⟨sheet, built, rfl⟩ := conclude_eq_ok_iff.1 h
  obtain ⟨addressed, known⟩ := Directory.addresses_spec distinct reached
  obtain ⟨listed, described⟩ := StartSheet.build_spec distinct built
  refine {
    addressed, listed, described
    decided := fun name => Plan.mem_keys_decisions
    reached := known
    planned := fun m hm => Plan.get?_decisions distinct hm told.2
    remembered := fun m hm ready => ?_
    kept := fun name others => ?_ }
  · obtain ⟨facts, -, entry⟩ := described m hm
    have filled := StartSheet.filled?_eq_some_iff.2 ⟨entry.broadcast, entry.filled⟩
    have among : m.name ∈ (s.members.filter (·.ready)).map (·.name) :=
      List.mem_map.2 ⟨m, List.mem_filter.2 ⟨hm, ready⟩, rfl⟩
    show (StartSheet.remember memory s addresses).get? m.name = addresses.get? m.name
    rw [StartSheet.get?_remember, if_pos among, filled, entry.broadcast, Option.some_or]
  · refine (StartSheet.get?_remember name).trans (if_neg fun among => ?_)
    obtain ⟨m, hm, same⟩ := List.mem_map.1 among
    obtain ⟨hm, ready⟩ := List.mem_filter.1 hm
    exact others m hm ready same

/-- A pass asks no more than its calls. It succeeds just if every member has an address of its own
    and is reached at one that is not empty, its host is known where racks are asked for, and every
    call is answered favourably: both own facts are told, and every region that is asked has seeds
    and answers whether it is ready. Then it has made all its calls, and what it derives fits
    together. -/
theorem complete_or_none (distinct : (s.members.map (·.name)).Nodup)
    (h : (facts spec cluster s directory memory).run.Ends log result) :
    (∀ addresses, directory.addresses s.members = .ok addresses →
      log.map (·.1) <+: calls spec cluster s addresses) ∧
    ((∃ found, result = .ok found) ↔
      (∀ m ∈ s.members, ∃ address, m.podIp = some address) ∧
      (∀ m ∈ s.members, ∃ address, directory.Reaches m address ∧ address ≠ "") ∧
      (spec.zonesAsRacks = true → ∀ m ∈ s.members, ∃ host, directory.Knows m host) ∧
      ∀ e ∈ log, Favourable e) ∧
    ∀ found, result = .ok found →
      log.map (·.1) = calls spec cluster s found.addresses ∧
      Coherent spec s directory memory found := by
  obtain ⟨failure, failed, rfl, rfl⟩ | ⟨addresses, reached, h⟩ := ends_facts.1 h
  -- A member is not reached at all.
  · refine ⟨fun _ _ => List.nil_prefix, iff_of_false (by simp) fun ⟨_, all, _⟩ => ?_, by simp⟩
    obtain ⟨addresses, found⟩ := Directory.exists_addresses_iff.2 fun m hm =>
      (all m hm).imp fun _ => And.left
    cases failed.symm.trans found
  have begun {result : Outcome (List String × Plan)}
      (talked : (talk spec cluster s addresses).run.Ends log result) addresses'
      (reached' : directory.addresses s.members = .ok addresses') :
      log.map (·.1) <+: calls spec cluster s addresses' := by
    cases reached.symm.trans reached'
    exact follows_talk.begun talked
  obtain ⟨failure, failed, rfl⟩ | ⟨told, talked, rfl⟩ := h
  -- A reply lets the pass down.
  · refine ⟨begun failed, iff_of_false (by simp) fun ⟨_, _, _, good⟩ => ?_, by simp⟩
    obtain ⟨_, ⟨⟩⟩ := (follows_talk.succeeds failed).2 good
  · have good := (follows_talk.succeeds talked).1 ⟨told, rfl⟩
    refine ⟨begun talked, ?_, fun found ok => ⟨?_, coherent_of_conclude distinct reached ok⟩⟩
    · rw [exists_conclude_iff distinct reached]
      exact ⟨fun ⟨own, filled, hosted⟩ => ⟨own, filled, hosted, good⟩,
        fun ⟨own, filled, hosted, _⟩ => ⟨own, filled, hosted⟩⟩
    · obtain ⟨sheet, -, rfl⟩ := conclude_eq_ok_iff.1 ok
      exact follows_talk.complete talked

/-- Two nodes in this region, with the zones of their hosts as racks, and another region. -/
def paired : Spec := { spanning with datacenters := [⟨"dc", 2⟩], zonesAsRacks := true }

/-- The first node is ready, the other one is not. -/
def halfway : Snapshot where
  members := [
    { name := "c-cassandra-dc-0", dc := "dc", podIp := some "10.1.0.1", nodeName := some "n"
      ready := true, seed := true },
    { name := "c-cassandra-dc-1", dc := "dc", ordinal := 1, podIp := some "10.1.0.2"
      nodeName := some "m" }]
  datacenters := [⟨"dc", 2, some 1⟩]

/-- Each node has a host of its own, in a zone of its own. -/
def zoned : Directory where
  hostPort := paired.hostPort
  hosts := Table.ofList [("n", { internal := some "10.0.0.1", zone := some "east" }),
    ("m", { internal := some "10.0.0.2", zone := some "west" })]

theorem addresses_halfway : zoned.addresses halfway.members =
    .ok (Table.ofList [("c-cassandra-dc-0", "10.0.0.1"), ("c-cassandra-dc-1", "10.0.0.2")]) := by
  rfl

/-- The other region has seeds and is ready. -/
def answered : List (Entry Regions.Reply) :=
  [⟨.publishSeeds ["10.0.0.1"], .ok ()⟩, ⟨.seedsOf elsewhere, .ok ["10.0.1.1"]⟩,
    ⟨.publishReady false, .ok ()⟩, ⟨.readyOf elsewhere, .ok true⟩]

theorem complete_or_none_spanning : (halfway.members.map (·.name)).Nodup ∧
    halfway.members.length = 2 ∧
    ∃ found, (facts paired spanningIdentity halfway zoned Table.empty).run.Ends answered
        (.ok found) ∧
      answered.map (·.1) = calls paired spanningIdentity halfway found.addresses ∧
      Coherent paired halfway zoned Table.empty found := by
  have distinct : (halfway.members.map (·.name)).Nodup := by decide
  have ends : (facts paired spanningIdentity halfway zoned Table.empty).run.Ends answered
      (conclude paired halfway zoned
        (Table.ofList [("c-cassandra-dc-0", "10.0.0.1"), ("c-cassandra-dc-1", "10.0.0.2")])
        Table.empty (["10.0.0.1", "10.0.1.1"], .ofRegion halfway)) := by
    have own : Seeding.localSeeds paired spanningIdentity
        (Table.ofList [("c-cassandra-dc-0", "10.0.0.1"), ("c-cassandra-dc-1", "10.0.0.2")]) =
          ["10.0.0.1"] := by
      decide +kernel
    refine ends_facts.2 (.inr ⟨_, addresses_halfway, .inr ⟨_, ?_, rfl⟩⟩)
    rw [talk, allSeeds_eq, bind_assoc, own]
    exact ⟨_, _, rfl, _, _, rfl, _, _, rfl, _, _, rfl, rfl, rfl⟩
  obtain ⟨-, succeeds, fits⟩ := complete_or_none distinct ends
  obtain ⟨found, same⟩ := succeeds.2 <| by
    refine ⟨by simp [halfway], ?_, ?_, by simp [answered, Favourable]⟩
    · simp only [halfway, List.forall_mem_cons]
      exact ⟨⟨"10.0.0.1", ⟨_, ⟨"n", rfl, rfl⟩, rfl⟩, by decide⟩,
        ⟨"10.0.0.2", ⟨_, ⟨"m", rfl, rfl⟩, rfl⟩, by decide⟩, by simp⟩
    · intro _
      simp only [halfway, List.forall_mem_cons]
      exact ⟨⟨_, "n", rfl, rfl⟩, ⟨_, "m", rfl, rfl⟩, by simp⟩
  rw [same] at ends
  exact ⟨distinct, rfl, found, ends, fits found same⟩

end Pass

end RingOperator
