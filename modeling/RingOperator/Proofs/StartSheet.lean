import RingOperator.Proofs.Table
import RingOperator.StartSheet

/-!
# Entries for all members

When addresses (`Directory.exists_addresses_iff`) and start-up entries
(`StartSheet.exists_build_iff`) are there for every member, so that a pass does not
fail on them, and what they are: an address is one that the member is reached at
(`Directory.Reaches`), and an entry describes its member (`StartSheet.Describes`).
-/

namespace RingOperator

section Each

variable {ε α β : Type} {f : α → Except ε β} {l : List α}

theorem mapM_cons_eq_ok_iff {a : α} {bs : List β} : (a :: l).mapM f = .ok bs ↔
    ∃ b rest, f a = .ok b ∧ l.mapM f = .ok rest ∧ bs = b :: rest := by
  rw [List.mapM_cons]
  cases f a with
  | error failure => simp [Bind.bind, Except.bind]
  | ok b =>
    cases l.mapM f with
    | error failure => simp [Bind.bind, Except.bind]
    | ok rest => simp [Bind.bind, Except.bind, Pure.pure, Except.pure, eq_comm]

theorem keyed_eq_ok_iff {key : α → String} {a : α} {entry : String × β} :
    (do return (key a, ← f a) : Except ε _) = .ok entry ↔
      ∃ b, f a = .ok b ∧ entry = (key a, b) := by
  cases f a <;> simp [Bind.bind, Except.bind, Pure.pure, Except.pure, eq_comm]

theorem mapM_eq_ok {g : α → β} (h : ∀ a ∈ l, f a = .ok (g a)) : l.mapM f = .ok (l.map g) := by
  induction l with
  | nil => rfl
  | cons a l ih =>
    obtain ⟨first, rest⟩ := List.forall_mem_cons.1 h
    exact mapM_cons_eq_ok_iff.2 ⟨_, _, first, ih rest, rfl⟩

theorem exists_mapM_eq_ok (h : ∀ a ∈ l, ∃ b, f a = .ok b) : ∃ bs, l.mapM f = .ok bs := by
  induction l with
  | nil => exact ⟨[], rfl⟩
  | cons a l ih =>
    obtain ⟨⟨b, first⟩, rest⟩ := List.forall_mem_cons.1 h
    obtain ⟨bs, later⟩ := ih rest
    exact ⟨b :: bs, mapM_cons_eq_ok_iff.2 ⟨b, bs, first, later, rfl⟩⟩

/-- Values that are computed one by one, each under its key. -/
theorem keyed_of_mapM_eq_ok {key : α → String} {entries : List (String × β)}
    (h : (l.mapM fun a => do return (key a, ← f a)) = .ok entries) :
    entries.map (·.1) = l.map key ∧ ∀ a ∈ l, ∃ b, f a = .ok b ∧ (key a, b) ∈ entries := by
  induction l generalizing entries with
  | nil =>
    cases h
    simp
  | cons a l ih =>
    obtain ⟨_, later, computed, rest, rfl⟩ := mapM_cons_eq_ok_iff.1 h
    obtain ⟨b, first, rfl⟩ := keyed_eq_ok_iff.1 computed
    obtain ⟨keys, each⟩ := ih rest
    refine ⟨congrArg (key a :: ·) keys, List.forall_mem_cons.2 ⟨?_, fun a' ha => ?_⟩⟩
    · exact ⟨b, first, List.mem_cons_self⟩
    · obtain ⟨b', found, hm⟩ := each a' ha
      exact ⟨b', found, List.mem_cons_of_mem _ hm⟩

theorem entries_of_table_eq_ok {key : α → String} {t : Table β}
    (h : (do return Table.ofList (← l.mapM fun a => do return (key a, ← f a)) : Except ε _) =
      .ok t) :
    ∃ entries, (l.mapM fun a => do return (key a, ← f a)) = .ok entries ∧
      t = Table.ofList entries := by
  cases computed : l.mapM fun a => do return (key a, ← f a) with
  | error failure =>
    rw [computed] at h
    cases h
  | ok entries =>
    rw [computed] at h
    cases h
    exact ⟨entries, rfl, rfl⟩

/-- The table of such values has the keys. -/
theorem mem_keys_of_table_eq_ok {key : α → String} {t : Table β}
    (h : (do return Table.ofList (← l.mapM fun a => do return (key a, ← f a)) : Except ε _) =
      .ok t) (k : String) : k ∈ t.keys ↔ k ∈ l.map key := by
  obtain ⟨entries, computed, rfl⟩ := entries_of_table_eq_ok h
  exact (keyed_of_mapM_eq_ok computed).1 ▸ Table.mem_keys_ofList

/-- The table of such values has the keys, and under each of them, if they differ from each other,
    its value. -/
theorem table_of_mapM_eq_ok {key : α → String} {t : Table β} (distinct : (l.map key).Nodup)
    (h : (do return Table.ofList (← l.mapM fun a => do return (key a, ← f a)) : Except ε _) =
      .ok t) :
    (∀ k, k ∈ t.keys ↔ k ∈ l.map key) ∧ ∀ a ∈ l, ∃ b, f a = .ok b ∧ t.get? (key a) = some b := by
  obtain ⟨entries, computed, rfl⟩ := entries_of_table_eq_ok h
  obtain ⟨keys, each⟩ := keyed_of_mapM_eq_ok computed
  refine ⟨mem_keys_of_table_eq_ok h, fun a ha => ?_⟩
  obtain ⟨b, found, hm⟩ := each a ha
  exact ⟨b, found, Table.get?_ofList_of_mem (keys ▸ distinct) hm⟩

/-- If values are computed one by one, each of them is that of an element. -/
theorem exists_of_mem_of_mapM_eq_ok {b : β} {bs : List β} (h : l.mapM f = .ok bs) (hb : b ∈ bs) :
    ∃ a ∈ l, f a = .ok b := by
  induction l generalizing bs with
  | nil =>
    cases h
    cases hb
  | cons a l ih =>
    obtain ⟨b', later, first, rest, rfl⟩ := mapM_cons_eq_ok_iff.1 h
    rcases List.mem_cons.1 hb with rfl | hb
    · exact ⟨a, List.mem_cons_self, first⟩
    · obtain ⟨a', ha, found⟩ := ih rest hb
      exact ⟨a', List.mem_cons_of_mem _ ha, found⟩

/-- So a table of such values has nothing but these. -/
theorem exists_of_table_get? {key : α → String} {t : Table β} {k : String} {b : β}
    (h : (do return Table.ofList (← l.mapM fun a => do return (key a, ← f a)) : Except ε _) =
      .ok t) (found : t.get? k = some b) : ∃ a ∈ l, key a = k ∧ f a = .ok b := by
  obtain ⟨entries, computed, rfl⟩ := entries_of_table_eq_ok h
  obtain ⟨a, ha, entry⟩ := exists_of_mem_of_mapM_eq_ok computed (Table.mem_of_get?_ofList found)
  obtain ⟨_, value, ⟨⟩⟩ := keyed_eq_ok_iff.1 entry
  exact ⟨a, ha, rfl, value⟩

/-- There is such a table just if there are all the values. -/
theorem exists_table_iff {key : α → String} :
    (∃ t, (do return Table.ofList (← l.mapM fun a => do return (key a, ← f a)) : Except ε _) =
      .ok t) ↔ ∀ a ∈ l, ∃ b, f a = .ok b := by
  constructor
  · rintro ⟨t, h⟩ a ha
    obtain ⟨entries, computed, -⟩ := entries_of_table_eq_ok h
    obtain ⟨b, found, -⟩ := (keyed_of_mapM_eq_ok computed).2 a ha
    exact ⟨b, found⟩
  · intro h
    have each : ∀ a ∈ l, ∃ entry, (do return (key a, ← f a) : Except ε _) = .ok entry := by
      intro a ha
      obtain ⟨b, found⟩ := h a ha
      exact ⟨(key a, b), keyed_eq_ok_iff.2 ⟨b, found, rfl⟩⟩
    obtain ⟨entries, computed⟩ := exists_mapM_eq_ok each
    exact ⟨Table.ofList entries, by rw [computed]; rfl⟩

/-- If values are computed one by one, it is one of them that fails. -/
theorem exists_of_mapM_eq_error {failure : ε} (h : l.mapM f = .error failure) :
    ∃ a ∈ l, f a = .error failure := by
  induction l with
  | nil => cases h
  | cons a l ih =>
    rw [List.mapM_cons] at h
    cases first : f a with
    | error other =>
      rw [first] at h
      cases h
      exact ⟨a, List.mem_cons_self, first⟩
    | ok b =>
      cases rest : l.mapM f with
      | error other =>
        rw [first, rest] at h
        cases h
        obtain ⟨a', ha, failed⟩ := ih rest
        exact ⟨a', List.mem_cons_of_mem _ ha, failed⟩
      | ok bs =>
        rw [first, rest] at h
        cases h

/-- So a table of such values fails as one of them does. -/
theorem exists_of_table_eq_error {key : α → String} {failure : ε}
    (h : (do return Table.ofList (← l.mapM fun a => do return (key a, ← f a)) :
      Except ε (Table β)) = .error failure) : ∃ a ∈ l, f a = .error failure := by
  cases computed : l.mapM fun a => do return (key a, ← f a) with
  | ok entries =>
    rw [computed] at h
    cases h
  | error other =>
    rw [computed] at h
    cases h
    obtain ⟨a, ha, failed⟩ := exists_of_mapM_eq_error computed
    refine ⟨a, ha, ?_⟩
    cases found : f a with
    | error other =>
      rw [found] at failed
      cases failed
      rfl
    | ok b =>
      rw [found] at failed
      cases failed

end Each

/-- Where nodes do not use the network of their hosts, the addresses of members are those of
    their pods. -/
theorem Directory.addresses_eq_ok {d : Directory} {members : List Member}
    (alone : d.hostPort.enabled = false) (h : ∀ m ∈ members, ∃ address, m.podIp = some address) :
    d.addresses members =
      .ok (Table.ofList (members.map fun m => (m.name, m.podIp.getD ""))) := by
  have each : ∀ m ∈ members, (do return (m.name, ← d.address m) : Outcome _) =
      .ok (m.name, m.podIp.getD "") := by
    intro m hm
    obtain ⟨own, found⟩ := h m hm
    rw [address, alone, found]
    rfl
  rw [addresses, mapM_eq_ok each]
  rfl

namespace Directory

variable {d : Directory} {m : Member}

/-- The host of the member is known. -/
def Knows (d : Directory) (m : Member) (host : Host) : Prop :=
  ∃ node, m.nodeName = some node ∧ d.hosts.get? node = some host

/-- The member is reached at the address: it is the one of its pod or, on the network of its host,
    the internal or external one of the host. -/
def Reaches (d : Directory) (m : Member) (address : String) : Prop :=
  if d.hostPort.enabled then
    ∃ host, d.Knows m host ∧
      (if d.hostPort.useExternal then host.external else host.internal) = some address
  else m.podIp = some address

theorem host_eq_ok_iff {host : Host} : d.host m = .ok host ↔ d.Knows m host := by
  unfold Directory.host Knows
  cases m.nodeName with
  | none => simp
  | some node => cases found : d.hosts.get? node <;> simp [found]

theorem address_eq_ok_iff {address : String} :
    d.address m = .ok address ↔ d.Reaches m address := by
  unfold Directory.address Reaches
  split
  · simp only [← host_eq_ok_iff]
    cases d.host m with
    | error failure => simp [Bind.bind, Except.bind]
    | ok host =>
      obtain ⟨internal, external, zone⟩ := host
      cases d.hostPort.useExternal <;> cases internal <;> cases external <;>
        simp [Bind.bind, Except.bind]
  · cases m.podIp <;> simp

/-- A member is reached at one address only. -/
theorem Reaches.unique {address address' : String} (h : d.Reaches m address)
    (h' : d.Reaches m address') : address = address' := by
  rw [← address_eq_ok_iff] at h h'
  cases h.symm.trans h'
  rfl

/-- There are addresses for all members just if each of them is reached at one. -/
theorem exists_addresses_iff {members : List Member} :
    (∃ addresses, d.addresses members = .ok addresses) ↔
      ∀ m ∈ members, ∃ address, d.Reaches m address := by
  simp only [← address_eq_ok_iff]
  exact exists_table_iff

/-- Every member has an address among those that are found. -/
theorem exists_get?_addresses {members : List Member} {addresses : Table String}
    (h : d.addresses members = .ok addresses) (hm : m ∈ members) :
    ∃ address, addresses.get? m.name = some address :=
  Table.mem_keys_iff.1 ((mem_keys_of_table_eq_ok h m.name).2 (List.mem_map_of_mem hm))

/-- The addresses are those that the members are reached at. -/
theorem addresses_spec {members : List Member} {addresses : Table String}
    (distinct : (members.map (·.name)).Nodup) (h : d.addresses members = .ok addresses) :
    (∀ name, name ∈ addresses.keys ↔ name ∈ members.map (·.name)) ∧
      ∀ m ∈ members, ∃ address, d.Reaches m address ∧ addresses.get? m.name = some address := by
  simp only [← address_eq_ok_iff]
  exact table_of_mapM_eq_ok distinct h

end Directory

namespace StartSheet

variable {spec : Spec} {s : Snapshot} {directory : Directory} {addresses memory : Table String}
  {seeds : List String} {decisions : Table Decision}

/-- The address of a pod counts if it is not empty. -/
theorem filled?_of_mem {members : List Member} (distinct : (members.map (·.name)).Nodup)
    {m : Member} (hm : m ∈ members) {own : String} (found : m.podIp = some own) (h : own ≠ "") :
    filled? (Table.ofList (members.map fun m => (m.name, m.podIp.getD ""))) m.name = some own := by
  have known : (Table.ofList (members.map fun m => (m.name, m.podIp.getD ""))).get? m.name =
      some own := by
    refine Table.get?_ofList_of_mem (by rwa [List.map_map]) (List.mem_map.2 ⟨m, hm, ?_⟩)
    rw [found]
    rfl
  rw [filled?, known, Option.bind_some, nonEmpty, if_neg h]

/-- What an entry says of its member: its instance, its address and decision, where it was before,
    and the seeds that everyone gets. Racks are named if they are asked for. -/
structure Describes (spec : Spec) (directory : Directory) (addresses : Table String)
    (seeds : List String) (decisions : Table Decision) (memory : Table String) (m : Member)
    (facts : PodFacts) : Prop where
  uid : facts.uid = m.uid
  rpc : m.podIp = some facts.rpc
  broadcast : addresses.get? m.name = some facts.broadcast
  filled : facts.broadcast ≠ ""
  decided : decisions.get? m.name = some facts.decision
  previous : facts.previous = (memory.get? m.name).getD ""
  seeded : facts.seeds = seeds
  racked : spec.zonesAsRacks = true → ∃ host, directory.host m = .ok host ∧
    facts.rack = some (host.zone.getD "") ∧ facts.snitch = some rackSnitch
  unracked : spec.zonesAsRacks = false → facts.rack = none ∧ facts.snitch = none

theorem filled?_eq_some_iff {table : Table String} {key value : String} :
    filled? table key = some value ↔ table.get? key = some value ∧ value ≠ "" := by
  rw [filled?]
  cases table.get? key with
  | none => simp
  | some found =>
    rw [Option.bind_some, nonEmpty]
    grind

/-- The entry of a member that has addresses and a decision. -/
theorem factsOf_eq {m : Member} {pod broadcast : String} {decision : Decision}
    (hasPod : m.podIp = some pod) (reached : filled? addresses m.name = some broadcast)
    (decided : decisions.get? m.name = some decision) :
    factsOf spec directory addresses seeds decisions memory m =
      if spec.zonesAsRacks then (directory.host m).map fun host => {
        uid := m.uid, decision, broadcast, rpc := pod
        previous := (memory.get? m.name).getD ""
        seeds, rack := some (host.zone.getD ""), snitch := some rackSnitch }
      else .ok {
        uid := m.uid, decision, broadcast, rpc := pod
        previous := (memory.get? m.name).getD ""
        seeds, rack := none, snitch := none } := by
  rw [factsOf, hasPod, reached, decided, Directory.zone]
  cases spec.zonesAsRacks <;> cases directory.host m <;> rfl

/-- A member has an entry just if it has addresses and a decision and, where racks are asked for,
    its host is known; the entry describes it. -/
theorem factsOf_eq_ok_iff {m : Member} {facts : PodFacts} :
    factsOf spec directory addresses seeds decisions memory m = .ok facts ↔
      Describes spec directory addresses seeds decisions memory m facts := by
  constructor
  · intro h
    cases pod : m.podIp with
    | none => simp only [factsOf, pod] at h; cases h
    | some rpc =>
    cases reached : filled? addresses m.name with
    | none => simp only [factsOf, pod, reached] at h; cases h
    | some broadcast =>
    cases decided : decisions.get? m.name with
    | none => simp only [factsOf, pod, reached, decided] at h; cases h
    | some decision =>
    obtain ⟨known, filled⟩ := filled?_eq_some_iff.1 reached
    rw [factsOf_eq pod reached decided] at h
    cases asked : spec.zonesAsRacks with
    | false =>
      rw [if_neg (by simp [asked])] at h
      cases h
      exact ⟨rfl, pod, known, filled, decided, rfl, rfl, by simp [asked], fun _ => ⟨rfl, rfl⟩⟩
    | true =>
      rw [if_pos asked] at h
      cases hosted : directory.host m with
      | error failure => rw [hosted] at h; cases h
      | ok host =>
        rw [hosted] at h
        cases h
        exact ⟨rfl, pod, known, filled, decided, rfl, rfl,
          fun _ => ⟨host, hosted, rfl, rfl⟩, by simp [asked]⟩
  · rintro ⟨uid, rpc, broadcast, filled, decided, previous, seeded, racked, unracked⟩
    rw [factsOf_eq rpc (filled?_eq_some_iff.2 ⟨broadcast, filled⟩) decided, ← uid, ← previous,
      ← seeded]
    split
    · rename_i asked
      obtain ⟨host, hosted, rack, snitch⟩ := racked asked
      rw [hosted, Except.map, ← rack, ← snitch]
    · rename_i free
      obtain ⟨rack, snitch⟩ := unracked (by simpa using free)
      cases facts
      cases rack
      cases snitch
      rfl

/-- So it has one if all of these are there. -/
theorem exists_factsOf_iff {m : Member} :
    (∃ facts, factsOf spec directory addresses seeds decisions memory m = .ok facts) ↔
      (∃ address, m.podIp = some address) ∧
      (∃ address, addresses.get? m.name = some address ∧ address ≠ "") ∧
      (∃ decision, decisions.get? m.name = some decision) ∧
      (spec.zonesAsRacks = true → ∃ host, directory.host m = .ok host) := by
  simp only [factsOf_eq_ok_iff]
  constructor
  · rintro ⟨facts, h⟩
    exact ⟨⟨_, h.rpc⟩, ⟨_, h.broadcast, h.filled⟩, ⟨_, h.decided⟩,
      fun asked => (h.racked asked).imp fun _ found => found.1⟩
  · rintro ⟨⟨rpc, pod⟩, ⟨broadcast, known, filled⟩, ⟨decision, decided⟩, hosted⟩
    cases asked : spec.zonesAsRacks with
    | false =>
      exact ⟨⟨m.uid, decision, broadcast, rpc, _, seeds, none, none⟩, rfl, pod, known, filled,
        decided, rfl, rfl, by simp [asked], fun _ => ⟨rfl, rfl⟩⟩
    | true =>
      obtain ⟨host, found⟩ := hosted asked
      exact ⟨⟨m.uid, decision, broadcast, rpc, _, seeds, some (host.zone.getD ""),
        some rackSnitch⟩, rfl, pod, known, filled, decided, rfl, rfl,
        fun _ => ⟨host, found, rfl, rfl⟩, by simp [asked]⟩

/-- A member has an entry if it has addresses and a decision and its host is known. -/
theorem exists_factsOf {m : Member} {pod broadcast : String} {decision : Decision} {host : Host}
    (hasPod : m.podIp = some pod) (reached : filled? addresses m.name = some broadcast)
    (decided : decisions.get? m.name = some decision) (known : directory.host m = .ok host) :
    ∃ facts, factsOf spec directory addresses seeds decisions memory m = .ok facts :=
  exists_factsOf_iff.2 ⟨⟨pod, hasPod⟩, ⟨broadcast, filled?_eq_some_iff.1 reached⟩,
    ⟨decision, decided⟩, fun _ => ⟨host, known⟩⟩

/-- There are entries for all members just if there is one for each. -/
theorem exists_build_iff :
    (∃ sheet, build spec s directory addresses seeds decisions memory = .ok sheet) ↔
      ∀ m ∈ s.members, ∃ facts,
        factsOf spec directory addresses seeds decisions memory m = .ok facts :=
  exists_table_iff

/-- What a sheet has under a name describes a member of the name. -/
theorem describes_of_get? {sheet : StartSheet} {name : String} {facts : PodFacts}
    (h : build spec s directory addresses seeds decisions memory = .ok sheet)
    (found : sheet.get? name = some facts) : ∃ m ∈ s.members, m.name = name ∧
      Describes spec directory addresses seeds decisions memory m facts := by
  obtain ⟨m, hm, named, made⟩ := exists_of_table_get? h found
  exact ⟨m, hm, named, factsOf_eq_ok_iff.1 made⟩

/-- Every entry of a sheet describes its member. -/
theorem build_spec {sheet : StartSheet} (distinct : (s.members.map (·.name)).Nodup)
    (h : build spec s directory addresses seeds decisions memory = .ok sheet) :
    (∀ name, name ∈ sheet.keys ↔ name ∈ s.members.map (·.name)) ∧
      ∀ m ∈ s.members, ∃ facts, sheet.get? m.name = some facts ∧
        Describes spec directory addresses seeds decisions memory m facts := by
  obtain ⟨keys, each⟩ := table_of_mapM_eq_ok distinct h
  refine ⟨keys, fun m hm => ?_⟩
  obtain ⟨facts, found, kept⟩ := each m hm
  exact ⟨facts, kept, factsOf_eq_ok_iff.1 found⟩

/-- The names of ready members are remembered with their addresses, if they have one; what is known
    of others stays. -/
theorem get?_remember (name : String) : (remember memory s addresses).get? name =
    if name ∈ (s.members.filter (·.ready)).map (·.name) then
      (filled? addresses name).or (memory.get? name)
    else memory.get? name := by
  unfold remember
  induction s.members.filter (·.ready) generalizing memory with
  | nil => rfl
  | cons m rest ih =>
    rw [List.foldl_cons, ih]
    -- The first member enters its name only.
    by_cases same : name = m.name
    · subst same
      cases filled? addresses m.name <;> simp [Table.get?_insert]
    · cases filled? addresses m.name <;> simp [Table.get?_insert, same]

/-- To remember the same once more changes nothing. -/
theorem remember_remember : remember (remember memory s addresses) s addresses =
    remember memory s addresses := by
  refine Table.ext_get? fun name => ?_
  rw [get?_remember]
  split
  · rename_i ready
    rw [get?_remember, if_pos ready, ← Option.or_assoc, Option.or_self]
  · rfl

end StartSheet

end RingOperator
