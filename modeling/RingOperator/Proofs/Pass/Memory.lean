import Mathlib.Data.List.Nodup
import RingOperator.Proofs.Pass.Facts

/-!
# The memory of addresses

Passes follow one another, and each of them hands its memory of addresses to the
next; one that fails leaves the memory as it was (`Pass.History`). Pods come, go,
restart at other addresses and become unready in between, and the declaration may
change as well. After any passes, the memory holds of every pod the address at
which it was last ready, or what was known of it in the beginning, and loses
nothing; and what a node is told about where it was before is just that, the
current pass included (`Pass.History.remembers_last_ready`).
-/

namespace RingOperator.Pass

open Dialogue

/-- A pass, and what came of it. -/
structure Visit where
  spec : Spec
  cluster : Identity
  seen : Snapshot
  directory : Directory
  result : Outcome PassFacts

namespace Visit

/-- From a memory, the pass can come to its result, whatever it was replied. -/
structure Goes (v : Visit) (memory : Table String) : Prop where
  distinct : (v.seen.members.map (·.name)).Nodup
  ends : ∃ log, (facts v.spec v.cluster v.seen v.directory memory).run.Ends log v.result

/-- The memory that the pass leaves. -/
def after (v : Visit) (memory : Table String) : Table String :=
  match v.result with
  | .ok found => found.memory
  | .error _ => memory

/-- The address of a pod, if the pass succeeded and the pod was a ready member. -/
def readyAddress? (v : Visit) (name : String) : Option String :=
  match v.result with
  | .ok _ => do
    let m ← v.seen.member? name
    if m.ready then (v.directory.address m).toOption else none
  | .error _ => none

end Visit

/-- The address of a pod in the last pass that succeeded and had it as a ready member. -/
def lastReady? (visits : List Visit) (name : String) : Option String :=
  visits.reverse.findSome? (·.readyAddress? name)

/-- Passes one after another, from a first memory to a last one. -/
inductive History : Table String → List Visit → Table String → Prop
  | finish (memory : Table String) : History memory [] memory
  | pass {memory last : Table String} {v : Visit} {visits : List Visit} (goes : v.Goes memory)
      (rest : History (v.after memory) visits last) : History memory (v :: visits) last

/-! ## One pass -/

variable {memory last : Table String} {v : Visit} {visits : List Visit}

theorem Visit.Goes.coherent (goes : v.Goes memory) {found : PassFacts}
    (succeeds : v.result = .ok found) :
    Coherent v.spec v.seen v.directory memory found := by
  obtain ⟨log, ends⟩ := goes.ends
  rw [succeeds] at ends
  obtain ⟨_, -, -, ⟨⟩⟩ | ⟨addresses, reached, ⟨_, -, ⟨⟩⟩ | ⟨told, -, concluded⟩⟩ :=
    ends_facts.1 ends
  exact coherent_of_conclude goes.distinct reached concluded.symm

/-- A pass enters its ready members, and nothing else changes. -/
theorem Visit.Goes.get?_after (goes : v.Goes memory) (name : String) :
    (v.after memory).get? name = (v.readyAddress? name).or (memory.get? name) := by
  unfold Visit.after Visit.readyAddress?
  cases succeeds : v.result with
  | error failure => rfl
  | ok found =>
    have fits := goes.coherent succeeds
    -- Where the pod is no ready member, its entry stays.
    have stays (others : ∀ m ∈ v.seen.members, m.ready = true → m.name ≠ name) :
        found.memory.get? name = (none : Option String).or (memory.get? name) :=
      fits.kept name others
    cases present : v.seen.member? name with
    | none =>
      refine stays fun m hm _ => ?_
      simpa using List.find?_eq_none.1 present m hm
    | some m =>
      have hm := List.mem_of_find?_eq_some present
      have named : m.name = name := by simpa using List.find?_some present
      cases ready : m.ready with
      | false =>
        simp only [Option.bind_eq_bind, Option.bind_some, ready, Bool.false_eq_true, if_false]
        refine stays fun n hn isReady same => ?_
        obtain rfl := List.inj_on_of_nodup_map goes.distinct hn hm (same.trans named.symm)
        rw [ready] at isReady
        cases isReady
      | true =>
        obtain ⟨address, reaches, known⟩ := fits.reached m hm
        simp only [Option.bind_eq_bind, Option.bind_some, ready, if_true,
          Directory.address_eq_ok_iff.2 reaches]
        rw [← named, fits.remembered m hm ready, known]
        rfl

/-! ## All passes -/

theorem lastReady?_cons (v : Visit) (visits : List Visit) (name : String) :
    lastReady? (v :: visits) name = (lastReady? visits name).or (v.readyAddress? name) := by
  rw [lastReady?, List.reverse_cons, List.findSome?_append, List.findSome?_singleton]
  rfl

namespace History

theorem get?_eq (h : History memory visits last) (name : String) :
    last.get? name = (lastReady? visits name).or (memory.get? name) := by
  induction h with
  | finish => rfl
  | pass goes _ ih => rw [ih, goes.get?_after, lastReady?_cons, Option.or_assoc]

/-- What is remembered stays so. -/
theorem keys_subset (h : History memory visits last) : memory.keys ⊆ last.keys := by
  intro name among
  obtain ⟨address, known⟩ := Table.mem_keys_iff.1 among
  rw [Table.mem_keys_iff, h.get?_eq, known]
  cases lastReady? visits name <;> simp

/-- A history is cut anywhere. -/
theorem split {earlier later : List Visit} (h : History memory (earlier ++ later) last) :
    ∃ between, History memory earlier between ∧ History between later last := by
  induction earlier generalizing memory with
  | nil => exact ⟨memory, .finish memory, h⟩
  | cons v earlier ih =>
    obtain _ | ⟨goes, rest⟩ := h
    obtain ⟨between, first, second⟩ := ih rest
    exact ⟨between, .pass goes first, second⟩

theorem append {earlier later : List Visit} {between : Table String}
    (h : History memory earlier between) (h' : History between later last) :
    History memory (earlier ++ later) last := by
  induction h with
  | finish => exact h'
  | pass goes _ ih => exact .pass goes (ih h')

/-- After any passes, the memory holds of every pod the address that it had in the last successful
    pass in which it was a ready member, or else what was known of it in the beginning. At no time
    an entry is lost. And in every pass that succeeds, the entry of a member says that it was before
    where the memory has it after this very pass, or nothing if the memory does not have it. -/
theorem remembers_last_ready (h : History memory visits last) :
    (∀ name, last.get? name = (lastReady? visits name).or (memory.get? name)) ∧
    (∀ earlier later, visits = earlier ++ later → ∃ between, History memory earlier between ∧
      memory.keys ⊆ between.keys ∧ between.keys ⊆ last.keys) ∧
    ∀ earlier v later found, visits = earlier ++ v :: later → v.result = .ok found →
      ∀ m ∈ v.seen.members, ∃ entry, found.sheet.get? m.name = some entry ∧
        entry.previous =
          ((lastReady? (earlier ++ [v]) m.name).or (memory.get? m.name)).getD "" := by
  refine ⟨h.get?_eq, ?_, ?_⟩
  · rintro earlier later rfl
    obtain ⟨between, first, second⟩ := h.split
    exact ⟨between, first, first.keys_subset, second.keys_subset⟩
  · rintro earlier v later found rfl succeeds m hm
    obtain ⟨between, first, _ | ⟨goes, -⟩⟩ := h.split
    obtain ⟨entry, listed, describes⟩ := (goes.coherent succeeds).described m hm
    refine ⟨entry, listed, ?_⟩
    -- The pass describes its members by the memory that it leaves.
    have left : v.after between = found.memory := by rw [Visit.after, succeeds]
    have through := (first.append (.pass goes (.finish _))).get?_eq m.name
    rw [describes.previous, ← left, through]

/-! ## A node that restarts -/

/-- A datacenter of one node, without other regions. -/
def single : Spec := { datacenters := [⟨"dc", 1⟩] }

/-- The one node, wherever it is. -/
def lone (podIp : Option String) (ready : Bool) : Snapshot where
  members := [{ name := "c-cassandra-dc-0", dc := "dc", podIp, ready, seed := true }]
  datacenters := [⟨"dc", 1, some (if ready then 1 else 0)⟩]

/-- A pass while the node has an address. -/
def located (address : String) (ready : Bool) (memory : Table String) : Visit where
  spec := single
  cluster := spanningIdentity
  seen := lone (some address) ready
  directory := {}
  result := conclude single (lone (some address) ready) {}
    (Table.ofList [("c-cassandra-dc-0", address)]) memory
    (Seeding.localSeeds single spanningIdentity (Table.ofList [("c-cassandra-dc-0", address)]),
      .ofRegion (lone (some address) ready))

/-- A pass while it has none. -/
def unlocated : Visit where
  spec := single
  cluster := spanningIdentity
  seen := lone none false
  directory := {}
  result := .error (.podNotScheduled "c-cassandra-dc-0")

theorem goes_located (address : String) (ready : Bool) (memory : Table String) :
    (located address ready memory).Goes memory := by
  have talked : (talk single spanningIdentity (lone (some address) ready)
      (Table.ofList [("c-cassandra-dc-0", address)])).run.Ends
        [⟨.publishSeeds _, .ok ()⟩, ⟨.publishReady _, .ok ()⟩] (.ok _) :=
    ⟨_, _, rfl, _, _, rfl, rfl, rfl⟩
  exact ⟨by simp [located, lone], _, ends_facts.2 (.inr ⟨_, rfl, .inr ⟨_, talked, rfl⟩⟩)⟩

theorem goes_unlocated (memory : Table String) : unlocated.Goes memory :=
  ⟨by simp [unlocated, lone], [], ends_facts.2 (.inl ⟨_, rfl, rfl, rfl⟩)⟩

/-- What is known at first: where a node of a former datacenter was. -/
def known : Table String := Table.ofList [("c-cassandra-old-0", "10.0.0.9")]

/-- The node is ready, loses its address, and starts again at another one. -/
def restart : List Visit :=
  [located "10.0.0.1" true known, unlocated,
    located "10.0.0.2" false ((located "10.0.0.1" true known).after known)]

/-- While it starts again, the node is told where it was, and the former one is still known. -/
theorem remembers_last_ready_restart : ∃ last, History known restart last ∧
    last.get? "c-cassandra-dc-0" = some "10.0.0.1" ∧
    last.get? "c-cassandra-old-0" = some "10.0.0.9" ∧
    ∃ v found entry, restart[2]? = some v ∧ v.result = .ok found ∧
      found.sheet.get? "c-cassandra-dc-0" = some entry ∧ entry.previous = "10.0.0.1" := by
  have runs : History known restart _ :=
    .pass (goes_located _ _ _) (.pass (goes_unlocated _) (.pass (goes_located _ _ _) (.finish _)))
  obtain ⟨holds, -, told⟩ := remembers_last_ready runs
  have here : lastReady? restart "c-cassandra-dc-0" = some "10.0.0.1" := by decide +kernel
  have gone : lastReady? restart "c-cassandra-old-0" = none := by decide +kernel
  have first : known.get? "c-cassandra-old-0" = some "10.0.0.9" := by decide +kernel
  refine ⟨_, runs, ?_, ?_, ?_⟩
  · rw [holds, here, Option.some_or]
  · rw [holds, gone, first, Option.none_or]
  · obtain ⟨found, succeeds⟩ : ∃ found, restart[2].result = .ok found := ⟨_, rfl⟩
    obtain ⟨entry, listed, previous⟩ := told (restart.take 2) _ [] found rfl succeeds _
      List.mem_cons_self
    refine ⟨_, found, entry, rfl, succeeds, listed, ?_⟩
    have whole : ((lastReady? restart "c-cassandra-dc-0").or
        (known.get? "c-cassandra-dc-0")).getD "" = "10.0.0.1" := by rw [here]; rfl
    exact previous.trans whole

end History

end RingOperator.Pass
