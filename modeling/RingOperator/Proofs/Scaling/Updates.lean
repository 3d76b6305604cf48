import RingOperator.Proofs.Scaling.Passes
import RingOperator.Proofs.Scaling.Registry
import RingOperator.Proofs.Table

/-!
# Counts under overlapping passes

Any number of passes over one cluster, each working on the intents that it read
when it began. Their scaling steps interleave at every single request, and
StatefulSets are written and removed by others at any moment in between (`Step`).
No update is lost: when a request of a pass changes a StatefulSet, nobody has
written it since the pass began, so its count is the one that the pass has read,
and the change is the one act of the pass (`no_update_lost`).

What carries it is that a version stands for one write. As long as a StatefulSet
has the version that a pass has read, nothing has happened to it (`Known`).
-/

namespace RingOperator.Scaling

open Dialogue Function

/-- An intent is of a StatefulSet that was given. -/
theorem Intent.exists_of_mem_ofStatefulSets {spec : Spec} {sets : List StatefulSet}
    {intent : Intent} (h : intent ∈ ofStatefulSets spec sets) :
    ∃ set ∈ sets, ∃ dc desired, intent = of dc set desired := by
  have given {dc : String} {set : StatefulSet}
      (h : (byDatacenter sets).get? dc = some set) : set ∈ sets := by
    obtain ⟨set', among, labelled⟩ := List.mem_filterMap.1 (Table.mem_of_get?_ofList h)
    obtain ⟨_, -, same⟩ := Option.map_eq_some_iff.1 labelled
    cases same
    exact among
  rcases List.mem_append.1 h with h | h
  · obtain ⟨dc, -, h⟩ := List.mem_filterMap.1 h
    obtain ⟨set, found, rfl⟩ := Option.map_eq_some_iff.1 h
    exact ⟨set, given found, _, _, rfl⟩
  · obtain ⟨e, among, rfl⟩ := List.mem_map.1 h
    have found := Table.get?_eq_some_iff.2 (List.mem_filter.1 among).1
    exact ⟨e.2, given found, _, _, rfl⟩

namespace Updates

/-- A pass under way, and how much had happened to StatefulSets when it began. -/
structure Turn extends Underway where
  since : Nat

/-- The StatefulSets, and the scaling steps of all passes that are under way. -/
structure World where
  registry : Registry
  passes : Nat → Option Turn

/-- What can happen next. -/
inductive Step (cluster space : String) (w : World) : World → Prop
  /-- Somebody else writes or removes a StatefulSet. -/
  | edit {r : Registry} (h : w.registry.Becomes r) : Step cluster space w { w with registry := r }
  /-- A pass begins. It has read some StatefulSets as they are. -/
  | begin {id : Nat} {listed : List StatefulSet} (free : w.passes id = none) (now : Instant)
      (spec : Spec) (seen : Snapshot) (addresses : Table String)
      (read : ∀ set ∈ listed, w.registry.sets set.metadata.name = some set) :
      Step cluster space w { w with
        passes := update w.passes id <| some
          ⟨.start cluster now spec seen addresses (Intent.ofStatefulSets spec listed),
            w.registry.history.length⟩ }
  /-- A pass goes on by one request. -/
  | ask {id : Nat} {p : Turn} {request : Ask} {next : Reply request → Talk (Outcome Result)}
      {reply : Reply request} {r : Registry} (turn : w.passes id = some p)
      (asks : p.rest = .ask request next) (served : w.registry.Serves space request reply r) :
      Step cluster space w {
        registry := r
        passes := update w.passes id (some ⟨p.replied request reply (next reply), p.since⟩) }
  /-- A pass ends or is given up. -/
  | leave (id : Nat) : Step cluster space w { w with passes := update w.passes id none }

/-- The states that can come about from any StatefulSets and no passes. -/
inductive Reachable (cluster space : String) : World → Prop
  | init (r : Registry) : Reachable cluster space ⟨r, fun _ => none⟩
  | step {w w' : World} (h : Reachable cluster space w) (step : Step cluster space w w') :
      Reachable cluster space w'

/-! ## What a pass knows -/

/-- The version of an intent has been used up, and as long as the StatefulSet has it, its count is
    the one that was read and nothing has happened to it since. -/
structure Known (r : Registry) (since : Nat) (intent : Intent) : Prop where
  used : ⟨intent.statefulSet, some intent.version⟩ ∈ r.history
  still : r.version? intent.statefulSet = some intent.version →
    r.count? intent.statefulSet = some intent.current ∧
      ∀ change ∈ r.history.drop since, change.statefulSet ≠ intent.statefulSet

/-- A pass knows its intents, and it has come where it is by its requests. -/
structure Turn.Sound (cluster : String) (r : Registry) (p : Turn) : Prop where
  leads : p.Leads cluster
  begun : p.since ≤ r.history.length
  known : ∀ intent ∈ p.intents, Known r p.since intent

variable {cluster space : String} {r r' : Registry} {since : Nat} {intent : Intent}

/-- What happens to other StatefulSets does not matter. -/
theorem Known.other (known : Known r since intent) (begun : since ≤ r.history.length)
    {change : Change} (happened : r'.history = r.history ++ [change])
    (kept : r'.sets intent.statefulSet = r.sets intent.statefulSet)
    (other : change.statefulSet ≠ intent.statefulSet) : Known r' since intent where
  used := happened ▸ List.mem_append_left _ known.used
  still current := by
    rw [Registry.version?, kept] at current
    obtain ⟨counted, untouched⟩ := known.still current
    refine ⟨by rwa [Registry.count?, kept], ?_⟩
    rw [happened, List.drop_append_of_le_length begun, List.forall_mem_append]
    exact ⟨untouched, by simpa using other⟩

theorem Known.becomes (known : Known r since intent) (begun : since ≤ r.history.length)
    (h : r.Becomes r') : Known r' since intent := by
  cases h with
  | same => exact known
  | @written set version new =>
    by_cases same : intent.statefulSet = set.metadata.name
    -- The StatefulSet has a new version, so it is not the one that was read.
    · refine ⟨List.mem_append_left _ known.used, fun current => ?_⟩
      rw [Registry.version?, Registry.sets_write, if_pos same] at current
      cases current
      exact absurd (same ▸ known.used) new
    · exact known.other begun rfl (by rw [Registry.sets_write, if_neg same]) (Ne.symm same)
  | erased name =>
    by_cases same : intent.statefulSet = name
    · refine ⟨List.mem_append_left _ known.used, fun current => ?_⟩
      rw [Registry.version?, Registry.sets_erase, if_pos same] at current
      cases current
    · exact known.other begun rfl (by rw [Registry.sets_erase, if_neg same]) (Ne.symm same)

/-- As they were read just now, intents are known. -/
theorem known_ofStatefulSets {spec : Spec} {listed : List StatefulSet}
    (read : ∀ set ∈ listed, r.sets set.metadata.name = some set)
    (h : intent ∈ Intent.ofStatefulSets spec listed) : Known r r.history.length intent := by
  obtain ⟨set, among, dc, desired, rfl⟩ := Intent.exists_of_mem_ofStatefulSets h
  have found := read set among
  obtain ⟨version, given, used⟩ := r.versioned _ _ found
  refine ⟨?_, fun _ => ⟨?_, by simp⟩⟩
  · rwa [Intent.of, given]
  · rw [Registry.count?, Intent.of, found]
    rfl

theorem Turn.Sound.becomes {p : Turn} (sound : p.Sound cluster r) (h : r.Becomes r') :
    p.Sound cluster r' where
  leads := sound.leads
  begun := Nat.le_trans sound.begun h.length_le
  known intent among := (sound.known intent among).becomes sound.begun h

/-- All passes under way are sound. -/
def Sound (cluster : String) (w : World) : Prop :=
  ∀ id p, w.passes id = some p → p.Sound cluster w.registry

/-- A pass put in the place of another one is sound if it is so itself. -/
theorem Sound.put {w : World} (sound : Sound cluster w) (h : w.registry.Becomes r) {id : Nat}
    {p : Turn} (own : p.Sound cluster r) : Sound cluster ⟨r, update w.passes id (some p)⟩ := by
  intro other p' turn
  simp only [update_apply] at turn
  split at turn
  · cases turn
    exact own
  · exact (sound other p' turn).becomes h

theorem sound_step {w w' : World} (sound : Sound cluster w) (step : Step cluster space w w') :
    Sound cluster w' := by
  cases step with
  | edit h => exact fun id p turn => (sound id p turn).becomes h
  | begin _ now spec seen addresses read =>
    refine sound.put .same ⟨Underway.leads_start now spec seen addresses _, Nat.le_refl _, ?_⟩
    exact fun intent => known_ofStatefulSets read
  | ask turn asks served =>
    have own := (sound _ _ turn).becomes served.becomes
    exact sound.put served.becomes ⟨own.leads.replied asks _, own.begun, own.known⟩
  | leave id =>
    intro other p turn
    simp only [update_apply] at turn
    split at turn
    · cases turn
    · exact sound other p turn

theorem sound_of_reachable {w : World} (h : Reachable cluster space w) : Sound cluster w := by
  induction h with
  | init r => rintro _ _ ⟨⟩
  | step _ step ih => exact sound_step ih step

/-! ## No update is lost -/

/-- If a request of a pass changes a StatefulSet, the pass has not acted before, and it has an
    intent for the StatefulSet as it is: the count is the one that it read when it began, and nobody
    has written or removed the StatefulSet since. Either the count is raised to the desired one; or
    it is lowered by one, and the pass itself has found the node of the highest ordinal to have
    left; or the datacenter is no longer declared and empty, and the StatefulSet is removed. -/
theorem no_update_lost {w : World} (h : Reachable cluster space w) {id : Nat} {p : Turn}
    (turn : w.passes id = some p) {request : Ask} {next : Reply request → Talk (Outcome Result)}
    (asks : p.rest = .ask request next) {reply : Reply request}
    (served : w.registry.Serves space request reply r) {name : String}
    (changed : r.sets name ≠ w.registry.sets name) :
    ∃ intent ∈ p.intents, intent.statefulSet = name ∧
      w.registry.count? name = some intent.current ∧
      w.registry.version? name = some intent.version ∧
      (∀ change ∈ w.registry.history.drop p.since, change.statefulSet ≠ name) ∧
      p.asked.countP (·.1.acts) = 0 ∧
      ((∃ count, intent.desired = some count ∧ intent.current < count ∧
          r.count? name = some count) ∨
        (intent.lowers = true ∧ r.count? name = some (intent.current - 1) ∧
          ∃ address, Departed p.now cluster p.spec p.seen p.addresses intent address p.asked) ∨
        (intent.desired = none ∧ intent.current = 0 ∧ r.sets name = none)) := by
  have sound := sound_of_reachable h id p turn
  obtain ⟨intent, first, justified, once⟩ := sound.leads.justified asks
  have among := List.mem_of_find?_eq_some first
  have known := sound.known intent among
  obtain ⟨version, current, ⟨count, rfl, counted⟩ | ⟨rfl, gone⟩⟩ := served.of_ne changed
  · obtain ⟨rfl, rfl, why⟩ := justified
    obtain ⟨read, untouched⟩ := known.still current
    refine ⟨intent, among, rfl, read, current, untouched, once rfl, ?_⟩
    rcases why with ⟨wanted, more⟩ | ⟨lowers, rfl, departed⟩
    · exact .inl ⟨count, wanted, more, counted⟩
    · exact .inr (.inl ⟨lowers, counted, departed⟩)
  · obtain ⟨rfl, rfl, undeclared, empty⟩ := justified
    obtain ⟨read, untouched⟩ := known.still current
    exact ⟨intent, among, rfl, read, current, untouched, once rfl,
      .inr (.inr ⟨undeclared, empty, gone⟩)⟩

/-! ## Two passes at once -/

/-- A pass goes on along a log that changes no StatefulSet. -/
theorem Reachable.along {w : World} (h : Reachable cluster space w) {id : Nat} {p : Turn}
    (turn : w.passes id = some p) {log more : List (Entry Reply)} {result : Outcome Result}
    (ends : p.rest.Ends (log ++ more) result)
    (idle : ∀ e ∈ log, w.registry.Serves space e.1 e.2 w.registry) :
    ∃ rest, rest.Ends more result ∧ Reachable cluster space { w with
      passes := update w.passes id <| some
        ⟨{ p.toUnderway with asked := p.asked ++ log, rest }, p.since⟩ } := by
  let reached (q : Underway) : Prop :=
    Reachable cluster space { w with passes := update w.passes id (some ⟨q, p.since⟩) }
  have same : update w.passes id (some ⟨p.toUnderway, p.since⟩) = w.passes :=
    update_eq_self_iff.2 turn.symm
  have begins : reached p.toUnderway := by
    simp only [reached, same]
    exact h
  refine Underway.along (q := reached) begins ends fun q request next reply h _ asks among => ?_
  have asked := h.step (.ask (update_self ..) asks (idle _ among))
  rwa [update_idem] at asked

/-- A datacenter of two nodes. -/
def pair : StatefulSet where
  metadata := {
    name := "c-cassandra-dc1", labels := Table.ofList [(Labels.datacenterKey, "dc1")] }
  replicas := some 2

/-- It shall have one. -/
def declared : Spec := { datacenters := [⟨"dc1", 1⟩] }

def seen : Snapshot := Snapshot.of [⟨"c-cassandra-dc1-0", "", "dc1", 0, none, none, true, true⟩,
  ⟨"c-cassandra-dc1-1", "", "dc1", 1, none, none, false, false⟩] []

def addresses : Table String :=
  Table.ofList [("c-cassandra-dc1-0", "10.0.0.1"), ("c-cassandra-dc1-1", "10.0.0.2")]

/-- The higher node has left, and the other one says so too. -/
def findings : List (Entry Reply) := [
  ⟨.job (.get "pod-decommission-c-cassandra-dc1-1"), .ok none⟩,
  ⟨.mode "10.0.0.2", .ok .decommissioned⟩,
  ⟨.ringView "10.0.0.1", .ok { live := ["10.0.0.1"] }⟩]

theorem ofStatefulSets_pair :
    Intent.ofStatefulSets declared [stamped pair "7"] = [shrinking] := by
  decide +kernel

/-- The one peer of the higher node says that it is not live. -/
theorem ends_departureConfirmed_seen :
    (departureConfirmed declared (shrinking.target "c") "10.0.0.2" seen addresses).Ends
      [⟨.ringView "10.0.0.1", .ok { live := ["10.0.0.1"] }⟩] true := by
  have peers : peersOf declared seen "c-cassandra-dc1-1" =
      [⟨"c-cassandra-dc1-0", "", "dc1", 0, none, none, true, true⟩] := by decide +kernel
  have members : (declaredMembers declared seen).length = 2 := by decide +kernel
  have located : addresses.get? "c-cassandra-dc1-0" = some "10.0.0.1" := by decide +kernel
  rw [target_shrinking]
  refine ends_bind.2 ⟨[_], [], 1, rfl, ?_, by simp [members]⟩
  rw [← peersOf, peers]
  refine ends_bind.2 ⟨[_], [], true, rfl, ?_, rfl, rfl⟩
  rw [confirms, located]
  exact ⟨_, _, rfl, rfl, rfl⟩

/-- If no job of the higher node is found to be running, the step goes on with what the node says
    it is doing. -/
theorem ends_step_seen {now : Instant} {found : Option Jobs.Versioned}
    {answer : Outcome OperationMode} {log : List (Entry Reply)} {result : Outcome Result}
    (idle : ∀ current ∈ found, current.record.isRunningAt now = false)
    (h : (judge now "c" declared seen addresses shrinking "10.0.0.2" answer).run.Ends log result) :
    (Scaling.step now "c" declared seen addresses [shrinking]).run.Ends
      (⟨.job (.get "pod-decommission-c-cassandra-dc1-1"), .ok found⟩ ::
        ⟨.mode "10.0.0.2", answer⟩ :: log) result := by
  have isMember : ∃ m ∈ seen.members, m.name = shrinking.target "c" := by decide +kernel
  have located : addresses.get? (shrinking.target "c") = some "10.0.0.2" := by decide +kernel
  rw [step_of_lowers rfl rfl, ← job_shrinking]
  exact ends_lower_of_resting idle isMember located h

theorem ends_findings {now : Instant} :
    (Underway.start "c" now declared seen addresses [shrinking]).rest.Ends
      (findings ++ [⟨.setReplicas "c-cassandra-dc1" 1 "7", .ok ()⟩,
        ⟨.job (.get "pod-decommission-c-cassandra-dc1-1"), .ok none⟩])
      (.ok (.scaledDown "dc1" 1)) := by
  refine ends_step_seen (by simp) ?_
  refine ends_bind_lift.2 ⟨[_], _, true, rfl, ends_departureConfirmed_seen, ?_⟩
  rw [target_shrinking]
  exact ends_ask.2 ⟨_, _, rfl, ends_ask.2 ⟨_, _, rfl, ends_done.2 ⟨rfl, rfl⟩⟩⟩

/-- The datacenter as both passes read it. -/
def contested : Registry := Registry.empty.write pair "7"

/-- Each of the passes when it begins. -/
def reader : Turn := ⟨.start "c" ⟨0, 0⟩ declared seen addresses [shrinking], 1⟩

/-- Both passes have begun. -/
def overlapping : World where
  registry := contested
  passes := update (update (fun _ => none) 0 (some reader)) 1 (some reader)

theorem sets_contested : contested.sets "c-cassandra-dc1" = some (stamped pair "7") := by
  simp [contested, Registry.sets_write, pair]

theorem reachable_overlapping : Reachable "c" "default" overlapping := by
  have read : ∀ set ∈ [stamped pair "7"], contested.sets set.metadata.name = some set := by
    intro set among
    obtain rfl := List.mem_singleton.1 among
    exact sets_contested
  have begun {passes : Nat → Option Turn} (h : Reachable "c" "default" ⟨contested, passes⟩)
      (id : Nat) (free : passes id = none) :
      Reachable "c" "default" ⟨contested, update passes id (some reader)⟩ := by
    have begins := h.step (.begin free ⟨0, 0⟩ declared seen addresses read)
    rwa [ofStatefulSets_pair] at begins
  exact begun (begun (.init contested) 0 rfl) 1 rfl

/-- Both passes have read the count at its version. The first one has found the higher node gone
    and lowers the count. -/
theorem no_update_lost_pair : ∃ w p r, Reachable "c" "default" w ∧ w.registry = contested ∧
    w.passes 0 = some p ∧ w.passes 1 = some reader ∧
    (∃ next reply, p.rest = .ask (.setReplicas "c-cassandra-dc1" 1 "7") next ∧
      w.registry.Serves "default" (.setReplicas "c-cassandra-dc1" 1 "7") reply r) ∧
    r.sets "c-cassandra-dc1" ≠ w.registry.sets "c-cassandra-dc1" ∧
    w.registry.count? "c-cassandra-dc1" = some 2 ∧ r.count? "c-cassandra-dc1" = some 1 ∧
    ∃ address, Departed p.now "c" p.spec p.seen p.addresses shrinking address p.asked := by
  have turn : overlapping.passes 0 = some reader := rfl
  obtain ⟨rest, ends, reached⟩ := reachable_overlapping.along turn ends_findings <| by
    simp only [findings, List.forall_mem_cons]
    exact ⟨.job _ _, .mode _ _, .ringView _ _, by simp⟩
  obtain ⟨next, asks, -⟩ := exists_ask_of_ends ends
  have served : contested.Serves "default" (.setReplicas "c-cassandra-dc1" 1 "7")
      (Api.ReplicaStore.understandSet (.ok (.object [])))
      (contested.write { pair with replicas := some 1 } "8") := by
    refine .set (.patched rfl rfl rfl rfl sets_contested ?_ rfl rfl (by decide) _)
    rintro version ⟨⟩
    rfl
  have counted : (contested.write { pair with replicas := some 1 } "8").count?
      "c-cassandra-dc1" = some 1 := by
    simp [Registry.count?, Registry.sets_write, stamped, pair]
  have changed : (contested.write { pair with replicas := some 1 } "8").sets "c-cassandra-dc1" ≠
      contested.sets "c-cassandra-dc1" := by
    rw [sets_contested, Registry.sets_write]
    decide
  obtain ⟨intent, among, -, before, -, -, -, why⟩ :=
    no_update_lost reached (update_self ..) asks served changed
  obtain rfl := List.mem_singleton.1 among
  obtain ⟨_, ⟨⟩, more, -⟩ | ⟨-, -, departed⟩ | ⟨⟨⟩, -⟩ := why
  · exact absurd more (by decide)
  · exact ⟨_, _, _, reached, rfl, rfl, rfl, ⟨next, _, asks, served⟩, changed, before,
      counted, departed⟩

end Updates

end RingOperator.Scaling
