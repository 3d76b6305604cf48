import RingOperator.Proofs.Jobs.Ledger
import RingOperator.Proofs.Scaling.InFlight
import RingOperator.Proofs.Scaling.Updates

/-!
# What a failed scaling step leaves behind

A scaling step that is alone with its two stores (`Stores`), each call of which
may fail for any reason and then changes nothing (`Stores.Returns`). A step that
fails has not told any node to leave. Mostly it has changed nothing at all. But
two paths of a step write twice, and where only the second write fails, the first
one remains (`remains_of_failed`):

* The count of a departed node's datacenter is lowered, and the record of its job
  is still there (`Lowered`). For instance, it cannot be deleted
  (`lowered_though_failed`).
* The record of an earlier attempt is gone, and no new one is there (`Cleared`).

Neither is undone, nor needs to be. A count is lowered only past a node that has
left, and only records of jobs that are not running are removed.
-/

namespace RingOperator

open Dialogue

/-! ## The tracker alone with its store -/

namespace Jobs

variable {now : Instant} {name : String} {l l' : Ledger} {log : List (Entry Reply)}

/-- The removal of a job has removed its record, which was not running, or it has
    changed nothing. If it fails, it has changed nothing. -/
theorem of_plays_remove {result : Outcome Unit} (h : (remove now name).run.Ends log result)
    (plays : Plays Returns l log l') :
    l' = l ∨ result = .ok () ∧ ∃ current, l.records name = some current ∧
      current.record.isRunningAt now = false ∧ l' = l.erase name := by
  obtain ⟨reply, rest, rfl, rfl | ⟨current, rfl, idle, rfl⟩⟩ := ends_remove h
  · exact .inl (plays_singleton.1 plays).eq_of_get
  obtain ⟨between, read, deletes⟩ := plays_cons.1 plays
  obtain rfl := read.eq_of_get
  have deletes := plays_singleton.1 deletes
  cases result with
  | error failure => exact .inl (deletes.eq_of_fails (.delete ..))
  | ok =>
    have found := read.eq_of_read
    exact .inr ⟨rfl, current, found, idle, deletes.eq_erase found⟩

end Jobs

namespace Scaling

/-- The stores that a scaling step writes to. -/
structure Stores where
  registry : Registry
  ledger : Jobs.Ledger

namespace Stores

/-- How a request of a scaling step returns, and what the stores hold then. A write may
    fail for any reason, such as a version that is outdated, and then changes nothing. -/
inductive Returns (space : String) (w : Stores) : (request : Ask) → Reply request → Stores → Prop
  | job {request : Jobs.Ask} {reply : Jobs.Reply request} {l : Jobs.Ledger}
      (h : Jobs.Returns w.ledger request reply l) :
      Returns space w (.job request) reply { w with ledger := l }
  | set {name version : String} {count : Int} {r : Registry}
      (h : w.registry.Serves space (.setReplicas name count version) (.ok ()) r) :
      Returns space w (.setReplicas name count version) (.ok ()) { w with registry := r }
  | delete {name version : String} {r : Registry}
      (h : w.registry.Serves space (.deleteSet name version) (.ok ()) r) :
      Returns space w (.deleteSet name version) (.ok ()) { w with registry := r }
  | notSet (name version : String) (count : Int) (failure : Failure) :
      Returns space w (.setReplicas name count version) (.error failure) w
  | notDeleted (name version : String) (failure : Failure) :
      Returns space w (.deleteSet name version) (.error failure) w
  | mode (address : String) (reply : Outcome OperationMode) :
      Returns space w (.mode address) reply w
  | ringView (address : String) (reply : Outcome RingView) :
      Returns space w (.ringView address) reply w
  | launch (job address : String) : Returns space w (.launch job address) () w

variable {space : String} {w w' : Stores}

theorem Returns.eq_of_get {name : String} {reply : Jobs.Reply (.get name)}
    (h : Returns space w (.job (.get name)) reply w') : w' = w := by
  cases h with
  | job h => rw [h.eq_of_get]

/-- As part of a scaling step, the tracker changes records only. -/
theorem plays_onJobs {inner : List (Entry Jobs.Reply)} :
    Plays (Returns space) w (inner.map fun e => ⟨.job e.1, e.2⟩) w' ↔
      ∃ l, Plays Jobs.Returns w.ledger inner l ∧ w' = { w with ledger := l } := by
  induction inner generalizing w with
  | nil => simp
  | cons e inner ih =>
    simp only [List.map_cons, plays_cons, ih]
    constructor
    · rintro ⟨_, ⟨h⟩, l, rest, rfl⟩
      exact ⟨l, ⟨_, h, rest⟩, rfl⟩
    · rintro ⟨l, ⟨_, h, rest⟩, rfl⟩
      exact ⟨_, .job h, l, rest, rfl⟩

/-- The removal of a job as part of a scaling step. -/
theorem of_plays_remove {now : Instant} {job : String} {result : Outcome Unit}
    {log : List (Entry Reply)} (h : (onJobs (Jobs.remove now job)).run.Ends log result)
    (plays : Plays (Returns space) w log w') :
    w' = w ∨ result = .ok () ∧ ∃ current, w.ledger.records job = some current ∧
      current.record.isRunningAt now = false ∧ w' = { w with ledger := w.ledger.erase job } := by
  obtain ⟨inner, rfl, ended⟩ := ends_onJobs.1 h
  obtain ⟨l, removes, rfl⟩ := plays_onJobs.1 plays
  obtain rfl | ⟨done, current, found, idle, rfl⟩ := Jobs.of_plays_remove ended removes
  · exact .inl rfl
  · exact .inr ⟨done, current, found, idle, rfl⟩

end Stores

open Stores (Returns)

section

variable {now : Instant} {cluster space : String} {spec : Spec} {s : Snapshot}
  {addresses : Table String} {intent : Intent} {log : List (Entry Reply)} {failure : Failure}
  {w w' : Stores}

theorem Questions.eq_of_plays {address : String}
    (h : Questions cluster spec s addresses intent address log)
    (plays : Plays (Returns space) w log w') : w' = w := by
  obtain ⟨answer, views, rfl, only⟩ := h
  refine plays.eq_of_forall (List.forall_mem_cons.2 ⟨?_, fun e among => ?_⟩)
  · rintro w w' ⟨⟩
    rfl
  · obtain ⟨request, reply⟩ := e
    obtain ⟨m, -, peer, -, rfl⟩ := only _ among
    rintro w w' ⟨⟩
    rfl

/-! ## Where the second write fails -/

/-- A step that failed has lowered the count of the intent by one, and changed
    nothing else: the target was found to have left, but then the record of its
    job could not be removed. -/
structure Lowered (now : Instant) (cluster : String) (spec : Spec) (s : Snapshot)
    (addresses : Table String) (intent : Intent) (log : List (Entry Reply)) (failure : Failure)
    (w w' : Stores) : Prop where
  course : ∃ address before removal,
    log = before ++ ⟨.setReplicas intent.statefulSet (intent.current - 1) intent.version,
      .ok ()⟩ :: removal ∧
    Departed now cluster spec s addresses intent address before ∧
    (onJobs (Jobs.remove now (Naming.job (intent.target cluster)))).run.Ends removal
      (.error failure)
  version : w.registry.version? intent.statefulSet = some intent.version
  count : w'.registry.count? intent.statefulSet = some (intent.current - 1)
  others : ∀ name, name ≠ intent.statefulSet → w'.registry.sets name = w.registry.sets name
  records : w'.ledger = w.ledger

/-- A step that failed has removed the record of the target's job, which was not
    running, and changed nothing else: the target was found to be at work, but then
    the record of a new attempt could not be created. -/
structure Cleared (now : Instant) (cluster : String) (s : Snapshot) (addresses : Table String)
    (intent : Intent) (log : List (Entry Reply)) (failure : Failure) (w w' : Stores) : Prop where
  course : ∃ address before,
    log = before ++ [⟨.job (.create (.fresh (Naming.job (intent.target cluster)) now)),
      .error failure⟩] ∧
    Working now cluster s addresses intent address before
  earlier : ∃ current, w.ledger.records (Naming.job (intent.target cluster)) = some current ∧
    current.record.isRunningAt now = false
  records : w'.ledger = w.ledger.erase (Naming.job (intent.target cluster))
  sets : w'.registry = w.registry

/-- If the completion of a departure fails, the count may have been lowered, but
    no record has changed. -/
theorem of_plays_complete {job : String}
    (h : (complete now intent job).run.Ends log (.error failure))
    (plays : Plays (Returns space) w log w') :
    w' = w ∨ ∃ removal r,
      log = ⟨.setReplicas intent.statefulSet (intent.current - 1) intent.version, .ok ()⟩ ::
        removal ∧
      (onJobs (Jobs.remove now job)).run.Ends removal (.error failure) ∧
      w.registry.Serves space
        (.setReplicas intent.statefulSet (intent.current - 1) intent.version) (.ok ()) r ∧
      w' = { w with registry := r } := by
  rw [complete, ends_bind_except] at h
  rcases h with ⟨_, h, -⟩ | ⟨first, removal, _, rfl, h, hr⟩
  · obtain rfl := ends_setReplicas.1 h
    cases plays_singleton.1 plays with
    | notSet => exact .inl rfl
  obtain rfl := ends_setReplicas.1 h
  obtain ⟨outcome, removes, failed⟩ := ends_map_except.1 hr
  obtain rfl : outcome = .error failure := by
    rcases outcome with _ | _ <;> cases failed
    rfl
  obtain ⟨between, set, onward⟩ := plays_cons.1 plays
  obtain rfl | ⟨⟨⟩, -⟩ := Stores.of_plays_remove removes onward
  cases set with
  | set served => exact .inr ⟨_, _, rfl, removes, served, rfl⟩

/-- A new attempt fails only if its record cannot be created. A launch cannot fail. -/
theorem eq_of_ends_launching {job address : String} {after : Result}
    (h : (onJobs (Jobs.start now job) >>= fun _ => ExceptT.lift (launch job address) >>=
      fun _ => pure after : Exchange Result).run.Ends log (.error failure)) :
    log = [⟨.job (.create (.fresh job now)), .error failure⟩] := by
  rcases ends_bind_except.1 h with ⟨_, h, ⟨⟩⟩ | ⟨_, _, _, -, -, hr⟩
  · obtain ⟨inner, rfl, failed⟩ := ends_onJobs.1 h
    obtain rfl := Jobs.ends_start.1 failed
    rfl
  · obtain ⟨_, _, _, -, -, -, ⟨⟩⟩ := ends_bind_lift.1 hr

/-- Where the start of a decommission can fail: once the record is read, when an
    earlier one is to be removed, or when the new one is to be created. -/
theorem ends_startDecommission_failed {pod job address : String}
    (h : (startDecommission now pod job address).run.Ends log (.error failure)) :
    ∃ reply rest, log = ⟨.job (.get job), reply⟩ :: rest ∧
      (rest = [] ∨ (onJobs (Jobs.remove now job)).run.Ends rest (.error failure) ∨
        ∃ removal, rest = removal ++ [⟨.job (.create (.fresh job now)), .error failure⟩] ∧
          (removal = [] ∨ (onJobs (Jobs.remove now job)).run.Ends removal (.ok ()))) := by
  have reading {log : List (Entry Reply)} {seen : Outcome (Option Jobs.JobRecord)}
      (h : (onJobs (Jobs.job? job)).run.Ends log seen) :
      ∃ reply, log = [⟨.job (.get job), reply⟩] := by
    obtain ⟨inner, rfl, asked⟩ := ends_onJobs.1 h
    obtain ⟨reply, rfl, -⟩ := Jobs.ends_job?.1 asked
    exact ⟨reply, rfl⟩
  rw [startDecommission, ends_bind_except] at h
  rcases h with ⟨_, h, -⟩ | ⟨first, rest, seen, rfl, h, hr⟩
  · obtain ⟨reply, rfl⟩ := reading h
    exact ⟨reply, [], rfl, .inl rfl⟩
  obtain ⟨reply, rfl⟩ := reading h
  refine ⟨reply, rest, rfl, .inr ?_⟩
  cases seen with
  | none => exact .inr ⟨[], eq_of_ends_launching hr, .inl rfl⟩
  | some earlier =>
    rcases ends_bind_except.1 hr with ⟨_, h, ⟨⟩⟩ | ⟨removal, last, _, rfl, h, hr⟩
    · exact .inl h
    · exact .inr ⟨removal, by rw [eq_of_ends_launching hr], .inr h⟩

/-- If the start of a decommission fails, only the job was asked about. -/
theorem onlyJob_of_ends_startDecommission {pod job address : String}
    (h : (startDecommission now pod job address).run.Ends log (.error failure)) :
    OnlyJob job log := by
  have single {request : Jobs.Ask} {reply : Jobs.Reply request} (about : request.name = job) :
      OnlyJob job [⟨.job request, reply⟩] := by
    simpa [OnlyJob] using about
  have removing {log : List (Entry Reply)} {result : Outcome Unit}
      (h : (onJobs (Jobs.remove now job)).run.Ends log result) : OnlyJob job log :=
    onlyJob_of_ends_onJobs Jobs.name_of_ends_remove h
  obtain ⟨reply, rest, rfl, rfl | h | ⟨removal, rfl, rfl | h⟩⟩ := ends_startDecommission_failed h
  · exact single rfl
  · exact (single rfl).append (removing h)
  · exact (single rfl).append (single rfl)
  · exact (single rfl).append ((removing h).append (single rfl))

/-- If the start of a decommission fails, the record of an earlier attempt may
    have been removed, but no StatefulSet has changed. -/
theorem of_plays_startDecommission {pod job address : String}
    (h : (startDecommission now pod job address).run.Ends log (.error failure))
    (plays : Plays (Returns space) w log w') :
    w' = w ∨
      (∃ before, log = before ++ [⟨.job (.create (.fresh job now)), .error failure⟩]) ∧
      (∃ current, w.ledger.records job = some current ∧
        current.record.isRunningAt now = false) ∧
      w' = { w with ledger := w.ledger.erase job } := by
  obtain ⟨reply, rest, rfl, course⟩ := ends_startDecommission_failed h
  obtain ⟨between, read, onward⟩ := plays_cons.1 plays
  obtain rfl := read.eq_of_get
  obtain rfl | removing | ⟨removal, rfl, removing⟩ := course
  · exact .inl (plays_nil.1 onward)
  · obtain rfl | ⟨⟨⟩, -⟩ := Stores.of_plays_remove removing onward
    exact .inl rfl
  obtain ⟨between', removes, creates⟩ := plays_append.1 onward
  obtain rfl : w' = between' := by
    cases plays_singleton.1 creates with
    | job fails => rw [fails.eq_of_fails (.create ..)]
  obtain rfl | removing := removing
  · exact .inl (plays_nil.1 removes)
  obtain rfl | ⟨-, current, found, idle, rfl⟩ := Stores.of_plays_remove removing removes
  · exact .inl rfl
  · exact .inr ⟨⟨⟨_, reply⟩ :: removal, rfl⟩, ⟨current, found, idle⟩, rfl⟩

/-! ## A failed step -/

/-- If a step that lowers a count fails, at most the first of its writes remains. -/
theorem of_plays_lower
    (h : (lower now cluster spec intent s addresses).run.Ends log (.error failure))
    (plays : Plays (Returns space) w log w') :
    w' = w ∨ Lowered now cluster spec s addresses intent log failure w w' ∨
      Cleared now cluster s addresses intent log failure w w' := by
  obtain ⟨reading, rest, rfl, rfl | ⟨address, questions, closing, rfl, -, asked, closes⟩⟩ :=
    ends_lower h
  · exact .inl (plays_singleton.1 plays).eq_of_get
  obtain ⟨between, read, onward⟩ := plays_cons.1 plays
  obtain rfl := read.eq_of_get
  obtain ⟨between', among, last⟩ := plays_append.1 onward
  obtain rfl := asked.eq_of_plays among
  cases closes with
  | postpones none =>
    subst none
    exact .inl (plays_nil.1 last)
  | completes departed completed =>
    obtain rfl | ⟨removal, r, rfl, removes, served, rfl⟩ := of_plays_complete completed last
    · exact .inl rfl
    obtain ⟨version, count, others⟩ := served.of_set_ok
    exact .inr (.inl ⟨⟨address, _ :: questions, removal, rfl, departed, removes⟩, version, count,
      others, rfl⟩)
  | starts working started =>
    obtain rfl | ⟨⟨before, rfl⟩, earlier, rfl⟩ := of_plays_startDecommission started last
    · exact .inl rfl
    refine .inr (.inr ⟨⟨address, ⟨_, reading⟩ :: (questions ++ before), ?_, ?_⟩, earlier, rfl,
      rfl⟩)
    · simp
    · exact working.mono (List.cons_subset_cons _ (List.subset_append_left _ _))

/-- If a step that lowers a count fails, no decommission was launched. -/
theorem not_launched_of_ends_lower
    (h : (lower now cluster spec intent s addresses).run.Ends log (.error failure)) :
    ∀ e ∈ log, e.1.launched = [] := by
  have unlaunched {log : List (Entry Reply)} (h : ∀ e ∈ log, e.1.acts = false) :
      ∀ e ∈ log, e.1.launched = [] :=
    fun e among => (Ask.launched_of_not_acts (h e among)).2
  obtain ⟨reading, rest, rfl, rfl | ⟨address, questions, closing, rfl, -, asked, closes⟩⟩ :=
    ends_lower h
  · exact unlaunched (by simp [Ask.acts])
  refine List.forall_mem_cons.2 ⟨rfl, List.forall_mem_append.2 ⟨unlaunched asked.not_acts, ?_⟩⟩
  cases closes with
  | postpones none => simp [none]
  | completes _ completed =>
    obtain ⟨reply, rest, only, rfl⟩ := ends_complete completed
    exact List.forall_mem_cons.2 ⟨rfl, unlaunched only.not_acts⟩
  | starts _ started => exact unlaunched (onlyJob_of_ends_startDecommission started).not_acts

/-- A step that fails has launched no decommission. It leaves its stores as they
    were, but for two cases. Where a departed node was to be counted out and only
    the record of its job could not be removed, the count of its datacenter is
    lowered. Where an earlier attempt was to be followed by a new one and only the
    record of the new one could not be created, the record of the earlier one, which
    was not running, is gone. -/
theorem remains_of_failed {intents : List Intent}
    (h : (step now cluster spec s addresses intents).run.Ends log (.error failure))
    (plays : Plays (Returns space) w log w') :
    (∀ e ∈ log, e.1.launched = []) ∧
      (w' = w ∨ ∃ intent, intents.find? (·.isDue s) = some intent ∧ intent.lowers = true ∧
        (Lowered now cluster spec s addresses intent log failure w w' ∨
          Cleared now cluster s addresses intent log failure w w')) := by
  rw [step_eq] at h
  cases first : intents.find? (·.isDue s) with
  | none =>
    rw [first] at h
    cases h.2
  | some intent =>
    simp only [first] at h
    by_cases lowers : intent.lowers = true
    · rw [takeUp_of_lowers lowers] at h
      refine ⟨not_launched_of_ends_lower h, ?_⟩
      exact (of_plays_lower h plays).imp_right fun remains => ⟨intent, rfl, lowers, remains⟩
    -- Otherwise there is but one request, which has failed.
    obtain ⟨count, reply, -, -, rfl, failed⟩ | ⟨reply, -, -, rfl, failed⟩ :=
      ends_takeUp_of_not_lowers (List.find?_some first) lowers h
    all_goals
      rcases reply with _ | _ <;> cases failed
      refine ⟨by simp [Ask.launched], .inl ?_⟩
      cases plays_singleton.1 plays
      rfl

end

/-! ## Both cases occur -/

open Updates (contested declared seen addresses)

/-- The job of the higher node of the datacenter that shall lose it. -/
def departing : String := "pod-decommission-c-cassandra-dc1-1"

/-- The record of an attempt to have the node leave, which has ended. -/
def attempt : Jobs.Versioned where
  record := {
    name := departing, started := default, heartbeat := default, finished := some default }
  version := "1"

/-- The datacenter of two nodes, after that attempt. -/
def attempted : Stores := ⟨contested, Jobs.Ledger.blank.write attempt.record attempt.version⟩

theorem target_departing : Naming.job (shrinking.target "c") = departing := by decide +kernel

theorem records_attempted : attempted.ledger.records departing = some attempt :=
  (Jobs.Ledger.records_write _).trans (if_pos rfl)

theorem idle_attempt :
    ∀ current ∈ some attempt, current.record.isRunningAt default = false := by
  rintro _ ⟨⟩
  rfl

theorem returns_attempt {space : String} {r : Registry} :
    Returns space { attempted with registry := r } (.job (.get departing)) (.ok (some attempt))
      { attempted with registry := r } :=
  .job (records_attempted ▸ .served (.get departing))

/-- The store of records fails once it is to delete or create one. -/
def unavailable : Failure := .timeout "store"

/-- The higher node has left, and the count is lowered, but the record of its job
    cannot be deleted. -/
def countedOut : List (Entry Reply) := [
  ⟨.job (.get departing), .ok (some attempt)⟩, ⟨.mode "10.0.0.2", .ok .decommissioned⟩,
  ⟨.ringView "10.0.0.1", .ok { live := ["10.0.0.1"] }⟩,
  ⟨.setReplicas "c-cassandra-dc1" 1 "7", .ok ()⟩, ⟨.job (.get departing), .ok (some attempt)⟩,
  ⟨.job (.delete departing "1"), .error unavailable⟩]

theorem ends_countedOut : (step default "c" declared seen addresses [shrinking]).run.Ends
    countedOut (.error unavailable) := by
  refine Updates.ends_step_seen idle_attempt ?_
  refine ends_bind_lift.2 ⟨[_], _, true, rfl, Updates.ends_departureConfirmed_seen, ?_⟩
  rw [target_departing]
  exact ⟨_, _, rfl, _, _, rfl, _, _, rfl, rfl, rfl⟩

/-- The StatefulSets after the count was lowered. -/
def reduced : Registry := contested.write { Updates.pair with replicas := some 1 } "8"

theorem count_contested : contested.count? "c-cassandra-dc1" = some 2 := by
  rw [Registry.count?, Updates.sets_contested]
  rfl

theorem count_reduced : reduced.count? "c-cassandra-dc1" = some 1 := by
  simp [reduced, Registry.count?, Registry.sets_write, stamped, Updates.pair]

theorem plays_countedOut :
    Plays (Returns "default") attempted countedOut { attempted with registry := reduced } := by
  have served : contested.Serves "default" (.setReplicas "c-cassandra-dc1" 1 "7")
      (Api.ReplicaStore.understandSet (.ok (.object []))) reduced := by
    refine .set (.patched rfl rfl rfl rfl Updates.sets_contested ?_ rfl rfl (by decide) _)
    rintro version ⟨⟩
    rfl
  refine .cons returns_attempt (.cons (.mode ..) (.cons (.ringView ..) (.cons (.set served) ?_)))
  exact .cons returns_attempt (.cons (.job (.failed (.delete ..))) (.nil _))

/-- So it is not so that a failed step changes nothing. -/
theorem lowered_though_failed : ¬ ∀ (now : Instant) (cluster space : String) (spec : Spec)
    (s : Snapshot) (addresses : Table String) (intents : List Intent) (log : List (Entry Reply))
    (failure : Failure) (w w' : Stores),
    (step now cluster spec s addresses intents).run.Ends log (.error failure) →
    Plays (Returns space) w log w' →
    (∀ name, w'.registry.count? name = w.registry.count? name) ∧
      w'.registry.sets = w.registry.sets ∧ w'.ledger.records = w.ledger.records := by
  intro unchanged
  obtain ⟨counts, -⟩ := unchanged _ _ _ _ _ _ _ _ _ _ _ ends_countedOut plays_countedOut
  have same : reduced.count? "c-cassandra-dc1" = contested.count? "c-cassandra-dc1" := counts _
  rw [count_reduced, count_contested] at same
  exact absurd same (by decide)

/-- The higher node is at work, and the record of the earlier attempt is deleted,
    but no new one can be created. -/
def triedAgain : List (Entry Reply) := [
  ⟨.job (.get departing), .ok (some attempt)⟩, ⟨.mode "10.0.0.2", .ok .normal⟩,
  ⟨.job (.get departing), .ok (some attempt)⟩, ⟨.job (.get departing), .ok (some attempt)⟩,
  ⟨.job (.delete departing "1"), .ok ()⟩,
  ⟨.job (.create (.fresh departing default)), .error unavailable⟩]

theorem ends_triedAgain : (step default "c" declared seen addresses [shrinking]).run.Ends
    triedAgain (.error unavailable) := by
  refine Updates.ends_step_seen idle_attempt ?_
  rw [judge_of_working (by decide) (by decide), target_departing]
  exact ⟨_, _, rfl, _, _, rfl, _, _, rfl, _, _, rfl, rfl, rfl⟩

theorem plays_triedAgain : Plays (Returns "default") attempted triedAgain
    { attempted with ledger := attempted.ledger.erase departing } := by
  refine .cons returns_attempt (.cons (.mode ..) (.cons returns_attempt (.cons returns_attempt ?_)))
  exact .cons (.job (.served (.deleted records_attempted)))
    (.cons (.job (.failed (.create ..))) (.nil _))

theorem remains_of_failed_triedAgain :
    (step default "c" declared seen addresses [shrinking]).run.Ends triedAgain
      (.error unavailable) ∧
    ∃ w', Plays (Returns "default") attempted triedAgain w' ∧ w' ≠ attempted ∧
      Cleared default "c" seen addresses shrinking triedAgain unavailable attempted w' := by
  have gone : (attempted.ledger.erase departing).records departing = none :=
    (Jobs.Ledger.records_erase _).trans (if_pos rfl)
  have changed : attempted.ledger.erase departing ≠ attempted.ledger := by
    intro same
    rw [same, records_attempted] at gone
    cases gone
  refine ⟨ends_triedAgain, _, plays_triedAgain, fun same => changed (congrArg Stores.ledger same),
    ?_⟩
  obtain ⟨-, same | ⟨intent, first, -, lowered | cleared⟩⟩ :=
    remains_of_failed ends_triedAgain plays_triedAgain
  · exact absurd (congrArg Stores.ledger same) changed
  · exact absurd lowered.records changed
  · obtain rfl := List.mem_singleton.1 (List.mem_of_find?_eq_some first)
    exact cleared

end Scaling

end RingOperator
