import RingOperator.Proofs.Jobs.Requests
import RingOperator.Scaling.Step

/-!
# What a scaling step asks of the outside

The logs of the parts of a scaling step. A step *acts* when it writes to a
StatefulSet or launches a decommission (`Ask.acts`); all else that it asks
changes no node and no count.

* `ends_confirmations`: each confirmation is a ring view that the member gave
  in this very step, and the departed address is not among the live ones of it.
* `ends_complete`, `ends_startDecommission`: a departure is completed by one
  write, and a decommission is launched once, after its record was created.
-/

namespace RingOperator.Scaling

open Dialogue

/-- Whether a request changes a count or has a node leave. -/
def Ask.acts : Ask → Bool
  | .setReplicas _ _ _ | .deleteSet _ _ | .launch _ _ => true
  | .job _ | .mode _ | .ringView _ => false

variable {now : Instant} {spec : Spec} {s : Snapshot} {addresses : Table String}
  {log : List (Entry Reply)}

theorem ends_onJobs {α : Type} {exchange : Jobs.Exchange α} {result : Outcome α} :
    (onJobs exchange).run.Ends log result ↔ ∃ inner : List (Entry Jobs.Reply),
      log = inner.map (fun e => ⟨.job e.1, e.2⟩) ∧ exchange.run.Ends inner result := by
  rw [onJobs, ExceptT.run_mk, ends_within]
  simp only [List.map_id']

@[simp] theorem ends_setReplicas {statefulSet version : String} {count : Int}
    {result : Outcome Unit} : (setReplicas statefulSet count version).run.Ends log result ↔
      log = [⟨.setReplicas statefulSet count version, result⟩] :=
  ends_once

@[simp] theorem ends_deleteSet {statefulSet version : String} {result : Outcome Unit} :
    (deleteSet statefulSet version).run.Ends log result ↔
      log = [⟨.deleteSet statefulSet version, result⟩] :=
  ends_once

@[simp] theorem ends_mode {address : String} {answer : Outcome OperationMode} :
    (mode address).Ends log answer ↔ log = [⟨.mode address, answer⟩] :=
  ends_once

@[simp] theorem ends_launch {job address : String} {result : Unit} :
    (launch job address).Ends log result ↔ log = [⟨.launch job address, result⟩] :=
  ends_once

/-! ## Confirmations -/

/-- In a log, a member was asked for its ring view, and it does not count the
    departed address among the live ones. -/
def Confirmed (departed : String) (addresses : Table String) (log : List (Entry Reply))
    (m : Member) : Prop :=
  ∃ peer view, addresses.get? m.name = some peer ∧ ⟨.ringView peer, .ok view⟩ ∈ log ∧
    departed ∉ view.live

/-- Only the ring views of some members are asked for. -/
def OnlyViews (addresses : Table String) (members : List Member) (log : List (Entry Reply)) :
    Prop :=
  ∀ e ∈ log, ∃ m ∈ members, ∃ peer, addresses.get? m.name = some peer ∧ e.1 = .ringView peer

theorem Confirmed.mono {departed : String} {log' : List (Entry Reply)} {m : Member}
    (h : Confirmed departed addresses log m) (sub : log ⊆ log') :
    Confirmed departed addresses log' m := by
  obtain ⟨peer, view, located, asked, gone⟩ := h
  exact ⟨peer, view, located, sub asked, gone⟩

theorem ends_confirms {departed : String} {m : Member} {confirmed : Bool}
    (h : (confirms departed addresses m).Ends log confirmed) :
    OnlyViews addresses [m] log ∧ (confirmed = true → Confirmed departed addresses log m) := by
  unfold confirms at h
  cases located : addresses.get? m.name with
  | none =>
    rw [located] at h
    obtain ⟨rfl, rfl⟩ := h
    exact ⟨by simp [OnlyViews], by simp⟩
  | some peer =>
    rw [located] at h
    obtain ⟨reply, rest, rfl, h⟩ := h
    cases reply with
    | error failure =>
      obtain ⟨rfl, rfl⟩ := h
      exact ⟨by simp [OnlyViews, located], by simp⟩
    | ok view =>
      obtain ⟨rfl, rfl⟩ := h
      refine ⟨by simp [OnlyViews, located], fun gone => ⟨peer, view, located, by simp, ?_⟩⟩
      simpa using gone

/-- As many members as are counted have confirmed, each by its own ring view. -/
theorem ends_confirmations {departed : String} {members : List Member} {count : Nat}
    (h : (confirmations departed addresses members).Ends log count) :
    OnlyViews addresses members log ∧ ∃ confirming : List Member, confirming.Sublist members ∧
      confirming.length = count ∧ ∀ m ∈ confirming, Confirmed departed addresses log m := by
  induction members generalizing log count with
  | nil =>
    obtain ⟨rfl, rfl⟩ := h
    exact ⟨by simp [OnlyViews], [], .slnil, rfl, by simp⟩
  | cons m rest ih =>
    rw [confirmations, ends_bind] at h
    obtain ⟨first, second, confirmed, rfl, hm, h⟩ := h
    rw [ends_bind] at h
    obtain ⟨second, last, more, rfl, hrest, rfl, rfl⟩ := h
    rw [List.append_nil]
    obtain ⟨views, own⟩ := ends_confirms hm
    obtain ⟨views', confirming, sub, length, others⟩ := ih hrest
    constructor
    · intro e he
      rcases List.mem_append.1 he with he | he
      · obtain ⟨m', hm', asked⟩ := views e he
        exact ⟨m', List.mem_cons.2 (.inl (List.mem_singleton.1 hm')), asked⟩
      · obtain ⟨m', hm', asked⟩ := views' e he
        exact ⟨m', List.mem_cons_of_mem _ hm', asked⟩
    · have others := fun m' hm' => (others m' hm').mono (List.subset_append_right first second)
      -- The first member is counted just if it confirms.
      cases confirmed with
      | false => exact ⟨confirming, sub.cons m, by simpa using length, others⟩
      | true =>
        refine ⟨m :: confirming, sub.cons_cons m, by simp [length]; omega, fun m' hm' => ?_⟩
        rcases List.mem_cons.1 hm' with rfl | hm'
        · exact (own rfl).mono (List.subset_append_left first second)
        · exact others m' hm'

/-- The members of declared datacenters other than a pod. -/
def peersOf (spec : Spec) (s : Snapshot) (pod : String) : List Member :=
  (declaredMembers spec s).filter fun m => m.name ≠ pod

theorem ends_departureConfirmed {pod address : String} {confirmed : Bool}
    (h : (departureConfirmed spec pod address s addresses).Ends log confirmed) :
    OnlyViews addresses (peersOf spec s pod) log ∧
      (confirmed = true → ∃ confirming : List Member, confirming.Sublist (peersOf spec s pod) ∧
        (declaredMembers spec s).length - 1 ≤ confirming.length ∧
          ∀ m ∈ confirming, Confirmed address addresses log m) := by
  rw [departureConfirmed, ends_bind] at h
  obtain ⟨first, second, count, rfl, h, rfl, rfl⟩ := h
  rw [List.append_nil]
  obtain ⟨views, confirming, sub, length, all⟩ := ends_confirmations h
  refine ⟨views, fun enough => ⟨confirming, sub, ?_, all⟩⟩
  rw [length]
  simpa using enough

/-! ## Acts -/

/-- Only the record of a job is asked about. -/
def OnlyJob (job : String) (log : List (Entry Reply)) : Prop :=
  ∀ e ∈ log, ∃ request : Jobs.Ask, e.1 = .job request ∧ request.name = job

theorem onlyJob_nil {job : String} : OnlyJob job [] := by simp [OnlyJob]

theorem OnlyJob.append {job : String} {log' : List (Entry Reply)} (h : OnlyJob job log)
    (h' : OnlyJob job log') : OnlyJob job (log ++ log') := by
  intro e he
  rcases List.mem_append.1 he with he | he
  · exact h e he
  · exact h' e he

theorem OnlyJob.not_acts {job : String} (h : OnlyJob job log) :
    ∀ e ∈ log, e.1.acts = false := by
  intro e he
  obtain ⟨request, asked, -⟩ := h e he
  rw [asked, Ask.acts]

theorem OnlyViews.not_acts {members : List Member} (h : OnlyViews addresses members log) :
    ∀ e ∈ log, e.1.acts = false := by
  intro e he
  obtain ⟨m, -, peer, -, asked⟩ := h e he
  rw [asked, Ask.acts]

/-- Part of a scaling step, an operation of the tracker is still only about
    its own job. -/
theorem onlyJob_of_ends_onJobs {job : String} {α : Type} {exchange : Jobs.Exchange α}
    {result : Outcome α}
    (about : ∀ {inner result}, exchange.run.Ends inner result → ∀ e ∈ inner, e.1.name = job)
    (h : (onJobs exchange).run.Ends log result) : OnlyJob job log := by
  obtain ⟨inner, rfl, ended⟩ := ends_onJobs.1 h
  intro e he
  obtain ⟨e', he', rfl⟩ := List.mem_map.1 he
  exact ⟨e'.1, rfl, about ended e' he'⟩

/-- The departure of a node is completed by one write; all that follows is
    about the record of its job. -/
theorem ends_complete {intent : Intent} {job : String} {result : Outcome Result}
    (h : (complete now intent job).run.Ends log result) :
    ∃ reply rest, OnlyJob job rest ∧ log = ⟨.setReplicas intent.statefulSet
      (intent.current - 1) intent.version, reply⟩ :: rest := by
  rw [complete, ends_bind_except] at h
  rcases h with ⟨failure, h, rfl⟩ | ⟨first, second, _, rfl, h, hr⟩
  · exact ⟨_, [], onlyJob_nil, ends_setReplicas.1 h⟩
  · obtain rfl := ends_setReplicas.1 h
    refine ⟨_, second, ?_, rfl⟩
    obtain ⟨_, h, -⟩ := ends_map_except.1 hr
    exact onlyJob_of_ends_onJobs Jobs.name_of_ends_remove h

/-- A log that is only about a job, and then may launch its task, if its record
    was created before. -/
def Launching (now : Instant) (job address : String) (log : List (Entry Reply)) : Prop :=
  ∃ records, OnlyJob job records ∧ (log = records ∨
    ⟨.job (.create (.fresh job now)), .ok ()⟩ ∈ records ∧
      log = records ++ [⟨.launch job address, ()⟩])

theorem OnlyJob.launching {job address : String} (h : OnlyJob job log) :
    Launching now job address log := ⟨log, h, .inl rfl⟩

theorem OnlyJob.append_launching {job address : String} {log' : List (Entry Reply)}
    (h : OnlyJob job log) (h' : Launching now job address log') :
    Launching now job address (log ++ log') := by
  obtain ⟨records, only, rfl | ⟨created, rfl⟩⟩ := h'
  · exact (h.append only).launching
  · exact ⟨log ++ records, h.append only, .inr
      ⟨List.mem_append_right _ created, (List.append_assoc _ _ _).symm⟩⟩

/-- The task of a job is launched right after its record was created. -/
theorem launching_of_ends_run {job address : String} {after : Exchange Result}
    {result : Outcome Result} (still : ∀ {log result}, after.run.Ends log result → log = [])
    (h : (onJobs (Jobs.start now job) >>= fun _ => ExceptT.lift (launch job address) >>=
      fun _ => after : Exchange Result).run.Ends log result) : Launching now job address log := by
  rw [ends_bind_except] at h
  rcases h with ⟨failure, h, rfl⟩ | ⟨first, second, _, rfl, h, hr⟩
  · exact (onlyJob_of_ends_onJobs Jobs.name_of_ends_start h).launching
  -- The launch is reached only if the record was created.
  · have only := onlyJob_of_ends_onJobs Jobs.name_of_ends_start h
    obtain ⟨inner, rfl, created⟩ := ends_onJobs.1 h
    obtain rfl := Jobs.ends_start.1 created
    obtain ⟨launched, last, _, rfl, hl, ha⟩ := ends_bind_lift.1 hr
    obtain rfl := ends_launch.1 hl
    obtain rfl := still ha
    exact ⟨_, only, .inr ⟨List.mem_singleton_self _, rfl⟩⟩

/-- A decommission is launched, if at all, at the end, after the record of its
    job was created. -/
theorem ends_startDecommission {pod job address : String} {result : Outcome Result}
    (h : (startDecommission now pod job address).run.Ends log result) :
    Launching now job address log := by
  have launched : ∀ {log result}, (onJobs (Jobs.start now job) >>= fun _ =>
      ExceptT.lift (launch job address) >>= fun _ => pure (.decommissionStarted pod) :
        Exchange Result).run.Ends log result → Launching now job address log :=
    launching_of_ends_run fun ended => ended.1
  rw [startDecommission, ends_bind_except] at h
  rcases h with ⟨failure, h, rfl⟩ | ⟨first, second, seen, rfl, h, hr⟩
  · exact (onlyJob_of_ends_onJobs Jobs.name_of_ends_job? h).launching
  · refine (onlyJob_of_ends_onJobs Jobs.name_of_ends_job? h).append_launching ?_
    cases seen with
    | none => exact launched hr
    | some record =>
      rcases ends_bind_except.1 hr with ⟨failure, h, rfl⟩ | ⟨first, last, _, rfl, h, hr⟩
      · exact (onlyJob_of_ends_onJobs Jobs.name_of_ends_remove h).launching
      · exact (onlyJob_of_ends_onJobs Jobs.name_of_ends_remove h).append_launching (launched hr)

end RingOperator.Scaling
