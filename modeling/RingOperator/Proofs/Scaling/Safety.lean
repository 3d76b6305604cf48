import RingOperator.Proofs.Scaling.Requests

/-!
# Safety of a scaling step

A scaling step writes at most one count and has at most one node leave, never
both, and only for the first intent that is due. A count is lowered by one, and
only after, in the same step, the highest node was found to be gone: no job of
it is running, it does not say that it is at work, and the other members of
declared datacenters confirm that it is not live. A node is told to leave only
while it says that it is at work. One that is leaving, or that may be gone without
enough others to confirm it, is left for later, and nothing is written.

All of this is about every log of the step, i.e., about whatever the stores and
the nodes reply, failures included (`step_safe`).
-/

namespace RingOperator.Scaling

open Dialogue

/-! ## Intents that are due -/

namespace Intent

/-- Whether the count is to be lowered: it is above the desired one, or the
    datacenter is no longer declared and not empty. -/
def lowers (intent : Intent) : Bool :=
  match intent.desired with
  | some desired => desired < intent.current
  | none => intent.current ≠ 0

/-- Whether the step takes the intent up: the datacenter is no longer declared
    or has another count than the desired one, where a count cannot be lowered
    while no member exists. -/
def isDue (s : Snapshot) (intent : Intent) : Bool :=
  intent.desired ≠ some intent.current && !(intent.lowers && s.isEmpty)

/-- The pod that is removed when the count is lowered. -/
def target (cluster : String) (intent : Intent) : String :=
  Naming.pod cluster intent.dc (intent.current - 1)

end Intent

variable {now : Instant} {cluster : String} {spec : Spec} {s : Snapshot}
  {addresses : Table String} {intent : Intent} {log : List (Entry Reply)}
  {result : Outcome Result}

/-- What a step does for the intent that it takes up. -/
def takeUp (now : Instant) (cluster : String) (spec : Spec) (s : Snapshot)
    (addresses : Table String) (intent : Intent) : Exchange Result :=
  match intent.desired with
  | some desired =>
    if desired > intent.current then do
      setReplicas intent.statefulSet desired intent.version
      return .scaledUp intent.dc desired
    else lower now cluster spec intent s addresses
  | none =>
    if intent.current = 0 then do
      deleteSet intent.statefulSet intent.version
      return .dcRemoved intent.dc
    else lower now cluster spec intent s addresses

/-- The step takes up the first intent that is due, and nothing else. -/
theorem step_eq (intents : List Intent) :
    step now cluster spec s addresses intents =
      match intents.find? (·.isDue s) with
      | none => pure .idle
      | some intent => takeUp now cluster spec s addresses intent := by
  induction intents with
  | nil => rfl
  | cons intent rest ih =>
    -- An intent is due just if the step does not pass it over.
    rw [List.find?_cons, step, ih]
    cases wanted : intent.desired with
    | none =>
      by_cases empty : intent.current = 0
      · simp [Intent.isDue, Intent.lowers, takeUp, wanted, empty]
      · cases none : s.isEmpty <;>
          simp [Intent.isDue, Intent.lowers, takeUp, wanted, empty, none]
    | some desired =>
      by_cases same : desired = intent.current
      · simp [Intent.isDue, wanted, same]
      · by_cases more : desired > intent.current
        · have : ¬ desired < intent.current := by omega
          simp [Intent.isDue, Intent.lowers, takeUp, wanted, same, more, this]
        · have : desired < intent.current := by omega
          cases none : s.isEmpty <;>
            simp [Intent.isDue, Intent.lowers, takeUp, wanted, same, more, this, none]

/-! ## Lowering a count -/

/-- In a log, no job of the target was found to be running; the target is a
    member, and this is its address. -/
structure Resting (now : Instant) (cluster : String) (s : Snapshot) (addresses : Table String)
    (intent : Intent) (address : String) (log : List (Entry Reply)) : Prop where
  notRunning : ∃ seen : Option Jobs.Versioned,
    ⟨.job (.get (Naming.job (intent.target cluster))), .ok seen⟩ ∈ log ∧
      ∀ current ∈ seen, current.record.isRunningAt now = false
  isMember : ∃ m ∈ s.members, m.name = intent.target cluster
  located : addresses.get? (intent.target cluster) = some address

/-- In a log, only the target was asked what it is doing, and only peers of it
    for their ring view. -/
def Questions (cluster : String) (spec : Spec) (s : Snapshot) (addresses : Table String)
    (intent : Intent) (address : String) (log : List (Entry Reply)) : Prop :=
  ∃ answer views, log = ⟨.mode address, answer⟩ :: views ∧
    OnlyViews addresses (peersOf spec s (intent.target cluster)) views

/-- In a log, the target was found to have left: it does not answer, or answers
    that it is decommissioned, and its departure is confirmed by as many peers
    as there are members of declared datacenters, less one for the target; so,
    if the target is one of these members, by every other one. -/
structure Departed (now : Instant) (cluster : String) (spec : Spec) (s : Snapshot)
    (addresses : Table String) (intent : Intent) (address : String) (log : List (Entry Reply)) :
    Prop extends Resting now cluster s addresses intent address log where
  silent : ∃ answer : Outcome OperationMode, ⟨.mode address, answer⟩ ∈ log ∧
    (answer = .ok .decommissioned ∨ ∃ failure, answer = .error failure)
  confirmed : ∃ confirming : List Member,
    confirming.Sublist (peersOf spec s (intent.target cluster)) ∧
      (declaredMembers spec s).length - 1 ≤ confirming.length ∧
        ∀ m ∈ confirming, Confirmed address addresses log m
  unanimous : (∃ m ∈ declaredMembers spec s, m.name = intent.target cluster) →
    ∀ m ∈ declaredMembers spec s, m.name ≠ intent.target cluster →
      Confirmed address addresses log m

/-- In a log, the target was found to be at work. -/
structure Working (now : Instant) (cluster : String) (s : Snapshot) (addresses : Table String)
    (intent : Intent) (address : String) (log : List (Entry Reply)) :
    Prop extends Resting now cluster s addresses intent address log where
  working : ∃ mode, ⟨.mode address, .ok mode⟩ ∈ log ∧ mode ≠ .leaving ∧ mode ≠ .decommissioned

/-- The log of a step that lowers a count, after the one question that comes
    first: it is over, or it goes on with questions alone, or it ends in the
    one write of a departed target, or in the launch for one at work. -/
inductive Lowering (now : Instant) (cluster : String) (spec : Spec) (s : Snapshot)
    (addresses : Table String) (intent : Intent) (first : Entry Reply) :
    List (Entry Reply) → Prop
  | ended : Lowering now cluster spec s addresses intent first []
  | asked {address : String} {questions : List (Entry Reply)} :
      Resting now cluster s addresses intent address (first :: questions) →
      Questions cluster spec s addresses intent address questions →
      Lowering now cluster spec s addresses intent first questions
  | completed {address : String} {questions rest : List (Entry Reply)} (reply : Outcome Unit) :
      Departed now cluster spec s addresses intent address (first :: questions) →
      Questions cluster spec s addresses intent address questions →
      OnlyJob (Naming.job (intent.target cluster)) rest →
      Lowering now cluster spec s addresses intent first (questions ++
        ⟨.setReplicas intent.statefulSet (intent.current - 1) intent.version, reply⟩ :: rest)
  | launched {address : String} {questions rest : List (Entry Reply)} :
      Working now cluster s addresses intent address (first :: questions) →
      Questions cluster spec s addresses intent address questions →
      Launching now (Naming.job (intent.target cluster)) address rest →
      Lowering now cluster spec s addresses intent first (questions ++ rest)

/-- What a step comes to that leaves a target for later, by what that answers: it waits, or
    the departure is not confirmed. -/
def postponed (pod : String) : Outcome OperationMode → Outcome Result
  | .ok _ => .ok (.waiting pod)
  | .error failure => .error (.departureUnconfirmed pod failure)

/-- How a step that lowers a count goes on after its questions, given the log up
    to there: it leaves the target for later, or it completes the departure of a
    departed target, or it has a target that is at work leave. -/
inductive Closes (now : Instant) (cluster : String) (spec : Spec) (s : Snapshot)
    (addresses : Table String) (intent : Intent) (address : String)
    (before log : List (Entry Reply)) (result : Outcome Result) : Prop
  | postpones (h : log = []) (said : ∃ answer, ⟨.mode address, answer⟩ ∈ before ∧
      result = postponed (intent.target cluster) answer)
  | completes (departed : Departed now cluster spec s addresses intent address before)
      (h : (complete now intent (Naming.job (intent.target cluster))).run.Ends log result)
  | starts (working : Working now cluster s addresses intent address before)
      (h : (startDecommission now (intent.target cluster) (Naming.job (intent.target cluster))
        address).run.Ends log result)

/-- If the target is one of the members of declared datacenters, and as many
    others confirm as there are members less one, then every other one does. -/
theorem unanimous_of_enough {pod : String} {confirming : List Member}
    (sub : confirming.Sublist (peersOf spec s pod))
    (enough : (declaredMembers spec s).length - 1 ≤ confirming.length)
    (declared : ∃ m ∈ declaredMembers spec s, m.name = pod) :
    ∀ m ∈ declaredMembers spec s, m.name ≠ pod → m ∈ confirming := by
  obtain ⟨target, isDeclared, rfl⟩ := declared
  -- The target itself is no peer, so there are fewer peers than members.
  have fewer : (peersOf spec s target.name).length < (declaredMembers spec s).length := by
    refine List.length_filter_lt_length_iff_exists.2 ⟨target, isDeclared, ?_⟩
    simp
  have all : confirming = peersOf spec s target.name :=
    sub.eq_of_length_le (by omega)
  intro m hm other
  rw [all]
  exact List.mem_filter.2 ⟨hm, by simpa using other⟩

theorem Resting.mono {address : String} {log' : List (Entry Reply)}
    (h : Resting now cluster s addresses intent address log) (sub : log ⊆ log') :
    Resting now cluster s addresses intent address log' := by
  obtain ⟨⟨seen, read, idle⟩, isMember, located⟩ := h
  exact ⟨⟨seen, sub read, idle⟩, isMember, located⟩

theorem Departed.mono {address : String} {log' : List (Entry Reply)}
    (h : Departed now cluster spec s addresses intent address log) (sub : log ⊆ log') :
    Departed now cluster spec s addresses intent address log' := by
  obtain ⟨resting, ⟨answer, answered, silent⟩, ⟨confirming, among, enough, all⟩, unanimous⟩ := h
  refine ⟨resting.mono sub, ⟨answer, sub answered, silent⟩, ⟨confirming, among, enough, ?_⟩, ?_⟩
  · exact fun m hm => (all m hm).mono sub
  · exact fun declared m hm other => (unanimous declared m hm other).mono sub

theorem Working.mono {address : String} {log' : List (Entry Reply)}
    (h : Working now cluster s addresses intent address log) (sub : log ⊆ log') :
    Working now cluster s addresses intent address log' := by
  obtain ⟨resting, mode, answered, notLeaving, notGone⟩ := h
  exact ⟨resting.mono sub, mode, sub answered, notLeaving, notGone⟩

/-- Questions for the confirmation of a departure that is confirmed: the target
    has departed. -/
theorem departed_of_confirmed {address : String} {answer : Outcome OperationMode}
    {first : Entry Reply} {views : List (Entry Reply)}
    (resting : Resting now cluster s addresses intent address
      (first :: ⟨.mode address, answer⟩ :: views))
    (silent : answer = .ok .decommissioned ∨ ∃ failure, answer = .error failure)
    (h : (departureConfirmed spec (intent.target cluster) address s addresses).Ends views true) :
    Departed now cluster spec s addresses intent address
      (first :: ⟨.mode address, answer⟩ :: views) := by
  obtain ⟨-, confirms⟩ := ends_departureConfirmed h
  obtain ⟨confirming, sub, enough, all⟩ := confirms rfl
  have later : views ⊆ first :: ⟨.mode address, answer⟩ :: views :=
    fun e he => List.mem_cons_of_mem _ (List.mem_cons_of_mem _ he)
  refine ⟨resting, ⟨answer, by simp, silent⟩, ⟨confirming, sub, enough, ?_⟩, ?_⟩
  · exact fun m hm => (all m hm).mono later
  · exact fun declared m hm other =>
      (all m (unanimous_of_enough sub enough declared m hm other)).mono later

/-- What a step does about a target that rests, by what it says it is doing. -/
def judge (now : Instant) (cluster : String) (spec : Spec) (s : Snapshot)
    (addresses : Table String) (intent : Intent) (address : String) :
    Outcome OperationMode → Exchange Result
  | .error failure => do
    if ← (departureConfirmed spec (intent.target cluster) address s addresses : Talk _) then
      complete now intent (Naming.job (intent.target cluster))
    else throw (.departureUnconfirmed (intent.target cluster) failure)
  | .ok .leaving => return .waiting (intent.target cluster)
  | .ok .decommissioned => do
    if ← (departureConfirmed spec (intent.target cluster) address s addresses : Talk _) then
      complete now intent (Naming.job (intent.target cluster))
    else return .waiting (intent.target cluster)
  | .ok _ =>
    startDecommission now (intent.target cluster) (Naming.job (intent.target cluster)) address

theorem judge_of_working {address : String} {mode : OperationMode} (notLeaving : mode ≠ .leaving)
    (notGone : mode ≠ .decommissioned) :
    judge now cluster spec s addresses intent address (.ok mode) =
      startDecommission now (intent.target cluster) (Naming.job (intent.target cluster))
        address := by
  cases mode <;> first | rfl | contradiction

theorem lower_eq : lower now cluster spec intent s addresses = (do
    if ← onJobs (Jobs.isRunning now (Naming.job (intent.target cluster))) then
      return .waiting (intent.target cluster)
    else if (s.member? (intent.target cluster)).isNone then
      throw (.invariant ("couldn't find pod " ++ intent.target cluster ++
        " to start the decommission"))
    else match addresses.get? (intent.target cluster) with
      | none => throw (.podNotScheduled (intent.target cluster))
      | some address =>
        ExceptT.lift (mode address) >>= judge now cluster spec s addresses intent address) := rfl

/-- After an answer that lets the target be gone, its peers are asked. If they
    confirm, the departure is completed; otherwise nothing more is asked. -/
theorem closes_of_ends_confirmation {address : String} {first : Entry Reply}
    {answer : Outcome OperationMode} (otherwise : Exchange Result)
    (still : ∀ {log result}, otherwise.run.Ends log result →
      log = [] ∧ result = postponed (intent.target cluster) answer)
    (resting : ∀ rest, Resting now cluster s addresses intent address (first :: rest))
    (silent : answer = .ok .decommissioned ∨ ∃ failure, answer = .error failure)
    (h : (ExceptT.lift (departureConfirmed spec (intent.target cluster) address s addresses) >>=
      fun confirmed => if confirmed then
        complete now intent (Naming.job (intent.target cluster)) else otherwise).run.Ends
      log result) :
    ∃ views closing, log = views ++ closing ∧
      Questions cluster spec s addresses intent address (⟨.mode address, answer⟩ :: views) ∧
        Closes now cluster spec s addresses intent address
          (first :: ⟨.mode address, answer⟩ :: views) closing result := by
  obtain ⟨views, closing, confirmed, rfl, asked, hr⟩ := ends_bind_lift.1 h
  refine ⟨views, closing, rfl, ⟨answer, views, rfl, (ends_departureConfirmed asked).1⟩, ?_⟩
  cases confirmed with
  | true => exact .completes (departed_of_confirmed (resting _) silent asked) hr
  | false => exact .postpones (still hr).1 ⟨answer, by simp, (still hr).2⟩

/-- A target that rests is asked what it is doing; then it has departed, or it
    is at work, or nothing more is done. -/
theorem closes_of_ends_judge {address : String} {first : Entry Reply}
    {answer : Outcome OperationMode}
    (resting : ∀ rest, Resting now cluster s addresses intent address (first :: rest))
    (h : (judge now cluster spec s addresses intent address answer).run.Ends log result) :
    ∃ views closing, log = views ++ closing ∧
      Questions cluster spec s addresses intent address (⟨.mode address, answer⟩ :: views) ∧
        Closes now cluster spec s addresses intent address
          (first :: ⟨.mode address, answer⟩ :: views) closing result := by
  have alone : Questions cluster spec s addresses intent address [⟨.mode address, answer⟩] :=
    ⟨answer, [], rfl, by simp [OnlyViews]⟩
  rcases answer with failure | mode
  · exact closes_of_ends_confirmation
      (throw (Failure.departureUnconfirmed (intent.target cluster) failure))
      id resting (.inr ⟨failure, rfl⟩) h
  by_cases leaving : mode = .leaving
  · subst leaving
    exact ⟨[], log, rfl, alone, .postpones h.1 ⟨.ok .leaving, by simp, h.2⟩⟩
  by_cases gone : mode = .decommissioned
  · subst gone
    exact closes_of_ends_confirmation (pure (.waiting (intent.target cluster)))
      id resting (.inl rfl) h
  · rw [judge_of_working leaving gone] at h
    exact ⟨[], log, rfl, alone, .starts ⟨resting _, mode, by simp, leaving, gone⟩ h⟩

/-- Every log of a step that lowers a count starts with the question for the
    job of the target. If the target rests, more questions follow, before anything
    is done. -/
theorem ends_lower (h : (lower now cluster spec intent s addresses).run.Ends log result) :
    ∃ reading rest, log = ⟨.job (.get (Naming.job (intent.target cluster))), reading⟩ :: rest ∧
      (rest = [] ∨ ∃ address questions closing, rest = questions ++ closing ∧
        Resting now cluster s addresses intent address
          (⟨.job (.get (Naming.job (intent.target cluster))), reading⟩ :: questions) ∧
        Questions cluster spec s addresses intent address questions ∧
        Closes now cluster spec s addresses intent address
          (⟨.job (.get (Naming.job (intent.target cluster))), reading⟩ :: questions)
          closing result) := by
  rw [lower_eq] at h
  have reading : ∀ {log running},
      (onJobs (Jobs.isRunning now (Naming.job (intent.target cluster)))).run.Ends log running →
      ∃ reply : Outcome (Option Jobs.Versioned),
        log = [⟨.job (.get (Naming.job (intent.target cluster))), reply⟩] ∧
          running = reply.map fun seen => seen.any (·.record.isRunningAt now) := by
    intro log running h
    obtain ⟨inner, rfl, ended⟩ := ends_onJobs.1 h
    obtain ⟨reply, rfl, answered⟩ := Jobs.ends_isRunning.1 ended
    exact ⟨reply, rfl, answered⟩
  rcases ends_bind_except.1 h with ⟨failure, asked, -⟩ | ⟨first, rest, running, rfl, asked, hr⟩
  · obtain ⟨reply, rfl, -⟩ := reading asked
    exact ⟨reply, [], rfl, .inl rfl⟩
  obtain ⟨reply, rfl, answered⟩ := reading asked
  refine ⟨reply, rest, rfl, ?_⟩
  -- The step goes on only if the record was read and does not count as running.
  cases running with
  | true => exact .inl hr.1
  | false =>
    obtain ⟨seen, rfl⟩ : ∃ seen, reply = .ok seen := by
      cases reply with
      | error failure => cases answered
      | ok seen => exact ⟨seen, rfl⟩
    simp only [Bool.false_eq_true, if_false] at hr
    split at hr
    · exact .inl hr.1
    rename_i isMember
    cases located : addresses.get? (intent.target cluster) with
    | none =>
      rw [located] at hr
      exact .inl hr.1
    | some address =>
      rw [located] at hr
      obtain ⟨_, rest, answer, rfl, asked, hj⟩ := ends_bind_lift.1 hr
      rw [ends_mode.1 asked]
      have resting (rest : List (Entry Reply)) : Resting now cluster s addresses intent address
          (⟨.job (.get (Naming.job (intent.target cluster))), .ok seen⟩ :: rest) := by
        refine ⟨⟨seen, List.mem_cons_self, ?_⟩, ?_, located⟩
        · rintro current rfl
          exact (Except.ok.inj answered).symm
        · simpa [Snapshot.member?, List.find?_eq_none] using isMember
      obtain ⟨views, closing, rfl, questions, closes⟩ := closes_of_ends_judge resting hj
      exact .inr ⟨address, _ :: views, closing, rfl, resting _, questions, closes⟩

/-- A target that rests is asked what it is doing. -/
theorem ends_lower_of_resting {address : String} {seen : Option Jobs.Versioned}
    {answer : Outcome OperationMode}
    (idle : ∀ current ∈ seen, current.record.isRunningAt now = false)
    (isMember : ∃ m ∈ s.members, m.name = intent.target cluster)
    (located : addresses.get? (intent.target cluster) = some address)
    (h : (judge now cluster spec s addresses intent address answer).run.Ends log result) :
    (lower now cluster spec intent s addresses).run.Ends
      (⟨.job (.get (Naming.job (intent.target cluster))), .ok seen⟩ :: ⟨.mode address, answer⟩ ::
        log) result := by
  have resting : (onJobs (Jobs.isRunning now (Naming.job (intent.target cluster)))).run.Ends
      [⟨.job (.get (Naming.job (intent.target cluster))), .ok seen⟩] (.ok false) := by
    refine ends_onJobs.2 ⟨[⟨.get _, .ok seen⟩], rfl, Jobs.ends_isRunning.2 ⟨.ok seen, rfl, ?_⟩⟩
    refine congrArg Except.ok (Eq.symm ?_)
    rcases seen with _ | current
    · rfl
    · exact idle current rfl
  have present : ¬ (s.member? (intent.target cluster)).isNone = true := by
    simpa [Snapshot.member?, List.find?_eq_none] using isMember
  rw [lower_eq]
  refine ends_bind_except.2 (.inr ⟨[_], _, false, rfl, resting, ?_⟩)
  rw [if_neg Bool.false_ne_true, if_neg present, located]
  exact ends_bind_lift.2 ⟨[_], log, answer, rfl, ends_mode.2 rfl, h⟩

/-- Where its peers confirm that such a target has left, and no job of it is recorded, the count is
    lowered. -/
theorem ends_lower_of_gone {address : String} {answer : Outcome OperationMode}
    {views : List (Entry Reply)} (gone : ∀ mode, answer = .ok mode → mode = .decommissioned)
    (isMember : ∃ m ∈ s.members, m.name = intent.target cluster)
    (located : addresses.get? (intent.target cluster) = some address)
    (confirmed : (departureConfirmed spec (intent.target cluster) address s addresses).Ends views
      true) :
    (lower now cluster spec intent s addresses).run.Ends
      (⟨.job (.get (Naming.job (intent.target cluster))), .ok none⟩ :: ⟨.mode address, answer⟩ ::
        (views ++ [⟨.setReplicas intent.statefulSet (intent.current - 1) intent.version, .ok ()⟩,
          ⟨.job (.get (Naming.job (intent.target cluster))), .ok none⟩]))
      (.ok (.scaledDown intent.dc (intent.current - 1))) := by
  refine ends_lower_of_resting (by simp) isMember located ?_
  have completed : (complete now intent (Naming.job (intent.target cluster))).run.Ends
      [⟨.setReplicas intent.statefulSet (intent.current - 1) intent.version, .ok ()⟩,
        ⟨.job (.get (Naming.job (intent.target cluster))), .ok none⟩]
      (.ok (.scaledDown intent.dc (intent.current - 1))) :=
    ends_ask.2 ⟨_, _, rfl, ends_ask.2 ⟨_, _, rfl, ends_done.2 ⟨rfl, rfl⟩⟩⟩
  cases answer with
  | error failure => exact ends_bind_lift.2 ⟨views, _, true, rfl, confirmed, completed⟩
  | ok mode =>
    obtain rfl := gone mode rfl
    exact ends_bind_lift.2 ⟨views, _, true, rfl, confirmed, completed⟩

/-- Whether some entries do not ask any node what it is doing. -/
def AsksNoMode (log : List (Entry Reply)) : Prop := ∀ e ∈ log, ∀ address, e.1 ≠ .mode address

theorem OnlyViews.asksNoMode {members : List Member} (h : OnlyViews addresses members log) :
    AsksNoMode log := by
  intro e among address same
  obtain ⟨m, -, peer, -, asked⟩ := h e among
  cases same.symm.trans asked

theorem OnlyJob.asksNoMode {job : String} (h : OnlyJob job log) : AsksNoMode log := by
  intro e among address same
  obtain ⟨request, asked, -⟩ := h e among
  cases same.symm.trans asked

theorem Launching.asksNoMode {job address : String} (h : Launching now job address log) :
    AsksNoMode log := by
  obtain ⟨records, only, rfl | ⟨-, rfl⟩⟩ := h
  · exact only.asksNoMode
  · exact List.forall_mem_append.2 ⟨only.asksNoMode, List.forall_mem_singleton.2 nofun⟩

/-- The target is asked only once what it is doing. -/
theorem eq_of_asked_mode {address address' : String} {answer answer' : Outcome OperationMode}
    {first : Entry Reply} {rest : List (Entry Reply)} (unasked : AsksNoMode (first :: rest))
    (asked : ⟨.mode address, answer⟩ ∈ first :: ⟨.mode address', answer'⟩ :: rest) :
    address = address' ∧ answer = answer' := by
  obtain ⟨before, after⟩ := List.forall_mem_cons.1 unasked
  obtain rfl | asked := List.mem_cons.1 asked
  · exact absurd rfl (before address)
  obtain same | later := List.mem_cons.1 asked
  · cases same
    exact ⟨rfl, rfl⟩
  · exact absurd rfl (after _ later address)

/-- A target that may be gone, or is about to go, is left for later unless it has departed: nothing
    is done, and of records only the one of its job is read. -/
theorem postponed_of_ends_lower {address : String} {answer : Outcome OperationMode}
    (h : (lower now cluster spec intent s addresses).run.Ends log result)
    (asked : ⟨.mode address, answer⟩ ∈ log)
    (leaves : ∀ mode, answer = .ok mode → mode = .leaving ∨ mode = .decommissioned)
    (stays : ¬ Departed now cluster spec s addresses intent address log) :
    (∀ e ∈ log, e.1.acts = false ∧
      ∀ request, e.1 = .job request → request = .get (Naming.job (intent.target cluster))) ∧
    result = postponed (intent.target cluster) answer := by
  obtain ⟨reading, rest, rfl, rfl | ⟨address', _, closing, rfl, -, ⟨answer', views, rfl, only⟩,
    closes⟩⟩ := ends_lower h
  · simp at asked
  have unasked {closing : List (Entry Reply)} (none : AsksNoMode closing) :
      AsksNoMode (⟨.job (.get (Naming.job (intent.target cluster))), reading⟩ ::
        (views ++ closing)) :=
    List.forall_mem_cons.2 ⟨nofun, List.forall_mem_append.2 ⟨only.asksNoMode, none⟩⟩
  cases closes with
  | postpones none said =>
    subst none
    obtain ⟨_, answered, rfl⟩ := said
    obtain ⟨rfl, rfl⟩ := eq_of_asked_mode (unasked (List.forall_mem_nil _)) asked
    obtain ⟨-, rfl⟩ := eq_of_asked_mode (List.append_nil views ▸ unasked (List.forall_mem_nil _))
      answered
    refine ⟨List.forall_mem_cons.2 ⟨⟨rfl, ?_⟩, List.forall_mem_cons.2 ⟨⟨rfl, nofun⟩, ?_⟩⟩, rfl⟩
    · rintro _ ⟨⟩
      rfl
    · intro e among
      obtain ⟨m, -, peer, -, same⟩ := only e (by simpa using among)
      rw [same]
      exact ⟨rfl, nofun⟩
  | completes departed completed =>
    obtain ⟨reply, rest, records, rfl⟩ := ends_complete completed
    obtain ⟨rfl, rfl⟩ := eq_of_asked_mode
      (unasked (List.forall_mem_cons.2 ⟨by simp, records.asksNoMode⟩)) asked
    exact absurd (departed.mono (List.cons_subset_cons _ (List.subset_append_left _ _))) stays
  | starts working started =>
    -- The target has said that it is at work.
    obtain ⟨mode, answered, notLeaving, notGone⟩ := working.working
    have none := unasked (ends_startDecommission started).asksNoMode
    obtain ⟨rfl, rfl⟩ := eq_of_asked_mode none asked
    obtain ⟨-, rfl⟩ := eq_of_asked_mode none
      (List.cons_subset_cons _ (List.subset_append_left _ _) answered)
    obtain rfl | rfl := leaves mode rfl
    · exact absurd rfl notLeaving
    · exact absurd rfl notGone

theorem lowering_of_ends_lower
    (h : (lower now cluster spec intent s addresses).run.Ends log result) :
    ∃ reading rest,
      log = ⟨.job (.get (Naming.job (intent.target cluster))), reading⟩ :: rest ∧
        Lowering now cluster spec s addresses intent
          ⟨.job (.get (Naming.job (intent.target cluster))), reading⟩ rest := by
  obtain ⟨reading, rest, rfl, rfl | ⟨address, questions, closing, rfl, resting, asked, closes⟩⟩ :=
    ends_lower h
  · exact ⟨reading, [], rfl, .ended⟩
  refine ⟨reading, _, rfl, ?_⟩
  cases closes with
  | postpones none =>
    rw [none, List.append_nil]
    exact .asked resting asked
  | completes departed completed =>
    obtain ⟨reply, rest, only, rfl⟩ := ends_complete completed
    exact .completed reply departed asked only
  | starts working started => exact .launched working asked (ends_startDecommission started)

/-! ## Every request is justified -/

/-- What justifies a request for the sake of an intent, given the entries of the
    log before it. -/
def Justified (now : Instant) (cluster : String) (spec : Spec) (s : Snapshot)
    (addresses : Table String) (intent : Intent) (before : List (Entry Reply)) : Ask → Prop
  | .setReplicas statefulSet count version =>
    statefulSet = intent.statefulSet ∧ version = intent.version ∧
      (intent.desired = some count ∧ intent.current < count ∨
        intent.lowers ∧ count = intent.current - 1 ∧
          ∃ address, Departed now cluster spec s addresses intent address before)
  | .deleteSet statefulSet version =>
    statefulSet = intent.statefulSet ∧ version = intent.version ∧
      intent.desired = none ∧ intent.current = 0
  | .launch job address =>
    intent.lowers ∧ job = Naming.job (intent.target cluster) ∧
      Working now cluster s addresses intent address before ∧
        ⟨.job (.create (.fresh job now)), .ok ()⟩ ∈ before
  | .job request => intent.lowers ∧ request.name = Naming.job (intent.target cluster)
  | .mode address => intent.lowers ∧ addresses.get? (intent.target cluster) = some address
  | .ringView peer =>
    intent.lowers ∧ ∃ m ∈ peersOf spec s (intent.target cluster), addresses.get? m.name = some peer

theorem OnlyJob.justified (lowers : intent.lowers)
    (h : OnlyJob (Naming.job (intent.target cluster)) log) (e : Entry Reply) (he : e ∈ log)
    (before : List (Entry Reply)) :
    Justified now cluster spec s addresses intent before e.1 := by
  obtain ⟨request, asked, about⟩ := h e he
  rw [asked]
  exact ⟨lowers, about⟩

theorem Questions.justified {address : String} (lowers : intent.lowers)
    (located : addresses.get? (intent.target cluster) = some address)
    (h : Questions cluster spec s addresses intent address log) (e : Entry Reply) (he : e ∈ log)
    (before : List (Entry Reply)) :
    Justified now cluster spec s addresses intent before e.1 := by
  obtain ⟨answer, views, rfl, only⟩ := h
  rcases List.mem_cons.1 he with rfl | he
  · exact ⟨lowers, located⟩
  · obtain ⟨m, isPeer, peer, found, asked⟩ := only e he
    rw [asked]
    exact ⟨lowers, m, isPeer, found⟩

theorem Questions.not_acts {address : String}
    (h : Questions cluster spec s addresses intent address log) : ∀ e ∈ log, e.1.acts = false := by
  obtain ⟨answer, views, rfl, only⟩ := h
  intro e he
  rcases List.mem_cons.1 he with rfl | he
  · rfl
  · exact only.not_acts e he

theorem countP_acts_eq_zero (h : ∀ e ∈ log, e.1.acts = false) : log.countP (·.1.acts) = 0 :=
  List.countP_eq_zero.2 fun e he => by simp [h e he]

/-- A step that lowers a count acts at most once. -/
theorem Lowering.countP_acts_le_one
    {reading : Jobs.Reply (.get (Naming.job (intent.target cluster)))}
    (h : Lowering now cluster spec s addresses intent
      ⟨.job (.get (Naming.job (intent.target cluster))), reading⟩ log) :
    log.countP (·.1.acts) ≤ 1 := by
  cases h with
  | ended => simp
  | asked _ questions => simp [countP_acts_eq_zero questions.not_acts]
  | completed reply _ questions only =>
    rw [List.countP_append, List.countP_cons, countP_acts_eq_zero questions.not_acts,
      countP_acts_eq_zero only.not_acts]
    simp [Ask.acts]
  | launched _ questions launching =>
    obtain ⟨records, only, rfl | ⟨-, rfl⟩⟩ := launching
    · rw [List.countP_append, countP_acts_eq_zero questions.not_acts,
        countP_acts_eq_zero only.not_acts]
      exact Nat.zero_le 1
    · rw [List.countP_append, List.countP_append, countP_acts_eq_zero questions.not_acts,
        countP_acts_eq_zero only.not_acts]
      simp [Ask.acts]

/-- In a step that lowers a count, every request is justified. -/
theorem Lowering.throughout (lowers : intent.lowers)
    {reading : Jobs.Reply (.get (Naming.job (intent.target cluster)))}
    (h : Lowering now cluster spec s addresses intent
      ⟨.job (.get (Naming.job (intent.target cluster))), reading⟩ log) :
    Throughout (fun before e => Justified now cluster spec s addresses intent before e.1)
      (⟨.job (.get (Naming.job (intent.target cluster))), reading⟩ :: log) := by
  -- Questions are justified by the intent alone, whatever was replied before.
  have opening : ∀ {questions}, (∀ e ∈ questions, ∀ before,
      Justified now cluster spec s addresses intent before e.1) →
      Throughout (fun before e => Justified now cluster spec s addresses intent before e.1)
        (⟨.job (.get (Naming.job (intent.target cluster))), reading⟩ :: questions) :=
    fun asked => throughout_cons ⟨lowers, rfl⟩ (throughout_of_forall fun e he _ => asked e he _)
  cases h with
  | ended => exact opening (by simp)
  | asked resting questions => exact opening (questions.justified lowers resting.located)
  | completed reply departed questions only =>
    refine throughout_append (opening (questions.justified lowers departed.located)) ?_
    exact throughout_cons ⟨rfl, rfl, .inr ⟨lowers, rfl, _, by simpa using departed⟩⟩
      (throughout_of_forall fun e he _ => only.justified lowers e he _)
  | launched working questions launching =>
    refine throughout_append (opening (questions.justified lowers working.located)) ?_
    obtain ⟨records, only, rfl | ⟨created, rfl⟩⟩ := launching
    · exact throughout_of_forall fun e he _ => only.justified lowers e he _
    · refine throughout_append (throughout_of_forall fun e he _ => only.justified lowers e he _) ?_
      refine throughout_cons ⟨lowers, rfl, ?_, ?_⟩ throughout_nil
      · rw [List.append_nil]
        exact working.mono (List.subset_append_left _ _)
      · rw [List.append_nil]
        exact List.mem_append_right _ created

/-- A count below the desired one is raised to it by one write, and nothing else
    is asked. -/
theorem ends_takeUp_of_raise {count : Int} (wanted : intent.desired = some count)
    (more : intent.current < count)
    (h : (takeUp now cluster spec s addresses intent).run.Ends log result) :
    ∃ reply : Outcome Unit,
      log = [⟨.setReplicas intent.statefulSet count intent.version, reply⟩] ∧
        result = reply.map fun _ => .scaledUp intent.dc count := by
  simp only [takeUp, wanted, gt_iff_lt, more, if_true] at h
  obtain ⟨reply, asked, rfl⟩ := ends_map_except.1 h
  exact ⟨reply, ends_setReplicas.1 asked, rfl⟩

/-- The StatefulSet of an empty datacenter that is no longer declared is deleted,
    and nothing else is asked. -/
theorem ends_takeUp_of_empty (undeclared : intent.desired = none) (empty : intent.current = 0)
    (h : (takeUp now cluster spec s addresses intent).run.Ends log result) :
    ∃ reply : Outcome Unit, log = [⟨.deleteSet intent.statefulSet intent.version, reply⟩] ∧
      result = reply.map fun _ => .dcRemoved intent.dc := by
  simp only [takeUp, undeclared, empty, if_true] at h
  obtain ⟨reply, asked, rfl⟩ := ends_map_except.1 h
  exact ⟨reply, ends_deleteSet.1 asked, rfl⟩

theorem takeUp_of_lowers (lowers : intent.lowers) :
    takeUp now cluster spec s addresses intent = lower now cluster spec intent s addresses := by
  unfold takeUp
  unfold Intent.lowers at lowers
  split at lowers
  · exact if_neg (Int.lt_asymm (of_decide_eq_true lowers))
  · exact if_neg (of_decide_eq_true lowers)

theorem step_of_lowers {intents : List Intent}
    (first : intents.find? (·.isDue s) = some intent) (lowers : intent.lowers) :
    step now cluster spec s addresses intents = lower now cluster spec intent s addresses := by
  rw [step_eq, first]
  exact takeUp_of_lowers lowers

/-- What is due without lowering is a raise, or the removal of an empty datacenter.
    It takes a single request. -/
theorem ends_takeUp_of_not_lowers (due : intent.isDue s) (still : ¬ intent.lowers)
    (h : (takeUp now cluster spec s addresses intent).run.Ends log result) :
    (∃ count, ∃ reply : Outcome Unit, intent.desired = some count ∧ intent.current < count ∧
      log = [⟨.setReplicas intent.statefulSet count intent.version, reply⟩] ∧
        result = reply.map fun _ => .scaledUp intent.dc count) ∨
    (∃ reply : Outcome Unit, intent.desired = none ∧ intent.current = 0 ∧
      log = [⟨.deleteSet intent.statefulSet intent.version, reply⟩] ∧
        result = reply.map fun _ => .dcRemoved intent.dc) := by
  cases wanted : intent.desired with
  | none =>
    have empty : intent.current = 0 := by simpa [Intent.lowers, wanted] using still
    obtain ⟨reply, asked⟩ := ends_takeUp_of_empty wanted empty h
    exact .inr ⟨reply, rfl, empty, asked⟩
  | some count =>
    have more : intent.current < count := by
      simp only [Intent.lowers, wanted, decide_eq_true_eq, Int.not_lt] at still
      have : count ≠ intent.current := by
        rintro rfl
        simp [Intent.isDue, wanted] at due
      omega
    obtain ⟨reply, asked⟩ := ends_takeUp_of_raise wanted more h
    exact .inl ⟨count, reply, rfl, more, asked⟩

/-- A step that takes up an intent acts at most once, and every request of it is
    justified. -/
theorem ends_takeUp (due : intent.isDue s)
    (h : (takeUp now cluster spec s addresses intent).run.Ends log result) :
    log.countP (·.1.acts) ≤ 1 ∧ Throughout
      (fun before e => Justified now cluster spec s addresses intent before e.1) log := by
  have single : ∀ {e : Entry Reply}, log = [e] →
      (∀ before, Justified now cluster spec s addresses intent before e.1) →
      log.countP (·.1.acts) ≤ 1 ∧ Throughout
        (fun before e => Justified now cluster spec s addresses intent before e.1) log := by
    rintro e rfl justified
    exact ⟨List.countP_le_length, throughout_of_forall (by simpa using justified)⟩
  by_cases lowers : intent.lowers
  · rw [takeUp_of_lowers lowers] at h
    obtain ⟨reading, rest, rfl, lowering⟩ := lowering_of_ends_lower h
    refine ⟨?_, lowering.throughout lowers⟩
    rw [List.countP_cons]
    simpa [Ask.acts] using lowering.countP_acts_le_one
  obtain ⟨count, reply, wanted, more, asked, -⟩ | ⟨reply, wanted, empty, asked, -⟩ :=
    ends_takeUp_of_not_lowers due lowers h
  · exact single asked fun _ => ⟨rfl, rfl, .inl ⟨wanted, more⟩⟩
  · exact single asked fun _ => ⟨rfl, rfl, wanted, empty⟩

/-- Whatever the stores and the nodes reply, a scaling step acts at most once:
    it writes one count or launches one decommission. All that it asks is for
    the first intent that is due, and justified by what it was replied before;
    a count that is too low is raised to the desired one by a single request,
    and if no intent is due, nothing is asked. A node that may be gone, or is
    about to go, is left for later unless it has departed: the step says so, and
    it has done nothing and has read no record but the one of the node's job. -/
theorem step_safe {intents : List Intent}
    (h : (step now cluster spec s addresses intents).run.Ends log result) :
    log.countP (·.1.acts) ≤ 1 ∧
    Throughout (fun before e => ∃ intent, intents.find? (·.isDue s) = some intent ∧
      Justified now cluster spec s addresses intent before e.1) log ∧
    (∀ intent count, intents.find? (·.isDue s) = some intent → intent.desired = some count →
      intent.current < count → ∃ reply : Outcome Unit,
        log = [⟨.setReplicas intent.statefulSet count intent.version, reply⟩] ∧
          result = reply.map fun _ => .scaledUp intent.dc count) ∧
    (intents.find? (·.isDue s) = none → log = [] ∧ result = .ok .idle) ∧
    ∀ intent address answer, intents.find? (·.isDue s) = some intent →
      ⟨.mode address, answer⟩ ∈ log →
      (∀ mode, answer = .ok mode → mode = .leaving ∨ mode = .decommissioned) →
      ¬ Departed now cluster spec s addresses intent address log →
        (∀ e ∈ log, e.1.acts = false ∧
          ∀ request, e.1 = .job request → request = .get (Naming.job (intent.target cluster))) ∧
        result = postponed (intent.target cluster) answer := by
  rw [step_eq] at h
  cases first : intents.find? (·.isDue s) with
  | none =>
    rw [first] at h
    obtain ⟨rfl, rfl⟩ := h
    exact ⟨Nat.zero_le 1, throughout_nil, by simp, fun _ => ⟨rfl, rfl⟩, by simp⟩
  | some intent =>
    rw [first] at h
    obtain ⟨once, justified⟩ := ends_takeUp (List.find?_some first) h
    refine ⟨once, fun before e after split => ⟨intent, rfl, justified before e after split⟩, ?_,
      by simp, ?_⟩
    · rintro _ count ⟨⟩ wanted more
      exact ends_takeUp_of_raise wanted more h
    · rintro _ address answer ⟨⟩ asked leaves stays
      -- Whoever asks a node what it is doing is about to lower a count.
      obtain ⟨before, after, split⟩ := List.append_of_mem asked
      obtain ⟨lowers, -⟩ := justified before _ after split
      simp only [takeUp_of_lowers lowers] at h
      exact postponed_of_ends_lower h asked leaves stays

/-- A datacenter of two nodes that shall have one. -/
def shrinking : Intent := ⟨"dc1", "c-cassandra-dc1", 2, some 1, "7"⟩

theorem target_shrinking : shrinking.target "c" = "c-cassandra-dc1-1" := by decide +kernel

theorem job_shrinking :
    Naming.job (shrinking.target "c") = "pod-decommission-c-cassandra-dc1-1" := by decide +kernel

/-- The higher node does not answer, the other one sees it gone, and the count is
    lowered. -/
theorem step_safe_shrinking :
    let now : Instant := ⟨0, 0⟩
    let s := Snapshot.of [⟨"c-cassandra-dc1-0", "", "dc1", 0, none, none, true, true⟩,
      ⟨"c-cassandra-dc1-1", "", "dc1", 1, none, none, false, false⟩] []
    let addresses := Table.ofList
      [("c-cassandra-dc1-0", "10.0.0.1"), ("c-cassandra-dc1-1", "10.0.0.2")]
    let spec : Spec := { datacenters := [⟨"dc1", 1⟩] }
    let log : List (Entry Reply) := [
      ⟨.job (.get "pod-decommission-c-cassandra-dc1-1"), .ok none⟩,
      ⟨.mode "10.0.0.2", .error (.timeout "")⟩,
      ⟨.ringView "10.0.0.1", .ok { live := ["10.0.0.1"] }⟩,
      ⟨.setReplicas "c-cassandra-dc1" 1 "7", .ok ()⟩,
      ⟨.job (.get "pod-decommission-c-cassandra-dc1-1"), .ok none⟩]
    (step now "c" spec s addresses [shrinking]).run.Ends log (.ok (.scaledDown "dc1" 1)) ∧
      log.countP (·.1.acts) ≤ 1 ∧
        ∃ address, Departed now "c" spec s addresses shrinking address (log.take 3) := by
  intro now s addresses spec log
  have peers : peersOf spec s "c-cassandra-dc1-1" =
      [⟨"c-cassandra-dc1-0", "", "dc1", 0, none, none, true, true⟩] := by decide +kernel
  have members : (declaredMembers spec s).length = 2 := by decide +kernel
  have located : addresses.get? "c-cassandra-dc1-0" = some "10.0.0.1" := by decide +kernel
  have asked : (departureConfirmed spec "c-cassandra-dc1-1" "10.0.0.2" s addresses).Ends
      [⟨.ringView "10.0.0.1", .ok { live := ["10.0.0.1"] }⟩] true := by
    refine ends_bind.2 ⟨[_], [], 1, rfl, ?_, by simp [members]⟩
    rw [← peersOf, peers]
    refine ends_bind.2 ⟨[_], [], true, rfl, ?_, rfl, rfl⟩
    rw [confirms, located]
    exact ⟨_, _, rfl, rfl, rfl⟩
  have ended : (step now "c" spec s addresses [shrinking]).run.Ends log
      (.ok (.scaledDown "dc1" 1)) := by
    have isMember : ∃ m ∈ s.members, m.name = shrinking.target "c" := by decide +kernel
    have target : addresses.get? (shrinking.target "c") = some "10.0.0.2" := by decide +kernel
    have left := @ends_lower_of_gone now "c" spec s addresses shrinking "10.0.0.2"
      (.error (.timeout "")) _ (by simp) isMember target (target_shrinking ▸ asked)
    rw [job_shrinking] at left
    rwa [step_of_lowers rfl rfl]
  obtain ⟨once, justified, -⟩ := step_safe ended
  refine ⟨ended, once, ?_⟩
  obtain ⟨_, ⟨⟩, -, -, ⟨-, more⟩ | ⟨-, -, departed⟩⟩ := justified (log.take 3) _ _ rfl
  · exact absurd more (by decide)
  · exact departed

end RingOperator.Scaling
