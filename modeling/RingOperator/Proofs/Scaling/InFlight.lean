import RingOperator.Proofs.Scaling.Passes

/-!
# Decommissions in flight

Passes over one cluster, one after another, and the decommissions that they have
started, each of which goes on for as long as it likes (`Step`). What keeps a
scaling step from starting another decommission is the job of one pod, the target
of the first intent that differs (`Foremost`). So never two decommissions are in
flight, if an edit of the cluster leaves it to the same pod to go first, as long as
one is (`one_in_flight`).

But an edit of the declaration can make another datacenter the first one that
differs. If any edit is possible between any two passes, two decommissions of
different datacenters can be in flight (`two_in_flight`).
-/

namespace RingOperator.Scaling

open Dialogue

/-- Whether the count is not the desired one, or the datacenter is no longer declared. -/
def Intent.differs (intent : Intent) : Bool := intent.desired ≠ some intent.current

/-- While some member exists, the step takes up every intent that differs. -/
theorem Intent.isDue_eq_differs {s : Snapshot} (some : s.isEmpty = false) :
    Intent.isDue s = Intent.differs := by
  funext intent
  simp [isDue, differs, some]

/-- While no member exists, no count is lowered. -/
theorem Intent.isEmpty_of_lowers {s : Snapshot} {intent : Intent} (due : intent.isDue s = true)
    (lowers : intent.lowers = true) : s.isEmpty = false := by
  simp only [isDue, lowers, Bool.true_and, Bool.and_eq_true] at due
  simpa using due.2

/-- Whether a request writes to a StatefulSet. -/
def Ask.writes : Ask → Bool
  | .setReplicas _ _ _ | .deleteSet _ _ => true
  | .job _ | .mode _ | .ringView _ | .launch _ _ => false

/-- The job that a request launches. -/
def Ask.launched : Ask → List String
  | .launch name _ => [name]
  | _ => []

theorem Ask.launched_of_not_acts {request : Ask} (h : request.acts = false) :
    request.writes = false ∧ request.launched = [] := by
  cases request with
  | job | mode | ringView => exact ⟨rfl, rfl⟩
  | setReplicas | deleteSet | launch => cases h

namespace InFlight

/-- The cluster, and what is under way. -/
structure World where
  declared : Spec
  sets : List StatefulSet
  /-- The jobs whose decommission is in flight. -/
  running : List String := []
  /-- The scaling step of the pass under way. -/
  pass : Option Underway := none

namespace World

/-- The intents of a pass that begins now. -/
def intents (w : World) : List Intent := Intent.ofStatefulSets w.declared w.sets

/-- No pass is under way. -/
def Idle (w : World) : Prop := w.pass = none

/-- No pass is under way, and no decommission is in flight. -/
def Quiet (w : World) : Prop := w.Idle ∧ w.running = []

end World

/-- A reply is right about jobs whose decommission is in flight: if the record of one can be read,
    it counts as running, for its heartbeat is young. -/
def Truthful (now : Instant) (running : List String) (e : Entry Reply) : Prop :=
  ∀ name seen, e = ⟨.job (.get name), .ok seen⟩ → name ∈ running →
    ∃ current ∈ seen, current.record.isRunningAt now = true

/-- What can happen next, where `mayEdit` says how the cluster may be edited. -/
inductive Step (cluster : String) (mayEdit : World → World → Prop) (w : World) : World → Prop
  /-- The declaration or the StatefulSets change. -/
  | edit (declared : Spec) (sets : List StatefulSet) (h : mayEdit w { w with declared, sets }) :
      Step cluster mayEdit w { w with declared, sets }
  /-- A pass begins. While a node is leaving, it sees some member. -/
  | begin (idle : w.Idle) (now : Instant) (seen : Snapshot) (addresses : Table String)
      (members : w.running ≠ [] → seen.isEmpty = false) :
      Step cluster mayEdit w { w with
        pass := some (.start cluster now w.declared seen addresses w.intents) }
  /-- The pass goes on by one request. Whatever becomes of a write, nothing else changes the
      StatefulSets, and a decommission is in flight once it was launched. -/
  | ask {p : Underway} {request : Ask} {next : Reply request → Talk (Outcome Result)}
      {reply : Reply request} {sets : List StatefulSet} (pass : w.pass = some p)
      (asks : p.rest = .ask request next) (truthful : Truthful p.now w.running ⟨request, reply⟩)
      (kept : request.writes = false → sets = w.sets) :
      Step cluster mayEdit w { w with
        sets, running := w.running ++ request.launched
        pass := some (p.replied request reply (next reply)) }
  /-- A decommission ends. -/
  | finish (job : String) : Step cluster mayEdit w { w with running := w.running.erase job }
  /-- The pass ends or is given up. -/
  | leave : Step cluster mayEdit w { w with pass := none }

/-- The states that can come about from any cluster, if at first nothing is under way. -/
inductive Reachable (cluster : String) (mayEdit : World → World → Prop) : World → Prop
  | init (declared : Spec) (sets : List StatefulSet) :
      Reachable cluster mayEdit { declared, sets }
  | step {w w' : World} (h : Reachable cluster mayEdit w) (step : Step cluster mayEdit w w') :
      Reachable cluster mayEdit w'

variable {cluster : String} {w w' : World}

/-! ## One at a time -/

/-- A job is of the pod that goes first: the target of the first intent that differs, if its count
    is to be lowered. -/
def Foremost (cluster : String) (intents : List Intent) (job : String) : Prop :=
  ∃ intent, intents.find? (·.differs) = some intent ∧ intent.lowers = true ∧
    job = Naming.job (intent.target cluster)

/-- An edit does no harm: nothing is under way or in flight, or it leaves it to the same pod to go
    first. -/
def Harmless (cluster : String) (w w' : World) : Prop :=
  w.Quiet ∨ ∀ job, Foremost cluster w'.intents job ↔ Foremost cluster w.intents job

/-- As long as a pass has not acted, the same pod goes first as it has read, and what it has heard
    of jobs is still right. -/
structure Current (cluster : String) (w : World) (p : Underway) : Prop where
  foremost : ∀ job, Foremost cluster p.intents job ↔ Foremost cluster w.intents job
  members : w.running ≠ [] → p.seen.isEmpty = false
  truthful : ∀ e ∈ p.asked, Truthful p.now w.running e

/-- At most one decommission is in flight, and it is the one of the pod that goes first. -/
structure Sound (cluster : String) (w : World) : Prop where
  atMost : w.running.length ≤ 1
  foremost : ∀ job ∈ w.running, Foremost cluster w.intents job
  leads : ∀ p, w.pass = some p → p.Leads cluster
  current : ∀ p, w.pass = some p → p.asked.countP (·.1.acts) = 0 → Current cluster w p

/-- A target that was found to rest has no decommission in flight. -/
theorem Current.not_mem_running {p : Underway} (current : Current cluster w p) {intent : Intent}
    {address : String}
    (resting : Resting p.now cluster p.seen p.addresses intent address p.asked) :
    Naming.job (intent.target cluster) ∉ w.running := by
  intro among
  obtain ⟨seen, read, idle⟩ := resting.notRunning
  obtain ⟨now, hm, running⟩ := current.truthful _ read _ _ rfl among
  rw [idle now hm] at running
  cases running

/-- If some decommission is in flight, it is the one of the intent that the pass takes up. -/
theorem Sound.eq_of_mem_running (sound : Sound cluster w) {p : Underway}
    (current : Current cluster w p) {intent : Intent}
    (first : p.intents.find? (·.isDue p.seen) = some intent) {job : String}
    (among : job ∈ w.running) :
    intent.lowers = true ∧ job = Naming.job (intent.target cluster) := by
  obtain ⟨intent', first', lowers, rfl⟩ := (current.foremost job).2 (sound.foremost job among)
  have members := current.members (List.ne_nil_of_mem among)
  rw [Intent.isDue_eq_differs members] at first
  cases first.symm.trans first'
  exact ⟨lowers, rfl⟩

/-- A pass acts only while no decommission is in flight. -/
theorem Sound.running_eq_nil (sound : Sound cluster w) {p : Underway}
    (current : Current cluster w p) {intent : Intent}
    (first : p.intents.find? (·.isDue p.seen) = some intent) {request : Ask}
    (justified : Justified p.now cluster p.spec p.seen p.addresses intent p.asked request)
    (acts : request.acts = true) : w.running = [] := by
  refine List.eq_nil_iff_forall_not_mem.2 fun job among => ?_
  obtain ⟨lowers, rfl⟩ := sound.eq_of_mem_running current first among
  cases request with
  | setReplicas =>
    obtain ⟨-, -, ⟨wanted, more⟩ | ⟨-, -, _, departed⟩⟩ := justified
    · simp only [Intent.lowers, wanted, decide_eq_true_eq] at lowers
      omega
    · exact current.not_mem_running departed.toResting among
  | deleteSet =>
    obtain ⟨-, -, undeclared, empty⟩ := justified
    simp [Intent.lowers, undeclared, empty] at lowers
  | launch =>
    obtain ⟨-, -, working, -⟩ := justified
    exact current.not_mem_running working.toResting among
  | job | mode | ringView => cases acts

/-- While nothing is in flight and no pass under way, nothing can be wrong. -/
theorem sound_of_quiet (quiet : w.Quiet) : Sound cluster w := by
  obtain ⟨idle, none⟩ : w.pass = none ∧ w.running = [] := quiet
  exact ⟨by simp [none], by simp [none], by simp [idle], by simp [idle]⟩

/-- The pass acts, so there was no decommission in flight before, and there may be one now. -/
theorem Sound.acted (sound : Sound cluster w) {p : Underway} (pass : w.pass = some p)
    {request : Ask} {next : Reply request → Talk (Outcome Result)}
    (asks : p.rest = .ask request next) (acts : request.acts = true) (reply : Reply request)
    {sets : List StatefulSet} (kept : request.writes = false → sets = w.sets) :
    Sound cluster { w with
      sets, running := w.running ++ request.launched
      pass := some (p.replied request reply (next reply)) } := by
  obtain ⟨intent, first, justified, once⟩ := (sound.leads p pass).justified asks
  have current := sound.current p pass (once acts)
  have none := sound.running_eq_nil current first justified acts
  have acted (q : Underway) (turn : some (p.replied request reply (next reply)) = some q) :
      q.Leads cluster ∧ q.asked.countP (·.1.acts) ≠ 0 := by
    cases turn
    refine ⟨(sound.leads p pass).replied asks reply, ?_⟩
    rw [Underway.replied, List.countP_append, List.countP_singleton, if_pos (by exact acts)]
    omega
  refine ⟨?_, fun job among => ?_, fun q turn => (acted q turn).1,
    fun q turn unacted => absurd unacted (acted q turn).2⟩
  · rw [none]
    cases request <;> simp [Ask.launched]
  · rw [none, List.nil_append] at among
    cases request with
    | launch name address =>
      obtain rfl := List.mem_singleton.1 among
      obtain ⟨lowers, rfl, -⟩ := justified
      have members := Intent.isEmpty_of_lowers (List.find?_some first) lowers
      rw [Intent.isDue_eq_differs members] at first
      obtain rfl := kept rfl
      exact (current.foremost _).1 ⟨intent, first, lowers, rfl⟩
    | job | setReplicas | deleteSet | mode | ringView => cases among

/-- While StatefulSets and decommissions stay as they are, a pass may go on with what is right. -/
theorem Sound.replied (sound : Sound cluster w) {p : Underway} (pass : w.pass = some p)
    {request : Ask} {next : Reply request → Talk (Outcome Result)}
    (asks : p.rest = .ask request next) {reply : Reply request}
    (truthful : Truthful p.now w.running ⟨request, reply⟩) :
    Sound cluster { w with pass := some (p.replied request reply (next reply)) } where
  atMost := sound.atMost
  foremost := sound.foremost
  leads := by
    rintro _ ⟨⟩
    exact (sound.leads p pass).replied asks reply
  current := by
    rintro _ ⟨⟩ unacted
    rw [Underway.replied, List.countP_append] at unacted
    obtain ⟨foremost, members, right⟩ := sound.current p pass (by omega)
    have heard := List.forall_mem_append.2 ⟨right, List.forall_mem_singleton.2 truthful⟩
    exact ⟨foremost, members, heard⟩

theorem Sound.edit (sound : Sound cluster w) {declared : Spec} {sets : List StatefulSet}
    (harmless : Harmless cluster w { w with declared, sets }) :
    Sound cluster { w with declared, sets } := by
  rcases harmless with quiet | same
  · exact sound_of_quiet quiet
  · refine ⟨sound.atMost, fun job among => (same job).2 (sound.foremost job among), sound.leads,
      fun p pass unacted => ?_⟩
    obtain ⟨foremost, members, truthful⟩ := sound.current p pass unacted
    exact ⟨fun job => (foremost job).trans (same job).symm, members, truthful⟩

theorem sound_step (sound : Sound cluster w) (step : Step cluster (Harmless cluster) w w') :
    Sound cluster w' := by
  cases step with
  | edit declared sets harmless => exact sound.edit harmless
  | begin idle now seen addresses members =>
    refine ⟨sound.atMost, sound.foremost, ?_, ?_⟩
    · rintro _ ⟨⟩
      exact Underway.leads_start now w.declared seen addresses _
    · rintro _ ⟨⟩ -
      exact ⟨fun _ => Iff.rfl, members, by simp [Underway.start]⟩
  | @ask p request next reply sets pass asks truthful kept =>
    cases acts : request.acts with
    | true => exact sound.acted pass asks acts reply kept
    | false =>
      obtain ⟨still, none⟩ := Ask.launched_of_not_acts acts
      obtain rfl := kept still
      rw [none, List.append_nil]
      exact sound.replied pass asks truthful
  | finish job =>
    have fewer : w.running.erase job ⊆ w.running := List.erase_subset
    refine ⟨Nat.le_trans List.length_erase_le sound.atMost,
      fun job among => sound.foremost job (fewer among), sound.leads, fun p pass unacted => ?_⟩
    obtain ⟨foremost, members, truthful⟩ := sound.current p pass unacted
    refine ⟨foremost, fun some => members fun none => some ?_, fun e he name seen same among => ?_⟩
    · simp [none]
    · exact truthful e he name seen same (fewer among)
  | leave => exact ⟨sound.atMost, sound.foremost, by simp, by simp⟩

/-- If no edit makes another pod the first one to go while a pass is under way or a decommission in
    flight, and every pass that begins while one is in flight sees some member, then never two of
    them are in flight, whatever datacenters they belong to. -/
theorem one_in_flight (h : Reachable cluster (Harmless cluster) w) : w.running.length ≤ 1 := by
  suffices sound : Sound cluster w from sound.atMost
  induction h with
  | init declared sets => exact sound_of_quiet ⟨rfl, rfl⟩
  | step _ step ih => exact sound_step ih step

/-! ## Two at a time -/

/-- What a pass asks before it has a node leave: no job of it is known, it is at work, and a job is
    created. -/
def farewell (now : Instant) (job address : String) : List (Entry Reply) := [
  ⟨.job (.get job), .ok none⟩, ⟨.mode address, .ok .normal⟩, ⟨.job (.get job), .ok none⟩,
  ⟨.job (.create (.fresh job now)), .ok ()⟩]

variable {now : Instant} {spec : Spec} {s : Snapshot} {addresses : Table String} {intent : Intent}
  {address : String}

/-- A member at work that no job is known of can be told to leave. -/
theorem ends_farewell (lowers : intent.lowers = true)
    (isMember : ∃ m ∈ s.members, m.name = intent.target cluster)
    (located : addresses.get? (intent.target cluster) = some address) :
    (takeUp now cluster spec s addresses intent).run.Ends
      (farewell now (Naming.job (intent.target cluster)) address ++
        [⟨.launch (Naming.job (intent.target cluster)) address, ()⟩])
      (.ok (.decommissionStarted (intent.target cluster))) := by
  rw [takeUp_of_lowers lowers]
  exact ends_lower_of_resting (by simp) isMember located ⟨_, _, rfl, _, _, rfl, _, _, rfl, rfl, rfl⟩

variable {mayEdit : World → World → Prop}

/-- A pass goes on along a log without acts. -/
theorem Reachable.along (h : Reachable cluster mayEdit w) {p : Underway} (pass : w.pass = some p)
    {log more : List (Entry Reply)} {result : Outcome Result}
    (ends : p.rest.Ends (log ++ more) result) (still : ∀ e ∈ log, e.1.acts = false)
    (truthful : ∀ e ∈ log, Truthful p.now w.running e) :
    ∃ rest, rest.Ends more result ∧ Reachable cluster mayEdit { w with
      pass := some { p with asked := p.asked ++ log, rest } } := by
  let reached (q : Underway) : Prop := Reachable cluster mayEdit { w with pass := some q }
  have begins : reached p := by
    simp only [reached, ← pass]
    exact h
  refine Underway.along (q := reached) begins ends fun q request next reply h now asks among => ?_
  have asked := h.step (.ask rfl asks (now ▸ truthful _ among) fun _ => rfl)
  rwa [(Ask.launched_of_not_acts (still _ among)).2, List.append_nil] at asked

/-- A pass can have a decommission started for the first intent that is due. -/
theorem Reachable.depart (h : Reachable cluster mayEdit w) (idle : w.Idle) (now : Instant)
    (first : w.intents.find? (·.isDue s) = some intent) (lowers : intent.lowers = true)
    (isMember : ∃ m ∈ s.members, m.name = intent.target cluster)
    (located : addresses.get? (intent.target cluster) = some address)
    (free : Naming.job (intent.target cluster) ∉ w.running) :
    Reachable cluster mayEdit { w with
      running := w.running ++ [Naming.job (intent.target cluster)], pass := none } := by
  have members := Intent.isEmpty_of_lowers (List.find?_some first) lowers
  have begun := h.step (.begin idle now s addresses fun _ => members)
  have ends : (Scaling.step now cluster w.declared s addresses w.intents).run.Ends
      (farewell now (Naming.job (intent.target cluster)) address ++
        [⟨.launch (Naming.job (intent.target cluster)) address, ()⟩])
      (.ok (.decommissionStarted (intent.target cluster))) := by
    rw [step_eq, first]
    exact ends_farewell lowers isMember located
  -- All that is read on the way is that there is no record of the job.
  have truthful : ∀ e ∈ farewell now (Naming.job (intent.target cluster)) address,
      Truthful now w.running e := by
    rintro e among name seen rfl running
    obtain ⟨rfl, -⟩ : name = Naming.job (intent.target cluster) ∧ seen = none := by
      simpa [farewell] using among
    exact absurd running free
  obtain ⟨rest, launches, reached⟩ := begun.along rfl ends (by simp [farewell, Ask.acts]) truthful
  obtain ⟨next, asks, -⟩ := exists_ask_of_ends launches
  have silent : Truthful now w.running
      ⟨.launch (Naming.job (intent.target cluster)) address, ()⟩ := by simp [Truthful]
  have launched := reached.step (.ask rfl asks silent fun _ => rfl)
  exact launched.step .leave

/-- The declaration of two datacenters. -/
def declaring (first second : Int) : Spec := { datacenters := [⟨"dc1", first⟩, ⟨"dc2", second⟩] }

/-- The StatefulSet of a datacenter of two nodes. -/
def pairOf (dc : String) : StatefulSet where
  metadata := {
    name := Naming.datacenter "c" dc, labels := Table.ofList [(Labels.datacenterKey, dc)]
    version := some "1" }
  replicas := some 2

/-- The nodes of both datacenters. -/
def nodes : Snapshot := Snapshot.of [
  { name := "c-cassandra-dc1-0", dc := "dc1" }, { name := "c-cassandra-dc1-1", dc := "dc1" },
  { name := "c-cassandra-dc2-0", dc := "dc2" }, { name := "c-cassandra-dc2-1", dc := "dc2" }] []

/-- The addresses of the higher ones. -/
def addressed : Table String :=
  Table.ofList [("c-cassandra-dc1-1", "10.0.1.1"), ("c-cassandra-dc2-1", "10.0.2.1")]

/-- A datacenter of two nodes shall lose one. -/
def losing (dc : String) : Intent := ⟨dc, Naming.datacenter "c" dc, 2, some 1, "1"⟩

/-- The job of the higher node of a datacenter. -/
def jobOf (dc : String) : String := Naming.job ((losing dc).target "c")

/-- The first datacenter shall lose a node, and its decommission is in flight. -/
def oneLeaving : World where
  declared := declaring 1 2
  sets := [pairOf "dc1", pairOf "dc2"]
  running := [jobOf "dc1"]

/-- Now the second datacenter shall lose a node, and two decommissions are in flight. -/
def bothLeaving : World where
  declared := declaring 2 1
  sets := [pairOf "dc1", pairOf "dc2"]
  running := [jobOf "dc1", jobOf "dc2"]

theorem reachable_oneLeaving : Reachable "c" mayEdit oneLeaving := by
  have begun : Reachable "c" mayEdit { oneLeaving with running := [] } := .init _ _
  have first : oneLeaving.intents.find? (·.isDue nodes) = some (losing "dc1") := by
    decide +kernel
  have member : ∃ m ∈ nodes.members, m.name = (losing "dc1").target "c" := by decide +kernel
  have located : addressed.get? ((losing "dc1").target "c") = some "10.0.1.1" := by decide +kernel
  exact begun.depart rfl ⟨0, 0⟩ first rfl member located List.not_mem_nil

theorem one_in_flight_losing : Reachable "c" (Harmless "c") oneLeaving ∧
    oneLeaving.running.length ≤ 1 :=
  ⟨reachable_oneLeaving, one_in_flight reachable_oneLeaving⟩

/-- While the node is leaving, the declaration is edited: the first datacenter shall keep both
    nodes, and the second one shall lose one. The next pass has that started as well. -/
theorem reachable_bothLeaving : Reachable "c" (fun w _ => w.Idle) bothLeaving := by
  have idle : oneLeaving.Idle := rfl
  have edited : Reachable "c" (fun w _ => w.Idle) { bothLeaving with running := [jobOf "dc1"] } :=
    reachable_oneLeaving.step (.edit bothLeaving.declared bothLeaving.sets idle)
  have first : bothLeaving.intents.find? (·.isDue nodes) = some (losing "dc2") := by
    decide +kernel
  have member : ∃ m ∈ nodes.members, m.name = (losing "dc2").target "c" := by decide +kernel
  have located : addressed.get? ((losing "dc2").target "c") = some "10.0.2.1" := by decide +kernel
  have other : jobOf "dc2" ∉ [jobOf "dc1"] := by decide +kernel
  exact edited.depart rfl ⟨0, 0⟩ first rfl member located other

/-- So it is not so that at most one decommission is in flight if the declaration may be edited
    between any two passes. -/
theorem two_in_flight : ¬ ∀ w, Reachable "c" (fun w _ => w.Idle) w → w.running.length ≤ 1 := by
  intro atMost
  exact absurd (atMost bothLeaving reachable_bothLeaving) (by decide)

end InFlight

end RingOperator.Scaling
