import Mathlib.Data.Option.Basic
import RingOperator.Proofs.Cluster.Status
import RingOperator.Proofs.Reconcile.Pacing
import RingOperator.Proofs.Reconcile.Spares

/-!
# The status that is stored

A pass writes the status of its cluster once, as a merge patch of the object, and touches the
object in no other way (`Reconcile.Turn.Goes.patched`). Whatever stood there, the status that is
read back is the one that was written (`Cluster.Stores.patched`). So over any number of passes
the stored status is the one of the last report, but for what the failures since then have said
(`Reconcile.Run.history`, `Reconcile.History.of_failures`).
-/

namespace RingOperator

open Json Dialogue

/-! ## Statuses that are produced -/

theorem PassReport.isCount_status (report : PassReport) (now : Instant) :
    IsCount (report.status now).readyNodes := by
  have ready : (report.status now).readyNodes = Int.bmod report.ready 4294967296 := by
    rw [status]
    cases scaled report.scale <;> simp only
  have least := @Int.le_bmod report.ready 4294967296 (by decide)
  have greatest := @Int.bmod_lt report.ready 4294967296 (by decide)
  rw [ready, IsCount]
  omega

theorem Status.isCount_afterFailure {previous : Option Status}
    (h : ∀ status ∈ previous, IsCount status.readyNodes) (failure : Failure) (now : Instant) :
    IsCount (Status.afterFailure previous failure now).readyNodes := by
  cases previous with
  | none => exact isCount_zero
  | some previous => exact h previous rfl

/-! ## Objects of clusters -/

namespace Cluster

/-- The merge patch that writes a status. -/
def statusPatch (status : Status) : Json := .object [("status", status.encode)]

/-- The server stores the object of a cluster. -/
structure Stores (object : Json) (cluster : Cluster) : Prop where
  isObject : ∃ fields, object = .object fields
  read : decode object = some cluster

variable {value : Json} {fields fields' : List (String × Json)} {cluster : Cluster}
  {status : Status}

theorem patched_statusPatch (value : Json) (status : Status) :
    value.patched (statusPatch status) = .object (setField "status"
      ((((value.fields?.getD []).reverse.lookup "status").getD .null).patched status.encode)
      (value.fields?.getD [])) := by
  rw [statusPatch, patched_object, Status.encode, patchedFields, patchedFields]
  simp

open Objects in
/-- An object is a cluster just if each of its parts can be read. -/
theorem decode_object_eq_some_iff : decode (.object fields) = some cluster ↔
    ∃ m spec status, part? fields "metadata" = some (some m) ∧ part? fields "spec" = some spec ∧
      part? fields "status" = some status ∧ Shape.metadata.admits m = true ∧
      metadata? (.object [("metadata", m)]) = some cluster.metadata ∧
      absentOr "namespace" text? m = some cluster.space ∧
      absentOr "name" text? m = some cluster.ownName ∧
      required Spec.decode spec = some cluster.spec ∧
      orNothing Status.decode status = some cluster.status := by
  have parted : (object fields).parts? ["metadata", "spec", "status"] =
      (part? fields "metadata").bind fun m => (part? fields "spec").bind fun spec =>
        (part? fields "status").map fun status => [m, spec, status] := by
    rw [parts?, namedParts?, namedParts?, namedParts?, namedParts?]
    cases part? fields "metadata" <;> cases part? fields "spec" <;>
      cases part? fields "status" <;> rfl
  rw [decode, parted]
  constructor
  · intro h
    obtain ⟨_, -, h⟩ := Option.bind_eq_some_iff.1 h
    obtain ⟨parts, found, h⟩ := Option.bind_eq_some_iff.1 h
    obtain ⟨m, hm, found⟩ := Option.bind_eq_some_iff.1 found
    obtain ⟨spec, hs, found⟩ := Option.bind_eq_some_iff.1 found
    obtain ⟨status, ht, rfl⟩ := Option.map_eq_some_iff.1 found
    cases m with
    | none => cases h
    | some m =>
      simp only [Option.bind_eq_bind, Option.bind_eq_some_iff, Option.pure_def,
        Option.some.injEq, Option.guard_eq_some'] at h
      obtain ⟨_, admitted, metadata, h1, space, h2, name, h3, spec', h4, status', h5, rfl⟩ := h
      exact ⟨m, spec, status, hm, hs, ht, admitted, h1, h2, h3, h4, h5⟩
  · rintro ⟨m, spec, status, hm, hs, ht, admitted, h1, h2, h3, h4, h5⟩
    simp [hm, hs, ht, admitted, h1, h2, h3, h4, h5, items?]

/-- What is read of a cluster besides its status does not depend on the status. -/
theorem decode_of_parts (metadata : part? fields' "metadata" = part? fields "metadata")
    (spec : part? fields' "spec" = part? fields "spec") {part : Option Json}
    (given : part? fields' "status" = some part) {found : Option Status}
    (read : orNothing Status.decode part = some found)
    (decoded : decode (.object fields) = some cluster) :
    decode (.object fields') = some { cluster with status := found } := by
  obtain ⟨m, _, _, hasMetadata, hasSpec, -, admitted, h1, h2, h3, h4, -⟩ :=
    decode_object_eq_some_iff.1 decoded
  exact decode_object_eq_some_iff.2 ⟨m, _, part, metadata.trans hasMetadata, spec.trans hasSpec,
    given, admitted, h1, h2, h3, h4, read⟩

/-- An object whose status cannot be read is a cluster again once a status was patched in. -/
theorem decode_patched (count : IsCount status.readyNodes)
    (rest : decode (.object (withoutField "status" fields)) = some cluster) :
    decode ((object fields).patched (statusPatch status)) =
      some { cluster with status := some status } := by
  rw [patched_statusPatch]
  refine decode_of_parts ?_ ?_ (part?_setField _ _ _ _) ?_ rest
  · rw [part?_setField, part?_withoutField]
    rfl
  · rw [part?_setField, part?_withoutField]
    rfl
  · have read := Status.decode_patched count
      (((((object fields).fields?.getD []).reverse.lookup "status").getD .null))
    rw [Status.encode, patched_object] at read
    rw [Status.encode, patched_object]
    exact congrArg (Option.map some) read

theorem field?_patched_statusPatch (count : IsCount status.readyNodes) (value : Json) :
    ((value.patched (statusPatch status)).field? "status").bind Status.decode = some status := by
  rw [statusPatch, field?_patched (by simp [Status.encode]), if_pos rfl, Option.bind_some,
    Status.decode_patched count]

/-- The status that was written is the one that is read. -/
theorem Stores.patched (stores : Stores value cluster) (count : IsCount status.readyNodes) :
    Stores (value.patched (statusPatch status)) { cluster with status := some status } := by
  obtain ⟨fields, rfl⟩ := stores.isObject
  refine ⟨⟨_, patched_statusPatch _ _⟩, ?_⟩
  have rest : decode (.object (withoutField "status" fields)) =
      some { cluster with status := none } :=
    decode_of_parts (part?_withoutField _ _ _) (part?_withoutField _ _ _)
      (part?_withoutField _ _ _) rfl stores.read
  exact (decode_patched count rest :)

theorem Stores.isCount (stores : Stores value cluster) :
    ∀ status ∈ cluster.status, IsCount status.readyNodes := by
  obtain ⟨fields, rfl⟩ := stores.isObject
  obtain ⟨_, _, part, -, -, -, -, -, -, -, -, read⟩ := decode_object_eq_some_iff.1 stores.read
  intro found hf
  rw [hf] at read
  obtain ⟨_, decoded⟩ := exists_of_orNothing read
  exact Status.isCount_of_decode decoded

end Cluster

namespace Reconcile

variable {settings : Settings} {cluster : Cluster} {now : Instant}
  {outcome : Outcome PassReport} {identity : Identity} {status : Status}
  {log : List (Entry Reply)}

/-! ## What is written -/

/-- The call that writes a status. -/
def statusCall (identity : Identity) (status : Status) : Api.Call where
  verb := .patch
  resource := .clusters
  space := identity.space
  name := identity.name
  status := true
  query := [("fieldManager", "cassandra-operator")]
  body := some (Cluster.statusPatch status)

/-- The status that is to be stored after a pass. -/
def said (cluster : Cluster) (now : Instant) : Outcome PassReport → Status
  | .ok report => report.status now
  | .error failure => Status.afterFailure cluster.status failure now

theorem exists_answer_of_writeStatus {result : Outcome Unit}
    (h : (writeStatus identity status).run.Ends log result) :
    ∃ answer, log = [⟨.api (statusCall identity status), answer⟩] := by
  obtain ⟨_, asked, -⟩ := ends_map_except.1 h
  obtain ⟨answer, rfl, -⟩ := ends_ask_done.1 asked
  exact ⟨answer, rfl⟩

theorem ends_count {event : Telemetry.Event} {u : Unit} (h : (count event).Ends log u) :
    log = [⟨.count event, ()⟩] :=
  ends_once.1 h

/-- What a pass came to is counted, and the status is written. -/
theorem exists_answer_of_conclude {result : Outcome Nat}
    (h : (conclude settings cluster now outcome).run.Ends log result) :
    ∃ counted answer, (∀ e ∈ counted, e.1.SparesClusters) ∧ log = counted ++
      [⟨.api (statusCall cluster.identity (said cluster now outcome)), answer⟩] := by
  -- Whether or not it could be written, nothing is asked after the status.
  have closes {f : Unit → Exchange Nat} {told : List (Entry Reply)} {status : Status}
      (quiet : ∀ told result, (f ()).run.Ends told result → told = [])
      (ends : (writeStatus cluster.identity status >>= f).run.Ends told result) :
      ∃ answer, told = [⟨.api (statusCall cluster.identity status), answer⟩] := by
    obtain ⟨_, refused, -⟩ | ⟨written, after, _, rfl, ends, rest⟩ := ends_bind_except.1 ends
    · exact exists_answer_of_writeStatus refused
    · obtain ⟨answer, rfl⟩ := exists_answer_of_writeStatus ends
      rw [quiet _ _ rest]
      exact ⟨answer, rfl⟩
  cases outcome with
  | ok report =>
    obtain ⟨_, _, _, rfl, first, written⟩ := ends_bind_lift.1 h
    obtain rfl := ends_count first
    obtain ⟨answer, rfl⟩ := closes (fun _ _ rest => (ends_pure.1 rest).1) written
    refine ⟨[_], answer, ?_, rfl⟩
    exact List.forall_mem_singleton.2 trivial
  | error failure =>
    obtain ⟨_, _, _, rfl, first, counting⟩ := ends_bind_lift.1 h
    obtain ⟨_, _, _, rfl, second, written⟩ := ends_bind_lift.1 counting
    obtain rfl := ends_count first
    obtain rfl := ends_count second
    obtain ⟨answer, rfl⟩ := closes (fun told result rest => by
      cases delayed : failure.delay settings with
      | some delay =>
        rw [delayed] at rest
        exact (ends_pure.1 rest).1
      | none =>
        rw [delayed] at rest
        exact (ends_pure.1 rest).1) written
    refine ⟨[_, _], answer, ?_, rfl⟩
    exact List.forall_mem_cons.2 ⟨trivial, List.forall_mem_singleton.2 trivial⟩

/-! ## Passes over an object -/

/-- A call that patches the object of a cluster. -/
structure Patches (identity : Identity) (call : Api.Call) (body : Json) : Prop where
  verb : call.verb = .patch
  resource : call.resource = .clusters
  space : call.space = some identity.space
  name : call.name = some identity.name
  body : call.body = some body

/-- What becomes of the object of a cluster when a request is replied to. A patch is applied to it,
or the answer says that it failed; only requests that are about clusters can touch it. -/
def Meets (identity : Identity) (object : Json) : (ask : Ask) → Reply ask → Json → Prop
  | .api call, answer, object' =>
    (call.resource ≠ .clusters → object' = object) ∧ ∀ body, Patches identity call body →
      object' = object.patched body ∨ object' = object ∧ ∃ failure, answer = .error failure
  | _, _, object' => object' = object

/-- A pass over a cluster as it was read, what it came to, and the log of all that was asked for
it. -/
structure Turn where
  settings : Settings
  cluster : Cluster
  now : Instant
  outcome : Outcome PassReport
  log : List (Entry Reply)

namespace Turn

variable {turn : Turn} {object object' : Json}

/-- The status that is to be stored after the turn. -/
def said (turn : Turn) : Status := Reconcile.said turn.cluster turn.now turn.outcome

/-- The server did not say that it stored the status. -/
def Refused (turn : Turn) : Prop :=
  ∃ failure, ⟨.api (statusCall turn.cluster.identity turn.said), .error failure⟩ ∈ turn.log

/-- The turn took the object of the cluster to another one. -/
structure Goes (identity : Identity) (object : Json) (turn : Turn) (object' : Json) : Prop where
  read : Cluster.decode object = some turn.cluster
  about : turn.cluster.identity = identity
  handled : ∃ result, (handle turn.settings turn.cluster turn.now).run.Ends turn.log result
  passed : ∃ passed told, turn.log = passed ++ told ∧
    (reconcile turn.settings turn.cluster turn.now).run.Ends passed turn.outcome
  plays : Plays (Meets identity) object turn.log object'

theorem eq_of_plays_spares (spares : ∀ e ∈ log, e.1.SparesClusters)
    (plays : Plays (Meets identity) object log object') : object' = object := by
  refine plays.eq_of_forall fun e among s s' meets => ?_
  obtain ⟨ask, reply⟩ := e
  cases ask with
  | api call => exact meets.1 (spares _ among)
  | http | launch | count => exact meets

theorem isCount_said (stores : Cluster.Stores object turn.cluster) :
    IsCount turn.said.readyNodes := by
  unfold said
  cases turn.outcome with
  | ok report => exact report.isCount_status turn.now
  | error failure => exact Status.isCount_afterFailure stores.isCount failure turn.now

/-- After a turn the object is the one before it with the status patched in, or it is the one
before it and the server did not say otherwise. -/
theorem Goes.patched (goes : Goes identity object turn object') :
    object' = object.patched (Cluster.statusPatch turn.said) ∨
      object' = object ∧ turn.Refused := by
  obtain ⟨result, handled⟩ := goes.handled
  obtain ⟨passed, told, split, ends⟩ := goes.passed
  rw [handle_eq, ends_bind_lift] at handled
  obtain ⟨first, second, outcome, split', ends', concluded⟩ := handled
  obtain ⟨rfl, rfl, rfl⟩ := ends.append_inj ends' (split.symm.trans split')
  obtain ⟨counted, answer, counts, rfl⟩ := exists_answer_of_conclude concluded
  have plays := goes.plays
  rw [split, plays_append] at plays
  obtain ⟨between, passes, plays⟩ := plays
  obtain rfl := eq_of_plays_spares (asksOnly_reconcile.of_ends ends) passes
  obtain ⟨between', counting, writes⟩ := plays_append.1 plays
  obtain rfl := eq_of_plays_spares counts counting
  obtain ⟨-, applied⟩ := plays_singleton.1 writes
  obtain rfl := goes.about
  obtain written | ⟨kept, failure, rfl⟩ := applied _ ⟨rfl, rfl, rfl, rfl, rfl⟩
  · exact .inl written
  · exact .inr ⟨kept, failure, by simp [split, said]⟩

/-- The status that is stored after a turn is the one it said, or the one before it. -/
theorem Goes.stored (goes : Goes identity object turn object')
    (stores : Cluster.Stores object turn.cluster) :
    Cluster.Stores object' { turn.cluster with status := some turn.said } ∨
      Cluster.Stores object' turn.cluster ∧ turn.Refused := by
  obtain rfl | ⟨rfl, refused⟩ := goes.patched
  · exact .inl (stores.patched (isCount_said stores))
  · exact .inr ⟨stores, refused⟩

/-- After the turn this status is stored: the one it said, or the one before it if the server did
not say that it stored it. -/
def Leaves (turn : Turn) (after : Option Status) : Prop :=
  after = some turn.said ∨ after = turn.cluster.status ∧ turn.Refused

variable {after : Option Status} {report : PassReport} {failure : Failure}

theorem said_of_ok (h : turn.outcome = .ok report) : turn.said = report.status turn.now := by
  rw [said, h]
  rfl

theorem said_of_error (h : turn.outcome = .error failure) :
    turn.said = Status.afterFailure turn.cluster.status failure turn.now := by
  rw [said, h]
  rfl

/-- After a failure that passes by itself, the message and the time are all that may be new. -/
theorem Leaves.of_retryable (leaves : turn.Leaves after) (failed : turn.outcome = .error failure)
    (passing : failure.isRetryable = true) : ∃ message lastReconciled,
      after.getD {} = { turn.cluster.status.getD {} with message, lastReconciled } := by
  obtain rfl | ⟨rfl, -⟩ := leaves
  · refine ⟨some failure.message, some turn.now.writeWithOffset, ?_⟩
    rw [said_of_error failed, Status.afterFailure, if_pos passing]
    rfl
  · exact ⟨_, _, rfl⟩

/-- After a failure that does not pass by itself, the phase says so too. -/
theorem Leaves.of_final (leaves : turn.Leaves after) (failed : turn.outcome = .error failure)
    (final : failure.isRetryable = false) :
    (after = turn.cluster.status ∧ turn.Refused) ∨ ∃ message lastReconciled,
      after = some { turn.cluster.status.getD {} with
        phase := .failed, message, lastReconciled } := by
  obtain rfl | kept := leaves
  · refine .inr ⟨some failure.message, some turn.now.writeWithOffset, ?_⟩
    rw [said_of_error failed, Status.afterFailure, final, if_neg (by decide)]
  · exact .inl kept

end Turn

/-! ## One pass after another -/

variable {object object' : Json} {turns : List Turn} {before after : Option Status}

/-- The object of a cluster over turns, one after another. In between tasks order nodes to leave and
tend or end the records of their jobs, and others may change the object as long as its status reads
the same. -/
inductive Run (identity : Identity) : Json → List Turn → Json → Prop
  | nil (object : Json) : Run identity object [] object
  | turn {object object' object'' : Json} {turn : Turn} {turns : List Turn}
      (goes : turn.Goes identity object object') (rest : Run identity object' turns object'') :
      Run identity object (turn :: turns) object''
  | order {object object' object'' : Json} {turns : List Turn} {around : Surroundings}
      {address : String} {log : List (Entry Reply)} {result : Outcome Unit}
      (ends : (around.order address).run.Ends log result)
      (plays : Plays (Meets identity) object log object')
      (rest : Run identity object' turns object'') : Run identity object turns object''
  | tend {object object' object'' : Json} {turns : List Turn} {around : Surroundings} {α : Type}
      {talk : Jobs.Talk α} {log : List (Entry Reply)} {result : α}
      (ends : (around.onJobs talk).Ends log result)
      (plays : Plays (Meets identity) object log object')
      (rest : Run identity object' turns object'') : Run identity object turns object''
  | edited {object object' object'' : Json} {turns : List Turn} {cluster cluster' : Cluster}
      (stored : Cluster.Stores object cluster) (stores : Cluster.Stores object' cluster')
      (same : cluster'.status = cluster.status) (rest : Run identity object' turns object'') :
      Run identity object turns object''

/-- Each turn reads the status that was stored last, and leaves one for the next. -/
inductive History : Option Status → List Turn → Option Status → Prop
  | nil (status : Option Status) : History status [] status
  | cons {between after : Option Status} {turn : Turn} {turns : List Turn}
      (leaves : turn.Leaves between) (rest : History between turns after) :
      History turn.cluster.status (turn :: turns) after

theorem Run.history (run : Run identity object turns object')
    (stores : Cluster.Stores object cluster) : (∀ turn ∈ turns, IsCount turn.said.readyNodes) ∧
      ∃ cluster', Cluster.Stores object' cluster' ∧
        History cluster.status turns cluster'.status := by
  induction run generalizing cluster with
  | nil object => exact ⟨List.forall_mem_nil _, cluster, stores, .nil _⟩
  | turn goes rest ih =>
    obtain rfl := Option.some.inj (stores.read.symm.trans goes.read)
    have first := Turn.isCount_said stores
    obtain written | ⟨kept, refused⟩ := goes.stored stores
    · obtain ⟨counts, cluster', stored, history⟩ := ih written
      exact ⟨List.forall_mem_cons.2 ⟨first, counts⟩, cluster', stored, .cons (.inl rfl) history⟩
    · obtain ⟨counts, cluster', stored, history⟩ := ih kept
      exact ⟨List.forall_mem_cons.2 ⟨first, counts⟩, cluster', stored,
        .cons (.inr ⟨rfl, refused⟩) history⟩
  | order ends plays rest ih =>
    obtain rfl := Turn.eq_of_plays_spares ((asksOnly_order _).of_ends ends) plays
    exact ih stores
  | tend ends plays rest ih =>
    obtain rfl := Turn.eq_of_plays_spares ((asksOnly_onJobs _).of_ends ends) plays
    exact ih stores
  | edited stored stores' same rest ih =>
    obtain rfl := Option.some.inj (stores.read.symm.trans stored.read)
    rw [← same]
    exact ih stores'

/-- While passes fail, the phase, the message and the time are all of the status that may change,
and the phase changes by a failure alone that does not pass by itself. -/
theorem History.of_failures (history : History before turns after)
    (failing : ∀ turn ∈ turns, ∃ failure, turn.outcome = .error failure) :
    ∃ phase message lastReconciled,
      after.getD {} = { before.getD {} with phase, message, lastReconciled } ∧
      (phase = (before.getD {}).phase ∨ phase = .failed ∧
        ∃ turn ∈ turns, ∃ failure, turn.outcome = .error failure ∧
          failure.isRetryable = false) := by
  induction history with
  | nil status => exact ⟨_, _, _, rfl, .inl rfl⟩
  | @cons between after turn turns leaves rest ih =>
    obtain ⟨⟨failure, failed⟩, later⟩ := List.forall_mem_cons.1 failing
    obtain ⟨phase, message, last, same, why⟩ := ih later
    -- What the first turn leaves differs from what it found in these fields only.
    have first : ∃ phase' message' last', between.getD {} = { turn.cluster.status.getD {} with
          phase := phase', message := message', lastReconciled := last' } ∧
        (phase' = (turn.cluster.status.getD {}).phase ∨
          phase' = .failed ∧ failure.isRetryable = false) := by
      cases passing : failure.isRetryable with
      | true =>
        obtain ⟨message', last', left⟩ := leaves.of_retryable failed passing
        exact ⟨_, message', last', left, .inl rfl⟩
      | false =>
        obtain ⟨rfl, -⟩ | ⟨message', last', rfl⟩ := leaves.of_final failed passing
        · exact ⟨_, _, _, rfl, .inl rfl⟩
        · exact ⟨.failed, message', last', rfl, .inr ⟨rfl, rfl⟩⟩
    obtain ⟨phase', message', last', left, why'⟩ := first
    refine ⟨phase, message, last, by rw [same, left], ?_⟩
    obtain rfl | ⟨rfl, other, among, failure', failed', final⟩ := why
    · rw [left]
      obtain rfl | ⟨rfl, final⟩ := why'
      · exact .inl rfl
      · exact .inr ⟨rfl, turn, List.mem_cons_self, failure, failed, final⟩
    · exact .inr ⟨rfl, other, List.mem_cons_of_mem _ among, failure', failed', final⟩

/-- Whatever stands in the place of the status, a status that is patched in is the one that is read
back, and nothing else of the cluster changes. So over turns the status that is stored is always
the one that was written last, where all that are written can be read back. A failure that passes by
itself changes its message and its time only, one that does not the phase too, which is `failed`
then. -/
theorem status_as_written :
    ((∀ report now, IsCount (PassReport.status report now).readyNodes) ∧
      ∀ previous failure now, (∀ status ∈ previous, IsCount status.readyNodes) →
        IsCount (Status.afterFailure previous failure now).readyNodes) ∧
    (∀ (value : Json) (status : Status), IsCount status.readyNodes →
      ((value.patched (Cluster.statusPatch status)).field? "status").bind Status.decode =
        some status ∧
      ∀ fields cluster, value = .object fields →
        Cluster.decode (.object (withoutField "status" fields)) = some cluster →
        Cluster.decode (value.patched (Cluster.statusPatch status)) =
          some { cluster with status := some status }) ∧
    (∀ identity object turns object' cluster, Run identity object turns object' →
      Cluster.Stores object cluster → (∀ turn ∈ turns, IsCount turn.said.readyNodes) ∧
        ∃ cluster', Cluster.Stores object' cluster' ∧
          History cluster.status turns cluster'.status) ∧
    (∀ (turn : Turn) after, turn.Leaves after →
      (∀ report, turn.outcome = .ok report → after = some (report.status turn.now) ∨
        after = turn.cluster.status ∧ turn.Refused) ∧
      ∀ failure, turn.outcome = .error failure →
        (failure.isRetryable = true → ∃ message lastReconciled,
          after.getD {} = { turn.cluster.status.getD {} with message, lastReconciled }) ∧
        (failure.isRetryable = false → (after = turn.cluster.status ∧ turn.Refused) ∨
          ∃ message lastReconciled, after = some { turn.cluster.status.getD {} with
            phase := .failed, message, lastReconciled })) ∧
    ∀ before turns after, History before turns after →
      (∀ turn ∈ turns, ∃ failure, turn.outcome = .error failure) →
      ∃ phase message lastReconciled,
        after.getD {} = { before.getD {} with phase, message, lastReconciled } ∧
        (phase = (before.getD {}).phase ∨ phase = .failed ∧
          ∃ turn ∈ turns, ∃ failure, turn.outcome = .error failure ∧
            failure.isRetryable = false) := by
  refine ⟨⟨PassReport.isCount_status, fun _ failure now count =>
      Status.isCount_afterFailure count failure now⟩,
    fun value status count => ⟨Cluster.field?_patched_statusPatch count value, ?_⟩, ?_, ?_,
    fun before turns after => History.of_failures⟩
  · rintro fields cluster rfl rest
    exact Cluster.decode_patched count rest
  · intro identity object turns object' cluster run stores
    exact run.history stores
  · intro turn after leaves
    refine ⟨fun report done => ?_, fun failure failed =>
      ⟨leaves.of_retryable failed, leaves.of_final failed⟩⟩
    rw [← Turn.said_of_ok done]
    exact leaves

/-- A server that stores what it is told takes the object of a cluster there by a turn, whatever the
pass comes to. -/
theorem exists_goes {passed : List (Entry Reply)} (read : Cluster.decode object = some cluster)
    (passes : (reconcile settings cluster now).run.Ends passed outcome) :
    ∃ log, Turn.Goes cluster.identity object ⟨settings, cluster, now, outcome, log⟩
      (object.patched (Cluster.statusPatch (said cluster now outcome))) := by
  have still {log : List (Entry Reply)} (spares : ∀ e ∈ log, e.1.SparesClusters) :
      Plays (Meets cluster.identity) object log object := by
    induction log with
    | nil => exact .nil _
    | cons e log ih =>
      obtain ⟨first, later⟩ := List.forall_mem_cons.1 spares
      refine .cons ?_ (ih later)
      obtain ⟨ask, reply⟩ := e
      cases ask with
      | api call => exact ⟨fun _ => rfl, fun _ patches => absurd patches.resource first⟩
      | http | launch | count => rfl
  obtain ⟨told, concluded⟩ := exists_conclude settings cluster now outcome
  obtain ⟨counted, answer, counts, rfl⟩ := exists_answer_of_conclude concluded
  have writes : Meets cluster.identity object
      (.api (statusCall cluster.identity (said cluster now outcome))) answer
      (object.patched (Cluster.statusPatch (said cluster now outcome))) := by
    refine ⟨fun other => absurd rfl other, fun body patches => ?_⟩
    obtain rfl := Option.some.inj patches.body
    exact .inl rfl
  have handled := ends_bind_lift.2 ⟨_, _, _, rfl, passes, concluded⟩
  rw [← handle_eq] at handled
  exact ⟨_, read, rfl, ⟨_, handled⟩, ⟨_, _, rfl, passes⟩,
    plays_append.2 ⟨object, still (asksOnly_reconcile.of_ends passes),
      plays_append.2 ⟨object, still counts, plays_singleton.2 writes⟩⟩⟩

/-- The object of a cluster with datacenters of three nodes each, and what stands in the place of
its status. -/
def declaring (names : List String) (status : Json) : Json :=
  .object [("metadata", .object [("name", .text "c"), ("namespace", .text "default")]),
    ("spec", .object [("dcs", .array (names.map fun name =>
      .object [("name", .text name), ("replicas", .integer 3)]))]),
    ("status", status)]

/-- A cluster with datacenters of three nodes each. -/
def clusterOf (names : List String) (status : Status) : Cluster where
  metadata := { name := "c" }
  space := some "default"
  ownName := some "c"
  spec := { datacenters := names.map (⟨·, 3⟩) }
  status := some status

/-- The status of a cluster from which a pod is departing. -/
def departing : Status where
  phase := .scaling
  readyNodes := 2
  initializingDc := some "dc9"
  decommissioning := some "c-cassandra-dc9-0"

/-- The same with something in it that nobody knows. -/
def lingering : Json := .object [("phase", .text "Scaling"), ("readyNodes", .integer 2),
  ("initializingDc", .text "dc9"), ("decommissioning", .text "c-cassandra-dc9-0"),
  ("strange", .array [.null])]

/-- The report of a pass with nothing to do. -/
def settled : PassReport := ⟨some .converged, .idle, 3⟩

/-- A pass over a cluster that declares a datacenter twice, and, once that is mended, one whose
server fails: what was said about the departure stays, and is gone with the next report. -/
theorem status_as_written_departing :
    ∃ turns object' cluster', turns.length = 2 ∧
      Run ⟨"c", "default"⟩ (declaring ["dc1", "dc1"] lingering) turns object' ∧
      Cluster.Stores object' cluster' ∧
      (∃ message lastReconciled, cluster'.status.getD {} =
        { departing with phase := .failed, message, lastReconciled }) ∧
      ((object'.patched (Cluster.statusPatch (settled.status ⟨0, 0⟩))).field? "status").bind
        Status.decode = some (settled.status ⟨0, 0⟩) ∧
      (settled.status ⟨0, 0⟩).initializingDc = none ∧
      (settled.status ⟨0, 0⟩).decommissioning = none := by
  obtain ⟨⟨reported, -⟩, patching, running, leaving, failing⟩ := status_as_written
  have first : Cluster.Stores (declaring ["dc1", "dc1"] lingering)
      (clusterOf ["dc1", "dc1"] departing) := ⟨⟨_, rfl⟩, rfl⟩
  -- The declaration is refused before anything is asked.
  let twice : Failure := .invariant "dc dc1 is declared more than once"
  have refused : (reconcile {} (clusterOf ["dc1", "dc1"] departing) ⟨0, 0⟩).run.Ends []
      (.error twice) := ⟨rfl, rfl⟩
  obtain ⟨log, goes⟩ := exists_goes first.read refused
  let misdeclared : Status := { departing with
    phase := .failed, message := some twice.message
    lastReconciled := some (Instant.writeWithOffset ⟨0, 0⟩) }
  have second : Cluster.Stores (declaring ["dc1"] misdeclared.encode)
      (clusterOf ["dc1"] misdeclared) := ⟨⟨_, rfl⟩, rfl⟩
  let outage : ApiFailure := .refused 500 "InternalError" "out of order"
  have broken : (reconcile {} (clusterOf ["dc1"] misdeclared) ⟨60, 0⟩).run.Ends
      [⟨.api _, .error outage⟩] (.error (.api outage)) := ⟨_, _, rfl, rfl, rfl⟩
  obtain ⟨log', goes'⟩ := exists_goes second.read broken
  have run := Run.turn goes (.edited (first.patched isCount_two) second rfl (.turn goes' (.nil _)))
  obtain ⟨-, cluster', stored, history⟩ := running _ _ _ _ _ run first
  obtain ⟨phase, message, last, kept, -⟩ := failing _ _ _ history (by
    intro turn among
    obtain rfl | rfl : turn = _ ∨ turn = _ := by simpa using among
    · exact ⟨_, rfl⟩
    · exact ⟨_, rfl⟩)
  obtain rfl := Option.some.inj ((second.patched isCount_two).read.symm.trans stored.read)
  let final : Turn := ⟨{}, clusterOf ["dc1"] misdeclared, ⟨60, 0⟩, .error (.api outage), log'⟩
  obtain ⟨_, _, left⟩ := ((leaving final _ (.inl rfl)).2 (.api outage) rfl).1 rfl
  obtain rfl : Phase.failed = phase := congrArg Status.phase (left.symm.trans kept)
  exact ⟨_, _, _, rfl, run, stored, ⟨message, last, kept⟩,
    (patching _ _ (reported settled ⟨0, 0⟩)).1, rfl, rfl⟩

end Reconcile

end RingOperator
