import RingOperator.Proofs.Logs
import RingOperator.Reconcile

/-!
# When the next pass is due

After a pass the status of its cluster is written, and the next pass follows after a delay: that of
the report or of the failure, or, if the handling of the cluster fails, that of the error policy.
Settings are checked so that passes do not follow each other without a pause, but not all of the
delays are (`Settings.check_eq_ok_iff`). So a pass may be followed by the next one at once;
`at_once_iff` says just when.
-/

namespace RingOperator

open Dialogue

variable {settings : Settings}

/-- When settings are accepted. -/
theorem Settings.check_eq_ok_iff : settings.check = .ok () ↔
    settings.metricsPort ≠ settings.healthPort ∧
      settings.prober.timeoutMillis ≠ 0 ∧ settings.jolokia.timeoutMillis ≠ 0 ∧
      (settings.requeue.retry ≠ 0 ∧ settings.requeue.regionRetry ≠ 0) ∧
      settings.logLevel ∈ Settings.logLevels := by
  rw [Settings.check]
  split
  · rename_i same
    simp [same]
  split
  · rename_i hasty
    simp [hasty]
  split
  · rename_i hasty
    simp [hasty]
  split
  · rename_i hasty
    rw [← not_or]
    simp [hasty]
  rename_i ports prober jolokia retries
  rw [← not_or]
  split <;> simp_all

/-! ## After a failure, and after a report -/

namespace Failure

variable {failure : Failure}

/-- A pass is tried again just if its failure passes by itself. -/
theorem exists_delay_iff : (∃ delay, failure.delay settings = some delay) ↔
    failure.isRetryable = true := by
  unfold delay
  cases failure.isRetryable <;> simp

theorem delay_eq_none_iff : failure.delay settings = none ↔ failure.isRetryable = false := by
  rw [← Bool.not_eq_true, ← exists_delay_iff, Option.eq_none_iff_forall_ne_some, not_exists]

/-- Under settings that are accepted, a pass is tried again at once only if a departure is not
    confirmed, and only if there is no delay in between. -/
theorem delay_eq_some_zero_iff (accepted : settings.check = .ok ()) :
    failure.delay settings = some 0 ↔ settings.requeue.decommissionPoll = 0 ∧
      ∃ pod cause, failure = .departureUnconfirmed pod cause := by
  obtain ⟨-, -, -, ⟨retry, regionRetry⟩, -⟩ := Settings.check_eq_ok_iff.1 accepted
  unfold delay
  cases failure with
  | departureUnconfirmed pod cause => simp [isRetryable]
  | api cause =>
    cases conflict : cause.isConflict <;> simp [conflict, retry]
  | _ => simp [isRetryable, retry, regionRetry]

/-- If the settings can be read, the error policy comes down to the delay of the failure. -/
theorem policyDelay_eq_zero_iff (accepted : settings.check = .ok ()) :
    failure.policyDelay (some settings) = 0 ↔
      (settings.requeue.decommissionPoll = 0 ∧
        ∃ pod cause, failure = .departureUnconfirmed pod cause) ∨
      settings.requeue.resync = 0 ∧ failure.isRetryable = false := by
  rw [policyDelay, ← delay_eq_some_zero_iff accepted, ← delay_eq_none_iff]
  cases failure.delay settings <;> simp

end Failure

theorem PassReport.delay_eq_zero_iff (accepted : settings.check = .ok ()) {report : PassReport} :
    report.delay settings = 0 ↔ report.converging = false ∧ settings.requeue.resync = 0 := by
  obtain ⟨-, -, -, ⟨retry, -⟩, -⟩ := Settings.check_eq_ok_iff.1 accepted
  rw [delay]
  cases report.converging <;> simp [retry]

/-! ## After a pass -/

namespace Reconcile

variable {cluster : Cluster} {now : Instant} {outcome : Outcome PassReport}
  {log : List (Entry Reply)} {result : Outcome Nat}

/-- What follows from what a pass came to: the counts and the status of the cluster, and the seconds
    until the next pass. -/
def conclude (settings : Settings) (cluster : Cluster) (now : Instant) :
    Outcome PassReport → Exchange Nat
  | .ok report => do
    count (.passed cluster.identity.name true)
    writeStatus cluster.identity (report.status now)
    return report.delay settings
  | .error failure => do
    count (.passed cluster.identity.name false)
    count (.failed failure.kind)
    writeStatus cluster.identity (Status.afterFailure cluster.status failure now)
    match failure.delay settings with
    | some delay => return delay
    | none => throw failure

theorem handle_eq (settings : Settings) (cluster : Cluster) (now : Instant) :
    handle settings cluster now =
      ExceptT.lift (reconcile settings cluster now).run >>= conclude settings cluster now := by
  unfold handle
  refine congrArg _ (funext fun outcome => ?_)
  cases outcome <;> rfl

/-- What a pass came to as a delay, if it is to be tried again. -/
def verdict (settings : Settings) : Outcome PassReport → Outcome Nat
  | .ok report => .ok (report.delay settings)
  | .error failure =>
    match failure.delay settings with
    | some delay => .ok delay
    | none => .error failure

/-- Only the server can prevent a status from being written. -/
theorem exists_api_of_writeStatus {identity : Identity} {status : Status} {failure : Failure}
    (h : (writeStatus identity status).run.Ends log (.error failure)) :
    ∃ cause, failure = .api cause := by
  obtain ⟨understood, asked, same⟩ := ends_map_except.1 h
  obtain ⟨answer, -, rfl⟩ := ends_ask_done.1 asked
  cases answer with
  | error cause =>
    cases same
    exact ⟨cause, rfl⟩
  | ok value =>
    cases decoded : Cluster.decode value with
    | none =>
      rw [Api.understand, decoded] at same
      cases same
      exact ⟨.undecodable, rfl⟩
    | some cluster =>
      rw [Api.understand, decoded] at same
      cases same

/-- What is handed on of a pass is its verdict, unless the status could not be written. -/
theorem ends_conclude (h : (conclude settings cluster now outcome).run.Ends log result) :
    result = verdict settings outcome ∨ ∃ cause, result = .error (.api cause) := by
  cases outcome with
  | ok report =>
    obtain ⟨_, _, _, rfl, -, h⟩ := ends_bind_lift.1 h
    obtain ⟨failure, refused, rfl⟩ | ⟨_, _, _, rfl, written, h⟩ := ends_bind_except.1 h
    · obtain ⟨cause, rfl⟩ := exists_api_of_writeStatus refused
      exact .inr ⟨cause, rfl⟩
    · exact .inl (ends_pure.1 h).2
  | error failure =>
    obtain ⟨_, _, _, rfl, -, h⟩ := ends_bind_lift.1 h
    obtain ⟨_, _, _, rfl, -, h⟩ := ends_bind_lift.1 h
    obtain ⟨_, refused, rfl⟩ | ⟨_, _, _, rfl, written, h⟩ := ends_bind_except.1 h
    · obtain ⟨cause, rfl⟩ := exists_api_of_writeStatus refused
      exact .inr ⟨cause, rfl⟩
    · cases again : failure.delay settings with
      | some delay =>
        rw [again] at h
        exact .inl (by rw [verdict, again]; exact (ends_pure.1 h).2)
      | none =>
        rw [again] at h
        exact .inl (by rw [verdict, again]; exact (ends_pure.1 h).2)

/-- What the server may answer once it has written a status. -/
def written : Json :=
  .object [("metadata", .object [("name", .text "c")]), ("spec", .object [("dcs", .array [])])]

theorem exists_writeStatus (identity : Identity) (status : Status) :
    ∃ told, (writeStatus identity status).run.Ends told (.ok ()) := by
  obtain ⟨cluster, decoded⟩ : ∃ cluster, Cluster.decode written = some cluster :=
    Option.isSome_iff_exists.1 (by decide +kernel)
  have understood : Api.understand Cluster.decode (.ok written) = .ok cluster := by
    rw [Api.understand, decoded]
  exact ⟨_, ends_map_except.2 ⟨_, ends_ask_done.2 ⟨.ok written, rfl, rfl⟩, by rw [understood]; rfl⟩⟩

/-- If the server writes the status, the verdict is handed on. -/
theorem exists_conclude (settings : Settings) (cluster : Cluster) (now : Instant)
    (outcome : Outcome PassReport) : ∃ told,
      (conclude settings cluster now outcome).run.Ends told (verdict settings outcome) := by
  cases outcome with
  | ok report =>
    obtain ⟨told, ends⟩ := exists_writeStatus cluster.identity (report.status now)
    exact ⟨⟨.count (.passed cluster.identity.name true), ()⟩ :: (told ++ []), (), _, rfl,
      ends_bind_except.2 (.inr ⟨told, [], (), rfl, ends, rfl, rfl⟩)⟩
  | error failure =>
    obtain ⟨told, ends⟩ := exists_writeStatus cluster.identity
      (Status.afterFailure cluster.status failure now)
    refine ⟨⟨.count (.passed cluster.identity.name false), ()⟩ ::
      ⟨.count (.failed failure.kind), ()⟩ :: (told ++ []), (), _, rfl, (), _, rfl,
      ends_bind_except.2 (.inr ⟨told, [], (), rfl, ends, ?_⟩)⟩
    rw [verdict]
    cases failure.delay settings <;> exact ⟨rfl, rfl⟩

/-- The seconds until the next pass: as the handling of the cluster says, or else as the error
    policy says, which reads the settings if it can. -/
def due (readable : Option Settings) : Outcome Nat → Nat
  | .ok delay => delay
  | .error failure => failure.policyDelay readable

theorem verdict_eq_error_iff {failure : Failure} : verdict settings outcome = .error failure ↔
    outcome = .error failure ∧ failure.isRetryable = false := by
  cases outcome with
  | ok report => simp [verdict]
  | error failure' =>
    have final := @Failure.delay_eq_none_iff settings failure'
    rw [verdict]
    cases delayed : failure'.delay settings with
    | some delay =>
      rw [delayed] at final
      refine iff_of_false (by simp) ?_
      rintro ⟨⟨⟩, given⟩
      cases final.2 given
    | none =>
      constructor
      · rintro ⟨⟩
        exact ⟨rfl, final.1 delayed⟩
      · rintro ⟨⟨⟩, -⟩
        rfl

/-- What a pass came to, if the next one follows at once though the status was written. -/
theorem verdict_eq_ok_zero_iff (accepted : settings.check = .ok ()) :
    verdict settings outcome = .ok 0 ↔
      (settings.requeue.decommissionPoll = 0 ∧
        ∃ pod cause, outcome = .error (.departureUnconfirmed pod cause)) ∨
      settings.requeue.resync = 0 ∧ ∃ report, outcome = .ok report ∧ report.converging = false := by
  cases outcome with
  | ok report => simp [verdict, PassReport.delay_eq_zero_iff accepted, and_comm]
  | error failure =>
    have again := @Failure.delay_eq_some_zero_iff settings failure accepted
    rw [verdict]
    cases delayed : failure.delay settings <;> simp_all

/-- A departure that is not confirmed is never left to the error policy. -/
theorem ne_departureUnconfirmed_of_ends {failure : Failure}
    (h : (conclude settings cluster now outcome).run.Ends log (.error failure)) (pod : String)
    (cause : Failure) : failure ≠ .departureUnconfirmed pod cause := by
  rintro rfl
  obtain same | ⟨cause, same⟩ := ends_conclude h
  · obtain ⟨-, final⟩ := verdict_eq_error_iff.1 same.symm
    cases final
  · cases same

/-- Settings that are accepted leave two delays that may be zero: that between looks at a departure,
    and that of a cluster with nothing to do. So the next pass follows at once just if the first one
    is zero and a departure is not confirmed, or if the other one is zero and there was nothing to
    do, or the handling failed with something that does not pass by itself and the error policy
    could read the settings. Whatever a pass came to and whatever the server answers, in all other
    cases there is a delay; and failures have one of their own just if they pass by themselves. -/
theorem at_once_iff (accepted : settings.check = .ok ()) :
    (∀ failure : Failure, (∃ delay, failure.delay settings = some delay) ↔
      failure.isRetryable = true) ∧
    ∀ cluster now,
      (∀ log result, (handle settings cluster now).run.Ends log result ↔
        ∃ passed told outcome, log = passed ++ told ∧
          (reconcile settings cluster now).run.Ends passed outcome ∧
          (conclude settings cluster now outcome).run.Ends told result) ∧
      ∀ outcome told result, (conclude settings cluster now outcome).run.Ends told result →
        ∀ readable, readable = none ∨ readable = some settings →
          (due readable result = 0 ↔
            (result = .ok 0 ∧ settings.requeue.decommissionPoll = 0 ∧
              ∃ pod cause, outcome = .error (.departureUnconfirmed pod cause)) ∨
            (result = .ok 0 ∧ settings.requeue.resync = 0 ∧
              ∃ report, outcome = .ok report ∧ report.converging = false) ∨
            (readable = some settings ∧ settings.requeue.resync = 0 ∧
              ∃ failure, result = .error failure ∧ failure.isRetryable = false)) := by
  refine ⟨fun failure => Failure.exists_delay_iff, fun cluster now => ⟨fun log result => ?_, ?_⟩⟩
  · rw [handle_eq, ends_bind_lift]
  intro outcome told result h readable read
  -- A result is the verdict on the pass; what is left to the error policy is a final failure of
  -- the pass, or a failure of the server.
  cases result with
  | ok delay =>
    obtain same | ⟨_, ⟨⟩⟩ := ends_conclude h
    have zero := @verdict_eq_ok_zero_iff settings outcome accepted
    rw [← same] at zero
    constructor
    · rintro rfl
      obtain hasty | idle := zero.1 rfl
      · exact .inl ⟨rfl, hasty⟩
      · exact .inr (.inl ⟨rfl, idle⟩)
    · rintro (⟨⟨⟩, -⟩ | ⟨⟨⟩, -⟩ | ⟨-, -, _, ⟨⟩, -⟩)
      · rfl
      · rfl
  | error failure =>
    have other := ne_departureUnconfirmed_of_ends h
    rw [due]
    obtain rfl | rfl := read
    · simp [Failure.policyDelay]
    · simp [Failure.policyDelay_eq_zero_iff accepted, other]

/-- Settings under which departures are looked at every so many seconds. -/
def looking (seconds : Nat) : Settings where
  requeue := { decommissionPoll := seconds }

/-- A cluster without datacenters. -/
def vacant : Cluster where
  metadata := { name := "c" }
  space := some "default"
  ownName := some "c"
  spec := { datacenters := [] }
  status := none

/-- A node that does not answer has not left as far as its peers know. -/
def unconfirmed : Failure := .departureUnconfirmed "c-cassandra-dc-1" (.timeout "10.0.0.2")

theorem at_once_iff_looking : (looking 3).check = .ok () ∧ ∃ told,
    (conclude (looking 3) vacant ⟨0, 0⟩ (.error unconfirmed)).run.Ends told (.ok 3) ∧
      due (some (looking 3)) (.ok 3) ≠ 0 := by
  have accepted : (looking 3).check = .ok () := rfl
  obtain ⟨told, ends⟩ := exists_conclude (looking 3) vacant ⟨0, 0⟩ (.error unconfirmed)
  have zero := ((at_once_iff accepted).2 vacant ⟨0, 0⟩).2 _ told _ ends _ (.inr rfl)
  refine ⟨accepted, told, ends, mt zero.1 ?_⟩
  simp [looking, verdict, Failure.delay, unconfirmed, Failure.isRetryable]

/-- So it is not so that settings that are accepted keep passes apart. -/
theorem at_once_though_accepted :
    ¬ ∀ settings : Settings, settings.check = .ok () → ∀ cluster now outcome told result,
      (conclude settings cluster now outcome).run.Ends told result →
      0 < due (some settings) result := by
  intro always
  obtain ⟨told, ends⟩ := exists_conclude (looking 0) vacant ⟨0, 0⟩ (.error unconfirmed)
  exact absurd (always (looking 0) rfl _ _ _ _ _ ends) (by decide)

end Reconcile

end RingOperator
