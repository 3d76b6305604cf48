import RingOperator.Proofs.Scaling.Safety

/-!
# What the result of a scaling step tells

A step that reports to have done nothing has found nothing due and has asked for
nothing (`ends_idle_iff`). A step that reports that it has changed a count or
removed a StatefulSet has been told so (`wrote_of_progresses`).
-/

namespace RingOperator.Scaling

open Dialogue

/-- Whether the step has come nearer to the declared topology. -/
def Result.progresses : Result → Bool
  | .scaledUp _ _ | .scaledDown _ _ | .dcRemoved _ => true
  | .idle | .waiting _ | .decommissionStarted _ => false

/-- Whether a StatefulSet was written or removed, as the reply says. -/
def wrote : Entry Reply → Bool
  | ⟨.setReplicas _ _ _, .ok _⟩ | ⟨.deleteSet _ _, .ok _⟩ => true
  | _ => false

/-- A result of a step that has taken up an intent, and what its log says for it. -/
structure Told (log : List (Entry Reply)) (result : Result) : Prop where
  busy : result ≠ .idle
  written : result.progresses = true → ∃ e ∈ log, wrote e = true

variable {now : Instant} {cluster : String} {spec : Spec} {s : Snapshot}
  {addresses : Table String} {intent : Intent} {log : List (Entry Reply)} {result : Result}

/-- Where there are members, nothing is due just if the count is the desired one. -/
theorem Intent.isDue_eq_false_iff (peopled : s.isEmpty = false) :
    intent.isDue s = false ↔ intent.desired = some intent.current := by
  simp only [isDue, peopled, Bool.and_false, Bool.not_false, Bool.and_true, decide_eq_false_iff_not,
    Decidable.not_not]

theorem Told.append_left (told : Told log result) (first : List (Entry Reply)) :
    Told (first ++ log) result where
  busy := told.busy
  written progresses :=
    (told.written progresses).imp fun _ h => ⟨List.mem_append_right first h.1, h.2⟩

theorem told_waiting (pod : String) : Told log (.waiting pod) :=
  ⟨by simp, by simp [Result.progresses]⟩

theorem told_of_ends_complete {job : String}
    (h : (complete now intent job).run.Ends log (.ok result)) : Told log result := by
  obtain ⟨_, -, ⟨⟩⟩ | ⟨first, second, _, rfl, set, rest⟩ := ends_bind_except.1 h
  obtain rfl := ends_setReplicas.1 set
  obtain ⟨_ | _, -, same⟩ := ends_map_except.1 rest
  · cases same
  · cases same
    exact ⟨by simp, fun _ => ⟨_, List.mem_cons_self, rfl⟩⟩

theorem told_of_ends_startDecommission {pod job address : String}
    (h : (startDecommission now pod job address).run.Ends log (.ok result)) : Told log result := by
  suffices result = .decommissionStarted pod by
    subst this
    exact ⟨by simp, by simp [Result.progresses]⟩
  -- Whatever becomes of an earlier record, the step ends in a launch.
  have launched : ∀ {log}, (onJobs (Jobs.start now job) >>= fun _ =>
      ExceptT.lift (launch job address) >>= fun _ => pure (.decommissionStarted pod) :
        Exchange Result).run.Ends log (.ok result) → result = .decommissionStarted pod := by
    intro log h
    obtain ⟨_, -, ⟨⟩⟩ | ⟨_, _, _, -, -, h⟩ := ends_bind_except.1 h
    obtain ⟨_, _, _, -, -, -, ⟨⟩⟩ := ends_bind_lift.1 h
    rfl
  obtain ⟨_, -, ⟨⟩⟩ | ⟨_, _, seen, -, -, h⟩ := ends_bind_except.1 h
  cases seen with
  | none => exact launched h
  | some record =>
    obtain ⟨_, -, ⟨⟩⟩ | ⟨_, _, _, -, -, h⟩ := ends_bind_except.1 h
    exact launched h

theorem told_of_ends_confirmation {pod address job : String} (otherwise : Exchange Result)
    (waits : ∀ {log result}, otherwise.run.Ends log (.ok result) → Told log result)
    (h : (ExceptT.lift (departureConfirmed spec pod address s addresses) >>= fun confirmed =>
      if confirmed then complete now intent job else otherwise).run.Ends log (.ok result)) :
    Told log result := by
  obtain ⟨first, second, confirmed, rfl, -, h⟩ := ends_bind_lift.1 h
  refine Told.append_left ?_ first
  cases confirmed with
  | true => exact told_of_ends_complete h
  | false => exact waits h

theorem told_of_ends_judge {address : String} {answer : Outcome OperationMode}
    (h : (judge now cluster spec s addresses intent address answer).run.Ends log (.ok result)) :
    Told log result := by
  rcases answer with failure | mode
  · refine told_of_ends_confirmation _ ?_ h
    rintro _ _ ⟨-, ⟨⟩⟩
  by_cases leaving : mode = .leaving
  · subst leaving
    obtain ⟨-, ⟨⟩⟩ := h
    exact told_waiting _
  by_cases gone : mode = .decommissioned
  · subst gone
    refine told_of_ends_confirmation _ ?_ h
    rintro _ _ ⟨-, ⟨⟩⟩
    exact told_waiting _
  · rw [judge_of_working leaving gone] at h
    exact told_of_ends_startDecommission h

theorem told_of_ends_lower
    (h : (lower now cluster spec intent s addresses).run.Ends log (.ok result)) :
    Told log result := by
  rw [lower_eq] at h
  obtain ⟨_, -, ⟨⟩⟩ | ⟨first, second, running, rfl, -, h⟩ := ends_bind_except.1 h
  refine Told.append_left ?_ first
  cases running with
  | true =>
    obtain ⟨-, ⟨⟩⟩ := h
    exact told_waiting _
  | false =>
    simp only [Bool.false_eq_true, if_false] at h
    split at h
    · obtain ⟨-, ⟨⟩⟩ := h
    cases located : addresses.get? (intent.target cluster) with
    | none =>
      rw [located] at h
      obtain ⟨-, ⟨⟩⟩ := h
    | some address =>
      rw [located] at h
      obtain ⟨first, second, answer, rfl, -, h⟩ := ends_bind_lift.1 h
      exact (told_of_ends_judge h).append_left first

theorem told_of_ends_takeUp (due : intent.isDue s)
    (h : (takeUp now cluster spec s addresses intent).run.Ends log (.ok result)) :
    Told log result := by
  by_cases lowers : intent.lowers
  · rw [takeUp_of_lowers lowers] at h
    exact told_of_ends_lower h
  -- What is due otherwise takes a single write, and is done if that succeeds.
  obtain ⟨count, reply, -, -, rfl, same⟩ | ⟨reply, -, -, rfl, same⟩ :=
    ends_takeUp_of_not_lowers due lowers h <;>
  · cases reply with
    | error failure => cases same
    | ok =>
      cases same
      exact ⟨by simp, fun _ => ⟨_, List.mem_cons_self, rfl⟩⟩

/-- A step does nothing just if nothing is due, and then it asks for nothing. -/
theorem ends_idle_iff {intents : List Intent} :
    (step now cluster spec s addresses intents).run.Ends log (.ok .idle) ↔
      log = [] ∧ intents.find? (·.isDue s) = none := by
  rw [step_eq]
  cases first : intents.find? (·.isDue s) with
  | none => exact ⟨fun h => ⟨h.1, rfl⟩, fun h => ⟨h.1, rfl⟩⟩
  | some intent =>
    constructor
    · exact fun h => absurd rfl (told_of_ends_takeUp (List.find?_some first) h).busy
    · rintro ⟨-, ⟨⟩⟩

/-- A step that reports a change of a count, or a removal, has asked for it, and it was told that
    it is done. -/
theorem wrote_of_progresses {intents : List Intent}
    (h : (step now cluster spec s addresses intents).run.Ends log (.ok result))
    (progresses : result.progresses = true) : ∃ e ∈ log, wrote e = true := by
  rw [step_eq] at h
  cases first : intents.find? (·.isDue s) with
  | none =>
    rw [first] at h
    obtain ⟨-, ⟨⟩⟩ := h
    cases progresses
  | some intent =>
    rw [first] at h
    exact (told_of_ends_takeUp (List.find?_some first) h).written progresses

end RingOperator.Scaling
