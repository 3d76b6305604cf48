import RingOperator.Proofs.Scaling.Safety

/-!
# Scaling steps under way

A scaling step that has come some way (`Underway`): what it started from, what it
has asked with the replies, and what is left of it. Where it is, it has come by
its requests (`Underway.Leads`), so its next request is justified by what it has
asked so far, and it acts only if it has not acted yet
(`Underway.Leads.justified`). Along a log that a step can have, it can go on
request by request (`Underway.along`).
-/

namespace RingOperator.Scaling

open Dialogue

/-- A scaling step under way. -/
structure Underway where
  /-- What the step started from. -/
  now : Instant
  spec : Spec
  seen : Snapshot
  addresses : Table String
  intents : List Intent
  /-- The requests so far, with their replies. -/
  asked : List (Entry Reply) := []
  /-- What is left of the step. -/
  rest : Talk (Outcome Result)

namespace Underway

/-- A scaling step from its beginning. -/
def start (cluster : String) (now : Instant) (spec : Spec) (seen : Snapshot)
    (addresses : Table String) (intents : List Intent) : Underway where
  now
  spec
  seen
  addresses
  intents
  rest := (step now cluster spec seen addresses intents).run

/-- The step after a reply to its next request. -/
def replied (p : Underway) (request : Ask) (reply : Reply request) (rest : Talk (Outcome Result)) :
    Underway :=
  { p with asked := p.asked ++ [⟨request, reply⟩], rest }

/-- The step has come where it is by its requests. -/
def Leads (cluster : String) (p : Underway) : Prop :=
  ∀ more result, p.rest.Ends more result →
    (step p.now cluster p.spec p.seen p.addresses p.intents).run.Ends (p.asked ++ more) result

variable {cluster : String} {p : Underway}

theorem leads_start (now : Instant) (spec : Spec) (seen : Snapshot) (addresses : Table String)
    (intents : List Intent) : (start cluster now spec seen addresses intents).Leads cluster :=
  fun _ _ h => h

/-- A step goes on along a log of it. What each request keeps holds at the end. -/
theorem along {q : Underway → Prop} {log more : List (Entry Reply)} {result : Outcome Result}
    (begins : q p) (ends : p.rest.Ends (log ++ more) result)
    (goesOn : ∀ p' request next, ∀ reply : Reply request, q p' → p'.now = p.now →
      p'.rest = .ask request next → ⟨request, reply⟩ ∈ log →
        q (p'.replied request reply (next reply))) :
    ∃ rest, rest.Ends more result ∧ q { p with asked := p.asked ++ log, rest } := by
  induction log generalizing p with
  | nil => exact ⟨p.rest, ends, by rwa [List.append_nil]⟩
  | cons e log ih =>
    obtain ⟨request, reply⟩ := e
    obtain ⟨next, asks, more⟩ := exists_ask_of_ends ends
    have replied := goesOn p request next reply begins rfl asks List.mem_cons_self
    obtain ⟨rest, ends, reached⟩ := ih replied more fun p' request next reply h same asks among =>
      goesOn p' request next reply h same asks (List.mem_cons_of_mem _ among)
    refine ⟨rest, ends, ?_⟩
    simpa [Underway.replied] using reached

namespace Leads

variable {request : Ask} {next : Reply request → Talk (Outcome Result)}

theorem replied (leads : p.Leads cluster) (asks : p.rest = .ask request next)
    (reply : Reply request) : (p.replied request reply (next reply)).Leads cluster := by
  intro more result h
  rw [Underway.replied, List.append_assoc]
  exact leads (⟨request, reply⟩ :: more) result (asks ▸ ends_ask.2 ⟨reply, more, rfl, h⟩)

theorem nonempty_reply (request : Ask) : Nonempty (Reply request) := by
  cases request with
  | job request => cases request <;> exact ⟨.error (.timeout "")⟩
  | setReplicas | deleteSet | mode | ringView => exact ⟨.error (.timeout "")⟩
  | launch => exact ⟨()⟩

/-- What a step asks next it asks for the first intent that is due, justified by what it has asked
    so far, and it acts only once. -/
theorem justified (leads : p.Leads cluster) (asks : p.rest = .ask request next) :
    ∃ intent, p.intents.find? (·.isDue p.seen) = some intent ∧
      Justified p.now cluster p.spec p.seen p.addresses intent p.asked request ∧
      (request.acts = true → p.asked.countP (·.1.acts) = 0) := by
  -- The step can go on to some end, and all of its log is one of a step from the beginning.
  obtain ⟨reply⟩ := nonempty_reply request
  obtain ⟨log, result, ends⟩ := exists_ends nonempty_reply (next reply)
  have whole := leads (⟨request, reply⟩ :: log) result (asks ▸ ends_ask.2 ⟨_, _, rfl, ends⟩)
  rw [step_eq] at whole
  cases first : p.intents.find? (·.isDue p.seen) with
  | none =>
    rw [first] at whole
    obtain ⟨nothing, -⟩ := whole
    simp at nothing
  | some intent =>
    rw [first] at whole
    obtain ⟨once, justified⟩ := ends_takeUp (List.find?_some first) whole
    refine ⟨intent, rfl, justified p.asked ⟨request, reply⟩ log rfl, fun acts => ?_⟩
    rw [List.countP_append, List.countP_cons_of_pos (by exact acts)] at once
    omega

end Leads

end Underway

end RingOperator.Scaling
