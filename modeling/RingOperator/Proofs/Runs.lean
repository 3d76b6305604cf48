import RingOperator.Dialogue

/-!
# Runs that succeed

A dialogue that is played against a state asks its requests (`Dialogue.requests`)
and leaves another state. `Yields` says of an exchange that it succeeds with a value
from one state and leaves another one, and that it asks only some requests on the way.
It is told part by part:

* `yields_bind`: two exchanges in sequence succeed just if the first one does and,
  from where it ends, the second. `yields_bind_lift` and `yields_bind_outcome` are the
  cases where the first one cannot fail, or asks nothing.
* `yields_within`: as part of a wider dialogue, an exchange changes its part of the
  wider state, and nothing else.
-/

namespace RingOperator.Dialogue

variable {Ask : Type} {Reply : Ask → Type} {α β ε σ : Type}

/-- The requests of a run, in their order. -/
def requests (serve : (request : Ask) → σ → Reply request × σ) :
    Dialogue Ask Reply α → σ → List Ask
  | done _, _ => []
  | ask request next, s =>
    let answered := serve request s
    request :: requests serve (next answered.1) answered.2

/-- From a state, the exchange succeeds with a value and leaves another state, and of every
    request on the way `q` holds. -/
structure Yields (serve : (request : Ask) → σ → Reply request × σ) (q : Ask → Prop)
    (x : ExceptT ε (Dialogue Ask Reply) α) (s : σ) (a : α) (s' : σ) : Prop where
  run_eq : x.run.run serve s = (.ok a, s')
  asked : ∀ request ∈ x.run.requests serve s, q request

variable {serve : (request : Ask) → σ → Reply request × σ} {q : Ask → Prop} {s s' : σ} {a : α}

theorem requests_bind (d : Dialogue Ask Reply α) (f : α → Dialogue Ask Reply β) (s : σ) :
    (d >>= f).requests serve s =
      d.requests serve s ++ (f (d.run serve s).1).requests serve (d.run serve s).2 := by
  induction d generalizing s with
  | done a => rfl
  | ask request next ih => exact congrArg (request :: ·) (ih _ _)

theorem Yields.mono {q' : Ask → Prop} {x : ExceptT ε (Dialogue Ask Reply) α}
    (yields : Yields serve q x s a s') (h : ∀ request, q request → q' request) :
    Yields serve q' x s a s' :=
  ⟨yields.run_eq, fun request among => h request (yields.asked request among)⟩

@[simp] theorem yields_pure {a b : α} :
    Yields serve q (pure a : ExceptT ε (Dialogue Ask Reply) α) s b s' ↔ b = a ∧ s' = s := by
  constructor
  · rintro ⟨⟨⟩, -⟩
    exact ⟨rfl, rfl⟩
  · rintro ⟨rfl, rfl⟩
    exact ⟨rfl, List.forall_mem_nil _⟩

/-- One request, the reply to which is read as a value or a failure. -/
theorem yields_ask {request : Ask} {read : Reply request → Except ε α} :
    Yields serve q (ExceptT.mk (ask request fun reply => done (read reply))) s a s' ↔
      q request ∧ read (serve request s).1 = .ok a ∧ s' = (serve request s).2 := by
  constructor
  · rintro ⟨same, asked⟩
    obtain ⟨value, state⟩ := Prod.mk.inj same
    exact ⟨asked request List.mem_cons_self, value, state.symm⟩
  · rintro ⟨holds, value, rfl⟩
    exact ⟨Prod.ext value rfl, List.forall_mem_singleton.2 holds⟩

/-- Two exchanges in sequence. -/
theorem yields_bind {x : ExceptT ε (Dialogue Ask Reply) α}
    {f : α → ExceptT ε (Dialogue Ask Reply) β} {b : β} :
    Yields serve q (x >>= f) s b s' ↔
      ∃ a between, Yields serve q x s a between ∧ Yields serve q (f a) between b s' := by
  constructor
  · rintro ⟨same, asked⟩
    rw [ExceptT.run_bind] at same asked
    rw [run_bind] at same
    rw [requests_bind] at asked
    obtain ⟨first, second⟩ := List.forall_mem_append.1 asked
    cases outcome : x.run.run serve s with | mk result between =>
    rw [outcome] at same second
    cases result with
    | error failure => cases same
    | ok a => exact ⟨a, between, ⟨outcome, first⟩, same, second⟩
  · rintro ⟨a, between, ⟨same, first⟩, same', second⟩
    constructor
    · rw [ExceptT.run_bind, run_bind, same]
      exact same'
    · rw [ExceptT.run_bind, requests_bind, same]
      exact List.forall_mem_append.2 ⟨first, second⟩

/-- A dialogue that cannot fail, followed by an exchange. -/
theorem yields_bind_lift {d : Dialogue Ask Reply α} {f : α → ExceptT ε (Dialogue Ask Reply) β}
    {b : β} : Yields serve q (ExceptT.lift d >>= f) s b s' ↔
      (∀ request ∈ d.requests serve s, q request) ∧
        Yields serve q (f (d.run serve s).1) (d.run serve s).2 b s' := by
  constructor
  · rintro ⟨same, asked⟩
    rw [ExceptT.run_bind_lift] at same asked
    rw [run_bind] at same
    rw [requests_bind] at asked
    obtain ⟨first, second⟩ := List.forall_mem_append.1 asked
    exact ⟨first, same, second⟩
  · rintro ⟨first, same, second⟩
    constructor
    · rw [ExceptT.run_bind_lift, run_bind]
      exact same
    · rw [ExceptT.run_bind_lift, requests_bind]
      exact List.forall_mem_append.2 ⟨first, second⟩

/-- A computation that asks nothing but may fail, followed by an exchange. -/
theorem yields_bind_outcome {x : Except ε α} {f : α → ExceptT ε (Dialogue Ask Reply) β} {b : β} :
    Yields serve q ((liftM x : ExceptT ε (Dialogue Ask Reply) α) >>= f) s b s' ↔
      ∃ a, x = .ok a ∧ Yields serve q (f a) s b s' := by
  cases x with
  | error failure =>
    constructor
    · rintro ⟨⟨⟩, -⟩
    · rintro ⟨_, ⟨⟩, _⟩
  | ok a =>
    constructor
    · exact fun yields => ⟨a, rfl, yields⟩
    · rintro ⟨_, ⟨⟩, yields⟩
      exact yields

section Within

variable {Ask' : Type} {Reply' : Ask' → Type} {σ' : Type}
  {serve' : (request : Ask') → σ' → Reply' request × σ'} {place : Ask → Ask'}
  {back : (request : Ask) → Reply' (place request) → Reply request} {put : σ → σ'}

/-- The wider requests are served by a part of the wider state. -/
def Serves (serve : (request : Ask) → σ → Reply request × σ)
    (serve' : (request : Ask') → σ' → Reply' request × σ') (place : Ask → Ask')
    (back : (request : Ask) → Reply' (place request) → Reply request) (put : σ → σ') : Prop :=
  ∀ request s, back request (serve' (place request) (put s)).1 = (serve request s).1 ∧
    (serve' (place request) (put s)).2 = put (serve request s).2

theorem Serves.run_within (serves : Serves serve serve' place back put)
    (d : Dialogue Ask Reply α) (s : σ) :
    (d.within place back).run serve' (put s) = ((d.run serve s).1, put (d.run serve s).2) := by
  induction d generalizing s with
  | done a => rfl
  | ask request next ih =>
    obtain ⟨reply, state⟩ := serves request s
    rw [within, run_ask, run_ask, reply, state]
    exact ih _ _

theorem Serves.requests_within (serves : Serves serve serve' place back put)
    (d : Dialogue Ask Reply α) (s : σ) :
    (d.within place back).requests serve' (put s) = (d.requests serve s).map place := by
  induction d generalizing s with
  | done a => rfl
  | ask request next ih =>
    obtain ⟨reply, state⟩ := serves request s
    rw [within, requests, requests, reply, state, List.map_cons]
    exact congrArg (place request :: ·) (ih _ _)

/-- An exchange as part of a wider dialogue. -/
theorem Serves.yields_within (serves : Serves serve serve' place back put)
    {q : Ask' → Prop} {x : ExceptT ε (Dialogue Ask Reply) α} {outer : σ'} :
    Yields serve' q (ExceptT.mk (within place back x.run)) (put s) a outer ↔
      ∃ s', Yields serve (fun request => q (place request)) x s a s' ∧ outer = put s' := by
  constructor
  · rintro ⟨same, asked⟩
    rw [ExceptT.run_mk, serves.run_within] at same
    rw [ExceptT.run_mk, serves.requests_within] at asked
    obtain ⟨value, rfl⟩ := Prod.mk.inj same
    exact ⟨_, ⟨Prod.ext value rfl, List.forall_mem_map.1 asked⟩, rfl⟩
  · rintro ⟨s', ⟨same, asked⟩, rfl⟩
    constructor
    · rw [ExceptT.run_mk, serves.run_within, same]
    · rw [ExceptT.run_mk, serves.requests_within]
      exact List.forall_mem_map.2 asked

end Within

end RingOperator.Dialogue
