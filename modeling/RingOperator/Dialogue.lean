/-!
# Dialogues with the outside

A `Dialogue` is a computation that asks the outside one request after another
and goes on from each reply. It holds no state of the outside and performs
nothing by itself: `run` plays it against any state that can serve the
requests, so the same computation is executed, rehearsed and reasoned about.

* `run_bind`: a run of two dialogues in sequence is the run of the first and,
  from where it ends, of the second.
-/

namespace RingOperator

/-- A computation that asks requests, each with its own type of reply, and ends in a result. -/
inductive Dialogue (Ask : Type) (Reply : Ask → Type) (α : Type) where
  /-- The end of the dialogue. -/
  | done (result : α)
  /-- A request, and how to go on from each reply. -/
  | ask (request : Ask) (next : Reply request → Dialogue Ask Reply α)

namespace Dialogue

variable {Ask : Type} {Reply : Ask → Type} {α β σ : Type}

/-- One dialogue after another, the second chosen by the result of the first. -/
def bind : Dialogue Ask Reply α → (α → Dialogue Ask Reply β) → Dialogue Ask Reply β
  | done result, f => f result
  | ask request next, f => ask request fun reply => bind (next reply) f

instance : Monad (Dialogue Ask Reply) where
  pure := done
  bind := bind

/-- The dialogue of one request, with the reply as its result. -/
def once (request : Ask) : Dialogue Ask Reply (Reply request) := ask request done

/-- Plays a dialogue against a state that serves each request. -/
def run (serve : (request : Ask) → σ → Reply request × σ) : Dialogue Ask Reply α → σ → α × σ
  | done result, s => (result, s)
  | ask request next, s =>
    let answered := serve request s
    run serve (next answered.1) answered.2

/-- A dialogue as part of a wider one: `place` names its requests there and `back` reads the
wider replies. -/
def within {Ask' : Type} {Reply' : Ask' → Type} (place : Ask → Ask')
    (back : (request : Ask) → Reply' (place request) → Reply request) :
    Dialogue Ask Reply α → Dialogue Ask' Reply' α
  | done result => done result
  | ask request next => ask (place request) fun reply =>
      within place back (next (back request reply))

@[simp] theorem run_done (serve : (request : Ask) → σ → Reply request × σ) (result : α) (s : σ) :
    (done result : Dialogue Ask Reply α).run serve s = (result, s) := rfl

@[simp] theorem run_pure (serve : (request : Ask) → σ → Reply request × σ) (result : α) (s : σ) :
    (pure result : Dialogue Ask Reply α).run serve s = (result, s) := rfl

@[simp] theorem run_ask (serve : (request : Ask) → σ → Reply request × σ) (request : Ask)
    (next : Reply request → Dialogue Ask Reply α) (s : σ) :
    (ask request next).run serve s =
      (next (serve request s).1).run serve (serve request s).2 := rfl

@[simp] theorem run_once (serve : (request : Ask) → σ → Reply request × σ) (request : Ask)
    (s : σ) : (once request : Dialogue Ask Reply _).run serve s = serve request s := rfl

@[simp] theorem run_bind (serve : (request : Ask) → σ → Reply request × σ)
    (d : Dialogue Ask Reply α) (f : α → Dialogue Ask Reply β) (s : σ) :
    (d >>= f).run serve s = (f (d.run serve s).1).run serve (d.run serve s).2 := by
  induction d generalizing s with
  | done result => rfl
  | ask request next ih => exact ih _ _

/-- Mapping the identity over a dialogue changes nothing. -/
theorem bind_done (d : Dialogue Ask Reply α) : d.bind done = d := by
  induction d with
  | done result => rfl
  | ask request next ih => exact congrArg (ask request) (funext ih)

/-- Sequencing is associative. -/
theorem bind_bind {γ : Type} (d : Dialogue Ask Reply α) (f : α → Dialogue Ask Reply β)
    (g : β → Dialogue Ask Reply γ) :
    (d.bind f).bind g = d.bind fun a => (f a).bind g := by
  induction d with
  | done result => rfl
  | ask request next ih => exact congrArg (ask request) (funext ih)

instance : LawfulMonad (Dialogue Ask Reply) :=
  LawfulMonad.mk' _ bind_done (fun _ _ => rfl) bind_bind

end Dialogue

end RingOperator
