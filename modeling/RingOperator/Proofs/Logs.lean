import RingOperator.Dialogue

/-!
# Logs of dialogues

A *log* lists the requests of a dialogue in the order in which they were asked,
each with the reply it got. Where a statement is about whatever the outside may
reply, it is about every log that a dialogue can have: `d.Ends log result` says
that `d` asks just the requests of `log` if it is replied to as the log says,
and then ends in `result`.

* `ends_run`: a run against a state has a log, so nothing that a state can do
  is left out.
* `run_of_ends`: and a run in which everything is replied to as in a log ends as
  the log does.
* `ends_bind`, `ends_bind_except`: the log of two dialogues in sequence is one
  of the first followed by one of the second; if the first one fails, it is the
  log of the first alone. `ends_bind_lift` and `ends_bind_outcome` are the cases
  where the first one cannot fail, or asks nothing.
* `ends_within`: as part of a wider dialogue, a dialogue has its own logs, with
  the requests renamed and the replies read back.

`AsksOnly` is how a dialogue is told to leave some requests alone, without a look
at its logs. `Throughout` is how the order of requests is spoken about: something
holds of every entry of a log, given the entries before it. `Plays` is how a log
is held against the outside: what becomes of a state that replies as the log says.
-/

namespace RingOperator.Dialogue

variable {Ask : Type} {Reply : Ask → Type} {α β ε σ : Type}

/-- A request with the reply that it got. -/
abbrev Entry (Reply : Ask → Type) := (request : Ask) × Reply request

/-- Replied to as the log says, the dialogue asks the requests of the log and
    ends in the result. -/
def Ends : Dialogue Ask Reply α → List (Entry Reply) → α → Prop
  | done a, log, result => log = [] ∧ result = a
  | ask request next, log, result =>
    ∃ reply rest, log = ⟨request, reply⟩ :: rest ∧ Ends (next reply) rest result

@[simp] theorem ends_done {a result : α} {log : List (Entry Reply)} :
    (done a : Dialogue Ask Reply α).Ends log result ↔ log = [] ∧ result = a := Iff.rfl

@[simp] theorem ends_pure {a result : α} {log : List (Entry Reply)} :
    (pure a : Dialogue Ask Reply α).Ends log result ↔ log = [] ∧ result = a := Iff.rfl

theorem ends_ask {request : Ask} {next : Reply request → Dialogue Ask Reply α} {result : α}
    {log : List (Entry Reply)} : (ask request next).Ends log result ↔
      ∃ reply rest, log = ⟨request, reply⟩ :: rest ∧ (next reply).Ends rest result := Iff.rfl

/-- A dialogue of one request, the result of which is read from the reply. -/
theorem ends_ask_done {request : Ask} {f : Reply request → α} {result : α}
    {log : List (Entry Reply)} :
    (ask request fun reply => done (f reply) : Dialogue Ask Reply α).Ends log result ↔
      ∃ reply, log = [⟨request, reply⟩] ∧ result = f reply := by
  constructor
  · rintro ⟨reply, _, rfl, rfl, rfl⟩
    exact ⟨reply, rfl, rfl⟩
  · rintro ⟨reply, rfl, rfl⟩
    exact ⟨reply, [], rfl, rfl, rfl⟩

/-- A dialogue with a log asks the first request of it, and goes on from the reply. -/
theorem exists_ask_of_ends {d : Dialogue Ask Reply α} {request : Ask} {reply : Reply request}
    {log : List (Entry Reply)} {result : α} (h : d.Ends (⟨request, reply⟩ :: log) result) :
    ∃ next, d = ask request next ∧ (next reply).Ends log result := by
  cases d with
  | done a => cases h.1
  | ask request' next =>
    obtain ⟨_, _, same, goesOn⟩ := h
    cases same
    exact ⟨next, rfl, goesOn⟩

@[simp] theorem ends_once {request : Ask} {log : List (Entry Reply)} {reply : Reply request} :
    (once request : Dialogue Ask Reply _).Ends log reply ↔ log = [⟨request, reply⟩] := by
  constructor
  · rintro ⟨_, _, rfl, rfl, rfl⟩
    rfl
  · rintro rfl
    exact ⟨reply, [], rfl, rfl, rfl⟩

/-- Every run has a log. -/
theorem ends_run (serve : (request : Ask) → σ → Reply request × σ) (d : Dialogue Ask Reply α)
    (s : σ) : ∃ log, d.Ends log (d.run serve s).1 := by
  induction d generalizing s with
  | done result => exact ⟨[], rfl, rfl⟩
  | ask request next ih =>
    obtain ⟨log, h⟩ := ih (serve request s).1 (serve request s).2
    exact ⟨_, _, log, rfl, h⟩

/-- Where every request can be replied to, every dialogue can end. -/
theorem exists_ends (h : ∀ request, Nonempty (Reply request)) (d : Dialogue Ask Reply α) :
    ∃ log result, d.Ends log result := by
  induction d with
  | done result => exact ⟨[], result, rfl, rfl⟩
  | ask request next ih =>
    obtain ⟨reply⟩ := h request
    obtain ⟨log, result, ends⟩ := ih reply
    exact ⟨_, result, reply, log, rfl, ends⟩

/-- A run in which everything is replied to as in a log ends as the log does. -/
theorem run_of_ends {serve : (request : Ask) → σ → Reply request × σ} {d : Dialogue Ask Reply α}
    {log : List (Entry Reply)} {result : α} (h : d.Ends log result)
    (served : ∀ e ∈ log, ∀ s, (serve e.1 s).1 = e.2) (s : σ) : (d.run serve s).1 = result := by
  induction d generalizing log s with
  | done a => exact h.2.symm
  | ask request next ih =>
    obtain ⟨reply, rest, rfl, h⟩ := h
    obtain ⟨now, later⟩ := List.forall_mem_cons.1 served
    rw [run_ask, now s]
    exact ih reply h later _

/-- How a dialogue ends is told by its log. -/
theorem Ends.unique {d : Dialogue Ask Reply α} {log : List (Entry Reply)} {result result' : α}
    (h : d.Ends log result) (h' : d.Ends log result') : result = result' := by
  induction d generalizing log with
  | done a => exact h.2.trans h'.2.symm
  | ask request next ih =>
    obtain ⟨reply, rest, rfl, h⟩ := h
    obtain ⟨_, _, same, h'⟩ := h'
    cases same
    exact ih reply h h'

/-- A dialogue that has ended asks nothing more, so its log is told by what it starts with. -/
theorem Ends.append_inj {d : Dialogue Ask Reply α} {log rest log' rest' : List (Entry Reply)}
    {result result' : α} (h : d.Ends log result) (h' : d.Ends log' result')
    (same : log ++ rest = log' ++ rest') : result = result' ∧ log = log' ∧ rest = rest' := by
  induction d generalizing log log' with
  | done a =>
    obtain ⟨rfl, rfl⟩ := h
    obtain ⟨rfl, rfl⟩ := h'
    exact ⟨rfl, rfl, same⟩
  | ask request next ih =>
    obtain ⟨reply, log, rfl, h⟩ := h
    obtain ⟨reply', log', rfl, h'⟩ := h'
    obtain ⟨first, later⟩ := List.cons_eq_cons.1 same
    cases first
    obtain ⟨ended, asked, left⟩ := ih reply h h' later
    exact ⟨ended, congrArg _ asked, left⟩

/-- A log of two dialogues in sequence. -/
theorem ends_bind {d : Dialogue Ask Reply α} {f : α → Dialogue Ask Reply β}
    {log : List (Entry Reply)} {result : β} : (d >>= f).Ends log result ↔
      ∃ first second a, log = first ++ second ∧ d.Ends first a ∧ (f a).Ends second result := by
  induction d generalizing log with
  | done a =>
    constructor
    · exact fun h => ⟨[], log, a, rfl, ⟨rfl, rfl⟩, h⟩
    · rintro ⟨_, _, _, rfl, ⟨rfl, rfl⟩, h⟩
      exact h
  | ask request next ih =>
    constructor
    · rintro ⟨reply, rest, rfl, h⟩
      obtain ⟨first, second, a, rfl, hd, hf⟩ := (ih reply).1 h
      exact ⟨_, second, a, rfl, ⟨reply, first, rfl, hd⟩, hf⟩
    · rintro ⟨_, second, a, rfl, ⟨reply, rest, rfl, hd⟩, hf⟩
      exact ⟨reply, rest ++ second, rfl, (ih reply).2 ⟨rest, second, a, rfl, hd, hf⟩⟩

/-- A log of two dialogues in sequence of which the first one may fail. -/
theorem ends_bind_except {d : ExceptT ε (Dialogue Ask Reply) α}
    {f : α → ExceptT ε (Dialogue Ask Reply) β} {log : List (Entry Reply)} {result : Except ε β} :
    (d >>= f).run.Ends log result ↔
      (∃ failure, d.run.Ends log (.error failure) ∧ result = .error failure) ∨
      ∃ first second a, log = first ++ second ∧ d.run.Ends first (.ok a) ∧
        (f a).run.Ends second result := by
  rw [ExceptT.run_bind, ends_bind]
  constructor
  · rintro ⟨first, second, _ | a, rfl, hd, hf⟩
    · obtain ⟨rfl, rfl⟩ := hf
      exact .inl ⟨_, by rwa [List.append_nil], rfl⟩
    · exact .inr ⟨first, second, a, rfl, hd, hf⟩
  · rintro (⟨failure, hd, rfl⟩ | ⟨first, second, a, rfl, hd, hf⟩)
    · exact ⟨log, [], _, (List.append_nil log).symm, hd, rfl, rfl⟩
    · exact ⟨first, second, _, rfl, hd, hf⟩

/-- A log of a dialogue with a function of its result. -/
theorem ends_map_except {d : ExceptT ε (Dialogue Ask Reply) α} {f : α → β}
    {log : List (Entry Reply)} {result : Except ε β} :
    (d >>= fun a => pure (f a)).run.Ends log result ↔
      ∃ outcome, d.run.Ends log outcome ∧ result = outcome.map f := by
  rw [ends_bind_except]
  constructor
  · rintro (⟨failure, hd, rfl⟩ | ⟨first, second, a, rfl, hd, rfl, rfl⟩)
    · exact ⟨.error failure, hd, rfl⟩
    · exact ⟨.ok a, by rwa [List.append_nil], rfl⟩
  · rintro ⟨failure | a, hd, rfl⟩
    · exact .inl ⟨failure, hd, rfl⟩
    · exact .inr ⟨log, [], a, (List.append_nil log).symm, hd, rfl, rfl⟩

/-- A log of a dialogue that cannot fail, followed by one that may. -/
theorem ends_bind_lift {d : Dialogue Ask Reply α} {f : α → ExceptT ε (Dialogue Ask Reply) β}
    {log : List (Entry Reply)} {result : Except ε β} :
    (ExceptT.lift d >>= f).run.Ends log result ↔
      ∃ first second a, log = first ++ second ∧ d.Ends first a ∧ (f a).run.Ends second result := by
  rw [ExceptT.run_bind_lift, ends_bind]

/-- A log of a computation that asks nothing but may fail, followed by a dialogue. -/
theorem ends_bind_outcome {x : Except ε α} {f : α → ExceptT ε (Dialogue Ask Reply) β}
    {log : List (Entry Reply)} {result : Except ε β} :
    ((liftM x : ExceptT ε (Dialogue Ask Reply) α) >>= f).run.Ends log result ↔
      (∃ failure, x = .error failure ∧ log = [] ∧ result = .error failure) ∨
      ∃ a, x = .ok a ∧ (f a).run.Ends log result := by
  cases x with
  | error failure =>
    constructor
    · exact fun h => .inl ⟨failure, rfl, h⟩
    · rintro (⟨_, ⟨⟩, h⟩ | ⟨_, ⟨⟩, _⟩)
      exact h
  | ok a =>
    constructor
    · exact fun h => .inr ⟨a, rfl, h⟩
    · rintro (⟨_, ⟨⟩, _⟩ | ⟨_, ⟨⟩, h⟩)
      exact h

/-- A computation that asks nothing has an empty log. -/
theorem ends_map_outcome {x : Except ε α} {f : α → β} {log : List (Entry Reply)}
    {result : Except ε β} :
    ((liftM x : ExceptT ε (Dialogue Ask Reply) α) >>= fun a => pure (f a)).run.Ends log result ↔
      log = [] ∧ result = x.map f := by
  cases x with
  | error failure => exact ends_pure
  | ok a => exact ends_pure

/-- A log of a dialogue as part of a wider one. -/
theorem ends_within {Ask' : Type} {Reply' : Ask' → Type} {place : Ask → Ask'}
    {back : (request : Ask) → Reply' (place request) → Reply request}
    {d : Dialogue Ask Reply α} {log : List (Entry Reply')} {result : α} :
    (d.within place back).Ends log result ↔
      ∃ inner : List ((request : Ask) × Reply' (place request)),
        log = inner.map (fun e => ⟨place e.1, e.2⟩) ∧
          d.Ends (inner.map fun e => ⟨e.1, back e.1 e.2⟩) result := by
  induction d generalizing log with
  | done a =>
    constructor
    · rintro ⟨rfl, rfl⟩
      exact ⟨[], rfl, rfl, rfl⟩
    · rintro ⟨inner, rfl, hd, rfl⟩
      rw [List.map_eq_nil_iff.1 hd]
      exact ⟨rfl, rfl⟩
  | ask request next ih =>
    constructor
    · rintro ⟨reply, rest, rfl, h⟩
      obtain ⟨inner, rfl, hd⟩ := (ih _).1 h
      exact ⟨⟨request, reply⟩ :: inner, rfl, _, _, rfl, hd⟩
    · rintro ⟨inner, rfl, reply, rest, hlog, hd⟩
      -- The first entry of the inner log holds the wider reply to this request.
      obtain ⟨⟨_, reply'⟩, inner, rfl, heq, rfl⟩ := List.map_eq_cons_iff.1 hlog
      cases heq
      exact ⟨reply', _, rfl, (ih _).2 ⟨inner, rfl, hd⟩⟩

/-- Two dialogues in sequence are part of a wider one if each of them is. -/
theorem within_bind {Ask' : Type} {Reply' : Ask' → Type} {place : Ask → Ask'}
    {back : (request : Ask) → Reply' (place request) → Reply request}
    (d : Dialogue Ask Reply α) (f : α → Dialogue Ask Reply β) :
    (d >>= f).within place back = d.within place back >>= fun a => (f a).within place back := by
  induction d with
  | done a => rfl
  | ask request next ih => exact congrArg (ask _) (funext fun reply => ih _)

/-! ## Only some requests -/

/-- Whatever the outside replies, every request of the dialogue is one of which
    `q` holds. -/
def AsksOnly (q : Ask → Prop) : Dialogue Ask Reply α → Prop
  | done _ => True
  | ask request next => q request ∧ ∀ reply, AsksOnly q (next reply)

variable {q : Ask → Prop}

theorem AsksOnly.of_ends {d : Dialogue Ask Reply α} {log : List (Entry Reply)} {result : α}
    (only : d.AsksOnly q) (h : d.Ends log result) : ∀ e ∈ log, q e.1 := by
  induction d generalizing log with
  | done a =>
    obtain ⟨rfl, -⟩ := h
    simp
  | ask request next ih =>
    obtain ⟨reply, rest, rfl, h⟩ := h
    exact List.forall_mem_cons.2 ⟨only.1, ih reply (only.2 reply) h⟩

theorem AsksOnly.mono {q' : Ask → Prop} {d : Dialogue Ask Reply α} (only : d.AsksOnly q)
    (h : ∀ request, q request → q' request) : d.AsksOnly q' := by
  induction d with
  | done a => trivial
  | ask request next ih => exact ⟨h request only.1, fun reply => ih reply (only.2 reply)⟩

theorem asksOnly_of_forall (h : ∀ request, q request) (d : Dialogue Ask Reply α) :
    d.AsksOnly q := by
  induction d with
  | done a => trivial
  | ask request next ih => exact ⟨h request, ih⟩

theorem asksOnly_pure (a : α) : (pure a : Dialogue Ask Reply α).AsksOnly q := trivial

theorem asksOnly_once {request : Ask} (h : q request) :
    (once request : Dialogue Ask Reply _).AsksOnly q := ⟨h, fun _ => trivial⟩

theorem AsksOnly.bind {d : Dialogue Ask Reply α} {f : α → Dialogue Ask Reply β}
    (only : d.AsksOnly q) (then' : ∀ a, (f a).AsksOnly q) : (d >>= f).AsksOnly q := by
  induction d with
  | done a => exact then' a
  | ask request next ih => exact ⟨only.1, fun reply => ih reply (only.2 reply)⟩

/-- The second of two dialogues is not begun if the first one fails. -/
theorem AsksOnly.bind_except {d : ExceptT ε (Dialogue Ask Reply) α}
    {f : α → ExceptT ε (Dialogue Ask Reply) β} (only : d.run.AsksOnly q)
    (then' : ∀ a, (f a).run.AsksOnly q) : (d >>= f).run.AsksOnly q := by
  rw [ExceptT.run_bind]
  refine only.bind fun outcome => ?_
  rcases outcome with failure | a
  · exact asksOnly_pure _
  · exact then' a

theorem AsksOnly.bind_lift {d : Dialogue Ask Reply α} {f : α → ExceptT ε (Dialogue Ask Reply) β}
    (only : d.AsksOnly q) (then' : ∀ a, (f a).run.AsksOnly q) :
    (ExceptT.lift d >>= f).run.AsksOnly q := by
  rw [ExceptT.run_bind_lift]
  exact only.bind then'

/-- As part of a wider dialogue, a dialogue asks what its requests are there. -/
theorem AsksOnly.within {Ask' : Type} {Reply' : Ask' → Type} {place : Ask → Ask'}
    {back : (request : Ask) → Reply' (place request) → Reply request} {q' : Ask' → Prop}
    {d : Dialogue Ask Reply α} (only : d.AsksOnly fun request => q' (place request)) :
    (d.within place back).AsksOnly q' := by
  induction d with
  | done a => trivial
  | ask request next ih => exact ⟨only.1, fun reply => ih _ (only.2 _)⟩

theorem asksOnly_bind_outcome {x : Except ε α} {f : α → ExceptT ε (Dialogue Ask Reply) β}
    (then' : ∀ a, (f a).run.AsksOnly q) :
    ((liftM x : ExceptT ε (Dialogue Ask Reply) α) >>= f).run.AsksOnly q := by
  cases x with
  | error failure => exact asksOnly_pure _
  | ok a => exact then' a

/-! ## Order -/

/-- Of every entry of the log and the entries before it, `p` holds. -/
def Throughout (p : List (Entry Reply) → Entry Reply → Prop) (log : List (Entry Reply)) : Prop :=
  ∀ before e after, log = before ++ e :: after → p before e

variable {p : List (Entry Reply) → Entry Reply → Prop} {first second : List (Entry Reply)}

theorem throughout_of_forall {log : List (Entry Reply)} (h : ∀ e ∈ log, ∀ before, p before e) :
    Throughout p log := by
  rintro before e after rfl
  exact h e (List.mem_append_right _ List.mem_cons_self) before

theorem throughout_nil : Throughout p [] :=
  throughout_of_forall fun _ among => absurd among List.not_mem_nil

theorem throughout_append (h : Throughout p first)
    (h' : Throughout (fun before => p (first ++ before)) second) :
    Throughout p (first ++ second) := by
  intro before e after split
  rcases List.append_eq_append_iff.1 split with ⟨between, rfl, rest⟩ | ⟨between, rfl, rest⟩
  · exact h' between e after rest
  -- Where nothing is in between, the entry is the first one of the second log.
  · cases between with
    | nil => simpa using h' [] e after rest.symm
    | cons _ between =>
      obtain ⟨rfl, -⟩ := List.cons_eq_cons.1 rest
      exact h before e between rfl

theorem throughout_cons {e : Entry Reply} (h : p [] e)
    (h' : Throughout (fun before => p (e :: before)) second) : Throughout p (e :: second) := by
  intro before e' after split
  cases before with
  | nil =>
    obtain ⟨rfl, -⟩ := List.cons_eq_cons.1 split
    exact h
  | cons _ before =>
    obtain ⟨rfl, rest⟩ := List.cons_eq_cons.1 split
    exact h' before e' after rest

/-! ## Held against a state -/

/-- A state that replies as the log says becomes another one, where `returns` says
    how a request can be replied to and what becomes of the state then. -/
inductive Plays (returns : σ → (request : Ask) → Reply request → σ → Prop) :
    σ → List (Entry Reply) → σ → Prop
  | nil (s : σ) : Plays returns s [] s
  | cons {s s' s'' : σ} {e : Entry Reply} {log : List (Entry Reply)}
      (h : returns s e.1 e.2 s') (rest : Plays returns s' log s'') : Plays returns s (e :: log) s''

variable {returns : σ → (request : Ask) → Reply request → σ → Prop} {s s' : σ}

@[simp] theorem plays_nil : Plays returns s [] s' ↔ s' = s := by
  constructor
  · rintro ⟨⟩
    rfl
  · rintro rfl
    exact .nil _

theorem plays_cons {e : Entry Reply} {log : List (Entry Reply)} :
    Plays returns s (e :: log) s' ↔
      ∃ between, returns s e.1 e.2 between ∧ Plays returns between log s' := by
  constructor
  · rintro (_ | ⟨h, rest⟩)
    exact ⟨_, h, rest⟩
  · rintro ⟨_, h, rest⟩
    exact .cons h rest

@[simp] theorem plays_singleton {e : Entry Reply} :
    Plays returns s [e] s' ↔ returns s e.1 e.2 s' := by
  simp [plays_cons]

theorem plays_append : Plays returns s (first ++ second) s' ↔
    ∃ between, Plays returns s first between ∧ Plays returns between second s' := by
  induction first generalizing s with
  | nil => simp
  | cons e first ih =>
    simp only [List.cons_append, plays_cons, ih]
    constructor
    · rintro ⟨one, h, two, rest, last⟩
      exact ⟨two, ⟨one, h, rest⟩, last⟩
    · rintro ⟨two, ⟨one, h, rest⟩, last⟩
      exact ⟨one, h, two, rest, last⟩

/-- Requests that leave every state as it is do so one after the other. -/
theorem Plays.eq_of_forall {log : List (Entry Reply)} (plays : Plays returns s log s')
    (idle : ∀ e ∈ log, ∀ s s', returns s e.1 e.2 s' → s' = s) : s' = s := by
  induction plays with
  | nil => rfl
  | cons h _ ih =>
    obtain ⟨now, later⟩ := List.forall_mem_cons.1 idle
    rw [ih later, now _ _ h]

/-- If all requests but one leave every state as it is, a state changes by that one only. -/
theorem Plays.single {acts : Entry Reply → Bool} {log : List (Entry Reply)}
    (plays : Plays returns s log s') (once : log.countP acts ≤ 1)
    (idle : ∀ e ∈ log, acts e = false → ∀ s s', returns s e.1 e.2 s' → s' = s) :
    (s' = s ∧ ∀ e ∈ log, acts e = false) ∨
      ∃ before e after, log = before ++ e :: after ∧ returns s e.1 e.2 s' ∧
        ∀ other ∈ log, acts other = true → other = e := by
  by_cases acting : ∃ e ∈ log, acts e = true
  case neg =>
    have still : ∀ e ∈ log, acts e = false :=
      fun e among => Bool.eq_false_iff.2 fun does => acting ⟨e, among, does⟩
    exact .inl ⟨plays.eq_of_forall fun e among => idle e among (still e among), still⟩
  obtain ⟨e, among, does⟩ := acting
  obtain ⟨before, after, rfl⟩ := List.append_of_mem among
  rw [List.countP_append, List.countP_cons_of_pos does] at once
  have none (part : List (Entry Reply)) (h : part.countP acts = 0) :
      ∀ e ∈ part, acts e = false :=
    fun e he => Bool.eq_false_iff.2 (List.countP_eq_zero.1 h e he)
  have first := none before (by omega)
  have last := none after (by omega)
  obtain ⟨between, opens, onward⟩ := plays_append.1 plays
  obtain ⟨between', acted, closes⟩ := plays_cons.1 onward
  obtain rfl := opens.eq_of_forall fun e he => idle e (by simp [he]) (first e he)
  obtain rfl := closes.eq_of_forall fun e he => idle e (by simp [he]) (last e he)
  refine .inr ⟨before, e, after, rfl, acted, fun other ho does => ?_⟩
  rcases List.mem_append.1 ho with ho | ho
  · rw [first other ho] at does
    cases does
  · rcases List.mem_cons.1 ho with rfl | ho
    · rfl
    · rw [last other ho] at does
      cases does

end RingOperator.Dialogue
