import Mathlib.Init

/-!
Contract: clients that ask a shared service one question after another.

Owns client programs, the talks they can have with a service that others use at the same
time, under a condition on what is asked if there is one, what a client ensures whatever
the others do, and the rules for it; and the one talk with a service that nobody else
uses.

Does not own: any particular service, and how a question reaches it.
-/

namespace Foundation

/-- A client returns a value, breaks off, or asks and goes on from the answer, if there
is one. -/
inductive Client (Q A V : Type) where
  | done (value : V)
  | abort
  | ask (question : Q) (next : Option A → Client Q A V)

namespace Client

variable {Q A V W S : Type}

def bind : Client Q A V → (V → Client Q A W) → Client Q A W
  | done value, next => next value
  | abort, _ => abort
  | ask question rest, next => ask question fun answer => (rest answer).bind next

instance : Monad (Client Q A) where
  pure := done
  bind := bind

/-- Ask and return the answer. -/
def request (question : Q) : Client Q A (Option A) := ask question done

/-- The others move between the questions; an exchange leads from the state in which
the question is sent to the one in which its answer is there. -/
structure Service (S Q A : Type) where
  moves : S → S → Prop
  exchange : S → Q → Option A → S → Prop

/-- The same service, asked only where the condition holds. -/
def Service.under (service : Service S Q A) (condition : S → Q → Prop) : Service S Q A where
  moves := service.moves
  exchange state question answer next :=
    condition state question ∧ service.exchange state question answer next

/-- A talk of a client that returns. -/
inductive Talk (service : Service S Q A) : S → Client Q A V → S → V → Prop
  | done (state : S) (value : V) : Talk service state (.done value) state value
  | wait {state next final : S} {client : Client Q A V} {value : V}
      (moved : service.moves state next) (rest : Talk service next client final value) :
      Talk service state client final value
  | ask {state next final : S} {question : Q} {answer : Option A}
      {rest : Option A → Client Q A V} {value : V}
      (answered : service.exchange state question answer next)
      (later : Talk service next (rest answer) final value) :
      Talk service state (.ask question rest) final value

/-- Whatever the others do, a client that is started under `pre` and returns has brought
about `post`. -/
def Ensures (service : Service S Q A) (pre : S → Prop) (client : Client Q A V)
    (post : V → S → Prop) : Prop :=
  ∀ state final value, pre state → Talk service state client final value → post value final

/-- The others do not disturb the property. -/
def Stable (service : Service S Q A) (property : S → Prop) : Prop :=
  ∀ state next, service.moves state next → property state → property next

variable {service : Service S Q A} {pre stronger : S → Prop} {client : Client Q A V}
  {next : V → Client Q A W} {post : V → S → Prop} {last : W → S → Prop}

/-- Nobody disturbs what does not depend on the state. -/
theorem Stable.and_fact (stable : Stable service pre) (fact : Prop) :
    Stable service fun state => pre state ∧ fact :=
  fun _ _ moved holds => ⟨stable _ _ moved holds.1, holds.2⟩

/-- A talk of a sequence is one of its first part and one of the second. -/
private theorem Talk.bind {state final : S} {value : W}
    (talk : Talk service state (client.bind next) final value) :
    ∃ middle result, Talk service state client middle result ∧
      Talk service middle (next result) final value := by
  generalize whole : client.bind next = sequence at talk
  induction talk generalizing client with
  | done state value =>
      cases client with
      | done first =>
          have same : next first = .done value := whole
          exact ⟨state, first, .done state first, same ▸ .done state value⟩
      | abort => exact absurd whole (by simp [Client.bind])
      | ask question rest => exact absurd whole (by simp [Client.bind])
  | wait moved _ inductionHypothesis =>
      obtain ⟨middle, result, first, second⟩ := inductionHypothesis whole
      exact ⟨middle, result, .wait moved first, second⟩
  | @ask state _ _ question answer rest _ answered later inductionHypothesis =>
      cases client with
      | done first =>
          have same : next first = .ask question rest := whole
          exact ⟨state, first, .done state first, same ▸ .ask answered later⟩
      | abort => exact absurd whole (by simp [Client.bind])
      | ask asked continues =>
          obtain ⟨rfl, rfl⟩ := Client.ask.inj whole
          obtain ⟨middle, result, first, second⟩ := inductionHypothesis rfl
          exact ⟨middle, result, .ask answered first, second⟩

theorem ensures_pure {value : V} (stable : Stable service (post value))
    (holds : ∀ state, pre state → post value state) :
    Ensures service pre (pure value) post := by
  intro state final result met talk
  replace met := holds state met
  change Talk service state (.done value) final result at talk
  generalize client : (.done value : Client Q A V) = program at talk
  induction talk with
  | done state other =>
      obtain rfl := Client.done.inj client
      exact met
  | wait moved _ inductionHypothesis => exact inductionHypothesis (stable _ _ moved met) client
  | ask => exact absurd client (by simp)

theorem ensures_abort : Ensures service pre (abort : Client Q A V) post := by
  intro state final result met talk
  clear met
  generalize client : (abort : Client Q A V) = program at talk
  induction talk with
  | done => exact absurd client (by simp)
  | wait _ _ inductionHypothesis => exact inductionHypothesis client
  | ask => exact absurd client (by simp)

/-- A client is as good as its parts. -/
theorem Ensures.bind (first : Ensures service pre client post)
    (second : ∀ value, Ensures service (post value) (next value) last) :
    Ensures service pre (client >>= next) last := by
  intro state final value met talk
  obtain ⟨middle, result, begins, continues⟩ := Talk.bind talk
  exact second result _ _ _ (first _ _ _ met begins) continues

theorem Ensures.mono {weaker : V → S → Prop} (ensures : Ensures service pre client post)
    (before : ∀ state, stronger state → pre state)
    (after : ∀ value state, post value state → weaker value state) :
    Ensures service stronger client weaker := by
  intro state final value met talk
  exact after value final (ensures _ _ _ (before state met) talk)

/-- A question: what the others leave alone before it, what the answer tells, and what
they leave alone after it. -/
theorem ensures_request {question : Q} {post : Option A → S → Prop} (waiting : Stable service pre)
    (answered : ∀ {state answer next}, pre state → service.exchange state question answer next →
      post answer next)
    (stable : ∀ answer, Stable service (post answer)) :
    Ensures service pre (request question) post := by
  intro state final result met talk
  change Talk service state (.ask question .done) final result at talk
  generalize client : (.ask question .done : Client Q A (Option A)) = program at talk
  induction talk with
  | done => exact absurd client (by simp)
  | wait moved _ inductionHypothesis => exact inductionHypothesis (waiting _ _ moved met) client
  | ask exchanged later =>
      obtain ⟨rfl, rfl⟩ := Client.ask.inj client
      exact ensures_pure (stable _) (fun _ holds => holds) _ _ _ (answered met exchanged) later

/-- What neither the others nor any question disturbs stays. -/
theorem ensures_kept {kept : S → Prop} (client : Client Q A V) (stable : Stable service kept)
    (exchanged : ∀ {state question answer next}, service.exchange state question answer next →
      kept state → kept next) :
    Ensures service kept client fun _ => kept := by
  intro state final value met talk
  induction talk with
  | done => exact met
  | wait moved _ inductionHypothesis => exact inductionHypothesis (stable _ _ moved met)
  | ask answered _ inductionHypothesis => exact inductionHypothesis (exchanged answered met)

/-! ## One talk -/

/-- The client talks to a service that answers at once if it answers, and nobody else
moves. -/
def run (serve : Q → S → Option (A × S)) : Client Q A V → S → Option (V × S)
  | .done value, state => some (value, state)
  | .abort, _ => none
  | .ask question next, state =>
      match serve question state with
      | some (answer, after) => (next (some answer)).run serve after
      | none => none

/-- A sequence runs its first part and goes on from there. -/
theorem run_bind (serve : Q → S → Option (A × S)) (state : S) :
    (client >>= next).run serve state =
      (client.run serve state).bind fun result => (next result.1).run serve result.2 := by
  induction client generalizing state with
  | done value => rfl
  | abort => rfl
  | ask question rest inductionHypothesis =>
      change run serve (.ask question fun answer => rest answer >>= next) state = _
      cases served : serve question state with
      | none => simp only [run, served, Option.bind_none]
      | some answered =>
          have later := inductionHypothesis (some answered.1) answered.2
          simp only [run, served]
          exact later

theorem talk_of_run (serve : Q → S → Option (A × S))
    (serves : ∀ question state answer after, serve question state = some (answer, after) →
      service.exchange state question (some answer) after)
    {state : S} {result : V × S} (ran : client.run serve state = some result) :
    Talk service state client result.2 result.1 := by
  induction client generalizing state with
  | done value =>
      obtain rfl := Option.some.inj ran
      exact .done state value
  | abort => exact absurd ran (by simp [run])
  | ask question rest inductionHypothesis =>
      unfold run at ran
      cases served : serve question state with
      | none => simp [served] at ran
      | some answered =>
          rw [served] at ran
          exact .ask (serves question state _ _ served) (inductionHypothesis _ ran)

end Client

end Foundation
