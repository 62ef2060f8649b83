import Mathlib.Data.List.Basic

/-!
# Attempts

Computations on a state that may fail and whose effects stay when they do, as
those of a program on the outside world: what was done before the failure is
not undone.  `Meets` is a triple with one postcondition for a return and one
for a failure, and the rules below take a program apart along its structure.
-/

namespace OpenZync.Library

/-- A computation on a state.  The state it leaves is that of a return or of a
failure. -/
def Attempt (σ ε α : Type) : Type :=
  σ → σ × Except ε α

namespace Attempt

variable {σ ε α β ι : Type}

instance : Monad (Attempt σ ε) where
  pure value := fun state => (state, .ok value)
  bind first next := fun state =>
    match first state with
    | (after, .error failure) => (after, .error failure)
    | (after, .ok value) => next value after

/-- `raise` -/
def fail (failure : ε) : Attempt σ ε α :=
  fun state => (state, .error failure)

def read (part : σ → α) : Attempt σ ε α :=
  fun state => (state, .ok (part state))

def change (effect : σ → σ) : Attempt σ ε Unit :=
  fun state => (effect state, .ok ())

/-- `try: ... except: ...` -/
def handle (attempt : Attempt σ ε α) (handler : ε → Attempt σ ε α) : Attempt σ ε α :=
  fun state =>
    match attempt state with
    | (after, .error failure) => handler failure after
    | (after, .ok value) => (after, .ok value)

/-- A result that is known without the state. -/
def ofExcept (result : Except ε α) : Attempt σ ε α :=
  fun state => (state, result)

/-- What becomes of a request to another store: `lost` is carried out without its
answer coming back. -/
inductive Fate where
  | answered
  | refused
  | lost
deriving DecidableEq

/-- A request to another store. -/
def remote (fate : Fate) (failure : ε) (effect : σ → σ) : Attempt σ ε Unit :=
  match fate with
  | .answered => change effect
  | .refused => fail failure
  | .lost => do
      change effect
      fail failure

/-- A program on a part of the state, whose failures are among those of the
whole. -/
def within {τ ρ : Type} (part : τ → σ) (put : τ → σ → τ) (wrap : ε → ρ)
    (attempt : Attempt σ ε α) : Attempt τ ρ α :=
  fun state =>
    match attempt (part state) with
    | (after, .error failure) => (put state after, .error (wrap failure))
    | (after, .ok value) => (put state after, .ok value)

/-- A `for` loop that carries a value. -/
def fold (body : α → ι → Attempt σ ε α) : α → List ι → Attempt σ ε α
  | value, [] => pure value
  | value, item :: items => do
      let next ← body value item
      fold body next items

/-- What comes after a return starts with its value. -/
theorem bind_of_ok {first : Attempt σ ε α} {next : α → Attempt σ ε β} {state after : σ}
    {value : α} (ran : first state = (after, .ok value)) :
    (first >>= next) state = next value after := by
  change (match first state with
    | (after, .error failure) => (after, Except.error failure)
    | (after, .ok value) => next value after) = _
  rw [ran]

theorem bind_of_error {first : Attempt σ ε α} {next : α → Attempt σ ε β}
    {state after : σ} {failure : ε} (ran : first state = (after, .error failure)) :
    (first >>= next) state = (after, .error failure) := by
  change (match first state with
    | (after, .error failure) => (after, Except.error failure)
    | (after, .ok value) => next value after) = _
  rw [ran]

theorem read_bind {part : σ → α} {next : α → Attempt σ ε β} {state : σ} :
    (read part >>= next) state = next (part state) state :=
  rfl

theorem change_bind {effect : σ → σ} {next : Unit → Attempt σ ε β} {state : σ} :
    (change effect >>= next) state = next () (effect state) :=
  rfl

theorem remote_answered {fate : Fate} (answered : fate = .answered) (failure : ε)
    (effect : σ → σ) (state : σ) : remote fate failure effect state = (effect state, .ok ()) := by
  rw [answered]
  rfl

theorem handle_of_ok {attempt : Attempt σ ε α} {handler : ε → Attempt σ ε α} {state after : σ}
    {value : α} (ran : attempt state = (after, .ok value)) :
    attempt.handle handler state = (after, .ok value) := by
  rw [handle, ran]

theorem handle_of_error {attempt : Attempt σ ε α} {handler : ε → Attempt σ ε α}
    {state after : σ} {failure : ε} (ran : attempt state = (after, .error failure)) :
    attempt.handle handler state = handler failure after := by
  rw [handle, ran]

/-- From a state that meets the precondition, a return meets the one
postcondition and a failure the other. -/
def Meets (before : σ → Prop) (attempt : Attempt σ ε α) (returned : α → σ → Prop)
    (failed : ε → σ → Prop) : Prop :=
  ∀ state, before state →
    match attempt state with
    | (after, .ok value) => returned value after
    | (after, .error failure) => failed failure after

variable {before middle : σ → Prop} {returned returned' : α → σ → Prop}
  {failed failed' : ε → σ → Prop} {attempt : Attempt σ ε α}

theorem Meets.of_ok {state after : σ} {value : α}
    (meets : Meets before attempt returned failed) (start : before state)
    (ran : attempt state = (after, .ok value)) : returned value after := by
  have outcome := meets state start
  rw [ran] at outcome
  exact outcome

theorem Meets.weaken (meets : Meets before attempt returned failed)
    (stronger : ∀ state, middle state → before state)
    (onReturn : ∀ value state, returned value state → returned' value state)
    (onFailure : ∀ failure state, failed failure state → failed' failure state) :
    Meets middle attempt returned' failed' := by
  intro state start
  have outcome := meets state (stronger state start)
  split at outcome
  · exact onReturn _ _ outcome
  · exact onFailure _ _ outcome

theorem meets_pure (value : α) (already : ∀ state, before state → returned value state) :
    Meets before (pure value) returned failed :=
  fun state start => already state start

theorem meets_fail (failure : ε) (already : ∀ state, before state → failed failure state) :
    Meets before (fail failure) returned failed :=
  fun state start => already state start

theorem meets_change {effect : σ → σ} {done : Unit → σ → Prop}
    (changes : ∀ state, before state → done () (effect state)) :
    Meets before (change effect) done failed :=
  fun state start => changes state start

theorem meets_ite {condition : Prop} [Decidable condition] {other : Attempt σ ε α}
    (holds : condition → Meets before attempt returned failed)
    (fails : ¬ condition → Meets before other returned failed) :
    Meets before (if condition then attempt else other) returned failed := by
  by_cases chosen : condition
  · rw [if_pos chosen]
    exact holds chosen
  · rw [if_neg chosen]
    exact fails chosen

theorem Meets.bind {next : α → Attempt σ ε β} {last : β → σ → Prop}
    (first : Meets before attempt returned failed)
    (second : ∀ value, Meets (returned value) (next value) last failed) :
    Meets before (attempt >>= next) last failed := by
  intro state start
  have outcome := first state start
  change match (match attempt state with
    | (after, .error failure) => (after, Except.error failure)
    | (after, .ok value) => next value after) with
    | (after, .ok value) => last value after
    | (after, .error failure) => failed failure after
  split at outcome
  · rename_i after value ran
    rw [ran]
    exact second value after outcome
  · rename_i after failure ran
    rw [ran]
    exact outcome

theorem Meets.handle {handler : ε → Attempt σ ε α} {stopped : ε → σ → Prop}
    (tried : Meets before attempt returned stopped)
    (handled : ∀ failure, Meets (stopped failure) (handler failure) returned failed) :
    Meets before (attempt.handle handler) returned failed := by
  intro state start
  have outcome := tried state start
  unfold Attempt.handle
  split at outcome
  · rename_i after value ran
    rw [ran]
    exact outcome
  · rename_i after failure ran
    rw [ran]
    exact handled failure after outcome

theorem meets_change_bind {effect : σ → σ} {next : Unit → Attempt σ ε β}
    {last : β → σ → Prop} (middle : σ → Prop)
    (changes : ∀ state, before state → middle (effect state))
    (rest : Meets middle (next ()) last failed) :
    Meets before (change effect >>= next) last failed := by
  have changing : Meets before (change effect) (fun _ => middle) failed :=
    meets_change changes
  exact changing.bind fun _ => rest

theorem meets_read {part : σ → α} {next : α → Attempt σ ε β} {last : β → σ → Prop}
    (rest : ∀ value, Meets (fun state => before state ∧ part state = value) (next value) last
      failed) :
    Meets before (read part >>= next) last failed := by
  have reading : Meets before (read part)
      (fun value state => before state ∧ part state = value) failed :=
    fun state start => ⟨start, rfl⟩
  exact reading.bind rest

theorem meets_ofExcept {result : Except ε α} {next : α → Attempt σ ε β} {last : β → σ → Prop}
    (rest : ∀ value, result = .ok value → Meets before (next value) last failed)
    (stops : ∀ failure, result = .error failure → ∀ state, before state →
      failed failure state) :
    Meets before (ofExcept result >>= next) last failed := by
  intro state start
  cases known : result with
  | ok value => exact rest value known state start
  | error failure => exact stops failure known state start

/-- A request that is carried out has its effect, whether or not it is answered. -/
theorem meets_remote {fate : Fate} {failure : ε} {effect : σ → σ} {done : Unit → σ → Prop}
    (answered : fate = .answered → ∀ state, before state → done () (effect state))
    (refused : fate = .refused → ∀ state, before state → failed failure state)
    (lost : fate = .lost → ∀ state, before state → failed failure (effect state)) :
    Meets before (remote fate failure effect) done failed := by
  intro state start
  cases fate with
  | answered => exact answered rfl state start
  | refused => exact refused rfl state start
  | lost => exact lost rfl state start

/-- A request and what comes after its answer. -/
theorem meets_remote_bind {fate : Fate} {failure : ε} {effect : σ → σ}
    {next : Unit → Attempt σ ε β} {last : β → σ → Prop} (middle : σ → Prop)
    (answered : fate = .answered → ∀ state, before state → middle (effect state))
    (refused : fate = .refused → ∀ state, before state → failed failure state)
    (lost : fate = .lost → ∀ state, before state → failed failure (effect state))
    (rest : Meets middle (next ()) last failed) :
    Meets before (remote fate failure effect >>= next) last failed := by
  have request : Meets before (remote fate failure effect) (fun _ => middle) failed :=
    meets_remote answered refused lost
  exact request.bind fun _ => rest

/-- The part is left as its program leaves it. -/
theorem Meets.within {τ ρ : Type} {part : τ → σ} {put : τ → σ → τ} {wrap : ε → ρ}
    {start : τ → Prop} {done : α → τ → Prop} {stopped : ρ → τ → Prop}
    (meets : Meets before attempt returned failed)
    (begins : ∀ state, start state → before (part state))
    (ends : ∀ state after value, start state → returned value after → done value (put state after))
    (stops : ∀ state after failure, start state → failed failure after →
      stopped (wrap failure) (put state after)) :
    Meets start (attempt.within part put wrap) done stopped := by
  intro state begun
  have outcome := meets (part state) (begins state begun)
  unfold Attempt.within
  split at outcome
  · rename_i after value ran
    rw [ran]
    exact ends state after value begun outcome
  · rename_i after failure ran
    rw [ran]
    exact stops state after failure begun outcome

/-- A loop preserves what each of its steps does; the invariant speaks about the
items that are done. -/
theorem Meets.fold {body : α → ι → Attempt σ ε α} {items : List ι}
    (invariant : List ι → α → σ → Prop) (failed : ε → σ → Prop)
    (step : ∀ done item rest, items = done ++ item :: rest → ∀ value,
      Meets (invariant done value) (body value item) (invariant (done ++ [item])) failed)
    (value : α) :
    Meets (invariant [] value) (fold body value items) (invariant items) failed := by
  suffices general : ∀ rest done, items = done ++ rest → ∀ value,
      Meets (invariant done value) (Attempt.fold body value rest) (invariant items) failed from
    general items [] rfl value
  intro rest
  induction rest with
  | nil =>
      intro done whole value
      rw [List.append_nil] at whole
      subst whole
      exact meets_pure value fun _ start => start
  | cons item rest induction =>
      intro done whole value
      exact (step done item rest whole value).bind fun next =>
        induction (done ++ [item]) (by simp [whole]) next

end Attempt

end OpenZync.Library
