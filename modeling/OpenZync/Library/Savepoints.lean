import Mathlib.Data.List.Basic

/-!
# Nested transactions

Operations on a session with savepoints, and what they make of an effect that
was queued somewhere in between.  `fate` follows a single effect through the
operations after it; `EffectLevels` keeps one queue per open level and runs
them at the outermost commit.  The two agree.

A transaction whose settings live as long as it does.  A change made inside a
savepoint survives its release and is undone by its rollback; a statement that
fails aborts the transaction, which then rejects every statement until it is
rolled back, as a whole or to a savepoint.
-/

namespace OpenZync.Library

universe u

variable {ε : Type u}

/-- Operations on a session.  Without an open savepoint, `release` and
`rollbackNested` do nothing. -/
inductive SessionOperation (ε : Type u) where
  | queue (effect : ε)
  | beginNested
  | release
  | rollbackNested
  | commit
  | rollback
deriving DecidableEq

/-- What has become of a queued effect. -/
inductive EffectFate where
  | pending
  | due
  | dropped
deriving DecidableEq

/-- Effects that share a fate run together or not at all. -/
def EffectFate.keep (effects : List ε) : EffectFate → List ε
  | .due => effects
  | .pending => []
  | .dropped => []

@[simp] theorem EffectFate.keep_due (effects : List ε) :
    EffectFate.due.keep effects = effects := rfl

@[simp] theorem EffectFate.keep_pending (effects : List ε) :
    EffectFate.pending.keep effects = [] := rfl

@[simp] theorem EffectFate.keep_dropped (effects : List ε) :
    EffectFate.dropped.keep effects = [] := rfl

@[simp] theorem EffectFate.keep_nil (outcome : EffectFate) :
    outcome.keep ([] : List ε) = [] := by
  cases outcome <;> rfl

@[simp] theorem EffectFate.keep_append (outcome : EffectFate) (first second : List ε) :
    outcome.keep (first ++ second) = outcome.keep first ++ outcome.keep second := by
  cases outcome <;> rfl

/-- Follow one effect through the operations after it: `inside` savepoints
were opened since it was queued, `around` it are still open. -/
def fate (inside around : Nat) : List (SessionOperation ε) → EffectFate
  | [] => .pending
  | .queue _ :: rest => fate inside around rest
  | .beginNested :: rest => fate (inside + 1) around rest
  | .release :: rest =>
      if 0 < inside then fate (inside - 1) around rest
      else fate 0 (around - 1) rest
  | .rollbackNested :: rest =>
      if 0 < inside then fate (inside - 1) around rest
      else if 0 < around then .dropped
      else fate 0 0 rest
  | .commit :: _ => .due
  | .rollback :: _ => .dropped

/-- The effects whose outermost transaction was committed and none of whose
savepoints was rolled back, in the order they were queued. -/
def dueEffects (depth : Nat) : List (SessionOperation ε) → List ε
  | [] => []
  | .queue effect :: rest =>
      (fate 0 depth rest).keep [effect] ++ dueEffects depth rest
  | .beginNested :: rest => dueEffects (depth + 1) rest
  | .release :: rest => dueEffects (depth - 1) rest
  | .rollbackNested :: rest => dueEffects (depth - 1) rest
  | .commit :: rest => dueEffects 0 rest
  | .rollback :: rest => dueEffects 0 rest

/-- One queue for each open level, `outer` from the inside out. -/
structure EffectLevels (ε : Type u) where
  current : List ε
  outer : List (List ε)
  ran : List ε

namespace EffectLevels

def start : EffectLevels ε :=
  { current := []
    outer := []
    ran := [] }

/-- Everything that waits for the outermost commit. -/
def pending (levels : EffectLevels ε) : List ε :=
  levels.outer.reverse.flatten ++ levels.current

def step (levels : EffectLevels ε) : SessionOperation ε → EffectLevels ε
  | .queue effect => { levels with current := levels.current ++ [effect] }
  | .beginNested =>
      { levels with
        current := []
        outer := levels.current :: levels.outer }
  | .release =>
      match levels.outer with
      | [] => levels
      | parent :: outer =>
          { levels with
            current := parent ++ levels.current
            outer := outer }
  | .rollbackNested =>
      match levels.outer with
      | [] => levels
      | parent :: outer =>
          { levels with
            current := parent
            outer := outer }
  | .commit =>
      { current := []
        outer := []
        ran := levels.ran ++ levels.pending }
  | .rollback =>
      { levels with
        current := []
        outer := [] }

end EffectLevels

/-- The effects of some levels, the innermost first, that later operations
make due. -/
def survivors (rest : List (SessionOperation ε)) : Nat → List (List ε) → List ε
  | _, [] => []
  | inside, level :: outer =>
      survivors rest (inside + 1) outer ++ (fate inside outer.length rest).keep level

section Survivors

attribute [local simp] survivors fate

variable (rest : List (SessionOperation ε)) (inside : Nat) (levels : List (List ε))

theorem survivors_nil : survivors ([] : List (SessionOperation ε)) inside levels = [] := by
  induction levels generalizing inside with
  | nil => rfl
  | cons level outer induction => simp [induction]

theorem survivors_queue (effect : ε) :
    survivors (.queue effect :: rest) inside levels = survivors rest inside levels := by
  induction levels generalizing inside with
  | nil => rfl
  | cons level outer induction => simp [induction]

theorem survivors_beginNested :
    survivors (.beginNested :: rest) inside levels = survivors rest (inside + 1) levels := by
  induction levels generalizing inside with
  | nil => rfl
  | cons level outer induction => simp [induction]

theorem survivors_release :
    survivors (.release :: rest) (inside + 1) levels = survivors rest inside levels := by
  induction levels generalizing inside with
  | nil => rfl
  | cons level outer induction => simp [induction]

theorem survivors_rollbackNested :
    survivors (.rollbackNested :: rest) (inside + 1) levels =
      survivors rest inside levels := by
  induction levels generalizing inside with
  | nil => rfl
  | cons level outer induction => simp [induction]

theorem survivors_commit :
    survivors (.commit :: rest) inside levels = levels.reverse.flatten := by
  induction levels generalizing inside with
  | nil => rfl
  | cons level outer induction => simp [induction]

theorem survivors_rollback : survivors (.rollback :: rest) inside levels = [] := by
  induction levels generalizing inside with
  | nil => rfl
  | cons level outer induction => simp [induction]

end Survivors

/-- From any levels on, what runs is what already ran, then the waiting
effects that survive, then the due effects queued later. -/
theorem EffectLevels.run_ran (levels : EffectLevels ε)
    (operations : List (SessionOperation ε)) :
    (operations.foldl EffectLevels.step levels).ran =
      levels.ran ++ survivors operations 0 (levels.current :: levels.outer) ++
        dueEffects levels.outer.length operations := by
  induction operations generalizing levels with
  | nil => simp [survivors_nil, dueEffects]
  | cons operation rest induction =>
      rw [List.foldl_cons, induction]
      cases operation with
      | queue effect =>
          simp [EffectLevels.step, dueEffects, survivors, survivors_queue, fate]
      | beginNested =>
          simp [EffectLevels.step, dueEffects, survivors, survivors_beginNested, fate]
      | release =>
          cases opened : levels.outer with
          | nil => simp [EffectLevels.step, opened, dueEffects, survivors, fate]
          | cons parent outer =>
              simp [EffectLevels.step, opened, dueEffects, survivors, survivors_release,
                fate]
      | rollbackNested =>
          cases opened : levels.outer with
          | nil => simp [EffectLevels.step, opened, dueEffects, survivors, fate]
          | cons parent outer =>
              simp [EffectLevels.step, opened, dueEffects, survivors,
                survivors_rollbackNested, fate]
      | commit =>
          simp [EffectLevels.step, EffectLevels.pending, dueEffects, survivors,
            survivors_commit, fate]
      | rollback =>
          simp [EffectLevels.step, dueEffects, survivors, survivors_rollback, fate]

theorem EffectLevels.ran_eq_dueEffects (operations : List (SessionOperation ε)) :
    (operations.foldl EffectLevels.step EffectLevels.start).ran =
      dueEffects 0 operations := by
  rw [EffectLevels.run_ran]
  simp [EffectLevels.start, survivors]

/-- The settings in force, and those that were in force at every open
savepoint, innermost first. -/
structure LocalTransaction (σ : Type u) where
  settings : σ
  aborted : Bool
  savepoints : List σ

namespace LocalTransaction

variable {σ : Type u}

def start (unset : σ) : LocalTransaction σ :=
  { settings := unset
    aborted := false
    savepoints := [] }

def abort (transaction : LocalTransaction σ) : LocalTransaction σ :=
  { transaction with aborted := true }

/-- Run a statement that changes the settings.  It is rejected by an aborted
transaction and may fail for reasons of its own; the error carries the
transaction that is left. -/
def execute (change : σ → σ) (fails : Bool) (transaction : LocalTransaction σ) :
    Except (LocalTransaction σ) (LocalTransaction σ) :=
  if transaction.aborted || fails then .error transaction.abort
  else .ok { transaction with settings := change transaction.settings }

def savepoint (fails : Bool) (transaction : LocalTransaction σ) :
    Except (LocalTransaction σ) (LocalTransaction σ) :=
  if transaction.aborted || fails then .error transaction.abort
  else .ok { transaction with savepoints := transaction.settings :: transaction.savepoints }

/-- Roll back to the innermost savepoint, which ends it. -/
def rollbackTo (transaction : LocalTransaction σ) : LocalTransaction σ :=
  match transaction.savepoints with
  | [] => transaction
  | saved :: outer =>
      { settings := saved
        aborted := false
        savepoints := outer }

/-- Release the innermost savepoint; where the release fails, the savepoint is
rolled back. -/
def release (fails : Bool) (transaction : LocalTransaction σ) : LocalTransaction σ :=
  if transaction.aborted || fails then transaction.rollbackTo
  else { transaction with savepoints := transaction.savepoints.tail }

/-- A statement is rejected or changes the settings, and nothing else. -/
theorem execute_cases (change : σ → σ) (fails : Bool) (transaction : LocalTransaction σ) :
    transaction.execute change fails = .error transaction.abort ∨
      transaction.aborted = false ∧ transaction.execute change fails =
        .ok { transaction with settings := change transaction.settings } := by
  rw [execute]
  split
  · exact .inl rfl
  · rename_i running
    simp only [Bool.or_eq_true, not_or, Bool.not_eq_true] at running
    exact .inr ⟨running.1, rfl⟩

end LocalTransaction

end OpenZync.Library
