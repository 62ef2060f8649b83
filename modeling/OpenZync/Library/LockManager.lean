import Mathlib.Data.List.Pairwise
import Mathlib.Logic.Function.Basic
import Mathlib.Logic.Relation
import Mathlib.Order.Basic
import OpenZync.Library.Execution

/-!
# Transaction-scoped locks

A lock manager with exclusive, re-entrant locks that a transaction keeps until
it ends.  Every transaction requests the locks of its program in order.  A
cycle of waiting transactions yields a cycle of locks, each first requested
while the one before is held; programs that admit no such cycle never
deadlock, in any interleaving.
-/

namespace OpenZync.Library

universe u v w

/-- The locks a transaction was granted, in order, and those it still has to
request. -/
structure LockState (τ : Type u) (κ : Type v) where
  granted : τ → List κ
  pending : τ → List κ

namespace LockState

variable {τ : Type u} {κ : Type v}

def start (program : τ → List κ) : LockState τ κ :=
  { granted := fun _ => []
    pending := program }

section

variable [DecidableEq τ]

/-- The next request of `transaction` is granted. -/
def grant (state : LockState τ κ) (transaction : τ) (lock : κ) (rest : List κ) :
    LockState τ κ :=
  { granted := Function.update state.granted transaction
      (state.granted transaction ++ [lock])
    pending := Function.update state.pending transaction rest }

/-- The transaction commits or rolls back and releases its locks. -/
def finish (state : LockState τ κ) (transaction : τ) : LockState τ κ :=
  { granted := Function.update state.granted transaction []
    pending := Function.update state.pending transaction [] }

inductive Step : LockState τ κ → LockState τ κ → Prop where
  | grant {state : LockState τ κ} {transaction : τ} {lock : κ} {rest : List κ}
      (next : state.pending transaction = lock :: rest)
      (free : ∀ other, other ≠ transaction → lock ∉ state.granted other) :
      Step state (state.grant transaction lock rest)
  | finish {state : LockState τ κ} (transaction : τ) :
      Step state (state.finish transaction)

/-- The states some interleaving of the programs reaches. -/
def Reachable (program : τ → List κ) (state : LockState τ κ) : Prop :=
  Relation.ReflTransGen Step (start program) state

end

/-- The next request of the transaction is for a lock it does not hold. -/
def Wants (state : LockState τ κ) (transaction : τ) (lock : κ) : Prop :=
  lock ∉ state.granted transaction ∧ ∃ rest, state.pending transaction = lock :: rest

/-- The transaction waits for a lock that `holder` holds. -/
def WaitsFor (state : LockState τ κ) (transaction holder : τ) : Prop :=
  ∃ lock, state.Wants transaction lock ∧ lock ∈ state.granted holder

theorem Wants.unique {state : LockState τ κ} {transaction : τ} {first second : κ}
    (left : state.Wants transaction first) (right : state.Wants transaction second) :
    first = second := by
  obtain ⟨_, rest, pending⟩ := left
  obtain ⟨_, rest', pending'⟩ := right
  rw [pending] at pending'
  cases pending'
  rfl

end LockState

/-- Some program first requests `later` when it has already requested
`earlier`. -/
def Precedes {τ : Type u} {κ : Type v} (program : τ → List κ) (earlier later : κ) : Prop :=
  ∃ transaction before after, program transaction = before ++ later :: after ∧
    later ∉ before ∧ earlier ∈ before

/-- No lock is requested, through however many programs, after itself. -/
def CycleFree {τ : Type u} {κ : Type v} (program : τ → List κ) : Prop :=
  ∀ lock, ¬ Relation.TransGen (Precedes program) lock lock

theorem cycleFree_of_rank {τ : Type u} {κ : Type v} {ρ : Type w} [Preorder ρ]
    {program : τ → List κ} (rank : κ → ρ)
    (increasing : ∀ earlier later, Precedes program earlier later →
      rank earlier < rank later) : CycleFree program := by
  intro lock cycle
  have climbs : ∀ {last}, Relation.TransGen (Precedes program) lock last →
      rank lock < rank last := by
    intro last path
    induction path with
    | single step => exact increasing _ _ step
    | tail _ step induction => exact induction.trans (increasing _ _ step)
  exact lt_irrefl _ (climbs cycle)

namespace LockState

variable {τ : Type u} {κ : Type v} [DecidableEq τ] {program : τ → List κ}

/-- A transaction that has not ended is somewhere in its program. -/
def InProgram (program : τ → List κ) (state : LockState τ κ) : Prop :=
  ∀ transaction,
    state.granted transaction ++ state.pending transaction = program transaction ∨
      state.granted transaction = [] ∧ state.pending transaction = []

theorem InProgram.step {state next : LockState τ κ} (within : InProgram program state)
    (taken : Step state next) : InProgram program next := by
  cases taken with
  | @grant actor lock rest request _ =>
      intro transaction
      by_cases same : transaction = actor
      · subst same
        left
        rcases within transaction with running | ⟨_, ended⟩
        · rw [← running, request]
          simp [grant]
        · rw [request] at ended
          cases ended
      · simpa [grant, Function.update_of_ne same] using within transaction
  | finish actor =>
      intro transaction
      by_cases same : transaction = actor
      · subst same
        right
        simp [finish]
      · simpa [finish, Function.update_of_ne same] using within transaction

theorem InProgram.of_reachable {state : LockState τ κ}
    (reached : Reachable program state) : InProgram program state := by
  apply invariant_of_run (fun within taken => InProgram.step within taken) reached
  intro transaction
  exact .inl rfl

omit [DecidableEq τ] in
/-- What a waiting transaction holds precedes what it wants. -/
theorem InProgram.precedes {state : LockState τ κ} (within : InProgram program state)
    {transaction : τ} {held wanted : κ} (holds : held ∈ state.granted transaction)
    (wants : state.Wants transaction wanted) : Precedes program held wanted := by
  obtain ⟨fresh, rest, pending⟩ := wants
  rcases within transaction with running | ⟨ended, _⟩
  · rw [pending] at running
    exact ⟨transaction, state.granted transaction, rest, running.symm, fresh, holds⟩
  · rw [ended] at holds
    cases holds

omit [DecidableEq τ] in
/-- A chain of waiting transactions is a chain of locks. -/
theorem InProgram.chain {state : LockState τ κ} (within : InProgram program state)
    {first last : τ} (waits : Relation.TransGen state.WaitsFor first last)
    {wanted final : κ} (firstWants : state.Wants first wanted)
    (lastWants : state.Wants last final) :
    Relation.TransGen (Precedes program) wanted final := by
  induction waits generalizing final with
  | single wait =>
      obtain ⟨lock, wants, held⟩ := wait
      rw [firstWants.unique wants]
      exact .single (within.precedes held lastWants)
  | tail _ wait induction =>
      obtain ⟨lock, wants, held⟩ := wait
      exact (induction wants).tail (within.precedes held lastWants)

theorem no_wait_cycle (cycleFree : CycleFree program) {state : LockState τ κ}
    (reached : Reachable program state) (transaction : τ) :
    ¬ Relation.TransGen state.WaitsFor transaction transaction := by
  intro cycle
  obtain ⟨next, wait, _⟩ := Relation.TransGen.head'_iff.mp cycle
  obtain ⟨lock, wants, _⟩ := wait
  apply cycleFree lock
  exact (InProgram.of_reachable reached).chain cycle wants wants

end LockState

end OpenZync.Library
