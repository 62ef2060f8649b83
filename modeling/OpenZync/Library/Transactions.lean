import Mathlib.Logic.Function.Basic
import OpenZync.Library.Execution

/-!
# Interleaved transactions

Transactions over one committed store, scheduled in any order.  Each runs a
program that reads the committed store and its own phase, takes advisory and
row locks one at a time, and holds them to its end.  What it writes is seen by
nobody before it commits, so the writes are part of the commit; a program that
writes a row takes the lock of the row first.
-/

namespace OpenZync.Library

/-- What a transaction does when it is scheduled. -/
inductive Move (σ ϕ α ρ : Type) where
  /-- Nothing is left to do. -/
  | stay
  /-- A step that takes no lock. -/
  | go (phase : ϕ)
  /-- Blocks until the key is free. -/
  | lockAdvisory (key : α) (phase : ϕ)
  /-- Blocks until the row is free. -/
  | lockRow (row : ρ) (phase : ϕ)
  | commit (store : σ)
  | abort

/-- What a move has to establish: the local invariant of the phase it leads to,
or, for a commit, the invariant of the store and that no row is disturbed that
the transaction does not hold. -/
def Move.Sound {σ ϕ α ρ : Type} (Store : σ → Prop) (Undisturbed : (ρ → Prop) → σ → σ → Prop)
    (Local : σ → (ρ → Prop) → ϕ → Prop) (store : σ) (held : ρ → Prop) :
    Move σ ϕ α ρ → Prop
  | .stay => True
  | .go phase => Local store held phase
  | .lockAdvisory _ phase => Local store held phase
  | .lockRow row phase => Local store (fun other => other = row ∨ held other) phase
  | .commit store' => Store store' ∧ Undisturbed held store store'
  | .abort => True

/-- The same with the other transactions left to the caller: `Others` is what
they need of the store a commit leaves. -/
def Move.Keeps {σ ϕ α ρ : Type} (Store Others : σ → Prop)
    (Local : σ → (ρ → Prop) → ϕ → Prop) (store : σ) (held : ρ → Prop) :
    Move σ ϕ α ρ → Prop
  | .stay => True
  | .go phase => Local store held phase
  | .lockAdvisory _ phase => Local store held phase
  | .lockRow row phase => Local store (fun other => other = row ∨ held other) phase
  | .commit store' => Store store' ∧ Others store'
  | .abort => True

theorem Move.Sound.keeps {σ ϕ α ρ : Type} {Store Others : σ → Prop}
    {Undisturbed : (ρ → Prop) → σ → σ → Prop} {Local : σ → (ρ → Prop) → ϕ → Prop} {store : σ}
    {held : ρ → Prop} {move : Move σ ϕ α ρ}
    (sound : move.Sound Store Undisturbed Local store held)
    (framed : ∀ store', Undisturbed held store store' → Others store') :
    move.Keeps Store Others Local store held := by
  cases move with
  | commit store' => exact ⟨sound.1, framed store' sound.2⟩
  | stay => exact sound
  | go phase => exact sound
  | lockAdvisory key phase => exact sound
  | lockRow row phase => exact sound
  | abort => exact sound

/-- A move leads to a phase that needs the advisory locks of the phase it comes
from, or the one it takes. -/
def Move.Acquires {σ ϕ α ρ : Type} (needs : ϕ → Option α) (phase : ϕ) : Move σ ϕ α ρ → Prop
  | .go next => ∀ key, needs next = some key → needs phase = some key
  | .lockRow _ next => ∀ key, needs next = some key → needs phase = some key
  | .lockAdvisory taken next =>
      ∀ key, needs next = some key → key = taken ∨ needs phase = some key
  | _ => True

/-- The committed store after a move. -/
def Move.result {σ ϕ α ρ : Type} (store : σ) : Move σ ϕ α ρ → σ
  | .commit store' => store'
  | _ => store

/-- The scheduler picks a transaction, or one fails. -/
inductive Action (τ : Type) where
  | advance (transaction : τ)
  | abort (transaction : τ)
  deriving DecidableEq

/-- The committed store, the phase of every transaction and the holders of the
locks. -/
structure Database (σ ϕ α ρ τ : Type) where
  committed : σ
  phase : τ → ϕ
  advisory : α → Option τ
  rows : ρ → Option τ

/-- The locks left when a transaction ends. -/
def release {κ τ : Type} [DecidableEq τ] (holder : κ → Option τ) (transaction : τ) :
    κ → Option τ :=
  fun key => if holder key = some transaction then none else holder key

theorem release_of_ne {κ τ : Type} [DecidableEq τ] {holder : κ → Option τ}
    {transaction other : τ} (different : other ≠ transaction) (key : κ) :
    release holder transaction key = some other ↔ holder key = some other := by
  rw [release]
  split
  · rename_i held
    simp [held, Ne.symm different]
  · rfl

namespace Database

variable {σ ϕ α ρ τ : Type}

/-- Every transaction is in its first phase. -/
def start (store : σ) (first : ϕ) : Database σ ϕ α ρ τ :=
  { committed := store
    phase := fun _ => first
    advisory := fun _ => none
    rows := fun _ => none }

variable [DecidableEq α] [DecidableEq ρ] [DecidableEq τ]

/-- End a transaction with `store` committed. -/
def finish (database : Database σ ϕ α ρ τ) (transaction : τ) (last : ϕ) (store : σ) :
    Database σ ϕ α ρ τ :=
  { committed := store
    phase := Function.update database.phase transaction last
    advisory := release database.advisory transaction
    rows := release database.rows transaction }

/-- Let a transaction take its next move.  A lock that another transaction
holds blocks it. -/
def advance (program : τ → σ → ϕ → Move σ ϕ α ρ) (last : ϕ)
    (database : Database σ ϕ α ρ τ) (transaction : τ) : Database σ ϕ α ρ τ :=
  match program transaction database.committed (database.phase transaction) with
  | .stay => database
  | .go phase =>
      { database with phase := Function.update database.phase transaction phase }
  | .lockAdvisory key phase =>
      if database.advisory key = none ∨ database.advisory key = some transaction then
        { database with
          phase := Function.update database.phase transaction phase
          advisory := Function.update database.advisory key (some transaction) }
      else database
  | .lockRow row phase =>
      if database.rows row = none ∨ database.rows row = some transaction then
        { database with
          phase := Function.update database.phase transaction phase
          rows := Function.update database.rows row (some transaction) }
      else database
  | .commit store => database.finish transaction last store
  | .abort => database.finish transaction last database.committed

def perform (program : τ → σ → ϕ → Move σ ϕ α ρ) (last : ϕ)
    (database : Database σ ϕ α ρ τ) : Action τ → Database σ ϕ α ρ τ
  | .advance transaction => database.advance program last transaction
  | .abort transaction => database.finish transaction last database.committed

/-- Who is to take a lock that another transaction holds waits. -/
theorem advance_of_blocked {program : τ → σ → ϕ → Move σ ϕ α ρ} {last : ϕ}
    {database : Database σ ϕ α ρ τ} {transaction : τ} {key : α} {phase : ϕ}
    (next : program transaction database.committed (database.phase transaction) =
      .lockAdvisory key phase)
    (taken : ¬ (database.advisory key = none ∨ database.advisory key = some transaction)) :
    database.advance program last transaction = database := by
  rw [advance, next]
  exact if_neg taken

theorem advance_committed (program : τ → σ → ϕ → Move σ ϕ α ρ) (last : ϕ)
    (database : Database σ ϕ α ρ τ) (transaction : τ) :
    (database.advance program last transaction).committed =
      (program transaction database.committed (database.phase transaction)).result
        database.committed := by
  rw [advance]
  split
  · rename_i next
    rw [next]
    rfl
  · rename_i phase next
    rw [next]
    rfl
  · rename_i key phase next
    rw [next]
    split
    · rfl
    · rfl
  · rename_i row phase next
    rw [next]
    split
    · rfl
    · rfl
  · rename_i store next
    rw [next]
    rfl
  · rename_i next
    rw [next]
    rfl

/-- An invariant of the committed store together with one of every
transaction, which may speak of the committed store and of the rows the
transaction holds. -/
structure Consistent (Store : σ → Prop) (Local : τ → σ → (ρ → Prop) → ϕ → Prop)
    (database : Database σ ϕ α ρ τ) : Prop where
  store : Store database.committed
  transactions : ∀ transaction, Local transaction database.committed
    (fun row => database.rows row = some transaction) (database.phase transaction)

section Invariant

variable {program : τ → σ → ϕ → Move σ ϕ α ρ} {last : ϕ}
variable {Store : σ → Prop} {Local : τ → σ → (ρ → Prop) → ϕ → Prop}
variable {database : Database σ ϕ α ρ τ}

omit [DecidableEq α] [DecidableEq ρ] in
/-- Ending a transaction keeps the other ones consistent when their local
invariants survive the new store. -/
theorem Consistent.finish {store : σ} (transaction : τ) (stored : Store store)
    (ended : ∀ held, Local transaction store held last)
    (others : ∀ other, other ≠ transaction → Local other store
      (fun row => database.rows row = some other) (database.phase other)) :
    (database.finish transaction last store).Consistent Store Local := by
  refine ⟨stored, ?_⟩
  intro other
  by_cases same : other = transaction
  · subst same
    simp only [Database.finish, Function.update_self]
    exact ended _
  · simp only [Database.finish, Function.update_of_ne same, release_of_ne same]
    exact others other same

theorem Consistent.step (consistent : database.Consistent Store Local) (action : Action τ)
    (ended : ∀ transaction store held, Local transaction store held last)
    (kept : ∀ transaction, action = .advance transaction →
      (program transaction database.committed (database.phase transaction)).Keeps Store
        (fun store => ∀ other, other ≠ transaction → Local other store
          (fun row => database.rows row = some other) (database.phase other))
        (Local transaction) database.committed fun row => database.rows row = some transaction) :
    (database.perform program last action).Consistent Store Local := by
  have aborted : ∀ transaction,
      (database.finish transaction last database.committed).Consistent Store Local :=
    fun transaction => Consistent.finish transaction consistent.store
      (ended transaction _) fun other _ => consistent.transactions other
  cases action with
  | abort transaction => exact aborted transaction
  | advance transaction =>
      have move := kept transaction rfl
      rw [Database.perform, Database.advance]
      split
      · exact consistent
      · rename_i phase next
        refine ⟨consistent.store, fun other => ?_⟩
        by_cases same : other = transaction
        · subst same
          rw [next] at move
          simpa only [Function.update_self, Move.Keeps] using move
        · simpa only [Function.update_of_ne same] using consistent.transactions other
      · rename_i key phase next
        split
        · refine ⟨consistent.store, fun other => ?_⟩
          by_cases same : other = transaction
          · subst same
            rw [next] at move
            simpa only [Function.update_self, Move.Keeps] using move
          · simpa only [Function.update_of_ne same] using consistent.transactions other
        · exact consistent
      · rename_i row phase next
        split
        · rename_i free
          refine ⟨consistent.store, fun other => ?_⟩
          by_cases same : other = transaction
          · subst same
            have holds : (fun key => Function.update database.rows row (some other) key =
                some other) = fun key => key = row ∨ database.rows key = some other := by
              funext key
              by_cases equal : key = row
              · simp [equal]
              · simp [equal]
            rw [next] at move
            simpa only [Function.update_self, holds, Move.Keeps] using move
          · have holds : (fun key => Function.update database.rows row (some transaction)
                key = some other) = fun key => database.rows key = some other := by
              funext key
              by_cases equal : key = row
              · subst equal
                rcases free with free | own
                · simp [free, Ne.symm same]
                · simp [own, Ne.symm same]
              · simp [equal]
            simpa only [Function.update_of_ne same, holds] using
              consistent.transactions other
        · exact consistent
      · rename_i store next
        rw [next] at move
        exact Consistent.finish transaction move.1 (ended transaction store) move.2
      · exact aborted transaction

/-- Sound moves keep the database consistent, when a local invariant survives
every change to rows that other transactions hold. -/
theorem Consistent.perform (consistent : database.Consistent Store Local)
    (Undisturbed : (ρ → Prop) → σ → σ → Prop) (action : Action τ)
    (ended : ∀ transaction store held, Local transaction store held last)
    (sound : ∀ transaction, action = .advance transaction →
      (program transaction database.committed (database.phase transaction)).Sound
        Store Undisturbed (Local transaction) database.committed
        fun row => database.rows row = some transaction)
    (framed : ∀ transaction store (held own : ρ → Prop) phase,
      (∀ row, own row → ¬ held row) → Undisturbed held database.committed store →
      Local transaction database.committed own phase → Local transaction store own phase) :
    (database.perform program last action).Consistent Store Local := by
  apply consistent.step action ended
  intro transaction scheduled
  apply (sound transaction scheduled).keeps
  intro store undisturbed other different
  apply framed other store _ _ _ _ undisturbed (consistent.transactions other)
  intro row own held
  rw [own] at held
  exact different (Option.some.inj held)

end Invariant

/-- Every transaction holds the advisory lock that its phase needs. -/
def HoldsNeeded (needs : τ → ϕ → Option α) (database : Database σ ϕ α ρ τ) : Prop :=
  ∀ transaction key, needs transaction (database.phase transaction) = some key →
    database.advisory key = some transaction

namespace HoldsNeeded

variable {program : τ → σ → ϕ → Move σ ϕ α ρ} {last : ϕ} {needs : τ → ϕ → Option α}
variable {database : Database σ ϕ α ρ τ}

omit [DecidableEq α] [DecidableEq ρ] [DecidableEq τ] in
/-- No two transactions are in phases that need one lock. -/
theorem unique (holds : database.HoldsNeeded needs) {first second : τ} {key : α}
    (one : needs first (database.phase first) = some key)
    (other : needs second (database.phase second) = some key) : first = second :=
  Option.some.inj ((holds first key one).symm.trans (holds second key other))

omit [DecidableEq α] [DecidableEq ρ] in
theorem finish (holds : database.HoldsNeeded needs) (transaction : τ) (store : σ)
    (ended : needs transaction last = none) :
    (database.finish transaction last store).HoldsNeeded needs := by
  intro other key needed
  by_cases same : other = transaction
  · subst same
    simp [Database.finish, ended] at needed
  · simp only [Database.finish, Function.update_of_ne same] at needed
    exact (release_of_ne same key).mpr (holds other key needed)

theorem perform (holds : database.HoldsNeeded needs) (action : Action τ)
    (ended : ∀ transaction, needs transaction last = none)
    (acquires : ∀ transaction store phase,
      (program transaction store phase).Acquires (needs transaction) phase) :
    (database.perform program last action).HoldsNeeded needs := by
  have moves : ∀ transaction phase,
      (∀ key, needs transaction phase = some key →
        needs transaction (database.phase transaction) = some key) →
      ∀ other key, needs other (Function.update database.phase transaction phase other) =
        some key → database.advisory key = some other := by
    intro transaction phase acquired other key needed
    by_cases same : other = transaction
    · subst same
      rw [Function.update_self] at needed
      exact holds other key (acquired key needed)
    · rw [Function.update_of_ne same] at needed
      exact holds other key needed
  cases action with
  | abort transaction => exact holds.finish transaction _ (ended transaction)
  | advance transaction =>
      have move := acquires transaction database.committed (database.phase transaction)
      rw [Database.perform, Database.advance]
      split
      · exact holds
      · rename_i phase next
        rw [next] at move
        exact moves transaction phase move
      · rename_i taken phase next
        rw [next] at move
        split
        · rename_i free
          intro other key needed
          by_cases same : other = transaction
          · subst same
            simp only [Function.update_self] at needed
            by_cases equal : key = taken
            · simp [equal]
            · simp only [Function.update_of_ne equal]
              exact holds other key ((move key needed).resolve_left equal)
          · simp only [Function.update_of_ne same] at needed
            have held := holds other key needed
            have different : key ≠ taken := by
              rintro rfl
              rcases free with free | own
              · simp [free] at held
              · exact same (Option.some.inj (held.symm.trans own))
            simp only [Function.update_of_ne different]
            exact held
        · exact holds
      · rename_i row phase next
        rw [next] at move
        split
        · exact moves transaction phase move
        · exact holds
      · exact holds.finish transaction _ (ended transaction)
      · exact holds.finish transaction _ (ended transaction)

end HoldsNeeded

end Database

end OpenZync.Library
