import Mathlib.Data.Option.Basic

/-!
# Rows under READ COMMITTED

A transaction sees the committed version of a row, or its own write to it.  A
row that it has written is locked until its transaction ends, so each row has
one uncommitted version at most.  What holds of every version that is written
holds of every version that is ever read.
-/

namespace OpenZync.Library

/-- A row with the write of the transaction that has locked it. -/
structure Cell (τ α : Type) where
  committed : α
  uncommitted : Option (τ × α)

namespace Cell

variable {τ α : Type}

/-- A row that nobody has locked. -/
def free (value : α) : Cell τ α :=
  { committed := value
    uncommitted := none }

def write (cell : Cell τ α) (writer : τ) (value : α) : Cell τ α :=
  { cell with uncommitted := some (writer, value) }

variable [DecidableEq τ]

/-- What the transaction sees. -/
def read (cell : Cell τ α) (reader : τ) : α :=
  match cell.uncommitted with
  | some (writer, value) => if writer = reader then value else cell.committed
  | none => cell.committed

/-- Another transaction has locked the row. -/
def lockedFor (cell : Cell τ α) (reader : τ) : Bool :=
  match cell.uncommitted with
  | some (writer, _) => decide (writer ≠ reader)
  | none => false

def commit (cell : Cell τ α) (writer : τ) : Cell τ α :=
  match cell.uncommitted with
  | some (owner, value) => if owner = writer then free value else cell
  | none => cell

def rollBack (cell : Cell τ α) (writer : τ) : Cell τ α :=
  match cell.uncommitted with
  | some (owner, _) => if owner = writer then free cell.committed else cell
  | none => cell

/-- Each version of the row satisfies the condition. -/
structure Holds (condition : α → Prop) (cell : Cell τ α) : Prop where
  committed : condition cell.committed
  uncommitted : ∀ written ∈ cell.uncommitted, condition written.2

namespace Holds

variable {condition : α → Prop} {cell : Cell τ α}

omit [DecidableEq τ] in
theorem free {value : α} (holds : condition value) : (free value : Cell τ α).Holds condition :=
  ⟨holds, by intro written none; cases none⟩

omit [DecidableEq τ] in
theorem write (holds : cell.Holds condition) (writer : τ) {value : α} (added : condition value) :
    (cell.write writer value).Holds condition := by
  refine ⟨holds.committed, ?_⟩
  intro written found
  cases found
  exact added

theorem read (holds : cell.Holds condition) (reader : τ) : condition (cell.read reader) := by
  unfold Cell.read
  split
  · rename_i written
    split
    · exact holds.uncommitted _ written
    · exact holds.committed
  · exact holds.committed

theorem commit (holds : cell.Holds condition) (writer : τ) :
    (cell.commit writer).Holds condition := by
  unfold Cell.commit
  split
  · rename_i written
    split
    · exact .free (holds.uncommitted _ written)
    · exact holds
  · exact holds

theorem rollBack (holds : cell.Holds condition) (writer : τ) :
    (cell.rollBack writer).Holds condition := by
  unfold Cell.rollBack
  split
  · split
    · exact .free holds.committed
    · exact holds
  · exact holds

omit [DecidableEq τ] in
theorem mono (holds : cell.Holds condition) {weaker : α → Prop}
    (weakens : ∀ value, condition value → weaker value) : cell.Holds weaker :=
  ⟨weakens _ holds.committed, fun written found => weakens _ (holds.uncommitted written found)⟩

end Holds

/-- What a write keeps: where the committed version satisfies the condition, the uncommitted
one does. -/
def Keeps (condition : α → Prop) (cell : Cell τ α) : Prop :=
  condition cell.committed → ∀ written ∈ cell.uncommitted, condition written.2

namespace Keeps

variable {condition : α → Prop} {cell : Cell τ α}

omit [DecidableEq τ] in
theorem free (value : α) : (free value : Cell τ α).Keeps condition := by
  intro holds written none
  cases none

theorem read (keeps : cell.Keeps condition) (holds : condition cell.committed) (reader : τ) :
    condition (cell.read reader) :=
  Holds.read ⟨holds, keeps holds⟩ reader

theorem write (keeps : cell.Keeps condition) {writer : τ} {value : α}
    (computed : condition (cell.read writer) → condition value) :
    (cell.write writer value).Keeps condition := by
  intro holds written found
  cases found
  exact computed (keeps.read holds writer)

theorem commit (keeps : cell.Keeps condition) (writer : τ) :
    (cell.commit writer).Keeps condition := by
  unfold Cell.commit
  split
  · split
    · exact Keeps.free _
    · exact keeps
  · exact keeps

theorem rollBack (keeps : cell.Keeps condition) (writer : τ) :
    (cell.rollBack writer).Keeps condition := by
  unfold Cell.rollBack
  split
  · split
    · exact Keeps.free _
    · exact keeps
  · exact keeps

theorem committed_commit (keeps : cell.Keeps condition) (holds : condition cell.committed)
    (writer : τ) : condition (cell.commit writer).committed :=
  (Holds.commit ⟨holds, keeps holds⟩ writer).committed

end Keeps

@[simp] theorem committed_rollBack (cell : Cell τ α) (writer : τ) :
    (cell.rollBack writer).committed = cell.committed := by
  unfold rollBack
  split
  · split
    · rfl
    · rfl
  · rfl

end Cell

end OpenZync.Library
