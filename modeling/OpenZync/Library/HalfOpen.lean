import Mathlib.Order.Max
import Mathlib.Order.MinMax
import Mathlib.Tactic.Tauto

/-!
# Half-open ranges

A range is closed below and open above, and either end may be missing.  Ranges
are compared by their ends alone: a range has a point when its ends are in
order, and two ranges have a point in common when all four pairs of a lower and
an upper end are.
-/

namespace OpenZync.Library

structure HalfOpen (α : Type) where
  lower : Option α
  upper : Option α
  deriving DecidableEq

namespace HalfOpen

variable {α : Type}

/-- What holds of the merged end holds of both ends. -/
theorem forall_mem_merge {combine : α → α → α} {P : α → Prop}
    (both : ∀ x y, P (combine x y) ↔ P x ∧ P y) (first second : Option α) :
    (∀ x ∈ Option.merge combine first second, P x) ↔
      (∀ x ∈ first, P x) ∧ ∀ x ∈ second, P x := by
  cases first <;> cases second <;> simp [Option.merge, both]

variable [LinearOrder α]

def Contains (range : HalfOpen α) (t : α) : Prop :=
  (∀ start ∈ range.lower, start ≤ t) ∧ ∀ stop ∈ range.upper, t < stop

instance (range : HalfOpen α) (t : α) : Decidable (range.Contains t) :=
  inferInstanceAs (Decidable (_ ∧ _))

/-- The lower end lies strictly before the upper one. -/
def Proper (range : HalfOpen α) : Prop :=
  ∀ start ∈ range.lower, ∀ stop ∈ range.upper, start < stop

instance (range : HalfOpen α) : Decidable range.Proper :=
  inferInstanceAs (Decidable (∀ start ∈ range.lower, ∀ stop ∈ range.upper, start < stop))

/-- The range between the later lower end and the earlier upper one. -/
def inter (left right : HalfOpen α) : HalfOpen α :=
  { lower := Option.merge max left.lower right.lower
    upper := Option.merge min left.upper right.upper }

/-- The ranges have a point in common. -/
def Meets (left right : HalfOpen α) : Prop :=
  ∃ t, left.Contains t ∧ right.Contains t

variable {left right range : HalfOpen α} {t : α}

@[simp] theorem contains_inter :
    (left.inter right).Contains t ↔ left.Contains t ∧ right.Contains t := by
  unfold Contains inter
  rw [forall_mem_merge (fun x y => max_le_iff), forall_mem_merge (fun x y => lt_min_iff)]
  exact and_and_and_comm

theorem Contains.proper (inside : range.Contains t) : range.Proper := by
  intro start isLower stop isUpper
  exact lt_of_le_of_lt (inside.1 start isLower) (inside.2 stop isUpper)

/-- A range whose ends are in order has a point. -/
theorem Proper.exists_contains [NoMinOrder α] [Nonempty α] (proper : range.Proper) :
    ∃ t, range.Contains t := by
  obtain ⟨lower, upper⟩ := range
  cases lower with
  | some start =>
      refine ⟨start, ?_, ?_⟩
      · intro other isLower
        rw [Option.mem_some_iff.mp isLower]
      · intro stop isUpper
        exact proper start rfl stop isUpper
  | none =>
      cases upper with
      | some stop =>
          obtain ⟨before, isBefore⟩ := exists_lt stop
          exact ⟨before, by simp, by simpa using isBefore⟩
      | none =>
          obtain ⟨anywhere⟩ := ‹Nonempty α›
          exact ⟨anywhere, by simp, by simp⟩

theorem exists_contains_iff [NoMinOrder α] [Nonempty α] :
    (∃ t, range.Contains t) ↔ range.Proper := by
  constructor
  · rintro ⟨t, inside⟩
    exact inside.proper
  · exact Proper.exists_contains

theorem proper_inter :
    (left.inter right).Proper ↔
      left.Proper ∧ right.Proper ∧ (mk left.lower right.upper).Proper ∧
        (mk right.lower left.upper).Proper := by
  have upper : ∀ start : α, (∀ stop ∈ (left.inter right).upper, start < stop) ↔
      (∀ stop ∈ left.upper, start < stop) ∧ ∀ stop ∈ right.upper, start < stop :=
    fun start => forall_mem_merge (fun x y => lt_min_iff) left.upper right.upper
  have split : (left.inter right).Proper ↔
      (∀ start ∈ left.lower, ∀ stop ∈ (left.inter right).upper, start < stop) ∧
        ∀ start ∈ right.lower, ∀ stop ∈ (left.inter right).upper, start < stop := by
    apply forall_mem_merge
    intro x y
    simp only [max_lt_iff, ← forall_and]
  rw [split]
  simp only [upper, Proper, imp_and, forall_and]
  tauto

/-- Whether two ranges have a common point is decided by their ends. -/
theorem meets_iff [NoMinOrder α] [Nonempty α] :
    left.Meets right ↔
      left.Proper ∧ right.Proper ∧ (mk left.lower right.upper).Proper ∧
        (mk right.lower left.upper).Proper := by
  rw [← proper_inter, ← exists_contains_iff]
  simp only [Meets, contains_inter]

end HalfOpen

end OpenZync.Library
