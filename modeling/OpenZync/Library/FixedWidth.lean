import Mathlib.Data.Ordering.Basic
import Mathlib.Order.Compare
import Mathlib.Order.Defs.LinearOrder
import Mathlib.Tactic.Linarith

/-!
# Fields of a fixed width

Lists are compared position by position.  Where two lists begin with fields of
the same length, the first fields decide unless they are equal, and numbers in
a positional notation are compared the same way.
-/

namespace OpenZync.Library

section Lists

variable {α : Type} [Ord α]

theorem compare_append {first second : List α} (rest rest' : List α)
    (sameLength : first.length = second.length) :
    compare (first ++ rest) (second ++ rest') =
      (compare first second).then (compare rest rest') := by
  induction first generalizing second with
  | nil =>
      cases List.length_eq_zero_iff.mp sameLength.symm
      rfl
  | cons head first induction =>
      cases second with
      | nil => cases sameLength
      | cons head' second =>
          rw [List.cons_append, List.cons_append, List.compare_cons_cons,
            List.compare_cons_cons, induction (Nat.succ.inj sameLength), Ordering.then_assoc]

theorem compare_cons_self [Std.ReflOrd α] (head : α) (rest rest' : List α) :
    compare (head :: rest) (head :: rest') = compare rest rest' := by
  have same : compare head head = .eq := Std.ReflCmp.compare_self
  rw [List.compare_cons_cons, same, Ordering.eq_then]

end Lists

theorem compare_add_left (shared first second : Nat) :
    compare (shared + first) (shared + second) = compare first second := by
  simp [compare, compareOfLessAndEq]

/-- The higher digit decides unless it is the same. -/
theorem compare_positional {base low low' : Nat} (high high' : Nat) (bound : low < base)
    (bound' : low' < base) :
    compare (high * base + low) (high' * base + low') =
      (compare high high').then (compare low low') := by
  rcases Nat.lt_trichotomy high high' with less | rfl | greater
  · have carried : (high + 1) * base ≤ high' * base := Nat.mul_le_mul_right base less
    rw [Nat.compare_eq_lt.mpr less, Ordering.lt_then, Nat.compare_eq_lt]
    linarith
  · rw [Nat.compare_eq_eq.mpr rfl, Ordering.eq_then]
    rcases Nat.lt_trichotomy low low' with less | rfl | greater
    · rw [Nat.compare_eq_lt.mpr less, Nat.compare_eq_lt]
      omega
    · rw [Nat.compare_eq_eq.mpr rfl, Nat.compare_eq_eq.mpr rfl]
    · rw [Nat.compare_eq_gt.mpr greater, Nat.compare_eq_gt]
      omega
  · have carried : (high' + 1) * base ≤ high * base := Nat.mul_le_mul_right base greater
    rw [Nat.compare_eq_gt.mpr greater, Ordering.gt_then, Nat.compare_eq_gt]
    linarith

end OpenZync.Library
