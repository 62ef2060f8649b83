import Mathlib.Data.List.Induction

/-!
# Sliding windows

Events with a time, some of which are admitted.  When an event is admitted only
if few events came within the length of the window before it, then few are
admitted in any interval of that length, wherever it begins.
-/

namespace OpenZync.Library

section Windows

variable {ρ : Type} {time : ρ → Int} {Admitted : ρ → Prop} [DecidablePred Admitted]
  {length : Int} {bound : Nat}

/-- The events that came after `now - length`. -/
def recent (time : ρ → Int) (length now : Int) (events : List ρ) : List ρ :=
  events.filter fun event => now - length < time event

/-- An admitted event has fewer than `bound` recent events before it. -/
def Sparse (time : ρ → Int) (Admitted : ρ → Prop) (length : Int) (bound : Nat)
    (events : List ρ) : Prop :=
  ∀ before event after, events = before ++ event :: after → Admitted event →
    (recent time length (time event) before).length < bound

/-- No two times in the set are a whole window apart. -/
def Narrow (length : Int) (inside : Int → Prop) : Prop :=
  ∀ first last, inside first → inside last → last - length < first

omit [DecidablePred Admitted] in
theorem Sparse.initial {events : List ρ} {last : ρ}
    (sparse : Sparse time Admitted length bound (events ++ [last])) :
    Sparse time Admitted length bound events := by
  intro before event after split admitted
  apply sparse before event (after ++ [last]) _ admitted
  rw [split, List.append_assoc, List.cons_append]

theorem Sparse.countP_le {events : List ρ} (sparse : Sparse time Admitted length bound events)
    {inside : Int → Prop} [DecidablePred inside] (narrow : Narrow length inside) :
    (events.countP fun event => decide (Admitted event ∧ inside (time event))) ≤ bound := by
  induction events using List.reverseRecOn with
  | nil => exact Nat.zero_le bound
  | append_singleton events last induction =>
      have before := induction sparse.initial
      rw [List.countP_append, List.countP_singleton]
      by_cases counted : Admitted last ∧ inside (time last)
      · have few := sparse events last [] rfl counted.1
        have earlier : (events.countP fun event =>
            decide (Admitted event ∧ inside (time event))) ≤
            (recent time length (time last) events).length := by
          rw [recent, ← List.countP_eq_length_filter]
          apply List.countP_mono_left
          intro event _ held
          have inside' := (of_decide_eq_true held).2
          exact decide_eq_true (narrow _ _ inside' counted.2)
        rw [if_pos (decide_eq_true counted)]
        exact Nat.succ_le_of_lt (Nat.lt_of_le_of_lt earlier few)
      · rw [if_neg (by simpa using counted)]
        exact before

/-- A half-open interval of the length of the window, closed on the left. -/
theorem narrow_Ico (length start : Int) :
    Narrow length fun time => start ≤ time ∧ time < start + length := by
  intro first last inside inside'
  omega

theorem narrow_Ioc (length start : Int) :
    Narrow length fun time => start < time ∧ time ≤ start + length := by
  intro first last inside inside'
  omega

end Windows

end OpenZync.Library
