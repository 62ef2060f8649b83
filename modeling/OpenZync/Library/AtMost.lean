import Mathlib.Data.Finset.Card
import Mathlib.Data.Fintype.Powerset

/-!
# Bounded predicates

A predicate that holds of at most so many elements of a type that may be
infinite.
-/

namespace OpenZync.Library

def AtMost {ρ : Type} (bound : Nat) (Holds : ρ → Prop) : Prop :=
  ∀ holders : Finset ρ, (∀ element ∈ holders, Holds element) → holders.card ≤ bound

instance AtMost.decidable {ρ : Type} [DecidableEq ρ] [Fintype ρ] (bound : Nat)
    (Holds : ρ → Prop) [DecidablePred Holds] : Decidable (AtMost bound Holds) :=
  inferInstanceAs (Decidable (∀ _ : Finset ρ, _ → _))

namespace AtMost

variable {ρ : Type} {bound bound' : Nat} {Holds Holds' : ρ → Prop}

theorem mono (atMost : AtMost bound Holds) (implied : ∀ element, Holds' element → Holds element)
    (larger : bound ≤ bound') : AtMost bound' Holds' := by
  intro holders held
  apply Nat.le_trans _ larger
  exact atMost holders fun element member => implied element (held element member)

theorem of_none (none : ∀ element, ¬ Holds element) : AtMost bound Holds := by
  intro holders held
  have empty : holders = ∅ := by
    apply Finset.eq_empty_of_forall_notMem
    intro element member
    exact none element (held element member)
  rw [empty, Finset.card_empty]
  exact Nat.zero_le bound

theorem insert [DecidableEq ρ] (atMost : AtMost bound Holds) (added : ρ)
    (implied : ∀ element, element ≠ added → Holds' element → Holds element) :
    AtMost (bound + 1) Holds' := by
  intro holders held
  have others : (holders.erase added).card ≤ bound := by
    apply atMost
    intro element member
    obtain ⟨different, held'⟩ := Finset.mem_erase.mp member
    exact implied element different (held element held')
  have removed := Finset.pred_card_le_card_erase (s := holders) (a := added)
  omega

end AtMost

end OpenZync.Library
