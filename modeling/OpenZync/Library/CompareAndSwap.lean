import Mathlib.Data.List.Basic

/-!
# Compare and swap

A value that is replaced only by a writer who names its version.  Whoever reads it,
changes what was read, and replaces the value at the version of the read has
changed the value as it was at that moment, so the changes are made one after
the other.
-/

namespace OpenZync.Library

structure Versioned (α : Type) where
  value : α
  version : Nat

namespace Versioned

variable {α γ : Type} {cell next : Versioned α} {change : α → α} {made other : α}
  {version known : Nat}

/-- The value is replaced if it still has the version. -/
def swap (cell : Versioned α) (version : Nat) (made : α) : Option (Versioned α) :=
  if version = cell.version then some ⟨made, cell.version + 1⟩ else none

theorem swap_eq_some :
    cell.swap version made = some next ↔
      version = cell.version ∧ next = ⟨made, cell.version + 1⟩ := by
  unfold swap
  split
  · rename_i same
    constructor
    · intro swapped
      exact ⟨same, (Option.some.inj swapped).symm⟩
    · rintro ⟨_, rfl⟩
      rfl
  · rename_i different
    constructor
    · intro swapped
      cases swapped
    · rintro ⟨same, _⟩
      exact (different same).elim

/-- What was read at the version and changed. -/
structure Made (cell : Versioned α) (change : α → α) (made : α) (version : Nat) : Prop where
  past : version ≤ cell.version
  current : version = cell.version → made = change cell.value

theorem made_of_read (cell : Versioned α) (change : α → α) :
    Made cell change (change cell.value) cell.version :=
  ⟨Nat.le_refl _, fun _ => rfl⟩

/-- After another writer, the version is a past one. -/
theorem Made.swapped (prepared : Made cell change made version)
    (swapped : cell.swap known other = some next) : Made next change made version := by
  obtain ⟨_, rfl⟩ := swap_eq_some.mp swapped
  refine ⟨Nat.le_succ_of_le prepared.past, ?_⟩
  intro same
  have past := prepared.past
  rw [same] at past
  exact absurd past (Nat.not_succ_le_self _)

theorem Made.swap_value (prepared : Made cell change made version)
    (swapped : cell.swap version made = some next) :
    next = ⟨change cell.value, cell.version + 1⟩ := by
  obtain ⟨same, rfl⟩ := swap_eq_some.mp swapped
  rw [prepared.current same]

/-- The changes were made one after the other. -/
structure After (apply : α → γ → α) (initial cell : Versioned α) (changes : List γ) : Prop where
  value : cell.value = changes.foldl apply initial.value
  version : cell.version = initial.version + changes.length

theorem After.refl (apply : α → γ → α) (initial : Versioned α) :
    After apply initial initial [] :=
  ⟨rfl, rfl⟩

theorem After.swap {apply : α → γ → α} {initial : Versioned α} {changes : List γ}
    {last : γ} (after : After apply initial cell changes)
    (prepared : Made cell (fun value => apply value last) made version)
    (swapped : cell.swap version made = some next) :
    After apply initial next (changes ++ [last]) := by
  rw [prepared.swap_value swapped]
  refine ⟨?_, ?_⟩
  · rw [List.foldl_append, ← after.value]
    rfl
  · rw [List.length_append, after.version]
    rfl

end Versioned

end OpenZync.Library
