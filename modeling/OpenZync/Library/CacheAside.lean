import Mathlib.Logic.Function.Basic

/-!
# Cache-aside and values held by many

A cache that its readers fill: a reader that misses loads the value from the
source of truth, holds a copy of it for a while and may then store it.
Entries and copies are current as long as no value changes at the source while
it is cached or copied.

A value is checked once and kept by its holder for a while.  The values held
stay valid as long as nothing changes that makes one of them invalid.
-/

namespace OpenZync.Library

/-- Every cached value and every copy is the value at the source. -/
structure Current {κ ν ρ : Type} (load : κ → Option ν) (cache : κ → Option ν)
    (copies : ρ → Option (κ × ν)) : Prop where
  cached : ∀ key value, cache key = some value → load key = some value
  copied : ∀ reader key value, copies reader = some (key, value) → load key = some value

/-- No value changes at the source that is cached or copied. -/
def Unharmed {κ ν ρ : Type} (load later : κ → Option ν) (cache : κ → Option ν)
    (copies : ρ → Option (κ × ν)) : Prop :=
  ∀ key, later key ≠ load key →
    cache key = none ∧ ∀ reader value, copies reader ≠ some (key, value)

namespace Current

variable {κ ν ρ : Type} {load later cache : κ → Option ν} {copies : ρ → Option (κ × ν)}

theorem empty : Current load (fun _ => none) (fun _ : ρ => none) := by
  constructor
  · intro key value cached
    cases cached
  · intro reader key value copied
    cases copied

/-- A change at the source that harms nothing. -/
theorem change (current : Current load cache copies)
    (unharmed : Unharmed load later cache copies) : Current later cache copies := by
  have kept : ∀ key value, load key = some value →
      (cache key ≠ none ∨ ∃ reader, copies reader = some (key, value)) →
      later key = some value := by
    intro key value loaded held
    by_contra stale
    have changed : later key ≠ load key := fun same => stale (same.trans loaded)
    obtain ⟨uncached, uncopied⟩ := unharmed key changed
    rcases held with cached | ⟨reader, copied⟩
    · exact cached uncached
    · exact uncopied reader value copied
  constructor
  · intro key value cached
    apply kept key value (current.cached key value cached)
    exact .inl fun uncached => by simp [uncached] at cached
  · intro reader key value copied
    exact kept key value (current.copied reader key value copied) (.inr ⟨reader, copied⟩)

section Entries

variable [DecidableEq κ]

/-- An entry that expires or is deleted. -/
theorem forget (current : Current load cache copies) (key : κ) :
    Current load (Function.update cache key none) copies := by
  refine ⟨?_, current.copied⟩
  intro other value cached
  by_cases same : other = key
  · simp [same] at cached
  · rw [Function.update_of_ne same] at cached
    exact current.cached other value cached

theorem store (current : Current load cache copies) {reader : ρ} {key : κ} {value : ν}
    (copied : copies reader = some (key, value)) :
    Current load (Function.update cache key (some value)) copies := by
  refine ⟨?_, current.copied⟩
  intro other found cached
  by_cases same : other = key
  · subst same
    rw [Function.update_self] at cached
    cases cached
    exact current.copied reader other value copied
  · rw [Function.update_of_ne same] at cached
    exact current.cached other found cached

end Entries

section Readers

variable [DecidableEq ρ]

theorem hold (current : Current load cache copies) (reader : ρ) {copy : Option (κ × ν)}
    (loaded : ∀ key value, copy = some (key, value) → load key = some value) :
    Current load cache (Function.update copies reader copy) := by
  refine ⟨current.cached, ?_⟩
  intro other key value copied
  by_cases same : other = reader
  · subst same
    rw [Function.update_self] at copied
    exact loaded key value copied
  · rw [Function.update_of_ne same] at copied
    exact current.copied other key value copied

end Readers

end Current

/-- Every value that somebody holds is valid. -/
def HeldValid {ρ ν : Type} (Valid : ν → Prop) (held : ρ → Option ν) : Prop :=
  ∀ holder, ∀ value ∈ held holder, Valid value

/-- Nobody holds a value that is concerned. -/
def NobodyHolds {ρ ν : Type} (Concerned : ν → Prop) (held : ρ → Option ν) : Prop :=
  ∀ holder, ∀ value ∈ held holder, ¬ Concerned value

namespace HeldValid

variable {ρ ν : Type} {Valid Later : ν → Prop} {held : ρ → Option ν}

theorem none : HeldValid Valid (fun _ : ρ => Option.none) := by
  intro holder value member
  cases member

theorem change (valid : HeldValid Valid held) {Concerned : ν → Prop}
    (nobody : NobodyHolds Concerned held)
    (kept : ∀ value, ¬ Concerned value → Valid value → Later value) :
    HeldValid Later held := by
  intro holder value member
  exact kept value (nobody holder value member) (valid holder value member)

theorem hold [DecidableEq ρ] (valid : HeldValid Valid held) (holder : ρ) {value : Option ν}
    (taken : ∀ new ∈ value, Valid new) :
    HeldValid Valid (Function.update held holder value) := by
  intro other found member
  by_cases same : other = holder
  · subst same
    rw [Function.update_self] at member
    exact taken found member
  · rw [Function.update_of_ne same] at member
    exact valid other found member

end HeldValid

end OpenZync.Library
