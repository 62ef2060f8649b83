import Mathlib.Data.BitVec

/-!
# Bitmasks

`Covers` says that every bit of a mask is set, the way programs test it: the
mask survives the conjunction.
-/

namespace OpenZync.Library

variable {width : Nat} {status more mask other : BitVec width}

/-- Every bit of the mask is set. -/
def Covers (status mask : BitVec width) : Prop :=
  status &&& mask = mask

instance (status mask : BitVec width) : Decidable (Covers status mask) :=
  inferInstanceAs (Decidable (status &&& mask = mask))

theorem covers_iff :
    Covers status mask ↔
      ∀ index, mask.getLsbD index = true → status.getLsbD index = true := by
  constructor
  · intro covered index inMask
    have same : (status &&& mask).getLsbD index = mask.getLsbD index := by
      rw [covered]
    rw [BitVec.getLsbD_and, inMask, Bool.and_true] at same
    exact same
  · intro bits
    apply BitVec.eq_of_getLsbD_eq
    intro index _
    rw [BitVec.getLsbD_and]
    cases inMask : mask.getLsbD index with
    | false => exact Bool.and_false _
    | true => rw [bits index inMask, Bool.and_true]

theorem Covers.self : Covers mask mask :=
  BitVec.and_self

theorem Covers.trans (first : Covers status mask) (second : Covers mask other) :
    Covers status other := by
  rw [covers_iff] at *
  intro index inOther
  exact first index (second index inOther)

theorem Covers.or_left (covered : Covers status mask) : Covers (status ||| more) mask := by
  rw [covers_iff] at *
  intro index inMask
  rw [BitVec.getLsbD_or, covered index inMask, Bool.true_or]

theorem Covers.or_right (covered : Covers more mask) : Covers (status ||| more) mask := by
  rw [BitVec.or_comm]
  exact covered.or_left

theorem covers_or :
    Covers status (mask ||| other) ↔ Covers status mask ∧ Covers status other := by
  constructor
  · intro covered
    exact ⟨covered.trans Covers.self.or_left, covered.trans Covers.self.or_right⟩
  · rintro ⟨first, second⟩
    rw [covers_iff] at *
    intro index inEither
    rw [BitVec.getLsbD_or, Bool.or_eq_true] at inEither
    rcases inEither with inMask | inOther
    · exact first index inMask
    · exact second index inOther

/-- Setting bits that are set changes nothing. -/
theorem Covers.or_eq (covered : Covers status mask) : status ||| mask = status := by
  rw [covers_iff] at covered
  apply BitVec.eq_of_getLsbD_eq
  intro index _
  rw [BitVec.getLsbD_or]
  cases inMask : mask.getLsbD index with
  | false => exact Bool.or_false _
  | true => rw [covered index inMask, Bool.or_true]

theorem or_or_distrib : status ||| (mask ||| other) = (status ||| mask) ||| (status ||| other) := by
  apply BitVec.eq_of_getLsbD_eq
  intro index _
  simp only [BitVec.getLsbD_or]
  cases status.getLsbD index <;> simp

/-- The mask is a single bit. -/
def SingleBit (mask : BitVec width) : Prop :=
  ∃ bit, bit < width ∧ mask = BitVec.twoPow width bit

theorem SingleBit.ne_zero (single : SingleBit mask) : mask ≠ BitVec.ofNat width 0 := by
  obtain ⟨bit, inside, rfl⟩ := single
  intro zero
  have selected : (BitVec.twoPow width bit).getLsbD bit = (BitVec.ofNat width 0).getLsbD bit := by
    rw [zero]
  simp [inside] at selected

theorem SingleBit.not_covers_zero (single : SingleBit mask) :
    ¬ Covers (BitVec.ofNat width 0) mask := by
  intro covered
  rw [Covers, BitVec.zero_and] at covered
  exact single.ne_zero covered.symm

theorem SingleBit.and_eq_zero_iff (single : SingleBit mask) :
    status &&& mask = BitVec.ofNat width 0 ↔ ¬ Covers status mask := by
  have nonzero := single.ne_zero
  obtain ⟨bit, inside, rfl⟩ := single
  unfold Covers
  rw [BitVec.and_twoPow]
  split
  · simp [nonzero]
  · simp [nonzero.symm]

theorem SingleBit.covers_or (single : SingleBit mask) :
    Covers (status ||| more) mask ↔ Covers status mask ∨ Covers more mask := by
  constructor
  · intro covered
    obtain ⟨bit, inside, rfl⟩ := single
    rw [covers_iff] at covered
    have selected := covered bit (by simp [inside])
    rw [BitVec.getLsbD_or, Bool.or_eq_true] at selected
    have only : ∀ {value : BitVec width}, value.getLsbD bit = true →
        Covers value (BitVec.twoPow width bit) := by
      intro value present
      unfold Covers
      rw [BitVec.and_twoPow, if_pos present]
    rcases selected with inStatus | inMore
    · exact Or.inl (only inStatus)
    · exact Or.inr (only inMore)
  · rintro (first | second)
    · exact first.or_left
    · exact second.or_right

end OpenZync.Library
