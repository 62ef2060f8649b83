import Mathlib.Data.List.TakeWhile
import OpenZync.Facts.ConflictMatching

/-!
# The letters and digits of a term

Two terms are the same up to case, whitespace and punctuation when their
letters and digits fold to the same text.  The identity normalization keeps
those in `a-z0-9`; a term that has no others is determined by it.
-/

namespace OpenZync.Facts

/-- `[a-z0-9]`. -/
def isAsciiAlnum (c : Char) : Bool :=
  ('a' ≤ c && c ≤ 'z') || ('0' ≤ c && c ≤ '9')

/-- `str.isalnum` and `str.casefold` of one character, with what the Unicode
tables say of the characters that lower to ASCII. -/
structure LetterReading (casing : Casing) where
  isAlnum : Char → Bool
  fold : Char → Text
  /-- Lower-casing looks at more than one character for a final sigma only. -/
  lower_kept : ∀ text : Text, (casing.lower text).filter keptByEntityNameRe =
    text.flatMap fun c => (casing.lower [c]).filter keptByEntityNameRe
  fold_ascii : ∀ c, (casing.lower [c]).any isAsciiAlnum = true →
    (fold c).filter isAlnum = (casing.lower [c]).filter isAsciiAlnum
  fold_space : ∀ c, Text.isSpace c = true → (fold c).filter isAlnum = []

theorem isAsciiAlnum_of_isSpace {c : Char} (space : Text.isSpace c = true) :
    isAsciiAlnum c = false := by
  by_contra alnum
  have bounds : (97 ≤ c.toNat ∧ c.toNat ≤ 122) ∨ (48 ≤ c.toNat ∧ c.toNat ≤ 57) := by
    simp only [isAsciiAlnum, Bool.not_eq_false, Bool.or_eq_true, Bool.and_eq_true,
      decide_eq_true_eq, Char.le_def, UInt32.le_iff_toNat_le] at alnum
    exact alnum
  simp only [Text.isSpace, Bool.or_eq_true, Bool.and_eq_true, decide_eq_true_eq,
    beq_iff_eq] at space
  omega

theorem kept_iff (c : Char) :
    keptByEntityNameRe c = true ↔ isAsciiAlnum c = true ∨ Text.isSpace c = true := by
  simp [keptByEntityNameRe, isAsciiAlnum]

theorem filter_dropWhile {α : Type} {p q : α → Bool}
    (apart : ∀ item, q item = true → p item = false)
    (items : List α) : (items.dropWhile q).filter p = items.filter p := by
  induction items with
  | nil => rfl
  | cons item items induction =>
      by_cases dropped : q item = true
      · rw [List.dropWhile_cons_of_pos dropped, induction, List.filter_cons_of_neg]
        simp [apart item dropped]
      · rw [List.dropWhile_cons_of_neg dropped]

/-- Stripping takes no letter and no digit. -/
theorem filter_strip {p : Char → Bool} (apart : ∀ c, Text.isSpace c = true → p c = false)
    (text : Text) : (Text.strip text).filter p = text.filter p := by
  rw [Text.strip, List.filter_reverse, filter_dropWhile apart, List.filter_reverse,
    filter_dropWhile apart, List.reverse_reverse]

theorem strip_eq_nil {text : Text} (spaces : ∀ c ∈ text, Text.isSpace c = true) :
    Text.strip text = [] := by
  have dropped : text.dropWhile Text.isSpace = [] := List.dropWhile_eq_nil_iff.mpr spaces
  rw [Text.strip, dropped]
  rfl

/-- The letters and digits that the normalization keeps. -/
theorem filter_normalize (casing : Casing) (term : Text) :
    (normalizeIdentityTerm casing term).filter isAsciiAlnum =
      (casing.lower term).filter isAsciiAlnum := by
  rw [normalizeIdentityTerm]
  split
  · rename_i empty
    rw [empty, casing.lower_ascii [] (by simp)]
    rfl
  · rw [filter_strip fun c => isAsciiAlnum_of_isSpace, List.filter_filter]
    apply List.filter_congr
    intro c _
    by_cases alnum : isAsciiAlnum c = true
    · simp [alnum, (kept_iff c).mpr (.inl alnum)]
    · simp [alnum]

namespace LetterReading

variable {casing : Casing} (reading : LetterReading casing)

/-- The letters and digits of a term after case folding. -/
def letters (term : Text) : Text :=
  (term.flatMap reading.fold).filter reading.isAlnum

/-- A character that carries letters or digits and normalizes to nothing. -/
def Erases (c : Char) : Prop :=
  normalizeIdentityTerm casing [c] = [] ∧ reading.letters [c] ≠ []

instance : DecidablePred reading.Erases :=
  fun _ => inferInstanceAs (Decidable (_ ∧ _))

theorem letters_eq_flatMap (term : Text) :
    reading.letters term = term.flatMap fun c => reading.letters [c] := by
  simp [letters, List.filter_flatMap]

include reading in
theorem filter_lower (term : Text) :
    (casing.lower term).filter isAsciiAlnum =
      term.flatMap fun c => (casing.lower [c]).filter isAsciiAlnum := by
  have both : ∀ text : Text, (text.filter keptByEntityNameRe).filter isAsciiAlnum =
      text.filter isAsciiAlnum := by
    intro text
    rw [List.filter_filter]
    apply List.filter_congr
    intro c _
    by_cases alnum : isAsciiAlnum c = true
    · simp [alnum, (kept_iff c).mpr (.inl alnum)]
    · simp [alnum]
  rw [← both, reading.lower_kept, List.filter_flatMap]
  simp only [both]

theorem letters_of_not_erased {c : Char} (kept : ¬ reading.Erases c) :
    reading.letters [c] = (casing.lower [c]).filter isAsciiAlnum := by
  by_cases ascii : (casing.lower [c]).any isAsciiAlnum = true
  · rw [letters, List.flatMap_singleton]
    exact reading.fold_ascii c ascii
  · have none : (casing.lower [c]).filter isAsciiAlnum = [] := by
      simpa [List.filter_eq_nil_iff] using ascii
    have empty : normalizeIdentityTerm casing [c] = [] := by
      rw [normalizeIdentityTerm, if_neg (List.cons_ne_nil _ _)]
      apply strip_eq_nil
      intro d member
      obtain ⟨lowered, found⟩ := List.mem_filter.mp member
      rcases (kept_iff d).mp found with alnum | space
      · exact absurd (List.any_eq_true.mpr ⟨d, lowered, alnum⟩) ascii
      · exact space
    rw [none]
    by_contra carries
    exact kept ⟨empty, carries⟩

theorem letters_eq {term : Text} (kept : ∀ c ∈ term, ¬ reading.Erases c) :
    reading.letters term = (normalizeIdentityTerm casing term).filter isAsciiAlnum := by
  rw [filter_normalize, reading.filter_lower, reading.letters_eq_flatMap]
  apply List.flatMap_congr
  intro c member
  exact reading.letters_of_not_erased (kept c member)

end LetterReading

end OpenZync.Facts
