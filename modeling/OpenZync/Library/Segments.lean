import Mathlib.Data.List.Basic

/-!
# Segments, separators and spans

Lists that are joined by a separator.  A segment without the separator can be
taken off either end.

Replacing one span after the other, from the last one to the first, leaves the
list with all of them replaced at once: what is before a span is not touched by
the replacements after it.
-/

namespace OpenZync.Library

variable {α : Type} {separator : α} {before before' after after' : List α}

/-- `separator.join(segments)` -/
def joinSegments (separator : α) : List (List α) → List α
  | [] => []
  | first :: rest => first ++ rest.flatMap fun segment => separator :: segment

/-- The first segment and what follows its separator. -/
theorem append_separator_inj (absent : separator ∉ before) (absent' : separator ∉ before')
    (same : before ++ separator :: after = before' ++ separator :: after') :
    before = before' ∧ after = after' := by
  induction before generalizing before' with
  | nil =>
      cases before' with
      | nil => exact ⟨rfl, (List.cons.inj same).2⟩
      | cons head tail =>
          have first := (List.cons.inj same).1
          exact absurd (first ▸ List.mem_cons_self) absent'
  | cons head tail induction =>
      cases before' with
      | nil =>
          have first := (List.cons.inj same).1
          exact absurd (first ▸ List.mem_cons_self) absent
      | cons head' tail' =>
          obtain ⟨rfl, rest⟩ := List.cons.inj same
          obtain ⟨rfl, rfl⟩ := induction (fun member => absent (List.mem_cons_of_mem _ member))
            (fun member => absent' (List.mem_cons_of_mem _ member)) rest
          exact ⟨rfl, rfl⟩

/-- The last segment and what precedes its separator. -/
theorem separator_append_inj (absent : separator ∉ after) (absent' : separator ∉ after')
    (same : before ++ separator :: after = before' ++ separator :: after') :
    before = before' ∧ after = after' := by
  have reversed := congrArg List.reverse same
  simp only [List.reverse_append, List.reverse_cons, List.append_assoc, List.singleton_append]
    at reversed
  obtain ⟨sameAfter, sameBefore⟩ :=
    append_separator_inj (by simpa using absent) (by simpa using absent') reversed
  exact ⟨List.reverse_inj.mp sameBefore, List.reverse_inj.mp sameAfter⟩

theorem append_segments_inj {first first' : List α} {rest rest' : List (List α)}
    (absent : separator ∉ first) (absent' : separator ∉ first')
    (same : joinSegments separator (first :: rest) = joinSegments separator (first' :: rest')) :
    first = first' ∧
      (rest.flatMap fun segment => separator :: segment) =
        rest'.flatMap fun segment => separator :: segment := by
  simp only [joinSegments] at same
  cases rest with
  | nil =>
      cases rest' with
      | nil => simpa using same
      | cons segment rest' =>
          rw [List.flatMap_nil, List.append_nil] at same
          rw [same] at absent
          simp at absent
  | cons segment rest =>
      cases rest' with
      | nil =>
          rw [List.flatMap_nil, List.append_nil] at same
          rw [← same] at absent'
          simp at absent'
      | cons segment' rest' =>
          rw [List.flatMap_cons, List.flatMap_cons] at same ⊢
          obtain ⟨rfl, tails⟩ := append_separator_inj absent absent' same
          exact ⟨rfl, congrArg (List.cons separator) tails⟩

section Splice

variable {σ α β : Type} (start stop : σ → Nat) (replacement : σ → List α)

/-- Replace one span. -/
def replaceSpan (span : σ) (items : List α) : List α :=
  items.take (start span) ++ replacement span ++ items.drop (stop span)

/-- The list from a position on, with spans replaced and all else kept. -/
def spliceFrom (items : List α) : Nat → List σ → List α
  | position, [] => items.drop position
  | position, span :: spans =>
      (items.take (start span)).drop position ++ replacement span ++
        spliceFrom items (stop span) spans

/-- Every span ends before the next ones begin. -/
def Ordered (spans : List σ) : Prop :=
  spans.Pairwise fun first second => stop first ≤ start second

variable {start stop replacement} {items : List α} {spans : List σ}

theorem foldr_replaceSpan (ordered : Ordered start stop spans)
    (spanned : ∀ span ∈ spans, start span ≤ stop span ∧ stop span ≤ items.length)
    {position : Nat} (reached : ∀ span ∈ spans, position ≤ start span) :
    spans.foldr (replaceSpan start stop replacement) items =
      items.take position ++ spliceFrom start stop replacement items position spans := by
  induction spans generalizing position with
  | nil => exact (List.take_append_drop position items).symm
  | cons span spans induction =>
      obtain ⟨later, ordered⟩ := List.pairwise_cons.mp ordered
      rw [List.forall_mem_cons] at spanned reached
      obtain ⟨⟨forward, inside⟩, spanned⟩ := spanned
      have full : (items.take (stop span)).length = stop span :=
        List.length_take_of_le inside
      have before : (items.take (start span)).take position = items.take position := by
        rw [List.take_take, Nat.min_eq_left reached.1]
      rw [List.foldr_cons, induction ordered spanned later, replaceSpan, spliceFrom,
        List.drop_left' full, List.take_append_of_le_length (full.symm ▸ forward),
        List.take_take, Nat.min_eq_left forward]
      conv_lhs => rw [← List.take_append_drop position (items.take (start span)), before]
      simp only [List.append_assoc]

theorem foldr_replaceSpan_zero (ordered : Ordered start stop spans)
    (spanned : ∀ span ∈ spans, start span ≤ stop span ∧ stop span ≤ items.length) :
    spans.foldr (replaceSpan start stop replacement) items =
      spliceFrom start stop replacement items 0 spans :=
  foldr_replaceSpan ordered spanned fun _ _ => Nat.zero_le _

theorem mem_stretch {mark : Nat → α}
    (injective : ∀ first second, mark first = mark second → first = second)
    {length position stop' other : Nat} (inside : stop' ≤ length) :
    mark other ∈ (((List.range length).map mark).take stop').drop position ↔
      position ≤ other ∧ other < stop' := by
  rw [← List.map_take, ← List.map_drop, List.take_range, Nat.min_eq_left inside,
    List.range_eq_range', List.drop_range', List.mem_map]
  constructor
  · rintro ⟨found, member, same⟩
    obtain rfl := injective _ _ same
    rw [List.mem_range'_1] at member
    omega
  · rintro ⟨reached, before⟩
    refine ⟨other, ?_, rfl⟩
    rw [List.mem_range'_1]
    omega

/-- A mark that no replacement brings is left exactly where no span covers it. -/
theorem mem_spliceFrom_marks {length : Nat} {mark : Nat → α}
    (injective : ∀ first second, mark first = mark second → first = second)
    (foreign : ∀ span ∈ spans, ∀ position, mark position ∉ replacement span)
    (ordered : Ordered start stop spans)
    (spanned : ∀ span ∈ spans, start span ≤ stop span ∧ stop span ≤ length)
    {position other : Nat} (reached : ∀ span ∈ spans, position ≤ start span) :
    mark other ∈ spliceFrom start stop replacement ((List.range length).map mark) position
        spans ↔
      position ≤ other ∧ other < length ∧
        ∀ span ∈ spans, ¬ (start span ≤ other ∧ other < stop span) := by
  induction spans generalizing position with
  | nil =>
      have whole : (List.range length).map mark = ((List.range length).map mark).take length := by
        rw [List.take_of_length_le (by simp)]
      rw [spliceFrom, whole, mem_stretch injective (Nat.le_refl length)]
      simp
  | cons span spans induction =>
      obtain ⟨later, ordered⟩ := List.pairwise_cons.mp ordered
      rw [List.forall_mem_cons] at foreign spanned reached
      obtain ⟨⟨forward, inside⟩, spanned⟩ := spanned
      have ahead : ∀ next ∈ spans, start span ≤ start next := fun next member =>
        Nat.le_trans forward (later next member)
      rw [spliceFrom, List.mem_append, List.mem_append,
        mem_stretch injective (Nat.le_trans forward inside), induction foreign.2 ordered spanned
        later, List.forall_mem_cons]
      constructor
      · rintro ((⟨here, before⟩ | brought) | ⟨after, within, free⟩)
        · refine ⟨here, by omega, by omega, ?_⟩
          intro next member
          have behind := ahead next member
          omega
        · exact absurd brought (foreign.1 other)
        · exact ⟨by omega, within, by omega, free⟩
      · rintro ⟨here, within, uncovered, free⟩
        by_cases before : other < start span
        · exact Or.inl (Or.inl ⟨here, before⟩)
        · exact Or.inr ⟨by omega, within, free⟩

end Splice

end OpenZync.Library
