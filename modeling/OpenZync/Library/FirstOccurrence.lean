import Mathlib.Data.List.Infix

/-!
# The first occurrence of a marker

A list is split at the first occurrence of a marker.  What surrounds the list
and shares no element with the marker does not move the occurrence.
-/

namespace OpenZync.Library

variable {α : Type} [DecidableEq α]

/-- `text.split(marker, 1)`: what precedes the first occurrence and what follows
it; none without an occurrence. -/
def splitFirst (marker : List α) : List α → Option (List α × List α)
  | [] => if marker = [] then some ([], []) else none
  | c :: rest =>
      if marker <+: c :: rest then some ([], (c :: rest).drop marker.length)
      else (splitFirst marker rest).map fun split => (c :: split.1, split.2)

variable {marker before text after opening closing inner : List α}

theorem splitFirst_isSome : (splitFirst marker text).isSome ↔ marker <:+: text := by
  induction text with
  | nil =>
      rw [splitFirst]
      split <;> simp_all
  | cons c rest induction =>
      rw [splitFirst, List.infix_cons_iff]
      split
      · rename_i starts
        simp [starts]
      · rename_i starts
        rw [Option.isSome_map, induction]
        simp [starts]

theorem splitFirst_eq_none : splitFirst marker text = none ↔ ¬ marker <:+: text := by
  rw [← splitFirst_isSome, Bool.not_eq_true, Option.isSome_eq_false_iff, Option.isNone_iff_eq_none]

/-- What is split is put together again. -/
theorem splitFirst_append (split : splitFirst marker text = some (before, after)) :
    text = before ++ (marker ++ after) := by
  induction text generalizing before with
  | nil =>
      rw [splitFirst] at split
      split at split
      · rename_i empty
        obtain ⟨rfl, rfl⟩ := Prod.mk.inj (Option.some.inj split)
        simp [empty]
      · cases split
  | cons c rest induction =>
      rw [splitFirst] at split
      split at split
      · rename_i starts
        obtain ⟨rfl, rfl⟩ := Prod.mk.inj (Option.some.inj split)
        exact (List.prefix_iff_eq_append.mp starts).symm
      · obtain ⟨⟨start, later⟩, found, same⟩ := Option.map_eq_some_iff.mp split
        obtain ⟨rfl, rfl⟩ := Prod.mk.inj same
        rw [List.cons_append, ← induction found]

/-- A marker that does not start with an element of what precedes is found behind
it. -/
theorem splitFirst_append_left {c : α} (marker leading text : List α) (absent : c ∉ leading) :
    splitFirst (c :: marker) (leading ++ text) =
      (splitFirst (c :: marker) text).map fun split => (leading ++ split.1, split.2) := by
  induction leading with
  | nil => simp
  | cons d leading induction =>
      have later : ¬ (c :: marker) <+: d :: (leading ++ text) := by
        intro starts
        have same := (List.cons_prefix_cons.mp starts).1
        exact absent (by rw [same]; exact List.mem_cons_self)
      rw [List.cons_append, splitFirst, if_neg later,
        induction fun member => absent (List.mem_cons_of_mem d member), Option.map_map]
      rfl

omit [DecidableEq α] in
/-- A prefix that does not have the first element of what follows ends before it. -/
theorem prefix_append_of_absent {trailing : List α} (absent : ∀ c ∈ trailing.head?, c ∉ marker) :
    marker <+: text ++ trailing ↔ marker <+: text := by
  constructor
  · intro starts
    rcases List.prefix_or_prefix_of_prefix starts (List.prefix_append text trailing) with
      inside | ⟨more, rfl⟩
    · exact inside
    · have shared := (List.prefix_append_right_inj text).mp starts
      cases more with
      | nil => exact (List.append_nil text).symm ▸ List.prefix_rfl
      | cons c more =>
          obtain ⟨later, rfl⟩ := shared
          exact absurd (List.mem_append_right text List.mem_cons_self) (absent c rfl)
  · intro starts
    exact starts.trans (List.prefix_append text trailing)

/-- What follows without an element of the marker belongs to the second part. -/
theorem splitFirst_append_right {trailing : List α} (nonempty : marker ≠ [])
    (disjoint : ∀ c ∈ trailing, c ∉ marker) :
    splitFirst marker (text ++ trailing) =
      (splitFirst marker text).map fun split => (split.1, split.2 ++ trailing) := by
  induction text with
  | nil =>
      have none : splitFirst marker trailing = none := by
        rw [splitFirst_eq_none]
        intro occurs
        obtain ⟨c, member⟩ := List.exists_mem_of_ne_nil marker nonempty
        exact disjoint c (occurs.subset member) member
      simp [splitFirst, nonempty, none]
  | cons c rest induction =>
      have absent : ∀ c ∈ trailing.head?, c ∉ marker :=
        fun c member => disjoint c (List.mem_of_mem_head? member)
      have same : marker <+: (c :: rest) ++ trailing ↔ marker <+: c :: rest :=
        prefix_append_of_absent absent
      rw [List.cons_append] at same ⊢
      rw [splitFirst, splitFirst]
      by_cases starts : marker <+: c :: rest
      · rw [if_pos starts, if_pos (same.mpr starts), Option.map_some,
          ← List.drop_append_of_le_length starts.length_le]
        rfl
      · rw [if_neg starts, if_neg (fun other => starts (same.mp other)), induction,
          Option.map_map, Option.map_map]
        rfl

/-- The first occurrence stays the first, whatever follows. -/
theorem splitFirst_append_of_some (split : splitFirst marker text = some (before, after))
    (trailing : List α) :
    splitFirst marker (text ++ trailing) = some (before, after ++ trailing) := by
  induction text generalizing before with
  | nil =>
      rw [splitFirst] at split
      split at split
      · rename_i empty
        obtain ⟨rfl, rfl⟩ := Prod.mk.inj (Option.some.inj split)
        subst empty
        cases trailing with
        | nil => rfl
        | cons c trailing => rw [List.nil_append, splitFirst, if_pos List.nil_prefix]; rfl
      · cases split
  | cons c rest induction =>
      rw [splitFirst] at split
      rw [List.cons_append, splitFirst]
      split at split
      · rename_i starts
        obtain ⟨rfl, rfl⟩ := Prod.mk.inj (Option.some.inj split)
        have longer : marker <+: c :: (rest ++ trailing) :=
          starts.trans (List.prefix_append (c :: rest) trailing)
        rw [if_pos longer, ← List.drop_append_of_le_length starts.length_le, List.cons_append]
      · rename_i starts
        obtain ⟨⟨start, later⟩, found, same⟩ := Option.map_eq_some_iff.mp split
        obtain ⟨rfl, rfl⟩ := Prod.mk.inj same
        have occurs : marker <:+: rest := splitFirst_isSome.mp (by rw [found]; rfl)
        have notHere : ¬ marker <+: c :: (rest ++ trailing) := by
          intro longer
          exact starts (List.prefix_of_prefix_length_le longer
            (List.prefix_append (c :: rest) trailing)
            (Nat.le_succ_of_le occurs.length_le))
        rw [if_neg notHere, induction found]
        rfl

theorem splitFirst_of_prefix (nonempty : marker ≠ []) (after : List α) :
    splitFirst marker (marker ++ after) = some ([], after) := by
  cases marker with
  | nil => exact absurd rfl nonempty
  | cons c marker =>
      have starts : c :: marker <+: c :: (marker ++ after) := List.prefix_append _ after
      rw [List.cons_append, splitFirst, if_pos starts, ← List.cons_append, List.drop_left]

/-- A marker that stands behind an element that it does not have is found there
when it does not occur before. -/
theorem splitFirst_of_absent {c : α} (absent : ¬ marker <:+: before) (other : c ∉ marker) :
    splitFirst marker (before ++ c :: (marker ++ after)) = some (before ++ [c], after) := by
  have behind : ∀ d ∈ (c :: (marker ++ after)).head?, d ∉ marker := by
    intro d first
    rw [← Option.some.inj first]
    exact other
  induction before with
  | nil =>
      have nonempty : marker ≠ [] := fun empty => absent (empty ▸ List.nil_infix)
      have notHere : ¬ marker <+: [] ++ c :: (marker ++ after) := by
        rw [prefix_append_of_absent behind]
        exact fun starts => absent starts.isInfix
      rw [List.nil_append] at notHere ⊢
      rw [splitFirst, if_neg notHere, splitFirst_of_prefix nonempty]
      rfl
  | cons d before induction =>
      have notHere : ¬ marker <+: (d :: before) ++ c :: (marker ++ after) := by
        rw [prefix_append_of_absent behind]
        exact fun starts => absent starts.isInfix
      have later : ¬ marker <:+: before := fun occurs => absent (List.infix_cons occurs)
      rw [List.cons_append] at notHere ⊢
      rw [splitFirst, if_neg notHere, induction later]
      rfl

/-- What stands between an opening and the next closing, with what is before and
after them. -/
def splitBetween (opening closing text : List α) : Option (List α × List α × List α) :=
  match splitFirst opening text with
  | none => none
  | some (before, rest) =>
      (splitFirst closing rest).map fun split => (before, split.1, split.2)

/-- What is put between an opening and a closing is found there: neither begins
before its place. -/
theorem splitBetween_of_absent {c d : α} (opening closing : List α) (notBefore : c ∉ before)
    (notInside : d ∉ inner) (after : List α) :
    splitBetween (c :: opening) (d :: closing)
      (before ++ ((c :: opening) ++ (inner ++ ((d :: closing) ++ after)))) =
      some (before, inner, after) := by
  rw [splitBetween, splitFirst_append_left opening before _ notBefore,
    splitFirst_of_prefix (List.cons_ne_nil c opening)]
  change (splitFirst (d :: closing) (inner ++ ((d :: closing) ++ after))).map _ = _
  rw [splitFirst_append_left closing inner _ notInside,
    splitFirst_of_prefix (List.cons_ne_nil d closing)]
  simp

end OpenZync.Library
