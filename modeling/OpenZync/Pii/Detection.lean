import Mathlib.Data.List.Sort
import OpenZync.Library.Segments
import OpenZync.Text

/-!
# Detections of personal data and their redaction

The detections of all layers are sorted, resolved where they overlap and then
filtered by confidence.  The redactor replaces them from the last one to the
first.

Merged detections follow one another without overlap, so that the redactor's
replacements from the last one to the first are all of them at once.
-/

namespace OpenZync.Pii

open OpenZync.Library

/-- `PIIDetection`; the confidence is of any type that is ordered. -/
structure PIIDetection (κ : Type) where
  type : Text
  value : Text
  start : Nat
  stop : Nat
  start_le : start ≤ stop
  confidence : κ
  method : Text

namespace PIIDetection

variable {κ : Type}

/-- The length of the span. -/
def span (detection : PIIDetection κ) : Nat :=
  detection.stop - detection.start

/-- The detection covers a character position. -/
def Covers (detection : PIIDetection κ) (position : Nat) : Prop :=
  detection.start ≤ position ∧ position < detection.stop

instance (detection : PIIDetection κ) (position : Nat) :
    Decidable (detection.Covers position) :=
  inferInstanceAs (Decidable (_ ∧ _))

end PIIDetection

section Detector

variable {κ : Type} [LinearOrder κ]

/-- `(d.start, -(d.end - d.start))`, compared. -/
def sortsBefore (first second : PIIDetection κ) : Prop :=
  first.start < second.start ∨ first.start = second.start ∧ second.span ≤ first.span

instance (first second : PIIDetection κ) : Decidable (sortsBefore first second) :=
  inferInstanceAs (Decidable (_ ∨ _))

/-- The detection at hand replaces the one it overlaps. -/
def replaces (current prev : PIIDetection κ) : Prop :=
  prev.span < current.span ∨ current.span = prev.span ∧ prev.confidence < current.confidence

instance (current prev : PIIDetection κ) : Decidable (replaces current prev) :=
  inferInstanceAs (Decidable (_ ∨ _))

/-- One turn of the merge, with the merged detections from the last one on. -/
def mergeStep (merged : List (PIIDetection κ)) (current : PIIDetection κ) :
    List (PIIDetection κ) :=
  match merged with
  | [] => [current]
  | prev :: merged =>
      if current.start < prev.stop then
        if replaces current prev then current :: merged else prev :: merged
      else current :: prev :: merged

/-- `_merge_overlapping` -/
def mergeOverlapping (detections : List (PIIDetection κ)) : List (PIIDetection κ) :=
  ((detections.insertionSort sortsBefore).foldl mergeStep []).reverse

/-- `_confidence_filter` -/
def confidenceFilter (minConfidence : κ) (detections : List (PIIDetection κ)) :
    List (PIIDetection κ) :=
  detections.filter fun detection => minConfidence ≤ detection.confidence

/-- `detect`, from the results of its layers on. -/
def detect (minConfidence : κ) (results : List (PIIDetection κ)) : List (PIIDetection κ) :=
  (confidenceFilter minConfidence (mergeOverlapping results)).insertionSort
    fun first second => first.start ≤ second.start

end Detector

section Redactor

variable {κ α : Type}

/-- `REDACTION_LABELS` -/
def redactionLabels : List (Text × Text) :=
  [("email".toList, "EMAIL".toList), ("phone".toList, "PHONE".toList),
    ("ssn".toList, "SSN".toList), ("credit_card".toList, "CARD".toList),
    ("ip_address".toList, "IP".toList), ("api_key".toList, "KEY".toList),
    ("crypto_wallet".toList, "WALLET".toList), ("name".toList, "NAME".toList),
    ("address".toList, "ADDRESS".toList), ("organization".toList, "ORG".toList),
    ("date".toList, "DATE".toList)]

/-- `[REDACTED:label]`, with `str.upper` for a type without a label. -/
def replacementText (upper : Text → Text) (detection : PIIDetection κ) : Text :=
  let label := (redactionLabels.lookup detection.type).getD (upper detection.type)
  "[REDACTED:".toList ++ label ++ "]".toList

inductive RedactionMode where
  | mask
  | block

/-- `sorted(detections, key=start, reverse=True)`, which keeps the order of equal
starts. -/
def lastFirst (detections : List (PIIDetection κ)) : List (PIIDetection κ) :=
  detections.insertionSort fun first second => second.start ≤ first.start

/-- The loop of `apply`, for any kind of characters. -/
def replaceAll (replacement : PIIDetection κ → List α) (text : List α)
    (detections : List (PIIDetection κ)) : List α :=
  (lastFirst detections).foldl
    (fun result detection =>
      replaceSpan PIIDetection.start PIIDetection.stop replacement detection result) text

/-- `PIIRedactor.apply`; there is no result in mode `block`. -/
def apply (mode : RedactionMode) (upper : Text → Text) (text : Text)
    (detections : List (PIIDetection κ)) : Option Text :=
  match mode with
  | .block => none
  | .mask => some (replaceAll (replacementText upper) text detections)

end Redactor

section Sorted

variable {κ : Type}

theorem pairwise_sortsBefore (detections : List (PIIDetection κ)) :
    (detections.insertionSort sortsBefore).Pairwise sortsBefore := by
  have total : Std.Total (sortsBefore : PIIDetection κ → PIIDetection κ → Prop) := by
    constructor
    intro first second
    simp only [sortsBefore]
    omega
  have trans : IsTrans (PIIDetection κ) sortsBefore := by
    constructor
    intro first second third left right
    simp only [sortsBefore] at left right ⊢
    omega
  exact List.pairwise_insertionSort sortsBefore detections

end Sorted

section Merged

variable {κ : Type} [LinearOrder κ] {detections : List (PIIDetection κ)}

/-- Merged detections so far, from the last one on, before the ones to come. -/
def Settled (merged coming : List (PIIDetection κ)) : Prop :=
  merged.Pairwise (fun later earlier => earlier.stop ≤ later.start) ∧
    ∀ last ∈ merged.head?, ∀ next ∈ coming, last.start ≤ next.start

theorem settled_mergeStep {merged coming : List (PIIDetection κ)} {current : PIIDetection κ}
    (settled : Settled merged (current :: coming))
    (first : ∀ next ∈ coming, current.start ≤ next.start) :
    Settled (mergeStep merged current) coming := by
  obtain ⟨ordered, before⟩ := settled
  cases merged with
  | nil => exact ⟨List.pairwise_singleton _ _, by simpa [mergeStep] using first⟩
  | cons prev merged =>
      obtain ⟨behind, ordered'⟩ := List.pairwise_cons.mp ordered
      have start : prev.start ≤ current.start := before prev rfl current List.mem_cons_self
      rw [mergeStep]
      split
      · split
        · refine ⟨List.pairwise_cons.mpr ⟨?_, ordered'⟩, by simpa using first⟩
          intro earlier member
          exact Nat.le_trans (behind earlier member) start
        · refine ⟨ordered, ?_⟩
          intro last head next member
          exact before last head next (List.mem_cons_of_mem _ member)
      · rename_i apart
        refine ⟨List.pairwise_cons.mpr ⟨?_, ordered⟩, by simpa using first⟩
        intro earlier member
        have after : prev.stop ≤ current.start := Nat.le_of_not_lt apart
        rcases List.mem_cons.mp member with rfl | member
        · exact after
        · have forward := prev.start_le
          have stops := behind earlier member
          omega

theorem settled_foldl {merged coming : List (PIIDetection κ)} (settled : Settled merged coming)
    (ordered : coming.Pairwise fun first second => first.start ≤ second.start) :
    Settled (coming.foldl mergeStep merged) [] := by
  induction coming generalizing merged with
  | nil => exact settled
  | cons current coming induction =>
      obtain ⟨first, ordered⟩ := List.pairwise_cons.mp ordered
      exact induction (settled_mergeStep settled first) ordered

theorem mergeStep_sublist (merged : List (PIIDetection κ)) (current : PIIDetection κ) :
    ((mergeStep merged current).reverse).Sublist (merged.reverse ++ [current]) := by
  cases merged with
  | nil => exact List.Sublist.refl _
  | cons prev merged =>
      rw [mergeStep]
      split
      · split
        · simp only [List.reverse_cons, List.append_assoc, List.singleton_append]
          exact (List.sublist_cons_self prev [current]).append_left merged.reverse
        · exact List.sublist_append_left _ _
      · simp

theorem foldl_mergeStep_sublist (coming merged : List (PIIDetection κ)) :
    ((coming.foldl mergeStep merged).reverse).Sublist (merged.reverse ++ coming) := by
  induction coming generalizing merged with
  | nil => simp
  | cons current coming induction =>
      refine (induction (mergeStep merged current)).trans ?_
      rw [List.append_cons]
      exact (mergeStep_sublist merged current).append_right coming

theorem foldl_mergeStep_subset {coming : List (PIIDetection κ)} {detection : PIIDetection κ}
    (member : detection ∈ coming.foldl mergeStep []) : detection ∈ coming :=
  (foldl_mergeStep_sublist coming []).subset (List.mem_reverse.mpr member)

theorem mergeOverlapping_sublist (detections : List (PIIDetection κ)) :
    (mergeOverlapping detections).Sublist (detections.insertionSort sortsBefore) :=
  foldl_mergeStep_sublist _ []

theorem mem_mergeOverlapping {detection : PIIDetection κ}
    (member : detection ∈ mergeOverlapping detections) : detection ∈ detections :=
  (List.mem_insertionSort _).mp ((mergeOverlapping_sublist detections).subset member)

theorem ordered_mergeOverlapping (detections : List (PIIDetection κ)) :
    Ordered PIIDetection.start PIIDetection.stop (mergeOverlapping detections) := by
  have starts : (detections.insertionSort sortsBefore).Pairwise
      fun first second => first.start ≤ second.start := by
    refine (pairwise_sortsBefore detections).imp ?_
    intro first second before
    rw [sortsBefore] at before
    omega
  have settled : Settled [] (detections.insertionSort sortsBefore) :=
    ⟨List.Pairwise.nil, by simp⟩
  rw [Ordered, mergeOverlapping, List.pairwise_reverse]
  exact (settled_foldl settled starts).1

/-- One merged detection before another: it ends before the other begins, and
is empty only where the other is. -/
def FollowedBy (first second : PIIDetection κ) : Prop :=
  first.stop ≤ second.start ∧ (first.start = second.start → second.span ≤ first.span)

theorem pairwise_followedBy (detections : List (PIIDetection κ)) :
    (mergeOverlapping detections).Pairwise FollowedBy := by
  have sorted := (pairwise_sortsBefore detections).sublist (mergeOverlapping_sublist detections)
  refine ((ordered_mergeOverlapping detections).and sorted).imp ?_
  rintro first second ⟨ends, before⟩
  refine ⟨ends, ?_⟩
  intro same
  rw [sortsBefore] at before
  omega

end Merged

section Redacted

variable {κ α : Type} {merged : List (PIIDetection κ)}

theorem pairwise_lastFirst (merged : List (PIIDetection κ)) :
    (lastFirst merged).Pairwise fun first second => second.start ≤ first.start := by
  have total : Std.Total fun first second : PIIDetection κ => second.start ≤ first.start :=
    ⟨fun first second => Nat.le_total _ _⟩
  have trans : IsTrans (PIIDetection κ) fun first second => second.start ≤ first.start :=
    ⟨fun first second third left right => Nat.le_trans right left⟩
  exact List.pairwise_insertionSort _ merged

theorem perm_lastFirst (merged : List (PIIDetection κ)) :
    (lastFirst merged).reverse.Perm merged :=
  (List.reverse_perm _).trans (List.perm_insertionSort _ merged)

theorem ordered_lastFirst (followed : merged.Pairwise FollowedBy) :
    Ordered PIIDetection.start PIIDetection.stop (lastFirst merged).reverse := by
  have either : (lastFirst merged).reverse.Pairwise
      fun first second => FollowedBy first second ∨ FollowedBy second first := by
    refine (List.Perm.pairwise_iff ?_ (perm_lastFirst merged)).mpr
      (followed.imp fun before => Or.inl before)
    exact fun both => both.symm
  have starts : (lastFirst merged).reverse.Pairwise
      fun first second => first.start ≤ second.start :=
    List.pairwise_reverse.mpr (pairwise_lastFirst merged)
  refine (starts.and either).imp ?_
  rintro first second ⟨start, ⟨ends, _⟩ | ⟨ends, shorter⟩⟩
  · exact ends
  · -- The two are empty and at one place.
    have forward := first.start_le
    have forward' := second.start_le
    have small := shorter (by omega)
    simp only [PIIDetection.span] at small
    omega

theorem replaceAll_eq (replacement : PIIDetection κ → List α) {text : List α}
    (followed : merged.Pairwise FollowedBy)
    (inBounds : ∀ detection ∈ merged, detection.stop ≤ text.length) :
    replaceAll replacement text merged =
      spliceFrom PIIDetection.start PIIDetection.stop replacement text 0
        (lastFirst merged).reverse := by
  have same : replaceAll replacement text merged = (lastFirst merged).reverse.foldr
      (replaceSpan PIIDetection.start PIIDetection.stop replacement) text := by
    rw [List.foldr_reverse]
    rfl
  rw [same, foldr_replaceSpan_zero (ordered_lastFirst followed)]
  intro detection member
  exact ⟨detection.start_le, inBounds detection ((perm_lastFirst merged).mem_iff.mp member)⟩

/-- Spans that are not empty are met in the order of the merge. -/
theorem lastFirst_reverse_eq (followed : merged.Pairwise FollowedBy)
    (nonempty : ∀ detection ∈ merged, detection.start < detection.stop) :
    (lastFirst merged).reverse = merged := by
  have starts : (lastFirst merged).reverse.Pairwise
      fun first second => first.start ≤ second.start :=
    List.pairwise_reverse.mpr (pairwise_lastFirst merged)
  have strict : merged.Pairwise fun first second => first.start < second.start := by
    rw [List.pairwise_iff_forall_sublist]
    intro first second pair
    have before := List.pairwise_iff_forall_sublist.mp followed pair
    have forward := nonempty first (pair.subset List.mem_cons_self)
    exact Nat.lt_of_lt_of_le forward before.1
  have distinct : (merged.map PIIDetection.start).Nodup :=
    List.pairwise_map.mpr (strict.imp Nat.ne_of_lt)
  refine List.Perm.eq_of_pairwise ?_ starts (strict.imp Nat.le_of_lt) (perm_lastFirst merged)
  intro first second left right before after
  exact List.inj_on_of_nodup_map distinct ((perm_lastFirst merged).mem_iff.mp left) right
    (Nat.le_antisymm before after)

end Redacted

/-- The merge's output is sorted and disjoint, and the redactor replaces exactly
its spans. -/
theorem redaction_exact {κ : Type} [LinearOrder κ] (upper : Text → Text) {text : Text}
    {detections : List (PIIDetection κ)}
    (inBounds : ∀ detection ∈ detections, detection.stop ≤ text.length) :
    (mergeOverlapping detections).Pairwise (fun first second => first.start ≤ second.start) ∧
    (mergeOverlapping detections).Pairwise (fun first second =>
      ∀ position, ¬ (first.Covers position ∧ second.Covers position)) ∧
    ∃ spans, spans.Perm (mergeOverlapping detections) ∧
      Ordered PIIDetection.start PIIDetection.stop spans ∧
      ((∀ detection ∈ detections, detection.start < detection.stop) →
        spans = mergeOverlapping detections) ∧
      apply .mask upper text (mergeOverlapping detections) =
        some (spliceFrom PIIDetection.start PIIDetection.stop (replacementText upper) text 0
          spans) := by
  have followed := pairwise_followedBy detections
  have ordered := ordered_mergeOverlapping detections
  refine ⟨?_, ?_, (lastFirst (mergeOverlapping detections)).reverse, perm_lastFirst _,
    ordered_lastFirst followed, ?_, ?_⟩
  · refine ordered.imp ?_
    intro first second ends
    exact Nat.le_trans first.start_le ends
  · refine ordered.imp ?_
    rintro first second ends position ⟨left, right⟩
    exact Nat.not_lt_of_le (Nat.le_trans ends right.1) left.2
  · intro nonempty
    exact lastFirst_reverse_eq followed fun detection member =>
      nonempty detection (mem_mergeOverlapping member)
  · rw [apply, replaceAll_eq _ followed]
    intro detection member
    exact inBounds detection (mem_mergeOverlapping member)

/-- An address of which another layer found a part. -/
def emailAndName : List (PIIDetection Nat) :=
  [{ type := "name".toList
     value := "ann@x".toList
     start := 3
     stop := 8
     start_le := by decide
     confidence := 85
     method := "spacy_ner".toList },
    { type := "email".toList
      value := "ann@x.org".toList
      start := 3
      stop := 12
      start_le := by decide
      confidence := 95
      method := "regex".toList }]

theorem redaction_exact_emailAndName :
    ∃ spans, spans.Perm (mergeOverlapping emailAndName) ∧
      apply .mask (fun text => text) "to ann@x.org!".toList (mergeOverlapping emailAndName) =
        some (spliceFrom PIIDetection.start PIIDetection.stop (replacementText fun text => text)
          "to ann@x.org!".toList 0 spans) := by
  obtain ⟨_, _, spans, same, _, _, redacted⟩ :=
    redaction_exact (fun text => text) (show ∀ detection ∈ emailAndName,
      detection.stop ≤ "to ann@x.org!".toList.length by decide)
  exact ⟨spans, same, redacted⟩

example : apply .mask (fun text => text) "to ann@x.org!".toList (mergeOverlapping emailAndName) =
    some "to [REDACTED:EMAIL]!".toList := by
  decide +kernel

end OpenZync.Pii
