import OpenZync.Pii.Detection

/-!
# What the detector covers

Overlaps are resolved in favour of the longer span before the confidence is
looked at.  A confident detection that no overlapping one beats is returned;
a beaten one may leave characters in place.
-/

namespace OpenZync.Pii

open OpenZync.Library

section Beats

variable {κ : Type} [LinearOrder κ] {results : List (PIIDetection κ)}
  {detection : PIIDetection κ}

/-- An overlapping detection is kept in another one's place: it is longer, or as
long and preferred. -/
def Beats (other detection : PIIDetection κ) : Prop :=
  (other.start < detection.stop ∧ detection.start < other.stop) ∧
    (detection.span < other.span ∨ detection.span = other.span ∧
      (other.start < detection.start ∧ detection.confidence ≤ other.confidence ∨
        detection.start < other.start ∧ detection.confidence < other.confidence))

instance (other detection : PIIDetection κ) : Decidable (Beats other detection) :=
  inferInstanceAs (Decidable ((_ ∧ _) ∧ _))

/-- The merged detections hold a span, with no less confidence. -/
def Holds (merged : List (PIIDetection κ)) (detection : PIIDetection κ) : Prop :=
  ∃ kept ∈ merged, kept.start = detection.start ∧ kept.stop = detection.stop ∧
    detection.confidence ≤ kept.confidence

theorem holds_mergeStep {merged : List (PIIDetection κ)} {current : PIIDetection κ}
    (holds : Holds merged detection) (after : detection.start ≤ current.start)
    (unbeaten : ¬ Beats current detection) : Holds (mergeStep merged current) detection := by
  obtain ⟨kept, member, start, stop, confident⟩ := holds
  cases merged with
  | nil => cases member
  | cons prev merged =>
      rw [mergeStep]
      rcases List.mem_cons.mp member with rfl | earlier
      · split
        · rename_i overlap
          split
          · rename_i instead
            have same : kept.span = detection.span := by
              rw [PIIDetection.span, PIIDetection.span, start, stop]
            have forward := current.start_le
            have forward' := detection.start_le
            rcases instead with longer | ⟨level, surer⟩
            · exfalso
              apply unbeaten
              rw [same] at longer
              refine ⟨⟨by omega, ?_⟩, Or.inl longer⟩
              rw [PIIDetection.span, PIIDetection.span] at longer
              omega
            · rw [same, PIIDetection.span, PIIDetection.span] at level
              rcases Nat.eq_or_lt_of_le after with equal | later
              · exact ⟨current, List.mem_cons_self, equal.symm, by omega,
                  le_trans confident (le_of_lt surer)⟩
              · exfalso
                apply unbeaten
                refine ⟨⟨by omega, by omega⟩, Or.inr ⟨level.symm, Or.inr ⟨later, ?_⟩⟩⟩
                exact lt_of_le_of_lt confident surer
          · exact ⟨kept, List.mem_cons_self, start, stop, confident⟩
        · exact ⟨kept, List.mem_cons_of_mem _ List.mem_cons_self, start, stop, confident⟩
      · have held : ∀ front, Holds (front ++ merged) detection := fun front =>
          ⟨kept, List.mem_append_right front earlier, start, stop, confident⟩
        split
        · split
          · exact held [current]
          · exact held [prev]
        · exact held [current, prev]

theorem holds_mergeStep_self {merged : List (PIIDetection κ)}
    (nonempty : detection.start < detection.stop)
    (before : ∀ last ∈ merged.head?, last.start ≤ detection.start ∧ ¬ Beats last detection) :
    Holds (mergeStep merged detection) detection := by
  have itself : ∀ merged, Holds (detection :: merged) detection := fun merged =>
    ⟨detection, List.mem_cons_self, rfl, rfl, le_refl _⟩
  cases merged with
  | nil => exact itself []
  | cons prev merged =>
      obtain ⟨start, unbeaten⟩ := before prev rfl
      rw [mergeStep]
      split
      · rename_i overlap
        split
        · exact itself merged
        · rename_i kept
          rw [replaces, not_or, not_and] at kept
          obtain ⟨notLonger, notSurer⟩ := kept
          have shared : prev.start < detection.stop ∧ detection.start < prev.stop :=
            ⟨Nat.lt_of_le_of_lt start nonempty, overlap⟩
          rcases Nat.eq_or_lt_of_le (Nat.le_of_not_lt notLonger) with level | longer
          · have surer := le_of_not_gt (notSurer level)
            rcases Nat.eq_or_lt_of_le start with equal | earlier
            · refine ⟨prev, List.mem_cons_self, equal, ?_, surer⟩
              rw [PIIDetection.span, PIIDetection.span] at level
              omega
            · exact absurd ⟨shared, Or.inr ⟨level, Or.inl ⟨earlier, surer⟩⟩⟩ unbeaten
          · exact absurd ⟨shared, Or.inl longer⟩ unbeaten
      · exact itself (prev :: merged)

theorem holds_foldl {coming merged : List (PIIDetection κ)} (holds : Holds merged detection)
    (after : ∀ next ∈ coming, detection.start ≤ next.start ∧ ¬ Beats next detection) :
    Holds (coming.foldl mergeStep merged) detection := by
  induction coming generalizing merged with
  | nil => exact holds
  | cons current coming induction =>
      rw [List.forall_mem_cons] at after
      exact induction (holds_mergeStep holds after.1.1 after.1.2) after.2

theorem holds_mergeOverlapping (found : detection ∈ results)
    (nonempty : detection.start < detection.stop)
    (unbeaten : ∀ other ∈ results, ¬ Beats other detection) :
    Holds (mergeOverlapping results) detection := by
  have sorted := pairwise_sortsBefore results
  have stored : ∀ other ∈ results.insertionSort sortsBefore, ¬ Beats other detection :=
    fun other member => unbeaten other ((List.mem_insertionSort _).mp member)
  obtain ⟨before, after, split⟩ :=
    List.append_of_mem ((List.mem_insertionSort sortsBefore).mpr found)
  rw [mergeOverlapping, split, List.foldl_append, List.foldl_cons]
  rw [split] at sorted stored
  obtain ⟨_, tail, across⟩ := List.pairwise_append.mp sorted
  have tail := (List.pairwise_cons.mp tail).1
  have early : ∀ other ∈ before, other.start ≤ detection.start := by
    intro other member
    have first := across other member detection List.mem_cons_self
    rw [sortsBefore] at first
    omega
  have late : ∀ other ∈ after, detection.start ≤ other.start := by
    intro other member
    have second := tail other member
    rw [sortsBefore] at second
    omega
  have own : Holds (mergeStep (before.foldl mergeStep []) detection) detection := by
    apply holds_mergeStep_self nonempty
    intro last head
    have kept := foldl_mergeStep_subset (List.mem_of_mem_head? head)
    exact ⟨early last kept, stored last (List.mem_append_left _ kept)⟩
  have whole := holds_foldl own fun next member =>
    ⟨late next member, stored next (List.mem_append_right _ (List.mem_cons_of_mem _ member))⟩
  obtain ⟨kept, member, same⟩ := whole
  exact ⟨kept, List.mem_reverse.mpr member, same⟩

theorem pairwise_confidenceFilter (minConfidence : κ) (results : List (PIIDetection κ)) :
    (confidenceFilter minConfidence (mergeOverlapping results)).Pairwise FollowedBy :=
  (pairwise_followedBy results).filter _

theorem detect_eq (minConfidence : κ) (results : List (PIIDetection κ)) :
    detect minConfidence results = confidenceFilter minConfidence (mergeOverlapping results) := by
  rw [detect]
  apply List.Pairwise.insertionSort_eq
  refine (pairwise_confidenceFilter minConfidence results).imp ?_
  intro first second before
  exact Nat.le_trans first.start_le before.1

theorem mem_detect {minConfidence : κ} : detection ∈ detect minConfidence results ↔
    detection ∈ mergeOverlapping results ∧ minConfidence ≤ detection.confidence := by
  rw [detect_eq, confidenceFilter, List.mem_filter, decide_eq_true_eq]

end Beats

section Origins

variable {κ α β : Type}

theorem map_replaceAll (f : α → β) (replacement : PIIDetection κ → List α) (text : List α)
    (detections : List (PIIDetection κ)) :
    (replaceAll replacement text detections).map f =
      replaceAll (fun detection => (replacement detection).map f) (text.map f) detections := by
  rw [replaceAll, replaceAll]
  induction lastFirst detections generalizing text with
  | nil => rfl
  | cons detection detections induction =>
      rw [List.foldl_cons, List.foldl_cons, induction, replaceSpan, replaceSpan, List.map_append,
        List.map_append, List.map_take, List.map_drop]

/-- What the redactor puts out, the characters of the text by their positions. -/
def origins (upper : Text → Text) (text : Text) (detections : List (PIIDetection κ)) :
    List (Nat ⊕ Char) :=
  replaceAll (fun detection => (replacementText upper detection).map Sum.inr)
    ((List.range text.length).map Sum.inl) detections

/-- The character at a position is in the redactor's output. -/
def LeftInPlace (upper : Text → Text) (text : Text) (detections : List (PIIDetection κ))
    (position : Nat) : Prop :=
  Sum.inl position ∈ origins upper text detections

instance (upper : Text → Text) (text : Text) (detections : List (PIIDetection κ))
    (position : Nat) : Decidable (LeftInPlace upper text detections position) :=
  decidable_of_iff (∃ origin ∈ origins upper text detections, Sum.inl position = origin)
    exists_eq_right'

def originChar (text : Text) : Nat ⊕ Char → Char
  | .inl position => text.getD position ' '
  | .inr c => c

theorem apply_eq_origins (upper : Text → Text) (text : Text)
    (detections : List (PIIDetection κ)) :
    apply .mask upper text detections =
      some ((origins upper text detections).map (originChar text)) := by
  have whole : ((List.range text.length).map Sum.inl).map (originChar text) = text := by
    apply List.ext_getElem (by simp)
    intro position left right
    have there : position < text.length := right
    simp [originChar, there]
  have brought : (fun detection : PIIDetection κ =>
      ((replacementText upper detection).map Sum.inr).map (originChar text)) =
        replacementText upper := by
    funext detection
    rw [List.map_map]
    exact List.map_id _
  rw [apply, origins, map_replaceAll, whole, brought]

theorem leftInPlace_iff (upper : Text → Text) {text : Text} {detections : List (PIIDetection κ)}
    (followed : detections.Pairwise FollowedBy)
    (inBounds : ∀ detection ∈ detections, detection.stop ≤ text.length) (position : Nat) :
    LeftInPlace upper text detections position ↔
      position < text.length ∧ ∀ detection ∈ detections, ¬ detection.Covers position := by
  have bounds : ∀ detection ∈ detections,
      detection.stop ≤ ((List.range text.length).map (Sum.inl : Nat → Nat ⊕ Char)).length := by
    simpa using inBounds
  have members := fun detection => (perm_lastFirst detections).mem_iff (a := detection)
  rw [LeftInPlace, origins, replaceAll_eq _ followed bounds,
    mem_spliceFrom_marks (fun _ _ => Sum.inl.inj) (by simp) (ordered_lastFirst followed)
      (fun detection member =>
        ⟨detection.start_le, inBounds detection ((members detection).mp member)⟩)
      fun _ _ => Nat.zero_le _]
  simp only [Nat.zero_le, true_and, members, PIIDetection.Covers]

end Origins

/-- A character that a confident, unbeaten detection covers is covered by a
returned one, and the redactor does not leave it in place. -/
theorem confident_covered {κ : Type} [LinearOrder κ] (upper : Text → Text) {text : Text}
    {results : List (PIIDetection κ)}
    (inBounds : ∀ detection ∈ results, detection.stop ≤ text.length) (minConfidence : κ) :
    apply .mask upper text (detect minConfidence results) =
      some ((origins upper text (detect minConfidence results)).map (originChar text)) ∧
    ∀ detection ∈ results, minConfidence ≤ detection.confidence →
      (∀ other ∈ results, ¬ Beats other detection) →
      ∀ position, detection.Covers position →
        (∃ returned ∈ detect minConfidence results, returned.Covers position) ∧
        ¬ LeftInPlace upper text (detect minConfidence results) position := by
  refine ⟨apply_eq_origins upper text _, ?_⟩
  intro detection found confident unbeaten position covered
  obtain ⟨kept, merged, start, stop, surer⟩ := holds_mergeOverlapping found
    (Nat.lt_of_le_of_lt covered.1 covered.2) unbeaten
  have returned : kept ∈ detect minConfidence results :=
    mem_detect.mpr ⟨merged, le_trans confident surer⟩
  have covers : kept.Covers position := by
    rw [PIIDetection.Covers, start, stop]
    exact covered
  refine ⟨⟨kept, returned, covers⟩, ?_⟩
  have followed : (detect minConfidence results).Pairwise FollowedBy := by
    rw [detect_eq]
    exact pairwise_confidenceFilter minConfidence results
  rw [leftInPlace_iff upper followed fun other member =>
    inBounds other (mem_mergeOverlapping (mem_detect.mp member).1)]
  rintro ⟨_, free⟩
  exact free kept returned covers

theorem confident_covered_emailAndName :
    ¬ LeftInPlace (fun text => text) "to ann@x.org!".toList (detect 70 emailAndName) 11 := by
  have covered := (confident_covered (fun text => text)
    (show ∀ detection ∈ emailAndName, detection.stop ≤ "to ann@x.org!".toList.length by decide)
    70).2
  exact (covered emailAndName[1] (List.getElem_mem _) (by decide) (by decide) 11 (by decide)).2

/-- Two confident detections of which the second one reaches further. -/
def phoneAndNumber : List (PIIDetection Nat) :=
  [{ type := "phone".toList
     value := "5551234567".toList
     start := 0
     stop := 10
     start_le := by decide
     confidence := 95
     method := "regex".toList },
    { type := "date".toList
      value := "67 2024".toList
      start := 8
      stop := 15
      start_le := by decide
      confidence := 85
      method := "spacy_ner".toList }]

/-- What the shorter of two overlapping detections covers beyond the longer one
is left in place, although it is confident. -/
theorem confident_uncovered :
    (∃ detection ∈ phoneAndNumber, 70 ≤ detection.confidence ∧ detection.Covers 14) ∧
      (∀ returned ∈ detect 70 phoneAndNumber, ¬ returned.Covers 14) ∧
      LeftInPlace (fun text => text) "5551234567 2024".toList (detect 70 phoneAndNumber) 14 := by
  decide +kernel

end OpenZync.Pii
