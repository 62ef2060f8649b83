import OpenZync.Facts.TemporalService

/-!
# Overlapping facts and who watches them

The exclusion constraint forbids an overlap within one episode, the check
reports one between two episodes.  The pairs between them are the ones without
an episode, the ones without a complete triple, and the ones the check does not
see because one of the two is not effective when it scans.
-/

namespace OpenZync.Facts

open OpenZync.Library

theorem mem_pairs {α : Type} {items : List α} {a b : α} :
    (a, b) ∈ pairs items ↔ [a, b].Sublist items := by
  induction items with
  | nil => simp [pairs]
  | cons first rest induction =>
      simp only [pairs, List.mem_append, List.mem_map, Prod.mk.injEq, induction]
      constructor
      · rintro (⟨second, member, rfl, rfl⟩ | later)
        · exact (List.singleton_sublist.mpr member).cons_cons first
        · exact later.cons first
      · intro sublist
        cases sublist with
        | cons _ later => exact .inr later
        | cons_cons _ single => exact .inl ⟨b, List.singleton_sublist.mp single, rfl, rfl⟩

/-- Two items of a list stand in some order. -/
theorem mem_pairs_of_ne {α : Type} {items : List α} {a b : α} (aMember : a ∈ items)
    (bMember : b ∈ items) (different : a ≠ b) : (a, b) ∈ pairs items ∨ (b, a) ∈ pairs items := by
  induction items with
  | nil => cases aMember
  | cons first rest induction =>
      simp only [pairs, List.mem_append, List.mem_map, Prod.mk.injEq]
      rcases List.mem_cons.mp aMember with rfl | aLater
      · have bLater := (List.mem_cons.mp bMember).resolve_left (Ne.symm different)
        exact .inl (.inl ⟨b, bLater, rfl, rfl⟩)
      · rcases List.mem_cons.mp bMember with rfl | bLater
        · exact .inr (.inl ⟨a, aLater, rfl, rfl⟩)
        · exact (induction aLater bLater).imp .inr .inr

theorem mem_of_mem_pairs {α : Type} {items : List α} {a b : α} (member : (a, b) ∈ pairs items) :
    a ∈ items ∧ b ∈ items := by
  have sublist := (mem_pairs.mp member).subset
  exact ⟨sublist (by simp), sublist (by simp)⟩

theorem pairs_eq_nil {α : Type} {items : List α} (short : items.length < 2) :
    pairs items = [] := by
  cases items with
  | nil => rfl
  | cons first rest =>
      cases rest with
      | nil => rfl
      | cons second rest =>
          rw [List.length_cons, List.length_cons] at short
          omega

theorem rangesOverlap_comm (fromA toA fromB toB : Option Time) :
    rangesOverlap fromA toA fromB toB = rangesOverlap fromB toB fromA toA :=
  Bool.and_comm _ _

/-- The validity ranges of two facts have a common instant. -/
def Fact.Intersects (a b : Fact) : Prop :=
  a.validity.Meets b.validity

/-- `&&` of the constraint is the common instant. -/
theorem rangesOverlap_iff_intersects {a b : Fact} : a.RangesOverlap b ↔ a.Intersects b := by
  rw [Fact.Intersects, HalfOpen.meets_iff]
  exact Iff.rfl

section

variable {printing : Printing} {projectId : Uuid} {organizationId : Option Uuid}
variable {facts : List Fact} {now : Time} {a b : Fact}

@[simp] theorem overlapWarning_factIds :
    (overlapWarning printing projectId a b).detail.factIds = some (a.id, b.id) :=
  rfl

/-- The check compares two facts of different episodes. -/
def Compared (a b : Fact) : Prop :=
  a.sourceEpisodeId ≠ b.sourceEpisodeId ∧
    rangesOverlap a.validFrom a.validTo b.validFrom b.validTo = true

theorem Compared.symm (compared : Compared a b) : Compared b a :=
  ⟨compared.1.symm, rangesOverlap_comm _ _ _ _ ▸ compared.2⟩

theorem checkPair_eq_some {pair : Fact × Fact} {warning : TemporalWarning} :
    checkPair printing projectId pair = some warning ↔
      Compared pair.1 pair.2 ∧ overlapWarning printing projectId pair.1 pair.2 = warning := by
  unfold checkPair Compared
  by_cases episode : pair.1.sourceEpisodeId = pair.2.sourceEpisodeId
  · simp [episode]
  · by_cases overlap : rangesOverlap pair.1.validFrom pair.1.validTo pair.2.validFrom
        pair.2.validTo = true <;> simp [episode, overlap]

theorem mem_checkGroup {group : List Fact} {warning : TemporalWarning} :
    warning ∈ checkGroup printing projectId group ↔
      ∃ pair ∈ pairs group, Compared pair.1 pair.2 ∧
        overlapWarning printing projectId pair.1 pair.2 = warning := by
  have every : checkGroup printing projectId group =
      (pairs group).filterMap (checkPair printing projectId) := by
    unfold checkGroup
    split
    · rename_i short
      rw [pairs_eq_nil short, List.filterMap_nil]
    · rfl
  simp only [every, List.mem_filterMap, checkPair_eq_some]

theorem mem_checkProject {warning : TemporalWarning} :
    warning ∈ checkProjectTemporalConsistency printing projectId facts organizationId now ↔
      ∃ key, ∃ pair ∈ pairs ((getAllActiveForProject facts projectId organizationId now).filter
          fun fact => decide (fact.tripleKey = key)),
        Compared pair.1 pair.2 ∧
          overlapWarning printing projectId pair.1 pair.2 = warning := by
  let groups := Library.Dict.grouped Fact.tripleKey
    (getAllActiveForProject facts projectId organizationId now)
  have group : ∀ key, (groups.get? key).getD [] =
      (getAllActiveForProject facts projectId organizationId now).filter
        fun fact => decide (fact.tripleKey = key) :=
    Library.Dict.getD_get?_grouped Fact.tripleKey _
  simp only [checkProjectTemporalConsistency, List.mem_flatMap, mem_checkGroup]
  constructor
  · rintro ⟨⟨key, items⟩, stored, pair, member, warned⟩
    have found := Library.Dict.mem_items_iff.mp stored
    refine ⟨key, pair, ?_, warned⟩
    rw [← group key, found]
    exact member
  · rintro ⟨key, pair, member, warned⟩
    have first := (mem_of_mem_pairs (a := pair.1) (b := pair.2) member).1
    rw [List.mem_filter, decide_eq_true_eq] at first
    have found := Library.Dict.get?_grouped_of_mem Fact.tripleKey first.1
    rw [first.2] at found
    exact ⟨(key, _), Library.Dict.mem_items_iff.mpr found, pair, member, warned⟩

theorem compared_of_reported (primaryKey : (facts.map Fact.id).Nodup) (aMember : a ∈ facts)
    (bMember : b ∈ facts) {warning : TemporalWarning}
    (reported : warning ∈
      checkProjectTemporalConsistency printing projectId facts organizationId now)
    (named : warning.detail.factIds = some (a.id, b.id)) :
    a.EffectiveAt now ∧ b.EffectiveAt now ∧ Compared a b := by
  obtain ⟨key, ⟨first, second⟩, member, compared, rfl⟩ := mem_checkProject.mp reported
  obtain ⟨firstIn, secondIn⟩ := mem_of_mem_pairs member
  have firstActive := mem_getAllActiveForProject.mp (List.mem_of_mem_filter firstIn)
  have secondActive := mem_getAllActiveForProject.mp (List.mem_of_mem_filter secondIn)
  rw [overlapWarning_factIds, Option.some_inj, Prod.mk.injEq] at named
  have firstEq := List.inj_on_of_nodup_map primaryKey firstActive.1 aMember named.1
  have secondEq := List.inj_on_of_nodup_map primaryKey secondActive.1 bMember named.2
  subst firstEq secondEq
  exact ⟨firstActive.2.2, secondActive.2.2, compared⟩

theorem reportsPair_iff (primaryKey : (facts.map Fact.id).Nodup) (aMember : a ∈ facts)
    (bMember : b ∈ facts) (different : a ≠ b) (same : a.tripleKey = b.tripleKey)
    (aProject : a.InProject projectId organizationId)
    (bProject : b.InProject projectId organizationId) :
    ReportsPair (checkProjectTemporalConsistency printing projectId facts organizationId now)
        a b ↔
      a.EffectiveAt now ∧ b.EffectiveAt now ∧ Compared a b := by
  constructor
  · rintro ⟨warning, reported, named | named⟩
    · exact compared_of_reported primaryKey aMember bMember reported named
    · obtain ⟨bEffective, aEffective, compared⟩ :=
        compared_of_reported primaryKey bMember aMember reported named
      exact ⟨aEffective, bEffective, compared.symm⟩
  · rintro ⟨aEffective, bEffective, compared⟩
    have grouped : ∀ {x : Fact}, x ∈ facts → x.InProject projectId organizationId →
        x.EffectiveAt now → x.tripleKey = a.tripleKey →
        x ∈ (getAllActiveForProject facts projectId organizationId now).filter
          fun fact => decide (fact.tripleKey = a.tripleKey) := by
      intro x member inProject effective key
      exact List.mem_filter.mpr
        ⟨mem_getAllActiveForProject.mpr ⟨member, inProject, effective⟩, decide_eq_true key⟩
    rcases mem_pairs_of_ne (grouped aMember aProject aEffective rfl)
        (grouped bMember bProject bEffective same.symm) different with forward | backward
    · exact ⟨_, mem_checkProject.mpr ⟨_, _, forward, compared, rfl⟩, .inl rfl⟩
    · exact ⟨_, mem_checkProject.mpr ⟨_, _, backward, compared.symm, rfl⟩, .inr rfl⟩

end

/-- Two facts that assert the same triple at a common instant. -/
structure Fact.Repeats (a b : Fact) : Prop where
  different : a ≠ b
  unretracted : a.invalidAt = none ∧ b.invalidAt = none
  sameTriple : a.tripleKey = b.tripleKey
  intersects : a.Intersects b

/-- The constraint compares the two facts. -/
def Fact.Constrained (a b : Fact) : Prop :=
  SqlEq a.sourceEpisodeId b.sourceEpisodeId ∧ a.subject.isSome = true ∧
    a.predicate.isSome = true ∧ a.object.isSome = true

instance (a b : Fact) : Decidable (a.Constrained b) :=
  inferInstanceAs (Decidable (_ ∧ _ ∧ _ ∧ _))

/-- One fact starts at the last datetime and the other has no end. -/
def LastInstant (a b : HalfOpen Time) : Prop :=
  a.lower = some datetimeMax ∧ b.upper = none

instance (a b : HalfOpen Time) : Decidable (LastInstant a b) :=
  inferInstanceAs (Decidable (_ ∧ _))

/-- The check sees and compares the two facts. -/
def Fact.Checked (now : Time) (a b : Fact) : Prop :=
  a.sourceEpisodeId ≠ b.sourceEpisodeId ∧ a.EffectiveAt now ∧ b.EffectiveAt now ∧
    ¬ LastInstant a.validity b.validity ∧ ¬ LastInstant b.validity a.validity

instance (now : Time) (a b : Fact) : Decidable (a.Checked now b) :=
  inferInstanceAs (Decidable (_ ∧ _ ∧ _ ∧ _ ∧ _))

theorem startsBefore_effective {now : Time} (clock : IsDatetime now) {a b : Fact}
    (aEffective : a.EffectiveAt now) (bEffective : b.EffectiveAt now) :
    a.validFrom.getD datetimeMin < b.validTo.getD datetimeMax ↔
      ¬ LastInstant a.validity b.validity := by
  have started : a.validFrom.getD datetimeMin ≤ now := by
    cases starts : a.validFrom with
    | none => exact clock.1
    | some start => exact aEffective.2.1 start starts
  unfold LastInstant Fact.validity
  cases ends : b.validTo with
  | some stop =>
      have running := bEffective.2.2 stop ends
      simpa using lt_of_le_of_lt started running
  | none =>
      have inside : a.validFrom.getD datetimeMin ≤ datetimeMax := le_trans started clock.2
      cases starts : a.validFrom with
      | none => exact iff_of_true (by decide) (by simp)
      | some start =>
          rw [starts] at inside
          simpa using lt_iff_le_and_ne.trans (and_iff_right inside)

theorem excludes_iff {a b : Fact} (repeats : a.Repeats b) :
    a.Excludes b ↔ a.Constrained b := by
  have same := repeats.sameTriple
  simp only [Fact.tripleKey, Prod.mk.injEq] at same
  have overlap := rangesOverlap_iff_intersects.mpr repeats.intersects
  simp only [Fact.Excludes, Fact.Constrained, SqlEq, repeats.unretracted.1,
    repeats.unretracted.2, same.1, same.2.1, same.2.2, overlap, and_true, true_and]

/-- The bounds of a range that both a `tstzrange` and two datetimes can hold. -/
structure DatetimeRange extends HalfOpen Time where
  ordered : ∀ start ∈ lower, ∀ stop ∈ upper, start ≤ stop
  lowerDatetime : ∀ start ∈ lower, IsDatetime start
  upperDatetime : ∀ stop ∈ upper, IsDatetime stop

namespace DatetimeRange

/-- `&&` on two `'[)'` ranges. -/
def Overlaps (left right : DatetimeRange) : Prop :=
  left.toHalfOpen.Meets right.toHalfOpen

/-- An empty range strictly inside the other. -/
def EmptyInside (left right : DatetimeRange) : Prop :=
  ∃ t ∈ left.lower, left.upper = some t ∧ right.lower.getD datetimeMin < t ∧
    t < right.upper.getD datetimeMax

/-- Two ranges without a start, the first of which ends at the first datetime. -/
def FirstInstant (left right : DatetimeRange) : Prop :=
  left.lower = none ∧ right.lower = none ∧ left.upper = some datetimeMin

/-- The ranges on which the two comparisons differ. -/
def Disagree (left right : DatetimeRange) : Prop :=
  left.EmptyInside right ∨ right.EmptyInside left ∨
    left.FirstInstant right ∨ right.FirstInstant left ∨
    left.upper = none ∧ LastInstant left.toHalfOpen right.toHalfOpen ∨
    right.upper = none ∧ LastInstant right.toHalfOpen left.toHalfOpen

theorem rangesOverlap_iff_overlaps (left right : DatetimeRange) :
    (rangesOverlap left.lower left.upper right.lower right.upper = true ↔
      left.Overlaps right) ↔ ¬ left.Disagree right := by
  have first : datetimeMin < datetimeMax := by decide
  obtain ⟨⟨lowerA, upperA⟩, orderedA, startA, stopA⟩ := left
  obtain ⟨⟨lowerB, upperB⟩, orderedB, startB, stopB⟩ := right
  simp only [Overlaps, HalfOpen.meets_iff, rangesOverlap, HalfOpen.Proper, Disagree, EmptyInside,
    FirstInstant, LastInstant, Bool.and_eq_true, decide_eq_true_eq]
  simp only [IsDatetime] at startA stopA startB stopB
  generalize datetimeMin = low at *
  generalize datetimeMax = high at *
  cases lowerA <;> cases upperA <;> cases lowerB <;> cases upperB <;> simp at * <;> grind

end DatetimeRange

/-- Two facts repeating a triple are forbidden or reported when the constraint
or the check compares them, and the two notions of overlap differ on the listed
ranges only. -/
theorem overlaps_watched_iff (printing : Printing) (projectId : Uuid)
    (organizationId : Option Uuid) (facts : List Fact) (now : Time)
    (primaryKey : (facts.map Fact.id).Nodup) (clock : IsDatetime now) :
    (∀ a ∈ facts, ∀ b ∈ facts, a.InProject projectId organizationId →
      b.InProject projectId organizationId → a.Repeats b →
        (a.Excludes b ∨ ReportsPair
            (checkProjectTemporalConsistency printing projectId facts organizationId now) a b ↔
          a.Constrained b ∨ a.Checked now b)) ∧
    ∀ left right : DatetimeRange,
      (rangesOverlap left.lower left.upper right.lower right.upper = true ↔
        left.Overlaps right) ↔ ¬ left.Disagree right := by
  refine ⟨?_, DatetimeRange.rangesOverlap_iff_overlaps⟩
  intro a aMember b bMember aProject bProject repeats
  have reported : ReportsPair
      (checkProjectTemporalConsistency printing projectId facts organizationId now) a b ↔
        a.Checked now b := by
    rw [reportsPair_iff primaryKey aMember bMember repeats.different repeats.sameTriple aProject
      bProject]
    simp only [Compared, rangesOverlap, Bool.and_eq_true, decide_eq_true_eq, Fact.Checked]
    constructor
    · rintro ⟨aEffective, bEffective, episodes, forward, backward⟩
      exact ⟨episodes, aEffective, bEffective,
        (startsBefore_effective clock aEffective bEffective).mp forward,
        (startsBefore_effective clock bEffective aEffective).mp backward⟩
    · rintro ⟨episodes, aEffective, bEffective, forward, backward⟩
      exact ⟨aEffective, bEffective, episodes,
        (startsBefore_effective clock aEffective bEffective).mpr forward,
        (startsBefore_effective clock bEffective aEffective).mpr backward⟩
  rw [excludes_iff repeats, reported]

/-- Two open-ended facts of one triple. -/
theorem repeats_dated : (Fact.dated 1 none none none).Repeats (Fact.dated 2 none none none) :=
  { different := by decide
    unretracted := ⟨rfl, rfl⟩
    sameTriple := rfl
    intersects := ⟨0, by decide, by decide⟩ }

theorem overlaps_watched_iff_unsourced :
    ([Fact.dated 1 none none none, Fact.dated 2 none none none].map Fact.id).Nodup ∧
      IsDatetime 0 ∧ ¬ ((Fact.dated 1 none none none).Excludes (Fact.dated 2 none none none) ∨
        ReportsPair (checkProjectTemporalConsistency Printing.blank 1
          [Fact.dated 1 none none none, Fact.dated 2 none none none] none 0)
          (Fact.dated 1 none none none) (Fact.dated 2 none none none)) := by
  refine ⟨by decide, by decide, ?_⟩
  intro watched
  have divided := ((overlaps_watched_iff Printing.blank 1 none
    [Fact.dated 1 none none none, Fact.dated 2 none none none] 0 (by decide) (by decide)).1
      _ (by simp) _ (by simp) (by decide) (by decide) repeats_dated).mp watched
  revert divided
  decide

/-- Two facts without an episode fall between the constraint and the check, and
an empty range inside another one counts as an overlap. -/
theorem overlaps_unwatched :
    (¬ ∀ (printing : Printing) (projectId : Uuid) (organizationId : Option Uuid)
        (facts : List Fact) (now : Time), (facts.map Fact.id).Nodup → IsDatetime now →
      ∀ a ∈ facts, ∀ b ∈ facts, a.InProject projectId organizationId →
        b.InProject projectId organizationId → a.Repeats b →
          a.Excludes b ∨ ReportsPair
            (checkProjectTemporalConsistency printing projectId facts organizationId now) a b) ∧
    ¬ ∀ left right : DatetimeRange,
      (rangesOverlap left.lower left.upper right.lower right.upper = true ↔
        left.Overlaps right) := by
  constructor
  · intro watched
    have pair := watched Printing.blank 1 none
      [Fact.dated 1 none none none, Fact.dated 2 none none none] 0 (by decide) (by decide)
      _ (by simp) _ (by simp) (by decide) (by decide) repeats_dated
    rcases pair with excluded | reported
    · revert excluded
      decide
    · obtain ⟨_, _, compared⟩ := (reportsPair_iff (by decide) (by simp) (by simp)
        repeats_dated.different repeats_dated.sameTriple (by decide) (by decide)).mp reported
      exact compared.1 rfl
  · intro same
    have overlap := (same
      ⟨⟨some 5, some 5⟩, by decide, by decide, by decide⟩
      ⟨⟨some 0, some 10⟩, by decide, by decide, by decide⟩).mp (by decide)
    obtain ⟨t, inside, _⟩ := overlap
    exact absurd inside.proper (by decide)

end OpenZync.Facts
