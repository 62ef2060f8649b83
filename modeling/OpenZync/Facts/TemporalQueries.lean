import Mathlib.Algebra.Order.Ring.Int
import OpenZync.Facts.Store
import OpenZync.Library.HalfOpen

/-!
# Queries over the validity of facts

The reads of `FactRepository` that select facts by time.  A fact is effective
on the half-open range between the start and the earlier of the end and the
retraction; the range query compares the ends of the asked range with each of
the three columns, but never the columns with each other.
-/

namespace OpenZync.Facts

open OpenZync.Library

/-- A project scan, with the tenant filter when the caller passes one. -/
def Fact.InProject (fact : Fact) (projectId : Uuid) (organizationId : Option Uuid) : Prop :=
  fact.projectId = projectId ∧ ∀ orgId ∈ organizationId, fact.organizationId = orgId

instance (fact : Fact) (projectId : Uuid) (organizationId : Option Uuid) :
    Decidable (fact.InProject projectId organizationId) :=
  inferInstanceAs (Decidable (_ ∧ ∀ orgId ∈ organizationId, fact.organizationId = orgId))

/-- `ORDER BY valid_from ASC NULLS FIRST`. -/
def startsNoLater (left right : Fact) : Bool :=
  match left.validFrom, right.validFrom with
  | none, _ => true
  | some _, none => false
  | some first, some second => decide (first ≤ second)

/-- `get_all_active_for_project`, at the instant `now` of its own clock. -/
def getAllActiveForProject (facts : List Fact) (projectId : Uuid)
    (organizationId : Option Uuid) (now : Time) : List Fact :=
  (facts.filter fun fact =>
    decide (fact.InProject projectId organizationId) && decide (fact.EffectiveAt now)).mergeSort
      startsNoLater

/-- The three bound conditions of `get_facts_in_range`. -/
def Fact.ReachesRange (fact : Fact) (start stop : Time) : Prop :=
  (∀ instant ∈ fact.invalidAt, start < instant) ∧
    (∀ lower ∈ fact.validFrom, lower < stop) ∧
    (∀ upper ∈ fact.validTo, start < upper)

instance (fact : Fact) (start stop : Time) : Decidable (fact.ReachesRange start stop) :=
  inferInstanceAs (Decidable (_ ∧ _ ∧ _))

/-- The rows that `get_facts_in_range` cuts its page from. -/
def factsInRange (facts : List Fact) (projectId : Uuid) (organizationId : Option Uuid)
    (start stop : Time) : List Fact :=
  (facts.filter fun fact =>
    decide (fact.InProject projectId organizationId) &&
      decide (fact.ReachesRange start stop)).mergeSort startsNoLater

def getFactsInRange (facts : List Fact) (projectId : Uuid) (organizationId : Option Uuid)
    (start stop : Time) (limit offset : Nat) : List Fact :=
  ((factsInRange facts projectId organizationId start stop).drop offset).take (min limit 200)

section

variable {facts : List Fact} {fact : Fact} {projectId : Uuid} {organizationId : Option Uuid}
variable {now start stop : Time}

@[simp] theorem mem_getAllActiveForProject :
    fact ∈ getAllActiveForProject facts projectId organizationId now ↔
      fact ∈ facts ∧ fact.InProject projectId organizationId ∧ fact.EffectiveAt now := by
  simp [getAllActiveForProject]

@[simp] theorem mem_factsInRange :
    fact ∈ factsInRange facts projectId organizationId start stop ↔
      fact ∈ facts ∧ fact.InProject projectId organizationId ∧
        fact.ReachesRange start stop := by
  simp [factsInRange]

/-- Whatever the limit, every row of the listing is on some page. -/
theorem mem_pages :
    (∃ limit offset,
        fact ∈ getFactsInRange facts projectId organizationId start stop limit offset) ↔
      fact ∈ factsInRange facts projectId organizationId start stop := by
  constructor
  · rintro ⟨limit, offset, member⟩
    exact List.mem_of_mem_drop (List.mem_of_mem_take member)
  · intro member
    obtain ⟨before, after, split⟩ := List.append_of_mem member
    refine ⟨1, before.length, ?_⟩
    rw [getFactsInRange, split, List.drop_left]
    exact List.mem_cons_self

end

namespace Fact

/-- `[valid_from, valid_to)`. -/
def validity (fact : Fact) : HalfOpen Time :=
  ⟨fact.validFrom, fact.validTo⟩

/-- The instants before the retraction. -/
def unretracted (fact : Fact) : HalfOpen Time :=
  ⟨none, fact.invalidAt⟩

/-- The instants a fact is effective at. -/
def life (fact : Fact) : HalfOpen Time :=
  fact.validity.inter fact.unretracted

/-- The fact starts before it ends and before it is retracted. -/
def Lives (fact : Fact) : Prop :=
  StartsBefore fact.validFrom fact.validTo ∧ StartsBefore fact.validFrom fact.invalidAt

instance (fact : Fact) : Decidable fact.Lives :=
  inferInstanceAs (Decidable (_ ∧ _))

theorem contains_life {fact : Fact} {t : Time} :
    fact.life.Contains t ↔ fact.EffectiveAt t := by
  rw [life, HalfOpen.contains_inter]
  simp only [HalfOpen.Contains, validity, unretracted, EffectiveAt, Option.not_mem_none,
    IsEmpty.forall_iff, implies_true, true_and]
  exact and_comm

theorem proper_life {fact : Fact} : fact.life.Proper ↔ fact.Lives := by
  rw [life, HalfOpen.proper_inter]
  simp [HalfOpen.Proper, validity, unretracted, Lives, StartsBefore]

theorem lives_iff {fact : Fact} : fact.Lives ↔ ∃ t, fact.EffectiveAt t := by
  rw [← proper_life, ← HalfOpen.exists_contains_iff]
  simp only [contains_life]

end Fact

theorem reachesRange_iff {fact : Fact} {start stop : Time} :
    fact.ReachesRange start stop ↔
      (HalfOpen.mk fact.life.lower (some stop)).Proper ∧
        (HalfOpen.mk (some start) fact.life.upper).Proper := by
  have lower : fact.life.lower = fact.validFrom := by
    exact Option.merge_none_right
  have upper : (∀ bound ∈ fact.life.upper, start < bound) ↔
      (∀ bound ∈ fact.validTo, start < bound) ∧ ∀ bound ∈ fact.invalidAt, start < bound :=
    HalfOpen.forall_mem_merge (fun x y => lt_min_iff) fact.validTo fact.invalidAt
  simp only [HalfOpen.Proper, lower, Option.mem_some_iff, forall_eq', upper, Fact.ReachesRange]
  tauto

theorem effective_within_iff {fact : Fact} {start stop : Time} (forward : start < stop) :
    (∃ t, start ≤ t ∧ t < stop ∧ fact.EffectiveAt t) ↔
      fact.Lives ∧ fact.ReachesRange start stop := by
  have window : ∀ t, (HalfOpen.mk (some start) (some stop)).Contains t ↔
      start ≤ t ∧ t < stop := by
    intro t
    simp [HalfOpen.Contains]
  have common : (∃ t, start ≤ t ∧ t < stop ∧ fact.EffectiveAt t) ↔
      fact.life.Meets ⟨some start, some stop⟩ := by
    simp only [HalfOpen.Meets, window, Fact.contains_life]
    constructor
    · rintro ⟨t, after, before, effective⟩
      exact ⟨t, effective, after, before⟩
    · rintro ⟨t, effective, after, before⟩
      exact ⟨t, after, before, effective⟩
  have ordered : (HalfOpen.mk (some start) (some stop)).Proper := by
    simpa [HalfOpen.Proper] using forward
  rw [common, HalfOpen.meets_iff, Fact.proper_life, reachesRange_iff]
  apply and_congr_right
  intro _
  exact and_iff_right ordered

/-- The pages of the range query hold the facts effective within the range when
every fact the range reaches lives, and only then. -/
theorem factsInRange_iff_effective (facts : List Fact) (projectId : Uuid)
    (organizationId : Option Uuid) {start stop : Time} (forward : start < stop) :
    (∀ fact, (∃ limit offset, fact ∈
        getFactsInRange facts projectId organizationId start stop limit offset) ↔
          fact ∈ facts ∧ fact.InProject projectId organizationId ∧
            ∃ t, start ≤ t ∧ t < stop ∧ fact.EffectiveAt t) ↔
      ∀ fact ∈ facts, fact.InProject projectId organizationId →
        fact.ReachesRange start stop → fact.Lives := by
  simp only [mem_pages, mem_factsInRange, effective_within_iff forward]
  constructor
  · intro exactly fact member inProject reaches
    exact ((exactly fact).mp ⟨member, inProject, reaches⟩).2.2.1
  · intro live fact
    constructor
    · rintro ⟨member, inProject, reaches⟩
      exact ⟨member, inProject, live fact member inProject reaches, reaches⟩
    · rintro ⟨member, inProject, _, reaches⟩
      exact ⟨member, inProject, reaches⟩

/-- A row of the first project with the given bounds. -/
def Fact.dated (id : Uuid) (validFrom validTo invalidAt : Option Time) : Fact :=
  { id := id
    organizationId := 1
    projectId := 1
    userId := 1
    content := "Ana likes tea".toList
    subject := some "Ana".toList
    predicate := some "likes".toList
    object := some "tea".toList
    subjectType := "literal".toList
    objectType := "literal".toList
    confidence := 1
    sourceEpisodeId := none
    subjectEntityId := none
    objectEntityId := none
    validFrom := validFrom
    validTo := validTo
    invalidAt := invalidAt
    supersededByFactId := none }

theorem factsInRange_iff_effective_superseded :
    (0 : Time) < 10 ∧ ((∀ fact, (∃ limit offset, fact ∈
        getFactsInRange [Fact.dated 1 none (some 5) none] 1 none 0 10 limit offset) ↔
          fact ∈ [Fact.dated 1 none (some 5) none] ∧ fact.InProject 1 none ∧
            ∃ t, 0 ≤ t ∧ t < 10 ∧ fact.EffectiveAt t) ↔
      ∀ fact ∈ [Fact.dated 1 none (some 5) none], fact.InProject 1 none →
        fact.ReachesRange 0 10 → fact.Lives) :=
  ⟨by decide, factsInRange_iff_effective [Fact.dated 1 none (some 5) none] 1 none (by decide)⟩

/-- A fact whose range is empty is returned for a range around its one bound. -/
theorem factsInRange_emptyRange :
    ¬ ∀ (facts : List Fact) (projectId : Uuid) (organizationId : Option Uuid)
        (start stop : Time), start < stop →
      ∀ fact, (∃ limit offset, fact ∈
        getFactsInRange facts projectId organizationId start stop limit offset) ↔
          fact ∈ facts ∧ fact.InProject projectId organizationId ∧
            ∃ t, start ≤ t ∧ t < stop ∧ fact.EffectiveAt t := by
  intro exactly
  have returned := (exactly [Fact.dated 1 (some 5) (some 5) none] 1 none 0 10 (by decide)
    (Fact.dated 1 (some 5) (some 5) none)).mp
      (mem_pages.mpr (mem_factsInRange.mpr (by decide)))
  obtain ⟨_, _, t, _, _, effective⟩ := returned
  exact absurd (Fact.lives_iff.mpr ⟨t, effective⟩) (by decide)

end OpenZync.Facts
