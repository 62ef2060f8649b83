import Mathlib.Data.Rat.Defs
import OpenZync.Text

/-!
# The fact table

Rows of `facts` and `fact_invalidation_events`, and the statements of
`FactRepository` that write them.  A `FactStore` carries the constraints the
database enforces on every statement: the primary key, the ordered bounds
without which `tstzrange` raises, and the exclusion constraint
`uq_facts_temporal_excl`.  A statement that would break one of them fails, so
no later proof has to re-establish them.
-/

namespace OpenZync.Facts

/-- A row of `facts`. -/
structure Fact where
  id : Uuid
  organizationId : Uuid
  projectId : Uuid
  userId : Uuid
  content : Text
  subject : Option Text
  predicate : Option Text
  object : Option Text
  subjectType : Text
  objectType : Text
  confidence : Rat
  sourceEpisodeId : Option Uuid
  subjectEntityId : Option Uuid
  objectEntityId : Option Uuid
  validFrom : Option Time
  validTo : Option Time
  invalidAt : Option Time
  supersededByFactId : Option Uuid
  deriving DecidableEq

/-- The kinds admitted by `ck_fact_invalidation_events_kind`. -/
inductive InvalidationKind where
  | superseded
  | retracted
  | llmInvalidated
  | timeExpired
  deriving DecidableEq

/-- A row of `fact_invalidation_events`. -/
structure InvalidationEvent where
  organizationId : Uuid
  projectId : Uuid
  oldFactId : Uuid
  newFactId : Option Uuid
  kind : InvalidationKind
  reason : Option Text
  atTime : Time
  sourceEpisodeId : Option Uuid
  deriving DecidableEq

/-- What a statement or a repository guard raises. -/
inductive FactError where
  /-- `ValidationError` of the born-dead guard, with its `detail` triple. -/
  | bornDead (subject predicate object : Text)
  /-- `ValidationError` for a reference the LLM was not given. -/
  | unknownFactRef (ref : Option Text)
  | unknownSuccessorRef (ref : Text)
  /-- `NotFoundError` of `retract_fact`. -/
  | notFound (factId : Uuid)
  /-- `IntegrityError` raised by `uq_facts_temporal_excl`. -/
  | exclusionViolation
  /-- `tstzrange` with its lower bound above its upper bound. -/
  | rangeBounds
  deriving DecidableEq

/-- A lower bound lies strictly before an upper bound; `none` is the infinite
bound on either side. -/
def StartsBefore (lower upper : Option Time) : Prop :=
  ∀ start ∈ lower, ∀ stop ∈ upper, start < stop

instance (lower upper : Option Time) : Decidable (StartsBefore lower upper) :=
  inferInstanceAs (Decidable (∀ start ∈ lower, ∀ stop ∈ upper, start < stop))

/-- SQL equality: never true of `NULL`. -/
def SqlEq {α : Type} (left right : Option α) : Prop :=
  left.isSome = true ∧ left = right

instance {α : Type} [DecidableEq α] (left right : Option α) :
    Decidable (SqlEq left right) :=
  inferInstanceAs (Decidable (_ ∧ _))

namespace Fact

/-- `_effective_at_clause`. -/
def EffectiveAt (fact : Fact) (t : Time) : Prop :=
  (∀ instant ∈ fact.invalidAt, t < instant) ∧
    (∀ start ∈ fact.validFrom, start ≤ t) ∧
    (∀ stop ∈ fact.validTo, t < stop)

instance (fact : Fact) (t : Time) : Decidable (fact.EffectiveAt t) :=
  inferInstanceAs (Decidable (_ ∧ _ ∧ _))

/-- The tenant filter of every scan. -/
def InScope (fact : Fact) (orgId projectId : Uuid) : Prop :=
  fact.organizationId = orgId ∧ fact.projectId = projectId

instance (fact : Fact) (orgId projectId : Uuid) :
    Decidable (fact.InScope orgId projectId) :=
  inferInstanceAs (Decidable (_ ∧ _))

/-- Both entity IDs resolve. -/
def Resolved (fact : Fact) : Prop :=
  fact.subjectEntityId.isSome = true ∧ fact.objectEntityId.isSome = true

instance (fact : Fact) : Decidable fact.Resolved :=
  inferInstanceAs (Decidable (_ ∧ _))

/-- `tstzrange(COALESCE(valid_from, '-infinity'), COALESCE(valid_to,
'infinity'), '[)')` does not raise. -/
def RangeOrdered (fact : Fact) : Prop :=
  ∀ start ∈ fact.validFrom, ∀ stop ∈ fact.validTo, start ≤ stop

instance (fact : Fact) : Decidable fact.RangeOrdered :=
  inferInstanceAs
    (Decidable (∀ start ∈ fact.validFrom, ∀ stop ∈ fact.validTo, start ≤ stop))

/-- The `&&` operator on the two validity ranges.  An empty range overlaps
nothing. -/
def RangesOverlap (left right : Fact) : Prop :=
  StartsBefore left.validFrom left.validTo ∧
    StartsBefore right.validFrom right.validTo ∧
    StartsBefore left.validFrom right.validTo ∧
    StartsBefore right.validFrom left.validTo

instance (left right : Fact) : Decidable (left.RangesOverlap right) :=
  inferInstanceAs (Decidable (_ ∧ _ ∧ _ ∧ _))

/-- Two rows that `uq_facts_temporal_excl` does not admit together. -/
def Excludes (left right : Fact) : Prop :=
  left.invalidAt = none ∧ right.invalidAt = none ∧
    SqlEq left.sourceEpisodeId right.sourceEpisodeId ∧
    SqlEq left.subject right.subject ∧
    SqlEq left.predicate right.predicate ∧
    SqlEq left.object right.object ∧
    left.RangesOverlap right

instance (left right : Fact) : Decidable (left.Excludes right) :=
  inferInstanceAs (Decidable (_ ∧ _ ∧ _ ∧ _ ∧ _ ∧ _ ∧ _))

end Fact

/-- The two tables, with the constraints of the schema as fields.  `nextId`
stands for `gen_random_uuid()`: the next identifier no row has used. -/
structure FactStore where
  facts : List Fact
  events : List InvalidationEvent
  nextId : Uuid
  primaryKey : (facts.map Fact.id).Nodup
  fresh : ∀ fact ∈ facts, fact.id < nextId
  ranges : ∀ fact ∈ facts, fact.invalidAt = none → fact.RangeOrdered
  temporalExcl : facts.Pairwise fun left right => ¬ left.Excludes right

namespace FactStore

def empty : FactStore :=
  { facts := []
    events := []
    nextId := 0
    primaryKey := List.nodup_nil
    fresh := by simp
    ranges := by simp
    temporalExcl := List.Pairwise.nil }

/-- Rewrite the row with the given key, leaving every other row. -/
def rewrite (facts : List Fact) (id : Uuid) (change : Fact → Fact) : List Fact :=
  facts.map fun fact => if fact.id = id then change fact else fact

theorem map_id_rewrite (facts : List Fact) (id : Uuid) (change : Fact → Fact)
    (keepsId : ∀ fact, (change fact).id = fact.id) :
    (rewrite facts id change).map Fact.id = facts.map Fact.id := by
  simp only [rewrite, List.map_map]
  apply List.map_congr_left
  intro fact _member
  by_cases same : fact.id = id <;> simp [same, keepsId]

/-- `UPDATE facts SET ... WHERE id = :id`. -/
def update (store : FactStore) (id : Uuid) (change : Fact → Fact)
    (keepsId : ∀ fact, (change fact).id = fact.id) :
    Except FactError FactStore :=
  if ranges : ∀ fact ∈ rewrite store.facts id change,
      fact.invalidAt = none → fact.RangeOrdered then
    if excl : (rewrite store.facts id change).Pairwise
        fun left right => ¬ left.Excludes right then
      .ok
        { store with
          facts := rewrite store.facts id change
          primaryKey := by
            rw [map_id_rewrite store.facts id change keepsId]
            exact store.primaryKey
          fresh := by
            intro fact member
            have idMember : fact.id ∈ store.facts.map Fact.id := by
              rw [← map_id_rewrite store.facts id change keepsId]
              exact List.mem_map_of_mem member
            obtain ⟨original, originalMember, sameId⟩ := List.mem_map.mp idMember
            rw [← sameId]
            exact store.fresh original originalMember
          ranges := ranges
          temporalExcl := excl }
    else .error .exclusionViolation
  else .error .rangeBounds

def setValidTo (store : FactStore) (id : Uuid) (now : Time) :
    Except FactError FactStore :=
  store.update id (fun fact => { fact with validTo := some now }) fun _ => rfl

def setInvalidAt (store : FactStore) (id : Uuid) (now : Time) :
    Except FactError FactStore :=
  store.update id (fun fact => { fact with invalidAt := some now }) fun _ => rfl

def setSupersededBy (store : FactStore) (id : Uuid) (successor : Option Uuid) :
    Except FactError FactStore :=
  store.update id (fun fact => { fact with supersededByFactId := successor })
    fun _ => rfl

def recordInvalidationEvent (store : FactStore) (event : InvalidationEvent) :
    FactStore :=
  { store with events := store.events ++ [event] }

/-- `INSERT INTO facts` of one row under a fresh identifier. -/
def insert (store : FactStore) (row : Fact) :
    Except FactError (Fact × FactStore) :=
  if ranges : row.invalidAt = none → row.RangeOrdered then
    if excl : ∀ other ∈ store.facts, ¬ other.Excludes { row with id := store.nextId } then
      .ok ({ row with id := store.nextId },
        { store with
          facts := store.facts ++ [{ row with id := store.nextId }]
          nextId := store.nextId + 1
          primaryKey := by
            rw [List.map_append, List.nodup_append]
            refine ⟨store.primaryKey, by simp, ?_⟩
            intro id idMember other otherMember same
            obtain ⟨fact, member, factId⟩ := List.mem_map.mp idMember
            have below := store.fresh fact member
            simp only [List.map_cons, List.map_nil, List.mem_singleton] at otherMember
            rw [factId, same, otherMember] at below
            exact Nat.lt_irrefl _ below
          fresh := by
            intro fact member
            rcases List.mem_append.mp member with old | new
            · exact Nat.lt_succ_of_lt (store.fresh fact old)
            · rw [List.mem_singleton.mp new]
              exact Nat.lt_succ_self _
          ranges := by
            intro fact member
            rcases List.mem_append.mp member with old | new
            · exact store.ranges fact old
            · rw [List.mem_singleton.mp new]
              exact ranges
          temporalExcl := by
            rw [List.pairwise_append]
            refine ⟨store.temporalExcl, List.pairwise_singleton _ _, ?_⟩
            intro left leftMember right rightMember
            rw [List.mem_singleton.mp rightMember]
            exact excl left leftMember })
    else .error .exclusionViolation
  else .error .rangeBounds

/-- Every successful `UPDATE` rewrites exactly the addressed row. -/
theorem update_ok {store store' : FactStore} {id : Uuid} {change : Fact → Fact}
    {keepsId : ∀ fact, (change fact).id = fact.id}
    (updated : store.update id change keepsId = .ok store') :
    store'.facts = rewrite store.facts id change ∧
      store'.events = store.events ∧ store'.nextId = store.nextId := by
  unfold update at updated
  split at updated
  · split at updated
    · cases updated
      exact ⟨rfl, rfl, rfl⟩
    · cases updated
  · cases updated

theorem update_exists {store : FactStore} {id : Uuid} {change : Fact → Fact}
    (keepsId : ∀ fact, (change fact).id = fact.id)
    (ordered : ∀ fact ∈ rewrite store.facts id change, fact.invalidAt = none → fact.RangeOrdered)
    (apart : (rewrite store.facts id change).Pairwise fun left right => ¬ left.Excludes right) :
    ∃ store', store.update id change keepsId = .ok store' := by
  rw [update, dif_pos ordered, dif_pos apart]
  exact ⟨_, rfl⟩

/-- Every successful `INSERT` appends the row under the next identifier. -/
theorem insert_ok {store store' : FactStore} {row fact : Fact}
    (inserted : store.insert row = .ok (fact, store')) :
    fact = { row with id := store.nextId } ∧
      store'.facts = store.facts ++ [fact] ∧
      store'.events = store.events ∧ store'.nextId = store.nextId + 1 := by
  unfold insert at inserted
  split at inserted
  · split at inserted
    · cases inserted
      exact ⟨rfl, rfl, rfl, rfl⟩
    · cases inserted
  · cases inserted

theorem insert_admits {store store' : FactStore} {row fact : Fact}
    (inserted : store.insert row = .ok (fact, store')) :
    ∀ other ∈ store.facts, ¬ other.Excludes row := by
  unfold insert at inserted
  split at inserted
  · split at inserted
    · rename_i admitted
      exact admitted
    · cases inserted
  · cases inserted

theorem insert_exclusionViolation {store : FactStore} {row : Fact}
    (refused : store.insert row = .error .exclusionViolation) :
    ∃ other ∈ store.facts, other.Excludes row := by
  unfold insert at refused
  split at refused
  · split at refused
    · cases refused
    · rename_i excluded
      by_contra admitted
      exact excluded fun other member found => admitted ⟨other, member, found⟩
  · cases refused

/-- Rows of a store with the same identifier are the same row. -/
theorem eq_of_id {store : FactStore} {left right : Fact}
    (leftMember : left ∈ store.facts) (rightMember : right ∈ store.facts)
    (same : left.id = right.id) : left = right :=
  List.inj_on_of_nodup_map store.primaryKey leftMember rightMember same

end FactStore

end OpenZync.Facts
