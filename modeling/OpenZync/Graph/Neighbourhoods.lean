import Mathlib.Data.List.Induction
import OpenZync.Graph.ShortestPaths

/-!
# What a retrieval returns of the neighbourhood of its matches

The matched entities are searched one after the other, and what an earlier one
has reached is not reached again.  The result has the distances from the nearest
match exactly when the first match in reach of an entity is a nearest one, where the
reach is along the edges that a traversal follows and the distance along the
effective ones.
-/

namespace OpenZync.Graph

open OpenZync.Library OpenZync.Repositories

section Matches

variable {β : Type} {graph : ProjectGraph β} {R S : Uuid → Uuid → Prop} {limit maxDepth : Nat}
  {related : Uuid → List TraversedEntity}

/-- The least number of edges from one of the matched entities. -/
def IsNearest (R : Uuid → Uuid → Prop) (matched : List StoredEntity) (id : Uuid)
    (distance : Nat) : Prop :=
  (∃ entity ∈ matched, Walk R entity.id id distance) ∧
    ∀ entity ∈ matched, ∀ length, Walk R entity.id id length → distance ≤ length

/-- The entities within a depth of the matched ones, each once with the distance
from a nearest one. -/
structure IsNeighbourhood (graph : ProjectGraph β) (R : Uuid → Uuid → Prop) (maxDepth : Nat)
    (matched : List StoredEntity) (results : List RetrievedEntity) : Prop where
  once : (results.map RetrievedEntity.id).Nodup
  mem_iff : ∀ item, item ∈ results ↔ ∃ entity ∈ graph.entities,
    item = entity.retrieved item.distance ∧ item.distance ≤ maxDepth ∧
      IsNearest R matched entity.id item.distance

/-- The first matched entity that reaches a place within the limit is so far away. -/
inductive FirstInReach (R : Uuid → Uuid → Prop) (limit : Nat) (id : Uuid) (distance : Nat) :
    List StoredEntity → Prop where
  | here {entity : StoredEntity} {matched : List StoredEntity} :
      IsDistance R entity.id id distance → distance ≤ limit →
        FirstInReach R limit id distance (entity :: matched)
  | later {entity : StoredEntity} {matched : List StoredEntity} :
      (∀ length, Walk R entity.id id length → limit < length) →
        FirstInReach R limit id distance matched →
          FirstInReach R limit id distance (entity :: matched)

/-- Along the edges of `S`, whatever is within a depth of a match is no nearer to it
than to the first match in reach of it along `R`, and is as near to some match as to
this first one. -/
structure FirstIsNearest (R S : Uuid → Uuid → Prop) (limit maxDepth : Nat)
    (matched : List StoredEntity) : Prop where
  reached : ∀ entity ∈ matched, ∀ id length, length ≤ maxDepth → Walk S entity.id id length →
    ∃ distance ≤ length, FirstInReach R limit id distance matched
  led : ∀ id distance, FirstInReach R limit id distance matched →
    ∃ entity ∈ matched, ∃ length ≤ distance, Walk S entity.id id length

/-- The loop over the matched entities, where every traversal returns. -/
def collectRelated (related : Uuid → List TraversedEntity) (results : List RetrievedEntity)
    (matched : List StoredEntity) : List RetrievedEntity :=
  matched.foldl (fun results entity =>
    if entity.id ∈ results.map RetrievedEntity.id then results
    else addFirsts RetrievedEntity.id (results ++ [entity.retrieved 0])
      ((related entity.id).map fun node => node.entity.retrieved node.depth)) results

theorem retrieveLoop_eq {ε : Type} {traverse : Uuid → Option (Except ε (List TraversedEntity))}
    {matched : List StoredEntity}
    (returns : ∀ entity ∈ matched, traverse entity.id = some (.ok (related entity.id)))
    (results : List RetrievedEntity) :
    retrieveLoop traverse results matched =
      some (.ok (collectRelated related results matched)) := by
  induction matched generalizing results with
  | nil => rfl
  | cons entity matched induction =>
      rw [List.forall_mem_cons] at returns
      rw [retrieveLoop, collectRelated, List.foldl_cons, ← collectRelated]
      split
      · exact induction returns.2 results
      · rw [returns.1]
        exact induction returns.2 _

theorem FirstInReach.unique {matched : List StoredEntity} {id : Uuid} {one other : Nat}
    (left : FirstInReach R limit id one matched) (right : FirstInReach R limit id other matched) :
    one = other := by
  induction left with
  | here distance near =>
      cases right with
      | here distance' _ => exact distance.unique distance'
      | later unreached _ => exact absurd near (Nat.not_le_of_lt (unreached _ distance.1))
  | later unreached _ induction =>
      cases right with
      | here distance' near' => exact absurd near' (Nat.not_le_of_lt (unreached _ distance'.1))
      | later _ right => exact induction right

theorem FirstInReach.exists_match {matched : List StoredEntity} {id : Uuid} {distance : Nat}
    (reached : FirstInReach R limit id distance matched) :
    distance ≤ limit ∧ ∃ entity ∈ matched, Walk R entity.id id distance := by
  induction reached with
  | here distance near => exact ⟨near, _, List.mem_cons_self, distance.1⟩
  | later _ _ induction =>
      obtain ⟨near, entity, member, walk⟩ := induction
      exact ⟨near, entity, List.mem_cons_of_mem _ member, walk⟩

/-- More matches reach what no earlier one does. -/
theorem firstInReach_append {first second : List StoredEntity} {id : Uuid} {distance : Nat} :
    FirstInReach R limit id distance (first ++ second) ↔
      FirstInReach R limit id distance first ∨
        (∀ entity ∈ first, ∀ length, Walk R entity.id id length → limit < length) ∧
          FirstInReach R limit id distance second := by
  induction first with
  | nil =>
      constructor
      · exact fun reached => Or.inr ⟨by simp, reached⟩
      · rintro (reached | ⟨_, reached⟩)
        · cases reached
        · exact reached
  | cons entity first induction =>
      rw [List.cons_append, List.forall_mem_cons]
      constructor
      · intro reached
        cases reached with
        | here distance near => exact Or.inl (.here distance near)
        | later unreached reached =>
            rcases induction.mp reached with early | ⟨none, late⟩
            · exact Or.inl (.later unreached early)
            · exact Or.inr ⟨⟨unreached, none⟩, late⟩
      · rintro (reached | ⟨⟨unreached, none⟩, late⟩)
        · cases reached with
          | here distance near => exact .here distance near
          | later unreached early => exact .later unreached (induction.mpr (Or.inl early))
        · exact .later unreached (induction.mpr (Or.inr ⟨none, late⟩))

theorem exists_firstInReach {matched : List StoredEntity} {entity : StoredEntity}
    (member : entity ∈ matched) {id : Uuid} {length : Nat} (walk : Walk R entity.id id length)
    (near : length ≤ limit) : ∃ distance, FirstInReach R limit id distance matched := by
  induction matched with
  | nil => cases member
  | cons first matched induction =>
      by_cases reached : ∃ length ≤ limit, Walk R first.id id length
      · obtain ⟨length, near, walk⟩ := reached
        obtain ⟨distance, shorter, least⟩ := walk.exists_distance
        exact ⟨distance, .here least (Nat.le_trans shorter near)⟩
      · have unreached : ∀ length, Walk R first.id id length → limit < length := by
          intro length walk
          exact Nat.lt_of_not_le fun near => reached ⟨length, near, walk⟩
        rcases List.mem_cons.mp member with rfl | later
        · exact absurd ⟨length, near, walk⟩ reached
        · obtain ⟨distance, reached⟩ := induction later
          exact ⟨distance, .later unreached reached⟩

theorem firstInReach_singleton {entity : StoredEntity} {id : Uuid} {distance : Nat} :
    FirstInReach R limit id distance [entity] ↔
      IsDistance R entity.id id distance ∧ distance ≤ limit := by
  constructor
  · intro reached
    cases reached with
    | here distance near => exact ⟨distance, near⟩
    | later _ none => cases none
  · rintro ⟨distance, near⟩
    exact .here distance near

theorem not_exists_firstInReach {matched : List StoredEntity} {id : Uuid} :
    (¬ ∃ distance, FirstInReach R limit id distance matched) ↔
      ∀ entity ∈ matched, ∀ length, Walk R entity.id id length → limit < length := by
  constructor
  · intro none entity member length walk
    exact Nat.lt_of_not_le fun near => none (exists_firstInReach member walk near)
  · rintro unreached ⟨distance, first⟩
    obtain ⟨near, entity, member, walk⟩ := first.exists_match
    exact absurd near (Nat.not_le_of_lt (unreached entity member distance walk))

theorem firstInReach_repeated {matched : List StoredEntity} {entity : StoredEntity}
    (repeated : entity ∈ matched) {id : Uuid} {distance : Nat} :
    FirstInReach R limit id distance (matched ++ [entity]) ↔
      FirstInReach R limit id distance matched := by
  rw [firstInReach_append, firstInReach_singleton]
  constructor
  · rintro (early | ⟨unreached, least, near⟩)
    · exact early
    · exact absurd near (Nat.not_le_of_lt (unreached entity repeated distance least.1))
  · exact Or.inl

/-- What one match brings: itself, and what the traversal from it returns. -/
def broughtBy (related : Uuid → List TraversedEntity) (entity : StoredEntity) :
    List RetrievedEntity :=
  entity.retrieved 0 :: (related entity.id).map fun node => node.entity.retrieved node.depth

theorem collectRelated_append (results : List RetrievedEntity) (first second : List StoredEntity) :
    collectRelated related results (first ++ second) =
      collectRelated related (collectRelated related results first) second :=
  List.foldl_append

theorem collectRelated_snoc (matched : List StoredEntity) (entity : StoredEntity) :
    collectRelated related [] (matched ++ [entity]) =
      if entity.id ∈ (collectRelated related [] matched).map RetrievedEntity.id then
        collectRelated related [] matched
      else
        addFirsts RetrievedEntity.id (collectRelated related [] matched)
          (broughtBy related entity) := by
  rw [collectRelated_append, collectRelated, List.foldl_cons, List.foldl_nil]
  split
  · rfl
  · rename_i absent
    rw [broughtBy, addFirsts_cons, addFirst, StoredEntity.retrieved, if_neg absent]

theorem mem_broughtBy {entity : StoredEntity} (stored : entity ∈ graph.entities)
    (reached : AreReached graph R limit entity.id (related entity.id)) {item : RetrievedEntity} :
    item ∈ broughtBy related entity ↔ ∃ other ∈ graph.entities,
      item = other.retrieved item.distance ∧
        IsDistance R entity.id other.id item.distance ∧ item.distance ≤ limit := by
  rw [broughtBy, List.mem_cons, List.mem_map]
  constructor
  · rintro (rfl | ⟨node, member, rfl⟩)
    · exact ⟨entity, stored, rfl, isDistance_self _, Nat.zero_le _⟩
    · obtain ⟨present, distance, near⟩ := (reached.mem_iff node).mp member
      exact ⟨node.entity, present, rfl, distance, near⟩
  · rintro ⟨other, present, shaped, distance, near⟩
    right
    exact ⟨{ entity := other, depth := item.distance },
      (reached.mem_iff _).mpr ⟨present, distance, near⟩, shaped.symm⟩

theorem eq_of_id {one other : StoredEntity} (left : one ∈ graph.entities)
    (right : other ∈ graph.entities) (same : one.id = other.id) : one = other :=
  List.inj_on_of_nodup_map graph.distinct left right same

/-- What one match brings is told apart by the identifiers. -/
theorem broughtBy_told {entity : StoredEntity} (stored : entity ∈ graph.entities)
    (reached : AreReached graph R limit entity.id (related entity.id)) :
    ∀ first ∈ broughtBy related entity, ∀ second ∈ broughtBy related entity,
      first.id = second.id → first = second := by
  intro first member second member' same
  obtain ⟨one, left, shaped, distance, _⟩ := (mem_broughtBy stored reached).mp member
  obtain ⟨other, right, shaped', distance', _⟩ := (mem_broughtBy stored reached).mp member'
  have equal : one = other := by
    apply eq_of_id left right
    rw [shaped, shaped'] at same
    exact same
  subst equal
  rw [shaped, shaped', distance.unique distance']

/-- The matched entities are there, and every traversal returns what it reaches. -/
def AllReached (graph : ProjectGraph β) (R : Uuid → Uuid → Prop) (limit : Nat)
    (related : Uuid → List TraversedEntity) (matched : List StoredEntity) : Prop :=
  ∀ entity ∈ matched, entity ∈ graph.entities ∧
    AreReached graph R limit entity.id (related entity.id)

theorem subset_collectRelated (results : List RetrievedEntity) (matched : List StoredEntity) :
    results ⊆ collectRelated related results matched := by
  induction matched generalizing results with
  | nil => exact List.Subset.refl results
  | cons entity matched induction =>
      refine List.Subset.trans ?_ (induction _)
      simp only
      split
      · exact List.Subset.refl results
      · exact List.Subset.trans (List.subset_append_left _ _) (subset_addFirsts _ _ _)

theorem nodup_collectRelated (matched : List StoredEntity) :
    ((collectRelated related [] matched).map RetrievedEntity.id).Nodup := by
  induction matched using List.reverseRecOn with
  | nil => exact List.nodup_nil
  | append_singleton matched entity induction =>
      rw [collectRelated_snoc]
      split
      · exact induction
      · exact nodup_addFirsts _ induction _

theorem of_mem_collectRelated {matched : List StoredEntity}
    (all : AllReached graph R limit related matched) {item : RetrievedEntity}
    (member : item ∈ collectRelated related [] matched) :
    ∃ other ∈ graph.entities, item = other.retrieved item.distance ∧
      ∃ entity ∈ matched, IsDistance R entity.id other.id item.distance ∧
        item.distance ≤ limit := by
  induction matched using List.reverseRecOn with
  | nil => cases member
  | append_singleton matched entity induction =>
      have before : AllReached graph R limit related matched := fun entity earlier =>
        all entity (List.mem_append_left _ earlier)
      have earlier : item ∈ collectRelated related [] matched →
          ∃ other ∈ graph.entities, item = other.retrieved item.distance ∧
            ∃ source ∈ matched ++ [entity], IsDistance R source.id other.id item.distance ∧
              item.distance ≤ limit := by
        intro member
        obtain ⟨other, present, shaped, source, first, distance⟩ := induction before member
        exact ⟨other, present, shaped, source, List.mem_append_left _ first, distance⟩
      rw [collectRelated_snoc] at member
      split at member
      · exact earlier member
      · have last := List.mem_append_right matched (List.mem_singleton_self entity)
        obtain ⟨stored, reached⟩ := all entity last
        rw [mem_addFirsts _ (nodup_collectRelated matched) (broughtBy_told stored reached)]
          at member
        rcases member with member | ⟨_, brought⟩
        · exact earlier member
        · obtain ⟨other, present, shaped, distance⟩ := (mem_broughtBy stored reached).mp brought
          exact ⟨other, present, shaped, entity, last, distance⟩

/-- A match that was reached before is a match that was there before. -/
def SkipsRepeats (related : Uuid → List TraversedEntity) (matched : List StoredEntity) : Prop :=
  ∀ done entity rest, matched = done ++ entity :: rest →
    entity.id ∈ (collectRelated related [] done).map RetrievedEntity.id → entity ∈ done

theorem mem_collectRelated {matched : List StoredEntity}
    (all : AllReached graph R limit related matched) (skips : SkipsRepeats related matched)
    {item : RetrievedEntity} :
    item ∈ collectRelated related [] matched ↔ ∃ other ∈ graph.entities,
      item = other.retrieved item.distance ∧
        FirstInReach R limit other.id item.distance matched := by
  induction matched using List.reverseRecOn generalizing item with
  | nil =>
      constructor
      · intro member
        cases member
      · rintro ⟨_, _, _, reached⟩
        cases reached
  | append_singleton matched entity induction =>
      have before : AllReached graph R limit related matched := fun entity earlier =>
        all entity (List.mem_append_left _ earlier)
      have skipped : SkipsRepeats related matched := by
        intro done first rest split reached
        apply skips done first (rest ++ [entity]) _ reached
        rw [split, List.append_assoc, List.cons_append]
      have collected : ∀ item, item ∈ collectRelated related [] matched ↔
          ∃ other ∈ graph.entities, item = other.retrieved item.distance ∧
            FirstInReach R limit other.id item.distance matched :=
        fun item => induction before skipped
      have known : ∀ other ∈ graph.entities,
          other.id ∈ (collectRelated related [] matched).map RetrievedEntity.id ↔
            ∃ distance, FirstInReach R limit other.id distance matched := by
        intro other present
        rw [List.mem_map]
        constructor
        · rintro ⟨item, member, same⟩
          obtain ⟨other', present', shaped, first⟩ := (collected item).mp member
          rw [shaped] at same
          exact ⟨item.distance, eq_of_id present' present same ▸ first⟩
        · rintro ⟨distance, first⟩
          exact ⟨other.retrieved distance, (collected _).mpr ⟨other, present, rfl, first⟩, rfl⟩
      rw [collectRelated_snoc]
      split
      · rename_i present
        simp only [firstInReach_repeated (skips matched entity [] rfl present)]
        exact collected item
      · obtain ⟨stored, reached⟩ := all entity (List.mem_append_right matched
          (List.mem_singleton_self entity))
        rw [mem_addFirsts _ (nodup_collectRelated matched) (broughtBy_told stored reached),
          collected, mem_broughtBy stored reached]
        simp only [firstInReach_append, firstInReach_singleton, ← not_exists_firstInReach]
        constructor
        · rintro (⟨other, present, shaped, early⟩ | ⟨fresh, other, present, shaped, last⟩)
          · exact ⟨other, present, shaped, Or.inl early⟩
          · rw [shaped] at fresh
            exact ⟨other, present, shaped, Or.inr ⟨mt (known other present).mpr fresh, last⟩⟩
        · rintro ⟨other, present, shaped, early | ⟨unreached, last⟩⟩
          · exact Or.inl ⟨other, present, shaped, early⟩
          · refine Or.inr ⟨?_, other, present, shaped, last⟩
            rw [shaped]
            exact mt (known other present).mp unreached

theorem exists_before {matched done rest : List StoredEntity} {entity : StoredEntity}
    (all : AllReached graph R limit related matched) (split : matched = done ++ entity :: rest)
    (reached : entity.id ∈ (collectRelated related [] done).map RetrievedEntity.id) :
    ∃ item ∈ collectRelated related [] matched, item = entity.retrieved item.distance ∧
      ∃ source ∈ done, Walk R source.id entity.id item.distance ∧ item.distance ≤ limit := by
  have early : AllReached graph R limit related done := by
    intro entity member
    exact all entity (split ▸ List.mem_append_left _ member)
  have stored : entity ∈ graph.entities :=
    (all entity (split ▸ List.mem_append_right _ List.mem_cons_self)).1
  obtain ⟨item, member, same⟩ := List.mem_map.mp reached
  obtain ⟨other, present, shaped, source, first, distance, near⟩ :=
    of_mem_collectRelated early member
  have equal : other = entity := by
    apply eq_of_id present stored
    rw [shaped] at same
    exact same
  subst equal
  refine ⟨item, ?_, shaped, source, first, distance.1, near⟩
  rw [split, collectRelated_append]
  exact subset_collectRelated _ _ member

/-- A match at distance zero from a match is that match. -/
theorem mem_of_walk_zero {done : List StoredEntity} {source entity : StoredEntity}
    (stored : ∀ entity ∈ done, entity ∈ graph.entities) (present : entity ∈ graph.entities)
    (member : source ∈ done) (walk : Walk R source.id entity.id 0) : entity ∈ done := by
  have equal : entity = source := eq_of_id present (stored source member) walk.eq_of_zero
  exact equal ▸ member

theorem IsNeighbourhood.skipsRepeats {matched : List StoredEntity}
    (all : AllReached graph R limit related matched)
    (neighbourhood : IsNeighbourhood graph S maxDepth matched
      (collectRelated related [] matched)) : SkipsRepeats related matched := by
  intro done entity rest split reached
  have last : entity ∈ matched := split ▸ List.mem_append_right _ List.mem_cons_self
  obtain ⟨item, member, shaped, source, first, walk, _⟩ := exists_before all split reached
  obtain ⟨other, present, shaped', _, nearest⟩ := (neighbourhood.mem_iff item).mp member
  have equal : other = entity := by
    apply eq_of_id present (all entity last).1
    rw [shaped'] at shaped
    exact congrArg RetrievedEntity.id shaped
  rw [equal] at nearest
  have zero : item.distance = 0 := Nat.le_zero.mp (nearest.2 entity last 0 .stay)
  rw [zero] at walk
  exact mem_of_walk_zero (fun entity member => (all entity
    (split ▸ List.mem_append_left _ member)).1) (all entity last).1 first walk

theorem FirstIsNearest.skipsRepeats {matched : List StoredEntity}
    (all : AllReached graph R limit related matched)
    (nearest : FirstIsNearest R S limit maxDepth matched) : SkipsRepeats related matched := by
  intro done entity rest split reached
  have last : entity ∈ matched := split ▸ List.mem_append_right _ List.mem_cons_self
  obtain ⟨item, _, _, source, first, walk, near⟩ := exists_before all split reached
  obtain ⟨distance, zero, begins⟩ := nearest.reached entity last entity.id 0 (Nat.zero_le _) .stay
  rw [Nat.le_zero.mp zero, split] at begins
  rcases firstInReach_append.mp begins with early | ⟨unreached, _⟩
  · obtain ⟨_, other, member, same⟩ := early.exists_match
    exact mem_of_walk_zero (fun entity member => (all entity
      (split ▸ List.mem_append_left _ member)).1) (all entity last).1 member same
  · exact absurd near (Nat.not_le_of_lt (unreached source first _ walk))

theorem exists_isNearest {matched : List StoredEntity} {entity : StoredEntity}
    (member : entity ∈ matched) {id : Uuid} {length : Nat} (walk : Walk R entity.id id length) :
    ∃ distance ≤ length, IsNearest R matched id distance := by
  classical
  have reached : ∃ length, ∃ entity ∈ matched, Walk R entity.id id length :=
    ⟨length, entity, member, walk⟩
  exact ⟨Nat.find reached, Nat.find_min' reached ⟨entity, member, walk⟩, Nat.find_spec reached,
    fun other member' _ walk' => Nat.find_min' reached ⟨other, member', walk'⟩⟩

theorem FirstIsNearest.firstInReach_iff {matched : List StoredEntity} (capped : limit ≤ maxDepth)
    (nearest : FirstIsNearest R S limit maxDepth matched) {id : Uuid} {distance : Nat} :
    FirstInReach R limit id distance matched ↔
      distance ≤ maxDepth ∧ IsNearest S matched id distance := by
  constructor
  · intro first
    obtain ⟨near, _⟩ := first.exists_match
    have least : ∀ entity ∈ matched, ∀ length, Walk S entity.id id length → distance ≤ length := by
      intro entity member length walk
      rcases Nat.le_total length maxDepth with fits | far
      · obtain ⟨other, shorter, first'⟩ := nearest.reached entity member id length fits walk
        rw [first.unique first']
        exact shorter
      · exact Nat.le_trans near (Nat.le_trans capped far)
    obtain ⟨source, member, length, shorter, walk⟩ := nearest.led id distance first
    have same : length = distance := Nat.le_antisymm shorter (least source member length walk)
    exact ⟨Nat.le_trans near capped, ⟨source, member, same ▸ walk⟩, least⟩
  · rintro ⟨near, ⟨source, member, walk⟩, least⟩
    obtain ⟨other, shorter, first⟩ := nearest.reached source member id distance near walk
    obtain ⟨entity, member', length, bound, walk'⟩ := nearest.led id other first
    have same : other = distance :=
      Nat.le_antisymm shorter (Nat.le_trans (least entity member' length walk') bound)
    exact same ▸ first

/-- What is collected along `R` is the neighbourhood of the matches along `S` exactly where
the first match in reach is a nearest one. -/
theorem isNeighbourhood_collectRelated_iff {matched : List StoredEntity}
    (all : AllReached graph R limit related matched) (capped : limit ≤ maxDepth)
    (leads : ∀ id other, R id other → other ∈ graph.ids)
    (leads' : ∀ id other, S id other → other ∈ graph.ids) :
    IsNeighbourhood graph S maxDepth matched (collectRelated related [] matched) ↔
      FirstIsNearest R S limit maxDepth matched := by
  constructor
  · intro neighbourhood
    have listed := fun item => (@mem_collectRelated _ _ _ _ _ matched all
      (neighbourhood.skipsRepeats all) item).symm.trans (neighbourhood.mem_iff item)
    have inside : ∀ {Q : Uuid → Uuid → Prop}, (∀ id other, Q id other → other ∈ graph.ids) →
        ∀ entity ∈ matched, ∀ id length, Walk Q entity.id id length →
          ∃ other ∈ graph.entities, other.id = id := by
      intro Q stays entity member id length walk
      apply List.mem_map.mp
      cases walk with
      | stay => exact List.mem_map_of_mem (all entity member).1
      | step _ edge => exact stays _ _ edge
    constructor
    · intro entity member id length near walk
      obtain ⟨other, present, rfl⟩ := inside leads' entity member id length walk
      obtain ⟨distance, shorter, nearest⟩ := exists_isNearest member walk
      obtain ⟨other', present', shaped, first⟩ := (listed (other.retrieved distance)).mpr
        ⟨other, present, rfl, Nat.le_trans shorter near, nearest⟩
      rw [← eq_of_id present present' (congrArg RetrievedEntity.id shaped)] at first
      exact ⟨distance, shorter, first⟩
    · intro id distance first
      obtain ⟨_, source, member, walk⟩ := first.exists_match
      obtain ⟨other, present, rfl⟩ := inside leads source member id distance walk
      obtain ⟨other', present', shaped, _, ⟨entity, member', walk'⟩, _⟩ :=
        (listed (other.retrieved distance)).mp ⟨other, present, rfl, first⟩
      rw [← eq_of_id present present' (congrArg RetrievedEntity.id shaped)] at walk'
      exact ⟨entity, member', distance, le_rfl, walk'⟩
  · intro nearest
    refine ⟨nodup_collectRelated matched, fun item => ?_⟩
    rw [mem_collectRelated all (nearest.skipsRepeats all)]
    simp only [nearest.firstInReach_iff capped]

theorem IsNeighbourhood.retrieved_zero_mem {matched : List StoredEntity}
    {results : List RetrievedEntity}
    (neighbourhood : IsNeighbourhood graph R maxDepth matched results) {entity : StoredEntity}
    (stored : entity ∈ graph.entities) (member : entity ∈ matched) :
    entity.retrieved 0 ∈ results := by
  apply (neighbourhood.mem_iff _).mpr
  refine ⟨entity, stored, rfl, Nat.zero_le maxDepth, ⟨entity, member, .stay⟩, ?_⟩
  intro _ _ length _
  exact Nat.zero_le length

theorem isNeighbourhood_perm {matched : List StoredEntity} {first second : List RetrievedEntity}
    (same : first.Perm second) :
    IsNeighbourhood graph R maxDepth matched first ↔
      IsNeighbourhood graph R maxDepth matched second := by
  constructor
  · intro ⟨once, mem_iff⟩
    exact ⟨(same.map _).nodup_iff.mp once, fun item => by rw [← same.mem_iff, mem_iff]⟩
  · intro ⟨once, mem_iff⟩
    exact ⟨(same.map _).nodup_iff.mpr once, fun item => by rw [same.mem_iff, mem_iff]⟩

theorem exists_retrieveLoop {ε : Type}
    {traverse : Nat → Uuid → Option (Except ε (List TraversedEntity))}
    (each : ∀ start, ∃ nodes, AreReached graph R limit start nodes ∧
      ∃ enough, ∀ turns, enough ≤ turns → traverse turns start = some (.ok nodes))
    {matched : List StoredEntity} (stored : ∀ entity ∈ matched, entity ∈ graph.entities) :
    ∃ related, AllReached graph R limit related matched ∧
      ∃ enough, ∀ turns, enough ≤ turns → retrieveLoop (traverse turns) [] matched =
        some (.ok (collectRelated related [] matched)) := by
  choose related reached turnsFor returns using each
  refine ⟨related, fun entity member => ⟨stored entity member, reached entity.id⟩,
    (matched.map fun entity => turnsFor entity.id).sum, fun turns enough => ?_⟩
  apply retrieveLoop_eq
  intro entity member
  apply returns
  refine Nat.le_trans ?_ enough
  exact List.single_le_sum (fun _ _ => Nat.zero_le _) _ (List.mem_map_of_mem member)

theorem exists_neighbourhood {ε : Type}
    {traverse : Nat → Uuid → Option (Except ε (List TraversedEntity))}
    (each : ∀ start, ∃ nodes, AreReached graph R limit start nodes ∧
      ∃ enough, ∀ turns, enough ≤ turns → traverse turns start = some (.ok nodes))
    (leads : ∀ id other, R id other → other ∈ graph.ids)
    (leads' : ∀ id other, S id other → other ∈ graph.ids) {matched : List StoredEntity}
    (stored : ∀ entity ∈ matched, entity ∈ graph.entities) :
    ∃ results, (∃ enough, ∀ turns, enough ≤ turns →
        (retrieveLoop (traverse turns) [] matched).map (fun answer => answer.map closestFirst) =
          some (.ok results)) ∧
      ∀ depth, limit ≤ depth →
        (IsNeighbourhood graph S depth matched results ↔
          FirstIsNearest R S limit depth matched) := by
  obtain ⟨related, all, enough, returned⟩ := exists_retrieveLoop each stored
  refine ⟨closestFirst (collectRelated related [] matched), ⟨enough, fun turns fits => ?_⟩,
    fun depth capped => ?_⟩
  · rw [returned turns fits]
    rfl
  · rw [← isNeighbourhood_collectRelated_iff all capped leads leads']
    exact isNeighbourhood_perm (List.perm_insertionSort _ _)

end Matches

theorem ofTypes_none {β : Type} (edge : DatedEdge β) : edge.OfTypes none := by
  simp [DatedEdge.OfTypes]

theorem FalkorDB.traverse_followed (settings : TraversalSettings)
    (graph : ProjectGraph AwareDatetime) (order : RowOrder) (maxDepth : Nat)
    (asOf : AwareDatetime) (start : Uuid) :
    ∃ nodes, AreReached graph
      (graph.Adjacent fun edge => temporalClause asOf.isoformat edge.stored = true)
      (min maxDepth settings.maxDepth) start nodes ∧
      ∃ enough, ∀ turns, enough ≤ turns →
        traverse settings graph.stored order turns start maxDepth none asOf =
          some (.ok nodes) := by
  have safe : FalkorDB.sanitizeEdgeTypes none = .ok () := rfl
  obtain ⟨nodes, reached, ended⟩ :=
    @traverse_areReached graph.stored order none asOf maxDepth settings safe start
  have all : ∀ edge : DatedEdge AwareDatetime, Followed none asOf edge.stored ↔
      temporalClause asOf.isoformat edge.stored = true :=
    fun edge => and_iff_left (ofTypes_none edge.stored)
  rw [adjacent_stored] at reached
  simp only [all] at reached
  exact ⟨nodes, ⟨reached.once, reached.mem_iff⟩, ended⟩

theorem Postgres.traverse_effective (settings : TraversalSettings) (tables : GraphTables)
    (orgId projectId : Uuid) (maxDepth : Nat) (asOf : Time) (start : Uuid) :
    ∃ nodes, AreReached (tables.projectGraph orgId projectId)
      ((tables.projectGraph orgId projectId).Adjacent (DatedEdge.EffectiveAt asOf))
      (min maxDepth settings.maxDepth) start nodes ∧
      ∃ enough, ∀ rounds, enough ≤ rounds →
        (traverse settings tables orgId projectId rounds start maxDepth none (some asOf)).map
          Except.ok = some (.ok nodes : Except Empty (List TraversedEntity)) := by
  obtain ⟨nodes, reached, enough, returned⟩ :=
    @traverse_areReached tables orgId projectId none (some asOf) maxDepth settings start
  have all : Follows none (some asOf) = DatedEdge.EffectiveAt asOf := by
    funext edge
    exact propext (and_iff_left (ofTypes_none edge))
  rw [all] at reached
  refine ⟨nodes, reached, enough, fun rounds fits => ?_⟩
  rw [returned rounds fits]
  rfl

/-- On both backends a retrieval returns, and it returns the neighbourhood of the matched
entities along the effective edges exactly where the first of them that reaches an entity
within the capped depth, along the edges that the backend follows, is a nearest one. -/
theorem retrieved_neighbourhood_iff (settings : TraversalSettings) (maxDepth : Nat)
    (asOf : AwareDatetime) (matched : List StoredEntity) :
    (∀ (graph : ProjectGraph AwareDatetime) (orders : Uuid → FalkorDB.RowOrder),
      (∀ entity ∈ matched, entity ∈ graph.entities) →
        ∃ results, (∃ enough, ∀ turns, enough ≤ turns →
            FalkorDB.retrieved settings graph.stored orders turns matched maxDepth asOf =
              some (.ok results)) ∧
          ∀ depth, min maxDepth settings.maxDepth ≤ depth →
            (IsNeighbourhood graph
                (graph.Adjacent fun edge => edge.temporal.EffectiveAt asOf.instant) depth matched
                results ↔
              FirstIsNearest
                (graph.Adjacent fun edge =>
                  FalkorDB.temporalClause asOf.isoformat edge.stored = true)
                (graph.Adjacent fun edge => edge.temporal.EffectiveAt asOf.instant)
                (min maxDepth settings.maxDepth) depth matched)) ∧
      ∀ (tables : Postgres.GraphTables) (orgId projectId : Uuid),
        (∀ entity ∈ matched, entity ∈ (tables.projectGraph orgId projectId).entities) →
          ∃ results, (∃ enough, ∀ rounds, enough ≤ rounds →
              Postgres.retrieved settings tables orgId projectId rounds matched maxDepth
                asOf.instant = some (.ok results)) ∧
            ∀ depth, min maxDepth settings.maxDepth ≤ depth →
              (IsNeighbourhood (tables.projectGraph orgId projectId)
                  ((tables.projectGraph orgId projectId).Adjacent
                    (DatedEdge.EffectiveAt asOf.instant)) depth matched results ↔
                FirstIsNearest
                  ((tables.projectGraph orgId projectId).Adjacent
                    (DatedEdge.EffectiveAt asOf.instant))
                  ((tables.projectGraph orgId projectId).Adjacent
                    (DatedEdge.EffectiveAt asOf.instant))
                  (min maxDepth settings.maxDepth) depth matched) := by
  constructor
  · intro graph orders stored
    exact exists_neighbourhood
      (fun start => FalkorDB.traverse_followed settings graph (orders start) maxDepth asOf start)
      (fun _ _ adjacent => adjacent.2.1) (fun _ _ adjacent => adjacent.2.1) stored
  · intro tables orgId projectId stored
    exact exists_neighbourhood
      (Postgres.traverse_effective settings tables orgId projectId maxDepth asOf.instant)
      (fun _ _ adjacent => adjacent.2.1) (fun _ _ adjacent => adjacent.2.1) stored

theorem firstIsNearest_singleton (R : Uuid → Uuid → Prop) (limit : Nat) (entity : StoredEntity) :
    FirstIsNearest R R limit limit [entity] := by
  constructor
  · intro source member id length near walk
    rw [List.mem_singleton.mp member] at walk
    obtain ⟨distance, shorter, least⟩ := walk.exists_distance
    exact ⟨distance, shorter, .here least (Nat.le_trans shorter near)⟩
  · intro id distance first
    obtain ⟨_, source, member, walk⟩ := first.exists_match
    exact ⟨source, member, distance, le_rfl, walk⟩

theorem adjacent_of_harmless {graph : ProjectGraph AwareDatetime} {asOf : AwareDatetime}
    (harmless : ∀ edge ∈ graph.edges, FalkorDB.OffsetsHarmless edge asOf) :
    (graph.Adjacent fun edge => FalkorDB.temporalClause asOf.isoformat edge.stored = true) =
      graph.Adjacent fun edge => edge.temporal.EffectiveAt asOf.instant := by
  have all : FalkorDB.Wanted none asOf = fun edge => edge.temporal.EffectiveAt asOf.instant := by
    funext edge
    exact propext (and_iff_left (ofTypes_none edge))
  have same := FalkorDB.adjacent_followed_of_harmless harmless none
  rw [all] at same
  simpa only [FalkorDB.Followed, FalkorDB.patternTypes, Option.map_none, ofTypes_none,
    and_true] using same

/-- The five in a row as rows of one project, next to a row of another one. -/
def fiveStored : Postgres.GraphTables :=
  { entities :=
      [{ organizationId := 1, projectId := 2, entity := person 6 }] ++
        fiveInARow.entities.map fun entity =>
          { organizationId := 1, projectId := 1, entity := entity }
    relationships := fiveInARow.edges.map fun edge => { projectId := 1, edge := edge.temporal }
    primaryKey := by decide }

theorem retrieved_neighbourhood_iff_oneMatch :
    (∃ results, (∃ enough, ∀ turns, enough ≤ turns →
        FalkorDB.retrieved defaultSettings fiveInARow.stored (fun _ => asStored) turns [person 2]
          2 threeOClock = some (.ok results)) ∧
      IsNeighbourhood fiveInARow
        (fiveInARow.Adjacent fun edge => edge.temporal.EffectiveAt threeOClock.instant) 2
        [person 2] results) ∧
    ∃ results, (∃ enough, ∀ rounds, enough ≤ rounds →
        Postgres.retrieved defaultSettings fiveStored 1 1 rounds [person 2] 2
          threeOClock.instant = some (.ok results)) ∧
      IsNeighbourhood (fiveStored.projectGraph 1 1)
        ((fiveStored.projectGraph 1 1).Adjacent (DatedEdge.EffectiveAt threeOClock.instant)) 2
        [person 2] results := by
  obtain ⟨falkorDB, postgres⟩ :=
    retrieved_neighbourhood_iff defaultSettings 2 threeOClock [person 2]
  obtain ⟨results, ended, exact_iff⟩ := falkorDB fiveInARow (fun _ => asStored) (by decide)
  obtain ⟨results', ended', exact_iff'⟩ := postgres fiveStored 1 1 (by decide)
  refine ⟨⟨results, ended, (exact_iff 2 (by decide)).mpr ?_⟩,
    results', ended', (exact_iff' 2 (by decide)).mpr (firstIsNearest_singleton _ 2 _)⟩
  rw [adjacent_of_harmless fiveInARow_harmless]
  exact firstIsNearest_singleton _ 2 _

/-- The second match is reached from the first one: it keeps the depth two, and what lies
beyond it is not found. -/
theorem match_within_reach :
    (∃ results, FalkorDB.retrieved defaultSettings fiveInARow.stored (fun _ => asStored) 20
        [person 1, person 3] 2 threeOClock = some (.ok results) ∧
      ¬ IsNeighbourhood fiveInARow
        (fiveInARow.Adjacent fun edge => edge.temporal.EffectiveAt threeOClock.instant) 2
        [person 1, person 3] results) ∧
    ∃ results, Postgres.retrieved defaultSettings fiveStored 1 1 20 [person 1, person 3] 2
        threeOClock.instant = some (.ok results) ∧
      ¬ IsNeighbourhood (fiveStored.projectGraph 1 1)
        ((fiveStored.projectGraph 1 1).Adjacent (DatedEdge.EffectiveAt threeOClock.instant)) 2
        [person 1, person 3] results := by
  refine ⟨⟨[(person 1).retrieved 0, (person 2).retrieved 1, (person 3).retrieved 2],
    by decide +kernel, fun neighbourhood => ?_⟩,
    ⟨[(person 1).retrieved 0, (person 2).retrieved 1, (person 3).retrieved 2],
      by decide +kernel, fun neighbourhood => ?_⟩⟩
  · have listed := neighbourhood.retrieved_zero_mem
      (show person 3 ∈ fiveInARow.entities by decide)
      (show person 3 ∈ [person 1, person 3] by decide)
    exact absurd listed (by decide)
  · have listed := neighbourhood.retrieved_zero_mem
      (show person 3 ∈ (fiveStored.projectGraph 1 1).entities by decide)
      (show person 3 ∈ [person 1, person 3] by decide)
    exact absurd listed (by decide)

end OpenZync.Graph
