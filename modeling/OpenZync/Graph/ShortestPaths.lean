import OpenZync.Graph.Traversal

/-!
# Traversals return distances

Both backends return the entities up to the capped depth, each once with the
least number of edges that lead to it.  The edges are the effective ones for
PostgreSQL; FalkorDB follows those whose texts compare so, and returns the same where
these keep the layers of the effective ones.
-/

namespace OpenZync.Graph

open OpenZync.Library OpenZync.Repositories

section Entities

variable {β : Type} {graph : ProjectGraph β} {R : Uuid → Uuid → Prop} {limit : Nat} {start : Uuid}

/-- The entities up to a depth, each once with its distance. -/
structure AreReached (graph : ProjectGraph β) (R : Uuid → Uuid → Prop) (limit : Nat)
    (start : Uuid) (nodes : List TraversedEntity) : Prop where
  once : (nodes.map fun node => node.entity.id).Nodup
  mem_iff : ∀ node, node ∈ nodes ↔ node.entity ∈ graph.entities ∧
    IsDistance R start node.entity.id node.depth ∧ node.depth ≤ limit

theorem getEntity_eq_some {id : Uuid} {entity : StoredEntity} :
    graph.getEntity id = some entity ↔ entity ∈ graph.entities ∧ entity.id = id := by
  constructor
  · exact lookup_some
  · rintro ⟨member, rfl⟩
    apply lookup_of_unique member (decide_eq_true rfl)
    intro other present same
    exact List.inj_on_of_nodup_map graph.distinct present member (of_decide_eq_true same)

theorem mem_withEntities {rows : List (Uuid × Nat)} {node : TraversedEntity} :
    node ∈ graph.withEntities rows ↔
      node.entity ∈ graph.entities ∧ (node.entity.id, node.depth) ∈ rows := by
  rw [ProjectGraph.withEntities, List.mem_filterMap]
  constructor
  · rintro ⟨row, member, found⟩
    obtain ⟨entity, stored, rfl⟩ := Option.map_eq_some_iff.mp found
    obtain ⟨present, same⟩ := getEntity_eq_some.mp stored
    exact ⟨present, same ▸ member⟩
  · rintro ⟨present, member⟩
    refine ⟨_, member, ?_⟩
    rw [getEntity_eq_some.mpr ⟨present, rfl⟩]
    rfl

theorem withEntities_ids_sublist (rows : List (Uuid × Nat)) :
    ((graph.withEntities rows).map fun node => node.entity.id).Sublist (rows.map Prod.fst) := by
  induction rows with
  | nil => exact List.Sublist.slnil
  | cons row rows induction =>
      rw [ProjectGraph.withEntities, List.filterMap_cons]
      cases stored : graph.getEntity row.1 with
      | none => exact induction.cons _
      | some entity =>
          have same := (getEntity_eq_some.mp stored).2
          simp only [Option.map_some, List.map_cons, same]
          exact induction.cons_cons _

theorem withEntities_snoc (graph : ProjectGraph β) (rows : List (Uuid × Nat)) (id : Uuid)
    (depth : Nat) :
    graph.withEntities (rows ++ [(id, depth)]) =
      match graph.getEntity id with
      | none => graph.withEntities rows
      | some entity => graph.withEntities rows ++ [{ entity := entity, depth := depth }] := by
  rw [ProjectGraph.withEntities, List.filterMap_append, ← ProjectGraph.withEntities]
  cases stored : graph.getEntity id with
  | none => simp [stored]
  | some entity => simp [stored]

theorem areReached_withEntities {found : List (Uuid × Nat)} (ball : IsBall R limit start found) :
    AreReached graph R limit start (graph.withEntities found) := by
  refine ⟨ball.distinct.sublist (withEntities_ids_sublist found), fun node => ?_⟩
  rw [mem_withEntities, ball.mem_iff]

theorem areReached_startAlone (stuck : ∀ id other, ¬ R id other) :
    AreReached graph R limit start (startAlone graph start) := by
  have alone : IsBall R limit start [(start, 0)] := by
    refine ⟨List.nodup_singleton _, fun place distance => ?_⟩
    rw [List.mem_singleton, Prod.mk.injEq]
    constructor
    · rintro ⟨rfl, rfl⟩
      exact ⟨isDistance_self _, Nat.zero_le _⟩
    · rintro ⟨⟨walk, _⟩, _⟩
      cases walk with
      | stay => exact ⟨rfl, rfl⟩
      | step _ edge => exact absurd edge (stuck _ _)
  have same : startAlone graph start = graph.withEntities [(start, 0)] := by
    rw [startAlone, ProjectGraph.withEntities, List.filterMap_cons]
    cases graph.getEntity start with
    | none => rfl
    | some entity => rfl
  rw [same]
  exact areReached_withEntities alone

theorem areReached_nil (absent : start ∉ graph.ids)
    (begins : ∀ id other, R id other → id ∈ graph.ids) : AreReached graph R limit start [] := by
  refine ⟨List.nodup_nil, fun node => ⟨fun member => (List.not_mem_nil member).elim, ?_⟩⟩
  rintro ⟨present, ⟨walk, _⟩, _⟩
  rcases walk.first_step with same | ⟨next, edge⟩
  · exact absurd (same ▸ List.mem_map_of_mem present) absent
  · exact absurd (begins start next edge) absent

/-- What is reached along one relation is what is reached along another where the first
keeps the layers of the second. -/
theorem areReached_iff_keepsLayers {S : Uuid → Uuid → Prop} {nodes : List TraversedEntity}
    (reached : AreReached graph R limit start nodes)
    (leads : ∀ id other, R id other → other ∈ graph.ids)
    (leads' : ∀ id other, S id other → other ∈ graph.ids) :
    AreReached graph S limit start nodes ↔ KeepsLayers R S limit start := by
  rw [← sameDistances_iff]
  constructor
  · intro reached' place distance fits
    by_cases inside : place ∈ graph.ids
    · obtain ⟨entity, member, rfl⟩ := List.mem_map.mp inside
      have listed := reached.mem_iff ⟨entity, distance⟩
      have listed' := reached'.mem_iff ⟨entity, distance⟩
      simp only [member, fits, true_and, and_true] at listed listed'
      exact listed.symm.trans listed'
    · -- outside of the graph there is the start at most
      have alone : ∀ {Q : Uuid → Uuid → Prop}, (∀ id other, Q id other → other ∈ graph.ids) →
          (IsDistance Q start place distance ↔ place = start ∧ distance = 0) := by
        intro Q stays
        constructor
        · rintro ⟨walk, _⟩
          cases walk with
          | stay => exact ⟨rfl, rfl⟩
          | step _ edge => exact absurd (stays _ _ edge) inside
        · rintro ⟨rfl, rfl⟩
          exact isDistance_self place
      rw [alone leads, alone leads']
  · intro same
    refine ⟨reached.once, fun node => ?_⟩
    rw [reached.mem_iff]
    constructor
    · rintro ⟨present, distance, near⟩
      exact ⟨present, (same _ _ near).mp distance, near⟩
    · rintro ⟨present, distance, near⟩
      exact ⟨present, (same _ _ near).mpr distance, near⟩

section Loop

variable {ε : Type} {fetch : Uuid → Except ε (List Uuid)} {next : Uuid → List Uuid}

theorem traverseLoop_eq (fetched : ∀ id, fetch id = .ok (next id)) (turns : Nat)
    {state : TraversalState} {search : Search Uuid}
    (visited : ∀ id, id ∈ state.visited ↔ search.Visits id) (queue : state.queue = search.queue)
    (nodes : state.nodes = graph.withEntities search.visited) :
    graph.traverseLoop fetch limit turns state =
      (Search.run next limit turns search).map fun found => .ok (graph.withEntities found) := by
  induction turns generalizing state search with
  | zero => rfl
  | succ turns induction =>
      rw [ProjectGraph.traverseLoop, Search.run, queue]
      cases search.queue with
      | nil =>
          rw [nodes]
          rfl
      | cons first queue =>
          obtain ⟨currentId, depth⟩ := first
          by_cases seen : currentId ∈ state.visited
          · have seen' := (visited currentId).mp seen
            simp only [if_pos seen, Search.take, if_pos seen']
            exact induction visited rfl nodes
          · have unseen := mt (visited currentId).mpr seen
            have marked : ∀ id, id ∈ currentId :: state.visited ↔
                (search.mark currentId depth queue).Visits id := by
              intro id
              rw [List.mem_cons, Search.visits_mark, visited, or_comm]
            have grown := withEntities_snoc graph search.visited currentId depth
            rw [← nodes] at grown
            simp only [if_neg seen, Search.take, if_neg unseen, Search.behind, fetched]
            by_cases deep : limit ≤ depth
            · rw [if_pos deep, if_pos deep, List.append_nil]
              exact induction marked rfl grown.symm
            · rw [if_neg deep, if_neg deep]
              have rest : ((next currentId).filter fun neighbour =>
                    neighbour ∉ currentId :: state.visited) =
                  (next currentId).filter fun other =>
                    ¬ (search.mark currentId depth queue).Visits other :=
                List.filter_congr fun other _ => by simp only [marked]
              rw [rest]
              exact induction marked rfl grown.symm

/-- Where the neighbours are among finitely many entities, the loop ends with what is
reached along them. -/
theorem exists_traverseLoop (graph : ProjectGraph β) (fetched : ∀ id, fetch id = .ok (next id))
    {ids : List Uuid} (inside : ∀ id, ∀ other ∈ next id, other ∈ ids) (limit : Nat)
    (start : Uuid) :
    ∃ nodes, AreReached graph (fun id other => other ∈ next id) limit start nodes ∧
      ∃ enough, ∀ turns, enough ≤ turns →
        graph.traverseLoop fetch limit turns (.begin start) = some (.ok nodes) := by
  have closed : ∀ id ∈ start :: ids, ∀ other ∈ next id, other ∈ start :: ids :=
    fun id _ other member => List.mem_cons_of_mem _ (inside id other member)
  obtain ⟨found, ball, enough, result⟩ :=
    Search.exists_run next limit closed List.mem_cons_self
  refine ⟨graph.withEntities found, areReached_withEntities ball, enough, fun turns fits => ?_⟩
  have begun : ∀ id, id ∈ ([] : List Uuid) ↔ (Search.start start).Visits id := by
    simp [Search.start, Search.Visits]
  have loop : graph.traverseLoop fetch limit turns (.begin start) = _ :=
    traverseLoop_eq fetched turns begun rfl rfl
  rw [loop, result turns fits]
  rfl

end Loop

theorem adjacent_stored {graph : ProjectGraph AwareDatetime} {Follows : DatedEdge Text → Prop} :
    graph.stored.Adjacent Follows = graph.Adjacent fun edge => Follows edge.stored := by
  funext id other
  simp only [ProjectGraph.Adjacent, ProjectGraph.stored, ProjectGraph.ids, List.mem_map,
    exists_exists_and_eq_and]
  rfl

end Entities

namespace FalkorDB

/-- The query for the neighbours of an entity follows the edge. -/
def Followed (edgeTypes : Option (List Text)) (asOf : AwareDatetime) (edge : DatedEdge Text) : Prop :=
  temporalClause asOf.isoformat edge = true ∧ edge.OfTypes (patternTypes edgeTypes)

/-- The edge is effective and has a wanted type. -/
def Wanted (edgeTypes : Option (List Text)) (asOf : AwareDatetime) (edge : DatedEdge AwareDatetime) :
    Prop :=
  edge.temporal.EffectiveAt asOf.instant ∧ edge.OfTypes (patternTypes edgeTypes)

theorem adjacent_followed_of_harmless {graph : ProjectGraph AwareDatetime}
    {asOf : AwareDatetime} (harmless : ∀ edge ∈ graph.edges, OffsetsHarmless edge asOf)
    (edgeTypes : Option (List Text)) :
    (graph.Adjacent fun edge => Followed edgeTypes asOf edge.stored) =
      graph.Adjacent (Wanted edgeTypes asOf) := by
  have same : ∀ edge ∈ graph.edges,
      Followed edgeTypes asOf edge.stored ↔ Wanted edgeTypes asOf edge := by
    intro edge member
    rw [Followed, temporalClause_iff ((comparesInstants_iff edge asOf).mpr (harmless edge member))]
    rfl
  funext id other
  apply propext
  refine and_congr_right fun _ => and_congr_right fun _ => exists_congr fun edge => ?_
  exact and_congr_right fun member => and_congr_left fun _ => same edge member

variable {graph : ProjectGraph Text} {order : RowOrder} {edgeTypes : Option (List Text)}
  {asOf : AwareDatetime} {maxDepth : Nat}

theorem mem_neighbourIds {id other : Uuid} :
    other ∈ neighbourIds graph edgeTypes asOf id ↔
      graph.Adjacent (Followed edgeTypes asOf) id other := by
  rw [neighbourIds, ProjectGraph.Adjacent]
  split
  · rename_i present
    simp only [List.mem_dedup, List.mem_filter, List.mem_filterMap, decide_eq_true_eq]
    constructor
    · rintro ⟨⟨edge, ⟨stored, followed⟩, ends⟩, member⟩
      exact ⟨present, member, edge, stored, followed, ends⟩
    · rintro ⟨_, member, edge, stored, followed, ends⟩
      exact ⟨⟨edge, ⟨stored, followed⟩, ends⟩, member⟩
  · rename_i absent
    simp [absent]

/-- The neighbours in the order of the query. -/
def neighbours (graph : ProjectGraph Text) (order : RowOrder) (edgeTypes : Option (List Text))
    (asOf : AwareDatetime) (id : Uuid) : List Uuid :=
  order.arrange id (neighbourIds graph edgeTypes asOf id)

theorem neighbours_relation :
    (fun id other => other ∈ neighbours graph order edgeTypes asOf id) =
      graph.Adjacent (Followed edgeTypes asOf) := by
  funext id other
  rw [neighbours, (order.perm _ _).mem_iff, mem_neighbourIds]

theorem traverse_areReached (settings : TraversalSettings)
    (safe : sanitizeEdgeTypes edgeTypes = .ok ()) (start : Uuid) :
    ∃ nodes, AreReached graph (graph.Adjacent (Followed edgeTypes asOf))
      (min maxDepth settings.maxDepth) start nodes ∧
      ∃ enough, ∀ turns, enough ≤ turns →
        traverse settings graph order turns start maxDepth edgeTypes asOf = some (.ok nodes) := by
  by_cases none : edgeTypes = some []
  · refine ⟨startAlone graph start, areReached_startAlone ?_, 0, fun turns _ => ?_⟩
    · rintro id other ⟨_, _, edge, _, ⟨_, typed⟩, _⟩
      rw [none] at typed
      exact absurd (typed [] rfl) List.not_mem_nil
    · rw [traverse, if_pos none]
  · have inside : ∀ id, ∀ other ∈ neighbours graph order edgeTypes asOf id,
        other ∈ graph.ids := by
      intro id other next
      rw [neighbours, (order.perm _ _).mem_iff, mem_neighbourIds] at next
      exact next.2.1
    have fetched : ∀ id, fetchNeighbours graph order edgeTypes asOf id =
        .ok (neighbours graph order edgeTypes asOf id) := by
      intro id
      rw [fetchNeighbours, safe]
      rfl
    have reached := exists_traverseLoop graph fetched inside (min maxDepth settings.maxDepth) start
    rw [neighbours_relation] at reached
    simpa only [traverse, if_neg none] using reached

end FalkorDB

namespace Postgres

variable {tables : GraphTables} {orgId projectId : Uuid} {edgeTypes : Option (List Text)}
  {atTime : Option Time} {maxDepth : Nat}

theorem mem_joinedIds {id other : Uuid}
    (inProject : id ∈ (tables.projectGraph orgId projectId).ids) :
    other ∈ joinedIds tables orgId projectId edgeTypes atTime id ↔
      (tables.projectGraph orgId projectId).Adjacent (Follows edgeTypes atTime) id other := by
  rw [joinedIds, ProjectGraph.Adjacent]
  simp only [List.mem_filter, List.mem_filterMap, decide_eq_true_eq]
  constructor
  · rintro ⟨⟨row, ⟨stored, project, followed⟩, ends⟩, member⟩
    refine ⟨inProject, member, row.edge, ?_, followed, ends⟩
    exact List.mem_map_of_mem (List.mem_filter.mpr ⟨stored, decide_eq_true project⟩)
  · rintro ⟨_, member, edge, stored, followed, ends⟩
    obtain ⟨row, kept, rfl⟩ := List.mem_map.mp stored
    obtain ⟨stored, project⟩ := List.mem_filter.mp kept
    exact ⟨⟨row, ⟨stored, of_decide_eq_true project, followed⟩, ends⟩, member⟩

theorem walk_joinedIds_iff {start : Uuid}
    (inProject : start ∈ (tables.projectGraph orgId projectId).ids) (place : Uuid) (length : Nat) :
    Walk (fun id other => other ∈ joinedIds tables orgId projectId edgeTypes atTime id) start
        place length ↔
      Walk ((tables.projectGraph orgId projectId).Adjacent (Follows edgeTypes atTime)) start
        place length := by
  constructor
  · intro walk
    exact (walk.of_agree inProject (fun _ _ inside next => ((mem_joinedIds inside).mp next).2.1)
      fun _ _ inside next => (mem_joinedIds inside).mp next).2
  · intro walk
    exact (walk.of_agree inProject (fun _ _ _ adjacent => adjacent.2.1)
      fun _ _ inside adjacent => (mem_joinedIds inside).mpr adjacent).2

theorem traverse_areReached (settings : TraversalSettings) (start : Uuid) :
    ∃ nodes, AreReached (tables.projectGraph orgId projectId)
      ((tables.projectGraph orgId projectId).Adjacent (Follows edgeTypes atTime))
      (min maxDepth settings.maxDepth) start nodes ∧
      ∃ enough, ∀ rounds, enough ≤ rounds →
        traverse settings tables orgId projectId rounds start maxDepth edgeTypes atTime =
          some nodes := by
  by_cases none : edgeTypes = some []
  · refine ⟨startAlone (tables.projectGraph orgId projectId) start, areReached_startAlone ?_, 0,
      fun rounds _ => ?_⟩
    · rintro id other ⟨_, _, edge, _, ⟨_, typed⟩, _⟩
      rw [none] at typed
      exact absurd (typed [] rfl) List.not_mem_nil
    · rw [traverse, if_pos none]
  · by_cases inProject : start ∈ (tables.projectGraph orgId projectId).ids
    · obtain ⟨listed, rows, ended⟩ := exists_recursiveUnion
        (joinedIds tables orgId projectId edgeTypes atTime) (min maxDepth settings.maxDepth) start
      refine ⟨_, areReached_withEntities (rows.isBall.congr (walk_joinedIds_iff inProject)),
        min maxDepth settings.maxDepth + 2, fun rounds enough => ?_⟩
      rw [traverse, if_neg none]
      simp only [if_pos inProject, ended rounds enough, Option.map_some]
    · refine ⟨[], areReached_nil inProject fun _ _ adjacent => adjacent.1, 1,
        fun rounds enough => ?_⟩
      rw [traverse, if_neg none]
      simp only [if_neg inProject]
      obtain ⟨more, rfl⟩ := Nat.exists_eq_add_of_le' enough
      rfl

end Postgres

/-- The traversal ends, and returns the entities up to the capped depth, each once and
with the least number of effective edges that lead to it, exactly where the edges whose
texts it follows keep the layers of the effective ones. -/
theorem FalkorDB.traverse_breadthFirst_iff (settings : TraversalSettings)
    (graph : ProjectGraph AwareDatetime) (order : RowOrder) (start : Uuid) (maxDepth : Nat)
    {edgeTypes : Option (List Text)} (safe : sanitizeEdgeTypes edgeTypes = .ok ())
    (asOf : AwareDatetime) :
    (∃ nodes, (∃ enough, ∀ turns, enough ≤ turns →
        traverse settings graph.stored order turns start maxDepth edgeTypes asOf =
          some (.ok nodes)) ∧
      (nodes.map fun node => node.entity.id).Nodup ∧
      ∀ node, node ∈ nodes ↔ node.entity ∈ graph.entities ∧
        IsDistance (graph.Adjacent (Wanted edgeTypes asOf)) start node.entity.id node.depth ∧
        node.depth ≤ min maxDepth settings.maxDepth) ↔
      KeepsLayers (graph.Adjacent fun edge => Followed edgeTypes asOf edge.stored)
        (graph.Adjacent (Wanted edgeTypes asOf)) (min maxDepth settings.maxDepth) start := by
  obtain ⟨nodes, reached, enough, ended⟩ :=
    @traverse_areReached graph.stored order edgeTypes asOf maxDepth settings safe start
  have exactly : AreReached graph.stored (graph.Adjacent (Wanted edgeTypes asOf))
      (min maxDepth settings.maxDepth) start nodes ↔ _ :=
    areReached_iff_keepsLayers reached (fun _ _ adjacent => adjacent.2.1)
      (fun _ _ adjacent => adjacent.2.1)
  rw [adjacent_stored] at exactly
  rw [← exactly]
  constructor
  · rintro ⟨returned, ⟨enough', ended'⟩, once, mem_iff⟩
    have same := (ended (max enough enough') (Nat.le_max_left _ _)).symm.trans
      (ended' (max enough enough') (Nat.le_max_right _ _))
    cases same
    exact ⟨once, mem_iff⟩
  · intro reached'
    exact ⟨nodes, ⟨enough, ended⟩, reached'.once, reached'.mem_iff⟩

def person (id : Uuid) : StoredEntity :=
  { id := id
    name := "entity".toList
    type := "person".toList
    summary := []
    attributes := []
    createdAt := none }

/-- An edge without bounds. -/
def met {β : Type} (source target : Uuid) : DatedEdge β :=
  { source := source
    target := target
    relType := "knows".toList
    validFrom := none
    validTo := none
    invalidAt := none }

/-- Five entities in a row, with one more edge that ended at half past midnight. -/
def fiveInARow : ProjectGraph AwareDatetime :=
  { entities := [person 1, person 2, person 3, person 4, person 5]
    edges := [met 1 2, met 3 2, met 3 4, met 4 5,
      { met 1 5 with invalidAt := some FalkorDB.halfPastMidnight }]
    distinct := by decide }

def asStored : FalkorDB.RowOrder :=
  { arrange := fun _ rows => rows
    perm := fun _ rows => List.Perm.refl rows }

def defaultSettings : TraversalSettings :=
  { maxDepth := 5
    maxDepth_le := Nat.le_refl 5 }

theorem threeOClock_valid : DatetimeFields.Valid ⟨2024, 1, 1, 3, 0, 0, 0⟩ := by
  decide

theorem utc_valid : ValidOffset ⟨false, 0, 0, 0, 0⟩ := by
  decide

/-- Three o'clock in UTC. -/
def threeOClock : AwareDatetime :=
  { fields := ⟨2024, 1, 1, 3, 0, 0, 0⟩
    offset := ⟨false, 0, 0, 0, 0⟩
    fields_valid := threeOClock_valid
    offset_valid := utc_valid }

theorem fiveInARow_harmless :
    ∀ edge ∈ fiveInARow.edges, FalkorDB.OffsetsHarmless edge threeOClock := by
  intro edge member
  apply FalkorDB.SameOffset.harmless
  revert edge
  simp [fiveInARow, met, FalkorDB.SameOffset]
  decide

theorem FalkorDB.traverse_breadthFirst_iff_fiveInARow :
    ∃ nodes, (∃ enough, ∀ turns, enough ≤ turns →
        traverse defaultSettings fiveInARow.stored asStored turns 1 3 (some ["knows".toList])
          threeOClock = some (.ok nodes)) ∧
      (nodes.map fun node => node.entity.id).Nodup := by
  obtain ⟨nodes, ended, once, _⟩ := (traverse_breadthFirst_iff defaultSettings fiveInARow asStored
    1 3 (show sanitizeEdgeTypes (some ["knows".toList]) = .ok () by decide) threeOClock).mpr (by
      rw [adjacent_followed_of_harmless fiveInARow_harmless]
      exact .refl _ _ _)
  exact ⟨nodes, ended, once⟩

example : FalkorDB.traverse defaultSettings fiveInARow.stored asStored 20 1 3 none threeOClock =
    some (.ok [{ entity := person 1, depth := 0 }, { entity := person 2, depth := 1 },
      { entity := person 3, depth := 2 }, { entity := person 4, depth := 3 }]) := by
  decide +kernel

/-- Two entities and an edge that is valid from three o'clock in UTC. -/
def joinedFromThree : ProjectGraph AwareDatetime :=
  { entities := [person 1, person 2]
    edges := [FalkorDB.fromThree]
    distinct := by decide }

/-- At half past midnight, written five hours ahead, the edge is followed already. -/
theorem FalkorDB.traverse_beforeStart :
    ∃ nodes, traverse defaultSettings joinedFromThree.stored asStored 5 1 1 none
        halfPastFive.toAwareDatetime = some (.ok nodes) ∧
      ¬ ∀ node, node ∈ nodes ↔ node.entity ∈ joinedFromThree.entities ∧
        IsDistance (joinedFromThree.Adjacent (Wanted none halfPastFive.toAwareDatetime)) 1
          node.entity.id node.depth ∧
        node.depth ≤ min 1 defaultSettings.maxDepth := by
  refine ⟨[{ entity := person 1, depth := 0 }, { entity := person 2, depth := 1 }],
    by decide +kernel, ?_⟩
  intro exactly
  obtain ⟨_, ⟨walk, _⟩, _⟩ := (exactly { entity := person 2, depth := 1 }).mp (by decide)
  rcases walk.first_step with same | ⟨next, _, _, edge, member, ⟨effective, _⟩, _⟩
  · exact absurd same (by decide)
  · rw [List.mem_singleton.mp member] at effective
    revert effective
    decide +kernel

end OpenZync.Graph
