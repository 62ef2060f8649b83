import OpenZync.Graph.Neighbourhoods

/-!
# Traversal in SurrealDB

SurrealDB is searched breadth first like FalkorDB, along the edges that leave an
entity only, and through the entities of every project.  It compares the same texts,
and returns what FalkorDB returns exactly where every edge that is followed has one
that leads back.
-/

namespace OpenZync.Graph

open OpenZync.Library OpenZync.Repositories

namespace SurrealDB

/-- What a bound of an edge is kept as: `create_relationship` and
`expire_relationships_matching` write texts, `expire_relationship` the datetime of
`time::now()`. -/
inductive Bound where
  | text (value : Text)
  | datetime (value : Time)
deriving DecidableEq

/-- A record of the table `entity`. -/
structure EntityRecord where
  organizationId : Uuid
  projectId : Uuid
  entity : StoredEntity
deriving DecidableEq

/-- The records of a database and the edges between them, which are in the tables of
their types; how it compares a datetime with a text is left open. -/
structure Database where
  entities : List EntityRecord
  edges : List (DatedEdge Bound)
  compareKinds : Time → Text → Ordering
  recordIds : (entities.map fun record => record.entity.id).Nodup
  ends : ∀ edge ∈ edges, edge.source ∈ entities.map (fun record => record.entity.id) ∧
    edge.target ∈ entities.map (fun record => record.entity.id)

namespace Database

variable (db : Database) (orgId projectId : Uuid)

def ids : List Uuid :=
  db.entities.map fun record => record.entity.id

/-- The entities of a project. -/
def scopedEntities : List StoredEntity :=
  (db.entities.filter fun record =>
    record.organizationId = orgId ∧ record.projectId = projectId).map EntityRecord.entity

theorem scopedEntities_distinct :
    ((db.scopedEntities orgId projectId).map StoredEntity.id).Nodup := by
  rw [scopedEntities, List.map_map]
  exact db.recordIds.sublist (List.filter_sublist.map _)

/-- What the backend of a project sees of the entities, with all edges. -/
def projectGraph : ProjectGraph Bound :=
  { entities := db.scopedEntities orgId projectId
    edges := db.edges
    distinct := db.scopedEntities_distinct orgId projectId }

/-- An edge that is followed leads from one entity to the other. -/
def Leads (Follows : DatedEdge Bound → Prop) (id other : Uuid) : Prop :=
  ∃ edge ∈ db.edges, Follows edge ∧ edge.source = id ∧ edge.target = other

def compareBound (asOf : Text) : Bound → Ordering
  | .text value => compare value asOf
  | .datetime value => db.compareKinds value asOf

/-- `edge_filter` of `traverse`. -/
def edgeFilter (asOf : Text) (edge : DatedEdge Bound) : Bool :=
  edge.invalidAt.all (fun invalidAt => (db.compareBound asOf invalidAt).isGT) &&
    edge.validFrom.all (fun validFrom => (db.compareBound asOf validFrom).isLE) &&
      edge.validTo.all fun validTo => (db.compareBound asOf validTo).isGE

theorem edgeFilter_text (asOf : Text) (edge : DatedEdge Text) :
    db.edgeFilter asOf (edge.map .text) = FalkorDB.temporalClause asOf edge := by
  have later : ∀ validTo : Text,
      (compare validTo asOf).isGE = (compare asOf validTo).isLE := by
    intro validTo
    rw [@Std.OrientedCmp.eq_swap _ compare _ validTo asOf, Ordering.isGE_swap]
  simp [edgeFilter, FalkorDB.temporalClause, DatedEdge.map, compareBound, Option.all_map, later]

end Database

/-- The `GraphBackendUnavailableError` of `traverse`. -/
structure NeighbourFetchFailed where
  entityId : Uuid
deriving DecidableEq

/-- The targets of the edges of one type, or of all, that leave an entity. -/
def targets (db : Database) (asOf : AwareDatetime) (id : Uuid)
    (OfType : DatedEdge Bound → Bool) : List Uuid :=
  (db.edges.filter fun edge =>
    OfType edge ∧ db.edgeFilter asOf.isoformat edge ∧ edge.source = id).map DatedEdge.target

/-- `neighbour_ids`; the pattern that `_sanitize_edge_type` matches is the one of
FalkorDB. -/
def neighbourIds (db : Database) (edgeTypes : Option (List Text)) (asOf : AwareDatetime)
    (id : Uuid) : List Uuid :=
  match FalkorDB.patternTypes edgeTypes with
  | some names =>
      (names.flatMap fun name => targets db asOf id fun edge => edge.relType = name).dedup
  | none => (targets db asOf id fun _ => true).dedup

/-- The neighbours of an entity; the set of them is gone through in any order. -/
def fetchNeighbours (db : Database) (order : FalkorDB.RowOrder) (edgeTypes : Option (List Text))
    (asOf : AwareDatetime) (id : Uuid) : Except NeighbourFetchFailed (List Uuid) :=
  match FalkorDB.sanitizeEdgeTypes edgeTypes with
  | .error _ => .error { entityId := id }
  | .ok () => .ok (order.arrange id (neighbourIds db edgeTypes asOf id))

/-- `traverse` -/
def traverse (settings : TraversalSettings) (db : Database) (orgId projectId : Uuid)
    (order : FalkorDB.RowOrder) (turns : Nat) (start : Uuid) (maxDepth : Nat)
    (edgeTypes : Option (List Text)) (asOf : AwareDatetime) :
    Option (Except NeighbourFetchFailed (List TraversedEntity)) :=
  let graph := db.projectGraph orgId projectId
  if edgeTypes = some [] then some (.ok (startAlone graph start))
  else
    graph.traverseLoop (fetchNeighbours db order edgeTypes asOf)
      (min maxDepth settings.maxDepth) turns (.begin start)

/-- The queries for the neighbours of an entity follow the edge. -/
def Followed (db : Database) (edgeTypes : Option (List Text)) (asOf : AwareDatetime)
    (edge : DatedEdge Bound) : Prop :=
  db.edgeFilter asOf.isoformat edge = true ∧ edge.OfTypes (FalkorDB.patternTypes edgeTypes)

section Search

variable {db : Database} {order : FalkorDB.RowOrder}
  {edgeTypes : Option (List Text)} {asOf : AwareDatetime} {maxDepth : Nat}

theorem mem_targets {id other : Uuid} {OfType : DatedEdge Bound → Bool} :
    other ∈ targets db asOf id OfType ↔ ∃ edge ∈ db.edges, OfType edge = true ∧
      db.edgeFilter asOf.isoformat edge = true ∧ edge.source = id ∧ edge.target = other := by
  simp only [targets, List.mem_map, List.mem_filter, decide_eq_true_eq, and_assoc]

theorem mem_neighbourIds {id other : Uuid} :
    other ∈ neighbourIds db edgeTypes asOf id ↔
      db.Leads (Followed db edgeTypes asOf) id other := by
  simp only [neighbourIds, Database.Leads, Followed]
  cases FalkorDB.patternTypes edgeTypes with
  | none =>
      rw [List.mem_dedup, mem_targets]
      simp [DatedEdge.OfTypes]
  | some names =>
      simp only [List.mem_dedup, List.mem_flatMap, mem_targets, DatedEdge.OfTypes,
        Option.mem_some_iff, forall_eq', decide_eq_true_eq]
      constructor
      · rintro ⟨name, wanted, edge, stored, rfl, effective, ends⟩
        exact ⟨edge, stored, ⟨effective, wanted⟩, ends⟩
      · rintro ⟨edge, stored, ⟨effective, wanted⟩, ends⟩
        exact ⟨edge.relType, wanted, edge, stored, rfl, effective, ends⟩

/-- The neighbours in the order of the set. -/
def neighbours (db : Database) (order : FalkorDB.RowOrder) (edgeTypes : Option (List Text))
    (asOf : AwareDatetime) (id : Uuid) : List Uuid :=
  order.arrange id (neighbourIds db edgeTypes asOf id)

theorem neighbours_relation :
    (fun id other => other ∈ neighbours db order edgeTypes asOf id) =
      db.Leads (Followed db edgeTypes asOf) := by
  funext id other
  rw [neighbours, (order.perm _ _).mem_iff, mem_neighbourIds]

theorem traverse_areReached (settings : TraversalSettings) (orgId projectId : Uuid)
    (safe : FalkorDB.sanitizeEdgeTypes edgeTypes = .ok ()) (start : Uuid) :
    ∃ nodes, AreReached (db.projectGraph orgId projectId)
      (db.Leads (Followed db edgeTypes asOf)) (min maxDepth settings.maxDepth) start nodes ∧
      ∃ enough, ∀ turns, enough ≤ turns →
        traverse settings db orgId projectId order turns start maxDepth edgeTypes asOf =
          some (.ok nodes) := by
  by_cases none : edgeTypes = some []
  · refine ⟨startAlone (db.projectGraph orgId projectId) start, areReached_startAlone ?_, 0,
      fun turns _ => ?_⟩
    · rintro id other ⟨edge, _, ⟨_, typed⟩, _⟩
      rw [none] at typed
      exact absurd (typed [] rfl) List.not_mem_nil
    · rw [traverse, if_pos none]
  · have inside : ∀ id, ∀ other ∈ neighbours db order edgeTypes asOf id, other ∈ db.ids := by
      intro id other next
      rw [neighbours, (order.perm _ _).mem_iff, mem_neighbourIds] at next
      obtain ⟨edge, stored, -, -, rfl⟩ := next
      exact (db.ends edge stored).2
    have fetched : ∀ id, fetchNeighbours db order edgeTypes asOf id =
        .ok (neighbours db order edgeTypes asOf id) := by
      intro id
      rw [fetchNeighbours, safe]
      rfl
    have reached := exists_traverseLoop (db.projectGraph orgId projectId) fetched inside
      (min maxDepth settings.maxDepth) start
    rw [neighbours_relation] at reached
    simpa only [traverse, if_neg none] using reached

end Search

/-- The traversal ends, and returns the entities of the project up to the capped depth,
each once and with the least number of followed edges that lead to it, where an edge
leads one way only and the entities between may be of any project; an edge whose
bounds were written with harmless offsets is followed exactly where it is effective. -/
theorem traverse_outward (settings : TraversalSettings) (db : Database)
    (orgId projectId : Uuid) (order : FalkorDB.RowOrder) (start : Uuid) (maxDepth : Nat)
    {edgeTypes : Option (List Text)} (safe : FalkorDB.sanitizeEdgeTypes edgeTypes = .ok ())
    (asOf : AwareDatetime) :
    (∃ nodes, (∃ enough, ∀ turns, enough ≤ turns →
        traverse settings db orgId projectId order turns start maxDepth edgeTypes asOf =
          some (.ok nodes)) ∧
      (nodes.map fun node => node.entity.id).Nodup ∧
      ∀ node, node ∈ nodes ↔ node.entity ∈ db.scopedEntities orgId projectId ∧
        IsDistance (db.Leads (Followed db edgeTypes asOf)) start node.entity.id node.depth ∧
        node.depth ≤ min maxDepth settings.maxDepth) ∧
    ∀ edge : DatedEdge AwareDatetime, FalkorDB.OffsetsHarmless edge asOf →
      (db.edgeFilter asOf.isoformat (edge.stored.map .text) = true ↔
        edge.temporal.EffectiveAt asOf.instant) := by
  constructor
  · obtain ⟨nodes, reached, ended⟩ := traverse_areReached settings orgId projectId safe start
    exact ⟨nodes, ended, reached.once, reached.mem_iff⟩
  · intro edge harmless
    rw [db.edgeFilter_text]
    exact FalkorDB.temporalClause_iff ((FalkorDB.comparesInstants_iff edge asOf).mpr harmless)

/-- Three entities in a row, the middle one in another project. -/
def acrossProjects : Database :=
  { entities := [⟨0, 0, person 1⟩, ⟨0, 1, person 2⟩, ⟨0, 0, person 3⟩]
    edges := [met 1 2, met 2 3]
    compareKinds := fun _ _ => .gt
    recordIds := by decide
    ends := by decide }

theorem traverse_outward_acrossProjects :
    ∃ nodes, (∃ enough, ∀ turns, enough ≤ turns →
        traverse defaultSettings acrossProjects 0 0 asStored turns 1 3 (some ["knows".toList])
          threeOClock = some (.ok nodes)) ∧
      (nodes.map fun node => node.entity.id).Nodup := by
  obtain ⟨⟨nodes, ended, once, _⟩, _⟩ := traverse_outward defaultSettings acrossProjects 0 0
    asStored 1 3 (show FalkorDB.sanitizeEdgeTypes (some ["knows".toList]) = .ok () by decide)
    threeOClock
  exact ⟨nodes, ended, once⟩

example : traverse defaultSettings acrossProjects 0 0 asStored 20 1 3 none threeOClock =
    some (.ok [{ entity := person 1, depth := 0 }, { entity := person 3, depth := 2 }]) := by
  decide +kernel

end SurrealDB

section Parity

/-- The database and the graph keep one project, with the same texts. -/
structure KeepAlike (db : SurrealDB.Database) (graph : ProjectGraph Text)
    (orgId projectId : Uuid) : Prop where
  oneProject : ∀ record ∈ db.entities,
    record.organizationId = orgId ∧ record.projectId = projectId
  entities : graph.entities = db.scopedEntities orgId projectId
  edges : db.edges = graph.edges.map (DatedEdge.map .text)

variable {db : SurrealDB.Database} {graph : ProjectGraph Text} {orgId projectId : Uuid}
  {asOf : AwareDatetime}

theorem AreReached.perm {β γ : Type} {graph : ProjectGraph β} {graph' : ProjectGraph γ}
    {R : Uuid → Uuid → Prop} {limit : Nat} {start : Uuid} {nodes others : List TraversedEntity}
    (same : graph.entities = graph'.entities)
    (reached : AreReached graph R limit start nodes)
    (reached' : AreReached graph' R limit start others) : nodes.Perm others := by
  refine (List.perm_ext_iff_of_nodup reached.once.of_map reached'.once.of_map).mpr ?_
  intro node
  rw [reached.mem_iff, reached'.mem_iff, same]

theorem KeepAlike.ids (alike : KeepAlike db graph orgId projectId) : graph.ids = db.ids := by
  have all : (db.entities.filter fun record =>
      decide (record.organizationId = orgId ∧ record.projectId = projectId)) = db.entities :=
    List.filter_eq_self.mpr fun record member => decide_eq_true (alike.oneProject record member)
  simp only [ProjectGraph.ids, alike.entities, SurrealDB.Database.scopedEntities, all,
    List.map_map, SurrealDB.Database.ids]
  rfl

/-- The edges that SurrealDB follows, by their texts. -/
theorem KeepAlike.leads_iff (alike : KeepAlike db graph orgId projectId) {id other : Uuid} :
    db.Leads (fun edge => db.edgeFilter asOf.isoformat edge = true) id other ↔
      ∃ edge ∈ graph.edges, FalkorDB.temporalClause asOf.isoformat edge = true ∧
        edge.source = id ∧ edge.target = other := by
  simp only [SurrealDB.Database.Leads, alike.edges, List.mem_map, exists_exists_and_eq_and,
    db.edgeFilter_text]
  rfl

theorem KeepAlike.adjacent_iff (alike : KeepAlike db graph orgId projectId) {id other : Uuid} :
    graph.Adjacent (fun edge => FalkorDB.temporalClause asOf.isoformat edge = true) id other ↔
      db.Leads (fun edge => db.edgeFilter asOf.isoformat edge = true) id other ∨
        db.Leads (fun edge => db.edgeFilter asOf.isoformat edge = true) other id := by
  have inside : ∀ edge ∈ graph.edges, edge.source ∈ graph.ids ∧ edge.target ∈ graph.ids := by
    intro edge stored
    have kept : edge.map SurrealDB.Bound.text ∈ db.edges := by
      rw [alike.edges]
      exact List.mem_map_of_mem stored
    rw [alike.ids]
    exact db.ends _ kept
  rw [alike.leads_iff, alike.leads_iff]
  constructor
  · rintro ⟨_, _, edge, stored, followed, ends⟩
    rw [DatedEdge.otherEnd] at ends
    split at ends
    · rename_i source
      exact .inl ⟨edge, stored, followed, source, Option.some.inj ends⟩
    · split at ends
      · rename_i target
        exact .inr ⟨edge, stored, followed, Option.some.inj ends, target⟩
      · cases ends
  · rintro (⟨edge, stored, followed, rfl, rfl⟩ | ⟨edge, stored, followed, rfl, rfl⟩)
    · obtain ⟨first, second⟩ := inside edge stored
      exact ⟨first, second, edge, stored, followed, if_pos rfl⟩
    · obtain ⟨first, second⟩ := inside edge stored
      refine ⟨second, first, edge, stored, followed, ?_⟩
      rw [DatedEdge.otherEnd]
      by_cases loop : edge.source = edge.target
      · rw [if_pos loop, loop]
      · rw [if_neg loop, if_pos rfl]

theorem SurrealDB.traverse_followed (settings : TraversalSettings) (db : SurrealDB.Database)
    (orgId projectId : Uuid) (order : FalkorDB.RowOrder) (maxDepth : Nat) (asOf : AwareDatetime)
    (start : Uuid) :
    ∃ nodes, AreReached (db.projectGraph orgId projectId)
      (db.Leads fun edge => db.edgeFilter asOf.isoformat edge = true)
      (min maxDepth settings.maxDepth) start nodes ∧
      ∃ enough, ∀ turns, enough ≤ turns →
        traverse settings db orgId projectId order turns start maxDepth none asOf =
          some (.ok nodes) := by
  have all : Followed db none asOf = fun edge => db.edgeFilter asOf.isoformat edge = true := by
    funext edge
    exact propext (and_iff_left (ofTypes_none edge))
  have safe : FalkorDB.sanitizeEdgeTypes none = .ok () := rfl
  rw [← all]
  exact traverse_areReached settings orgId projectId safe start

theorem FalkorDB.traverse_stored (settings : TraversalSettings) (graph : ProjectGraph Text)
    (order : RowOrder) (maxDepth : Nat) (asOf : AwareDatetime) (start : Uuid) :
    ∃ nodes, AreReached graph
      (graph.Adjacent fun edge => temporalClause asOf.isoformat edge = true)
      (min maxDepth settings.maxDepth) start nodes ∧
      ∃ enough, ∀ turns, enough ≤ turns →
        traverse settings graph order turns start maxDepth none asOf = some (.ok nodes) := by
  have all : Followed none asOf = fun edge => temporalClause asOf.isoformat edge = true := by
    funext edge
    exact propext (and_iff_left (ofTypes_none edge))
  have safe : FalkorDB.sanitizeEdgeTypes none = .ok () := rfl
  rw [← all]
  exact traverse_areReached settings safe start

/-- One step away is what an edge leads to. -/
theorem isDistance_one_iff {R : Uuid → Uuid → Prop} {start place : Uuid}
    (different : place ≠ start) : IsDistance R start place 1 ↔ R start place := by
  constructor
  · rintro ⟨walk, _⟩
    cases walk with
    | step before edge =>
        rw [before.eq_of_zero] at edge
        exact edge
  · intro edge
    refine ⟨Walk.stay.step edge, ?_⟩
    intro length walk
    apply Nat.pos_of_ne_zero
    rintro rfl
    exact different walk.eq_of_zero

/-- SurrealDB and FalkorDB return the same entities at the same depths from every start,
exactly where every edge that is followed has a followed one that leads back. -/
theorem traversals_agree_iff (settings : TraversalSettings) (deep : 1 ≤ settings.maxDepth)
    (db : SurrealDB.Database) (graph : ProjectGraph Text) (orgId projectId : Uuid)
    (alike : KeepAlike db graph orgId projectId) (order order' : FalkorDB.RowOrder)
    (asOf : AwareDatetime) :
    (∀ start maxDepth, ∃ nodes others, nodes.Perm others ∧
      ∃ enough, ∀ turns, enough ≤ turns →
        SurrealDB.traverse settings db orgId projectId order turns start maxDepth none asOf =
          some (.ok nodes) ∧
        FalkorDB.traverse settings graph order' turns start maxDepth none asOf =
          some (.ok others)) ↔
      ∀ edge ∈ graph.edges, FalkorDB.temporalClause asOf.isoformat edge = true →
        ∃ back ∈ graph.edges, FalkorDB.temporalClause asOf.isoformat back = true ∧
          back.source = edge.target ∧ back.target = edge.source := by
  constructor
  · intro agree edge stored followed
    by_cases loop : edge.source = edge.target
    · exact ⟨edge, stored, followed, loop, loop.symm⟩
    have limit : min 1 settings.maxDepth = 1 := Nat.min_eq_left deep
    obtain ⟨nodes, others, same, enough, both⟩ := agree edge.target 1
    obtain ⟨found, reached, turns, ended⟩ :=
      SurrealDB.traverse_followed settings db orgId projectId order 1 asOf edge.target
    obtain ⟨found', reached', turns', ended'⟩ :=
      FalkorDB.traverse_stored settings graph order' 1 asOf edge.target
    let all := max enough (max turns turns')
    have results := both all (Nat.le_max_left _ _)
    rw [ended all (by omega), ended' all (by omega)] at results
    have foundNodes : found = nodes := Except.ok.inj (Option.some.inj results.1)
    have foundOthers : found' = others := Except.ok.inj (Option.some.inj results.2)
    rw [← foundNodes, ← foundOthers] at same
    have back : graph.Adjacent (fun edge => FalkorDB.temporalClause asOf.isoformat edge = true)
        edge.target edge.source :=
      alike.adjacent_iff.mpr (.inr (alike.leads_iff.mpr ⟨edge, stored, followed, rfl, rfl⟩))
    obtain ⟨entity, member, id⟩ := List.mem_map.mp back.2.1
    -- the source is one step from the target for FalkorDB
    have near : IsDistance (graph.Adjacent fun edge =>
        FalkorDB.temporalClause asOf.isoformat edge = true) edge.target entity.id 1 := by
      rw [id, isDistance_one_iff loop]
      exact back
    have node : ⟨entity, 1⟩ ∈ found' :=
      (reached'.mem_iff _).mpr ⟨member, near, Nat.le_of_eq limit.symm⟩
    have distance := ((reached.mem_iff _).mp (same.mem_iff.mpr node)).2.1
    rw [id, isDistance_one_iff loop] at distance
    exact alike.leads_iff.mp distance
  · intro back start maxDepth
    obtain ⟨nodes, reached, turns, ended⟩ :=
      SurrealDB.traverse_followed settings db orgId projectId order maxDepth asOf start
    obtain ⟨others, reached', turns', ended'⟩ :=
      FalkorDB.traverse_stored settings graph order' maxDepth asOf start
    have sameRelation : (graph.Adjacent fun edge =>
        FalkorDB.temporalClause asOf.isoformat edge = true) =
          db.Leads fun edge => db.edgeFilter asOf.isoformat edge = true := by
      funext id other
      apply propext
      rw [alike.adjacent_iff, alike.leads_iff, alike.leads_iff]
      refine ⟨?_, .inl⟩
      rintro (leads | ⟨edge, stored, followed, rfl, rfl⟩)
      · exact leads
      · exact back edge stored followed
    rw [sameRelation] at reached'
    refine ⟨nodes, others, reached.perm alike.entities.symm reached', max turns turns',
      fun more fits => ?_⟩
    exact ⟨ended more (Nat.le_trans (Nat.le_max_left _ _) fits),
      ended' more (Nat.le_trans (Nat.le_max_right _ _) fits)⟩

theorem oneWay_distinct : ([person 1, person 2].map StoredEntity.id).Nodup := by
  decide

/-- One edge, which only FalkorDB follows back. -/
def oneWay : ProjectGraph Text :=
  { entities := [person 1, person 2]
    edges := [met 1 2]
    distinct := oneWay_distinct }

def oneWayRecords : SurrealDB.Database :=
  { entities := [⟨0, 0, person 1⟩, ⟨0, 0, person 2⟩]
    edges := [met 1 2]
    compareKinds := fun _ _ => .gt
    recordIds := by decide
    ends := by decide }

theorem traversals_agree_iff_oneWay :
    ¬ ∀ start maxDepth, ∃ nodes others, nodes.Perm others ∧
      ∃ enough, ∀ turns, enough ≤ turns →
        SurrealDB.traverse defaultSettings oneWayRecords 0 0 asStored turns start maxDepth none
          threeOClock = some (.ok nodes) ∧
        FalkorDB.traverse defaultSettings oneWay asStored turns start maxDepth none
          threeOClock = some (.ok others) := by
  rw [traversals_agree_iff defaultSettings (by decide) oneWayRecords oneWay 0 0
    ⟨by decide, by decide, by decide⟩ asStored asStored threeOClock]
  decide

end Parity

end OpenZync.Graph
