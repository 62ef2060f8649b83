import OpenZync.Graph.EntityMerge
import OpenZync.Graph.TemporalFilter
import OpenZync.Library.RecursiveUnion

/-!
# Traversal and retrieval in two graph stores

`traverse` and `retrieve_graph` of the FalkorDB and the PostgreSQL backend.
FalkorDB is searched breadth first, with one query for the neighbours of each
entity; PostgreSQL evaluates a recursive query.  FalkorDB compares the ISO texts of
the bounds and of `as_of`, PostgreSQL their instants.
-/

namespace OpenZync.Graph

open OpenZync.Library OpenZync.Repositories

/-- An entity as `_row_to_entity` returns it. -/
structure StoredEntity where
  id : Uuid
  name : Text
  type : Text
  summary : Text
  attributes : Text
  createdAt : Option Time
deriving DecidableEq

/-- The graph of one project. -/
structure ProjectGraph (β : Type) where
  entities : List StoredEntity
  edges : List (DatedEdge β)
  distinct : (entities.map StoredEntity.id).Nodup

namespace ProjectGraph

variable {β : Type} (graph : ProjectGraph β)

def ids : List Uuid :=
  graph.entities.map StoredEntity.id

def getEntity (id : Uuid) : Option StoredEntity :=
  graph.entities.find? fun entity => entity.id = id

/-- Two entities with an edge between them that is followed. -/
def Adjacent (Follows : DatedEdge β → Prop) (id other : Uuid) : Prop :=
  id ∈ graph.ids ∧ other ∈ graph.ids ∧
    ∃ edge ∈ graph.edges, Follows edge ∧ edge.otherEnd id = some other

/-- The graph as FalkorDB keeps it. -/
def stored (graph : ProjectGraph AwareDatetime) : ProjectGraph Text :=
  { entities := graph.entities
    edges := graph.edges.map DatedEdge.stored
    distinct := graph.distinct }

end ProjectGraph

/-- An entity with its `depth`. -/
structure TraversedEntity where
  entity : StoredEntity
  depth : Nat
deriving DecidableEq

/-- The entities of rows of identifiers and depths. -/
def ProjectGraph.withEntities {β : Type} (graph : ProjectGraph β) (rows : List (Uuid × Nat)) :
    List TraversedEntity :=
  rows.filterMap fun row =>
    (graph.getEntity row.1).map fun entity => { entity := entity, depth := row.2 }

/-- `MAX_TRAVERSAL_DEPTH` -/
def maxTraversalDepth : Nat :=
  5

/-- The constructor's `min(max_traversal_depth, MAX_TRAVERSAL_DEPTH)`. -/
structure TraversalSettings where
  maxDepth : Nat
  maxDepth_le : maxDepth ≤ maxTraversalDepth

/-- The start alone, where no edge type is wanted. -/
def startAlone {β : Type} (graph : ProjectGraph β) (start : Uuid) : List TraversedEntity :=
  match graph.getEntity start with
  | none => []
  | some entity => [{ entity := entity, depth := 0 }]

/-- The local variables of the loop of `traverse`. -/
structure TraversalState where
  visited : List Uuid
  queue : List (Uuid × Nat)
  nodes : List TraversedEntity

def TraversalState.begin (start : Uuid) : TraversalState :=
  { visited := []
    queue := [(start, 0)]
    nodes := [] }

/-- The loop that both `traverse` have, for so many turns, where the backend fetches the
neighbours of an entity. -/
def ProjectGraph.traverseLoop {β ε : Type} (graph : ProjectGraph β)
    (fetch : Uuid → Except ε (List Uuid)) (maxDepth : Nat) :
    Nat → TraversalState → Option (Except ε (List TraversedEntity))
  | 0, _ => none
  | turns + 1, state =>
      match state.queue with
      | [] => some (.ok state.nodes)
      | (currentId, depth) :: queue =>
          if currentId ∈ state.visited then
            graph.traverseLoop fetch maxDepth turns { state with queue := queue }
          else
            let visited := currentId :: state.visited
            let nodes :=
              match graph.getEntity currentId with
              | none => state.nodes
              | some entity => state.nodes ++ [{ entity := entity, depth := depth }]
            if maxDepth ≤ depth then
              graph.traverseLoop fetch maxDepth turns
                { visited := visited, queue := queue, nodes := nodes }
            else
              match fetch currentId with
              | .error failure => some (.error failure)
              | .ok rows =>
                  graph.traverseLoop fetch maxDepth turns
                    { visited := visited
                      queue := queue ++
                        (rows.filter fun neighbour => neighbour ∉ visited).map fun neighbour =>
                          (neighbour, depth + 1)
                      nodes := nodes }

namespace FalkorDB

/-- The order in which a query returns its rows, which it leaves open. -/
structure RowOrder where
  arrange : Uuid → List Uuid → List Uuid
  perm : ∀ id rows, (arrange id rows).Perm rows

/-- The `ValueError` of `_sanitize_edge_type`. -/
structure UnsafeEdgeType where
  name : Text
deriving DecidableEq

/-- `_sanitize_edge_type` on every wanted type. -/
def sanitizeEdgeTypes (edgeTypes : Option (List Text)) : Except UnsafeEdgeType Unit :=
  match (edgeTypes.getD []).find? fun name => (storedEdgeType name).isNone with
  | none => .ok ()
  | some name => .error { name := name }

/-- The types in the pattern of the query. -/
def patternTypes (edgeTypes : Option (List Text)) : Option (List Text) :=
  edgeTypes.map fun names => names.filterMap storedEdgeType

/-- The rows of the query for the neighbours of an entity. -/
def neighbourIds (graph : ProjectGraph Text) (edgeTypes : Option (List Text))
    (asOf : AwareDatetime) (id : Uuid) : List Uuid :=
  if id ∈ graph.ids then
    (((graph.edges.filter fun edge =>
      temporalClause asOf.isoformat edge ∧ edge.OfTypes (patternTypes edgeTypes)).filterMap
        fun edge => edge.otherEnd id).filter fun other => other ∈ graph.ids).dedup
  else []

/-- The neighbours of an entity, as the query returns them. -/
def fetchNeighbours (graph : ProjectGraph Text) (order : RowOrder)
    (edgeTypes : Option (List Text)) (asOf : AwareDatetime) (id : Uuid) :
    Except UnsafeEdgeType (List Uuid) :=
  match sanitizeEdgeTypes edgeTypes with
  | .error unsafeType => .error unsafeType
  | .ok () => .ok (order.arrange id (neighbourIds graph edgeTypes asOf id))

/-- `traverse` -/
def traverse (settings : TraversalSettings) (graph : ProjectGraph Text) (order : RowOrder)
    (turns : Nat) (start : Uuid) (maxDepth : Nat) (edgeTypes : Option (List Text))
    (asOf : AwareDatetime) : Option (Except UnsafeEdgeType (List TraversedEntity)) :=
  if edgeTypes = some [] then some (.ok (startAlone graph start))
  else
    graph.traverseLoop (fetchNeighbours graph order edgeTypes asOf)
      (min maxDepth settings.maxDepth) turns (.begin start)

end FalkorDB

namespace Postgres

/-- A row of `graph_entities`. -/
structure EntityRow where
  organizationId : Uuid
  projectId : Uuid
  entity : StoredEntity
deriving DecidableEq

/-- A row of `graph_relationships`. -/
structure RelationshipRow where
  projectId : Uuid
  edge : TemporalEdge
deriving DecidableEq

structure GraphTables where
  entities : List EntityRow
  relationships : List RelationshipRow
  primaryKey : (entities.map fun row => row.entity.id).Nodup

namespace GraphTables

variable (tables : GraphTables) (orgId projectId : Uuid)

/-- The entities of a project. -/
def scopedEntities : List StoredEntity :=
  (tables.entities.filter fun row => row.organizationId = orgId ∧ row.projectId = projectId).map
    EntityRow.entity

theorem scopedEntities_distinct :
    ((tables.scopedEntities orgId projectId).map StoredEntity.id).Nodup := by
  rw [scopedEntities, List.map_map]
  exact tables.primaryKey.sublist (List.filter_sublist.map _)

/-- The rows of a project. -/
def projectGraph : ProjectGraph Time :=
  { entities := tables.scopedEntities orgId projectId
    edges := (tables.relationships.filter fun row => row.projectId = projectId).map
      RelationshipRow.edge
    distinct := tables.scopedEntities_distinct orgId projectId }

end GraphTables

/-- The conditions of the join on an edge; `temporal` is whether there is an
`at_time`. -/
def Follows (edgeTypes : Option (List Text)) (atTime : Option Time) (edge : TemporalEdge) :
    Prop :=
  (match atTime with
    | none => edge.invalidAt = none
    | some asOf => edge.EffectiveAt asOf) ∧ edge.OfTypes edgeTypes

instance (edgeTypes : Option (List Text)) (atTime : Option Time) (edge : TemporalEdge) :
    Decidable (Follows edgeTypes atTime edge) :=
  match atTime with
  | none => inferInstanceAs (Decidable (edge.invalidAt = none ∧ edge.OfTypes edgeTypes))
  | some asOf => inferInstanceAs (Decidable (edge.EffectiveAt asOf ∧ edge.OfTypes edgeTypes))

/-- The entities that the recursive part of the query joins to a row; the other
columns of a row follow from its identifier. -/
def joinedIds (tables : GraphTables) (orgId projectId : Uuid) (edgeTypes : Option (List Text))
    (atTime : Option Time) (id : Uuid) : List Uuid :=
  ((tables.relationships.filter fun row =>
    row.projectId = projectId ∧ Follows edgeTypes atTime row.edge).filterMap
      fun row => row.edge.otherEnd id).filter fun other =>
        other ∈ (tables.scopedEntities orgId projectId).map StoredEntity.id

/-- `traverse`, with so many rounds of the recursive query. -/
def traverse (settings : TraversalSettings) (tables : GraphTables) (orgId projectId : Uuid)
    (rounds : Nat) (start : Uuid) (maxDepth : Nat) (edgeTypes : Option (List Text))
    (atTime : Option Time) : Option (List TraversedEntity) :=
  let graph := tables.projectGraph orgId projectId
  if edgeTypes = some [] then some (startAlone graph start)
  else
    let anchor := if start ∈ graph.ids then [(start, 0)] else []
    (recursiveUnion (deeper (joinedIds tables orgId projectId edgeTypes atTime)
        (min maxDepth settings.maxDepth)) rounds anchor anchor).map fun listed =>
      graph.withEntities (distinctOn listed)

end Postgres

/-- An item of `retrieve_graph`. -/
structure RetrievedEntity where
  id : Uuid
  name : Text
  type : Text
  summary : Text
  distance : Nat
deriving DecidableEq

def StoredEntity.retrieved (entity : StoredEntity) (distance : Nat) : RetrievedEntity :=
  { id := entity.id
    name := entity.name
    type := entity.type
    summary := entity.summary
    distance := distance }

/-- The loop over the matched entities; `seen` holds the identifiers of `results`. -/
def retrieveLoop {ε : Type} (traverse : Uuid → Option (Except ε (List TraversedEntity))) :
    List RetrievedEntity → List StoredEntity → Option (Except ε (List RetrievedEntity))
  | results, [] => some (.ok results)
  | results, entity :: matched =>
      if entity.id ∈ results.map RetrievedEntity.id then retrieveLoop traverse results matched
      else
        match traverse entity.id with
        | none => none
        | some (.error failure) => some (.error failure)
        | some (.ok related) =>
            retrieveLoop traverse
              (addFirsts RetrievedEntity.id (results ++ [entity.retrieved 0])
                (related.map fun node => node.entity.retrieved node.depth)) matched

/-- `results.sort(key=distance)` -/
def closestFirst (results : List RetrievedEntity) : List RetrievedEntity :=
  results.insertionSort fun first second => first.distance ≤ second.distance

/-- `retrieve_graph` of FalkorDB before its results are cut, from the matched
entities on. -/
def FalkorDB.retrieved (settings : TraversalSettings) (graph : ProjectGraph Text)
    (orders : Uuid → RowOrder) (turns : Nat) (matched : List StoredEntity) (maxDepth : Nat)
    (asOf : AwareDatetime) : Option (Except UnsafeEdgeType (List RetrievedEntity)) :=
  (retrieveLoop (fun id => traverse settings graph (orders id) turns id maxDepth none asOf) []
    matched).map fun answer => answer.map closestFirst

/-- `retrieve_graph` of PostgreSQL before its results are cut. -/
def Postgres.retrieved (settings : TraversalSettings) (tables : GraphTables)
    (orgId projectId : Uuid) (rounds : Nat) (matched : List StoredEntity) (maxDepth : Nat)
    (asOf : Time) : Option (Except Empty (List RetrievedEntity)) :=
  (retrieveLoop (fun id => (traverse settings tables orgId projectId rounds id maxDepth none
    (some asOf)).map .ok) [] matched).map fun answer => answer.map closestFirst

/-- `results[:max_results]` -/
def truncated {ε : Type} (maxResults : Nat)
    (answer : Option (Except ε (List RetrievedEntity))) :
    Option (Except ε (List RetrievedEntity)) :=
  answer.map fun answer => answer.map fun results => results.take maxResults

/-- `retrieve_graph` of FalkorDB. -/
def FalkorDB.retrieveGraph (settings : TraversalSettings) (graph : ProjectGraph Text)
    (orders : Uuid → RowOrder) (turns : Nat) (matched : List StoredEntity)
    (maxDepth maxResults : Nat) (asOf : AwareDatetime) :
    Option (Except UnsafeEdgeType (List RetrievedEntity)) :=
  truncated maxResults (retrieved settings graph orders turns matched maxDepth asOf)

/-- `retrieve_graph` of PostgreSQL. -/
def Postgres.retrieveGraph (settings : TraversalSettings) (tables : GraphTables)
    (orgId projectId : Uuid) (rounds : Nat) (matched : List StoredEntity)
    (maxDepth maxResults : Nat) (asOf : Time) :
    Option (Except Empty (List RetrievedEntity)) :=
  truncated maxResults (retrieved settings tables orgId projectId rounds matched maxDepth asOf)

end OpenZync.Graph
