import Mathlib.Data.List.Dedup
import OpenZync.Graph.EdgeUpsert

/-!
# Merging entities

`merge_entities` of the FalkorDB backend.  For every relationship type at the
merged entities one query re-points the incoming edges to the canonical entity
and one the outgoing edges: each matched edge is merged into an edge of the
type that already lies at its destination, or a new one is made there, and the
matched edges are deleted.
-/

namespace OpenZync.Graph

/-- `_SAFE_EDGE_TYPE_RE`, on names without line breaks. -/
def isSafeEdgeType : Text → Bool
  | [] => false
  | first :: rest =>
      (first.isAlpha || first == '_') && rest.all fun c => c.isAlphanum || c == '_'

/-- The type a query with this name has: `$` also matches before a line break
at the end, which the query then ignores. -/
def FalkorDB.storedEdgeType (name : Text) : Option Text :=
  let stem := if name.getLast? = some '\n' then name.dropLast else name
  if isSafeEdgeType stem then some stem else none

/-- A relationship type of the store: `create_relationship` writes no other. -/
abbrev EdgeType := { name : Text // isSafeEdgeType name = true }

/-- An `Entity` node. -/
structure EntityNode where
  id : Uuid
  isMerged : Bool
  mergedInto : Option Uuid
deriving DecidableEq

/-- An edge between two entities, with its endpoints both as the graph has them
and as the properties it stores. -/
structure EntityEdge where
  source : Uuid
  target : Uuid
  relType : EdgeType
  sourceId : Uuid
  targetId : Uuid
  data : FalkorDB.Edge
deriving DecidableEq

structure EntityGraph where
  nodes : List EntityNode
  edges : List EntityEdge

/-- Source, target and type. -/
abbrev EntityKey := Uuid × Uuid × EdgeType

namespace EntityEdge

def isActive (edge : EntityEdge) : Bool :=
  edge.data.invalidAt.isNone

def key (edge : EntityEdge) : EntityKey :=
  (edge.source, edge.target, edge.relType)

/-- The edge at another place, active: the `ON CREATE SET` parts. -/
def movedTo (edge : EntityEdge) (source target : Uuid) (sourceId targetId : Uuid) :
    EntityEdge :=
  { source := source
    target := target
    relType := edge.relType
    sourceId := sourceId
    targetId := targetId
    data := { edge.data with invalidAt := none } }

end EntityEdge

/-- Raised where an entity does not exist. -/
structure NotFoundError where
  missing : List Uuid
deriving DecidableEq

structure MergeResult where
  rewiredCount : Nat
  deletedCount : Nat
  mergedCount : Nat
deriving DecidableEq

/-- `MERGE (s)-[nr:T]->(t) ON CREATE SET ..` for one row: an edge of the key,
active or not, is matched and left as it is. -/
def mergeRow (edges : List EntityEdge) (moved : EntityEdge → EntityEdge)
    (created : List EntityEdge) (row : EntityEdge) : List EntityEdge :=
  if (edges ++ created).any fun edge => edge.key == (moved row).key then created
  else created ++ [moved row]

/-- One query: every selected edge is merged at its new place and deleted. -/
def rewire (selects : EntityEdge → Bool) (moved : EntityEdge → EntityEdge)
    (edges : List EntityEdge) : List EntityEdge :=
  edges.filter (fun edge => !selects edge) ++
    (edges.filter selects).foldl (mergeRow edges moved) []

section Rewire

variable (canonicalId : Uuid) (mergedIds : List Uuid)

/-- The edges the incoming query matches. -/
def selectsIncoming (relType : EdgeType) (edge : EntityEdge) : Bool :=
  mergedIds.contains edge.target && edge.relType == relType && edge.source != canonicalId &&
    edge.isActive

def movedIncoming (edge : EntityEdge) : EntityEdge :=
  edge.movedTo edge.source canonicalId edge.sourceId canonicalId

/-- The edges the outgoing query matches. -/
def selectsOutgoing (relType : EdgeType) (edge : EntityEdge) : Bool :=
  mergedIds.contains edge.source && edge.relType == relType && edge.target != canonicalId &&
    edge.isActive

def movedOutgoing (edge : EntityEdge) : EntityEdge :=
  edge.movedTo canonicalId edge.target canonicalId edge.targetId

/-- The types of the active edges between a merged entity and one that is not
the canonical one. -/
def distinctTypes (edges : List EntityEdge) : List EdgeType :=
  ((edges.filter fun edge =>
    edge.isActive && ((mergedIds.contains edge.source && edge.target != canonicalId) ||
      (mergedIds.contains edge.target && edge.source != canonicalId))).map
    EntityEdge.relType).dedup

def rewireType (edges : List EntityEdge) (relType : EdgeType) : List EntityEdge :=
  rewire (selectsOutgoing canonicalId mergedIds relType) (movedOutgoing canonicalId)
    (rewire (selectsIncoming canonicalId mergedIds relType) (movedIncoming canonicalId) edges)

def softDelete (node : EntityNode) : EntityNode :=
  if mergedIds.contains node.id then
    { node with isMerged := true, mergedInto := some canonicalId }
  else node

end Rewire

/-- `merge_entities`.  The rewiring queries return no rows, so none are
counted. -/
def mergeEntities (graph : EntityGraph) (canonicalId : Uuid) (mergedIds : List Uuid) :
    Except NotFoundError (EntityGraph × MergeResult) :=
  let missing := (canonicalId :: mergedIds).filter fun id =>
    !(graph.nodes.map EntityNode.id).contains id
  if missing.isEmpty then
    .ok
      ({ nodes := graph.nodes.map (softDelete canonicalId mergedIds)
         edges := (distinctTypes canonicalId mergedIds graph.edges).foldl
          (rewireType canonicalId mergedIds) graph.edges },
        { rewiredCount := 0
          deletedCount := 0
          mergedCount := (graph.nodes.filter fun node => mergedIds.contains node.id).length })
  else .error { missing := missing }

end OpenZync.Graph
