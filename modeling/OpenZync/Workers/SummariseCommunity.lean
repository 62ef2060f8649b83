import Mathlib.Data.List.Sort
import OpenZync.Library.Attempts
import OpenZync.Text

/-!
# Community summarisation

The project loop of `_process_org` over the FalkorDB backend: the graph of a
project is searched for communities, the community nodes of earlier runs are
deleted, and a node is created for each community that was found.
-/

namespace OpenZync.Workers.SummariseCommunity

open OpenZync.Library

/-- The properties of an `Entity` node. -/
structure Node where
  id : Uuid
  name : Text
  entityType : Text
  summary : Text
  createdAt : Text
  isMerged : Bool
deriving DecidableEq

/-- An edge; it is active while `invalid_at` is null. -/
structure Edge where
  source : Uuid
  target : Uuid
  relType : Text
  isActive : Bool
deriving DecidableEq

def communityType : Text := "community".toList

def customType : Text := "Custom".toList

def memberOf : Text := "member_of".toList

def Node.IsCommunity (node : Node) : Prop :=
  node.entityType = communityType

instance (node : Node) : Decidable node.IsCommunity :=
  inferInstanceAs (Decidable (_ = _))

/-- The graph of one project.  Identifiers are unique and drawn by `uuid4`, names
are unique within a tenant, and an edge goes with its nodes. -/
structure ProjectGraph where
  nodes : List Node
  edges : List Edge
  drawn : List Uuid
  uniqueIds : (nodes.map Node.id).Nodup
  uniqueNames : (nodes.map Node.name).Nodup
  idsDrawn : ∀ node ∈ nodes, node.id ∈ drawn
  linked : ∀ edge ∈ edges,
    edge.source ∈ nodes.map Node.id ∧ edge.target ∈ nodes.map Node.id

/-- The graph that `build_entity_graph` builds: the identifiers of its nodes, and
its edges. -/
structure EntityNet where
  nodes : List Uuid
  edges : List (Uuid × Uuid)
deriving DecidableEq

/-- Sets, as lists in the order in which they are iterated, that contain every
place once. -/
structure IsPartition (sets : List (List Uuid)) (places : List Uuid) : Prop where
  nodup : ∀ set ∈ sets, set.Nodup
  disjoint : sets.Pairwise List.Disjoint
  cover : ∀ place, place ∈ places ↔ ∃ set ∈ sets, place ∈ set

/-- The libraries of a run: `label_propagation_communities`, the answer of the
language model to the prompt for some members, or none where it raises, `uuid4`,
and the instant at which a node is created. -/
structure World where
  casing : Casing
  labelPropagation : EntityNet → List (List Uuid)
  partition : ∀ net : EntityNet, IsPartition (labelPropagation net) net.nodes
  chat : List Uuid → Option Text
  newId : List Uuid → Uuid
  newId_fresh : ∀ drawn, newId drawn ∉ drawn
  now : Uuid → Text

/-- The `NotFoundError` of `create_relationship`. -/
inductive Failure where
  | notFound (source target : Uuid)
deriving DecidableEq

abbrev GraphStep (α : Type) := Attempt ProjectGraph Failure α

/-- `COMMUNITY_MIN_ENTITY_COUNT` -/
def communityMinEntityCount : Nat := 5

/-- `get_all_entities` -/
def ProjectGraph.getAllEntities (graph : ProjectGraph) : List Node :=
  (graph.nodes.filter fun node => !node.isMerged).insertionSort fun first second =>
    first.name ≤ second.name

/-- `get_all_relationships` -/
def ProjectGraph.getAllRelationships (graph : ProjectGraph) : List Edge :=
  graph.edges.filter fun edge => edge.isActive &&
    graph.nodes.any fun node => node.id == edge.source && !node.isMerged

/-- `build_entity_graph` -/
def buildEntityGraph (entities : List Node) (relationships : List Edge) : EntityNet where
  nodes := entities.map Node.id
  edges := (relationships.filter fun edge =>
    (entities.map Node.id).contains edge.source && (entities.map Node.id).contains edge.target).map
      fun edge => (edge.source, edge.target)

/-- `detect_communities_label_propagation` -/
def detectCommunitiesLabelPropagation (world : World) (net : EntityNet) : List (List Uuid) :=
  (world.labelPropagation net).filter fun community => 2 ≤ community.length

/-- The order of `list_entities`: by `created_at` and identifier. -/
def ProjectGraph.listed (graph : ProjectGraph) (entityType : Text) : List Node :=
  (graph.nodes.filter fun node => node.entityType = entityType).insertionSort fun first second =>
    first.createdAt < second.createdAt ∨
      (first.createdAt = second.createdAt ∧ first.id ≤ second.id)

/-- The rows of `list_entities` with a limit of 200: one more says that there is
another page. -/
def pageRows (listed : List Node) (offset : Nat) : List Node :=
  (listed.drop offset).take (200 + 1)

/-- The identifiers on the pages from an offset on. -/
def collectPages (listed : List Node) (offset : Nat) : List Uuid :=
  let ids := ((pageRows listed offset).take 200).map Node.id
  if _more : 200 < (pageRows listed offset).length then
    ids ++ collectPages listed (offset + 200)
  else ids
termination_by listed.length - offset
decreasing_by
  simp only [pageRows, List.length_take, List.length_drop] at _more
  omega

/-- `delete_entity`: the node with the edges at it. -/
def ProjectGraph.deleteEntity (id : Uuid) (graph : ProjectGraph) : ProjectGraph where
  nodes := graph.nodes.filter fun node => node.id ≠ id
  edges := graph.edges.filter fun edge => edge.source ≠ id ∧ edge.target ≠ id
  drawn := graph.drawn
  uniqueIds := graph.uniqueIds.sublist (List.filter_sublist.map _)
  uniqueNames := graph.uniqueNames.sublist (List.filter_sublist.map _)
  idsDrawn := fun node member => graph.idsDrawn node (List.mem_filter.mp member).1
  linked := by
    intro edge member
    obtain ⟨stored, kept⟩ := List.mem_filter.mp member
    obtain ⟨keptSource, keptTarget⟩ := of_decide_eq_true kept
    obtain ⟨source, target⟩ := graph.linked edge stored
    obtain ⟨first, firstStored, sameSource⟩ := List.mem_map.mp source
    obtain ⟨second, secondStored, sameTarget⟩ := List.mem_map.mp target
    refine ⟨List.mem_map.mpr ⟨first, ?_, sameSource⟩, List.mem_map.mpr ⟨second, ?_, sameTarget⟩⟩
    · simpa [firstStored, sameSource] using keptSource
    · simpa [secondStored, sameTarget] using keptTarget

/-- `_delete_prior_communities`: the number of nodes that were deleted. -/
def deletePriorCommunities : GraphStep Nat := do
  let communityIds ← Attempt.read fun graph => collectPages (graph.listed communityType) 0
  Attempt.fold (fun deleted id => do
    let found ← Attempt.read fun graph => (graph.nodes.map Node.id).contains id
    Attempt.change (ProjectGraph.deleteEntity id)
    pure (if found then deleted + 1 else deleted)) 0 communityIds

/-- The `ON MATCH SET` part of `create_entity`. -/
def Node.onMatch (node : Node) (entityType summary : Text) : Node :=
  { node with
    entityType :=
      if node.entityType = customType ∧ entityType ≠ customType then entityType
      else node.entityType
    summary := if summary ≠ [] then summary else node.summary }

/-- The nodes after the `ON MATCH SET` part of `create_entity`. -/
def matchNodes (name entityType summary : Text) (nodes : List Node) : List Node :=
  nodes.map fun node => if node.name = name then node.onMatch entityType summary else node

theorem matchNodes_column {α : Type} {column : Node → α} (name entityType summary : Text)
    (kept : ∀ node : Node, column (node.onMatch entityType summary) = column node)
    (nodes : List Node) :
    (matchNodes name entityType summary nodes).map column = nodes.map column := by
  rw [matchNodes, List.map_map]
  refine List.map_congr_left fun node _ => ?_
  simp only [Function.comp_apply]
  split
  · exact kept node
  · rfl

theorem matchNodes_ids (name entityType summary : Text) (nodes : List Node) :
    (matchNodes name entityType summary nodes).map Node.id = nodes.map Node.id :=
  matchNodes_column name entityType summary (fun _ => rfl) nodes

/-- `create_entity` on a name that is there. -/
def ProjectGraph.matchEntity (name entityType summary : Text) (graph : ProjectGraph) :
    ProjectGraph where
  nodes := matchNodes name entityType summary graph.nodes
  edges := graph.edges
  drawn := graph.drawn
  uniqueIds := by
    rw [matchNodes_ids]
    exact graph.uniqueIds
  uniqueNames := by
    rw [matchNodes_column name entityType summary fun _ => rfl]
    exact graph.uniqueNames
  idsDrawn := by
    intro node member
    have known := List.mem_map_of_mem (f := Node.id) member
    rw [matchNodes_ids] at known
    obtain ⟨stored, inGraph, same⟩ := List.mem_map.mp known
    rw [← same]
    exact graph.idsDrawn stored inGraph
  linked := by
    rw [matchNodes_ids]
    exact graph.linked

/-- `create_entity` on a name that is not there. -/
def ProjectGraph.insertEntity (world : World) (name entityType summary : Text)
    (graph : ProjectGraph) (absent : name ∉ graph.nodes.map Node.name) : ProjectGraph :=
  let id := world.newId graph.drawn
  have notThere : id ∉ graph.nodes.map Node.id := by
    intro member
    obtain ⟨node, stored, same⟩ := List.mem_map.mp member
    refine world.newId_fresh graph.drawn ?_
    have drawn := graph.idsDrawn node stored
    rwa [same] at drawn
  { nodes := graph.nodes ++ [⟨id, name, entityType, summary, world.now id, false⟩]
    edges := graph.edges
    drawn := id :: graph.drawn
    uniqueIds := by
      rw [List.map_append, List.map_singleton, List.nodup_append_comm, List.singleton_append]
      exact List.nodup_cons.mpr ⟨notThere, graph.uniqueIds⟩
    uniqueNames := by
      rw [List.map_append, List.map_singleton, List.nodup_append_comm, List.singleton_append]
      exact List.nodup_cons.mpr ⟨absent, graph.uniqueNames⟩
    idsDrawn := by
      intro node member
      rcases List.mem_append.mp member with stored | new
      · exact List.mem_cons_of_mem _ (graph.idsDrawn node stored)
      · rw [List.mem_singleton.mp new]
        exact List.mem_cons_self
    linked := by
      intro edge member
      rw [List.map_append]
      exact ⟨List.mem_append_left _ (graph.linked edge member).1,
        List.mem_append_left _ (graph.linked edge member).2⟩ }

/-- `create_entity`: a merge on the stored name, `name.lower().strip()`. -/
def ProjectGraph.mergeEntity (world : World) (name entityType summary : Text)
    (graph : ProjectGraph) : ProjectGraph :=
  if present : (graph.nodes.map Node.name).contains name then
    graph.matchEntity name entityType summary
  else
    graph.insertEntity world name entityType summary fun member =>
      present (List.contains_iff_mem.mpr member)

/-- The identifier of the node with a name. -/
def ProjectGraph.idOf (name : Text) (graph : ProjectGraph) : Option Uuid :=
  (graph.nodes.find? fun node => node.name = name).map Node.id

def storedName (casing : Casing) (name : Text) : Text :=
  Text.strip (casing.lower name)

/-- `create_entity`, with the identifier that it returns. -/
def createEntity (world : World) (name entityType summary : Text) : GraphStep Uuid := do
  let stored := storedName world.casing name
  Attempt.change (ProjectGraph.mergeEntity world stored entityType summary)
  Attempt.read fun graph => (graph.idOf stored).getD 0

/-- Whether an edge of a type lies between two nodes. -/
def ProjectGraph.hasEdge (graph : ProjectGraph) (source target : Uuid) (relType : Text) : Bool :=
  graph.edges.any fun edge =>
    edge.source == source && edge.target == target && edge.relType == relType

/-- The `MERGE` of `create_relationship` between nodes that are there. -/
def ProjectGraph.mergeEdge (source target : Uuid) (relType : Text) (graph : ProjectGraph) :
    ProjectGraph :=
  if graph.hasEdge source target relType then graph
  else if ends : source ∈ graph.nodes.map Node.id ∧ target ∈ graph.nodes.map Node.id then
    { graph with
      edges := graph.edges ++ [⟨source, target, relType, true⟩]
      linked := by
        intro edge member
        rcases List.mem_append.mp member with stored | new
        · exact graph.linked edge stored
        · rw [List.mem_singleton.mp new]
          exact ends }
  else graph

/-- `create_relationship` -/
def createRelationship (relType : Text) (source target : Uuid) : GraphStep Unit := do
  let found ← Attempt.read fun graph =>
    (graph.nodes.map Node.id).contains source && (graph.nodes.map Node.id).contains target
  if found then Attempt.change (ProjectGraph.mergeEdge source target relType)
  else Attempt.fail (.notFound source target)

/-- `create_relationship_bulk` of the edges from some members to one node. -/
def createMemberEdges (members : List Uuid) (communityId : Uuid) : GraphStep Unit :=
  Attempt.fold (fun _ member => createRelationship memberOf member communityId) () members

/-- The names of the members that are known. -/
def memberNames (entities : List Node) (members : List Uuid) : List Text :=
  members.filterMap fun member =>
    (entities.find? fun entity => entity.id = member).map Node.name

/-- `f"Community: {', '.join(member_names[:3])}{'...' if ... else ''}"` -/
def communityName (names : List Text) : Text :=
  "Community: ".toList ++ List.intercalate ", ".toList (names.take 3) ++
    (if 3 < names.length then "...".toList else [])

/-- The summary of the language model, or what stands for it. -/
def communitySummary (world : World) (members : List Uuid) (names : List Text) : Text :=
  match world.chat members with
  | some content => Text.strip content
  | none =>
      "Community of ".toList ++ Nat.toDigits 10 names.length ++ " entities: ".toList ++
        List.intercalate ", ".toList names

/-- `_create_community` -/
def createCommunity (world : World) (entities : List Node) (members : List Uuid) :
    GraphStep Unit := do
  let names := memberNames entities members
  let communityId ← createEntity world (communityName names) communityType
    (communitySummary world members names)
  createMemberEdges members communityId

/-- `_create_community` inside its `try`, with the number of those created. -/
def createNext (world : World) (entities : List Node) (created : Nat) (members : List Uuid) :
    GraphStep Nat :=
  Attempt.handle (do
    createCommunity world entities members
    pure (created + 1)) fun _ => pure created

/-- The communities that are detected among entities and relationships that no
earlier run has made. -/
def detectAmong (world : World) (entities : List Node) (relationships : List Edge) :
    List (List Uuid) :=
  let inputEntities := entities.filter fun entity => entity.entityType ≠ communityType
  let inputRelationships := relationships.filter fun edge => edge.relType ≠ memberOf
  detectCommunitiesLabelPropagation world (buildEntityGraph inputEntities inputRelationships)

/-- The project loop of `_process_org` for one project. -/
def processProject (world : World) : GraphStep Nat := do
  let entities ← Attempt.read ProjectGraph.getAllEntities
  if entities.length < communityMinEntityCount then pure 0
  else do
    let relationships ← Attempt.read ProjectGraph.getAllRelationships
    let communities := detectAmong world entities relationships
    if communities = [] then pure 0
    else do
      let _deleted ← deletePriorCommunities
      Attempt.fold (createNext world entities) 0 communities

/-- The projects of an organisation that are not archived. -/
structure OrgProjects where
  ids : List Uuid
  unique : ids.Nodup

/-- One turn of the loop of `_process_org`, with `total_created`. -/
def processNext (worlds : Uuid → World) (progress : (Uuid → ProjectGraph) × Nat)
    (project : Uuid) : (Uuid → ProjectGraph) × Nat :=
  match processProject (worlds project) (progress.1 project) with
  | (after, .ok created) => (Function.update progress.1 project after, progress.2 + created)
  | (after, .error _) => (Function.update progress.1 project after, progress.2)

/-- `_process_org` of an organisation with a backend: the graphs of its projects
afterwards, and the number of communities created. -/
def processOrg (worlds : Uuid → World) (projects : OrgProjects)
    (graphs : Uuid → ProjectGraph) : (Uuid → ProjectGraph) × Nat :=
  projects.ids.foldl (processNext worlds) (graphs, 0)

end OpenZync.Workers.SummariseCommunity
