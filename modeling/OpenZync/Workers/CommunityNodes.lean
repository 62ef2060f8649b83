import OpenZync.Workers.SummariseCommunity

/-!
# The requests of community summarisation

What the requests of a run do to the nodes and the edges of a project, each for
all nodes or for all edges at once; and what holds of the graph while nodes for
communities are merged into it.
-/

namespace OpenZync.Workers.SummariseCommunity

open OpenZync.Library

/-- The community nodes of a project. -/
def ProjectGraph.communityNodes (graph : ProjectGraph) : List Node :=
  graph.nodes.filter fun node => node.IsCommunity

section Deletion

variable {graph : ProjectGraph}

theorem collectPages_eq (listed : List Node) (offset : Nat) :
    collectPages listed offset = (listed.drop offset).map Node.id := by
  induction offset using collectPages.induct listed with
  | case1 offset more induction =>
      rw [collectPages, dif_pos more, induction, pageRows, List.take_take,
        Nat.min_eq_left (by omega), ← List.map_append, ← List.drop_drop,
        List.take_append_drop]
  | case2 offset last =>
      rw [collectPages, dif_neg last, pageRows, List.take_take, Nat.min_eq_left (by omega)]
      rw [pageRows, List.length_take] at last
      rw [List.take_of_length_le (by omega)]

/-- The graph without some nodes. -/
def ProjectGraph.deleteEntities (ids : List Uuid) (graph : ProjectGraph) : ProjectGraph :=
  ids.foldl (fun graph id => graph.deleteEntity id) graph

theorem deleteEntities_drawn (ids : List Uuid) :
    (graph.deleteEntities ids).drawn = graph.drawn := by
  induction ids generalizing graph with
  | nil => rfl
  | cons id ids induction => exact induction

theorem mem_deleteEntities_nodes {ids : List Uuid} {node : Node} :
    node ∈ (graph.deleteEntities ids).nodes ↔ node ∈ graph.nodes ∧ node.id ∉ ids := by
  induction ids generalizing graph with
  | nil => simp [ProjectGraph.deleteEntities]
  | cons id ids induction =>
      have first : node ∈ (graph.deleteEntity id).nodes ↔ node ∈ graph.nodes ∧ node.id ≠ id := by
        simp [ProjectGraph.deleteEntity]
      refine (@induction (graph.deleteEntity id)).trans ?_
      rw [first, List.mem_cons, not_or, and_assoc]

theorem mem_deleteEntities_edges {ids : List Uuid} {edge : Edge} :
    edge ∈ (graph.deleteEntities ids).edges ↔
      edge ∈ graph.edges ∧ edge.source ∉ ids ∧ edge.target ∉ ids := by
  induction ids generalizing graph with
  | nil => simp [ProjectGraph.deleteEntities]
  | cons id ids induction =>
      have first : edge ∈ (graph.deleteEntity id).edges ↔
          edge ∈ graph.edges ∧ edge.source ≠ id ∧ edge.target ≠ id := by
        simp [ProjectGraph.deleteEntity]
      refine (@induction (graph.deleteEntity id)).trans ?_
      rw [first, List.mem_cons, List.mem_cons, not_or, not_or]
      tauto

/-- The graph without its community nodes. -/
def ProjectGraph.withoutCommunities (graph : ProjectGraph) : ProjectGraph :=
  graph.deleteEntities ((graph.listed communityType).map Node.id)

theorem mem_listed_ids {id : Uuid} :
    id ∈ (graph.listed communityType).map Node.id ↔
      id ∈ graph.communityNodes.map Node.id :=
  ((List.perm_insertionSort _ _).map Node.id).mem_iff

theorem isCommunity_of_id {node : Node} (stored : node ∈ graph.nodes)
    (listed : node.id ∈ graph.communityNodes.map Node.id) : node.IsCommunity := by
  obtain ⟨other, member, same⟩ := List.mem_map.mp listed
  obtain ⟨otherStored, isCommunity⟩ := List.mem_filter.mp member
  have equal := List.inj_on_of_nodup_map graph.uniqueIds otherStored stored same
  exact equal ▸ of_decide_eq_true isCommunity

theorem mem_withoutCommunities {node : Node} :
    node ∈ graph.withoutCommunities.nodes ↔ node ∈ graph.nodes ∧ ¬ node.IsCommunity := by
  rw [ProjectGraph.withoutCommunities, mem_deleteEntities_nodes, mem_listed_ids]
  refine and_congr_right fun stored => not_congr ⟨isCommunity_of_id stored, ?_⟩
  intro isCommunity
  exact List.mem_map_of_mem (List.mem_filter.mpr ⟨stored, decide_eq_true isCommunity⟩)

theorem deletePriorCommunities_run (graph : ProjectGraph) :
    ∃ count, deletePriorCommunities graph = (graph.withoutCommunities, .ok count) := by
  have loop : ∀ ids deleted (graph : ProjectGraph), ∃ count,
      Attempt.fold (fun deleted id => (do
        let found ← Attempt.read fun graph : ProjectGraph =>
          (graph.nodes.map Node.id).contains id
        Attempt.change (ProjectGraph.deleteEntity id)
        pure (if found then deleted + 1 else deleted) : GraphStep Nat)) deleted ids graph =
          (graph.deleteEntities ids, .ok count) := by
    intro ids
    induction ids with
    | nil => exact fun deleted graph => ⟨deleted, rfl⟩
    | cons id ids induction =>
        intro deleted graph
        exact induction _ (graph.deleteEntity id)
  obtain ⟨count, ran⟩ := loop ((graph.listed communityType).map Node.id) 0 graph
  refine ⟨count, ?_⟩
  rw [deletePriorCommunities, Attempt.read_bind, collectPages_eq, List.drop_zero]
  exact ran

end Deletion

section MemberEdges

variable {graph : ProjectGraph} {source target : Uuid} {relType : Text}

theorem hasEdge_iff : graph.hasEdge source target relType = true ↔
    ∃ edge ∈ graph.edges, edge.source = source ∧ edge.target = target ∧
      edge.relType = relType := by
  simp [ProjectGraph.hasEdge, and_assoc]

/-- An edge goes between identifiers that are there. -/
theorem ends_of_hasEdge (has : graph.hasEdge source target relType = true) :
    source ∈ graph.nodes.map Node.id ∧ target ∈ graph.nodes.map Node.id := by
  obtain ⟨edge, stored, rfl, rfl, _⟩ := hasEdge_iff.mp has
  exact graph.linked edge stored

theorem drawn_of_hasEdge (has : graph.hasEdge source target relType = true) :
    target ∈ graph.drawn := by
  obtain ⟨node, stored, rfl⟩ := List.mem_map.mp (ends_of_hasEdge has).2
  exact graph.idsDrawn node stored

@[simp] theorem mergeEdge_nodes : (graph.mergeEdge source target relType).nodes = graph.nodes := by
  rw [ProjectGraph.mergeEdge]
  split
  · rfl
  · split <;> rfl

@[simp] theorem mergeEdge_drawn : (graph.mergeEdge source target relType).drawn = graph.drawn := by
  rw [ProjectGraph.mergeEdge]
  split
  · rfl
  · split <;> rfl

theorem mergeEdge_hasEdge (first : source ∈ graph.nodes.map Node.id)
    (second : target ∈ graph.nodes.map Node.id) (other other' : Uuid) :
    (graph.mergeEdge source target relType).hasEdge other other' relType = true ↔
      graph.hasEdge other other' relType = true ∨ other = source ∧ other' = target := by
  rw [ProjectGraph.mergeEdge]
  by_cases there : graph.hasEdge source target relType = true
  · rw [if_pos there]
    refine ⟨.inl, ?_⟩
    rintro (has | ⟨rfl, rfl⟩)
    · exact has
    · exact there
  · rw [if_neg there, dif_pos ⟨first, second⟩]
    simp only [hasEdge_iff, List.mem_append, List.mem_singleton, or_and_right, exists_or,
      exists_eq_left]
    simp only [and_true, eq_comm]

/-- The edges from some members to a node. -/
def ProjectGraph.mergeEdges (members : List Uuid) (target : Uuid) (graph : ProjectGraph) :
    ProjectGraph :=
  members.foldl (fun graph member => graph.mergeEdge member target memberOf) graph

theorem mergeEdges_nodes (members : List Uuid) :
    (graph.mergeEdges members target).nodes = graph.nodes := by
  induction members generalizing graph with
  | nil => rfl
  | cons member members induction =>
      exact (@induction (graph.mergeEdge member target memberOf)).trans mergeEdge_nodes

theorem mergeEdges_drawn (members : List Uuid) :
    (graph.mergeEdges members target).drawn = graph.drawn := by
  induction members generalizing graph with
  | nil => rfl
  | cons member members induction =>
      exact (@induction (graph.mergeEdge member target memberOf)).trans mergeEdge_drawn

theorem mergeEdges_hasEdge {members : List Uuid} (there : target ∈ graph.nodes.map Node.id)
    (known : ∀ member ∈ members, member ∈ graph.nodes.map Node.id) (other other' : Uuid) :
    (graph.mergeEdges members target).hasEdge other other' memberOf = true ↔
      graph.hasEdge other other' memberOf = true ∨ other ∈ members ∧ other' = target := by
  induction members generalizing graph with
  | nil => simp [ProjectGraph.mergeEdges]
  | cons member members induction =>
      have first := known member List.mem_cons_self
      have later := @induction (graph.mergeEdge member target memberOf)
        (by rw [mergeEdge_nodes]; exact there)
        (fun other inside => by
          rw [mergeEdge_nodes]
          exact known other (List.mem_cons_of_mem _ inside))
      refine later.trans ?_
      rw [mergeEdge_hasEdge first there, List.mem_cons]
      tauto

/-- Between nodes that are there the requests succeed. -/
theorem createMemberEdges_run {members : List Uuid}
    (there : target ∈ graph.nodes.map Node.id)
    (known : ∀ member ∈ members, member ∈ graph.nodes.map Node.id) :
    createMemberEdges members target graph = (graph.mergeEdges members target, .ok ()) := by
  induction members generalizing graph with
  | nil => rfl
  | cons member members induction =>
      have found : createRelationship memberOf member target graph =
          (graph.mergeEdge member target memberOf, .ok ()) := by
        have both : ((graph.nodes.map Node.id).contains member &&
            (graph.nodes.map Node.id).contains target) = true := by
          rw [Bool.and_eq_true, List.contains_iff_mem, List.contains_iff_mem]
          exact ⟨known member List.mem_cons_self, there⟩
        rw [createRelationship, Attempt.read_bind, both]
        rfl
      have later := @induction (graph.mergeEdge member target memberOf)
        (by rw [mergeEdge_nodes]; exact there)
        (fun other inside => by
          rw [mergeEdge_nodes]
          exact known other (List.mem_cons_of_mem _ inside))
      rw [createMemberEdges, Attempt.fold, Attempt.bind_of_ok found]
      exact later

end MemberEdges

section Merging

variable {world : World} {graph : ProjectGraph} {name summary : Text} {node : Node}

/-- The node that `create_entity` makes. -/
def freshNode (world : World) (graph : ProjectGraph) (name summary : Text) : Node :=
  ⟨world.newId graph.drawn, name, communityType, summary, world.now (world.newId graph.drawn),
    false⟩

/-- Where the nodes after a merge come from. -/
inductive Merged (world : World) (graph : ProjectGraph) (name summary : Text) :
    Node → Prop where
  | other {node : Node} (stored : node ∈ graph.nodes) (different : node.name ≠ name) :
      Merged world graph name summary node
  | matched {node : Node} (stored : node ∈ graph.nodes) (same : node.name = name) :
      Merged world graph name summary (node.onMatch communityType summary)
  | created (absent : name ∉ graph.nodes.map Node.name) :
      Merged world graph name summary (freshNode world graph name summary)

theorem mergeEntity_of_absent {entityType : Text} (absent : name ∉ graph.nodes.map Node.name) :
    graph.mergeEntity world name entityType summary =
      graph.insertEntity world name entityType summary absent :=
  dif_neg fun present => absent (List.contains_iff_mem.mp present)

theorem mergeEntity_of_present {entityType : Text} (present : name ∈ graph.nodes.map Node.name) :
    graph.mergeEntity world name entityType summary =
      graph.matchEntity name entityType summary :=
  dif_pos (List.contains_iff_mem.mpr present)

theorem mem_mergeEntity :
    node ∈ (graph.mergeEntity world name communityType summary).nodes ↔
      Merged world graph name summary node := by
  by_cases absent : name ∉ graph.nodes.map Node.name
  · rw [mergeEntity_of_absent absent]
    have shape : node ∈ (graph.insertEntity world name communityType summary absent).nodes ↔
        node ∈ graph.nodes ∨ node = freshNode world graph name summary := by
      rw [ProjectGraph.insertEntity, List.mem_append, List.mem_singleton]
      rfl
    rw [shape]
    constructor
    · rintro (stored | rfl)
      · exact .other stored fun same => absent (same ▸ List.mem_map_of_mem stored)
      · exact .created absent
    · intro merged
      cases merged with
      | other stored _ => exact .inl stored
      | matched stored same => exact absurd (same ▸ List.mem_map_of_mem stored) absent
      | created _ => exact .inr rfl
  · have present := not_not.mp absent
    rw [mergeEntity_of_present present]
    have shape : node ∈ (graph.matchEntity name communityType summary).nodes ↔
        ∃ old ∈ graph.nodes,
          (if old.name = name then old.onMatch communityType summary else old) = node :=
      List.mem_map
    rw [shape]
    constructor
    · rintro ⟨old, stored, rfl⟩
      split
      · rename_i same
        exact .matched stored same
      · rename_i different
        exact .other stored different
    · intro merged
      cases merged with
      | other stored different => exact ⟨node, stored, if_neg different⟩
      | @matched old stored same => exact ⟨old, stored, if_pos same⟩
      | created missing => exact absurd missing absent

theorem mergeEntity_hasEdge (entityType : Text) (source target : Uuid) (relType : Text) :
    (graph.mergeEntity world name entityType summary).hasEdge source target relType =
      graph.hasEdge source target relType := by
  rw [ProjectGraph.mergeEntity]
  split <;> rfl

theorem mergeEntity_drawn (entityType : Text) :
    graph.drawn ⊆ (graph.mergeEntity world name entityType summary).drawn := by
  rw [ProjectGraph.mergeEntity]
  split
  · exact fun _ member => member
  · exact List.subset_cons_self _ _

/-- A merge keeps the identifiers that are there. -/
theorem mergeEntity_ids {id : Uuid} (there : id ∈ graph.nodes.map Node.id) :
    id ∈ (graph.mergeEntity world name communityType summary).nodes.map Node.id := by
  obtain ⟨node, stored, rfl⟩ := List.mem_map.mp there
  by_cases same : node.name = name
  · exact List.mem_map.mpr ⟨_, mem_mergeEntity.mpr (.matched stored same), rfl⟩
  · exact List.mem_map_of_mem (mem_mergeEntity.mpr (.other stored same))

theorem mergeEntity_names {other : Text} :
    other ∈ (graph.mergeEntity world name communityType summary).nodes.map Node.name ↔
      other ∈ graph.nodes.map Node.name ∨ other = name := by
  constructor
  · intro member
    obtain ⟨node, stored, rfl⟩ := List.mem_map.mp member
    cases mem_mergeEntity.mp stored with
    | other stored _ => exact .inl (List.mem_map_of_mem stored)
    | matched _ same => exact .inr same
    | created _ => exact .inr rfl
  · rintro (member | rfl)
    · obtain ⟨node, stored, rfl⟩ := List.mem_map.mp member
      by_cases same : node.name = name
      · exact List.mem_map.mpr ⟨_, mem_mergeEntity.mpr (.matched stored same), rfl⟩
      · exact List.mem_map_of_mem (mem_mergeEntity.mpr (.other stored same))
    · by_cases absent : other ∉ graph.nodes.map Node.name
      · exact List.mem_map.mpr ⟨_, mem_mergeEntity.mpr (.created absent), rfl⟩
      · obtain ⟨node, stored, same⟩ := List.mem_map.mp (not_not.mp absent)
        exact List.mem_map.mpr ⟨_, mem_mergeEntity.mpr (.matched stored same), same⟩

theorem idOf_eq (stored : node ∈ graph.nodes) : graph.idOf node.name = some node.id := by
  have present : (graph.nodes.find? fun other => other.name = node.name).isSome = true :=
    List.find?_isSome.mpr ⟨node, stored, decide_eq_true rfl⟩
  obtain ⟨found, search⟩ := Option.isSome_iff_exists.mp present
  have matching : decide (found.name = node.name) = true := by
    simpa using List.find?_some search
  have same : found.name = node.name := of_decide_eq_true matching
  have equal := List.inj_on_of_nodup_map graph.uniqueNames (List.mem_of_find?_eq_some search)
    stored same
  rw [ProjectGraph.idOf, search, equal]
  rfl

end Merging

section Creation

variable {world : World} {entities : List Node} {graph : ProjectGraph} {members : List Uuid}

/-- The name under which the node of some members is stored. -/
def nodeName (world : World) (entities : List Node) (members : List Uuid) : Text :=
  storedName world.casing (communityName (memberNames entities members))

/-- The graph with the node of some members merged. -/
def ProjectGraph.withNode (world : World) (entities : List Node) (members : List Uuid)
    (graph : ProjectGraph) : ProjectGraph :=
  graph.mergeEntity world (nodeName world entities members) communityType
    (communitySummary world members (memberNames entities members))

/-- The graph with a community: its node, and the edges from its members. -/
def ProjectGraph.withCommunity (world : World) (entities : List Node) (graph : ProjectGraph)
    (members : List Uuid) : ProjectGraph :=
  let merged := graph.withNode world entities members
  merged.mergeEdges members ((merged.idOf (nodeName world entities members)).getD 0)

theorem withNode_node (world : World) (entities : List Node) (members : List Uuid)
    (graph : ProjectGraph) :
    ∃ node ∈ (graph.withNode world entities members).nodes,
      node.name = nodeName world entities members := by
  have named : nodeName world entities members ∈
      (graph.withNode world entities members).nodes.map Node.name :=
    mergeEntity_names.mpr (.inr rfl)
  exact List.mem_map.mp named

theorem idOf_nodeName {node : Node} (stored : node ∈ graph.nodes)
    (named : node.name = nodeName world entities members) :
    (graph.idOf (nodeName world entities members)).getD 0 = node.id := by
  rw [← named, idOf_eq stored]
  rfl

theorem withCommunity_nodes :
    (graph.withCommunity world entities members).nodes =
      (graph.withNode world entities members).nodes :=
  mergeEdges_nodes members

theorem withCommunity_hasEdge (known : ∀ member ∈ members, member ∈ graph.nodes.map Node.id)
    {node : Node} (stored : node ∈ (graph.withNode world entities members).nodes)
    (source : Uuid) :
    (graph.withCommunity world entities members).hasEdge source node.id memberOf = true ↔
      graph.hasEdge source node.id memberOf = true ∨
        source ∈ members ∧ node.name = nodeName world entities members := by
  obtain ⟨merged, there, named⟩ := withNode_node world entities members graph
  have sameNode : node.id = merged.id ↔ node.name = nodeName world entities members := by
    rw [← named]
    constructor
    · intro same
      exact congrArg Node.name (List.inj_on_of_nodup_map
        (graph.withNode world entities members).uniqueIds stored there same)
    · intro same
      exact congrArg Node.id (List.inj_on_of_nodup_map
        (graph.withNode world entities members).uniqueNames stored there same)
  rw [ProjectGraph.withCommunity, idOf_nodeName there named,
    mergeEdges_hasEdge (List.mem_map_of_mem there)
      (fun member inside => mergeEntity_ids (known member inside)), sameNode]
  rw [ProjectGraph.withNode, mergeEntity_hasEdge]

theorem createNext_run (world : World) (entities : List Node)
    (known : ∀ member ∈ members, member ∈ graph.nodes.map Node.id) (created : Nat) :
    createNext world entities created members graph =
      (graph.withCommunity world entities members, .ok (created + 1)) := by
  obtain ⟨merged, there, named⟩ := withNode_node world entities members graph
  have linked : createMemberEdges members (((graph.withNode world entities members).idOf
      (nodeName world entities members)).getD 0) (graph.withNode world entities members) =
        (graph.withCommunity world entities members, .ok ()) := by
    refine createMemberEdges_run ?_ fun member inside => mergeEntity_ids (known member inside)
    rw [idOf_nodeName there named]
    exact List.mem_map_of_mem there
  have made : createCommunity world entities members graph =
      (graph.withCommunity world entities members, .ok ()) :=
    linked
  rw [createNext]
  exact Attempt.handle_of_ok (Attempt.bind_of_ok made)

end Creation

section Rebuilding

variable {world : World} {entities : List Node} {base graph : ProjectGraph}
  {done : List (List Uuid)} {members : List Uuid}

/-- Every entity of this name has no type of its own. -/
def Free (base : ProjectGraph) (name : Text) : Prop :=
  ∀ node ∈ base.nodes, node.name = name → node.entityType = customType

/-- The graph after the nodes for some communities have been merged into a graph
without community nodes. -/
structure Rebuilding (nameOf : List Uuid → Text) (base : ProjectGraph)
    (done : List (List Uuid)) (graph : ProjectGraph) : Prop where
  kept : ∀ id ∈ base.nodes.map Node.id, id ∈ graph.nodes.map Node.id
  drawn : base.drawn ⊆ graph.drawn
  named : ∀ name, name ∈ graph.nodes.map Node.name ↔
    name ∈ base.nodes.map Node.name ∨ name ∈ done.map nameOf
  untouched : ∀ node ∈ graph.nodes, node.name ∉ done.map nameOf → node ∈ base.nodes
  typed : ∀ node ∈ graph.nodes, node.name ∈ done.map nameOf →
    (node.IsCommunity ↔ Free base node.name) ∧ node.entityType ≠ customType
  sameId : ∀ node ∈ graph.nodes, ∀ before ∈ base.nodes, before.name = node.name →
    before.id = node.id
  newId : ∀ node ∈ graph.nodes, node.name ∉ base.nodes.map Node.name → node.id ∉ base.drawn
  edges : ∀ node ∈ graph.nodes, ∀ source,
    graph.hasEdge source node.id memberOf = true ↔
      base.hasEdge source node.id memberOf = true ∨
        ∃ community ∈ done, nameOf community = node.name ∧ source ∈ community

theorem rebuilding_start (nameOf : List Uuid → Text) (base : ProjectGraph) :
    Rebuilding nameOf base [] base where
  kept := fun _ there => there
  drawn := fun _ member => member
  named := fun _ => by simp
  untouched := fun _ stored _ => stored
  typed := fun _ _ named => absurd named List.not_mem_nil
  sameId := by
    intro node stored before there same
    rw [List.inj_on_of_nodup_map base.uniqueNames there stored same]
  newId := fun node stored absent => absurd (List.mem_map_of_mem stored) absent
  edges := fun _ _ _ => by simp

theorem onMatch_community {node : Node} (summary : Text) :
    (node.onMatch communityType summary).IsCommunity ↔
      node.entityType = customType ∨ node.IsCommunity := by
  have different : communityType ≠ customType := by decide
  rw [Node.IsCommunity, Node.IsCommunity, Node.onMatch]
  by_cases custom : node.entityType = customType
  · simp [custom, different]
  · simp [custom]

theorem onMatch_notCustom {node : Node} (summary : Text) :
    (node.onMatch communityType summary).entityType ≠ customType := by
  have different : communityType ≠ customType := by decide
  rw [Node.onMatch]
  by_cases custom : node.entityType = customType
  · simp [custom, different]
  · simp [custom]

theorem Rebuilding.matched_type {nameOf : List Uuid → Text}
    (rebuilding : Rebuilding nameOf base done graph)
    (plain : ∀ node ∈ base.nodes, ¬ node.IsCommunity) {node : Node}
    (stored : node ∈ graph.nodes) (summary : Text) :
    (node.onMatch communityType summary).IsCommunity ↔ Free base node.name := by
  rw [onMatch_community]
  by_cases named : node.name ∈ done.map nameOf
  · obtain ⟨typed, notCustom⟩ := rebuilding.typed node stored named
    rw [← typed]
    exact or_iff_right notCustom
  · have before := rebuilding.untouched node stored named
    constructor
    · intro custom other there same
      rw [List.inj_on_of_nodup_map base.uniqueNames there before same]
      exact custom.resolve_right (plain node before)
    · intro free
      exact .inl (free node before rfl)

/-- A merge alone changes no edges. -/
theorem Rebuilding.edges_withNode
    (rebuilding : Rebuilding (nodeName world entities) base done graph) {node : Node}
    (stored : node ∈ (graph.withNode world entities members).nodes) (source : Uuid) :
    graph.hasEdge source node.id memberOf = true ↔
      base.hasEdge source node.id memberOf = true ∨
        ∃ community ∈ done, nodeName world entities community = node.name ∧
          source ∈ community := by
  cases mem_mergeEntity.mp stored with
  | other inGraph _ => exact rebuilding.edges node inGraph source
  | @matched old inGraph _ => exact rebuilding.edges old inGraph source
  | created absent =>
      -- No edge goes to an identifier that was not drawn before.
      have fresh := world.newId_fresh graph.drawn
      refine iff_of_false (fun has => fresh (drawn_of_hasEdge has)) ?_
      rintro (has | ⟨community, made, same, _⟩)
      · exact fresh (rebuilding.drawn (drawn_of_hasEdge has))
      · exact absurd ((rebuilding.named _).mpr
          (.inr (List.mem_map.mpr ⟨community, made, same⟩))) absent

theorem Rebuilding.step (rebuilding : Rebuilding (nodeName world entities) base done graph)
    (plain : ∀ node ∈ base.nodes, ¬ node.IsCommunity)
    (known : ∀ member ∈ members, member ∈ base.nodes.map Node.id) :
    Rebuilding (nodeName world entities) base (done ++ [members])
      (graph.withCommunity world entities members) where
  kept := by
    intro id there
    rw [withCommunity_nodes]
    exact mergeEntity_ids (rebuilding.kept id there)
  drawn := by
    rw [ProjectGraph.withCommunity, mergeEdges_drawn]
    exact fun _ member => mergeEntity_drawn _ (rebuilding.drawn member)
  named := by
    intro name
    rw [withCommunity_nodes, ProjectGraph.withNode, mergeEntity_names, rebuilding.named,
      List.map_append, List.map_singleton, List.mem_append, List.mem_singleton, or_assoc]
  untouched := by
    intro node stored absent
    rw [List.map_append, List.map_singleton, List.mem_append, List.mem_singleton,
      not_or] at absent
    rw [withCommunity_nodes] at stored
    cases mem_mergeEntity.mp stored with
    | other before _ => exact rebuilding.untouched node before absent.1
    | matched _ same => exact absurd same absent.2
    | created _ => exact absurd rfl absent.2
  typed := by
    intro node stored named
    rw [List.map_append, List.map_singleton, List.mem_append, List.mem_singleton] at named
    rw [withCommunity_nodes] at stored
    cases mem_mergeEntity.mp stored with
    | other before different =>
        exact rebuilding.typed node before (named.resolve_right different)
    | matched before _ =>
        exact ⟨rebuilding.matched_type plain before _, onMatch_notCustom _⟩
    | created absent =>
        have different : communityType ≠ customType := by decide
        refine ⟨iff_of_true rfl ?_, different⟩
        intro other there same
        exact absurd ((rebuilding.named _).mpr (.inl (List.mem_map.mpr ⟨other, there, same⟩)))
          absent
  sameId := by
    intro node stored before there same
    rw [withCommunity_nodes] at stored
    cases mem_mergeEntity.mp stored with
    | other inGraph _ => exact rebuilding.sameId node inGraph before there same
    | @matched old inGraph _ => exact rebuilding.sameId old inGraph before there same
    | created absent =>
        exact absurd ((rebuilding.named _).mpr (.inl (List.mem_map.mpr ⟨before, there, same⟩)))
          absent
  newId := by
    intro node stored absent
    rw [withCommunity_nodes] at stored
    cases mem_mergeEntity.mp stored with
    | other inGraph _ => exact rebuilding.newId node inGraph absent
    | @matched old inGraph _ => exact rebuilding.newId old inGraph absent
    | created _ => exact fun drawn => world.newId_fresh graph.drawn (rebuilding.drawn drawn)
  edges := by
    intro node stored source
    rw [withCommunity_nodes] at stored
    rw [withCommunity_hasEdge (fun member inside => rebuilding.kept member (known member inside))
      stored]
    rw [rebuilding.edges_withNode stored source, or_assoc]
    refine or_congr_right ?_
    constructor
    · rintro (⟨community, made, same, inside⟩ | ⟨inside, same⟩)
      · exact ⟨community, List.mem_append_left _ made, same, inside⟩
      · exact ⟨members, List.mem_append_right _ List.mem_cons_self, same.symm, inside⟩
    · rintro ⟨community, made, same, inside⟩
      rcases List.mem_append.mp made with made | new
      · exact .inl ⟨community, made, same, inside⟩
      · rw [List.mem_singleton.mp new] at same inside
        exact .inr ⟨inside, same.symm⟩

theorem Rebuilding.run {todo : List (List Uuid)}
    (rebuilding : Rebuilding (nodeName world entities) base done graph)
    (plain : ∀ node ∈ base.nodes, ¬ node.IsCommunity)
    (known : ∀ members ∈ todo, ∀ member ∈ members, member ∈ base.nodes.map Node.id)
    (created : Nat) :
    ∃ after, Attempt.fold (createNext world entities) created todo graph =
        (after, .ok (created + todo.length)) ∧
      Rebuilding (nodeName world entities) base (done ++ todo) after := by
  induction todo generalizing graph done created with
  | nil => exact ⟨graph, rfl, by rwa [List.append_nil]⟩
  | cons members todo induction =>
      have inside := known members List.mem_cons_self
      have first := createNext_run world entities
        (fun member listed => rebuilding.kept member (inside member listed)) created
      obtain ⟨after, ran, rebuilt⟩ := induction (rebuilding.step plain inside)
        (fun members listed => known members (List.mem_cons_of_mem _ listed)) (created + 1)
      refine ⟨after, ?_, ?_⟩
      · rw [Attempt.fold, Attempt.bind_of_ok first, ran, List.length_cons]
        ac_rfl
      · rwa [List.append_assoc, List.singleton_append] at rebuilt

end Rebuilding

end OpenZync.Workers.SummariseCommunity
