import Mathlib.Data.List.Dedup
import Mathlib.Data.List.Forall2
import Mathlib.Data.List.MinMax
import Mathlib.Data.List.Pairwise
import Mathlib.Data.List.Perm.Basic
import OpenZync.Workers.CommunityNodes

/-!
# Community nodes after a rerun

Where communities are found, the nodes of earlier runs are deleted and every
community is merged into a node with its name.  There is one node for each
community exactly when their names are different and no other entity stands in
the way.  Where none are found, the nodes of earlier runs stay.
-/

namespace OpenZync.Workers.SummariseCommunity

open OpenZync.Library

/-- The communities for which a run makes nodes. -/
def detected (world : World) (graph : ProjectGraph) : List (List Uuid) :=
  if graph.getAllEntities.length < communityMinEntityCount then []
  else detectAmong world graph.getAllEntities graph.getAllRelationships

/-- The name under which the node of a community is stored. -/
def label (world : World) (graph : ProjectGraph) (community : List Uuid) : Text :=
  nodeName world graph.getAllEntities community

/-- There is one community node for each community, with edges from its members and
no others, and no community node of an earlier run. -/
structure Replaced (world : World) (graph after : ProjectGraph) : Prop where
  onePerCommunity : ∃ nodes, nodes.Perm after.communityNodes ∧
    List.Forall₂ (fun community node => ∀ source,
      after.hasEdge source node.id memberOf = true ↔ source ∈ community)
        (detected world graph) nodes
  noneSurvives : ∀ node ∈ graph.communityNodes, node.id ∉ after.nodes.map Node.id

/-- An entity that has the name of a community becomes its node: it has no type of
its own, and no member but those of the community. -/
def Adoptable (graph : ProjectGraph) (community : List Uuid) (node : Node) : Prop :=
  node.entityType = customType ∧
    ∀ edge ∈ graph.edges, edge.target = node.id → edge.relType = memberOf →
      edge.source ∈ community ∨ edge.source ∈ graph.communityNodes.map Node.id

/-- Communities are found, their names are different and no other entity is in the
way; or none are found, and there are none from earlier runs. -/
def Replaceable (world : World) (graph : ProjectGraph) : Prop :=
  if detected world graph = [] then graph.communityNodes = []
  else ((detected world graph).map (label world graph)).Nodup ∧
    ∀ community ∈ detected world graph, ∀ node ∈ graph.nodes, ¬ node.IsCommunity →
      node.name = label world graph community → Adoptable graph community node

section Detection

variable {world : World} {graph : ProjectGraph} {community : List Uuid}

theorem detectAmong_sublist (world : World) (entities : List Node) (relationships : List Edge) :
    ∃ net : EntityNet,
      net.nodes = (entities.filter fun entity => entity.entityType ≠ communityType).map Node.id ∧
      (detectAmong world entities relationships).Sublist (world.labelPropagation net) :=
  ⟨_, rfl, List.filter_sublist⟩

/-- Different communities have no member in common. -/
theorem detected_disjoint : (detected world graph).Pairwise List.Disjoint := by
  rw [detected]
  split
  · exact .nil
  · obtain ⟨net, _, sublist⟩ := detectAmong_sublist world graph.getAllEntities
      graph.getAllRelationships
    exact (world.partition net).disjoint.sublist sublist

theorem detected_members (found : community ∈ detected world graph) :
    (∃ member, member ∈ community) ∧
      ∀ member ∈ community, member ∈ graph.withoutCommunities.nodes.map Node.id := by
  rw [detected] at found
  split at found
  · exact absurd found List.not_mem_nil
  · constructor
    · have size : 2 ≤ community.length := of_decide_eq_true (List.mem_filter.mp found).2
      exact List.exists_mem_of_length_pos (by omega)
    · intro member inside
      obtain ⟨net, nodes, sublist⟩ := detectAmong_sublist world graph.getAllEntities
        graph.getAllRelationships
      have listed := ((world.partition net).cover member).mpr
        ⟨community, sublist.subset found, inside⟩
      rw [nodes] at listed
      obtain ⟨node, kept, rfl⟩ := List.mem_map.mp listed
      obtain ⟨entity, plain⟩ := List.mem_filter.mp kept
      have stored : node ∈ graph.nodes :=
        (List.mem_filter.mp ((List.perm_insertionSort _ _).mem_iff.mp entity)).1
      exact List.mem_map_of_mem
        (mem_withoutCommunities.mpr ⟨stored, of_decide_eq_true plain⟩)

end Detection

section Projects

variable {world : World} {graph : ProjectGraph}

/-- Where no communities are found, nothing is deleted. -/
theorem processProject_none (none : detected world graph = []) :
    processProject world graph = (graph, .ok 0) := by
  rw [processProject, Attempt.read_bind]
  rw [detected] at none
  by_cases few : graph.getAllEntities.length < communityMinEntityCount
  · rw [if_pos few]
    rfl
  · rw [if_neg few] at none ⊢
    rw [Attempt.read_bind]
    simp only [if_pos none]
    rfl

theorem processProject_some (some : detected world graph ≠ []) :
    ∃ after, processProject world graph = (after, .ok (detected world graph).length) ∧
      Rebuilding (label world graph) graph.withoutCommunities (detected world graph) after := by
  have many : ¬ graph.getAllEntities.length < communityMinEntityCount := by
    intro few
    exact some (if_pos few)
  have found : detected world graph =
      detectAmong world graph.getAllEntities graph.getAllRelationships :=
    if_neg many
  obtain ⟨count, deleted⟩ := deletePriorCommunities_run graph
  obtain ⟨after, ran, rebuilt⟩ := (rebuilding_start (label world graph)
    graph.withoutCommunities).run
      (fun node stored => (mem_withoutCommunities.mp stored).2)
      (fun _ listed => (detected_members listed).2) 0
  refine ⟨after, ?_, rebuilt⟩
  rw [processProject, Attempt.read_bind, if_neg many, Attempt.read_bind]
  simp only [← found, if_neg some]
  rw [Attempt.bind_of_ok deleted, ran, Nat.zero_add]

end Projects

section Rebuilt

variable {world : World} {graph after : ProjectGraph} {community : List Uuid} {node : Node}

theorem same_community {other : List Uuid} {member : Uuid}
    (found : community ∈ detected world graph) (found' : other ∈ detected world graph)
    (inside : member ∈ community) (inside' : member ∈ other) : community = other := by
  by_contra different
  have symmetric : Std.Symm (@List.Disjoint Uuid) :=
    ⟨fun _ _ disjoint _ inside inside' => disjoint inside' inside⟩
  exact detected_disjoint.forall found found' different inside inside'

theorem rebuilt_old (rebuilt : Rebuilding (label world graph) graph.withoutCommunities
      (detected world graph) after)
    (stored : node ∈ after.nodes) (drawn : node.id ∈ graph.drawn) :
    ∃ before ∈ graph.nodes, ¬ before.IsCommunity ∧ before.name = node.name ∧
      before.id = node.id := by
  have named : node.name ∈ graph.withoutCommunities.nodes.map Node.name := by
    by_contra absent
    refine rebuilt.newId node stored absent ?_
    rwa [ProjectGraph.withoutCommunities, deleteEntities_drawn]
  obtain ⟨before, there, same⟩ := List.mem_map.mp named
  obtain ⟨inGraph, plain⟩ := mem_withoutCommunities.mp there
  exact ⟨before, inGraph, plain, same, rebuilt.sameId node stored before there same⟩

theorem noneSurvives_of_rebuilt (rebuilt : Rebuilding (label world graph)
      graph.withoutCommunities (detected world graph) after) :
    ∀ node ∈ graph.communityNodes, node.id ∉ after.nodes.map Node.id := by
  intro node listed survives
  obtain ⟨other, stored, same⟩ := List.mem_map.mp survives
  obtain ⟨inGraph, isCommunity⟩ := List.mem_filter.mp listed
  obtain ⟨before, there, plain, _, sameId⟩ :=
    rebuilt_old rebuilt stored (same ▸ graph.idsDrawn node inGraph)
  have equal := List.inj_on_of_nodup_map graph.uniqueIds there inGraph (sameId.trans same)
  exact plain (equal ▸ of_decide_eq_true isCommunity)

theorem mem_communityNodes (rebuilt : Rebuilding (label world graph) graph.withoutCommunities
      (detected world graph) after) :
    node ∈ after.communityNodes ↔ node ∈ after.nodes ∧
      node.name ∈ (detected world graph).map (label world graph) ∧
        Free graph.withoutCommunities node.name := by
  rw [ProjectGraph.communityNodes, List.mem_filter, decide_eq_true_iff]
  refine and_congr_right fun stored => ?_
  by_cases named : node.name ∈ (detected world graph).map (label world graph)
  · rw [(rebuilt.typed node stored named).1]
    exact (and_iff_right named).symm
  · have plain := (mem_withoutCommunities.mp (rebuilt.untouched node stored named)).2
    exact iff_of_false plain fun both => named both.1

theorem hasEdge_withoutCommunities {source target : Uuid} :
    graph.withoutCommunities.hasEdge source target memberOf = true ↔
      graph.hasEdge source target memberOf = true ∧
        source ∉ graph.communityNodes.map Node.id ∧
          target ∉ graph.communityNodes.map Node.id := by
  rw [hasEdge_iff, hasEdge_iff]
  constructor
  · rintro ⟨edge, stored, rfl, rfl, memberEdge⟩
    obtain ⟨inGraph, source, target⟩ := mem_deleteEntities_edges.mp stored
    rw [mem_listed_ids] at source target
    exact ⟨⟨edge, inGraph, rfl, rfl, memberEdge⟩, source, target⟩
  · rintro ⟨⟨edge, inGraph, rfl, rfl, memberEdge⟩, source, target⟩
    rw [← mem_listed_ids] at source target
    exact ⟨edge, mem_deleteEntities_edges.mpr ⟨inGraph, source, target⟩, rfl, rfl, memberEdge⟩

end Rebuilt

section OnePerCommunity

variable {world : World} {graph after : ProjectGraph}

theorem labels_cover (rebuilt : Rebuilding (label world graph) graph.withoutCommunities
      (detected world graph) after) :
    after.communityNodes.map Node.name ⊆ (detected world graph).map (label world graph) := by
  intro name listed
  obtain ⟨node, member, rfl⟩ := List.mem_map.mp listed
  exact ((mem_communityNodes rebuilt).mp member).2.1

theorem uniqueLabels (graph : ProjectGraph) : (graph.communityNodes.map Node.name).Nodup :=
  graph.uniqueNames.sublist (List.filter_sublist.map _)

theorem exists_left {α β : Type} {related : α → β → Prop} {first : List α} {second : List β}
    (pairs : List.Forall₂ related first second) {b : β} (member : b ∈ second) :
    ∃ a ∈ first, related a b := by
  induction pairs with
  | nil => exact absurd member List.not_mem_nil
  | cons here _ induction =>
      rcases List.mem_cons.mp member with rfl | later
      · exact ⟨_, List.mem_cons_self, here⟩
      · obtain ⟨a, listed, there⟩ := induction later
        exact ⟨a, List.mem_cons_of_mem _ listed, there⟩

theorem replaceable_of_onePerCommunity
    (rebuilt : Rebuilding (label world graph) graph.withoutCommunities
      (detected world graph) after)
    {nodes : List Node} (perm : nodes.Perm after.communityNodes)
    (linked : List.Forall₂ (fun community node => ∀ source,
      after.hasEdge source node.id memberOf = true ↔ source ∈ community)
        (detected world graph) nodes) :
    ((detected world graph).map (label world graph)).Nodup ∧
      ∀ community ∈ detected world graph, ∀ node ∈ graph.nodes, ¬ node.IsCommunity →
        node.name = label world graph community → Adoptable graph community node := by
  -- There are as many names of nodes as names of communities.
  have samePerm : (after.communityNodes.map Node.name).Perm
      ((detected world graph).map (label world graph)) := by
    refine (List.subperm_of_subset (uniqueLabels after)
      (labels_cover rebuilt)).perm_of_length_le ?_
    rw [List.length_map, List.length_map, linked.length_eq, perm.length_eq]
  refine ⟨samePerm.nodup_iff.mp (uniqueLabels after), ?_⟩
  intro community found node stored plain named
  obtain ⟨created, member, createdName⟩ := List.mem_map.mp
    (samePerm.mem_iff.mpr (List.mem_map_of_mem found))
  obtain ⟨inGraph, _, free⟩ := (mem_communityNodes rebuilt).mp member
  have there : node ∈ graph.withoutCommunities.nodes :=
    mem_withoutCommunities.mpr ⟨stored, plain⟩
  have sameName : node.name = created.name := named.trans createdName.symm
  refine ⟨free node there sameName, ?_⟩
  intro edge edgeStored target memberEdge
  by_contra outside
  rw [not_or] at outside
  have sameId := rebuilt.sameId created inGraph node there sameName
  have notListed : created.id ∉ graph.communityNodes.map Node.id := by
    rw [← sameId]
    exact fun listed => plain (isCommunity_of_id stored listed)
  have old : graph.withoutCommunities.hasEdge edge.source created.id memberOf = true :=
    hasEdge_withoutCommunities.mpr
      ⟨hasEdge_iff.mpr ⟨edge, edgeStored, rfl, target.trans sameId, memberEdge⟩, outside.2,
        notListed⟩
  -- The community of the node that was created is this one.
  obtain ⟨other, found', exactly⟩ := exists_left linked (perm.mem_iff.mpr member)
  obtain ⟨first, inside⟩ := (detected_members found).1
  have linkedFirst := (rebuilt.edges created inGraph first).mpr
    (.inr ⟨community, found, createdName.symm, inside⟩)
  have same := same_community found found' inside ((exactly first).mp linkedFirst)
  refine outside.1 ?_
  rw [same]
  exact (exactly edge.source).mp ((rebuilt.edges created inGraph edge.source).mpr (.inl old))

theorem labels_perm (rebuilt : Rebuilding (label world graph) graph.withoutCommunities
      (detected world graph) after)
    (different : ((detected world graph).map (label world graph)).Nodup)
    (adoptable : ∀ community ∈ detected world graph, ∀ node ∈ graph.nodes,
      ¬ node.IsCommunity → node.name = label world graph community →
        Adoptable graph community node) :
    ((detected world graph).map (label world graph)).Perm
      (after.communityNodes.map Node.name) := by
  refine (List.perm_ext_iff_of_nodup different (uniqueLabels after)).mpr fun name => ?_
  refine ⟨fun listed => ?_, fun listed => labels_cover rebuilt listed⟩
  obtain ⟨node, stored, rfl⟩ := List.mem_map.mp ((rebuilt.named name).mpr (.inr listed))
  refine List.mem_map_of_mem ((mem_communityNodes rebuilt).mpr ⟨stored, listed, ?_⟩)
  intro before there same
  obtain ⟨inGraph, plain⟩ := mem_withoutCommunities.mp there
  obtain ⟨community, found, named⟩ := List.mem_map.mp listed
  exact (adoptable community found before inGraph plain (same.trans named.symm)).1

theorem edges_of_adoptable (rebuilt : Rebuilding (label world graph) graph.withoutCommunities
      (detected world graph) after)
    (different : ((detected world graph).map (label world graph)).Nodup)
    {community : List Uuid} (found : community ∈ detected world graph)
    (adoptable : ∀ node ∈ graph.nodes, ¬ node.IsCommunity →
      node.name = label world graph community → Adoptable graph community node)
    {node : Node} (stored : node ∈ after.nodes) (named : label world graph community = node.name)
    (source : Uuid) :
    after.hasEdge source node.id memberOf = true ↔ source ∈ community := by
  rw [rebuilt.edges node stored source]
  constructor
  · rintro (old | ⟨other, found', named', inside⟩)
    · -- The entity that became the node has no members but these.
      obtain ⟨has, notListed, _⟩ := hasEdge_withoutCommunities.mp old
      obtain ⟨before, inGraph, plain, same, sameId⟩ :=
        rebuilt_old rebuilt stored (drawn_of_hasEdge has)
      obtain ⟨edge, edgeStored, rfl, target, memberEdge⟩ := hasEdge_iff.mp has
      exact ((adoptable before inGraph plain (same.trans named.symm)).2 edge edgeStored
        (target.trans sameId.symm) memberEdge).resolve_right notListed
    · rwa [List.inj_on_of_nodup_map different found' found (named'.trans named.symm)] at inside
  · intro inside
    exact .inr ⟨community, found, named, inside⟩

theorem onePerCommunity_of_replaceable
    (rebuilt : Rebuilding (label world graph) graph.withoutCommunities
      (detected world graph) after)
    (different : ((detected world graph).map (label world graph)).Nodup)
    (adoptable : ∀ community ∈ detected world graph, ∀ node ∈ graph.nodes,
      ¬ node.IsCommunity → node.name = label world graph community →
        Adoptable graph community node) :
    ∃ nodes, nodes.Perm after.communityNodes ∧
      List.Forall₂ (fun community node => ∀ source,
        after.hasEdge source node.id memberOf = true ↔ source ∈ community)
          (detected world graph) nodes := by
  -- The community nodes, in the order of their communities.
  have ordered : Relation.Comp (· = List.map Node.name ·) List.Perm
      ((detected world graph).map (label world graph)) after.communityNodes := by
    rw [List.eq_map_comp_perm]
    exact labels_perm rebuilt different adoptable
  obtain ⟨nodes, names, perm⟩ := ordered
  have paired : List.Forall₂ (fun community node => label world graph community = node.name)
      (detected world graph) nodes := by
    rw [← List.forall₂_eq_eq_eq] at names
    rwa [List.forall₂_map_left_iff, List.forall₂_map_right_iff] at names
  refine ⟨nodes, perm, List.forall₂_iff_zip.mpr ⟨paired.length_eq, ?_⟩⟩
  intro community node inZip
  have named := (List.forall₂_iff_zip.mp paired).2 inZip
  obtain ⟨found, listed⟩ := List.of_mem_zip inZip
  have stored := ((mem_communityNodes rebuilt).mp (perm.mem_iff.mp listed)).1
  exact edges_of_adoptable rebuilt different found (adoptable community found) stored named

theorem processProject_replaced_iff (world : World) (graph : ProjectGraph) :
    Replaced world graph (processProject world graph).1 ↔ Replaceable world graph := by
  rw [Replaceable]
  by_cases none : detected world graph = []
  · rw [if_pos none, processProject_none none]
    constructor
    · rintro ⟨⟨nodes, perm, linked⟩, _⟩
      rw [none] at linked
      cases linked
      exact perm.nil_eq.symm
    · intro empty
      refine ⟨⟨[], ?_, none ▸ .nil⟩, ?_⟩
      · rw [empty]
      · intro node listed
        rw [empty] at listed
        exact absurd listed List.not_mem_nil
  · obtain ⟨after, ran, rebuilt⟩ := processProject_some none
    rw [if_neg none, ran]
    constructor
    · rintro ⟨⟨nodes, perm, linked⟩, _⟩
      exact replaceable_of_onePerCommunity rebuilt perm linked
    · rintro ⟨different, adoptable⟩
      exact ⟨onePerCommunity_of_replaceable rebuilt different adoptable,
        noneSurvives_of_rebuilt rebuilt⟩

end OnePerCommunity

section Organisations

variable {worlds : Uuid → World} {ids : List Uuid} {progress : (Uuid → ProjectGraph) × Nat}
  {project : Uuid}

/-- A turn of the loop leaves the other projects as they are. -/
theorem processNext_graphs (worlds : Uuid → World) (progress : (Uuid → ProjectGraph) × Nat)
    (project : Uuid) :
    (processNext worlds progress project).1 = Function.update progress.1 project
      (processProject (worlds project) (progress.1 project)).1 := by
  unfold processNext
  split
  · rename_i ran
    rw [ran]
  · rename_i ran
    rw [ran]

theorem processNext_others (absent : project ∉ ids) :
    (ids.foldl (processNext worlds) progress).1 project = progress.1 project := by
  induction ids generalizing progress with
  | nil => rfl
  | cons first ids induction =>
      rw [List.mem_cons, not_or] at absent
      rw [List.foldl_cons, induction absent.2, processNext_graphs,
        Function.update_of_ne absent.1]

theorem processNext_listed (unique : ids.Nodup) (listed : project ∈ ids) :
    (ids.foldl (processNext worlds) progress).1 project =
      (processProject (worlds project) (progress.1 project)).1 := by
  induction ids generalizing progress with
  | nil => exact absurd listed List.not_mem_nil
  | cons first ids induction =>
      obtain ⟨notAgain, unique⟩ := List.nodup_cons.mp unique
      rw [List.foldl_cons]
      rcases List.mem_cons.mp listed with rfl | later
      · rw [processNext_others notAgain, processNext_graphs, Function.update_self]
      · have different : project ≠ first := fun same => notAgain (same ▸ later)
        rw [induction unique later, processNext_graphs, Function.update_of_ne different]

end Organisations

/-- After `_process_org` the community nodes of a project are those of its
communities exactly when they could be replaced. -/
theorem processOrg_replaced_iff (worlds : Uuid → World) (projects : OrgProjects)
    (graphs : Uuid → ProjectGraph) {project : Uuid} (listed : project ∈ projects.ids) :
    Replaced (worlds project) (graphs project)
        ((processOrg worlds projects graphs).1 project) ↔
      Replaceable (worlds project) (graphs project) := by
  have processed : (processOrg worlds projects graphs).1 project =
      (processProject (worlds project) (graphs project)).1 :=
    processNext_listed projects.unique listed
  rw [processed]
  exact processProject_replaced_iff (worlds project) (graphs project)

/-- Label propagation puts all entities into one community. -/
def oneCommunity : World where
  casing := Casing.ascii
  labelPropagation := fun net => [net.nodes.dedup]
  partition := fun net =>
    { nodup := by
        intro set listed
        rw [List.mem_singleton.mp listed]
        exact net.nodes.nodup_dedup
      disjoint := List.pairwise_singleton _ _
      cover := by simp }
  chat := fun _ => none
  newId := fun drawn => drawn.foldr max 0 + 1
  newId_fresh := by
    intro drawn member
    exact Nat.not_succ_le_self _ (List.le_max_of_le' 0 member le_rfl)
  now := fun _ => []

def person (id : Uuid) (name : String) : Node :=
  ⟨id, name.toList, "Person".toList, [], [], false⟩

/-- A community node of an earlier run. -/
def formerCommunity : Node :=
  ⟨9, "community: a, z".toList, communityType, [], [], false⟩

/-- Two people, and a community from the time when there were more. -/
def smallProject : ProjectGraph where
  nodes := [person 1 "a", person 2 "b", formerCommunity]
  edges := [⟨1, 9, memberOf, true⟩]
  drawn := [1, 2, 9]
  uniqueIds := by decide
  uniqueNames := by decide
  idsDrawn := by decide
  linked := by decide

/-- Four people, and a community from an earlier run. -/
def largeProject : ProjectGraph where
  nodes := [person 1 "a", person 2 "b", person 3 "c", person 4 "d", formerCommunity]
  edges := [⟨1, 9, memberOf, true⟩]
  drawn := [1, 2, 3, 4, 9]
  uniqueIds := by decide
  uniqueNames := by decide
  idsDrawn := by decide
  linked := by decide

def oneProject : OrgProjects := ⟨[7], List.nodup_singleton _⟩

theorem largeProject_replaced : Replaced oneCommunity largeProject
    ((processOrg (fun _ => oneCommunity) oneProject fun _ => largeProject).1 7) :=
  (processOrg_replaced_iff (fun _ => oneCommunity) oneProject (fun _ => largeProject)
    List.mem_cons_self).mpr (by unfold Replaceable Adoptable; decide)

/-- A project that has become small keeps its community node. -/
theorem smallProject_notReplaced : ¬ Replaced oneCommunity smallProject
    ((processOrg (fun _ => oneCommunity) oneProject fun _ => smallProject).1 7) := by
  intro replaced
  exact replaced.noneSurvives formerCommunity (by decide) (by decide)

end OpenZync.Workers.SummariseCommunity
