import Mathlib.Tactic.IntervalCases
import OpenZync.Graph.MergedEdges
import OpenZync.Library.Attempts

/-!
# The queries of a merge

`merge_entities` of the FalkorDB backend query by query.  Every query may be
refused, or be carried out without its answer coming back, and nothing is
undone when a later one fails.  Which query is the first to write can be read
off the graph, and the graph is changed exactly if that query takes effect.
-/

namespace OpenZync.Graph

open OpenZync.Library

/-- The query of an `ExternalServiceError`. -/
inductive MergeStep where
  /-- `Entity verification failed during merge: {exc}` -/
  | verification
  /-- `Failed to collect relationship types during merge: {exc}` -/
  | typeCollection
  /-- `Failed to rewire incoming '{rel_type}' edges during merge: {exc}` -/
  | incomingRewire (relType : EdgeType)
  /-- `Failed to rewire outgoing '{rel_type}' edges during merge: {exc}` -/
  | outgoingRewire (relType : EdgeType)
  /-- `Failed to soft-delete merged entities: {exc}` -/
  | softDelete
deriving DecidableEq

/-- Why a merge fails. -/
inductive MergeFailure where
  /-- `ExternalServiceError`: `FalkorDB not connected` -/
  | notConnected
  | notFound (error : NotFoundError)
  | queryFailed (step : MergeStep)
deriving DecidableEq

/-- The connection, and the fate of each query in turn. -/
structure BackendFate where
  connected : Bool
  query : Nat → Attempt.Fate

section

variable (backend : BackendFate) (canonicalId : Uuid) (mergedIds : List Uuid)

/-- `missing` -/
def missingIds (graph : EntityGraph) : List Uuid :=
  (canonicalId :: mergedIds).filter fun id => !(graph.nodes.map EntityNode.id).contains id

/-- The query that re-points the incoming edges of a type. -/
def incomingQuery (relType : EdgeType) (graph : EntityGraph) : EntityGraph :=
  { graph with
    edges := rewire (selectsIncoming canonicalId mergedIds relType) (movedIncoming canonicalId)
      graph.edges }

/-- The query that re-points the outgoing edges of a type. -/
def outgoingQuery (relType : EdgeType) (graph : EntityGraph) : EntityGraph :=
  { graph with
    edges := rewire (selectsOutgoing canonicalId mergedIds relType) (movedOutgoing canonicalId)
      graph.edges }

/-- The query that marks the merged entities. -/
def softDeleteQuery (graph : EntityGraph) : EntityGraph :=
  { graph with nodes := graph.nodes.map (softDelete canonicalId mergedIds) }

/-- The round of one type, with the number of its first query and that of the next
round. -/
def rewireQueries (number : Nat) (relType : EdgeType) :
    Attempt EntityGraph MergeFailure Nat := do
  Attempt.remote (backend.query number) (.queryFailed (.incomingRewire relType))
    (incomingQuery canonicalId mergedIds relType)
  Attempt.remote (backend.query (number + 1)) (.queryFailed (.outgoingRewire relType))
    (outgoingQuery canonicalId mergedIds relType)
  pure (number + 2)

/-- `merge_entities` with its queries. -/
def mergeQueries : Attempt EntityGraph MergeFailure MergeResult :=
  if backend.connected = false then Attempt.fail .notConnected
  else do
    Attempt.remote (backend.query 0) (.queryFailed .verification) id
    let missing ← Attempt.read (missingIds canonicalId mergedIds)
    if missing ≠ [] then Attempt.fail (.notFound ⟨missing⟩)
    else do
      Attempt.remote (backend.query 1) (.queryFailed .typeCollection) id
      let types ← Attempt.read fun graph => distinctTypes canonicalId mergedIds graph.edges
      let number ← Attempt.fold (rewireQueries backend canonicalId mergedIds) 2 types
      Attempt.remote (backend.query number) (.queryFailed .softDelete)
        (softDeleteQuery canonicalId mergedIds)
      let merged ← Attempt.read fun graph =>
        (graph.nodes.filter fun node => mergedIds.contains node.id).length
      pure { rewiredCount := 0, deletedCount := 0, mergedCount := merged }

/-- The number of the first query that finds something to write. -/
def firstWrite (graph : EntityGraph) : Option Nat :=
  match distinctTypes canonicalId mergedIds graph.edges with
  | [] =>
      if graph.nodes.any fun node => decide (node.id ∈ mergedIds) &&
          !(node.isMerged && decide (node.mergedInto = some canonicalId)) then some 2
      else none
  | relType :: _ =>
      if graph.edges.any (selectsIncoming canonicalId mergedIds relType) then some 2 else some 3

/-- The backend is connected, the entities are in the graph, and the first query to
write is reached and takes effect. -/
structure MergeWrites (graph : EntityGraph) : Prop where
  connected : backend.connected = true
  present : ∀ id ∈ canonicalId :: mergedIds, id ∈ graph.nodes.map EntityNode.id
  reached : ∃ number ∈ firstWrite canonicalId mergedIds graph,
    (∀ earlier < number, backend.query earlier = .answered) ∧
      backend.query number ≠ .refused

end

variable {backend : BackendFate} {canonicalId : Uuid} {mergedIds : List Uuid}
  {graph : EntityGraph} {relType : EdgeType}

@[simp] theorem softDelete_id (canonicalId : Uuid) (mergedIds : List Uuid) (node : EntityNode) :
    (softDelete canonicalId mergedIds node).id = node.id := by
  unfold softDelete
  split <;> rfl

section Answered

variable (answered : ∀ number, backend.query number = .answered)
include answered

theorem fold_rewireQueries (types : List EdgeType) (number : Nat) (graph : EntityGraph) :
    Attempt.fold (rewireQueries backend canonicalId mergedIds) number types graph =
      ({ graph with edges := types.foldl (rewireType canonicalId mergedIds) graph.edges },
        .ok (number + 2 * types.length)) := by
  induction types generalizing number graph with
  | nil => rfl
  | cons relType types induction =>
      have round : rewireQueries backend canonicalId mergedIds number relType graph =
          ({ graph with edges := rewireType canonicalId mergedIds graph.edges relType },
            .ok (number + 2)) := by
        unfold rewireQueries
        rw [Attempt.bind_of_ok (Attempt.remote_answered (answered number) ..),
          Attempt.bind_of_ok (Attempt.remote_answered (answered (number + 1)) ..)]
        rfl
      rw [Attempt.fold, Attempt.bind_of_ok round, induction, List.length_cons, Nat.mul_succ,
        Nat.add_assoc, Nat.add_comm 2]
      rfl

theorem mergeQueries_answered (connected : backend.connected = true) (graph : EntityGraph) :
    mergeQueries backend canonicalId mergedIds graph =
      match mergeEntities graph canonicalId mergedIds with
      | .ok (after, result) => (after, .ok result)
      | .error error => (graph, .error (.notFound error)) := by
  have counted : ((graph.nodes.map (softDelete canonicalId mergedIds)).filter fun node =>
      mergedIds.contains node.id).length =
        (graph.nodes.filter fun node => mergedIds.contains node.id).length := by
    rw [List.filter_map, List.length_map]
    congr 2
    funext node
    exact congrArg mergedIds.contains (softDelete_id canonicalId mergedIds node)
  unfold mergeQueries mergeEntities
  rw [if_neg (by simp [connected]), Attempt.bind_of_ok (Attempt.remote_answered (answered 0) ..),
    id_eq, Attempt.read_bind]
  dsimp only
  by_cases present : missingIds canonicalId mergedIds graph = []
  · rw [if_neg (not_not.mpr present), Attempt.bind_of_ok (Attempt.remote_answered (answered 1) ..),
      id_eq, Attempt.read_bind, Attempt.bind_of_ok (fold_rewireQueries answered _ 2 _),
      Attempt.bind_of_ok (Attempt.remote_answered (answered _) ..), Attempt.read_bind]
    unfold missingIds at present
    rw [present]
    unfold softDeleteQuery
    rw [counted]
    rfl
  · rw [if_pos present]
    unfold missingIds at present ⊢
    rw [if_neg (by rwa [List.isEmpty_iff])]
    rfl

end Answered

/-- A query that selects nothing writes nothing. -/
theorem rewire_of_none {selects : EntityEdge → Bool} {moved : EntityEdge → EntityEdge}
    {edges : List EntityEdge} (none : edges.any selects = false) :
    rewire selects moved edges = edges := by
  have unselected : ∀ edge ∈ edges, ¬ selects edge = true := List.any_eq_false.mp none
  have kept : edges.filter (fun edge => !selects edge) = edges := by
    apply List.filter_eq_self.mpr
    intro edge member
    rw [Bool.eq_false_of_not_eq_true (unselected edge member)]
    rfl
  rw [rewire, List.filter_eq_nil_iff.mpr unselected, kept]
  exact List.append_nil edges

/-- An active edge between other entities than the canonical one is gone. -/
structure EdgeGone (canonicalId : Uuid) (key : EntityKey) (graph after : EntityGraph) : Prop where
  source : key.1 ≠ canonicalId
  target : key.2.1 ≠ canonicalId
  before : Active graph.edges key
  gone : ¬ Active after.edges key

section Gone

variable {key : EntityKey} {after : EntityGraph}

theorem EdgeGone.changed (gone : EdgeGone canonicalId key graph after) : after ≠ graph := by
  rintro rfl
  exact gone.gone gone.before

theorem EdgeGone.incoming (gone : EdgeGone canonicalId key graph after) (relType : EdgeType) :
    EdgeGone canonicalId key graph (incomingQuery canonicalId mergedIds relType after) := by
  refine ⟨gone.source, gone.target, gone.before, ?_⟩
  intro active
  rcases active_incoming.mp active with ⟨earlier, _⟩ | ⟨_, landed, _⟩
  · exact gone.gone earlier
  · exact gone.target landed

theorem EdgeGone.outgoing (gone : EdgeGone canonicalId key graph after) (relType : EdgeType) :
    EdgeGone canonicalId key graph (outgoingQuery canonicalId mergedIds relType after) := by
  refine ⟨gone.source, gone.target, gone.before, ?_⟩
  intro active
  rcases active_outgoing.mp active with ⟨earlier, _⟩ | ⟨_, landed, _⟩
  · exact gone.gone earlier
  · exact gone.source landed

theorem EdgeGone.softDelete (gone : EdgeGone canonicalId key graph after) :
    EdgeGone canonicalId key graph (softDeleteQuery canonicalId mergedIds after) :=
  ⟨gone.source, gone.target, gone.before, gone.gone⟩

theorem incomingQuery_gone (outside : canonicalId ∉ mergedIds)
    (selected : graph.edges.any (selectsIncoming canonicalId mergedIds relType) = true) :
    ∃ key, EdgeGone canonicalId key graph (incomingQuery canonicalId mergedIds relType graph) := by
  obtain ⟨edge, member, chosen⟩ := List.any_eq_true.mp selected
  simp only [selectsIncoming, Bool.and_eq_true, List.contains_iff_mem, beq_iff_eq,
    bne_iff_ne] at chosen
  obtain ⟨⟨⟨merged, same⟩, different⟩, active⟩ := chosen
  have apart : edge.target ≠ canonicalId := fun equal => outside (equal ▸ merged)
  refine ⟨edge.key, different, apart, ⟨edge, member, rfl, active⟩, ?_⟩
  intro still
  rcases active_incoming.mp still with ⟨_, kept⟩ | ⟨_, landed, _⟩
  · exact kept ⟨merged, same, different⟩
  · exact apart landed

theorem outgoingQuery_gone (outside : canonicalId ∉ mergedIds)
    (selected : graph.edges.any (selectsOutgoing canonicalId mergedIds relType) = true) :
    ∃ key, EdgeGone canonicalId key graph (outgoingQuery canonicalId mergedIds relType graph) := by
  obtain ⟨edge, member, chosen⟩ := List.any_eq_true.mp selected
  simp only [selectsOutgoing, Bool.and_eq_true, List.contains_iff_mem, beq_iff_eq,
    bne_iff_ne] at chosen
  obtain ⟨⟨⟨merged, same⟩, different⟩, active⟩ := chosen
  have apart : edge.source ≠ canonicalId := fun equal => outside (equal ▸ merged)
  refine ⟨edge.key, apart, different, ⟨edge, member, rfl, active⟩, ?_⟩
  intro still
  rcases active_outgoing.mp still with ⟨_, kept⟩ | ⟨_, landed, _⟩
  · exact kept ⟨merged, same, different⟩
  · exact apart landed

end Gone

section Writes

theorem missingIds_eq_nil : missingIds canonicalId mergedIds graph = [] ↔
    ∀ id ∈ canonicalId :: mergedIds, id ∈ graph.nodes.map EntityNode.id := by
  rw [missingIds, List.filter_eq_nil_iff]
  apply forall₂_congr
  intro id _
  rw [Bool.not_eq_true, Bool.not_eq_false', List.contains_iff_mem]

theorem firstWrite_two_le {number : Nat}
    (writes : number ∈ firstWrite canonicalId mergedIds graph) : 2 ≤ number := by
  unfold firstWrite at writes
  split at writes
  · split at writes <;> cases writes
    exact le_refl 2
  · split at writes <;> cases writes
    · exact le_refl 2
    · exact Nat.le_succ 2

theorem MergeWrites.answered {number : Nat}
    (writes : MergeWrites backend canonicalId mergedIds graph) (early : number < 2) :
    backend.query number = .answered := by
  obtain ⟨first, found, earlier, _⟩ := writes.reached
  exact earlier number (lt_of_lt_of_le early (firstWrite_two_le found))

/-- The graph is changed exactly if the first query to write takes effect. -/
def ChangedAsWritten (backend : BackendFate) (canonicalId : Uuid) (mergedIds : List Uuid)
    (graph after : EntityGraph) : Prop :=
  after ≠ graph ↔ MergeWrites backend canonicalId mergedIds graph

theorem ChangedAsWritten.unchanged
    (unwritten : ¬ MergeWrites backend canonicalId mergedIds graph) :
    ChangedAsWritten backend canonicalId mergedIds graph graph :=
  iff_of_false (not_not.mpr rfl) unwritten

theorem softDeleteQuery_changed :
    softDeleteQuery canonicalId mergedIds graph ≠ graph ↔
      (graph.nodes.any fun node => decide (node.id ∈ mergedIds) &&
        !(node.isMerged && decide (node.mergedInto = some canonicalId))) = true := by
  have fixed : ∀ node : EntityNode, softDelete canonicalId mergedIds node = node ↔
      (decide (node.id ∈ mergedIds) &&
        !(node.isMerged && decide (node.mergedInto = some canonicalId))) = false := by
    intro node
    unfold softDelete
    by_cases merged : node.id ∈ mergedIds
    · rw [if_pos (List.contains_iff_mem.mpr merged), decide_eq_true merged, Bool.true_and,
        Bool.not_eq_false', Bool.and_eq_true, decide_eq_true_eq]
      constructor
      · intro same
        exact ⟨(congrArg EntityNode.isMerged same).symm, (congrArg EntityNode.mergedInto same).symm⟩
      · rintro ⟨marked, into⟩
        rw [← marked, ← into]
    · rw [if_neg (mt List.contains_iff_mem.mp merged), decide_eq_false merged]
      exact iff_of_true rfl rfl
  have nodes : softDeleteQuery canonicalId mergedIds graph = graph ↔
      ∀ node ∈ graph.nodes, softDelete canonicalId mergedIds node = node := by
    rw [← List.map_inj_left (g := fun node => node), List.map_id']
    constructor
    · exact congrArg EntityGraph.nodes
    · intro same
      unfold softDeleteQuery
      rw [same]
  rw [Ne, nodes, not_iff_comm, Bool.not_eq_true, List.any_eq_false]
  apply forall₂_congr
  intro node _
  rw [fixed, Bool.not_eq_true]

/-- The entities are verified and the types collected. -/
structure Entered (backend : BackendFate) (canonicalId : Uuid) (mergedIds : List Uuid)
    (graph : EntityGraph) : Prop where
  connected : backend.connected = true
  present : ∀ id ∈ canonicalId :: mergedIds, id ∈ graph.nodes.map EntityNode.id
  verified : backend.query 0 = .answered
  collected : backend.query 1 = .answered

theorem Entered.writes_iff_two (entered : Entered backend canonicalId mergedIds graph)
    (first : firstWrite canonicalId mergedIds graph = some 2) :
    MergeWrites backend canonicalId mergedIds graph ↔ backend.query 2 ≠ .refused := by
  constructor
  · rintro ⟨_, _, number, found, _, taken⟩
    obtain rfl := Option.some.inj (first.symm.trans found)
    exact taken
  · intro taken
    refine ⟨entered.connected, entered.present, 2, first, ?_, taken⟩
    intro earlier less
    interval_cases earlier
    · exact entered.verified
    · exact entered.collected

theorem Entered.writes_iff_three (entered : Entered backend canonicalId mergedIds graph)
    (first : firstWrite canonicalId mergedIds graph = some 3) :
    MergeWrites backend canonicalId mergedIds graph ↔
      backend.query 2 = .answered ∧ backend.query 3 ≠ .refused := by
  constructor
  · rintro ⟨_, _, number, found, earlier, taken⟩
    obtain rfl := Option.some.inj (first.symm.trans found)
    exact ⟨earlier 2 (Nat.lt_succ_self 2), taken⟩
  · rintro ⟨incoming, taken⟩
    refine ⟨entered.connected, entered.present, 3, first, ?_, taken⟩
    intro earlier less
    interval_cases earlier
    · exact entered.verified
    · exact entered.collected
    · exact incoming

theorem Entered.writes_iff_softDelete (entered : Entered backend canonicalId mergedIds graph)
    (collected : distinctTypes canonicalId mergedIds graph.edges = []) :
    MergeWrites backend canonicalId mergedIds graph ↔
      softDeleteQuery canonicalId mergedIds graph ≠ graph ∧ backend.query 2 ≠ .refused := by
  rw [softDeleteQuery_changed]
  by_cases marks : (graph.nodes.any fun node => decide (node.id ∈ mergedIds) &&
      !(node.isMerged && decide (node.mergedInto = some canonicalId))) = true
  · have first : firstWrite canonicalId mergedIds graph = some 2 := by
      rw [firstWrite, collected]
      exact if_pos marks
    rw [entered.writes_iff_two first, and_iff_right marks]
  · have first : firstWrite canonicalId mergedIds graph = none := by
      rw [firstWrite, collected]
      exact if_neg marks
    refine iff_of_false ?_ fun both => marks both.1
    rintro ⟨_, _, number, found, _⟩
    rw [first] at found
    cases found

theorem rewireQueries_gone {key : EntityKey} (number : Nat) (relType : EdgeType) :
    Attempt.Meets (EdgeGone canonicalId key graph)
      (rewireQueries backend canonicalId mergedIds number relType)
      (fun _ => EdgeGone canonicalId key graph) (fun _ => EdgeGone canonicalId key graph) := by
  apply Attempt.meets_remote_bind (EdgeGone canonicalId key graph)
  · exact fun _ _ gone => gone.incoming relType
  · exact fun _ _ gone => gone
  · exact fun _ _ gone => gone.incoming relType
  apply Attempt.meets_remote_bind (EdgeGone canonicalId key graph)
  · exact fun _ _ gone => gone.outgoing relType
  · exact fun _ _ gone => gone
  · exact fun _ _ gone => gone.outgoing relType
  exact Attempt.meets_pure (number + 2) fun _ gone => gone

theorem selectsOutgoing_of_collected {types : List EdgeType}
    (collected : distinctTypes canonicalId mergedIds graph.edges = relType :: types)
    (incoming : ¬ graph.edges.any (selectsIncoming canonicalId mergedIds relType) = true) :
    graph.edges.any (selectsOutgoing canonicalId mergedIds relType) = true := by
  have member : relType ∈ distinctTypes canonicalId mergedIds graph.edges := by
    rw [collected]
    exact List.mem_cons_self
  obtain ⟨source, target, ⟨edge, stored, same, active⟩, touches⟩ := mem_distinctTypes.mp member
  cases same
  rcases touches with outOf | into
  · apply List.any_eq_true.mpr
    exact ⟨edge, stored, by simp [selectsOutgoing, outOf, active]⟩
  · exfalso
    apply incoming
    apply List.any_eq_true.mpr
    exact ⟨edge, stored, by simp [selectsIncoming, into, active]⟩

theorem firstType_meets (outside : canonicalId ∉ mergedIds)
    (entered : Entered backend canonicalId mergedIds graph) {types : List EdgeType}
    (collected : distinctTypes canonicalId mergedIds graph.edges = relType :: types) :
    Attempt.Meets (fun after => after = graph)
      (rewireQueries backend canonicalId mergedIds 2 relType)
      (fun _ after => MergeWrites backend canonicalId mergedIds graph ∧
        ∃ key, EdgeGone canonicalId key graph after)
      (fun _ => ChangedAsWritten backend canonicalId mergedIds graph) := by
  by_cases incoming : graph.edges.any (selectsIncoming canonicalId mergedIds relType) = true
  · have first : firstWrite canonicalId mergedIds graph = some 2 := by
      rw [firstWrite, collected]
      exact if_pos incoming
    obtain ⟨key, gone⟩ := incomingQuery_gone outside incoming
    have writes := entered.writes_iff_two first
    apply Attempt.meets_remote_bind fun after =>
      MergeWrites backend canonicalId mergedIds graph ∧ EdgeGone canonicalId key graph after
    · rintro answered _ rfl
      exact ⟨writes.mpr (by simp [answered]), gone⟩
    · rintro refused _ rfl
      exact .unchanged fun written => writes.mp written refused
    · rintro lost _ rfl
      exact iff_of_true gone.changed (writes.mpr (by simp [lost]))
    apply Attempt.meets_remote_bind fun after =>
      MergeWrites backend canonicalId mergedIds graph ∧ EdgeGone canonicalId key graph after
    · rintro _ after ⟨written, gone⟩
      exact ⟨written, gone.outgoing relType⟩
    · rintro _ after ⟨written, gone⟩
      exact iff_of_true gone.changed written
    · rintro _ after ⟨written, gone⟩
      exact iff_of_true (gone.outgoing relType).changed written
    exact Attempt.meets_pure _ fun _ done => ⟨done.1, key, done.2⟩
  · have first : firstWrite canonicalId mergedIds graph = some 3 := by
      rw [firstWrite, collected]
      exact if_neg incoming
    obtain ⟨key, gone⟩ :=
      outgoingQuery_gone outside (selectsOutgoing_of_collected collected incoming)
    have writes := entered.writes_iff_three first
    have still : incomingQuery canonicalId mergedIds relType graph = graph := by
      unfold incomingQuery
      rw [rewire_of_none (Bool.eq_false_of_not_eq_true incoming)]
    apply Attempt.meets_remote_bind fun after =>
      after = graph ∧ backend.query 2 = .answered
    · rintro answered _ rfl
      exact ⟨still, answered⟩
    · rintro refused _ rfl
      have unanswered : backend.query 2 ≠ .answered := by simp [refused]
      exact .unchanged fun written => unanswered (writes.mp written).1
    · rintro lost _ rfl
      rw [still]
      have unanswered : backend.query 2 ≠ .answered := by simp [lost]
      exact .unchanged fun written => unanswered (writes.mp written).1
    apply Attempt.meets_remote_bind fun after =>
      MergeWrites backend canonicalId mergedIds graph ∧ EdgeGone canonicalId key graph after
    · rintro answered _ ⟨rfl, before⟩
      exact ⟨writes.mpr ⟨before, by simp [answered]⟩, gone⟩
    · rintro refused _ ⟨rfl, _⟩
      exact .unchanged fun written => (writes.mp written).2 refused
    · rintro lost _ ⟨rfl, before⟩
      exact iff_of_true gone.changed (writes.mpr ⟨before, by simp [lost]⟩)
    exact Attempt.meets_pure _ fun _ done => ⟨done.1, key, done.2⟩

theorem types_meets (outside : canonicalId ∉ mergedIds)
    (entered : Entered backend canonicalId mergedIds graph) {types : List EdgeType}
    (collected : distinctTypes canonicalId mergedIds graph.edges = relType :: types) :
    Attempt.Meets (fun after => after = graph)
      (Attempt.fold (rewireQueries backend canonicalId mergedIds) 2 (relType :: types))
      (fun _ after => MergeWrites backend canonicalId mergedIds graph ∧
        ∃ key, EdgeGone canonicalId key graph after)
      (fun _ => ChangedAsWritten backend canonicalId mergedIds graph) := by
  have others : ∀ key number, Attempt.Meets (EdgeGone canonicalId key graph)
      (Attempt.fold (rewireQueries backend canonicalId mergedIds) number types)
      (fun _ => EdgeGone canonicalId key graph) (fun _ => EdgeGone canonicalId key graph) := by
    intro key number
    apply Attempt.Meets.fold fun _ _ => EdgeGone canonicalId key graph
    intro _ relType _ _ number
    exact rewireQueries_gone number relType
  apply (firstType_meets outside entered collected).bind
  rintro number after ⟨written, key, gone⟩
  exact (others key number).weaken (fun _ gone => gone) (fun _ _ gone => ⟨written, key, gone⟩)
    (fun _ _ gone => iff_of_true gone.changed written) after gone

theorem softDelete_meets (entered : Entered backend canonicalId mergedIds graph)
    (collected : distinctTypes canonicalId mergedIds graph.edges = []) :
    Attempt.Meets (fun after => after = graph)
      (Attempt.remote (backend.query 2) (MergeFailure.queryFailed .softDelete)
        (softDeleteQuery canonicalId mergedIds))
      (fun _ => ChangedAsWritten backend canonicalId mergedIds graph)
      (fun _ => ChangedAsWritten backend canonicalId mergedIds graph) := by
  have writes := entered.writes_iff_softDelete collected
  apply Attempt.meets_remote
  · rintro answered _ rfl
    exact (and_iff_left (by simp [answered])).symm.trans writes.symm
  · rintro refused _ rfl
    exact .unchanged fun written => (writes.mp written).2 refused
  · rintro lost _ rfl
    exact (and_iff_left (by simp [lost])).symm.trans writes.symm

theorem mergeQueries_meets (outside : canonicalId ∉ mergedIds) :
    Attempt.Meets (fun after => after = graph)
      (mergeQueries backend canonicalId mergedIds)
      (fun _ => ChangedAsWritten backend canonicalId mergedIds graph)
      (fun _ => ChangedAsWritten backend canonicalId mergedIds graph) := by
  apply Attempt.meets_ite
  · intro unconnected
    apply Attempt.meets_fail
    rintro _ rfl
    exact .unchanged fun written => by simp [written.connected] at unconnected
  intro connected
  apply Attempt.meets_remote_bind fun after => after = graph ∧ backend.query 0 = .answered
  · rintro answered _ rfl
    exact ⟨rfl, answered⟩
  · rintro refused _ rfl
    exact .unchanged fun written => by simp [written.answered Nat.zero_lt_two] at refused
  · rintro lost _ rfl
    exact .unchanged fun written => by simp [written.answered Nat.zero_lt_two] at lost
  apply Attempt.meets_read
  intro missing
  apply Attempt.meets_ite
  · intro absent
    apply Attempt.meets_fail
    rintro _ ⟨⟨rfl, _⟩, rfl⟩
    exact .unchanged fun written => absent (missingIds_eq_nil.mpr written.present)
  intro present
  apply Attempt.meets_remote_bind fun after =>
    after = graph ∧ Entered backend canonicalId mergedIds graph
  · rintro answered _ ⟨⟨rfl, verified⟩, rfl⟩
    exact ⟨rfl, by simpa using connected, missingIds_eq_nil.mp (not_not.mp present), verified,
      answered⟩
  · rintro refused _ ⟨⟨rfl, _⟩, _⟩
    exact .unchanged fun written => by simp [written.answered Nat.one_lt_two] at refused
  · rintro lost _ ⟨⟨rfl, _⟩, _⟩
    exact .unchanged fun written => by simp [written.answered Nat.one_lt_two] at lost
  apply Attempt.meets_read
  intro types
  rintro after ⟨⟨rfl, entered⟩, collected⟩
  cases types with
  | nil =>
      refine Attempt.Meets.bind (softDelete_meets entered collected) ?_ after rfl
      intro _
      apply Attempt.meets_read
      intro merged
      exact Attempt.meets_pure _ fun _ done => done.1
  | cons relType types =>
      refine Attempt.Meets.bind (types_meets outside entered collected) ?_ after rfl
      intro number
      apply Attempt.meets_remote_bind fun state =>
        ChangedAsWritten backend canonicalId mergedIds after state
      · rintro _ state ⟨written, key, gone⟩
        exact iff_of_true gone.softDelete.changed written
      · rintro _ state ⟨written, key, gone⟩
        exact iff_of_true gone.changed written
      · rintro _ state ⟨written, key, gone⟩
        exact iff_of_true gone.softDelete.changed written
      apply Attempt.meets_read
      intro merged
      exact Attempt.meets_pure _ fun _ done => done.1

end Writes

end OpenZync.Graph
