import OpenZync.Workers.RelatedRows

/-!
# Edges of active facts

`STALE_EDGES_SQL` selects the active edges that no active fact asserts by the
entity ids of its row.  The edge upserted for a fact takes its ends from the
entity search, the row its ids from the known entities: the edges of a response
are sustained when the two name the same nodes, and only then.
-/

namespace OpenZync.Workers.ExtractFacts

open OpenZync.Facts OpenZync.Library

/-- A row of `graph_relationships` as far as the reconciler reads it. -/
structure GraphRelationship where
  id : Uuid
  organizationId : Uuid
  projectId : Uuid
  sourceId : Uuid
  targetId : Uuid
  relationshipType : Text
  invalidAt : Option Time
  updatedAt : Time
  deriving DecidableEq

/-- The row is neither retracted nor ended. -/
def Unended (now : Time) (fact : Fact) : Prop :=
  fact.invalidAt = none ∧ ∀ stop ∈ fact.validTo, now < stop

instance (now : Time) (fact : Fact) : Decidable (Unended now fact) :=
  inferInstanceAs (Decidable (_ ∧ _))

/-- The subquery of `STALE_EDGES_SQL` returns the fact for the edge. -/
def Sustains (now : Time) (fact : Fact) (edge : GraphRelationship) : Prop :=
  Unended now fact ∧ fact.organizationId = edge.organizationId ∧ fact.projectId = edge.projectId ∧
    fact.subjectEntityId = some edge.sourceId ∧ fact.predicate = some edge.relationshipType ∧
    fact.objectEntityId = some edge.targetId

instance (now : Time) (fact : Fact) (edge : GraphRelationship) :
    Decidable (Sustains now fact edge) :=
  inferInstanceAs (Decidable (_ ∧ _))

/-- `STALE_EDGES_SQL`. -/
def staleEdges (limit : Nat) (now : Time) (facts : List Fact) (edges : List GraphRelationship) :
    List GraphRelationship :=
  ((edges.filter fun edge =>
    decide (edge.invalidAt = none ∧ ∀ fact ∈ facts, ¬ Sustains now fact edge)).insertionSort
      fun left right => left.updatedAt ≤ right.updatedAt).take limit

theorem not_sustained_of_stale {limit : Nat} {now : Time} {facts : List Fact}
    {edges : List GraphRelationship} {edge : GraphRelationship}
    (stale : edge ∈ staleEdges limit now facts edges) {fact : Fact} (stored : fact ∈ facts) :
    ¬ Sustains now fact edge := by
  have selected := (List.mem_insertionSort _).mp (List.mem_of_mem_take stale)
  have condition := of_decide_eq_true (List.mem_filter.mp selected).2
  exact condition.2 fact stored

theorem stale_single {now : Time} {facts : List Fact} {edge : GraphRelationship}
    (active : edge.invalidAt = none) (alone : ∀ fact ∈ facts, ¬ Sustains now fact edge) :
    edge ∈ staleEdges 1 now facts [edge] := by
  have selected : ([edge].filter fun edge =>
      decide (edge.invalidAt = none ∧ ∀ fact ∈ facts, ¬ Sustains now fact edge)) = [edge] := by
    simp [active]
    exact alone
  rw [staleEdges, selected]
  simp

/-- As long as the row is there and not ended, the edge of the key is not
selected, at whatever time and with whatever other facts and edges. -/
def EdgeSustained (request : FactsRequest) (row : Fact) (key : EdgeKey) : Prop :=
  ∀ (limit : Nat) (now : Time) (facts : List Fact) (edges : List GraphRelationship)
    (edge : GraphRelationship), row ∈ facts → Unended now row →
    edge.organizationId = request.orgId → edge.projectId = request.projectId →
    (⟨edge.sourceId, edge.targetId, edge.relationshipType⟩ : EdgeKey) = key →
      edge ∉ staleEdges limit now facts edges

/-- The row asserts the edge of the key by its ids. -/
def AssertsKey (row : Fact) (key : EdgeKey) : Prop :=
  row.subjectEntityId = some key.sourceId ∧ row.predicate = some key.relationshipType ∧
    row.objectEntityId = some key.targetId

instance (row : Fact) (key : EdgeKey) : Decidable (AssertsKey row key) :=
  inferInstanceAs (Decidable (_ ∧ _ ∧ _))

theorem exists_unended {row : Fact} (standing : row.invalidAt = none) :
    ∃ now, Unended now row := by
  cases ends : row.validTo with
  | none => exact ⟨0, standing, by simp [ends]⟩
  | some stop =>
      refine ⟨stop - 1, standing, ?_⟩
      intro last isLast
      rw [ends] at isLast
      cases isLast
      exact Int.sub_one_lt_of_le le_rfl

theorem edgeSustained_iff {casing : Casing} {request : FactsRequest} {entry : Entry} {row : Fact}
    (rowOf : RowOf (request.ingestCall casing).ctx entry row) (key : EdgeKey) :
    EdgeSustained request row key ↔ AssertsKey row key := by
  have organization : row.organizationId = request.orgId := by
    rw [rowOf]
    rfl
  have project : row.projectId = request.projectId := by
    rw [rowOf]
    rfl
  have standing : row.invalidAt = none := by
    rw [rowOf]
    rfl
  constructor
  · intro sustained
    by_contra other
    obtain ⟨now, unended⟩ := exists_unended standing
    let edge : GraphRelationship :=
      { id := 0
        organizationId := request.orgId
        projectId := request.projectId
        sourceId := key.sourceId
        targetId := key.targetId
        relationshipType := key.relationshipType
        invalidAt := none
        updatedAt := 0 }
    apply sustained 1 now [row] [edge] edge List.mem_cons_self unended rfl rfl rfl
    apply stale_single rfl
    intro fact member sustains
    rw [List.mem_singleton.mp member] at sustains
    exact other sustains.2.2.2
  · rintro ⟨subject, predicate, object⟩ limit now facts edges edge present unended org proj rfl
      stale
    apply not_sustained_of_stale stale present
    exact ⟨unended, organization.trans org.symm, project.trans proj.symm, subject, predicate,
      object⟩

/-- When the entity search finds nodes for the fact that the row of an entry is
related to and the backend takes the relationship, they are the entities the entry
is linked to, and the predicates are the same. -/
def FactsRequest.LinkedAlike (casing : Casing) (request : FactsRequest) (entry : Entry) : Prop :=
  ∀ input ∈ request.lastHanded casing entry.content,
    ∀ repository ∈ request.entityRepository,
      ∀ source ∈ repository.getEntityByName casing input.subject,
        ∀ target ∈ repository.getEntityByName casing input.object,
          repository.createRelationship ⟨source.id, target.id, input.predicate⟩ = true →
            entry.subjectEntityId = some source.id ∧ entry.predicate = input.predicate ∧
              entry.objectEntityId = some target.id

instance (casing : Casing) (request : FactsRequest) :
    DecidablePred (request.LinkedAlike casing) :=
  fun entry => inferInstanceAs (Decidable (∀ input ∈ request.lastHanded casing entry.content, _))

section

variable {casing : Casing} {request : FactsRequest} {store : FactStore}
variable {result : ProcessedFacts}

/-- The upsert needs both nodes, whatever ids the fact had before. -/
theorem relationshipFor_eq_some {input : FactDict} {key : EdgeKey} :
    request.relationshipFor casing input = some key ↔
      ∃ repository ∈ request.entityRepository,
        ∃ source ∈ repository.getEntityByName casing input.subject,
          ∃ target ∈ repository.getEntityByName casing input.object,
            repository.createRelationship ⟨source.id, target.id, input.predicate⟩ = true ∧
              key = ⟨source.id, target.id, input.predicate⟩ := by
  unfold FactsRequest.relationshipFor EntityRepository.upsertRelationship
  cases request.entityRepository with
  | none => simp
  | some repository =>
      cases subject : repository.getEntityByName casing input.subject with
      | none => simp [subject]
      | some source =>
          cases object : repository.getEntityByName casing input.object with
          | none => simp [subject, object]
          | some target => simp [subject, object, @eq_comm EdgeKey]

theorem mem_relationships
    (processed : processFactsOutput casing store request = .ok result) {row : Fact}
    {key : EdgeKey} :
    (row, key) ∈ result.relationships ↔
      row ∈ result.newFacts ∧ ∃ input ∈ request.lastHanded casing row.content,
        request.relationshipFor casing input = some key := by
  obtain ⟨_, _, _, _, relationships⟩ := processed_ok processed
  simp only [relationships, List.mem_filterMap, Option.map_eq_some_iff, Option.bind_eq_some_iff,
    Prod.mk.injEq, inputOf_eq, Option.mem_def]
  constructor
  · rintro ⟨created, member, edge, upserted, rfl, rfl⟩
    exact ⟨member, upserted⟩
  · rintro ⟨member, upserted⟩
    exact ⟨row, member, key, upserted, rfl, rfl⟩

theorem assertsKey_iff {ctx : BatchCtx} {entry : Entry} {row : Fact} (rowOf : RowOf ctx entry row)
    (key : EdgeKey) :
    AssertsKey row key ↔
      entry.subjectEntityId = some key.sourceId ∧ entry.predicate = key.relationshipType ∧
        entry.objectEntityId = some key.targetId := by
  rw [rowOf]
  simp [AssertsKey, rowFor, Entry.toFact]

theorem row_sustained_iff
    (processed : processFactsOutput casing store request = .ok result) {entry : Entry} {row : Fact}
    (created : row ∈ result.newFacts) (rowOf : RowOf (request.ingestCall casing).ctx entry row) :
    (∀ key, (row, key) ∈ result.relationships → EdgeSustained request row key) ↔
      request.LinkedAlike casing entry := by
  constructor
  · intro sustained input related repository given source isSource target isTarget taken
    rw [← content_of_rowOf rowOf] at related
    have upserted := (mem_relationships processed).mpr ⟨created, input, related,
      relationshipFor_eq_some.mpr ⟨repository, given, source, isSource, target, isTarget, taken,
        rfl⟩⟩
    exact (assertsKey_iff rowOf _).mp ((edgeSustained_iff rowOf _).mp (sustained _ upserted))
  · intro alike key upserted
    obtain ⟨_, input, related, relationship⟩ := (mem_relationships processed).mp upserted
    obtain ⟨repository, given, source, isSource, target, isTarget, taken, rfl⟩ :=
      relationshipFor_eq_some.mp relationship
    rw [content_of_rowOf rowOf] at related
    rw [edgeSustained_iff rowOf, assertsKey_iff rowOf]
    exact alike input related repository given source isSource target isTarget taken

/-- The edges of a response are sustained when every entry that is inserted is
linked like the fact its row is related to, and only then. -/
theorem edges_sustained_iff
    (processed : processFactsOutput casing store request = .ok result) :
    (∀ row key, (row, key) ∈ result.relationships → EdgeSustained request row key) ↔
      ∀ entry ∈ (request.ingestCall casing).inserted casing store,
        request.LinkedAlike casing entry := by
  have rows := created_rows processed
  constructor
  · intro sustained entry inserted
    obtain ⟨row, created, rowOf⟩ := exists_related rows inserted
    exact (row_sustained_iff processed created rowOf).mp fun key => sustained row key
  · intro alike row key upserted
    obtain ⟨created, _⟩ := (mem_relationships processed).mp upserted
    obtain ⟨entry, inserted, rowOf⟩ := exists_related_of_right rows created
    exact (row_sustained_iff processed created rowOf).mpr (alike entry inserted) key upserted

end

/-- A backend that knows two nodes by their names and takes every relationship. -/
def twoNodes : EntityRepository :=
  { searchEntities := fun text =>
      if text = "Alice".toList then some [⟨101, "Alice".toList⟩]
      else some [⟨102, "Acme".toList⟩]
    createRelationship := fun _ => true }

def aliceAtAcme : Triple :=
  ⟨"Alice".toList, "works_at".toList, "Acme".toList⟩

/-- Alice works at Acme, who are both known. -/
def knownAliceAtAcme : FactsRequest :=
  { FactsRequest.ofFacts (some twoNodes) [.ofTriple aliceAtAcme none] with
    knownEntities := [.named 101 "Alice", .named 102 "Acme"] }

theorem edges_sustained_iff_known :
    ∃ result, processFactsOutput Casing.ascii FactStore.empty knownAliceAtAcme = .ok result ∧
      ∀ row key, (row, key) ∈ result.relationships → EdgeSustained knownAliceAtAcme row key := by
  obtain ⟨result, processed, _⟩ := @exists_ok _ _
    (processFactsOutput Casing.ascii FactStore.empty knownAliceAtAcme)
    (fun result => decide (result.relationships ≠ [])) (by decide +kernel)
  exact ⟨result, processed, (edges_sustained_iff processed).mpr (by decide +kernel)⟩

/-- Without known entities the row of Alice has no ids, and her edge is stale. -/
theorem edges_aliceAtAcme :
    ¬ ∀ (casing : Casing) (store : FactStore) (request : FactsRequest) (result : ProcessedFacts),
      processFactsOutput casing store request = .ok result →
        ∀ row key, (row, key) ∈ result.relationships → EdgeSustained request row key := by
  intro sustained
  obtain ⟨result, processed, unlinked⟩ := @exists_ok _ _
    (processFactsOutput Casing.ascii FactStore.empty
      (.ofFacts (some twoNodes) [.ofTriple aliceAtAcme none]))
    (fun result => result.relationships.any fun upserted =>
      decide (¬ AssertsKey upserted.1 upserted.2)) (by decide +kernel)
  obtain ⟨⟨row, key⟩, upserted, unlinked⟩ := List.any_eq_true.mp unlinked
  obtain ⟨created, _⟩ := (mem_relationships processed).mp upserted
  obtain ⟨entry, _, rowOf⟩ := exists_related_of_right (created_rows processed) created
  exact of_decide_eq_true unlinked ((edgeSustained_iff rowOf key).mp
    (sustained _ _ _ result processed row key upserted))

end OpenZync.Workers.ExtractFacts
