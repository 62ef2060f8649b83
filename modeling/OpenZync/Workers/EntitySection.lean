import OpenZync.Workers.ExtractEntities

/-!
# The entity section and its predicates

The schema takes any predicate, the backend only names of edge types.  A
relationship whose endpoints are found and whose predicate is no such name
fails the whole section; without one the section completes.
-/

namespace OpenZync.Workers.ExtractEntities

open OpenZync.Library OpenZync.Workers.ExtractFacts

variable {services : EntityServices} {request : EntityRequest} {table : EntityTable}
  {nodes : List EntityVertex} {rel : RelationshipOutput} {edge : EdgeKey}

/-- Every name stands for a node of the graph. -/
def WellNamed (table : EntityTable) : Prop :=
  ∀ name, ∀ named ∈ table.nameToNode.get? name, ∃ node ∈ table.nodes, node.id = named.id

theorem createEntity_mem (table : EntityTable) (name type summary : Text) :
    (createEntity services table name type summary).1 ∈
      (createEntity services table name type summary).2 := by
  unfold createEntity
  dsimp only
  split
  · rename_i node found
    exact List.mem_of_find?_eq_some found
  · exact List.mem_append_right _ (List.mem_singleton.mpr rfl)

theorem createEntity_ids (table : EntityTable) (name type summary : Text) {node : EntityVertex}
    (member : node ∈ table.nodes) :
    ∃ kept ∈ (createEntity services table name type summary).2, kept.id = node.id := by
  unfold createEntity
  dsimp only
  split
  · refine ⟨_, List.mem_map_of_mem member, ?_⟩
    split <;> rfl
  · exact ⟨node, List.mem_append_left _ member, rfl⟩

theorem WellNamed.upsertEntity (wellNamed : WellNamed table) (name type summary : Text)
    (names : List Text) :
    WellNamed (upsertEntity services name type summary names table) := by
  intro key named found
  rw [ExtractEntities.upsertEntity, Option.mem_def, Library.Dict.get?_foldl_set_keys] at found
  split at found
  · obtain rfl := Option.some.inj found
    exact ⟨_, createEntity_mem table name type summary, rfl⟩
  · obtain ⟨node, member, same⟩ := wellNamed key named found
    obtain ⟨kept, stays, sameId⟩ : ∃ kept ∈ (createEntity services table name type summary).2,
        kept.id = node.id :=
      createEntity_ids table name type summary member
    exact ⟨kept, stays, sameId.trans same⟩

theorem mem_keys_upsertEntity {table : EntityTable} {name type summary key : Text}
    {names : List Text} :
    key ∈ (upsertEntity services name type summary names table).nameToNode.keys ↔
      key ∈ names ∨ key ∈ table.nameToNode.keys := by
  rw [Library.Dict.mem_keys_iff, Library.Dict.mem_keys_iff, upsertEntity,
    Library.Dict.get?_foldl_set_keys]
  split
  · rename_i named
    simp [named]
  · rename_i other
    simp [other]

theorem mem_keys_recoverEndpoint {name key : Text} :
    key ∈ (recoverEndpoint services rel name table).nameToNode.keys ↔
      key = name ∨ key ∈ table.nameToNode.keys := by
  unfold recoverEndpoint
  split
  · rename_i known
    constructor
    · exact .inr
    · rintro (rfl | member)
      · exact List.contains_iff_mem.mp known
      · exact member
  · rw [mem_keys_upsertEntity, List.mem_singleton]

theorem recover_keys (table : EntityTable) (rel : RelationshipOutput) :
    rel.subject ∈ (recover services table rel).nameToNode.keys ∧
      rel.object ∈ (recover services table rel).nameToNode.keys := by
  unfold recover
  rw [mem_keys_recoverEndpoint, mem_keys_recoverEndpoint, mem_keys_recoverEndpoint]
  exact ⟨.inr (.inl rfl), .inl rfl⟩

theorem WellNamed.recover (wellNamed : WellNamed table) (rel : RelationshipOutput) :
    WellNamed (recover services table rel) := by
  have endpoint {table : EntityTable} (wellNamed : WellNamed table) (name : Text) :
      WellNamed (recoverEndpoint services rel name table) := by
    unfold recoverEndpoint
    split
    · exact wellNamed
    · exact wellNamed.upsertEntity _ _ _ _
  exact endpoint (endpoint wellNamed rel.subject) rel.object

theorem wellNamed_storeEntities (services : EntityServices) (request : EntityRequest)
    (nodes : List EntityVertex) : WellNamed (request.storeEntities services nodes) := by
  have start : WellNamed ⟨nodes, 0, Library.Dict.empty⟩ := by
    intro name named found
    cases found
  have all (entities : List EntityOutput) (table : EntityTable) (wellNamed : WellNamed table) :
      WellNamed (entities.foldl (storeEntity services request) table) := by
    induction entities generalizing table with
    | nil => exact wellNamed
    | cons entity entities induction => exact induction _ (wellNamed.upsertEntity _ _ _ _)
  exact all _ _ start

theorem pickNode_mem {casing : Casing} {name : Text} {results : List GraphNode}
    {node : GraphNode} (found : EntityRepository.pickNode casing name results = some node) :
    node ∈ results := by
  rw [EntityRepository.pickNode, Option.or_eq_some_iff, Option.or_eq_some_iff] at found
  rcases found with exact | ⟨_, contained | ⟨_, containing⟩⟩
  · exact List.mem_of_find?_eq_some exact
  · exact List.mem_of_find?_eq_some contained
  · exact List.mem_of_find?_eq_some containing

theorem getEntityByName_mem {name : Text} {node : GraphNode}
    (found : getEntityByName services nodes name = some node) :
    nodes.any (fun other => other.id == node.id) = true := by
  obtain ⟨vertex, answered, rfl⟩ := List.mem_map.mp (pickNode_mem found)
  have stored := services.search.mem nodes _ vertex (List.mem_of_mem_take answered)
  exact List.any_eq_true.mpr ⟨vertex, stored, beq_self_eq_true _⟩

theorem createRelationship_knownEdge (known : knownEdge services nodes rel = some edge)
    (edges : List EdgeKey) :
    createRelationship nodes edges edge =
      if Graph.isSafeEdgeType rel.predicate = true then
        .ok (if edge ∈ edges then edges else edges ++ [edge])
      else .error (.unsafeEdgeType rel.predicate) := by
  unfold knownEdge at known
  split at known
  · rename_i source target foundSource foundTarget
    obtain rfl := Option.some.inj known
    have stored := And.intro (getEntityByName_mem foundSource) (getEntityByName_mem foundTarget)
    by_cases safe : Graph.isSafeEdgeType rel.predicate = true
    · rw [createRelationship, if_neg (not_not.mpr safe), if_pos stored, if_pos safe]
    · rw [createRelationship, if_pos safe, if_neg safe]
  · cases known

/-- The table after some of the relationships. -/
def EntityRequest.tableAfter (services : EntityServices) (request : EntityRequest)
    (nodes : List EntityVertex) (done : List RelationshipOutput) : EntityTable :=
  done.foldl (recover services) (request.storeEntities services nodes)

/-- The edge of a relationship both of whose endpoints are found when its turn
comes. -/
def EntityRequest.edgeInTurn (services : EntityServices) (request : EntityRequest)
    (nodes : List EntityVertex) (done : List RelationshipOutput) (rel : RelationshipOutput) :
    Option EdgeKey :=
  knownEdge services (request.tableAfter services nodes (done ++ [rel])).nodes rel

/-- The section returns, sets its bit and stores the relationships whose endpoints
are known. -/
structure SectionComplete (services : EntityServices) (request : EntityRequest)
    (run : EntityRun) : Prop where
  returns : ∃ names, (processEntitiesOutput services request run).2 = .ok names
  stamped : request.episodeRepo = true →
    (processEntitiesOutput services request run).1.row =
      run.row.applyEnrichmentBits enrichmentEntities
  stored : ∀ done rel rest, request.cleanRelationships services = done ++ rel :: rest →
    ∀ edge ∈ request.edgeInTurn services run.table.nodes done rel,
      edge ∈ (processEntitiesOutput services request run).1.edges

/-- Every relationship whose endpoints are known has the name of an edge type for its
predicate. -/
def KnownPredicatesSafe (services : EntityServices) (request : EntityRequest)
    (nodes : List EntityVertex) : Prop :=
  ∀ done rel rest, request.cleanRelationships services = done ++ rel :: rest →
    request.edgeInTurn services nodes done rel ≠ none →
      Graph.isSafeEdgeType rel.predicate = true

/-- The relationships that are done. -/
structure RelationshipsDone (services : EntityServices) (request : EntityRequest)
    (nodes : List EntityVertex) (row : EpisodeRow) (done : List RelationshipOutput)
    (run : EntityRun) : Prop where
  table : run.table = request.tableAfter services nodes done
  row : run.row = row
  stored : ∀ before rel after, done = before ++ rel :: after →
    ∀ edge ∈ request.edgeInTurn services nodes before rel,
      Graph.isSafeEdgeType rel.predicate = true ∧ edge ∈ run.edges

theorem wellNamed_tableAfter (services : EntityServices) (request : EntityRequest)
    (nodes : List EntityVertex) (done : List RelationshipOutput) :
    WellNamed (request.tableAfter services nodes done) := by
  induction done using List.reverseRecOn with
  | nil => exact wellNamed_storeEntities services request nodes
  | append_singleton done rel induction =>
      rw [EntityRequest.tableAfter, List.foldl_append, List.foldl_cons, List.foldl_nil]
      exact induction.recover rel

section

variable {row : EpisodeRow} {done rest : List RelationshipOutput}

theorem RelationshipsDone.snoc {run after : EntityRun}
    (before : RelationshipsDone services request nodes row done run)
    (table : after.table = request.tableAfter services nodes (done ++ [rel]))
    (sameRow : after.row = run.row) (kept : run.edges ⊆ after.edges)
    (taken : ∀ edge ∈ request.edgeInTurn services nodes done rel,
      Graph.isSafeEdgeType rel.predicate = true ∧ edge ∈ after.edges) :
    RelationshipsDone services request nodes row (done ++ [rel]) after := by
  refine ⟨table, sameRow.trans before.row, ?_⟩
  intro first other last split edge inTurn
  rcases List.eq_nil_or_concat last with rfl | ⟨last, final, rfl⟩
  · obtain ⟨rfl, same⟩ := List.append_inj' split rfl
    obtain ⟨rfl, _⟩ := List.cons.inj same
    exact taken edge inTurn
  · rw [List.concat_eq_append, ← List.cons_append, ← List.append_assoc] at split
    obtain ⟨earlier, _⟩ := List.append_inj' split rfl
    obtain ⟨safe, stored⟩ := before.stored first other last earlier edge inTurn
    exact ⟨safe, kept stored⟩

/-- The endpoints of the next relationship are recovered. -/
def NextRecovered (services : EntityServices) (request : EntityRequest)
    (nodes : List EntityVertex) (row : EpisodeRow) (done : List RelationshipOutput)
    (rel : RelationshipOutput) (run : EntityRun) : Prop :=
  ∃ earlier, RelationshipsDone services request nodes row done earlier ∧
    run = { earlier with table := request.tableAfter services nodes (done ++ [rel]) }

/-- The relationship is stored if its endpoints are known, and fails the section if
its predicate is not the name of an edge type. -/
theorem upsertRelationship_meets
    (whole : request.cleanRelationships services = done ++ rel :: rest) :
    Attempt.Meets (NextRecovered services request nodes row done rel)
      (upsertRelationship services rel)
      (fun _ => RelationshipsDone services request nodes row (done ++ [rel]))
      (fun _ _ => ¬ KnownPredicatesSafe services request nodes) := by
  apply Attempt.meets_read
  intro current
  cases known : knownEdge services current rel with
  | none =>
      apply Attempt.meets_pure
      rintro run ⟨⟨earlier, before, rfl⟩, rfl⟩
      refine before.snoc rfl rfl (List.Subset.refl _) ?_
      intro edge inTurn
      rw [EntityRequest.edgeInTurn, known] at inTurn
      cases inTurn
  | some edge =>
      apply Attempt.meets_read
      intro edges
      rw [createRelationship_knownEdge known]
      by_cases safe : Graph.isSafeEdgeType rel.predicate = true
      · rw [if_pos safe]
        apply Attempt.meets_change_bind
          (fun run => RelationshipsDone services request nodes row (done ++ [rel]) run)
        · rintro run ⟨⟨⟨earlier, before, rfl⟩, rfl⟩, rfl⟩
          refine before.snoc rfl rfl ?_ ?_
          · intro stored member
            dsimp only
            split
            · exact member
            · exact List.mem_append_left _ member
          · intro other inTurn
            rw [EntityRequest.edgeInTurn, known] at inTurn
            obtain rfl := Option.some.inj inTurn
            refine ⟨safe, ?_⟩
            dsimp only
            split
            · assumption
            · exact List.mem_append_right _ (List.mem_singleton.mpr rfl)
        · exact Attempt.meets_pure _ fun _ done => done
      · rw [if_neg safe]
        apply Attempt.meets_fail
        rintro run ⟨⟨⟨earlier, before, rfl⟩, rfl⟩, rfl⟩ allSafe
        apply safe
        apply allSafe done rel rest whole
        rw [EntityRequest.edgeInTurn, known]
        exact Option.some_ne_none edge

/-- One round of the loop over the relationships. -/
theorem processRelationship_meets
    (whole : request.cleanRelationships services = done ++ rel :: rest) :
    Attempt.Meets (RelationshipsDone services request nodes row done)
      (processRelationship services () rel)
      (fun _ => RelationshipsDone services request nodes row (done ++ [rel]))
      (fun _ _ => ¬ KnownPredicatesSafe services request nodes) := by
  apply Attempt.meets_ite
  · rintro (empty | empty | empty)
    · exact absurd empty rel.subject_ok.2
    · exact absurd empty rel.predicate_ok.2
    · exact absurd empty rel.object_ok.2
  · intro _
    apply Attempt.meets_change_bind (NextRecovered services request nodes row done rel)
    · intro run before
      refine ⟨run, before, ?_⟩
      rw [before.table, EntityRequest.tableAfter, EntityRequest.tableAfter, List.foldl_append,
        List.foldl_cons, List.foldl_nil]
    apply Attempt.meets_read
    intro names
    apply Attempt.meets_ite
    · intro _
      have upserted : Attempt.Meets
          (fun run => NextRecovered services request nodes row done rel run ∧
            run.table.nameToNode.keys = names)
          (upsertRelationship services rel)
          (fun _ => RelationshipsDone services request nodes row (done ++ [rel]))
          (fun _ _ => ¬ KnownPredicatesSafe services request nodes) :=
        fun run start => upsertRelationship_meets whole run start.1
      apply upserted.bind
      intro result
      apply Attempt.meets_ite
      · intro _
        apply Attempt.meets_change
        intro run done
        exact ⟨done.table, done.row, done.stored⟩
      · intro _
        exact Attempt.meets_pure _ fun _ done => done
    · intro missing
      apply Attempt.meets_change
      rintro run ⟨⟨earlier, before, rfl⟩, rfl⟩
      exfalso
      apply missing
      dsimp only
      rw [EntityRequest.tableAfter, List.foldl_append]
      exact (recover_keys _ rel).imp List.contains_iff_mem.mpr List.contains_iff_mem.mpr

end

/-- What the section leaves when it returns. -/
structure SectionDone (services : EntityServices) (request : EntityRequest)
    (nodes : List EntityVertex) (row : EpisodeRow) (run : EntityRun) : Prop where
  row : run.row = row
  stored : ∀ before rel after, request.cleanRelationships services = before ++ rel :: after →
    ∀ edge ∈ request.edgeInTurn services nodes before rel,
      Graph.isSafeEdgeType rel.predicate = true ∧ edge ∈ run.edges

/-- The nodes of `name_to_node` are linked to the episode. -/
theorem linkEntities_meets {row : EpisodeRow} {linked : List EntityVertex}
    (inGraph : ∀ node ∈ linked, ∃ stored ∈ (request.tableAfter services nodes
      (request.cleanRelationships services)).nodes, stored.id = node.id) :
    Attempt.Meets
      (RelationshipsDone services request nodes row (request.cleanRelationships services))
      (Attempt.fold (linkEntity request) () linked)
      (fun _ => RelationshipsDone services request nodes row
        (request.cleanRelationships services))
      (fun _ _ => ¬ KnownPredicatesSafe services request nodes) := by
  apply Attempt.Meets.fold fun _ _ =>
    RelationshipsDone services request nodes row (request.cleanRelationships services)
  intro before node after whole _
  apply Attempt.meets_read
  intro current
  apply Attempt.meets_ite
  · intro _
    apply Attempt.meets_change
    rintro run ⟨done, _⟩
    exact ⟨done.table, done.row, done.stored⟩
  · intro missing
    apply Attempt.meets_fail
    rintro run ⟨done, rfl⟩
    exfalso
    apply missing
    obtain ⟨stored, member, same⟩ := inGraph node (by simp [whole])
    rw [done.table]
    exact List.any_eq_true.mpr ⟨stored, member, beq_iff_eq.mpr same⟩

theorem processEntitiesOutput_meets (services : EntityServices) (request : EntityRequest)
    (start : EntityRun) :
    Attempt.Meets (fun run => run = start) (processEntitiesOutput services request)
      (fun _ => SectionDone services request start.table.nodes
        (if request.episodeRepo then start.row.applyEnrichmentBits enrichmentEntities
          else start.row))
      (fun _ _ => ¬ KnownPredicatesSafe services request start.table.nodes) := by
  apply Attempt.meets_change_bind
    (RelationshipsDone services request start.table.nodes start.row [])
  · rintro run rfl
    refine ⟨rfl, rfl, ?_⟩
    intro before rel after split
    simp at split
  have loop := Attempt.Meets.fold
    (fun done _ => RelationshipsDone services request start.table.nodes start.row done)
    (fun _ _ => ¬ KnownPredicatesSafe services request start.table.nodes)
    (fun done rel rest whole (_ : Unit) => processRelationship_meets whole) ()
  have stamp : Attempt.Meets
      (RelationshipsDone services request start.table.nodes start.row
        (request.cleanRelationships services))
      (Attempt.change (fun run : EntityRun =>
        if request.episodeRepo then
          { run with row := run.row.applyEnrichmentBits enrichmentEntities }
        else run) : EntityStep Unit)
      (fun _ => SectionDone services request start.table.nodes
        (if request.episodeRepo then start.row.applyEnrichmentBits enrichmentEntities
          else start.row))
      (fun _ _ => ¬ KnownPredicatesSafe services request start.table.nodes) := by
    apply Attempt.meets_change
    intro run done
    split
    · exact ⟨congrArg (EpisodeRow.applyEnrichmentBits · enrichmentEntities) done.row, done.stored⟩
    · exact ⟨done.row, done.stored⟩
  apply loop.bind
  intro _
  apply Attempt.meets_read
  rintro _ run ⟨done, rfl⟩
  have inGraph : ∀ node ∈ run.table.nameToNode.items.map Prod.snd,
      ∃ stored ∈ (request.tableAfter services start.table.nodes
        (request.cleanRelationships services)).nodes, stored.id = node.id := by
    intro node member
    obtain ⟨item, inItems, rfl⟩ := List.mem_map.mp member
    rw [done.table] at inItems
    exact wellNamed_tableAfter services request _ _ item.1 item.2
      (Library.Dict.mem_items_iff.mp inItems)
  refine Attempt.Meets.bind (linkEntities_meets inGraph) ?_ run done
  intro _
  apply stamp.bind
  intro _
  exact Attempt.meets_pure _ fun _ done => done

/-- The section completes exactly when every relationship whose endpoints are known
has the name of an edge type for its predicate. -/
theorem sectionComplete_iff (services : EntityServices) (request : EntityRequest)
    (run : EntityRun) :
    SectionComplete services request run ↔
      KnownPredicatesSafe services request run.table.nodes := by
  have meets := processEntitiesOutput_meets services request run run rfl
  split at meets
  · rename_i after names ran
    refine iff_of_true ⟨⟨names, by rw [ran]⟩, ?_, ?_⟩ ?_
    · intro repo
      rw [ran]
      exact meets.row.trans (if_pos repo)
    · intro done rel rest whole edge inTurn
      rw [ran]
      exact (meets.stored done rel rest whole edge inTurn).2
    · intro done rel rest whole known
      obtain ⟨edge, inTurn⟩ := Option.ne_none_iff_exists'.mp known
      exact (meets.stored done rel rest whole edge inTurn).1
  · rename_i after failure ran
    refine iff_of_false ?_ meets
    rintro ⟨⟨names, returned⟩, _, _⟩
    rw [ran] at returned
    cases returned

/-- A search that answers with every node. -/
def answersAll : EntityServices :=
  { casing := Casing.ascii
    isLower := fun name => name.all Char.isLower
    capitalize := id
    search := ⟨fun nodes _ => nodes, fun _ _ _ member => member⟩
    uuid4 := id }

/-- A response whose only relationship has a predicate of two words. -/
def worksAt : EntityRequest :=
  { episodeId := 7
    episodeRepo := true
    entities := [⟨"Alice".toList, "Person".toList, none⟩, ⟨"Acme".toList, "Company".toList, none⟩]
    relationships :=
      [{ subject := "Alice".toList
         predicate := "works at".toList
         object := "Acme".toList
         subject_ok := by decide
         predicate_ok := by decide
         object_ok := by decide }]
    entityTypes := ["Person".toList, "Company".toList] }

def emptyGraph : EntityRun :=
  { table := ⟨[], 0, Library.Dict.empty⟩
    edges := []
    mentions := []
    counts := (0, 0)
    row := ⟨0, false⟩ }

/-- The predicate of two words loses the section. -/
theorem worksAt_incomplete : ¬ SectionComplete answersAll worksAt emptyGraph := by
  have raises : (processEntitiesOutput answersAll worksAt emptyGraph).2 =
      .error .upsertRelationshipFailed := by
    decide +kernel
  intro complete
  obtain ⟨names, returned⟩ := complete.returns
  rw [raises] at returned
  cases returned

end OpenZync.Workers.ExtractEntities
