import OpenZync.Graph.BulkEdges
import OpenZync.Library.UniqueIndex

/-!
# Merging entities in PostgreSQL

`merge_entities` of the PostgreSQL backend: two updates re-point the active rows
of the merged entities, a third statement deletes rows that have become equal,
and a fourth marks the entities.  The unique index on the active rows holds
throughout, and is checked for each row that an update writes.

The unique index turns away an update that gives two active rows one key, so the
rows that the third statement is there to delete never come about.  The merge
succeeds and moves every edge where the images of the active keys are distinct
and no other project has an active edge at a merged entity.
-/

namespace OpenZync.Graph.Postgres

open Library

/-- A row of `graph_relationships`; it is active while `invalid_at` is null. -/
structure ScopedEdge where
  id : Uuid
  organizationId : Uuid
  projectId : Uuid
  key : EdgeKey
  content : EdgeContent
  invalidAt : Option Time
deriving DecidableEq

namespace ScopedEdge

/-- The key of the row in `idx_graph_rels_active_unique`. -/
def activeKey (edge : ScopedEdge) : Option EdgeKey :=
  if edge.invalidAt.isNone then some edge.key else none

def setSource (sourceId : Uuid) (edge : ScopedEdge) : ScopedEdge :=
  { edge with key := { edge.key with sourceId := sourceId } }

def setTarget (targetId : Uuid) (edge : ScopedEdge) : ScopedEdge :=
  { edge with key := { edge.key with targetId := targetId } }

/-- The active rows of a project. -/
def inScope (orgId projectId : Uuid) (edge : ScopedEdge) : Bool :=
  edge.organizationId == orgId && edge.projectId == projectId && edge.invalidAt.isNone

end ScopedEdge

/-- The table, under its primary key and the unique index. -/
structure RelationshipTable where
  rows : List ScopedEdge
  ids : (rows.map ScopedEdge.id).Nodup
  unique : UniqueKeys ScopedEdge.activeKey rows

/-- A row of `graph_entities`. -/
structure ScopedEntity where
  id : Uuid
  organizationId : Uuid
  projectId : Uuid
  isMerged : Bool
deriving DecidableEq

structure GraphDatabase where
  entities : List ScopedEntity
  edges : RelationshipTable

/-- The order in which a statement visits the rows, which nothing fixes. -/
structure ScanOrder where
  arrange : List ScopedEdge → List ScopedEdge
  perm : ∀ rows, (arrange rows).Perm rows

inductive RowMergeFailure where
  | notFound (canonicalId : Uuid)
  /-- The unique violation at a key, as an `ExternalServiceError`. -/
  | externalService (violated : EdgeKey)
deriving DecidableEq

namespace RelationshipTable

/-- An update of the selected rows in some order. -/
def update (order : ScanOrder) (selects : ScopedEdge → Bool) (moved : ScopedEdge → ScopedEdge)
    (keepsId : ∀ edge, (moved edge).id = edge.id) (table : RelationshipTable) :
    Except EdgeKey RelationshipTable :=
  match is : updateRows ScopedEdge.activeKey selects moved [] (order.arrange table.rows) with
  | .error violated => .error violated
  | .ok rows =>
      .ok
        { rows := rows
          ids := by
            obtain ⟨rfl, _⟩ := updateRows_ok is
            have same : ScopedEdge.id ∘ updatedRowBy selects moved = ScopedEdge.id := by
              funext edge
              rw [Function.comp_apply, updatedRowBy]
              split
              · exact keepsId edge
              · rfl
            rw [List.nil_append, List.map_map, same]
            exact ((order.perm table.rows).map _).nodup_iff.mpr table.ids
          unique := (updateRows_ok is).2 (table.unique.perm (order.perm table.rows).symm) }

/-- `DELETE` of the rows that `keeps` does not hold of. -/
def delete (keeps : ScopedEdge → Bool) (table : RelationshipTable) : RelationshipTable :=
  { rows := table.rows.filter keeps
    ids := table.ids.sublist (List.filter_sublist.map _)
    unique := table.unique.sublist (List.filter_sublist.filterMap _) }

end RelationshipTable

section Statements

variable (orgId projectId canonicalId : Uuid) (mergedIds : List Uuid)

/-- The rows of the first update. -/
def leavesMerged (edge : ScopedEdge) : Bool :=
  edge.inScope orgId projectId && mergedIds.contains edge.key.sourceId

/-- The rows of the second update. -/
def entersMerged (edge : ScopedEdge) : Bool :=
  edge.inScope orgId projectId && mergedIds.contains edge.key.targetId

/-- The least identifier among the active rows of the project with the key.  The
texts of identifiers are ordered as the identifiers are. -/
def firstOfKey (rows : List ScopedEdge) (key : EdgeKey) : Option Uuid :=
  ((rows.filter fun edge => edge.inScope orgId projectId && edge.key == key).map
    ScopedEdge.id).min?

/-- The rows the third statement leaves. -/
def isFirstOfKey (rows : List ScopedEdge) (edge : ScopedEdge) : Bool :=
  !edge.inScope orgId projectId || firstOfKey orgId projectId rows edge.key == some edge.id

def isMergedEntity (entity : ScopedEntity) : Bool :=
  entity.organizationId == orgId && entity.projectId == projectId && mergedIds.contains entity.id

/-- `get_entity` finds the entity. -/
def hasEntity (entities : List ScopedEntity) (entityId : Uuid) : Bool :=
  entities.any fun entity =>
    entity.id == entityId && entity.organizationId == orgId && entity.projectId == projectId

/-- `merge_entities`; a violation undoes everything. -/
def mergeEntities (sourceOrder targetOrder : ScanOrder) (database : GraphDatabase) :
    Except RowMergeFailure (GraphDatabase × MergeResult) :=
  if mergedIds.isEmpty then
    .ok (database, { rewiredCount := 0, deletedCount := 0, mergedCount := 0 })
  else if !hasEntity orgId projectId database.entities canonicalId then
    .error (.notFound canonicalId)
  else
    match database.edges.update sourceOrder (leavesMerged orgId projectId mergedIds)
        (ScopedEdge.setSource canonicalId) fun _ => rfl with
    | .error violated => .error (.externalService violated)
    | .ok sources =>
        match sources.update targetOrder (entersMerged orgId projectId mergedIds)
            (ScopedEdge.setTarget canonicalId) fun _ => rfl with
        | .error violated => .error (.externalService violated)
        | .ok targets =>
            let kept := targets.delete (isFirstOfKey orgId projectId targets.rows)
            .ok
              ({ entities := database.entities.map fun entity =>
                  if isMergedEntity orgId projectId mergedIds entity then
                    { entity with isMerged := true }
                  else entity
                 edges := kept },
                { rewiredCount :=
                    database.edges.rows.countP (leavesMerged orgId projectId mergedIds) +
                      sources.rows.countP (entersMerged orgId projectId mergedIds)
                  deletedCount := targets.rows.length - kept.rows.length
                  mergedCount :=
                    database.entities.countP (isMergedEntity orgId projectId mergedIds) })

end Statements

section Images

variable (orgId projectId canonicalId : Uuid) (mergedIds : List Uuid)

/-- A merged end becomes the canonical one. -/
def imageEnd (id : Uuid) : Uuid :=
  if mergedIds.contains id then canonicalId else id

def imageKey (key : EdgeKey) : EdgeKey :=
  { key with
    sourceId := imageEnd canonicalId mergedIds key.sourceId
    targetId := imageEnd canonicalId mergedIds key.targetId }

/-- No end of the key is a merged entity. -/
def Untouched (key : EdgeKey) : Prop :=
  key.sourceId ∉ mergedIds ∧ key.targetId ∉ mergedIds

end Images

namespace RelationshipTable

/-- The keys of the active rows. -/
def activeKeys (table : RelationshipTable) : List EdgeKey :=
  table.rows.filterMap ScopedEdge.activeKey

theorem rows_of_update {order : ScanOrder} {selects : ScopedEdge → Bool}
    {moved : ScopedEdge → ScopedEdge} {keepsId : ∀ edge, (moved edge).id = edge.id}
    {table after : RelationshipTable} (ran : table.update order selects moved keepsId = .ok after) :
    after.rows = (order.arrange table.rows).map (updatedRowBy selects moved) := by
  unfold update at ran
  split at ran
  · cases ran
  · rename_i rows is
    cases ran
    exact (updateRows_ok is).1

theorem update_of_unique (order : ScanOrder) {selects : ScopedEdge → Bool}
    {moved : ScopedEdge → ScopedEdge} (keepsId : ∀ edge, (moved edge).id = edge.id)
    (table : RelationshipTable)
    (apart : ∀ row other taken, selects other = true → (moved row).activeKey = some taken →
      other.activeKey ≠ some taken)
    (unique : UniqueKeys ScopedEdge.activeKey (table.rows.map (updatedRowBy selects moved))) :
    ∃ after, table.update order selects moved keepsId = .ok after := by
  have arranged : UniqueKeys ScopedEdge.activeKey
      ([] ++ (order.arrange table.rows).map (updatedRowBy selects moved)) :=
    unique.perm ((order.perm table.rows).symm.map _)
  have succeeds := updateRows_of_unique apart arranged
  unfold update
  split
  · rename_i violated is
    rw [succeeds] at is
    cases is
  · exact ⟨_, rfl⟩

theorem eq_singleton_of_uniqueKeys {rows : List ScopedEdge} {edge : ScopedEdge} (key : EdgeKey)
    (unique : UniqueKeys ScopedEdge.activeKey rows)
    (same : ∀ other ∈ rows, other.activeKey = some key) (member : edge ∈ rows) :
    rows = [edge] := by
  have keys : rows.filterMap ScopedEdge.activeKey = List.replicate rows.length key := by
    rw [List.eq_replicate_iff]
    refine ⟨?_, fun other among => ?_⟩
    · rw [List.length_filterMap_eq_countP, List.countP_eq_length]
      intro other among
      rw [same other among]
      rfl
    · obtain ⟨row, present, has⟩ := List.mem_filterMap.mp among
      rw [same row present, Option.some.injEq] at has
      exact has.symm
  rw [UniqueKeys, keys, List.nodup_replicate] at unique
  have alone : rows.length = 1 := Nat.le_antisymm unique (List.length_pos_of_mem member)
  obtain ⟨row, rfl⟩ := List.length_eq_one_iff.mp alone
  rw [List.mem_singleton.mp member]

theorem isFirstOfKey_eq_true (orgId projectId : Uuid) (table : RelationshipTable)
    {edge : ScopedEdge} (member : edge ∈ table.rows) :
    isFirstOfKey orgId projectId table.rows edge = true := by
  cases inside : edge.inScope orgId projectId with
  | false => simp [isFirstOfKey, inside]
  | true =>
      have alone : table.rows.filter (fun other =>
          other.inScope orgId projectId && other.key == edge.key) = [edge] := by
        refine eq_singleton_of_uniqueKeys edge.key
          (table.unique.sublist (List.filter_sublist.filterMap _)) ?_ ?_
        · intro other among
          have found := (List.mem_filter.mp among).2
          simp only [ScopedEdge.inScope, Bool.and_eq_true, beq_iff_eq] at found
          rw [ScopedEdge.activeKey, if_pos found.1.2, found.2]
        · rw [List.mem_filter, inside]
          exact ⟨member, by simp⟩
      simp [isFirstOfKey, firstOfKey, alone]

theorem rows_delete_isFirstOfKey (orgId projectId : Uuid) (table : RelationshipTable) :
    (table.delete (isFirstOfKey orgId projectId table.rows)).rows = table.rows :=
  List.filter_eq_self.mpr fun _ member => isFirstOfKey_eq_true orgId projectId table member

end RelationshipTable

section Merge

variable {orgId projectId canonicalId : Uuid} {mergedIds : List Uuid}

theorem imageEnd_notMem (outside : canonicalId ∉ mergedIds) (id : Uuid) :
    imageEnd canonicalId mergedIds id ∉ mergedIds := by
  unfold imageEnd
  split
  · exact outside
  · rename_i absent
    simpa using absent

theorem imageEnd_of_notMem {id : Uuid} (absent : id ∉ mergedIds) :
    imageEnd canonicalId mergedIds id = id := by
  rw [imageEnd, if_neg (by simpa using absent)]

theorem imageKey_of_untouched {key : EdgeKey} (untouched : Untouched mergedIds key) :
    imageKey canonicalId mergedIds key = key := by
  rw [imageKey, imageEnd_of_notMem untouched.1, imageEnd_of_notMem untouched.2]

/-- A row after the first update. -/
abbrev sourceMoved (orgId projectId canonicalId : Uuid) (mergedIds : List Uuid) :
    ScopedEdge → ScopedEdge :=
  updatedRowBy (leavesMerged orgId projectId mergedIds) (ScopedEdge.setSource canonicalId)

/-- A row after the second update. -/
abbrev targetMoved (orgId projectId canonicalId : Uuid) (mergedIds : List Uuid) :
    ScopedEdge → ScopedEdge :=
  updatedRowBy (entersMerged orgId projectId mergedIds) (ScopedEdge.setTarget canonicalId)

theorem sourceMoved_of_inside {edge : ScopedEdge} (inside : edge.inScope orgId projectId = true) :
    sourceMoved orgId projectId canonicalId mergedIds edge =
      edge.setSource (imageEnd canonicalId mergedIds edge.key.sourceId) := by
  unfold sourceMoved updatedRowBy
  rw [leavesMerged, inside, Bool.true_and, imageEnd]
  split <;> rfl

theorem targetMoved_of_inside {edge : ScopedEdge} (inside : edge.inScope orgId projectId = true) :
    targetMoved orgId projectId canonicalId mergedIds edge =
      edge.setTarget (imageEnd canonicalId mergedIds edge.key.targetId) := by
  unfold targetMoved updatedRowBy
  rw [entersMerged, inside, Bool.true_and, imageEnd]
  split <;> rfl

theorem sourceMoved_of_outside {edge : ScopedEdge}
    (outside : edge.inScope orgId projectId = false) :
    sourceMoved orgId projectId canonicalId mergedIds edge = edge := by
  simp [updatedRowBy, leavesMerged, outside]

theorem targetMoved_of_outside {edge : ScopedEdge}
    (outside : edge.inScope orgId projectId = false) :
    targetMoved orgId projectId canonicalId mergedIds edge = edge := by
  simp [updatedRowBy, entersMerged, outside]

/-- The active rows of other projects are not at a merged entity. -/
def OthersUntouched (orgId projectId : Uuid) (mergedIds : List Uuid) (rows : List ScopedEdge) :
    Prop :=
  ∀ edge ∈ rows, edge.inScope orgId projectId = false → ∀ key ∈ edge.activeKey,
    Untouched mergedIds key

theorem imageKey_sourceMoved (outside : canonicalId ∉ mergedIds) (edge : ScopedEdge) :
    (sourceMoved orgId projectId canonicalId mergedIds edge).activeKey.map
        (imageKey canonicalId mergedIds) =
      edge.activeKey.map (imageKey canonicalId mergedIds) := by
  cases inside : edge.inScope orgId projectId with
  | false => rw [sourceMoved_of_outside inside]
  | true =>
      have again : imageEnd canonicalId mergedIds
          (imageEnd canonicalId mergedIds edge.key.sourceId) =
            imageEnd canonicalId mergedIds edge.key.sourceId :=
        imageEnd_of_notMem (imageEnd_notMem outside _)
      rw [sourceMoved_of_inside inside]
      cases active : edge.invalidAt with
      | none => simp [ScopedEdge.activeKey, ScopedEdge.setSource, active, imageKey, again]
      | some instant => simp [ScopedEdge.activeKey, ScopedEdge.setSource, active]

theorem activeKey_moved {rows : List ScopedEdge}
    (others : OthersUntouched orgId projectId mergedIds rows) {edge : ScopedEdge}
    (member : edge ∈ rows) :
    (targetMoved orgId projectId canonicalId mergedIds
        (sourceMoved orgId projectId canonicalId mergedIds edge)).activeKey =
      edge.activeKey.map (imageKey canonicalId mergedIds) := by
  cases inside : edge.inScope orgId projectId with
  | false =>
      rw [sourceMoved_of_outside inside, targetMoved_of_outside inside]
      cases active : edge.activeKey with
      | none => rfl
      | some key =>
          rw [Option.map_some, imageKey_of_untouched (others edge member inside key active)]
  | true =>
      have inside' : (edge.setSource (imageEnd canonicalId mergedIds
          edge.key.sourceId)).inScope orgId projectId = true := inside
      rw [sourceMoved_of_inside inside, targetMoved_of_inside inside']
      cases active : edge.invalidAt with
      | none =>
          simp [ScopedEdge.activeKey, ScopedEdge.setSource, ScopedEdge.setTarget, active, imageKey]
      | some instant =>
          simp [ScopedEdge.activeKey, ScopedEdge.setSource, ScopedEdge.setTarget, active]

theorem key_of_activeKey {edge : ScopedEdge} {key : EdgeKey} (is : edge.activeKey = some key) :
    edge.key = key := by
  unfold ScopedEdge.activeKey at is
  split at is
  · exact Option.some.inj is
  · cases is

theorem apart_setSource (orgId projectId : Uuid) (outside : canonicalId ∉ mergedIds)
    (row other : ScopedEdge)
    (taken : EdgeKey) (selected : leavesMerged orgId projectId mergedIds other = true)
    (is : (row.setSource canonicalId).activeKey = some taken) : other.activeKey ≠ some taken := by
  intro same
  have leaves : other.key.sourceId ∈ mergedIds := by
    simp only [leavesMerged, Bool.and_eq_true, List.contains_iff_mem] at selected
    exact selected.2
  have key : other.key = (row.setSource canonicalId).key :=
    (key_of_activeKey same).trans (key_of_activeKey is).symm
  rw [key] at leaves
  exact outside leaves

theorem apart_setTarget (orgId projectId : Uuid) (outside : canonicalId ∉ mergedIds)
    (row other : ScopedEdge)
    (taken : EdgeKey) (selected : entersMerged orgId projectId mergedIds other = true)
    (is : (row.setTarget canonicalId).activeKey = some taken) : other.activeKey ≠ some taken := by
  intro same
  have enters : other.key.targetId ∈ mergedIds := by
    simp only [entersMerged, Bool.and_eq_true, List.contains_iff_mem] at selected
    exact selected.2
  have key : other.key = (row.setTarget canonicalId).key :=
    (key_of_activeKey same).trans (key_of_activeKey is).symm
  rw [key] at enters
  exact outside enters

/-- The active keys after are the images of those before, each is there once,
and none is at a merged entity. -/
structure MergedAll (canonicalId : Uuid) (mergedIds : List Uuid)
    (before after : RelationshipTable) : Prop where
  images : ∀ key, key ∈ after.activeKeys ↔
    ∃ old ∈ before.activeKeys, imageKey canonicalId mergedIds old = key
  once : after.activeKeys.Nodup
  untouched : ∀ key ∈ after.activeKeys, Untouched mergedIds key

/-- The images of the active keys are distinct, and the active rows of other
projects are not at a merged entity. -/
structure ImagesDistinct (orgId projectId canonicalId : Uuid) (mergedIds : List Uuid)
    (table : RelationshipTable) : Prop where
  distinct : (table.activeKeys.map (imageKey canonicalId mergedIds)).Nodup
  others : OthersUntouched orgId projectId mergedIds table.rows

theorem activeKeys_moved {before : RelationshipTable} {after : List ScopedEdge}
    (others : OthersUntouched orgId projectId mergedIds before.rows)
    (moved : after.Perm (before.rows.map fun edge =>
      targetMoved orgId projectId canonicalId mergedIds
        (sourceMoved orgId projectId canonicalId mergedIds edge))) :
    (after.filterMap ScopedEdge.activeKey).Perm
      (before.activeKeys.map (imageKey canonicalId mergedIds)) := by
  refine (moved.filterMap _).trans (List.Perm.of_eq ?_)
  rw [RelationshipTable.activeKeys, List.filterMap_map, List.map_filterMap]
  exact List.filterMap_congr fun edge member => activeKey_moved others member

variable {sourceOrder targetOrder : ScanOrder} {database : GraphDatabase}

theorem rows_of_mergeEntities {after : GraphDatabase} {result : MergeResult}
    (ran : mergeEntities orgId projectId canonicalId mergedIds sourceOrder targetOrder database =
      .ok (after, result)) :
    after.edges.rows.Perm (database.edges.rows.map fun edge =>
      targetMoved orgId projectId canonicalId mergedIds
        (sourceMoved orgId projectId canonicalId mergedIds edge)) := by
  unfold mergeEntities at ran
  split at ran
  · rename_i empty
    cases ran
    have stays : ∀ edge, targetMoved orgId projectId canonicalId mergedIds
        (sourceMoved orgId projectId canonicalId mergedIds edge) = edge := by
      intro edge
      rw [List.isEmpty_iff] at empty
      simp [updatedRowBy, leavesMerged, entersMerged, empty]
    simp [stays]
  · split at ran
    · cases ran
    · split at ran
      · cases ran
      · rename_i sources sourcesRan
        split at ran
        · cases ran
        · rename_i targets targetsRan
          cases ran
          have first := RelationshipTable.rows_of_update sourcesRan
          have second := RelationshipTable.rows_of_update targetsRan
          have arranged := (targetOrder.perm sources.rows).map
            (targetMoved orgId projectId canonicalId mergedIds)
          have arranged' := (sourceOrder.perm database.edges.rows).map
            (sourceMoved orgId projectId canonicalId mergedIds)
          rw [RelationshipTable.rows_delete_isFirstOfKey, second]
          refine arranged.trans ?_
          rw [first]
          refine (arranged'.map _).trans (List.Perm.of_eq ?_)
          rw [List.map_map]
          rfl

theorem uniqueKeys_sourceMoved {table : RelationshipTable} (outside : canonicalId ∉ mergedIds)
    (smooth : ImagesDistinct orgId projectId canonicalId mergedIds table) :
    UniqueKeys ScopedEdge.activeKey
      (table.rows.map (sourceMoved orgId projectId canonicalId mergedIds)) := by
  have images : ((table.rows.map (sourceMoved orgId projectId canonicalId mergedIds)).filterMap
      ScopedEdge.activeKey).map (imageKey canonicalId mergedIds) =
        table.activeKeys.map (imageKey canonicalId mergedIds) := by
    rw [RelationshipTable.activeKeys, List.map_filterMap, List.map_filterMap,
      List.filterMap_map]
    exact List.filterMap_congr fun edge _ => imageKey_sourceMoved outside edge
  refine List.Nodup.of_map (imageKey canonicalId mergedIds) ?_
  rw [images]
  exact smooth.distinct

theorem mergeEntities_ok (sourceOrder targetOrder : ScanOrder)
    (canonical : hasEntity orgId projectId database.entities canonicalId = true)
    (outside : canonicalId ∉ mergedIds)
    (smooth : ImagesDistinct orgId projectId canonicalId mergedIds database.edges) :
    ∃ after result, mergeEntities orgId projectId canonicalId mergedIds sourceOrder targetOrder
      database = .ok (after, result) := by
  obtain ⟨sources, sourcesRan⟩ := RelationshipTable.update_of_unique sourceOrder
    (fun edge => (rfl : (edge.setSource canonicalId).id = edge.id)) database.edges
    (apart_setSource orgId projectId outside)
    (uniqueKeys_sourceMoved outside smooth)
  have moved : (sources.rows.map (targetMoved orgId projectId canonicalId mergedIds)).Perm
      (database.edges.rows.map fun edge => targetMoved orgId projectId canonicalId mergedIds
        (sourceMoved orgId projectId canonicalId mergedIds edge)) := by
    rw [RelationshipTable.rows_of_update sourcesRan, List.map_map]
    exact (sourceOrder.perm database.edges.rows).map _
  have keys := activeKeys_moved smooth.others moved
  obtain ⟨targets, targetsRan⟩ := RelationshipTable.update_of_unique targetOrder
    (fun edge => (rfl : (edge.setTarget canonicalId).id = edge.id)) sources
    (apart_setTarget orgId projectId outside)
    (keys.nodup_iff.mpr smooth.distinct)
  unfold mergeEntities
  split
  · exact ⟨_, _, rfl⟩
  · simp only [canonical, sourcesRan, targetsRan]
    exact ⟨_, _, rfl⟩

/-- A merge into an existing entity returns and loses no edge if and only if the
images of the active keys are distinct and no other project has an active edge
at a merged entity. -/
theorem mergeEntities_mergedAll_iff (sourceOrder targetOrder : ScanOrder)
    (orgId projectId canonicalId : Uuid) (mergedIds : List Uuid) (database : GraphDatabase)
    (canonical : hasEntity orgId projectId database.entities canonicalId = true)
    (outside : canonicalId ∉ mergedIds) :
    (∃ after result, mergeEntities orgId projectId canonicalId mergedIds sourceOrder targetOrder
        database = .ok (after, result) ∧
          MergedAll canonicalId mergedIds database.edges after.edges) ↔
      ImagesDistinct orgId projectId canonicalId mergedIds database.edges := by
  constructor
  · rintro ⟨after, result, ran, merged⟩
    have moved := rows_of_mergeEntities ran
    have others : OthersUntouched orgId projectId mergedIds database.edges.rows := by
      intro edge member away key active
      have stays : targetMoved orgId projectId canonicalId mergedIds
          (sourceMoved orgId projectId canonicalId mergedIds edge) = edge := by
        rw [sourceMoved_of_outside away, targetMoved_of_outside away]
      have still : edge ∈ after.edges.rows :=
        moved.mem_iff.mpr (List.mem_map.mpr ⟨edge, member, stays⟩)
      exact merged.untouched key (List.mem_filterMap.mpr ⟨edge, still, active⟩)
    exact ⟨(activeKeys_moved others moved).nodup_iff.mp merged.once, others⟩
  · intro smooth
    obtain ⟨after, result, ran⟩ := mergeEntities_ok sourceOrder targetOrder
      canonical outside smooth
    have keys := activeKeys_moved smooth.others (rows_of_mergeEntities ran)
    refine ⟨after, result, ran, fun key => ?_, keys.nodup_iff.mpr smooth.distinct, ?_⟩
    · rw [RelationshipTable.activeKeys, keys.mem_iff, List.mem_map]
    · intro key member
      obtain ⟨old, _, rfl⟩ := List.mem_map.mp (keys.mem_iff.mp member)
      exact ⟨imageEnd_notMem outside _, imageEnd_notMem outside _⟩

end Merge

/-- The rows as the table lists them. -/
def ScanOrder.asListed : ScanOrder :=
  { arrange := id
    perm := fun _ => List.Perm.refl _ }

/-- An active row of the only project. -/
def plainEdge (id sourceId targetId : Uuid) : ScopedEdge :=
  { id := id
    organizationId := 0
    projectId := 0
    key := ⟨sourceId, targetId, ['k']⟩
    content :=
      { properties := []
        confidence := 1
        validFrom := none
        validTo := none }
    invalidAt := none }

def plainEntities (ids : List Uuid) : List ScopedEntity :=
  ids.map fun id => { id := id, organizationId := 0, projectId := 0, isMerged := false }

/-- The merged entity alone is connected. -/
def singleNeighbour : GraphDatabase :=
  { entities := plainEntities [1, 2, 3]
    edges :=
      { rows := [plainEdge 7 2 3]
        ids := by decide
        unique := by decide } }

theorem mergeEntities_mergedAll_iff_singleNeighbour :
    hasEntity 0 0 singleNeighbour.entities 1 = true ∧ 1 ∉ [2] ∧
      ((∃ after result, mergeEntities 0 0 1 [2] .asListed .asListed singleNeighbour =
          .ok (after, result) ∧ MergedAll 1 [2] singleNeighbour.edges after.edges) ↔
        ImagesDistinct 0 0 1 [2] singleNeighbour.edges) :=
  ⟨by decide, by decide,
    mergeEntities_mergedAll_iff .asListed .asListed 0 0 1 [2] singleNeighbour (by decide)
      (by decide)⟩

/-- The canonical and the merged entity have a neighbour in common. -/
def commonNeighbour : GraphDatabase :=
  { entities := plainEntities [1, 2, 3]
    edges :=
      { rows := [plainEdge 7 1 3, plainEdge 8 2 3]
        ids := by decide
        unique := by decide } }

/-- The first update gives the second row the key of the first. -/
theorem mergeEntities_commonNeighbour :
    hasEntity 0 0 commonNeighbour.entities 1 = true ∧
      hasEntity 0 0 commonNeighbour.entities 2 = true ∧ 1 ∉ [2] ∧
        mergeEntities 0 0 1 [2] .asListed .asListed commonNeighbour =
          .error (.externalService ⟨1, 3, ['k']⟩) ∧
          ¬ ∃ after result, mergeEntities 0 0 1 [2] .asListed .asListed commonNeighbour =
            .ok (after, result) ∧ MergedAll 1 [2] commonNeighbour.edges after.edges := by
  have fails : mergeEntities 0 0 1 [2] .asListed .asListed commonNeighbour =
      .error (.externalService ⟨1, 3, ['k']⟩) := by
    rfl
  refine ⟨by decide, by decide, by decide, fails, ?_⟩
  rintro ⟨after, result, ran, _⟩
  rw [fails] at ran
  cases ran

end OpenZync.Graph.Postgres
