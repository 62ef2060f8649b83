import OpenZync.Graph.GraphListings
import OpenZync.Graph.MergeQueries

/-!
# Merging a cluster

`_merge_cluster`: the most recently created entity of a cluster is kept, the
backend merges the others into it, and then the audit entry is made from the
dictionaries of the entities.  The merge is one of the graph, the entry one of
the database.
-/

namespace OpenZync.Workers.MergeCluster

open OpenZync.Graph OpenZync.Graph.Listings OpenZync.Library

variable {ν : Type}

/-- The `details` of an audit entry. -/
structure MergeDetails (ν : Type) where
  action : Text
  before : List (Item ν)
  canonicalId : Json ν
  canonicalName : Json ν
  mergedIds : List (Json ν)
  mergedNames : List (Json ν)
  clusterSize : Nat
  relationshipsRewired : Nat

/-- A row of `audit_logs`, without an address. -/
structure AuditEntry (ν : Type) where
  organizationId : Uuid
  actorId : Text
  actorType : Text
  action : Text
  resourceType : Text
  resourceId : Text
  details : MergeDetails ν

structure MergeState (ν : Type) where
  graph : EntityGraph
  auditLogs : List (AuditEntry ν)

/-- Why a cluster fails. -/
inductive ClusterFailure where
  | indexError
  | keyError (key : Text)
  /-- `ValueError`: `badly formed hexadecimal UUID string` -/
  | badlyFormedUuid
  | backend (failure : MergeFailure)
  | auditFailed

/-- What becomes of the queries of the backend and of the insert of the entry. -/
structure ClusterFate where
  backend : BackendFate
  insert : Attempt.Fate

/-- `entity[key]` -/
def lookUp (entity : Item ν) (key : Text) : Except ClusterFailure (Json ν) :=
  match memberOf entity key with
  | none => .error (.keyError key)
  | some value => .ok value

/-- `entity["id"]`, which is a text. -/
def idText (entity : Item ν) : Except ClusterFailure Text := do
  match ← lookUp entity "id".toList with
  | .string text => .ok text
  | _ => .error .badlyFormedUuid

/-- `uuid.UUID(text)` -/
def toUuid (text : Text) : Except ClusterFailure Uuid :=
  match Text.readUuid text with
  | none => .error .badlyFormedUuid
  | some uuid => .ok uuid

/-- `_sort_key` -/
def sortKey (entity : Item ν) : Text :=
  match memberOf entity "created_at".toList with
  | some (.string text) => text
  | _ => []

/-- `_select_canonical`; a sort in reverse keeps the order of equal keys. -/
def selectCanonical (cluster : List (Item ν)) : Except ClusterFailure (Item ν) :=
  match cluster with
  | [entity] => .ok entity
  | _ =>
      match (cluster.mergeSort fun first second =>
        decide (sortKey second ≤ sortKey first)).head? with
      | none => .error .indexError
      | some canonical => .ok canonical

/-- The canonical entity and the others, each with its identifier. -/
structure MergePlan (ν : Type) where
  canonical : Item ν
  canonicalText : Text
  canonicalId : Uuid
  duplicates : List (Item ν)
  mergedIds : List Uuid

/-- The arguments of the merge. -/
def mergePlan (cluster : List (Item ν)) : Except ClusterFailure (MergePlan ν) := do
  let canonical ← selectCanonical cluster
  let canonicalText ← idText canonical
  let texts ← cluster.mapM idText
  let duplicates := (cluster.zip texts).filter fun entity => decide (entity.2 ≠ canonicalText)
  let canonicalId ← toUuid canonicalText
  let mergedIds ← duplicates.mapM fun duplicate => toUuid duplicate.2
  .ok
    { canonical := canonical
      canonicalText := canonicalText
      canonicalId := canonicalId
      duplicates := duplicates.map Prod.fst
      mergedIds := mergedIds }

/-- An entity of `before_snapshot`. -/
def snapshot (entity : Item ν) : Except ClusterFailure (Item ν) := do
  let id ← lookUp entity "id".toList
  let name ← lookUp entity "name".toList
  let entityType ← lookUp entity "entity_type".toList
  .ok [("id".toList, id), ("name".toList, name), ("entity_type".toList, entityType)]

/-- `before_snapshot` and `after_snapshot` with the counts of the merge. -/
def mergeDetails (cluster : List (Item ν)) (plan : MergePlan ν) (result : MergeResult) :
    Except ClusterFailure (MergeDetails ν) := do
  let before ← cluster.mapM snapshot
  let canonicalId ← lookUp plan.canonical "id".toList
  let canonicalName ← lookUp plan.canonical "name".toList
  let mergedIds ← plan.duplicates.mapM fun entity => lookUp entity "id".toList
  let mergedNames ← plan.duplicates.mapM fun entity => lookUp entity "name".toList
  .ok
    { action := "merge_duplicate_entities".toList
      before := before
      canonicalId := canonicalId
      canonicalName := canonicalName
      mergedIds := mergedIds
      mergedNames := mergedNames
      clusterSize := cluster.length
      relationshipsRewired := result.rewiredCount + result.deletedCount }

/-- The entry of `log_action`, which takes `system` for an actor. -/
def auditEntry (orgId : Uuid) (plan : MergePlan ν) (details : MergeDetails ν) : AuditEntry ν :=
  { organizationId := orgId
    actorId := "system".toList
    actorType := "system".toList
    action := "entity.merge".toList
    resourceType := "graph_entities".toList
    resourceId := plan.canonicalText
    details := details }

/-- `_merge_cluster` -/
def mergeCluster (fate : ClusterFate) (orgId : Uuid) (cluster : List (Item ν)) :
    Attempt (MergeState ν) ClusterFailure (Nat × Nat) :=
  if cluster.length < 2 then pure (0, 0)
  else do
    let plan ← Attempt.ofExcept (mergePlan cluster)
    let result ← (mergeQueries fate.backend plan.canonicalId plan.mergedIds).within
      MergeState.graph (fun state graph => { state with graph := graph }) .backend
    let details ← Attempt.ofExcept (mergeDetails cluster plan result)
    Attempt.remote fate.insert .auditFailed fun state =>
      { state with auditLogs := state.auditLogs ++ [auditEntry orgId plan details] }
    pure (result.mergedCount, result.rewiredCount + result.deletedCount)

end OpenZync.Workers.MergeCluster
