import OpenZync.Library.Execution
import OpenZync.Workers.MergeCluster

/-!
# Merges without an audit entry

The dictionaries of the FalkorDB backend have no `entity_type`, so the audit
entry of a merge is never made.  A cluster in their shape leaves the graph
changed exactly if its merge gets as far as its first write.
-/

namespace OpenZync.Workers.MergeCluster

open OpenZync.Graph OpenZync.Graph.Listings OpenZync.Library

variable {ν : Type}

/-- The most recently created row, the first of them. -/
def canonicalRow (rows : List (FalkorDB.EntityRow ν)) : Option (FalkorDB.EntityRow ν) :=
  (rows.mergeSort fun first second =>
    decide (second.createdAt.getD [] ≤ first.createdAt.getD [])).head?

/-- The rows other than the canonical one. -/
def duplicateRows (rows : List (FalkorDB.EntityRow ν)) (canonical : FalkorDB.EntityRow ν) :
    List (FalkorDB.EntityRow ν) :=
  rows.filter fun row => decide (row.id ≠ canonical.id)

/-- The merge of a cluster of rows writes to the graph. -/
def ClusterWrites (backend : BackendFate) (graph : EntityGraph)
    (rows : List (FalkorDB.EntityRow ν)) : Prop :=
  2 ≤ rows.length ∧ ∃ canonical ∈ canonicalRow rows,
    MergeWrites backend canonical.id
      ((duplicateRows rows canonical).map FalkorDB.EntityRow.id) graph

/-- The graph is changed only if an audit entry is written. -/
def AuditedMerge (fate : ClusterFate) (orgId : Uuid) (cluster : List (Item ν))
    (state : MergeState ν) : Prop :=
  (mergeCluster fate orgId cluster state).1.graph ≠ state.graph →
    ∃ entry, (mergeCluster fate orgId cluster state).1.auditLogs = state.auditLogs ++ [entry]

variable {rows : List (FalkorDB.EntityRow ν)} {canonical : FalkorDB.EntityRow ν}

theorem sortKey_listedEntity (row : FalkorDB.EntityRow ν) :
    sortKey (FalkorDB.listedEntity row) = row.createdAt.getD [] := by
  have stored : memberOf (FalkorDB.listedEntity row) "created_at".toList =
      some (FalkorDB.textOrNone row.createdAt) := rfl
  rw [sortKey, stored]
  rcases row.createdAt with _ | _ | ⟨c, text⟩
  · rfl
  · rfl
  · rfl

theorem idText_listedEntity (row : FalkorDB.EntityRow ν) :
    idText (FalkorDB.listedEntity row) = .ok (Text.ofUuid row.id) :=
  rfl

theorem toUuid_ofUuid (row : FalkorDB.EntityRow ν) :
    toUuid (Text.ofUuid row.id) = .ok row.id := by
  rw [toUuid, Repositories.readUuid_ofUuid row.idBound]

theorem snapshot_listedEntity (row : FalkorDB.EntityRow ν) :
    snapshot (FalkorDB.listedEntity row) = .error (.keyError "entity_type".toList) :=
  rfl

theorem selectCanonical_listedEntity (several : 2 ≤ rows.length) :
    ∃ canonical ∈ canonicalRow rows, selectCanonical (rows.map FalkorDB.listedEntity) =
      .ok (FalkorDB.listedEntity canonical) := by
  have sorted : ((rows.map FalkorDB.listedEntity).mergeSort fun first second =>
      decide (sortKey second ≤ sortKey first)).head? =
        (canonicalRow rows).map FalkorDB.listedEntity := by
    rw [canonicalRow, ← List.head?_map, List.map_mergeSort]
    intro first _ second _
    rw [sortKey_listedEntity, sortKey_listedEntity]
  have nonempty : (rows.mergeSort fun first second =>
      decide (second.createdAt.getD [] ≤ first.createdAt.getD [])).length ≠ 0 := by
    rw [List.length_mergeSort]
    omega
  obtain ⟨canonical, selected⟩ : ∃ canonical, canonicalRow rows = some canonical :=
    Option.ne_none_iff_exists'.mp
      (mt List.head?_eq_none_iff.mp (mt List.length_eq_zero_iff.mpr nonempty))
  refine ⟨canonical, selected, ?_⟩
  rw [selected] at sorted
  unfold selectCanonical
  split
  · rename_i entity single
    have length := congrArg List.length single
    rw [List.length_map, List.length_singleton] at length
    omega
  · rw [sorted]
    rfl

theorem mergePlan_listedEntity (several : 2 ≤ rows.length) :
    ∃ canonical ∈ canonicalRow rows, ∃ plan,
      mergePlan (rows.map FalkorDB.listedEntity) = .ok plan ∧
      plan.canonicalId = canonical.id ∧
      plan.mergedIds = (duplicateRows rows canonical).map FalkorDB.EntityRow.id := by
  obtain ⟨canonical, first, selected⟩ := selectCanonical_listedEntity several
  have texts : (rows.map FalkorDB.listedEntity).mapM idText =
      .ok (rows.map fun row => Text.ofUuid row.id) := by
    rw [List.mapM_map]
    exact mapM_eq_ok fun row _ => idText_listedEntity row
  have duplicates : (((rows.map FalkorDB.listedEntity).zip
      (rows.map fun row => Text.ofUuid row.id)).filter fun entity =>
        decide (entity.2 ≠ Text.ofUuid canonical.id)) =
      (duplicateRows rows canonical).map fun row =>
        (FalkorDB.listedEntity row, Text.ofUuid row.id) := by
    rw [List.zip_map', List.filter_map, duplicateRows]
    congr 1
    apply List.filter_congr
    intro row _
    apply decide_eq_decide.mpr
    rw [not_iff_not]
    exact ⟨Text.ofUuid_inj row.idBound canonical.idBound, congrArg Text.ofUuid⟩
  have merged : ((duplicateRows rows canonical).map fun row =>
      (FalkorDB.listedEntity row, Text.ofUuid row.id)).mapM
        (fun duplicate => toUuid duplicate.2) =
      .ok ((duplicateRows rows canonical).map FalkorDB.EntityRow.id) := by
    rw [List.mapM_map]
    apply mapM_eq_ok
    intro row _
    rw [Function.comp_apply]
    exact toUuid_ofUuid row
  refine ⟨canonical, first,
    { canonical := FalkorDB.listedEntity canonical
      canonicalText := Text.ofUuid canonical.id
      canonicalId := canonical.id
      duplicates := ((duplicateRows rows canonical).map fun row =>
        (FalkorDB.listedEntity row, Text.ofUuid row.id)).map Prod.fst
      mergedIds := (duplicateRows rows canonical).map FalkorDB.EntityRow.id }, ?_, rfl, rfl⟩
  apply bind_eq_ok.mpr
  refine ⟨_, selected, bind_eq_ok.mpr ⟨_, idText_listedEntity canonical, ?_⟩⟩
  apply bind_eq_ok.mpr
  refine ⟨_, texts, ?_⟩
  dsimp only
  rw [duplicates]
  exact bind_eq_ok.mpr ⟨_, toUuid_ofUuid canonical, bind_eq_ok.mpr ⟨_, merged, rfl⟩⟩

/-- The entry is not made. -/
theorem mergeDetails_listedEntity (several : 2 ≤ rows.length) (plan : MergePlan ν)
    (result : MergeResult) :
    mergeDetails (rows.map FalkorDB.listedEntity) plan result =
      .error (.keyError "entity_type".toList) := by
  cases rows with
  | nil => cases several
  | cons row rows =>
      unfold mergeDetails
      rw [List.map_cons, List.mapM_cons, snapshot_listedEntity]
      rfl

/-- The graph is changed if the merge writes, and there is no new entry. -/
def Unaudited (backend : BackendFate) (rows : List (FalkorDB.EntityRow ν))
    (before after : MergeState ν) : Prop :=
  after.auditLogs = before.auditLogs ∧
    (after.graph ≠ before.graph ↔ ClusterWrites backend before.graph rows)

theorem mergeStep_meets {backend : BackendFate} {before : MergeState ν} {plan : MergePlan ν}
    (outside : plan.canonicalId ∉ plan.mergedIds)
    (writes : ClusterWrites backend before.graph rows ↔
      MergeWrites backend plan.canonicalId plan.mergedIds before.graph) :
    Attempt.Meets (fun state => state = before)
      ((mergeQueries backend plan.canonicalId plan.mergedIds).within
        MergeState.graph (fun state graph => { state with graph := graph })
        ClusterFailure.backend)
      (fun _ => Unaudited backend rows before) (fun _ => Unaudited backend rows before) := by
  have meets : Attempt.Meets (fun after => after = before.graph)
      (mergeQueries backend plan.canonicalId plan.mergedIds)
      (fun _ => ChangedAsWritten backend plan.canonicalId plan.mergedIds before.graph)
      (fun _ => ChangedAsWritten backend plan.canonicalId plan.mergedIds before.graph) :=
    mergeQueries_meets outside
  apply meets.within
  · rintro _ rfl
    rfl
  · rintro _ graph _ rfl changed
    exact ⟨rfl, changed.trans writes.symm⟩
  · rintro _ graph _ rfl changed
    exact ⟨rfl, changed.trans writes.symm⟩

theorem mergeCluster_meets (fate : ClusterFate) (orgId : Uuid)
    (rows : List (FalkorDB.EntityRow ν)) (before : MergeState ν) :
    Attempt.Meets (fun state => state = before)
      (mergeCluster fate orgId (rows.map FalkorDB.listedEntity))
      (fun _ => Unaudited fate.backend rows before)
      (fun _ => Unaudited fate.backend rows before) := by
  apply Attempt.meets_ite
  · intro few
    apply Attempt.meets_pure
    rintro _ rfl
    rw [List.length_map] at few
    refine ⟨rfl, iff_of_false (not_not.mpr rfl) ?_⟩
    rintro ⟨several, _⟩
    omega
  intro many
  have several : 2 ≤ rows.length := by
    rw [List.length_map] at many
    omega
  obtain ⟨canonical, first, plan, planned, canonicalId, mergedIds⟩ :=
    mergePlan_listedEntity several
  have outside : plan.canonicalId ∉ plan.mergedIds := by
    rw [canonicalId, mergedIds]
    intro member
    obtain ⟨row, duplicate, same⟩ := List.mem_map.mp member
    exact of_decide_eq_true (List.mem_filter.mp duplicate).2 same
  have writes : ClusterWrites fate.backend before.graph rows ↔
      MergeWrites fate.backend plan.canonicalId plan.mergedIds before.graph := by
    rw [canonicalId, mergedIds]
    constructor
    · rintro ⟨_, other, found, writes⟩
      obtain rfl := Option.some.inj (Eq.trans (Eq.symm first) found)
      exact writes
    · intro writes
      exact ⟨several, canonical, first, writes⟩
  apply Attempt.meets_ofExcept
  · intro known found
    obtain rfl := Except.ok.inj (planned.symm.trans found)
    apply (mergeStep_meets outside writes).bind
    intro result
    rw [mergeDetails_listedEntity several]
    apply Attempt.meets_ofExcept
    · intro details made
      cases made
    · intro failure _ state done
      exact done
  · intro failure failed
    rw [planned] at failed
    cases failed

theorem mergeCluster_unaudited (fate : ClusterFate) (orgId : Uuid)
    (rows : List (FalkorDB.EntityRow ν)) (state : MergeState ν) :
    Unaudited fate.backend rows state
      (mergeCluster fate orgId (rows.map FalkorDB.listedEntity) state).1 := by
  have meets := mergeCluster_meets fate orgId rows state state rfl
  split at meets
  · rename_i after counts ran
    rw [ran]
    exact meets
  · rename_i after failure ran
    rw [ran]
    exact meets

theorem not_auditedMerge {fate : ClusterFate} {orgId : Uuid} {state : MergeState ν}
    (writes : ClusterWrites fate.backend state.graph rows) :
    ¬ AuditedMerge fate orgId (rows.map FalkorDB.listedEntity) state := by
  obtain ⟨sameLogs, changed⟩ := mergeCluster_unaudited fate orgId rows state
  intro audited
  obtain ⟨entry, longer⟩ := audited (changed.mpr writes)
  rw [sameLogs] at longer
  simpa using congrArg List.length longer

/-- A cluster in the shape of the backend is audited exactly when its merge writes
nothing. -/
theorem auditedMerge_iff (fate : ClusterFate) (orgId : Uuid)
    (rows : List (FalkorDB.EntityRow ν)) (state : MergeState ν) :
    AuditedMerge fate orgId (rows.map FalkorDB.listedEntity) state ↔
      ¬ ClusterWrites fate.backend state.graph rows := by
  constructor
  · intro audited writes
    exact not_auditedMerge writes audited
  · intro unwritten changed
    exact absurd ((mergeCluster_unaudited fate orgId rows state).2.mp changed) unwritten

/-- An entity of one name. -/
def acme (id : Fin 10) : FalkorDB.EntityRow Unit :=
  { id := id
    name := some "acme".toList
    entityType := some "Company".toList
    summary := none
    attributes := .null
    createdAt := some "2026-01-01".toList
    isMerged := some false
    idBound := FalkorDB.idBound_of_small id }

/-- Two entities in the graph. -/
def twoEntities : MergeState Unit :=
  { graph := ⟨[⟨1, false, none⟩, ⟨2, false, none⟩], []⟩
    auditLogs := [] }

/-- Everything is answered. -/
def allAnswered : ClusterFate :=
  { backend := ⟨true, fun _ => .answered⟩
    insert := .answered }

/-- The second is merged into the first, and no entry is written. -/
theorem twoAcmes_unaudited :
    ¬ AuditedMerge allAnswered 7 ([acme 1, acme 2].map FalkorDB.listedEntity) twoEntities := by
  have sorted : [acme 1, acme 2].mergeSort (fun first second =>
      decide (second.createdAt.getD [] ≤ first.createdAt.getD [])) = [acme 1, acme 2] :=
    List.mergeSort_of_pairwise (by simp [acme])
  have canonical : canonicalRow [acme 1, acme 2] = some (acme 1) := by
    rw [canonicalRow, sorted]
    rfl
  apply not_auditedMerge
  refine ⟨le_refl 2, acme 1, canonical, rfl, ?_, 2, rfl, fun _ _ => rfl, ?_⟩
  · decide
  · decide

end OpenZync.Workers.MergeCluster
