import Mathlib.Data.List.Basic
import OpenZync.Memory.EpisodeFanOut
import OpenZync.Workers.StampingWorkers

/-!
# The enrichment reconciler

Every five minutes the reconciler selects episodes that were left alone for half
an hour and lack a bit, and enqueues the tasks of the bits they lack.  The
selection tests the bits of the combined task and the bit of the embedding; the
table of tasks has the bit of the entity links besides.
-/

namespace OpenZync.Workers

open OpenZync.Library OpenZync.Memory

/-- `RECONCILE_BATCH_SIZE` -/
def reconcileBatchSize : Nat := 100

/-- `STALE_AFTER_MINUTES` -/
def staleAfter : Time := 30 * 60 * 1000000

/-- `BACKLOG_SKIP_THRESHOLD` -/
def backlogSkipThreshold : Nat := 1000

inductive QueueLabel where
  | high
  | low
deriving DecidableEq

/-- The task, the names of its arguments and the queue of an entry of the maps. -/
structure TaskDetails where
  task : EpisodeTask
  fields : List String
  queue : QueueLabel

/-- `_LLM_TASK_DETAILS` -/
def llmTaskDetails : TaskDetails :=
  { task := .enrichEpisode
    fields := ["episode_id", "org_id", "project_id", "session_id", "trace_id", "role"]
    queue := .high }

/-- `_NON_LLM_TASK_MAP` -/
def nonLlmTaskMap : List (EnrichmentStatus × TaskDetails) :=
  [(enrichmentEmbedding,
      { task := .embedEpisode
        fields := ["episode_id", "org_id", "project_id", "trace_id"]
        queue := .high }),
    (enrichmentEntityLinks,
      { task := .linkEntitiesToEpisode
        fields := ["episode_id", "org_id", "project_id", "role", "trace_id"]
        queue := .low })]

/-- What the reconciler reads of an episode. -/
structure EpisodeState where
  id : Uuid
  organizationId : Uuid
  projectId : Uuid
  sessionId : Uuid
  enrichmentStatus : EnrichmentStatus
  isDeleted : Bool
  updatedAt : Time
deriving DecidableEq

structure ReconcilerTables where
  episodes : List EpisodeState
  archivedProjects : List Uuid

/-- A call of `enqueue_job`. -/
structure ReconcileJob where
  task : EpisodeTask
  kwargs : List (String × Text)
  queue : QueueLabel
deriving DecidableEq

/-- The conditions of the query besides the bits. -/
def liveAndStale (tables : ReconcilerTables) (cutoff : Time) (episode : EpisodeState) : Bool :=
  !episode.isDeleted && decide (episode.updatedAt < cutoff) &&
    !tables.archivedProjects.contains episode.projectId

/-- The conditions of the query. -/
def selectable (tables : ReconcilerTables) (cutoff : Time) (episode : EpisodeState) : Bool :=
  (decide (episode.enrichmentStatus &&& llmEnrichmentBits ≠ llmEnrichmentBits) ||
    decide (episode.enrichmentStatus &&& enrichmentEmbedding = 0#32)) &&
  liveAndStale tables cutoff episode

/-- The query of the stale episodes; rows of one instant come in the order of the
table. -/
def staleEpisodes (tables : ReconcilerTables) (cutoff : Time) : List EpisodeState :=
  ((tables.episodes.filter (selectable tables cutoff)).mergeSort
    fun first second => decide (first.updatedAt ≤ second.updatedAt)).take reconcileBatchSize

/-- `base_kwargs` -/
def baseKwargs (episode : EpisodeState) : List (String × Text) :=
  [("episode_id", Text.ofUuid episode.id), ("org_id", Text.ofUuid episode.organizationId),
    ("project_id", Text.ofUuid episode.projectId), ("session_id", Text.ofUuid episode.sessionId),
    ("trace_id", "reconcile_".toList ++ (Text.ofUuid episode.id).take 8)]

/-- The job of an entry, with the role of a user where it asks for one. -/
def reconcileJob (episode : EpisodeState) (details : TaskDetails) : ReconcileJob :=
  let kwargs := (baseKwargs episode).filter fun argument => details.fields.contains argument.1
  { task := details.task
    kwargs :=
      if details.fields.contains "role" && !kwargs.any (fun argument => argument.1 == "role") then
        kwargs ++ [("role", "user".toList)]
      else kwargs
    queue := details.queue }

/-- The round of the loop for one episode. -/
def missingJobs (episode : EpisodeState) : List ReconcileJob :=
  (if episode.enrichmentStatus &&& llmEnrichmentBits ≠ llmEnrichmentBits then
    [reconcileJob episode llmTaskDetails] else []) ++
  nonLlmTaskMap.flatMap fun entry =>
    if episode.enrichmentStatus &&& entry.1 ≠ 0#32 then [] else [reconcileJob episode entry.2]

inductive ReconcileResult where
  /-- The high-priority queue has more than the threshold. -/
  | skipped (highDepth : Nat)
  | nothingStale
  | reEnqueued (tasks episodes : Nat)
deriving DecidableEq

/-- The episode pass of `reconcile_enrichment`: its calls of `enqueue_job`, of which
those that raise are logged and not counted. -/
def reconcileEnrichment (highDepth : Nat) (accepts : ReconcileJob → Bool)
    (tables : ReconcilerTables) (now : Time) : List ReconcileJob × ReconcileResult :=
  if backlogSkipThreshold < highDepth then ([], .skipped highDepth)
  else
    let stale := staleEpisodes tables (now - staleAfter)
    let jobs := stale.flatMap missingJobs
    (jobs, if stale = [] then .nothingStale else .reEnqueued (jobs.countP accepts) stale.length)

/-- The bits of a task. -/
def taskBits : EpisodeTask → EnrichmentStatus
  | .enrichEpisode => llmEnrichmentBits
  | .embedEpisode => enrichmentEmbedding
  | .linkEntitiesToEpisode => enrichmentEntityLinks

/-- The episode lacks a bit of the task. -/
def Lacks (episode : EpisodeState) (task : EpisodeTask) : Prop :=
  ¬ Covers episode.enrichmentStatus (taskBits task)

instance (episode : EpisodeState) (task : EpisodeTask) : Decidable (Lacks episode task) :=
  inferInstanceAs (Decidable (¬ _))

/-- The live stale episodes of projects that are not archived which lack the bit of a
task. -/
def needyEpisodes (tables : ReconcilerTables) (cutoff : Time) : List EpisodeState :=
  tables.episodes.filter fun episode =>
    decide (∃ task ∈ episodeTasks, Lacks episode task) && liveAndStale tables cutoff episode

/-- While they fit into a batch, every episode that lacks a bit is selected, and the
tasks enqueued for an episode are those whose bits it lacks. -/
def ReconciledCompletely (tables : ReconcilerTables) (cutoff : Time) : Prop :=
  ((needyEpisodes tables cutoff).length < reconcileBatchSize →
    ∀ episode ∈ needyEpisodes tables cutoff, episode ∈ staleEpisodes tables cutoff) ∧
  ∀ episode ∈ staleEpisodes tables cutoff,
    (missingJobs episode).map ReconcileJob.task =
      episodeTasks.filter fun task => decide (Lacks episode task)

theorem singleBit_embedding : SingleBit enrichmentEmbedding :=
  ⟨1, by omega, by decide⟩

theorem singleBit_entityLinks : SingleBit enrichmentEntityLinks :=
  ⟨3, by omega, by decide⟩

theorem entryJobs_tasks {bit : EnrichmentStatus} (single : SingleBit bit)
    (episode : EpisodeState) (details : TaskDetails) :
    (if episode.enrichmentStatus &&& bit ≠ 0#32 then [] else
        [reconcileJob episode details]).map ReconcileJob.task =
      if ¬ Covers episode.enrichmentStatus bit then [details.task] else [] := by
  by_cases missing : episode.enrichmentStatus &&& bit = 0#32
  · rw [if_neg (not_not.mpr missing), if_pos (single.and_eq_zero_iff.mp missing)]
    rfl
  · rw [if_pos missing, if_neg (fun absent => missing (single.and_eq_zero_iff.mpr absent))]
    rfl

theorem missingJobs_tasks (episode : EpisodeState) :
    (missingJobs episode).map ReconcileJob.task =
      episodeTasks.filter fun task => decide (Lacks episode task) := by
  have combined : (if episode.enrichmentStatus &&& llmEnrichmentBits ≠ llmEnrichmentBits then
      [reconcileJob episode llmTaskDetails] else []).map ReconcileJob.task =
        if Lacks episode .enrichEpisode then [.enrichEpisode] else [] := by
    rw [apply_ite (List.map ReconcileJob.task)]
    rfl
  have filtered : (episodeTasks.filter fun task => decide (Lacks episode task)) =
      (if Lacks episode .enrichEpisode then [.enrichEpisode] else []) ++
        ((if Lacks episode .embedEpisode then [.embedEpisode] else []) ++
          if Lacks episode .linkEntitiesToEpisode then [.linkEntitiesToEpisode] else []) := by
    by_cases first : Lacks episode .enrichEpisode <;>
      by_cases second : Lacks episode .embedEpisode <;>
        by_cases third : Lacks episode .linkEntitiesToEpisode <;>
          simp [episodeTasks, first, second, third]
  rw [missingJobs, List.map_append, combined, nonLlmTaskMap, List.flatMap_cons,
    List.flatMap_singleton, List.map_append, entryJobs_tasks singleBit_embedding,
    entryJobs_tasks singleBit_entityLinks, filtered]
  rfl

/-- An episode that lacks no more than the entity links is not selected. -/
def OnlyLinksMissing (episode : EpisodeState) : Prop :=
  Lacks episode .linkEntitiesToEpisode ∧ ¬ Lacks episode .enrichEpisode ∧
    ¬ Lacks episode .embedEpisode

instance (episode : EpisodeState) : Decidable (OnlyLinksMissing episode) :=
  inferInstanceAs (Decidable (_ ∧ _))

theorem selectable_iff {tables : ReconcilerTables} {cutoff : Time} {episode : EpisodeState} :
    selectable tables cutoff episode = true ↔
      (Lacks episode .enrichEpisode ∨ Lacks episode .embedEpisode) ∧
        liveAndStale tables cutoff episode = true := by
  rw [selectable, Bool.and_eq_true, Bool.or_eq_true, decide_eq_true_eq, decide_eq_true_eq,
    singleBit_embedding.and_eq_zero_iff]
  rfl

theorem mem_needyEpisodes {tables : ReconcilerTables} {cutoff : Time} {episode : EpisodeState} :
    episode ∈ needyEpisodes tables cutoff ↔
      episode ∈ tables.episodes ∧ (∃ task, Lacks episode task) ∧
        liveAndStale tables cutoff episode = true := by
  have every (task : EpisodeTask) : task ∈ episodeTasks := by
    cases task <;> simp [episodeTasks]
  simp [needyEpisodes, every]

theorem mem_staleEpisodes {tables : ReconcilerTables} {cutoff : Time}
    (fits : (needyEpisodes tables cutoff).length < reconcileBatchSize) {episode : EpisodeState} :
    episode ∈ staleEpisodes tables cutoff ↔
      episode ∈ tables.episodes ∧ selectable tables cutoff episode = true := by
  have needy : List.Sublist (tables.episodes.filter (selectable tables cutoff))
      (needyEpisodes tables cutoff) := by
    apply List.monotone_filter_right
    intro row selected
    obtain ⟨lacking, live⟩ := selectable_iff.mp selected
    rw [Bool.and_eq_true, decide_eq_true_eq]
    refine ⟨?_, live⟩
    rcases lacking with combined | embedding
    · exact ⟨.enrichEpisode, by simp [episodeTasks], combined⟩
    · exact ⟨.embedEpisode, by simp [episodeTasks], embedding⟩
  have length : (tables.episodes.filter (selectable tables cutoff)).length ≤ reconcileBatchSize :=
    needy.length_le.trans fits.le
  rw [staleEpisodes, List.take_of_length_le (by rwa [List.length_mergeSort]), List.mem_mergeSort,
    List.mem_filter]

theorem selectable_of_needy {tables : ReconcilerTables} {cutoff : Time} {episode : EpisodeState}
    (needy : episode ∈ needyEpisodes tables cutoff) :
    selectable tables cutoff episode = true ↔ ¬ OnlyLinksMissing episode := by
  obtain ⟨_, ⟨task, lacking⟩, live⟩ := mem_needyEpisodes.mp needy
  rw [selectable_iff]
  constructor
  · rintro ⟨combined | embedding, _⟩ onlyLinks
    · exact onlyLinks.2.1 combined
    · exact onlyLinks.2.2 embedding
  · intro more
    refine ⟨?_, live⟩
    cases task with
    | enrichEpisode => exact .inl lacking
    | embedEpisode => exact .inr lacking
    | linkEntitiesToEpisode =>
        by_contra nothingElse
        rw [not_or] at nothingElse
        exact more ⟨lacking, nothingElse⟩

/-- The reconciler is complete exactly when no live stale episode lacks the entity
links alone, or there are too many for a batch. -/
theorem reconciledCompletely_iff (tables : ReconcilerTables) (cutoff : Time) :
    ReconciledCompletely tables cutoff ↔
      ((needyEpisodes tables cutoff).length < reconcileBatchSize →
        ∀ episode ∈ needyEpisodes tables cutoff, ¬ OnlyLinksMissing episode) := by
  constructor
  · rintro ⟨complete, _⟩ fits episode needy
    exact (selectable_of_needy needy).mp
      ((mem_staleEpisodes fits).mp (complete fits episode needy)).2
  · intro condition
    refine ⟨?_, fun episode _ => missingJobs_tasks episode⟩
    intro fits episode needy
    exact (mem_staleEpisodes fits).mpr
      ⟨(mem_needyEpisodes.mp needy).1,
        (selectable_of_needy needy).mpr (condition fits episode needy)⟩

/-- An episode whose entity links were never made. -/
def unlinkedEpisode : EpisodeState :=
  { id := 1
    organizationId := 2
    projectId := 3
    sessionId := 4
    enrichmentStatus := llmEnrichmentBits ||| enrichmentEmbedding
    isDeleted := false
    updatedAt := 0 }

/-- It is not selected, an hour later. -/
theorem unlinkedEpisode_forgotten :
    ¬ ReconciledCompletely ⟨[unlinkedEpisode], []⟩ (60 * 60 * 1000000) := by
  rintro ⟨complete, _⟩
  have fits : (needyEpisodes ⟨[unlinkedEpisode], []⟩ (60 * 60 * 1000000)).length <
      reconcileBatchSize := by
    decide
  have selected := (mem_staleEpisodes fits).mp (complete fits unlinkedEpisode (by decide))
  exact absurd selected.2 (by decide)

end OpenZync.Workers
