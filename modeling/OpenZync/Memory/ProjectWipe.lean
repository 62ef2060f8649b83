import OpenZync.Facts.SupersessionIngest
import OpenZync.Idempotency
import OpenZync.Memory.IngestTables

/-!
# The wipe of a project

`delete_project_memory` and what may follow it, one transaction after the
other: the ingest of messages behind its idempotency key, its claim in Redis
and its row of `ingest_dedup`, the ingest of facts behind its claim, and the
extraction of facts from an episode.  The wipe marks episodes as deleted and
sets `invalid_at` on facts; sessions, claims and dedup rows stay.
-/

namespace OpenZync.Memory

open OpenZync.Facts

/-- A value in Redis, which lives for 48 hours. -/
structure RedisValue where
  value : Text
  setAt : Time
deriving DecidableEq

structure ProjectMemory where
  facts : FactStore
  episodes : List Episode
  redis : Text → Option RedisValue
  dedup : DedupTable

def getValue (redis : Text → Option RedisValue) (key : Text) (now : Time) : Option Text :=
  ((redis key).filter fun stored => decide (now < stored.setAt + dedupTtl)).map RedisValue.value

/-- `OpenZync:{env}:idempotency:{org_id}:{key}` -/
def idempotencyCacheKey (service : IdempotencyService) (orgId : Uuid) (key : Text) : Text :=
  "OpenZync:".toList ++ service.environment ++ ":idempotency:".toList ++ Text.ofUuid orgId ++
    ':' :: key

/-- One `ingest` of messages.  What redaction, blob storage and commit decide is
`succeeds`. -/
structure MessageIngest where
  /-- The `Idempotency-Key` and the hash of the body. -/
  idempotencyKey : Option (Text × Text)
  sessionFound : Bool
  /-- `model_dump()` of the messages. -/
  dumped : List Dict
  /-- The redacted messages with their scope. -/
  batch : EpisodeBatch
  jobId : Uuid
  succeeds : Bool

/-- One `ingest_facts`. -/
structure FactIngest where
  sessionExternalId : Text
  sessionFound : Bool
  /-- `model_dump()` of the triples. -/
  dumped : List Dict
  call : IngestCall
  collaborators : Collaborators
  jobId : Uuid
  /-- The embedding tasks were queued. -/
  succeeds : Bool
  /-- The commit after the handler succeeds. -/
  commits : Bool

structure Extraction where
  call : IngestCall
  collaborators : Collaborators
  commits : Bool

namespace ProjectMemory

/-- `check_idempotency_key` lets the request through. -/
def isNewKey (service : IdempotencyService) (state : ProjectMemory) (request : MessageIngest) :
    Bool :=
  match request.idempotencyKey with
  | none => true
  | some (key, _) =>
      (getValue state.redis (idempotencyCacheKey service request.batch.organizationId key)
        request.batch.now).isNone

def contentKey (service : IdempotencyService) (request : MessageIngest) : Text :=
  service.cacheKey (Text.ofUuid request.batch.organizationId)
    (Text.ofUuid request.batch.userId) (Text.ofUuid request.batch.sessionId) request.dumped

def dedupKey (service : IdempotencyService) (request : MessageIngest) : DedupKey :=
  { projectId := request.batch.projectId
    sessionId := request.batch.sessionId
    contentHash := service.computeContentHash (Text.ofUuid request.batch.organizationId)
      (Text.ofUuid request.batch.userId) (Text.ofUuid request.batch.sessionId) request.dumped }

def release (state : ProjectMemory) (key : Text) : ProjectMemory :=
  { state with redis := Function.update state.redis key none }

def setValue (state : ProjectMemory) (key value : Text) (now : Time) : ProjectMemory :=
  { state with redis := Function.update state.redis key (some ⟨value, now⟩) }

/-- The response is stored under the key after the commit. -/
def storeIdempotencyKey (service : IdempotencyService) (state : ProjectMemory)
    (request : MessageIngest) : ProjectMemory :=
  match request.idempotencyKey with
  | none => state
  | some (key, bodyHash) =>
      state.setValue (idempotencyCacheKey service request.batch.organizationId key) bodyHash
        request.batch.now

/-- Both claims are won: the rows are inserted, or everything is rolled back and
the claim released. -/
def insertEpisodes (service : IdempotencyService) (state : ProjectMemory)
    (request : MessageIngest) (table : DedupTable) : ProjectMemory :=
  let key := contentKey service request
  let rows := request.batch.rows (nextSequence state.episodes request.batch.sessionId)
  if !request.succeeds || collides state.episodes rows request.batch.sessionId then
    state.release key
  else
    storeIdempotencyKey service
      ({ state with
        episodes := state.episodes ++ rows
        dedup := table }.setValue key (Text.ofUuid request.jobId) request.batch.now)
      request

/-- `ingest`: a key that was used, an unknown session and a lost claim leave
everything as it is. -/
def ingest (service : IdempotencyService) (state : ProjectMemory) (request : MessageIngest) :
    ProjectMemory :=
  if !state.isNewKey service request || !request.sessionFound then state
  else if (getValue state.redis (contentKey service request) request.batch.now).isSome then state
  else
    let claim := insertOrNone state.dedup (dedupKey service request) request.jobId
      request.batch.now
    if claim.2 then state.insertEpisodes service request claim.1
    else { state with dedup := claim.1 }.release (contentKey service request)

def factsKey (service : IdempotencyService) (request : FactIngest) : Text :=
  service.cacheKey (Text.ofUuid request.call.orgId) (Text.ofUuid request.call.userId)
    request.sessionExternalId request.dumped

/-- `ingest_facts`: a failure releases the claim, a failed commit keeps it. -/
def ingestFacts (service : IdempotencyService) (casing : Casing) (state : ProjectMemory)
    (request : FactIngest) : ProjectMemory :=
  let key := factsKey service request
  if request.call.facts = [] then state
  else if (getValue state.redis key request.call.now).isSome then state
  else if !request.sessionFound then state.release key
  else
    match ingestWithSupersession casing request.collaborators state.facts request.call with
    | .error _ => state.release key
    | .ok outcome =>
        if !request.succeeds then state.release key
        else if request.commits then
          { state with facts := outcome.store }.setValue key (Text.ofUuid request.jobId)
            request.call.now
        else state.setValue key (Text.ofUuid request.jobId) request.call.now

/-- The transaction of the extraction worker for one episode. -/
def extractFacts (casing : Casing) (state : ProjectMemory) (extraction : Extraction) :
    ProjectMemory :=
  match ingestWithSupersession casing extraction.collaborators state.facts extraction.call with
  | .error _ => state
  | .ok outcome => if extraction.commits then { state with facts := outcome.store } else state

end ProjectMemory

/-- A request to a project, or the extraction from an episode of one. -/
inductive Ingest where
  | messages (request : MessageIngest)
  | facts (request : FactIngest)
  | extraction (extraction : Extraction)

def ProjectMemory.perform (service : IdempotencyService) (casing : Casing)
    (state : ProjectMemory) : Ingest → ProjectMemory
  | .messages request => state.ingest service request
  | .facts request => state.ingestFacts service casing request
  | .extraction extraction => state.extractFacts casing extraction

/-- The `UPDATE` of `soft_delete_by_project`, on one row. -/
def invalidated (projectId organizationId : Uuid) (now : Time) (fact : Fact) : Fact :=
  if fact.InScope organizationId projectId ∧ fact.invalidAt = none then
    { fact with invalidAt := some now }
  else fact

theorem invalidated_id (projectId organizationId : Uuid) (now : Time) (fact : Fact) :
    (invalidated projectId organizationId now fact).id = fact.id := by
  unfold invalidated
  split <;> rfl

/-- A row that is valid afterwards is the row before. -/
theorem invalidated_eq_self {projectId organizationId : Uuid} {now : Time} {fact : Fact}
    (valid : (invalidated projectId organizationId now fact).invalidAt = none) :
    invalidated projectId organizationId now fact = fact := by
  unfold invalidated at valid ⊢
  split
  · rename_i hit
    rw [if_pos hit] at valid
    cases valid
  · rfl

/-- `FactRepository.soft_delete_by_project` -/
def softDeleteFacts (store : FactStore) (projectId organizationId : Uuid) (now : Time) :
    FactStore :=
  { store with
    facts := store.facts.map (invalidated projectId organizationId now)
    primaryKey := by
      have ids : (store.facts.map (invalidated projectId organizationId now)).map Fact.id =
          store.facts.map Fact.id := by
        rw [List.map_map]
        apply List.map_congr_left
        intro fact _
        exact invalidated_id projectId organizationId now fact
      rw [ids]
      exact store.primaryKey
    fresh := by
      intro fact member
      obtain ⟨original, originalMember, rfl⟩ := List.mem_map.mp member
      rw [invalidated_id]
      exact store.fresh original originalMember
    ranges := by
      intro fact member valid
      obtain ⟨original, originalMember, rfl⟩ := List.mem_map.mp member
      have same := invalidated_eq_self valid
      rw [same] at valid ⊢
      exact store.ranges original originalMember valid
    temporalExcl := by
      rw [List.pairwise_map]
      apply store.temporalExcl.imp
      intro left right apart excluded
      rw [invalidated_eq_self excluded.1, invalidated_eq_self excluded.2.1] at excluded
      exact apart excluded }

/-- `EpisodeRepository.soft_delete_by_project` -/
def softDeleteEpisodes (episodes : List Episode) (projectId organizationId : Uuid) :
    List Episode :=
  episodes.map fun episode =>
    if episode.projectId = projectId ∧ episode.organizationId = organizationId ∧
        episode.isDeleted = false then
      { episode with isDeleted := true }
    else episode

inductive WipeError where
  /-- `confirm` is not the project. -/
  | validation
  | notFound
deriving DecidableEq

/-- `delete_project_memory`, up to its commit. -/
def deleteProjectMemory (projectId organizationId : Uuid) (confirm : Text)
    (projectFound : Bool) (now : Time) (state : ProjectMemory) :
    Except WipeError ProjectMemory :=
  if confirm ≠ Text.ofUuid projectId then .error .validation
  else if !projectFound then .error .notFound
  else
    .ok
      { state with
        episodes := softDeleteEpisodes state.episodes projectId organizationId
        facts := softDeleteFacts state.facts projectId organizationId now }

/-- The facts of the project that are effective at an instant. -/
def ProjectMemory.activeFacts (state : ProjectMemory) (projectId organizationId : Uuid)
    (instant : Time) : List Fact :=
  state.facts.facts.filter fun fact =>
    decide (fact.InScope organizationId projectId) && decide (fact.EffectiveAt instant)

def ProjectMemory.liveEpisodes (state : ProjectMemory) (projectId organizationId : Uuid) :
    List Episode :=
  state.episodes.filter fun episode =>
    decide (episode.projectId = projectId) && decide (episode.organizationId = organizationId) &&
      !episode.isDeleted

/-- The same tables where the project has no history, drawing the same
identifiers. -/
def ProjectMemory.withoutHistory (state : ProjectMemory) (projectId organizationId : Uuid) :
    ProjectMemory :=
  { facts :=
      { state.facts with
        facts := state.facts.facts.filter fun fact =>
          decide (¬ fact.InScope organizationId projectId)
        events := state.facts.events.filter fun event =>
          decide (¬ (event.organizationId = organizationId ∧ event.projectId = projectId))
        primaryKey := state.facts.primaryKey.sublist (List.filter_sublist.map _)
        fresh := fun fact member => state.facts.fresh fact (List.mem_filter.mp member).1
        ranges := fun fact member => state.facts.ranges fact (List.mem_filter.mp member).1
        temporalExcl := state.facts.temporalExcl.sublist List.filter_sublist }
    episodes := state.episodes.filter fun episode =>
      decide (¬ (episode.projectId = projectId ∧ episode.organizationId = organizationId))
    redis := fun _ => none
    dedup := [] }

end OpenZync.Memory
