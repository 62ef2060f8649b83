import OpenZync.Library.Bitmasks

/-!
# The enrichment task

`enrich_episode` makes one LLM call for an episode and persists its output in
four sections, each under a savepoint of its own, which stamp their bits on
`episodes.enrichment_status`.  An attempt that fails is repeated by
`with_retry`.  What the task cannot decide itself, from the state of the
project to the statements that raise, is the `World` of the attempt.
-/

namespace OpenZync.Workers

open OpenZync.Library

abbrev EnrichmentStatus := BitVec 32

def enrichmentEntities : EnrichmentStatus := 1#32 <<< 0

def enrichmentEmbedding : EnrichmentStatus := 1#32 <<< 1

def enrichmentFacts : EnrichmentStatus := 1#32 <<< 2

def enrichmentClassification : EnrichmentStatus := 1#32 <<< 4

def enrichmentStructuredExtraction : EnrichmentStatus := 1#32 <<< 5

def llmInvalidationBit : EnrichmentStatus := 1#32 <<< 8

/-- What the skip test of the task looks at. -/
def llmBits : EnrichmentStatus :=
  enrichmentEntities ||| enrichmentFacts ||| enrichmentClassification |||
    enrichmentStructuredExtraction ||| llmInvalidationBit

inductive Section where
  | classification
  | entities
  | facts
  | structured
deriving DecidableEq

/-- The bits a section reports once its savepoint is released. -/
def Section.bits : Section → EnrichmentStatus
  | .classification => enrichmentClassification
  | .entities => enrichmentEntities
  | .facts => enrichmentFacts ||| llmInvalidationBit
  | .structured => enrichmentStructuredExtraction

inductive TaskError where
  | episodeNotFound
  | validation
  | graphBackendUnavailable
  /-- Timeouts, pool pressure, database and LLM errors. -/
  | transient
  | partialEnrichment (sections : List Section) (successfulBits : EnrichmentStatus)
deriving DecidableEq

def isRetryable : TaskError → Bool
  | .episodeNotFound => false
  | .validation => false
  | _ => true

structure EpisodeRow where
  enrichmentStatus : EnrichmentStatus
  isDeleted : Bool
deriving DecidableEq

/-- `UPDATE episodes SET enrichment_status = enrichment_status | :bitmask
WHERE is_deleted = false` -/
def EpisodeRow.applyEnrichmentBits (row : EpisodeRow) (bitmask : EnrichmentStatus) :
    EpisodeRow :=
  if row.isDeleted then row
  else { row with enrichmentStatus := row.enrichmentStatus ||| bitmask }

/-- What a helper does around its stamp: everything it persists before, and the
flush after. -/
structure HelperRun where
  persist : Except TaskError Unit
  flush : Except TaskError Unit

/-- The helpers persist their output, stamp their bit whatever the output was,
and flush. -/
def stampAfter (bits : EnrichmentStatus) (run : HelperRun) (row : EpisodeRow) :
    Except TaskError EpisodeRow := do
  run.persist
  let stamped := row.applyEnrichmentBits bits
  run.flush
  return stamped

def processClassificationOutput : HelperRun → EpisodeRow → Except TaskError EpisodeRow :=
  stampAfter enrichmentClassification

def processEntitiesOutput : HelperRun → EpisodeRow → Except TaskError EpisodeRow :=
  stampAfter enrichmentEntities

def processFactsOutput : HelperRun → EpisodeRow → Except TaskError EpisodeRow :=
  stampAfter enrichmentFacts

def processStructuredOutput : HelperRun → EpisodeRow → Except TaskError EpisodeRow :=
  stampAfter enrichmentStructuredExtraction

structure OrgConfig where
  /-- `resolve_graph_backend` gives a backend; `none` or no config gives none. -/
  graphEnabled : Bool
  llmFactInvalidationEnabled : Option Bool
deriving DecidableEq

/-- Everything an attempt meets: what it reads besides the episode, and which of
its steps raise. -/
structure World where
  archived : Bool
  resolveGraphBackend : Except TaskError Unit
  renderPrompt : Except TaskError Unit
  getOrgConfig : Except TaskError Unit
  llmChat : Except TaskError Unit
  /-- `parsed.invalidations` is not empty. -/
  hasInvalidations : Bool
  classification : HelperRun
  entities : HelperRun
  facts : HelperRun
  applyLlmInvalidations : Except TaskError Unit
  stampInvalidation : Except TaskError Unit
  structured : HelperRun
  commit : Except TaskError Unit

/-- The open transaction of an attempt: the row as it sees it, what it keeps for
the report, and the sections whose savepoint it released. -/
structure TaskState where
  row : EpisodeRow
  errors : List Section
  setBits : EnrichmentStatus
  released : List Section

namespace TaskState

/-- `async with db.begin_nested()` inside the `try` of a section. -/
def nested (state : TaskState) (part : Section)
    (body : EpisodeRow → Except TaskError EpisodeRow) : TaskState :=
  match body state.row with
  | .ok row =>
      { row := row
        errors := state.errors
        setBits := state.setBits ||| part.bits
        released := state.released ++ [part] }
  | .error _ => { state with errors := state.errors ++ [part] }

/-- The section was done by an earlier attempt. -/
def alreadySet (state : TaskState) (bits : EnrichmentStatus) : TaskState :=
  { state with setBits := state.setBits ||| bits }

end TaskState

/-- `status` is the status read under the row lock, before any section. -/
def classificationSection (world : World) (status : EnrichmentStatus)
    (state : TaskState) : TaskState :=
  if status &&& enrichmentClassification = 0#32 then
    state.nested .classification (processClassificationOutput world.classification)
  else state.alreadySet enrichmentClassification

/-- Without a graph backend the section only logs. -/
def entitiesSection (config : OrgConfig) (world : World) (status : EnrichmentStatus)
    (state : TaskState) : TaskState :=
  if status &&& enrichmentEntities = 0#32 then
    state.nested .entities fun row =>
      if config.graphEnabled then processEntitiesOutput world.entities row
      else .ok row
  else state.alreadySet enrichmentEntities

/-- The facts, the invalidations they depend on and both bits share a savepoint. -/
def factsBody (config : OrgConfig) (world : World) (row : EpisodeRow) :
    Except TaskError EpisodeRow := do
  let row ← processFactsOutput world.facts row
  if config.llmFactInvalidationEnabled ≠ some false ∧ world.hasInvalidations = true then
    world.applyLlmInvalidations
  return row.applyEnrichmentBits llmInvalidationBit

/-- An episode that carries bit 2 but not bit 8 is marked assessed, outside any
savepoint. -/
def factsSection (config : OrgConfig) (world : World) (status : EnrichmentStatus)
    (state : TaskState) : Except TaskError TaskState :=
  if status &&& enrichmentFacts = 0#32 then
    .ok (state.nested .facts (factsBody config world))
  else if status &&& llmInvalidationBit = 0#32 then do
    world.stampInvalidation
    return { state with
      row := state.row.applyEnrichmentBits llmInvalidationBit
      setBits := state.setBits ||| enrichmentFacts ||| llmInvalidationBit }
  else .ok (state.alreadySet enrichmentFacts)

def structuredSection (world : World) (status : EnrichmentStatus)
    (state : TaskState) : TaskState :=
  if status &&& enrichmentStructuredExtraction = 0#32 then
    state.nested .structured (processStructuredOutput world.structured)
  else state.alreadySet enrichmentStructuredExtraction

def runSections (config : OrgConfig) (world : World) (row : EpisodeRow) :
    Except TaskError TaskState := do
  let status := row.enrichmentStatus
  let state : TaskState :=
    { row := row
      errors := []
      setBits := 0#32
      released := [] }
  let state := classificationSection world status state
  let state := entitiesSection config world status state
  let state ← factsSection config world status state
  return structuredSection world status state

/-- What is left of a call: the persisted row, how it ended, the LLM calls it
made, and the sections whose savepoint was released in a transaction that
`committed`. -/
structure TaskRun where
  row : EpisodeRow
  outcome : Except TaskError Unit
  llmCalls : Nat
  released : List Section
  committed : Bool

/-- The transaction is given up and the row is as it was. -/
def TaskRun.unchanged (row : EpisodeRow) (outcome : Except TaskError Unit)
    (llmCalls : Nat) : TaskRun :=
  { row := row
    outcome := outcome
    llmCalls := llmCalls
    released := []
    committed := false }

/-- The report after the commit: a failed section raises. -/
def TaskState.outcome (state : TaskState) : Except TaskError Unit :=
  if state.errors = [] then .ok ()
  else .error (.partialEnrichment state.errors state.setBits)

/-- The transaction after a successful LLM call. -/
def persistSections (config : OrgConfig) (world : World) (row : EpisodeRow) : TaskRun :=
  match runSections config world row with
  | .error error => .unchanged row (.error error) 1
  | .ok state =>
      match world.commit with
      | .error error => .unchanged row (.error error) 1
      | .ok _ =>
          { row := state.row
            outcome := state.outcome
            llmCalls := 1
            released := state.released
            committed := true }

/-- Graph backend, prompt and organisation config come before the LLM call. -/
def World.prepare (world : World) : Except TaskError Unit := do
  world.resolveGraphBackend
  world.renderPrompt
  world.getOrgConfig

/-- The body of `enrich_episode`. -/
def enrichAttempt (config : OrgConfig) (world : World) (row : EpisodeRow) : TaskRun :=
  if row.isDeleted then .unchanged row (.error .episodeNotFound) 0
  else if row.enrichmentStatus &&& llmBits = llmBits then .unchanged row (.ok ()) 0
  else if world.archived then .unchanged row (.ok ()) 0
  else
    match world.prepare with
    | .error error => .unchanged row (.error error) 0
    | .ok _ =>
        match world.llmChat with
        | .error error => .unchanged row (.error error) 1
        | .ok _ => persistSections config world row

/-- A later attempt starts from the row the earlier one left. -/
def TaskRun.andThen (first second : TaskRun) : TaskRun :=
  { row := second.row
    outcome := second.outcome
    llmCalls := first.llmCalls + second.llmCalls
    released := first.released ++ second.released
    committed := first.committed || second.committed }

/-- `with_retry`: `retries` more attempts may follow the first one. -/
def withRetry (body : Nat → EpisodeRow → TaskRun) :
    (attempt retries : Nat) → EpisodeRow → TaskRun
  | attempt, 0, row => body attempt row
  | attempt, retries + 1, row =>
      let run := body attempt row
      match run.outcome with
      | .ok _ => run
      | .error error =>
          if isRetryable error then
            run.andThen (withRetry body (attempt + 1) retries run.row)
          else run

def maxRetries : Nat := 3

/-- `enrich_episode` as the worker calls it; the attempts meet the worlds in
turn. -/
def enrichEpisode (config : OrgConfig) (worlds : Nat → World) (row : EpisodeRow) : TaskRun :=
  withRetry (fun attempt => enrichAttempt config (worlds attempt)) 0 (maxRetries - 1) row

/-- `LLM_ENRICHMENT_BITS` of the reconciler. -/
def llmEnrichmentBits : EnrichmentStatus :=
  enrichmentEntities ||| enrichmentFacts ||| enrichmentClassification |||
    enrichmentStructuredExtraction ||| llmInvalidationBit

/-- The reconciler queues `enrich_episode` again for an episode that was left
alone for `STALE_AFTER_MINUTES`. -/
def reconcilerEnqueues (row : EpisodeRow) (projectArchived untouched : Bool) : Bool :=
  (row.enrichmentStatus &&& llmEnrichmentBits != llmEnrichmentBits) &&
    !row.isDeleted && untouched && !projectArchived

end OpenZync.Workers
