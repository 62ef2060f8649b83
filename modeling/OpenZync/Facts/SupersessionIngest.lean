import OpenZync.Facts.Persistence

/-!
# Supersession ingest

`ingest_with_supersession` on one open transaction: prepare and deduplicate
the batch, scan conflicts and tombstones once, run the batch-safe and the
sequential path, record the lineage and queue the post-commit effects.
-/

namespace OpenZync.Facts

/-- The collaborators a service was built with. -/
structure Collaborators where
  webhookService : Bool
  cacheService : Bool
  graphSync : Bool
  deriving DecidableEq

/-- An effect queued for the commit of the caller. -/
inductive PostCommitEffect where
  | incSupersededTotal (count : Nat)
  | incInvalidatedTotal (count : Nat)
  | incRetractedTotal (count : Nat)
  | invalidateProjectContext (orgId projectId : Uuid)
  /-- Purge the context cache and bump its generation. -/
  | purgeProjectContext (orgId projectId : Uuid)
  | factSuperseded (oldId newId : Uuid) (triple : Triple)
  | factInvalidated (oldId : Uuid) (newId : Option Uuid) (triple : Triple)
      (reason : Option Text)
  | factRetracted (oldId : Uuid) (triple : Triple)
  | graphSync (orgId projectId : Uuid) (events : List SupersessionEvent)
      (atTime : Time)
  deriving DecidableEq

/-- The arguments of one `ingest_with_supersession` call. -/
structure IngestCall where
  orgId : Uuid
  projectId : Uuid
  userId : Uuid
  facts : List FactForm
  sourceEpisodeId : Option Uuid
  insertMode : InsertMode
  now : Time
  deriving DecidableEq

/-- `FactIngestionResult`, with the identifiers behind `superseded_count`. -/
structure FactIngestionResult where
  created : List Fact
  superseded : List Uuid
  skippedCount : Nat
  deriving DecidableEq

def FactIngestionResult.insertedCount (result : FactIngestionResult) : Nat :=
  result.created.length

def FactIngestionResult.supersededCount (result : FactIngestionResult) : Nat :=
  result.superseded.length

/-- What a successful call leaves in the open transaction. -/
structure IngestOutcome where
  store : FactStore
  result : FactIngestionResult
  events : List SupersessionEvent
  effects : List PostCommitEffect

namespace IngestCall

def ctx (call : IngestCall) : BatchCtx :=
  { orgId := call.orgId
    projectId := call.projectId
    userId := call.userId
    sourceEpisodeId := call.sourceEpisodeId
    insertMode := call.insertMode
    now := call.now }

def prepared (call : IngestCall) : List Entry :=
  call.facts.map fun form => prepareEntry form call.sourceEpisodeId call.now

end IngestCall

/-- In-batch dedup of identical `(name identity, content)`: the first
occurrence stays. -/
def dedupEntries (casing : Casing) :
    List Entry → List (NameIdentity × Text) → List Entry
  | [], _ => []
  | entry :: entries, seen =>
      if (entry.nameIdentity casing, entry.content) ∈ seen then
        dedupEntries casing entries seen
      else
        entry :: dedupEntries casing entries
          ((entry.nameIdentity casing, entry.content) :: seen)

namespace IngestCall

/-- The entries that reach the scans. -/
def entries (casing : Casing) (call : IngestCall) : List Entry :=
  dedupEntries casing call.prepared []

def matchKeys (casing : Casing) (call : IngestCall) : List MatchKey :=
  (call.entries casing).flatMap Entry.matchKeys

/-- Advisory-lock keys in acquisition order. -/
def lockKeys (casing : Casing) (call : IngestCall) : List Text :=
  (((call.entries casing).map fun entry =>
    lockKeyForIdentity call.orgId call.projectId (entry.nameIdentity casing)).dedup).insertionSort
      (· ≤ ·)

/-- Active candidates of the conflict scan, bucketed by name identity. -/
def candidates (casing : Casing) (call : IngestCall) (store : FactStore) :
    NameIdentity → List Fact :=
  bucketByName casing
    (findConflictingActiveForUpdate casing store call.orgId call.projectId
      (call.matchKeys casing) call.now)

def tombstones (casing : Casing) (call : IngestCall) (store : FactStore) :
    NameIdentity → List Fact :=
  scanTombstones casing store call.orgId call.projectId (call.entries casing)

end IngestCall

/-- `identity_counts[identity]`. -/
def identityCount (casing : Casing) (entries : List Entry) (identity : NameIdentity) : Nat :=
  entries.countP fun entry => decide (entry.nameIdentity casing = identity)

/-- Identities occurring once are batch-safe. -/
def batchEntries (casing : Casing) (entries : List Entry) : List Entry :=
  entries.filter fun entry =>
    decide (identityCount casing entries (entry.nameIdentity casing) = 1)

/-- Repeated identities need sequential handling. -/
def sequentialEntries (casing : Casing) (entries : List Entry) : List Entry :=
  entries.filter fun entry =>
    decide (1 < identityCount casing entries (entry.nameIdentity casing))

/-- The effects of one ingest, in the order they are queued. -/
def ingestEffects (collaborators : Collaborators) (call : IngestCall)
    (state : BatchState) : List PostCommitEffect :=
  (if state.superseded = [] then []
    else .incSupersededTotal state.superseded.length ::
      (if collaborators.cacheService then
        [.invalidateProjectContext call.orgId call.projectId] else [])) ++
  (if collaborators.webhookService then
    state.events.filterMap fun event =>
      event.newFactId.map fun newId =>
        .factSuperseded event.oldFactId newId event.triple
    else []) ++
  (if collaborators.graphSync ∧ state.events ≠ [] then
    [.graphSync call.orgId call.projectId state.events call.now] else [])

/-- `ingest_with_supersession` after its two scans: the buckets are what the
scans returned, the store is what the write statements find. -/
def ingestScanned (casing : Casing) (collaborators : Collaborators) (store : FactStore)
    (call : IngestCall) (candidates tombstones : NameIdentity → List Fact) :
    Except FactError IngestOutcome := do
  let entries := call.entries casing
  let (store, state) ← supersedeBatchSafe casing candidates tombstones call.ctx
    (batchEntries casing entries) store BatchState.initial
  let (store, state) ← supersedeSequential casing candidates tombstones call.ctx
    (sequentialEntries casing entries) store state
  let store ← recordLineage call.orgId call.projectId call.now
    state.sourceEpisodeByOldFact state.events store
  .ok
    { store := store
      result :=
        { created := state.created
          superseded := state.superseded
          skippedCount :=
            (call.prepared.length - entries.length) + state.skippedCount }
      events := state.events
      effects := ingestEffects collaborators call state }

def ingestWithSupersession (casing : Casing) (collaborators : Collaborators)
    (store : FactStore) (call : IngestCall) : Except FactError IngestOutcome :=
  if call.facts = [] then
    .ok ⟨store, ⟨[], [], 0⟩, [], []⟩
  else
    ingestScanned casing collaborators store call (call.candidates casing store)
      (call.tombstones casing store)

end OpenZync.Facts
