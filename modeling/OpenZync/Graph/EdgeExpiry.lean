import OpenZync.Facts.Runs
import OpenZync.Graph.EdgeUpsert

/-!
# Edges of facts

The fact tables, the graph and what runs between them.  A transaction commits
its rows and leaves a post-commit effect with the transitions it recorded; the
effect turns them into expiry commands; a command waits in the queue until a
worker runs it.  The extraction worker creates edges for the facts it stored
before its transaction ends.  The PostgreSQL backend takes its commands without
a queue, which is the queue emptied at once.
-/

namespace OpenZync.Graph

open OpenZync.Facts

/-- A graph store, on the edges of one key. -/
structure EdgeStore where
  Edges : Type
  empty : Edges
  perform : Edges → EdgeOperation → Edges
  /-- The key has edges, and none is active. -/
  expired : Edges → Bool
  /-- `create_relationship` makes a new edge beside expired ones. -/
  reopens : Bool
  /-- The backend writes in the session of its caller. -/
  sharesSession : Bool
  empty_expired : expired empty = false
  create_expired : ∀ edges input,
    expired (perform edges (.create input)) = (expired edges && !reopens)

def FalkorDB.edgeStore : EdgeStore where
  Edges := Option Edge
  empty := none
  perform := perform
  expired edge := edge.any fun edge => edge.invalidAt.isSome
  reopens := false
  sharesSession := false
  empty_expired := rfl
  create_expired edge input := by
    cases edge with
    | none => rfl
    | some edge => simp [perform, onMatch]

theorem Postgres.upsert_any_isActive (input : RelationshipInput) (rows : List Row) :
    ((upsert input rows).any Row.isActive) = true := by
  induction rows with
  | nil => rfl
  | cons row rows ih =>
      unfold upsert
      split
      · rename_i active
        simp only [List.any_cons, Bool.or_eq_true]
        exact .inl active
      · simp only [List.any_cons, Bool.or_eq_true]
        exact .inr ih

def Postgres.edgeStore : EdgeStore where
  Edges := List Row
  empty := []
  perform := perform
  expired rows := !rows.isEmpty && !rows.any Row.isActive
  reopens := true
  sharesSession := true
  empty_expired := rfl
  create_expired rows input := by
    simp [perform, upsert_any_isActive]

/-- An edge key in the graph of its project. -/
structure EdgeLocation where
  orgId : Uuid
  projectId : Uuid
  key : EdgeKey
deriving DecidableEq

/-- The edge that a fact carries. -/
def edgeLocation (fact : Fact) : Option EdgeLocation :=
  (edgeKeyForFact fact).map fun key => ⟨fact.organizationId, fact.projectId, key⟩

/-- The fact may be effective at an instant from `now` on. -/
def OpenAt (now : Time) (fact : Fact) : Prop :=
  (∀ instant ∈ fact.invalidAt, now < instant) ∧ ∀ instant ∈ fact.validTo, now < instant

instance (now : Time) : DecidablePred (OpenAt now) :=
  fun fact => inferInstanceAs (Decidable ((∀ instant ∈ fact.invalidAt, now < instant) ∧
    ∀ instant ∈ fact.validTo, now < instant))

/-- One run of the extraction worker for facts, up to the end of its
transaction. -/
structure FactExtraction where
  call : IngestCall
  /-- `get_entity_by_name`; no answer of the backend is no entity. -/
  entityByName : Text → Option Uuid
  /-- The identifier and the instant that `create_relationship` draws, unless
  it raises. -/
  draws : EdgeKey → Option (Uuid × Time)
  commits : Bool

namespace FactExtraction

/-- `f.get("content") or "s p o"`, with the names as they were given. -/
def contentOf (form : FactForm) : Text :=
  orDefault form.content
    (form.subject.getD [] ++ ' ' :: form.predicate.getD [] ++ ' ' :: form.object.getD [])

/-- `content_to_fact.get(content)`: a later form replaces an earlier one. -/
def inputFact (forms : List FactForm) (content : Text) : Option FactForm :=
  forms.reverse.find? fun form => decide (contentOf form = content)

/-- `entity_repo.upsert_relationship`, once both entities are resolved: the
endpoints are looked up by name. -/
def upsertRelationship (extraction : FactExtraction) (form : FactForm) :
    Option (EdgeLocation × RelationshipInput) := do
  let subject := form.subject.getD []
  let object := form.object.getD []
  let _ ← form.subjectEntityId.or (extraction.entityByName subject)
  let _ ← form.objectEntityId.or (extraction.entityByName object)
  let source ← extraction.entityByName subject
  let target ← extraction.entityByName object
  let key : EdgeKey := ⟨source, target, form.predicate.getD []⟩
  let (relId, now) ← extraction.draws key
  return (⟨extraction.call.orgId, extraction.call.projectId, key⟩,
    { relId := relId
      properties := "\x7b\x7d".toList
      confidence := none
      validFrom := none
      validTo := none
      now := now })

/-- The edges that the worker creates for the rows it stored. -/
def upserts (extraction : FactExtraction) (created : List Fact) :
    List (EdgeLocation × RelationshipInput) :=
  created.filterMap fun fact =>
    (inputFact extraction.call.facts fact.content).bind extraction.upsertRelationship

end FactExtraction

/-- A post-commit effect that hands transitions to `sync_supersessions`. -/
structure GraphSync where
  orgId : Uuid
  projectId : Uuid
  events : List SupersessionEvent
  atTime : Time
deriving DecidableEq

def graphSyncs (effects : List PostCommitEffect) : List GraphSync :=
  effects.filterMap fun
    | .graphSync orgId projectId events atTime => some ⟨orgId, projectId, events, atTime⟩
    | _ => none

/-- The rows and the effects that a request commits. -/
def transact (casing : Casing) (collaborators : Collaborators) (store : FactStore) :
    FactOperation → Except FactError (FactStore × List PostCommitEffect)
  | .ingest call =>
      (ingestWithSupersession casing collaborators store call).map fun outcome =>
        (outcome.store, outcome.effects)
  | .retract call =>
      (retractFact collaborators store call).map fun outcome => (outcome.store, outcome.effects)
  | .invalidate call =>
      (applyLlmInvalidations collaborators store call).map fun outcome =>
        (outcome.store, outcome.effects)

structure EdgeSystem (backend : EdgeStore) where
  store : FactStore
  clock : Time
  /-- Effects of committed transactions that have not run. -/
  syncs : List GraphSync
  queue : List EdgeExpiryCommand
  edges : EdgeLocation → backend.Edges

inductive EdgeAction where
  | request (operation : FactOperation)
  | extract (extraction : FactExtraction)
  | sync (index : Nat)
  /-- The command at an index runs and will be retried. -/
  | attempt (index : Nat)
  | complete (index : Nat)

def commandLocation (command : EdgeExpiryCommand) : EdgeLocation :=
  ⟨command.orgId, command.projectId, command.edgeKey⟩

namespace EdgeSystem

variable {backend : EdgeStore}

def initial (backend : EdgeStore) (clock : Time) : EdgeSystem backend :=
  { store := FactStore.empty
    clock := clock
    syncs := []
    queue := []
    edges := fun _ => backend.empty }

def onEdge (edges : EdgeLocation → backend.Edges) (location : EdgeLocation)
    (operation : EdgeOperation) : EdgeLocation → backend.Edges :=
  Function.update edges location (backend.perform (edges location) operation)

def upsertAll (edges : EdgeLocation → backend.Edges)
    (upserts : List (EdgeLocation × RelationshipInput)) : EdgeLocation → backend.Edges :=
  upserts.foldl (fun edges upsert => onEdge edges upsert.1 (.create upsert.2)) edges

/-- `expire_relationships_matching` for a command. -/
def expire (state : EdgeSystem backend) (command : EdgeExpiryCommand) : EdgeSystem backend :=
  { state with
    edges := onEdge state.edges (commandLocation command)
      (.expireRelationshipsMatching command.atTime) }

def request (casing : Casing) (collaborators : Collaborators) (state : EdgeSystem backend)
    (operation : FactOperation) : EdgeSystem backend :=
  match transact casing collaborators state.store operation with
  | .error _ => { state with clock := operation.now }
  | .ok (store, effects) =>
      { state with
        store := store
        clock := operation.now
        syncs := state.syncs ++ graphSyncs effects }

/-- The edges are created before the transaction ends; an external backend
keeps them when it is rolled back. -/
def extract (casing : Casing) (collaborators : Collaborators) (state : EdgeSystem backend)
    (extraction : FactExtraction) : EdgeSystem backend :=
  match ingestWithSupersession casing collaborators state.store extraction.call with
  | .error _ => { state with clock := extraction.call.now }
  | .ok outcome =>
      let edges := upsertAll state.edges (extraction.upserts outcome.result.created)
      if extraction.commits then
        { state with
          store := outcome.store
          clock := extraction.call.now
          syncs := state.syncs ++ graphSyncs outcome.effects
          edges := edges }
      else if backend.sharesSession then { state with clock := extraction.call.now }
      else { state with clock := extraction.call.now, edges := edges }

def perform (casing : Casing) (collaborators : Collaborators) (state : EdgeSystem backend) :
    EdgeAction → EdgeSystem backend
  | .request operation => state.request casing collaborators operation
  | .extract extraction => state.extract casing collaborators extraction
  | .sync index =>
      match state.syncs[index]? with
      | none => state
      | some sync =>
          { state with
            syncs := state.syncs.eraseIdx index
            queue := state.queue ++
              computeExpiryCommands sync.events sync.orgId sync.projectId sync.atTime }
  | .attempt index =>
      match state.queue[index]? with
      | none => state
      | some command => state.expire command
  | .complete index =>
      match state.queue[index]? with
      | none => state
      | some command => { state.expire command with queue := state.queue.eraseIdx index }

end EdgeSystem

end OpenZync.Graph
