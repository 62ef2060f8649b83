import Mathlib.Logic.Function.Basic

/-!
# The context cache of a project

A request of `assemble` reads the generation of the project, looks its key up,
and otherwise reads the data, computes and stores the context under the key of
the generation it has read.  An operation that changes the data commits and
runs its cache effects afterwards, which differ from writer to writer.  A
cached context is represented by the moment its data was read: the number of
commits before it.
-/

namespace OpenZync.Context

/-- The arguments of `assemble` that enter the key. -/
structure ContextQuery where
  queryHash : String
  asOf : Option String
  sort : String
  format : String
  limit : Nat
deriving DecidableEq

/-- The parts of a key after `ctx:{org_id}:{project_id}`, before they are joined
by `:`. -/
abbrev ContextKey := List String

def buildContextCacheKey (query : ContextQuery) (version : Nat) : ContextKey :=
  ["v" ++ toString version] ++ query.asOf.toList ++
    (if query.sort = "relevance" then [] else [query.sort]) ++
    [query.format, toString query.limit, query.queryHash]

structure CachedContext where
  key : ContextKey
  /-- How many operations had committed when its data was first read. -/
  readAt : Nat
deriving DecidableEq

inductive CacheEffect where
  /-- `bump_context_version` -/
  | bump
  /-- `invalidate_project_context` -/
  | purge
  /-- `_purge_project_context`: a purge and then a bump. -/
  | purgeAndBump
deriving DecidableEq

/-- The operations that change the facts or the episodes of a project.  All
but the ingest of messages and the wipe may lack a cache service. -/
inductive OperationKind where
  | memoryIngest
  /-- Facts are created without looking for facts to supersede. -/
  | factIngest
  | supersessionIngest (cacheService : Bool) (supersededCount : Nat)
  | retraction (cacheService : Bool)
  | llmInvalidation (cacheService : Bool) (closedCount : Nat)
  | projectWipe
deriving DecidableEq

/-- The cache effects that an operation queues for its commit. -/
def OperationKind.effects : OperationKind → List CacheEffect
  | .memoryIngest => [.bump]
  | .factIngest => []
  | .supersessionIngest cacheService supersededCount =>
      if cacheService ∧ 0 < supersededCount then [.purge] else []
  | .retraction cacheService => if cacheService then [.purgeAndBump] else []
  | .llmInvalidation cacheService closedCount =>
      if cacheService ∧ 0 < closedCount then [.purgeAndBump] else []
  | .projectWipe => []

inductive RequestPhase where
  | idle
  /-- `since` are the commits whose operations had run their effects. -/
  | started (query : ContextQuery) (since : List Nat)
  /-- `current` tells whether the version is the generation of that moment. -/
  | versioned (query : ContextQuery) (since : List Nat) (version : Nat) (current : Bool)
  | missed (query : ContextQuery) (version : Nat)
  | computing (query : ContextQuery) (version : Nat) (readAt : Nat)
  /-- Answered from the cache. -/
  | hit (since : List Nat) (readAt : Nat)
  /-- Answered from its own computation. -/
  | computed
deriving DecidableEq

/-- `commit` is the number of the commit, `bumped` whether a bump has run. -/
inductive OperationPhase where
  | pending
  | effects (commit : Nat) (bumped : Bool) (queue : List CacheEffect)
  /-- A scan in progress: the keys it has still to return, and what follows. -/
  | purging (commit : Nat) (bumped : Bool) (remaining : List ContextKey) (thenBump : Bool)
      (queue : List CacheEffect)
  | finished
deriving DecidableEq

structure CacheSystem (ρ ο : Type) where
  commits : Nat
  /-- `ctxver:{org_id}:{project_id}` -/
  generation : Option Nat
  cache : List CachedContext
  requests : ρ → RequestPhase
  operations : ο → OperationPhase
  /-- The commits whose operations have finished their effects. -/
  finished : List Nat

inductive CacheAction (ρ ο : Type) where
  | start (request : ρ) (query : ContextQuery)
  | getContextVersion (request : ρ) (reachable : Bool)
  | get (request : ρ) (reachable : Bool)
  /-- One of the queries of `hybrid_search`. -/
  | read (request : ρ)
  | set (request : ρ) (reachable : Bool)
  | commit (operation : ο) (kind : OperationKind)
  | bumpContextVersion (operation : ο)
  | beginPurge (operation : ο)
  /-- One page of the scan is deleted. -/
  | deletePage (operation : ο) (keys : List ContextKey)
  | endPurge (operation : ο)
  /-- The effect raises, which is logged. -/
  | failEffect (operation : ο)
  | finish (operation : ο)
  /-- The time to live of a key runs out. -/
  | expire (key : ContextKey)

namespace CacheSystem

variable {ρ ο : Type} [DecidableEq ρ] [DecidableEq ο]

def empty : CacheSystem ρ ο :=
  { commits := 0
    generation := none
    cache := []
    requests := fun _ => .idle
    operations := fun _ => .pending
    finished := [] }

/-- A missing counter is generation 0. -/
def contextVersion (state : CacheSystem ρ ο) : Nat :=
  state.generation.getD 0

def lookup (state : CacheSystem ρ ο) (key : ContextKey) : Option CachedContext :=
  state.cache.find? fun entry => entry.key = key

def delete (state : CacheSystem ρ ο) (keys : List ContextKey) : CacheSystem ρ ο :=
  { state with cache := state.cache.filter fun entry => entry.key ∉ keys }

def setRequest (state : CacheSystem ρ ο) (request : ρ) (phase : RequestPhase) :
    CacheSystem ρ ο :=
  { state with requests := Function.update state.requests request phase }

def setOperation (state : CacheSystem ρ ο) (operation : ο) (phase : OperationPhase) :
    CacheSystem ρ ο :=
  { state with operations := Function.update state.operations operation phase }

/-- The version read of a request, which falls back to generation 0. -/
def readVersion (state : CacheSystem ρ ο) (request : ρ) (query : ContextQuery)
    (since : List Nat) (reachable : Bool) : CacheSystem ρ ο :=
  let version := if reachable then state.contextVersion else 0
  state.setRequest request (.versioned query since version (version == state.contextVersion))

/-- An unreachable cache is a miss. -/
def answer (state : CacheSystem ρ ο) (request : ρ) (query : ContextQuery)
    (since : List Nat) (version : Nat) (reachable : Bool) : CacheSystem ρ ο :=
  match (if reachable then state.lookup (buildContextCacheKey query version) else none) with
  | some entry => state.setRequest request (.hit since entry.readAt)
  | none => state.setRequest request (.missed query version)

def store (state : CacheSystem ρ ο) (request : ρ) (query : ContextQuery) (version readAt : Nat)
    (reachable : Bool) : CacheSystem ρ ο :=
  let key := buildContextCacheKey query version
  let stored := if reachable then
      { state.delete [key] with cache := ⟨key, readAt⟩ :: (state.delete [key]).cache }
    else state
  stored.setRequest request .computed

/-- `INCR` -/
def bump (state : CacheSystem ρ ο) : CacheSystem ρ ο :=
  { state with generation := some (state.contextVersion + 1) }

/-- An action that the phase does not allow does nothing. -/
def perform (state : CacheSystem ρ ο) : CacheAction ρ ο → CacheSystem ρ ο
  | .start request query =>
      match state.requests request with
      | .idle => state.setRequest request (.started query state.finished)
      | _ => state
  | .getContextVersion request reachable =>
      match state.requests request with
      | .started query since => state.readVersion request query since reachable
      | _ => state
  | .get request reachable =>
      match state.requests request with
      | .versioned query since version _ => state.answer request query since version reachable
      | _ => state
  | .read request =>
      match state.requests request with
      | .missed query version =>
          state.setRequest request (.computing query version state.commits)
      | _ => state
  | .set request reachable =>
      match state.requests request with
      | .computing query version readAt => state.store request query version readAt reachable
      | _ => state
  | .commit operation kind =>
      match state.operations operation with
      | .pending =>
          { state with commits := state.commits + 1 }.setOperation operation
            (.effects (state.commits + 1) false kind.effects)
      | _ => state
  | .bumpContextVersion operation =>
      match state.operations operation with
      | .effects commit _ (.bump :: queue) =>
          state.bump.setOperation operation (.effects commit true queue)
      | _ => state
  | .beginPurge operation =>
      match state.operations operation with
      | .effects commit bumped (.purge :: queue) =>
          state.setOperation operation
            (.purging commit bumped (state.cache.map CachedContext.key) false queue)
      | .effects commit bumped (.purgeAndBump :: queue) =>
          state.setOperation operation
            (.purging commit bumped (state.cache.map CachedContext.key) true queue)
      | _ => state
  | .deletePage operation keys =>
      match state.operations operation with
      | .purging commit bumped remaining thenBump queue =>
          (state.delete keys).setOperation operation
            (.purging commit bumped (remaining.filter fun key => key ∉ keys) thenBump queue)
      | _ => state
  | .endPurge operation =>
      match state.operations operation with
      | .purging commit bumped [] thenBump queue =>
          state.setOperation operation
            (.effects commit bumped (if thenBump then .bump :: queue else queue))
      | _ => state
  | .failEffect operation =>
      match state.operations operation with
      | .effects commit bumped (_ :: queue) =>
          state.setOperation operation (.effects commit bumped queue)
      | .purging commit bumped _ _ queue =>
          state.setOperation operation (.effects commit bumped queue)
      | _ => state
  | .finish operation =>
      match state.operations operation with
      | .effects commit _ [] =>
          { state with finished := commit :: state.finished }.setOperation operation .finished
      | _ => state
  | .expire key => state.delete [key]

end CacheSystem

/-- Every answer from the cache was computed from data read after the commit of
each operation whose effects had finished when the request started. -/
def FreshHits {ρ ο : Type} (state : CacheSystem ρ ο) : Prop :=
  ∀ request since readAt, state.requests request = .hit since readAt →
    ∀ commit ∈ since, commit ≤ readAt

end OpenZync.Context
