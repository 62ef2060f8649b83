import OpenZync.Library.Dicts
import OpenZync.Library.Execution
import OpenZync.Text

/-!
# The config of an organisation

Every key of an organisation's config is a secret of its own in the KV store.
`update_org_config` reads them all, one request after the other, sets the keys
of the request, and writes all keys back one at a time.  The cache is dropped
after the last write and the config read once more, which stores nothing.

`resolve_graph_backend` reads the config through the cache or OpenBao and, when
that fails, from the row of the organisation in the database.  The two sources
treat an organisation without a `graph_backend` differently: the first gives it
FalkorDB, the second no graph where nothing is stored at all.
-/

namespace OpenZync.Config

open OpenZync.Library

section Store

variable {ν : Type}

/-- Secrets by key, with a deleted one as `none`: its key is still listed. -/
abbrev KvStore (ν : Type) := Dict Text (Option ν)

/-- A config as the code holds it, where `none` asks for a deletion. -/
abbrev ConfigDict (ν : Type) := Dict Text (Option ν)

namespace KvStore

/-- What `_kv_read` gives; a deleted or missing secret is not found. -/
def kvRead (store : KvStore ν) (key : Text) : Option ν :=
  (store.get? key).join

def kvList (store : KvStore ν) : List Text :=
  store.keys

def kvWrite (store : KvStore ν) (key : Text) (value : ν) : KvStore ν :=
  store.set key (some value)

def kvDelete (store : KvStore ν) (key : Text) : KvStore ν :=
  if (store.get? key).isSome then store.set key none else store

end KvStore

/-- One turn of the loop of `read_org_config`. -/
def readKey (store : KvStore ν) (result : ConfigDict ν) (key : Text) : ConfigDict ν :=
  match store.kvRead key with
  | some value => result.set key (some value)
  | none => result

def readOrgConfig (store : KvStore ν) : ConfigDict ν :=
  store.kvList.foldl (readKey store) .empty

/-- One turn of the loop of `write_org_config`. -/
def writeKey (store : KvStore ν) (item : Text × Option ν) : KvStore ν :=
  match item.2 with
  | none => store.kvDelete item.1
  | some value => store.kvWrite item.1 value

/-- `existing[key] = value` for every key of the request. -/
def mergeConfig (existing update : ConfigDict ν) : ConfigDict ν :=
  existing.update update

/-- What is stored when `update_org_config` raises because the write after the
first `written` ones has failed. -/
def failedUpdate (store : KvStore ν) (update : ConfigDict ν) (written : Nat) : KvStore ν :=
  ((mergeConfig (readOrgConfig store) update).items.take written).foldl writeKey store

end Store

section Calls

variable {ν : Type}

/-- Where a call of `update_org_config` stands. -/
inductive UpdatePhase (ν : Type) where
  | start
  | reading (keys : List Text) (existing : ConfigDict ν)
  | writing (items : List (Text × Option ν))
  | succeeded

/-- Two calls on one organisation. -/
inductive Caller where
  | first
  | second
deriving DecidableEq

structure ConfigState (ν : Type) where
  store : KvStore ν
  phase : Caller → UpdatePhase ν

def ConfigState.start (store : KvStore ν) : ConfigState ν :=
  { store := store
    phase := fun _ => .start }

/-- The next request of a call, and what it leaves of the store. -/
def updateStep (update : ConfigDict ν) (store : KvStore ν) :
    UpdatePhase ν → KvStore ν × UpdatePhase ν
  | .start => (store, .reading store.kvList .empty)
  | .reading [] existing => (store, .writing (mergeConfig existing update).items)
  | .reading (key :: keys) existing => (store, .reading keys (readKey store existing key))
  | .writing [] => (store, .succeeded)
  | .writing (item :: items) => (writeKey store item, .writing items)
  | .succeeded => (store, .succeeded)

/-- One caller takes its next step. -/
def ConfigState.perform (updates : Caller → ConfigDict ν) (state : ConfigState ν)
    (caller : Caller) : ConfigState ν :=
  let (store, phase) := updateStep (updates caller) state.store (state.phase caller)
  { store := store
    phase := Function.update state.phase caller phase }

end Calls

/-- The `graph_backend` of a stored config. -/
inductive GraphBackendValue where
  | absent
  | null
  | text (name : Text)
  /-- A value of another type, and whether Python counts it as true. -/
  | other (truthy : Bool)
deriving DecidableEq

/-- A stored config that is not `{}`. -/
structure StoredConfig where
  graphBackend : GraphBackendValue
  /-- Whether `OrgConfigBase` accepts the other fields. -/
  othersValid : Bool
deriving DecidableEq

/-- A stored config, with `{}` as `none`. -/
abbrev RawConfig := Option StoredConfig

/-- What the resolution reads of an `OrgConfigBase`. -/
structure OrgConfigBase where
  graphBackend : Option Text
deriving DecidableEq

def falkordb : Text :=
  "falkordb".toList

/-- `OrgConfigBase(**raw)` -/
def orgConfigBase (raw : StoredConfig) : Option OrgConfigBase :=
  if raw.othersValid then
    match raw.graphBackend with
    | .absent => some { graphBackend := some falkordb }
    | .null => some { graphBackend := none }
    | .text name => some { graphBackend := some name }
    | .other _ => none
  else none

/-- `raw.get("graph_backend")` counts as true. -/
def GraphBackendValue.truthy : GraphBackendValue → Bool
  | .absent => false
  | .null => false
  | .text name => !name.isEmpty
  | .other truthy => truthy

/-- `redis.get` of the cached config. -/
inductive CacheRead where
  | failed
  | absent
  /-- A text that does not validate is dropped. -/
  | invalid
  | valid (config : OrgConfigBase)
deriving DecidableEq

inductive ConfigError where
  /-- There is no client, or the read fails. -/
  | openbaoConnection
  | validation
deriving DecidableEq

/-- The part of `get_org_config` after the cache. -/
def fetchOrgConfig (openbao : Except ConfigError RawConfig) :
    Except ConfigError OrgConfigBase :=
  match openbao with
  | .error failure => .error failure
  | .ok none => .ok { graphBackend := some falkordb }
  | .ok (some raw) =>
      let raw := if raw.graphBackend.truthy then raw
        else { raw with graphBackend := .text falkordb }
      match orgConfigBase raw with
      | none => .error .validation
      | some config => .ok config

/-- `get_org_config`; `redis` is `none` where the worker has no client. -/
def getOrgConfig (redis : Option CacheRead) (openbao : Except ConfigError RawConfig) :
    Except ConfigError OrgConfigBase :=
  match redis with
  | some (.valid config) => .ok config
  | _ => fetchOrgConfig openbao

inductive ResolutionError where
  | graphBackendUnavailable
deriving DecidableEq

/-- `_resolve_org_config`; `database` is the read of `OrganizationRepository`. -/
def resolveOrgConfig (redis : Option CacheRead) (openbao : Except ConfigError RawConfig)
    (database : Except Unit RawConfig) : Except ResolutionError OrgConfigBase :=
  match getOrgConfig redis openbao with
  | .ok config => .ok config
  | .error _ =>
      match database with
      | .error _ => .error .graphBackendUnavailable
      | .ok none => .ok { graphBackend := none }
      | .ok (some raw) =>
          match orgConfigBase raw with
          | none => .error .graphBackendUnavailable
          | some config => .ok config

/-- `not backend_name or backend_name == "none"` -/
def disables (backendName : Option Text) : Bool :=
  match backendName with
  | none => true
  | some name => name.isEmpty || name = "none".toList

/-- The clients of a worker that can make a backend; `connects` is how
`get_or_create` of the pool ends, `create` what the dispatcher makes. -/
structure GraphClients (β : Type) where
  surrealPool : Option Bool
  falkordbClient : Bool
  create : Text → Except Unit (Option β)

section Resolution

variable {β : Type}

/-- The part of `resolve_graph_backend` after the name is known. -/
def createBackend (clients : GraphClients β) (name : Text) : Except ResolutionError β :=
  if name = "surrealdb".toList ∧ clients.surrealPool ≠ some true then
    .error .graphBackendUnavailable
  else if name = falkordb ∧ clients.falkordbClient = false then
    .error .graphBackendUnavailable
  else
    match clients.create name with
    | .ok (some backend) => .ok backend
    | _ => .error .graphBackendUnavailable

/-- `resolve_graph_backend`; a worker without a dispatcher has no clients. -/
def resolveGraphBackend (dispatcher : Option (GraphClients β)) (redis : Option CacheRead)
    (openbao : Except ConfigError RawConfig) (database : Except Unit RawConfig) :
    Except ResolutionError (Option β) :=
  match dispatcher with
  | none => .error .graphBackendUnavailable
  | some clients =>
      match resolveOrgConfig redis openbao database with
      | .error failure => .error failure
      | .ok config =>
          if disables config.graphBackend then .ok none
          else (createBackend clients (config.graphBackend.getD [])).map some

end Resolution

end OpenZync.Config
