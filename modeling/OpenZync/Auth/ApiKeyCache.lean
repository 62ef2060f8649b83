import Mathlib.Data.Fintype.Basic
import OpenZync.Auth.ApiKeys
import OpenZync.Library.CacheAside
import OpenZync.Library.Transactions

/-!
# Authentication of API keys

The middleware looks a key up in Redis, else in the database, and stores what
it has read after a second transaction.  A revocation deletes the entry before
it commits.  A key is refused from the moment its revocation is complete, as
long as nobody has its entry in the cache or in hand when the revocation
commits; expired keys are refused always.
-/

namespace OpenZync.Auth

open OpenZync.Library

/-- What the middleware puts into the state of a request. -/
structure KeyState where
  orgId : Uuid
  userId : Option Uuid
  apiKeyPermissions : List Permission
  apiKeyProjectId : Uuid
  apiKeyId : Uuid
  deriving DecidableEq

/-- The payload of `auth:key:`. -/
structure CachedKey where
  orgId : Uuid
  permissions : List Permission
  projectId : Uuid
  createdBy : Option Uuid
  apiKeyId : Uuid
  expiresAt : Option Time
  deriving DecidableEq

def ApiKey.cached (row : ApiKey) : CachedKey :=
  { orgId := row.organizationId
    permissions := row.permissions
    projectId := row.projectId
    createdBy := row.createdBy
    apiKeyId := row.id
    expiresAt := row.expiresAt }

/-- The state that the database path sets. -/
def ApiKey.state (row : ApiKey) : KeyState :=
  { orgId := row.organizationId
    userId := row.createdBy
    apiKeyPermissions := row.permissions
    apiKeyProjectId := row.projectId
    apiKeyId := row.id }

/-- The state that a cache hit sets. -/
def CachedKey.state (entry : CachedKey) : KeyState :=
  { orgId := entry.orgId
    userId := entry.createdBy
    apiKeyPermissions := entry.permissions
    apiKeyProjectId := entry.projectId
    apiKeyId := entry.apiKeyId }

inductive Refusal where
  | invalid
  | revoked
  | expired
  | tooManyRequests
  | unavailable
  | internalError
  deriving DecidableEq

/-- Status, title and detail of the response. -/
def Refusal.problem : Refusal → Nat × Text × Text
  | .invalid => (401, "Invalid API Key".toList, "The provided API key is not valid.".toList)
  | .revoked => (401, "API Key Revoked".toList, "This API key has been revoked.".toList)
  | .expired => (401, "API Key Expired".toList, "This API key has expired.".toList)
  | .tooManyRequests =>
      (429, "Too Many Requests".toList, "Too many authentication attempts. Try again later.".toList)
  | .unavailable =>
      (503, "Service Unavailable".toList,
        "Authentication service temporarily unavailable.".toList)
  | .internalError =>
      (500, "Internal Server Error".toList,
        "Authentication service temporarily unavailable.".toList)

/-- `AUTH_MISS_RATE_LIMIT`. -/
def authMissRateLimit : Nat :=
  10

/-- The two hash functions of `utils.crypto`. -/
structure KeyHashing where
  computeLookupHash : Text → Text
  verifyApiKey : Text → Text → Text → Bool

structure KeyCall where
  rawKey : Text
  clientIp : Text
  deriving DecidableEq

/-- The committed keys and the clock when a request started. -/
structure Moment where
  keys : ApiKeys
  now : Time

inductive KeyPhase where
  | idle
  | started (begun : Moment)
  | hit (begun : Moment) (entry : CachedKey)
  | evicting
  | missed (begun : Moment)
  | admissible (begun : Moment)
  | counted (begun : Moment) (count : Nat)
  | admitted (begun : Moment)
  | unknown
  | read (begun : Moment) (row : ApiKey)
  | accepted (begun : Moment) (row : ApiKey)
  | touched (begun : Moment) (row : ApiKey)
  | authenticated (begun : Moment) (state : KeyState)
  | refused (refusal : Refusal)

/-- The row that the request may still write to the cache. -/
def KeyPhase.copy : KeyPhase → Option ApiKey
  | .read _ row => some row
  | .accepted _ row => some row
  | .touched _ row => some row
  | _ => none

/-- `revoke_project_key`. -/
structure Revocation where
  organizationId : Uuid
  projectId : Uuid
  keyId : Uuid
  deriving DecidableEq

inductive RevokePhase where
  | started
  | flushing (row : ApiKey)
  | invalidating (row : ApiKey)
  | committing (row : ApiKey)
  | committed
  | notFound
  | aborted
  deriving DecidableEq

/-- The key that the commit revokes. -/
def RevokePhase.toCommit : RevokePhase → Option Uuid
  | .committing row => if row.isRevoked then none else some row.id
  | _ => none

structure KeySystem (ρ ω : Type) where
  keys : ApiKeys
  now : Time
  /-- The entries `auth:key:`. -/
  positive : Text → Option CachedKey
  /-- The entries `auth:neg:`. -/
  negative : Text → Bool
  /-- The counters `auth:miss_ip:`. -/
  misses : Text → Nat
  requests : ρ → KeyPhase
  revocations : ω → RevokePhase
  rows : Uuid → Option ω

/-- `reachable` tells whether the command or the transaction succeeds. -/
inductive KeyAction (ρ ω : Type) where
  | start (request : ρ)
  | advance (request : ρ) (reachable : Bool)
  | expireKey (lookupHash : Text)
  | expireNegative (lookupHash : Text)
  | expireMisses (clientIp : Text)
  | tick (later : Time)
  | select (revocation : ω)
  | flush (revocation : ω)
  | invalidate (revocation : ω) (reachable : Bool)
  | commit (revocation : ω)
  | abort (revocation : ω)
  deriving DecidableEq

/-- The requests of a run, the revocations, and whether Redis is configured. -/
structure KeyTraffic (ρ ω : Type) where
  hashing : KeyHashing
  hasRedis : Bool
  calls : ρ → KeyCall
  revocations : ω → Revocation

def KeyTraffic.lookupHash {ρ ω : Type} (traffic : KeyTraffic ρ ω) (request : ρ) : Text :=
  traffic.hashing.computeLookupHash (traffic.calls request).rawKey

namespace KeySystem

variable {ρ ω : Type}

def start (keys : ApiKeys) (now : Time) : KeySystem ρ ω :=
  { keys := keys
    now := now
    positive := fun _ => none
    negative := fun _ => false
    misses := fun _ => 0
    requests := fun _ => .idle
    revocations := fun _ => .started
    rows := fun _ => none }

/-- The entries that requests may still write to the cache. -/
def copies (traffic : KeyTraffic ρ ω) (system : KeySystem ρ ω) (request : ρ) :
    Option (Text × CachedKey) :=
  (system.requests request).copy.map fun row => (traffic.lookupHash request, row.cached)

/-- The `UPDATE` of `update_last_used` waits for a revocation of its row. -/
def touchBlocked (system : KeySystem ρ ω) (keyId : Uuid) : Bool :=
  (system.rows keyId).isSome && system.keys.rows.any fun row =>
    decide (row.id = keyId) && ApiKeys.stale row system.now

variable [DecidableEq ρ] [DecidableEq ω]

def setRequest (system : KeySystem ρ ω) (request : ρ) (phase : KeyPhase) : KeySystem ρ ω :=
  { system with requests := Function.update system.requests request phase }

def setRevocation (system : KeySystem ρ ω) (revocation : ω) (phase : RevokePhase) :
    KeySystem ρ ω :=
  { system with revocations := Function.update system.revocations revocation phase }

def finish (system : KeySystem ρ ω) (revocation : ω) (phase : RevokePhase) : KeySystem ρ ω :=
  { system.setRevocation revocation phase with rows := release system.rows revocation }

/-- The next step of the API-key flow of the middleware. -/
def advance (traffic : KeyTraffic ρ ω) (system : KeySystem ρ ω) (request : ρ)
    (reachable : Bool) : KeySystem ρ ω :=
  let call := traffic.calls request
  let lookupHash := traffic.lookupHash request
  match system.requests request with
  | .started begun =>
      if traffic.hasRedis then
        if reachable then
          match system.positive lookupHash with
          | some entry => system.setRequest request (.hit begun entry)
          | none => system.setRequest request (.missed begun)
        else system.setRequest request (.refused .unavailable)
      else system.setRequest request (.admitted begun)
  | .hit begun entry =>
      if expired entry.expiresAt system.now then system.setRequest request .evicting
      else system.setRequest request (.authenticated begun entry.state)
  | .evicting =>
      if reachable then
        { system.setRequest request (.refused .expired) with
          positive := Function.update system.positive lookupHash none }
      else system.setRequest request (.refused .unavailable)
  | .missed begun =>
      if reachable then
        if system.negative lookupHash then system.setRequest request (.refused .invalid)
        else system.setRequest request (.admissible begun)
      else system.setRequest request (.refused .unavailable)
  | .admissible begun =>
      let count := system.misses call.clientIp + 1
      if reachable then
        { system.setRequest request (.counted begun count) with
          misses := Function.update system.misses call.clientIp count }
      else system.setRequest request (.refused .unavailable)
  | .counted begun count =>
      if count = 1 ∧ reachable = false then system.setRequest request (.refused .unavailable)
      else if authMissRateLimit < count then
        system.setRequest request (.refused .tooManyRequests)
      else system.setRequest request (.admitted begun)
  | .admitted begun =>
      if reachable then
        match system.keys.getByLookupHash lookupHash with
        | none => system.setRequest request .unknown
        | some row => system.setRequest request (.read begun row)
      else system.setRequest request (.refused .internalError)
  | .unknown =>
      { system.setRequest request (.refused .invalid) with
        negative :=
          if traffic.hasRedis ∧ reachable then
            Function.update system.negative lookupHash true
          else system.negative }
  | .read begun row =>
      if traffic.hashing.verifyApiKey call.rawKey row.keyHash row.salt = false then
        system.setRequest request (.refused .invalid)
      else if row.isRevoked then system.setRequest request (.refused .revoked)
      else if expired row.expiresAt system.now then
        system.setRequest request (.refused .expired)
      else system.setRequest request (.accepted begun row)
  | .accepted begun row =>
      if reachable then
        if system.touchBlocked row.id then system
        else
          { system.setRequest request (.touched begun row) with
            keys := system.keys.updateLastUsed row.id system.now }
      else system.setRequest request (.touched begun row)
  | .touched begun row =>
      { system.setRequest request (.authenticated begun row.state) with
        positive :=
          if traffic.hasRedis ∧ reachable then
            Function.update system.positive lookupHash (some row.cached)
          else system.positive }
  | _ => system

def perform (traffic : KeyTraffic ρ ω) (system : KeySystem ρ ω) :
    KeyAction ρ ω → KeySystem ρ ω
  | .start request =>
      match system.requests request with
      | .idle =>
          system.setRequest request (.started { keys := system.keys, now := system.now })
      | _ => system
  | .advance request reachable => system.advance traffic request reachable
  | .expireKey lookupHash =>
      { system with positive := Function.update system.positive lookupHash none }
  | .expireNegative lookupHash =>
      { system with negative := Function.update system.negative lookupHash false }
  | .expireMisses clientIp =>
      { system with misses := Function.update system.misses clientIp 0 }
  | .tick later => { system with now := max system.now later }
  | .select revocation =>
      let request := traffic.revocations revocation
      match system.revocations revocation with
      | .started =>
          match system.keys.getScoped request.organizationId request.projectId request.keyId with
          | none => system.setRevocation revocation .notFound
          | some row => system.setRevocation revocation (.flushing row)
      | _ => system
  | .flush revocation =>
      match system.revocations revocation with
      | .flushing row =>
          let next := system.setRevocation revocation (.invalidating row)
          if row.isRevoked then next
          else if system.rows row.id = none then
            { next with rows := Function.update system.rows row.id (some revocation) }
          else system
      | _ => system
  | .invalidate revocation reachable =>
      match system.revocations revocation with
      | .invalidating row =>
          let next := system.setRevocation revocation (.committing row)
          if traffic.hasRedis ∧ reachable then
            { next with
              positive := Function.update system.positive row.lookupHash none
              negative := Function.update system.negative row.lookupHash false }
          else next
      | _ => system
  | .commit revocation =>
      match system.revocations revocation with
      | .committing _ =>
          let next := system.finish revocation .committed
          match (system.revocations revocation).toCommit with
          | some keyId => { next with keys := system.keys.revoke keyId }
          | none => next
      | _ => system
  | .abort revocation =>
      match system.revocations revocation with
      | .committed => system
      | _ => system.finish revocation .aborted

/-- Whoever is authenticated presented a key that was neither revoked nor
expired when the request started, and has the state that the database path
sets. -/
def OnlyLiveKeys (traffic : KeyTraffic ρ ω) (system : KeySystem ρ ω) : Prop :=
  ∀ request begun state, system.requests request = .authenticated begun state →
    ∃ row, begun.keys.getByLookupHash (traffic.lookupHash request) = some row ∧
      expired row.expiresAt begun.now = false ∧ row.state = state

end KeySystem

/-- When a revocation commits, nobody has the key in the cache or in hand. -/
def RevokesUnseen {ρ ω : Type} (traffic : KeyTraffic ρ ω) (system : KeySystem ρ ω) :
    KeyAction ρ ω → Prop
  | .commit revocation =>
      ∀ keyId ∈ (system.revocations revocation).toCommit, ∀ row ∈ system.keys.rows,
        row.id = keyId → row.isRevoked = false →
          system.positive row.lookupHash = none ∧
            ∀ request, (system.copies traffic request).map Prod.fst ≠ some row.lookupHash
  | _ => True

/-- An entry per key hash that the database path may store, and that no
statement but a revocation changes. -/
structure KeySource (load : ApiKeys → Text → Option CachedKey) : Prop where
  read : ∀ keys lookupHash row, keys.getByLookupHash lookupHash = some row →
    load keys lookupHash = some row.cached
  touch : ∀ keys keyId now lookupHash,
    load (keys.updateLastUsed keyId now) lookupHash = load keys lookupHash
  revoke : ∀ keys keyId lookupHash entry,
    load (keys.revoke keyId) lookupHash = some entry → load keys lookupHash = some entry

/-- The entry of an accepted key. -/
def loadKey (accepts : ApiKey → Bool) (keys : ApiKeys) (lookupHash : Text) :
    Option CachedKey :=
  (keys.rows.find? fun row => decide (row.lookupHash = lookupHash) && accepts row).map
    ApiKey.cached

theorem loadKey_eq_some {accepts : ApiKey → Bool} {keys : ApiKeys} {lookupHash : Text}
    {entry : CachedKey} :
    loadKey accepts keys lookupHash = some entry ↔
      ∃ row ∈ keys.rows, row.lookupHash = lookupHash ∧ accepts row = true ∧
        row.cached = entry := by
  rw [loadKey, Option.map_eq_some_iff]
  constructor
  · rintro ⟨row, found, same⟩
    have matched := List.find?_some found
    rw [Bool.and_eq_true, decide_eq_true_eq] at matched
    exact ⟨row, List.mem_of_find?_eq_some found, matched.1, matched.2, same⟩
  · rintro ⟨row, stored, sameHash, accepted, same⟩
    refine ⟨row, lookup_of_unique stored ?_ ?_, same⟩
    · rw [Bool.and_eq_true, decide_eq_true_eq]
      exact ⟨sameHash, accepted⟩
    · intro other otherStored meets
      rw [Bool.and_eq_true, decide_eq_true_eq] at meets
      exact keys.eq_of_lookupHash otherStored stored (meets.1.trans sameHash.symm)

section Rows

variable {row : ApiKey} {keyId : Uuid} {now : Time}

theorem revokeRow_cached : (ApiKeys.revokeRow keyId row).cached = row.cached := by
  rw [ApiKeys.revokeRow]
  split
  · rfl
  · rfl

theorem touchRow_cached : (ApiKeys.touchRow keyId now row).cached = row.cached := by
  rw [ApiKeys.touchRow]
  split
  · rfl
  · rfl

theorem touchRow_isRevoked : (ApiKeys.touchRow keyId now row).isRevoked = row.isRevoked := by
  rw [ApiKeys.touchRow]
  split
  · rfl
  · rfl

theorem isRevoked_of_revokeRow (live : (ApiKeys.revokeRow keyId row).isRevoked = false) :
    row.isRevoked = false ∧ row.id ≠ keyId := by
  rw [ApiKeys.revokeRow] at live
  split at live
  · cases live
  · rename_i other
    exact ⟨live, other⟩

end Rows

theorem loadKey_source {accepts : ApiKey → Bool}
    (live : ∀ row, row.isRevoked = false → accepts row = true)
    (touched : ∀ row keyId now, accepts (ApiKeys.touchRow keyId now row) = accepts row)
    (revoked : ∀ row keyId, accepts (ApiKeys.revokeRow keyId row) = true →
      accepts row = true) :
    KeySource (loadKey accepts) := by
  constructor
  · intro keys lookupHash row found
    obtain ⟨stored, sameHash, unrevoked⟩ := ApiKeys.getByLookupHash_eq_some.mp found
    exact loadKey_eq_some.mpr ⟨row, stored, sameHash, live row unrevoked, rfl⟩
  · intro keys keyId now lookupHash
    apply Option.ext
    intro entry
    rw [loadKey_eq_some, loadKey_eq_some]
    constructor
    · rintro ⟨_, stored, sameHash, accepted, same⟩
      obtain ⟨row, rowStored, rfl⟩ := List.mem_map.mp stored
      rw [ApiKeys.touchRow_lookupHash] at sameHash
      rw [touched] at accepted
      rw [touchRow_cached] at same
      exact ⟨row, rowStored, sameHash, accepted, same⟩
    · rintro ⟨row, stored, sameHash, accepted, same⟩
      refine ⟨ApiKeys.touchRow keyId now row, List.mem_map_of_mem stored, ?_, ?_, ?_⟩
      · rw [ApiKeys.touchRow_lookupHash, sameHash]
      · rw [touched, accepted]
      · rw [touchRow_cached, same]
  · intro keys keyId lookupHash entry loaded
    obtain ⟨_, stored, sameHash, accepted, same⟩ := loadKey_eq_some.mp loaded
    obtain ⟨row, rowStored, rfl⟩ := List.mem_map.mp stored
    rw [ApiKeys.revokeRow_lookupHash] at sameHash
    rw [revokeRow_cached] at same
    exact loadKey_eq_some.mpr ⟨row, rowStored, sameHash, revoked row keyId accepted, same⟩

/-- The entries of all keys. -/
def loadAny : ApiKeys → Text → Option CachedKey :=
  loadKey fun _ => true

/-- The entries of the keys that are not revoked. -/
def loadLive : ApiKeys → Text → Option CachedKey :=
  loadKey fun row => !row.isRevoked

theorem loadAny_source : KeySource loadAny :=
  loadKey_source (fun _ _ => rfl) (fun _ _ _ => rfl) fun _ _ _ => rfl

theorem loadLive_source : KeySource loadLive := by
  apply loadKey_source
  · intro row live
    rw [live, Bool.not_false]
  · intro row keyId now
    rw [touchRow_isRevoked]
  · intro row keyId live
    rw [Bool.not_eq_true'] at live ⊢
    exact (isRevoked_of_revokeRow live).1

theorem loadAny_revoke (keys : ApiKeys) (keyId : Uuid) (lookupHash : Text) :
    loadAny (keys.revoke keyId) lookupHash = loadAny keys lookupHash := by
  apply Option.ext
  intro entry
  constructor
  · exact loadAny_source.revoke keys keyId lookupHash entry
  · intro loaded
    obtain ⟨row, stored, sameHash, accepted, same⟩ := loadKey_eq_some.mp loaded
    refine loadKey_eq_some.mpr
      ⟨ApiKeys.revokeRow keyId row, List.mem_map_of_mem stored, ?_, accepted, ?_⟩
    · rw [ApiKeys.revokeRow_lookupHash, sameHash]
    · rw [revokeRow_cached, same]

theorem revoked_of_changed {keys : ApiKeys} {keyId : Uuid} {lookupHash : Text}
    (changed : loadLive (keys.revoke keyId) lookupHash ≠ loadLive keys lookupHash) :
    ∃ row ∈ keys.rows, row.id = keyId ∧ row.isRevoked = false ∧
      row.lookupHash = lookupHash := by
  by_contra absent
  push Not at absent
  apply changed
  apply Option.ext
  intro entry
  constructor
  · exact loadLive_source.revoke keys keyId lookupHash entry
  · intro loaded
    obtain ⟨row, stored, sameHash, accepted, same⟩ := loadKey_eq_some.mp loaded
    have live : row.isRevoked = false := by
      rwa [Bool.not_eq_true'] at accepted
    have other : row.id ≠ keyId := fun sameId => absent row stored sameId live sameHash
    have kept : ApiKeys.revokeRow keyId row = row := if_neg other
    refine loadKey_eq_some.mpr ⟨row, ?_, sameHash, accepted, same⟩
    rw [← kept]
    exact List.mem_map_of_mem stored

end OpenZync.Auth
