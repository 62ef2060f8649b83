import OpenZync.Auth.UserService

/-!
# API keys

The rows of `api_keys`.  A row never changes what a request is authenticated
as; it is only revoked and stamped with its last use.
-/

namespace OpenZync.Auth

open OpenZync.Library

structure ApiKey where
  id : Uuid
  organizationId : Uuid
  projectId : Uuid
  createdBy : Option Uuid
  lookupHash : Text
  keyHash : Text
  salt : Text
  permissions : List Permission
  lastUsedAt : Option Time
  expiresAt : Option Time
  isRevoked : Bool
  deriving DecidableEq

/-- An expiry strictly before the clock. -/
def expired (expiresAt : Option Time) (now : Time) : Bool :=
  expiresAt.any fun expires => decide (expires < now)

theorem expired_mono {expiresAt : Option Time} {now later : Time} (passed : now ≤ later)
    (fresh : expired expiresAt later = false) : expired expiresAt now = false := by
  cases expiresAt with
  | none => rfl
  | some expires =>
      simp only [expired, Option.any_some, decide_eq_false_iff_not, Int.not_lt] at fresh ⊢
      exact Int.le_trans passed fresh

/-- The table, with the unique column by which requests find their key. -/
structure ApiKeys where
  rows : List ApiKey
  unique : (rows.map ApiKey.lookupHash).Nodup

namespace ApiKeys

/-- `get_by_lookup_hash`, which skips revoked keys. -/
def getByLookupHash (keys : ApiKeys) (lookupHash : Text) : Option ApiKey :=
  keys.rows.find? fun row => decide (row.lookupHash = lookupHash ∧ row.isRevoked = false)

/-- The `SELECT` of `revoke`. -/
def getScoped (keys : ApiKeys) (organizationId projectId keyId : Uuid) : Option ApiKey :=
  keys.rows.find? fun row => decide (row.id = keyId ∧ row.organizationId = organizationId ∧
    row.projectId = projectId)

/-- An `UPDATE` that leaves the lookup hashes alone. -/
def update (keys : ApiKeys) (change : ApiKey → ApiKey)
    (kept : ∀ row, (change row).lookupHash = row.lookupHash) : ApiKeys :=
  { rows := keys.rows.map change
    unique := by
      have same : ApiKey.lookupHash ∘ change = ApiKey.lookupHash := funext kept
      rw [List.map_map, same]
      exact keys.unique }

def revokeRow (keyId : Uuid) (row : ApiKey) : ApiKey :=
  if row.id = keyId then { row with isRevoked := true } else row

/-- `LAST_USED_WRITE_INTERVAL`: five minutes. -/
def lastUsedWriteInterval : Time :=
  5 * 60 * 1000000

/-- Whether `update_last_used` touches the row. -/
def stale (row : ApiKey) (now : Time) : Bool :=
  row.lastUsedAt.all fun used => decide (used < now - lastUsedWriteInterval)

def touchRow (keyId : Uuid) (now : Time) (row : ApiKey) : ApiKey :=
  if row.id = keyId ∧ stale row now = true then { row with lastUsedAt := some now } else row

theorem revokeRow_lookupHash (keyId : Uuid) (row : ApiKey) :
    (revokeRow keyId row).lookupHash = row.lookupHash := by
  rw [revokeRow]
  split
  · rfl
  · rfl

theorem touchRow_lookupHash (keyId : Uuid) (now : Time) (row : ApiKey) :
    (touchRow keyId now row).lookupHash = row.lookupHash := by
  rw [touchRow]
  split
  · rfl
  · rfl

/-- `create`, under a lookup hash that is new. -/
def create (keys : ApiKeys) (row : ApiKey) : Except ServiceError ApiKeys :=
  if fresh : ∀ old ∈ keys.rows.map ApiKey.lookupHash, old ≠ row.lookupHash then
    .ok
      { rows := row :: keys.rows
        unique := List.nodup_cons.mpr ⟨fun held => fresh _ held rfl, keys.unique⟩ }
  else .error .integrity

theorem create_ok {keys later : ApiKeys} {row : ApiKey}
    (created : keys.create row = .ok later) : later.rows = row :: keys.rows := by
  rw [create] at created
  split at created
  · cases created
    rfl
  · cases created

def revoke (keys : ApiKeys) (keyId : Uuid) : ApiKeys :=
  keys.update (revokeRow keyId) (revokeRow_lookupHash keyId)

def updateLastUsed (keys : ApiKeys) (keyId : Uuid) (now : Time) : ApiKeys :=
  keys.update (touchRow keyId now) (touchRow_lookupHash keyId now)

theorem eq_of_lookupHash (keys : ApiKeys) {first second : ApiKey} (inFirst : first ∈ keys.rows)
    (inSecond : second ∈ keys.rows) (same : first.lookupHash = second.lookupHash) :
    first = second :=
  List.inj_on_of_nodup_map keys.unique inFirst inSecond same

theorem getByLookupHash_eq_some {keys : ApiKeys} {lookupHash : Text} {row : ApiKey} :
    keys.getByLookupHash lookupHash = some row ↔
      row ∈ keys.rows ∧ row.lookupHash = lookupHash ∧ row.isRevoked = false := by
  constructor
  · intro found
    exact lookup_some found
  · rintro ⟨stored, sameHash, live⟩
    apply lookup_of_unique stored (decide_eq_true ⟨sameHash, live⟩)
    intro other otherStored meets
    have matched := of_decide_eq_true meets
    exact keys.eq_of_lookupHash otherStored stored (matched.1.trans sameHash.symm)

end ApiKeys

/-- What `generate_api_key` and the database draw for a new key. -/
structure DrawnKey where
  id : Uuid
  lookupHash : Text
  keyHash : Text
  salt : Text
  deriving DecidableEq

/-- `permissions or ["project:read", "project:write"]`. -/
def keyPermissionsOrDefault (permissions : List Permission) : List Permission :=
  if permissions = [] then ["project:read".toList, "project:write".toList] else permissions

/-- The permissions of a new project key.  `none` for those of the actor stands
for the wildcard. -/
def projectKeyPermissions (permissions : List Permission) (createdBy : Option Uuid)
    (actorPermissions : Option (List Permission)) : List Permission :=
  let requested := (keyPermissionsOrDefault permissions).filter
    fun permission => "project:".toList.isPrefixOf permission
  match createdBy, actorPermissions with
  | some _, some own => capped requested own
  | _, _ => requested

def createProjectKey (keys : ApiKeys) (organizationId projectId : Uuid) (drawn : DrawnKey)
    (permissions : List Permission) (createdBy : Option Uuid)
    (actorPermissions : Option (List Permission)) : Except ServiceError ApiKeys :=
  let requested := projectKeyPermissions permissions createdBy actorPermissions
  if requested = [] then
    .error (.validation ("API key must include at least one project:* permission ".toList ++
      "within your permission set.".toList))
  else
    keys.create
      { id := drawn.id
        organizationId := organizationId
        projectId := projectId
        createdBy := createdBy
        lookupHash := drawn.lookupHash
        keyHash := drawn.keyHash
        salt := drawn.salt
        permissions := keyPermissionsOrDefault requested
        lastUsedAt := none
        expiresAt := none
        isRevoked := false }

theorem createProjectKey_ok {keys later : ApiKeys} {organizationId projectId user : Uuid}
    {drawn : DrawnKey} {permissions own : List Permission}
    (created : createProjectKey keys organizationId projectId drawn permissions (some user)
      (some own) = .ok later) :
    ∃ row, later.rows = row :: keys.rows ∧ ∀ permission ∈ row.permissions, permission ∈ own := by
  simp only [createProjectKey] at created
  split at created
  · cases created
  · rename_i granted
    refine ⟨_, ApiKeys.create_ok created, ?_⟩
    intro permission member
    simp only [keyPermissionsOrDefault, if_neg granted] at member
    exact (mem_capped.mp member).2

end OpenZync.Auth
