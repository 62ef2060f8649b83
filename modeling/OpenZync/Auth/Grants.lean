import OpenZync.Auth.ApiKeys
import OpenZync.Auth.RbacCache

/-!
# Grants

What a principal may pass on.  Permissions are capped at those of the actor
wherever they are granted by name; a role is not, and neither are the
permissions that come with it.
-/

namespace OpenZync.Auth

/-- The user or the key that a request is authenticated as. -/
inductive Principal where
  | jwt (orgId userId : Uuid)
  | apiKey (orgId : Uuid) (userId : Option Uuid) (permissions : List Permission)
  deriving DecidableEq

namespace Principal

def orgId : Principal → Uuid
  | .jwt orgId _ => orgId
  | .apiKey orgId _ _ => orgId

/-- `request.state.user_id`: for a key, who has created it. -/
def userId : Principal → Option Uuid
  | .jwt _ userId => some userId
  | .apiKey _ userId _ => userId

end Principal

/-- `get_org_role`, past its cache. -/
def getOrgRole (users : List User) (orgId userId : Uuid) : Role :=
  match Users.getByUuid users orgId userId with
  | some user => if user.Live then user.role else .member
  | none => .member

/-- `get_effective_permissions`, past its cache. -/
def getEffectivePermissions (users : List User) (orgId userId : Uuid) : List Permission :=
  match Users.getByUuid users orgId userId with
  | some user => if user.Live then user.permissions else []
  | none => []

def getActorPermissions (users : List User) : Principal → Option (List Permission)
  | .apiKey _ _ permissions => some permissions
  | .jwt orgId userId =>
      if (getOrgRole users orgId userId).isWildcard then none
      else some (getEffectivePermissions users orgId userId)

/-- `_check_permission`. -/
def checkPermission (users : List User) (principal : Principal) (required : Permission) : Bool :=
  match principal with
  | .apiKey _ _ permissions => permissions.contains required
  | .jwt orgId userId =>
      (getOrgRole users orgId userId).isWildcard ||
        (getEffectivePermissions users orgId userId).contains required

/-- The committed rows, with the primary key of `users`. -/
structure GrantStore where
  users : List User
  keys : ApiKeys
  ids : (users.map User.id).Nodup

namespace GrantStore

/-- A statement that would repeat a primary key fails. -/
def withUsers (store : GrantStore) (users : List User) : Except ServiceError GrantStore :=
  if ids : (users.map User.id).Nodup then
    .ok { store with
      users := users
      ids := ids }
  else .error .integrity

def withKeys (store : GrantStore) (keys : ApiKeys) : GrantStore :=
  { store with keys := keys }

end GrantStore

/-- The three calls that grant something, with what is drawn for new rows. -/
inductive GrantCall where
  | createUser (externalId : Text) (name email : Option Text) (role : DashboardRole) (id : Uuid)
      (now : Time)
  | updateUser (userId : Uuid) (fields : UpdateFields)
  | createProjectKey (projectId : Uuid) (permissions : List Permission) (drawn : DrawnKey)
  deriving DecidableEq

/-- The permission that the route asks for. -/
def GrantCall.required : GrantCall → Permission
  | .createUser _ _ _ _ _ _ => "members:write".toList
  | .updateUser _ _ => "members:write".toList
  | .createProjectKey _ _ _ => "project:manage".toList

/-- The service call behind a route that lets the principal in. -/
def serve (principal : Principal) (store : GrantStore) :
    GrantCall → Except ServiceError GrantStore
  | .createUser externalId name email role id now => do
      let users ← createUser store.users principal.orgId externalId name email role.toRole id now
      store.withUsers users
  | .updateUser userId fields =>
      match principal.userId with
      | none => .error .integrity
      | some actor => do
          let users ← updateUser store.users principal.orgId userId fields actor
            (getActorPermissions store.users principal)
          store.withUsers users
  | .createProjectKey projectId permissions drawn =>
      match principal.userId with
      | none => .error .integrity
      | some user => do
          let keys ← createProjectKey store.keys principal.orgId projectId drawn permissions
            (some user) (getActorPermissions store.users principal)
          .ok (store.withKeys keys)

/-- A call; one that is refused or fails changes nothing. -/
def performGrant (principal : Principal) (store : GrantStore) (call : GrantCall) : GrantStore :=
  if checkPermission store.users principal call.required then
    (serve principal store call).toOption.getD store
  else store

/-- The user has the permission, explicitly or through the role. -/
def User.Has (user : User) (permission : Permission) : Prop :=
  user.Live ∧ (user.role.isWildcard = true ∨ permission ∈ user.permissions)

instance (user : User) (permission : Permission) : Decidable (user.Has permission) :=
  inferInstanceAs (Decidable (_ ∧ _))

/-- No user and no key has got a permission that is not among `own`. -/
structure GrantsWithin (own : List Permission) (before after : GrantStore) : Prop where
  users : ∀ user ∈ after.users, ∀ permission ∈ allPermissions, user.Has permission →
    permission ∈ own ∨ ∃ old ∈ before.users, old.id = user.id ∧ old.Has permission
  keys : ∀ key ∈ after.keys.rows, ∀ permission ∈ key.permissions,
    permission ∈ own ∨ key ∈ before.keys.rows

/-- What comes with a role at the creation of a user. -/
def DashboardRole.grants : DashboardRole → List Permission
  | .admin => allPermissions
  | .member => memberDefaultPermissions

/-- A role that a call of the principal is about to give brings nothing along but
the permissions of the principal and those that the user has already. -/
def RoleCovered (own : List Permission) (principal : Principal) (store : GrantStore)
    (call : GrantCall) : Prop :=
  checkPermission store.users principal call.required = true →
    match call with
    | .createUser externalId _ email role id _ =>
        Users.existsByExternalId store.users principal.orgId externalId = false →
          Users.emailTaken store.users id email = false →
          ∀ permission ∈ role.grants, permission ∈ own
    | .updateUser userId fields =>
        fields.role = some (some .admin) → principal.userId ≠ some userId →
          ∀ target ∈ Users.getByUuid store.users principal.orgId userId, target.Live →
            ∀ permission ∈ allPermissions, permission ∈ own ∨ target.Has permission
    | .createProjectKey _ _ _ => True

end OpenZync.Auth
