import Mathlib.Data.List.Dedup
import OpenZync.Auth.Accounts

/-!
# The user service

The checks of `UserService` and the columns its calls write.  A call loads the
row it is about to write; the flush then names the columns whose assigned value
differs from the loaded one.
-/

namespace OpenZync.Auth

/-- `ALL_PERMISSIONS`. -/
def allPermissions : List Permission :=
  ["project:read".toList, "project:write".toList, "project:manage".toList,
    "configuration:read".toList, "configuration:write".toList, "members:read".toList,
    "members:write".toList]

/-- `MEMBER_DEFAULT_PERMISSIONS`. -/
def memberDefaultPermissions : List Permission :=
  ["project:read".toList, "project:write".toList]

/-- The roles that the request schemas accept: `Literal["admin", "member"]`. -/
inductive DashboardRole where
  | admin
  | member
  deriving DecidableEq

def DashboardRole.toRole : DashboardRole → Role
  | .admin => .admin
  | .member => .member

/-- `_permissions_for_role`. -/
def permissionsForRole (role : Role) : List Permission :=
  if role.isWildcard then [] else memberDefaultPermissions

inductive ServiceError where
  | conflict (message : Text)
  | notFound (message : Text)
  | validation (message : Text)
  /-- An `IntegrityError` of the flush. -/
  | integrity
  deriving DecidableEq

def userNotFound (userId organizationId : Uuid) : ServiceError :=
  .notFound ("User ".toList ++ Text.ofUuid userId ++ " not found in organization ".toList ++
    Text.ofUuid organizationId)

/-- The fields a `PATCH` request sets.  An inner `none` is an explicit null. -/
structure UpdateFields where
  name : Option (Option Text)
  email : Option (Option Text)
  role : Option (Option DashboardRole)
  permissions : Option (Option (List Permission))
  deriving DecidableEq

/-- The columns that an `UPDATE` sets. -/
structure UserChanges where
  name : Option (Option Text)
  email : Option (Option Text)
  role : Option Role
  permissions : Option (List Permission)
  isDeleted : Option Bool
  deriving DecidableEq

def UserChanges.none : UserChanges :=
  { name := .none
    email := .none
    role := .none
    permissions := .none
    isDeleted := .none }

def UserChanges.apply (changes : UserChanges) (user : User) : User :=
  { user with
    name := changes.name.getD user.name
    email := changes.email.getD user.email
    role := changes.role.getD user.role
    permissions := changes.permissions.getD user.permissions
    isDeleted := changes.isDeleted.getD user.isDeleted }

/-- What `UserRepository` assigns to a loaded row before the flush. -/
inductive Assignment where
  | update (fields : UpdateFields)
  | softDelete
  deriving DecidableEq

/-- The columns the flush writes.  `role` and `permissions` are `NOT NULL`. -/
def Assignment.changes (loaded : User) : Assignment → Except ServiceError UserChanges
  | .update fields =>
      if fields.role = some none ∨ fields.permissions = some none then .error .integrity
      else .ok
        { name := fields.name.filter (· ≠ loaded.name)
          email := fields.email.filter (· ≠ loaded.email)
          role := (fields.role.join.map DashboardRole.toRole).filter (· ≠ loaded.role)
          permissions := fields.permissions.join.filter (· ≠ loaded.permissions)
          isDeleted := none }
  | .softDelete =>
      .ok { UserChanges.none with isDeleted := (some true).filter (· ≠ loaded.isDeleted) }

namespace Users

def countActiveAdmins (users : List User) (organizationId : Uuid) : Nat :=
  (users.filter fun user => decide (user.organizationId = organizationId ∧
    user.role = .admin ∧ user.isActive = true ∧ user.isDeleted = false)).length

def existsByExternalId (users : List User) (organizationId : Uuid) (externalId : Text) :
    Bool :=
  users.any fun user =>
    decide (user.organizationId = organizationId ∧ user.externalId = externalId)

/-- `ix_user_email_unique`: no two rows that are not deleted share an email. -/
def emailTaken (users : List User) (userId : Uuid) (email : Option Text) : Bool :=
  email.isSome && users.any fun user =>
    decide (user.id ≠ userId ∧ user.email = email ∧ user.isDeleted = false)

/-- The `UPDATE` of a loaded row. -/
def write (users : List User) (organizationId userId : Uuid) (changes : UserChanges) :
    List User :=
  users.map fun user =>
    if user.id = userId ∧ user.organizationId = organizationId then changes.apply user
    else user

theorem getByUuid_write_of_ne {organizationId userId otherOrg other : Uuid}
    (different : ¬ (other = userId ∧ otherOrg = organizationId)) (users : List User)
    (changes : UserChanges) :
    getByUuid (write users organizationId userId changes) otherOrg other =
      getByUuid users otherOrg other := by
  induction users with
  | nil => rfl
  | cons user users induction =>
      rw [getByUuid, getByUuid, write] at induction ⊢
      rw [List.map_cons]
      by_cases written : user.id = userId ∧ user.organizationId = organizationId
      · have elsewhere : ¬ (user.id = other ∧ user.organizationId = otherOrg) := by
          rintro ⟨rfl, rfl⟩
          exact different written
        have missed : decide (user.id = other ∧ user.organizationId = otherOrg) = false :=
          decide_eq_false elsewhere
        have missedWritten : decide ((changes.apply user).id = other ∧
            (changes.apply user).organizationId = otherOrg) = false := missed
        rw [if_pos written, List.find?_cons, List.find?_cons]
        simp only [missedWritten, missed]
        exact induction
      · rw [if_neg written, List.find?_cons, List.find?_cons, induction]

theorem getByUuid_write (users : List User) (organizationId userId : Uuid)
    (changes : UserChanges) :
    getByUuid (write users organizationId userId changes) organizationId userId =
      (getByUuid users organizationId userId).map changes.apply := by
  induction users with
  | nil => rfl
  | cons user users induction =>
      rw [getByUuid, getByUuid, write] at induction ⊢
      rw [List.map_cons]
      by_cases written : user.id = userId ∧ user.organizationId = organizationId
      · have found : decide (user.id = userId ∧ user.organizationId = organizationId) = true :=
          decide_eq_true written
        have foundWritten : decide ((changes.apply user).id = userId ∧
            (changes.apply user).organizationId = organizationId) = true := found
        rw [if_pos written, List.find?_cons, List.find?_cons]
        simp only [foundWritten, found]
        rfl
      · rw [if_neg written, List.find?_cons_of_neg (by simpa using written), induction,
          List.find?_cons_of_neg (by simpa using written)]

end Users

/-- The checks of `update_user` on the row whose role is to change. -/
def checkRoleChange (organizationId userId actorUserId : Uuid)
    (newRole : Option DashboardRole) : Option User → Except ServiceError User
  | none => .error (userNotFound userId organizationId)
  | some target =>
      if userId = actorUserId then
        .error (.validation "You cannot change your own role.".toList)
      else if target.role = .superadmin ∧ newRole.map DashboardRole.toRole ≠ some .superadmin then
        .error (.validation "Superadmin role cannot be changed via this endpoint.".toList)
      else .ok target

/-- An admin is about to lose the role. -/
def demotes (target : User) (newRole : Option DashboardRole) : Bool :=
  decide (target.role = .admin ∧ newRole ≠ some .admin)

def checkLastAdmin (message : Text) (admins : Nat) : Except ServiceError Unit :=
  if admins ≤ 1 then .error (.validation message) else .ok ()

def lastAdminDemoted : Text :=
  "Cannot demote the last admin in the organization.".toList

def lastAdminDeleted : Text :=
  "Cannot delete the last admin in the organization.".toList

/-- The permissions asked for that the actor holds, `sorted`. -/
def capped (requested own : List Permission) : List Permission :=
  (requested.filter (· ∈ own)).dedup.insertionSort (· ≤ ·)

theorem mem_capped {requested own : List Permission} {permission : Permission} :
    permission ∈ capped requested own ↔ permission ∈ requested ∧ permission ∈ own := by
  rw [capped, List.mem_insertionSort, List.mem_dedup, List.mem_filter, decide_eq_true_eq]

/-- The permissions an `update_user` call grants.  `none` for the permissions
of the actor stands for the wildcard. -/
def grantPermissions (userId actorUserId : Uuid)
    (actorPermissions : Option (List Permission)) (fields : UpdateFields) :
    Except ServiceError UpdateFields :=
  match fields.permissions with
  | none => .ok fields
  | some requested =>
      if userId = actorUserId then
        .error (.validation "You cannot change your own permissions.".toList)
      else
        match actorPermissions with
        | none => .ok fields
        | some own =>
            .ok { fields with permissions := some (some (capped (requested.getD []) own)) }

/-- The checks of `delete_user` on the row to delete. -/
def checkDeletion (organizationId userId : Uuid) : Option User → Except ServiceError User
  | none => .error (userNotFound userId organizationId)
  | some user =>
      if user.role = .superadmin then
        .error (.validation ("Superadmin accounts cannot be deleted via this endpoint. ".toList ++
          "Use the superadmin console.".toList))
      else .ok user

/-- `create`, with the identifier and the instant the database assigns. -/
def createUser (users : List User) (organizationId : Uuid) (externalId : Text)
    (name email : Option Text) (role : Role) (id : Uuid) (now : Time) :
    Except ServiceError (List User) :=
  if Users.existsByExternalId users organizationId externalId then
    .error (.conflict ("User with external_id '".toList ++ externalId ++
      "' already exists in organization ".toList ++ Text.ofUuid organizationId))
  else if Users.emailTaken users id email then .error .integrity
  else .ok
    ({ id := id
       organizationId := organizationId
       externalId := externalId
       name := name
       email := email
       role := role
       permissions := permissionsForRole role
       passwordHash := none
       isActive := true
       isDeleted := false
       isEmailVerified := false
       mfaEnabled := false
       mustChangePassword := false
       inviteTokenHash := none
       createdAt := now } :: users)

/-- The `SELECT`, the assignments and the flush of `UserRepository.update`. -/
def updateRow (users : List User) (organizationId userId : Uuid) (fields : UpdateFields) :
    Except ServiceError (List User) :=
  match Users.getByUuid users organizationId userId with
  | none => .error (userNotFound userId organizationId)
  | some loaded => do
      let changes ← (Assignment.update fields).changes loaded
      if !loaded.isDeleted && changes.email.any (Users.emailTaken users userId) then
        .error .integrity
      else .ok (Users.write users organizationId userId changes)

/-- The role checks of `update_user`, made when the role is among the fields. -/
def checkRole (users : List User) (organizationId userId actorUserId : Uuid) :
    Option (Option DashboardRole) → Except ServiceError Unit
  | none => .ok ()
  | some newRole => do
      let target ← checkRoleChange organizationId userId actorUserId newRole
        (Users.getByUuid users organizationId userId)
      if demotes target newRole then
        checkLastAdmin lastAdminDemoted (Users.countActiveAdmins users organizationId)

def updateUser (users : List User) (organizationId userId : Uuid) (fields : UpdateFields)
    (actorUserId : Uuid) (actorPermissions : Option (List Permission)) :
    Except ServiceError (List User) := do
  checkRole users organizationId userId actorUserId fields.role
  let granted ← grantPermissions userId actorUserId actorPermissions fields
  updateRow users organizationId userId granted

end OpenZync.Auth
