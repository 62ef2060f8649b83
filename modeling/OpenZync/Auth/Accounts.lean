import Mathlib.Data.List.Sort
import OpenZync.Library.FirstItems
import OpenZync.Text

/-!
# Users and organizations

The rows of `users` and `organizations` with the columns that authentication
and authorisation read.
-/

namespace OpenZync.Auth

inductive Role where
  | member
  | admin
  | superadmin
  deriving DecidableEq

/-- `role in ("admin", "superadmin")`: the role grants every permission. -/
def Role.isWildcard : Role → Bool
  | .member => false
  | .admin => true
  | .superadmin => true

/-- `ck_organization_status`. -/
inductive OrgStatus where
  | pending
  | approved
  | rejected
  deriving DecidableEq

structure Organization where
  id : Uuid
  name : Text
  status : OrgStatus
  isActive : Bool
  orgCode : Text
  joinEnabled : Bool
  deriving DecidableEq

/-- A permission string, such as `project:read`. -/
abbrev Permission := Text

structure User where
  id : Uuid
  organizationId : Uuid
  externalId : Text
  name : Option Text
  email : Option Text
  role : Role
  permissions : List Permission
  passwordHash : Option Text
  isActive : Bool
  isDeleted : Bool
  isEmailVerified : Bool
  mfaEnabled : Bool
  mustChangePassword : Bool
  inviteTokenHash : Option Text
  createdAt : Time
  deriving DecidableEq

/-- The user is neither deactivated nor deleted. -/
def User.Live (user : User) : Prop :=
  user.isActive = true ∧ user.isDeleted = false

instance (user : User) : Decidable user.Live :=
  inferInstanceAs (Decidable (_ ∧ _))

namespace Users

def getByUuid (users : List User) (organizationId userId : Uuid) : Option User :=
  users.find? fun user => decide (user.id = userId ∧ user.organizationId = organizationId)

theorem getByUuid_some {users : List User} {organizationId userId : Uuid} {user : User}
    (found : getByUuid users organizationId userId = some user) :
    user ∈ users ∧ user.id = userId ∧ user.organizationId = organizationId :=
  Library.lookup_some found

/-- `find_user_by_email`, which skips deleted rows and finds at most one. -/
def findByEmail (users : List User) (email : Text) : Option User :=
  users.find? fun user => decide (user.email = some email ∧ user.isDeleted = false)

/-- `get_user_by_id`, which skips deleted rows. -/
def getById (users : List User) (userId : Uuid) : Option User :=
  users.find? fun user => decide (user.id = userId ∧ user.isDeleted = false)

/-- The designated admin of an organization that waits for approval. -/
def findPendingAdminByOrg (users : List User) (organizationId : Uuid) : Option User :=
  ((users.filter fun user => decide (user.organizationId = organizationId ∧
    user.role = .admin ∧ user.passwordHash = none ∧ user.inviteTokenHash = none ∧
    user.isDeleted = false)).insertionSort
    fun first second => first.createdAt ≤ second.createdAt).head?

/-- `set_invite_token`, which restarts the window of the invite. -/
def setInviteToken (users : List User) (organizationId userId : Uuid) (tokenHash : Text)
    (now : Time) : List User :=
  users.map fun user =>
    if user.id = userId ∧ user.organizationId = organizationId then
      { user with inviteTokenHash := some tokenHash, createdAt := now }
    else user

end Users

namespace Organizations

def getById (organizations : List Organization) (orgId : Uuid) : Option Organization :=
  organizations.find? fun org => decide (org.id = orgId)

def status (organizations : List Organization) (orgId : Uuid) : Option OrgStatus :=
  (getById organizations orgId).map Organization.status

def setStatus (organizations : List Organization) (orgId : Uuid) (status : OrgStatus) :
    List Organization :=
  organizations.map fun org => if org.id = orgId then { org with status := status } else org

theorem getById_setStatus (organizations : List Organization) (orgId other : Uuid)
    (status : OrgStatus) :
    getById (setStatus organizations orgId status) other =
      (getById organizations other).map fun org =>
        if other = orgId then { org with status := status } else org := by
  induction organizations with
  | nil => rfl
  | cons org organizations induction =>
      rw [getById, getById, setStatus] at induction ⊢
      by_cases found : org.id = other
      · by_cases same : org.id = orgId
        · simp [found, same ▸ found.symm]
        · have different : other ≠ orgId := fun equal => same (found.trans equal)
          simp [found, different]
      · have kept : (if org.id = orgId then { org with status := status } else org).id ≠
            other := by
          split <;> exact found
        rw [List.map_cons, List.find?_cons_of_neg (by simpa using kept), induction,
          List.find?_cons_of_neg (by simpa using found)]

theorem status_setStatus_of_ne {organizations : List Organization} {orgId other : Uuid}
    (different : other ≠ orgId) (value : OrgStatus) :
    status (setStatus organizations orgId value) other = status organizations other := by
  rw [status, getById_setStatus]
  simp [status, different]

theorem status_setStatus {organizations : List Organization} {orgId : Uuid}
    {current : OrgStatus} (known : status organizations orgId = some current)
    (value : OrgStatus) :
    status (setStatus organizations orgId value) orgId = some value := by
  obtain ⟨org, found, _⟩ := Option.map_eq_some_iff.mp known
  rw [status, getById_setStatus, found]
  simp

end Organizations

end OpenZync.Auth
