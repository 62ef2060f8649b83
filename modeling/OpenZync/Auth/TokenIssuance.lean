import OpenZync.Auth.OrgApproval
import OpenZync.Auth.RefreshTokens
import OpenZync.Auth.UserService

/-!
# The flows that issue tokens

Signup, approval, join and the flows that end in `issue_tokens`, one statement
or Redis command at a time, beside the changes that other requests make to the
rows they read.  What a step checks outside the tables, a password or a code,
is part of the action.
-/

namespace OpenZync.Auth

open OpenZync.Library

/-- The arguments of `issue_tokens`. -/
structure Identity where
  userId : Uuid
  organizationId : Uuid
  role : Role
  deriving DecidableEq

def User.identity (user : User) : Identity :=
  { userId := user.id
    organizationId := user.organizationId
    role := user.role }

/-- The claims of an access token that are not its lifetime. -/
structure AccessClaims extends Identity where
  mustChangePassword : Bool
  deriving DecidableEq

/-- The payload of `mfa:session:`. -/
structure PendingLogin where
  identity : Identity
  email : Text
  deriving DecidableEq

/-- What the flows and `approve_org` write to the row of a user. -/
inductive CredentialEdit where
  | markEmailVerified
  | changePassword (passwordHash : Text)
  | resetPassword (passwordHash : Text)
  | acceptInvite (passwordHash : Text)
  | setInviteToken (tokenHash : Text) (now : Time)
  | setMfaEnabled (enabled : Bool)
  deriving DecidableEq

def CredentialEdit.apply (user : User) : CredentialEdit → User
  | .markEmailVerified => { user with isEmailVerified := true }
  | .changePassword passwordHash =>
      { user with passwordHash := some passwordHash, mustChangePassword := false }
  | .resetPassword passwordHash => { user with passwordHash := some passwordHash }
  | .acceptInvite passwordHash =>
      { user with
        inviteTokenHash := none, passwordHash := some passwordHash, isEmailVerified := true }
  | .setInviteToken tokenHash now =>
      { user with inviteTokenHash := some tokenHash, createdAt := now }
  | .setMfaEnabled enabled => { user with mfaEnabled := enabled }

/-- Role changes, deactivation and deletion. -/
inductive StatusEdit where
  | setRole (role : Role)
  | setActive (active : Bool)
  | softDelete
  deriving DecidableEq

def StatusEdit.apply (user : User) : StatusEdit → User
  | .setRole role => { user with role := role }
  | .setActive active => { user with isActive := active }
  | .softDelete => { user with isDeleted := true }

/-- The committed rows, with the primary key of `users`.  Beside them stand all
the users there have ever been, with their organizations: an identifier that is
drawn is new. -/
structure AuthStore where
  organizations : List Organization
  users : List User
  tokens : TokenTable
  everyone : List (Uuid × Uuid)
  ids : (users.map User.id).Nodup
  drawn : (everyone.map Prod.fst).Nodup
  known : ∀ user ∈ users, (user.id, user.organizationId) ∈ everyone

namespace AuthStore

def empty : AuthStore :=
  { organizations := []
    users := []
    tokens := .empty
    everyone := []
    ids := List.nodup_nil
    drawn := List.nodup_nil
    known := by simp }

/-- The row with a primary key, deleted or not. -/
def row (store : AuthStore) (userId : Uuid) : Option User :=
  store.users.find? fun user => decide (user.id = userId)

/-- The pending invite that the `UPDATE` of `claim_invite` matches. -/
def findInvite (store : AuthStore) (tokenHash : Text) (cutoff : Time) : Option User :=
  store.users.find? fun user => decide (user.inviteTokenHash = some tokenHash ∧
    user.isActive = true ∧ user.isDeleted = false ∧ cutoff ≤ user.createdAt)

/-- `UPDATE` of one row of `users`. -/
def modify (store : AuthStore) (userId : Uuid) (change : User → User)
    (sameId : ∀ user, (change user).id = user.id)
    (sameOrg : ∀ user, (change user).organizationId = user.organizationId) : AuthStore :=
  { store with
    users := store.users.map fun user => if user.id = userId then change user else user
    ids := by
      have same : User.id ∘ (fun user => if user.id = userId then change user else user) =
          User.id := by
        funext user
        rw [Function.comp_apply]
        split
        · exact sameId user
        · rfl
      rw [List.map_map, same]
      exact store.ids
    known := by
      intro user member
      obtain ⟨old, stored, rfl⟩ := List.mem_map.mp member
      split
      · rw [sameId, sameOrg]
        exact store.known old stored
      · exact store.known old stored }

def edit (store : AuthStore) (userId : Uuid) (edit : CredentialEdit) : AuthStore :=
  store.modify userId edit.apply (fun _ => by cases edit <;> rfl) fun _ => by cases edit <;> rfl

def setStatus (store : AuthStore) (userId : Uuid) (edit : StatusEdit) : AuthStore :=
  store.modify userId edit.apply (fun _ => by cases edit <;> rfl) fun _ => by cases edit <;> rfl

/-- `hard_delete_pending_user`. -/
def hardDelete (store : AuthStore) (userId : Uuid) : AuthStore :=
  { store with
    users := store.users.filter fun user => decide (¬ (user.id = userId ∧
      user.inviteTokenHash.isSome = true ∧ user.isDeleted = false))
    ids := store.ids.sublist (List.filter_sublist.map User.id)
    known := fun user member => store.known user (List.mem_of_mem_filter member) }

end AuthStore

inductive AuthError where
  | authentication (message : Text)
  | authorization (message : Text)
  | notFound (message : Text)
  | validation (message : Text)
  | approval (error : ApprovalError)
  /-- A key is taken, or the row of an `UPDATE` is gone. -/
  | database

namespace AuthStore

/-- A user is inserted under an identifier that is new. -/
def insertUser (store : AuthStore) (user : User) : Except AuthError AuthStore :=
  if fresh : user.id ∉ store.everyone.map Prod.fst then
    .ok { store with
      users := user :: store.users
      everyone := (user.id, user.organizationId) :: store.everyone
      ids := by
        refine List.nodup_cons.mpr ⟨?_, store.ids⟩
        intro used
        obtain ⟨other, stored, same⟩ := List.mem_map.mp used
        exact fresh (same ▸ List.mem_map_of_mem (store.known other stored))
      drawn := List.nodup_cons.mpr ⟨fresh, store.drawn⟩
      known := by
        intro other member
        rcases List.mem_cons.mp member with rfl | stored
        · exact List.mem_cons_self
        · exact List.mem_cons_of_mem _ (store.known other stored) }
  else .error .database

def insertOrganization (store : AuthStore) (org : Organization) : Except AuthError AuthStore :=
  if Organizations.getById store.organizations org.id = none then
    .ok { store with organizations := org :: store.organizations }
  else .error .database

end AuthStore

/-- `OrgCreationPolicy`. -/
inductive OrgCreationPolicy where
  | allowAll
  | rejectAll
  | approvals
  deriving DecidableEq

/-- `ApprovalScope`. -/
inductive ApprovalScope where
  | inApp
  | publicSignup
  | both
  deriving DecidableEq

structure SystemConfig where
  orgCreationPolicy : OrgCreationPolicy
  approvalScope : ApprovalScope
  deriving DecidableEq

/-- A signup, with the identifiers, the organization code and the instant that
its rows get. -/
structure Signup where
  email : Text
  passwordHash : Text
  organizationName : Text
  organizationId : Uuid
  orgCode : Text
  userId : Uuid
  now : Time
  deriving DecidableEq

/-- A request to join; the code is normalized already. -/
structure Join where
  email : Text
  passwordHash : Text
  orgCode : Text
  userId : Uuid
  now : Time
  deriving DecidableEq

/-- `create_dashboard_user`. -/
def dashboardUser (id organizationId : Uuid) (email : Text) (passwordHash : Option Text)
    (role : Role) (now : Time) : User :=
  { id := id
    organizationId := organizationId
    externalId := email
    name := some (email.takeWhile (· ≠ '@'))
    email := some email
    role := role
    permissions := permissionsForRole role
    passwordHash := passwordHash
    isActive := true
    isDeleted := false
    isEmailVerified := false
    mfaEnabled := false
    mustChangePassword := false
    inviteTokenHash := none
    createdAt := now }

/-- `create_organization`. -/
def Signup.organization (payload : Signup) (status : OrgStatus) : Organization :=
  { id := payload.organizationId
    name := payload.organizationName
    status := status
    isActive := true
    orgCode := payload.orgCode
    joinEnabled := true }

/-- The organization with its first admin. -/
def Signup.create (payload : Signup) (status : OrgStatus) (passwordHash : Option Text)
    (store : AuthStore) : Except AuthError AuthStore := do
  let created ← store.insertOrganization (payload.organization status)
  created.insertUser (dashboardUser payload.userId payload.organizationId payload.email
    passwordHash .admin payload.now)

def registrationDisabled : AuthError :=
  .authorization "Registration is disabled".toList

/-- `signup`.  An address that is taken changes nothing. -/
def signup (config : SystemConfig) (payload : Signup) (store : AuthStore) :
    Except AuthError AuthStore :=
  match config.orgCreationPolicy with
  | .rejectAll => .error registrationDisabled
  | .approvals =>
      if config.approvalScope = .inApp then .error registrationDisabled
      else if Users.emailTaken store.users payload.userId (some payload.email) then .ok store
      else payload.create .pending none store
  | .allowAll =>
      if (Users.findByEmail store.users payload.email).isSome then .ok store
      else payload.create .approved (some payload.passwordHash) store

/-- `get_by_code`. -/
def Organizations.getByCode (organizations : List Organization) (code : Text) :
    Option Organization :=
  organizations.find? fun org => decide (org.orgCode = code ∧ org.isActive = true ∧
    org.status = .approved ∧ org.name ≠ "SYSTEM".toList)

/-- `join_organization`. -/
def joinOrganization (config : SystemConfig) (payload : Join) (store : AuthStore) :
    Except AuthError AuthStore :=
  if config.orgCreationPolicy = .rejectAll then .error registrationDisabled
  else
    match Organizations.getByCode store.organizations payload.orgCode with
    | none => .error (.validation "Invalid organization code".toList)
    | some org =>
        if org.joinEnabled = false then
          .error (.authorization "This organization is not accepting new members".toList)
        else if (Users.findByEmail store.users payload.email).isSome then .ok store
        else store.insertUser
          (dashboardUser payload.userId org.id payload.email (some payload.passwordHash) .member
            payload.now)

namespace AuthStore

def orgStore (store : AuthStore) : OrgStore :=
  { organizations := store.organizations
    users := store.users
    committed := [] }

/-- What an approval commits. -/
def approve (store : AuthStore) (orgId : Uuid) (admin : User) (tokenHash : Text) (now : Time) :
    AuthStore :=
  { store.edit admin.id (.setInviteToken tokenHash now) with
    organizations := Organizations.setStatus store.organizations orgId .approved }

/-- What a rejection commits. -/
def reject (store : AuthStore) (orgId : Uuid) : AuthStore :=
  { store with organizations := Organizations.setStatus store.organizations orgId .rejected }

end AuthStore

/-- The checks of `login`; `passed` is the outcome of `verify_password`. -/
def checkLogin (passed : Bool) : Option User → Except AuthError User
  | none => .error (.authentication "Invalid email or password.".toList)
  | some user =>
      if user.passwordHash = none then
        .error (.authentication
          "This user does not have password authentication enabled.".toList)
      else if passed = false then
        .error (.authentication "Invalid email or password.".toList)
      else if ¬ user.Live then
        .error (.authentication "This account has been deactivated.".toList)
      else if user.isEmailVerified = false then
        .error (.authentication ("Email not verified. Please check your inbox for the ".toList ++
          "verification code, or request a new one.".toList))
      else .ok user

/-- The two flows that a code from the inbox completes. -/
inductive CodeFlow where
  | passwordlessLogin
  | verifyEmail
  deriving DecidableEq

def CodeFlow.invalidCode : CodeFlow → AuthError
  | .passwordlessLogin =>
      .authentication ("Invalid or expired login code. ".toList ++
        "Please request a new code.".toList)
  | .verifyEmail =>
      .authentication ("Invalid or expired verification code. ".toList ++
        "Please request a new code.".toList)

/-- Their first check. -/
def CodeFlow.checkUser (flow : CodeFlow) : Option User → Except AuthError User
  | none => .error flow.invalidCode
  | some user => if user.Live then .ok user else .error flow.invalidCode

def dashboardUserNotFound : AuthError :=
  .notFound "Dashboard user not found.".toList

/-- The checks of `change_password`; `passed` is the outcome of
`verify_password` for the old one. -/
def checkPasswordChange (passed : Bool) : Option User → Except AuthError User
  | none => .error dashboardUserNotFound
  | some user =>
      if user.passwordHash = none then
        .error (.validation "This account does not have a password set.".toList)
      else if passed = false then
        .error (.authentication "Current password is incorrect.".toList)
      else .ok user

/-- `_GENERIC_INVITE_404`. -/
def genericInvite404 : AuthError :=
  .notFound "This invitation link is invalid or has expired.".toList

def mfaSessionInvalid : AuthError :=
  .authentication ("MFA session has expired or is invalid. ".toList ++
    "Please log in again.".toList)

def mfaCodeInvalid : AuthError :=
  .authentication ("Invalid or expired MFA code. ".toList ++
    "Please request a new code during login.".toList)

/-- The uncommitted writes of a flow: to the row of its user, to the tokens that
its bulk `UPDATE` has matched, to the token it has claimed. -/
structure Writes where
  edit : Option CredentialEdit
  revoked : List Uuid
  claimed : Option Uuid

namespace Writes

def none : Writes :=
  { edit := .none
    revoked := []
    claimed := .none }

/-- The `users` row as the session of the flow sees it. -/
def seen (writes : Writes) (user : User) : User :=
  match writes.edit with
  | .none => user
  | some edit => edit.apply user

/-- The tokens that the commit leaves. -/
def tokens (writes : Writes) (identity : Identity) (expiresAt : Time) (table : TokenTable) :
    TokenTable :=
  match writes.claimed with
  | .none =>
      (table.revokeIds writes.revoked).issue identity.userId identity.organizationId expiresAt
  | some tokenHash =>
      match found : table.getByHash tokenHash with
      | .none => table
      | some stored => table.rotate stored (TokenTable.getByHash_some found) expiresAt

end Writes

/-- What a flow commits when it has issued its tokens. -/
def AuthStore.commit (store : AuthStore) (identity : Identity) (writes : Writes)
    (expiresAt : Time) : AuthStore :=
  let edited := match writes.edit with
    | none => store
    | some edit => store.edit identity.userId edit
  { edited with tokens := writes.tokens identity expiresAt edited.tokens }

/-- What `issue_tokens` puts into the access token. -/
def accessClaims (store : AuthStore) (identity : Identity) (writes : Writes) : AccessClaims :=
  { identity with
    mustChangePassword :=
      ((Users.getById store.users identity.userId).map fun user =>
        (writes.seen user).mustChangePassword).getD false }

/-- The tokens that a flow revokes before it issues a pair. -/
def CredentialEdit.revokes (table : TokenTable) (userId : Uuid) : CredentialEdit → List Uuid
  | .changePassword _ => table.unrevoked userId
  | _ => []

/-- The arguments of a request.  A pending MFA login is known by the request
that has stored it. -/
inductive AuthFlow (τ : Type) where
  | signup (config : SystemConfig) (payload : Signup)
  | approveOrg (orgId : Uuid) (tokenHash : Text) (now : Time)
  | rejectOrg (orgId : Uuid)
  | joinOrganization (config : SystemConfig) (payload : Join)
  | acceptInvite (tokenHash passwordHash : Text) (cutoff : Time)
  | login (email : Text)
  | mfaVerify (login : τ)
  | code (flow : CodeFlow) (email : Text)
  | refresh (tokenHash : Uuid) (now : Time)
  | changePassword (userId : Uuid) (passwordHash : Text)

structure AuthRequest (τ : Type) where
  flow : AuthFlow τ
  /-- The expiry of the refresh token it may issue. -/
  expiresAt : Time

inductive AuthPhase (τ : Type) where
  | started
  /-- The password is right, the code and the session of the login come next. -/
  | challenging (login : PendingLogin)
  /-- The session has been read and is about to be deleted. -/
  | closing (stored : τ) (login : PendingLogin)
  | verifying (identity : Identity)
  /-- The user is known, the code is to be verified. -/
  | confirming (flow : CodeFlow) (user : User)
  | loading (identity : Identity) (edit : CredentialEdit)
  | updating (identity : Identity) (edit : CredentialEdit)
  | updated (identity : Identity) (edit : CredentialEdit)
  /-- The refresh token is claimed. -/
  | claimed (token : RefreshToken)
  /-- The rejection has seen the organization pending. -/
  | reviewed (orgId : Uuid)
  /-- `issue_tokens` is called next. -/
  | authorised (identity : Identity) (writes : Writes)
  | issued (identity : Identity) (writes : Writes)
  | ended
  | refused (error : AuthError)

namespace AuthPhase

variable {τ : Type}

/-- The identity that a flow is on its way to issue tokens for. -/
def identity : AuthPhase τ → Option Identity
  | .challenging login => some login.identity
  | .closing _ login => some login.identity
  | .verifying identity => some identity
  | .confirming _ user => some user.identity
  | .loading identity _ => some identity
  | .updating identity _ => some identity
  | .updated identity _ => some identity
  | .authorised identity _ => some identity
  | _ => none

/-- The organization that the next step rejects. -/
def rejects : AuthPhase τ → Option Uuid
  | .reviewed orgId => some orgId
  | _ => none

def isOver : AuthPhase τ → Bool
  | .ended => true
  | .refused _ => true
  | _ => false

end AuthPhase

/-- A call of `issue_tokens`: what the access token says, and the rows that are
committed at that moment. -/
structure IssueCall where
  claims : AccessClaims
  store : AuthStore

structure AuthSystem (τ : Type) where
  store : AuthStore
  sessions : τ → Option PendingLogin
  phases : τ → AuthPhase τ
  rows : TokenRow → Option τ
  calls : List IssueCall

/-- A step of a request, with the outcome of the password or code it checks, or
what happens beside the requests. -/
inductive AuthAction (τ : Type) where
  | advance (request : τ) (passed : Bool)
  | abort (request : τ)
  | expireSession (login : τ)
  | setStatus (userId : Uuid) (edit : StatusEdit)
  | setCredential (userId : Uuid) (edit : CredentialEdit)
  | hardDelete (userId : Uuid)
  | insertUser (user : User)
  | insertOrganization (org : Organization)
  | revokeTokens (ids : List Uuid)

namespace AuthSystem

variable {τ : Type}

def start : AuthSystem τ :=
  { store := .empty
    sessions := fun _ => none
    phases := fun _ => .started
    rows := fun _ => none
    calls := [] }

variable [DecidableEq τ]

def setPhase (system : AuthSystem τ) (request : τ) (phase : AuthPhase τ) : AuthSystem τ :=
  { system with phases := Function.update system.phases request phase }

/-- The end of a transaction. -/
def finish (system : AuthSystem τ) (request : τ) (phase : AuthPhase τ) (store : AuthStore) :
    AuthSystem τ :=
  { system.setPhase request phase with
    store := store
    rows := release system.rows request }

def refuse (system : AuthSystem τ) (request : τ) (error : AuthError) : AuthSystem τ :=
  system.finish request (.refused error) system.store

/-- Blocks until the row is free. -/
def lock (system : AuthSystem τ) (request : τ) (row : TokenRow) (phase : AuthPhase τ) :
    AuthSystem τ :=
  if system.rows row = none ∨ system.rows row = some request then
    { system.setPhase request phase with
      rows := Function.update system.rows row (some request) }
  else system

/-- Go on with what the checks let through. -/
def proceed {α : Type} (system : AuthSystem τ) (request : τ) (next : α → AuthSystem τ) :
    Except AuthError α → AuthSystem τ
  | .ok value => next value
  | .error error => system.refuse request error

/-- `login`, once its checks have passed. -/
def loggedIn (system : AuthSystem τ) (request : τ) (email : Text) (user : User) :
    AuthSystem τ :=
  if user.mfaEnabled = true then
    system.setPhase request (.challenging
      { identity := user.identity
        email := email })
  else system.setPhase request (.authorised user.identity .none)

/-- `approve_org`.  A failure of the vault or of the mail server aborts. -/
def approveOrg (system : AuthSystem τ) (request : τ) (orgId : Uuid) (tokenHash : Text)
    (now : Time) : AuthSystem τ :=
  match checkPending system.store.orgStore orgId,
      checkPendingAdmin system.store.orgStore orgId with
  | .error error, _ => system.refuse request (.approval error)
  | .ok _, .error error => system.refuse request (.approval error)
  | .ok _, .ok admin =>
      if system.rows (.user admin.id) = none then
        system.finish request .ended (system.store.approve orgId admin tokenHash now)
      else system

/-- The first statement of a request. -/
def enter (requests : τ → AuthRequest τ) (system : AuthSystem τ) (request : τ)
    (passed : Bool) : AuthSystem τ :=
  match (requests request).flow with
  | .signup config payload =>
      system.proceed request (system.finish request .ended) (signup config payload system.store)
  | .joinOrganization config payload =>
      system.proceed request (system.finish request .ended)
        (joinOrganization config payload system.store)
  | .approveOrg orgId tokenHash now => system.approveOrg request orgId tokenHash now
  | .rejectOrg orgId =>
      match checkPending system.store.orgStore orgId with
      | .error error => system.refuse request (.approval error)
      | .ok _ => system.setPhase request (.reviewed orgId)
  | .acceptInvite tokenHash passwordHash cutoff =>
      match system.store.findInvite tokenHash cutoff with
      | none => system.refuse request genericInvite404
      | some user =>
          system.lock request (.user user.id) (.authorised user.identity
            { Writes.none with edit := some (.acceptInvite passwordHash) })
  | .login email =>
      system.proceed request (system.loggedIn request email)
        (checkLogin passed (Users.findByEmail system.store.users email))
  | .mfaVerify login =>
      match system.sessions login with
      | none => system.refuse request mfaSessionInvalid
      | some pending => system.setPhase request (.closing login pending)
  | .code flow email =>
      system.proceed request (fun user => system.setPhase request (.confirming flow user))
        (flow.checkUser (Users.findByEmail system.store.users email))
  | .refresh tokenHash now =>
      match system.store.tokens.current tokenHash now with
      | none => system.refuse request (.authentication RefreshError.invalid.message)
      | some token => system.lock request (.token token.id) (.claimed token)
  | .changePassword userId passwordHash =>
      system.proceed request
        (fun user =>
          system.setPhase request (.loading user.identity (.changePassword passwordHash)))
        (checkPasswordChange passed (Users.getById system.store.users userId))

/-- `refresh`, once the token is claimed. -/
def refreshUser (system : AuthSystem τ) (request : τ) (token : RefreshToken) : AuthSystem τ :=
  match system.store.tokens.getByHash token.tokenHash with
  | none => system.refuse request (.authentication RefreshError.invalid.message)
  | some stored =>
      match checkRefreshUser (Users.getById system.store.users stored.userId) with
      | .error error => system.refuse request (.authentication error.message)
      | .ok user =>
          system.setPhase request (.authorised
            { userId := stored.userId
              organizationId := stored.organizationId
              role := user.role }
            { Writes.none with claimed := some token.tokenHash })

/-- `verify_email` and `passwordless_login`, once the user is known. -/
def confirm (system : AuthSystem τ) (request : τ) (flow : CodeFlow) (user : User)
    (passed : Bool) : AuthSystem τ :=
  if passed = false then system.refuse request flow.invalidCode
  else if user.isEmailVerified = true then
    system.setPhase request (.authorised user.identity .none)
  else system.setPhase request (.loading user.identity .markEmailVerified)

/-- `issue_tokens`. -/
def issueTokens (system : AuthSystem τ) (request : τ) (identity : Identity) (writes : Writes) :
    AuthSystem τ :=
  { system.setPhase request (.issued identity writes) with
    calls := ⟨accessClaims system.store identity writes, system.store⟩ :: system.calls }

/-- The next step of a request. -/
def advance (requests : τ → AuthRequest τ) (system : AuthSystem τ) (request : τ)
    (passed : Bool) : AuthSystem τ :=
  match system.phases request with
  | .started => system.enter requests request passed
  | .challenging login =>
      { system.setPhase request .ended with
        sessions := Function.update system.sessions request (some login) }
  | .closing stored login =>
      { system.setPhase request
          (if login.email = [] then .refused mfaSessionInvalid else .verifying login.identity) with
        sessions := Function.update system.sessions stored none }
  | .verifying identity =>
      if passed = true then system.setPhase request (.authorised identity .none)
      else system.refuse request mfaCodeInvalid
  | .confirming flow user => system.confirm request flow user passed
  | .loading identity edit =>
      match Users.getById system.store.users identity.userId with
      | none => system.refuse request dashboardUserNotFound
      | some _ => system.setPhase request (.updating identity edit)
  | .updating identity edit =>
      match system.store.row identity.userId with
      | none => system.refuse request .database
      | some user => system.lock request (.user user.id) (.updated user.identity edit)
  | .updated identity edit =>
      system.setPhase request (.authorised identity
        { edit := some edit
          revoked := edit.revokes system.store.tokens identity.userId
          claimed := none })
  | .claimed token => system.refreshUser request token
  | .reviewed orgId => system.finish request .ended (system.store.reject orgId)
  | .authorised identity writes => system.issueTokens request identity writes
  | .issued identity writes =>
      system.finish request .ended
        (system.store.commit identity writes (requests request).expiresAt)
  | .ended => system
  | .refused _ => system

/-- Write a row of `users` that nobody has locked. -/
def writeUser (system : AuthSystem τ) (userId : Uuid) (store : AuthStore) : AuthSystem τ :=
  if system.rows (.user userId) = none then { system with store := store } else system

def perform (requests : τ → AuthRequest τ) (system : AuthSystem τ) :
    AuthAction τ → AuthSystem τ
  | .advance request passed => system.advance requests request passed
  | .abort request =>
      if (system.phases request).isOver then system else system.refuse request .database
  | .expireSession login =>
      { system with sessions := Function.update system.sessions login none }
  | .setStatus userId edit => system.writeUser userId (system.store.setStatus userId edit)
  | .setCredential userId edit => system.writeUser userId (system.store.edit userId edit)
  | .hardDelete userId => system.writeUser userId (system.store.hardDelete userId)
  | .insertUser user =>
      { system with store := (system.store.insertUser user).toOption.getD system.store }
  | .insertOrganization org =>
      { system with store := (system.store.insertOrganization org).toOption.getD system.store }
  | .revokeTokens ids =>
      { system with
        store := { system.store with tokens := system.store.tokens.revokeIds ids } }

end AuthSystem

end OpenZync.Auth
