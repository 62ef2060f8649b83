import OpenZync.Auth.TokenIssuance
import OpenZync.Library.Transactions

/-!
# Invites

`revoke_invite`, `get_invite_info` and `accept_invite`, each as the program of
a transaction under READ COMMITTED that reads the clock where the code does.
A conditional `UPDATE` or `DELETE` looks for its row in a snapshot, waits for
the lock of the row, and evaluates its condition again on what it then finds.
-/

namespace OpenZync.Auth

open OpenZync.Library

/-- `ClaimedInvite`, what the `UPDATE` of a claim returns. -/
structure ClaimedInvite where
  id : Uuid
  organizationId : Uuid
  role : Role
  deriving DecidableEq

def User.claimedInvite (user : User) : ClaimedInvite :=
  ⟨user.id, user.organizationId, user.role⟩

structure InviteInfoResponse where
  orgName : Text
  email : Text
  name : Text
  deriving DecidableEq

/-- What a call that does not raise answers.  The tokens of an accepted invite
come with the clock that the call has read. -/
inductive InviteAnswer where
  | tokens (invite : ClaimedInvite) (calledAt : Time)
  | info (response : InviteInfoResponse)
  | revoked
  deriving DecidableEq

/-- `INVITE_EXPIRY_HOURS`. -/
def inviteExpiry : Time := 72 * 60 * 60 * 1000000

/-- `_is_expired`. -/
def isExpired (createdAt now : Time) : Prop :=
  createdAt < now - inviteExpiry

instance (createdAt now : Time) : Decidable (isExpired createdAt now) :=
  inferInstanceAs (Decidable (_ < _))

namespace User

/-- The condition of `find_user_by_invite_token`. -/
def Invited (user : User) (tokenHash : Text) : Prop :=
  user.inviteTokenHash = some tokenHash ∧ user.isActive = true ∧ user.isDeleted = false

instance (user : User) (tokenHash : Text) : Decidable (user.Invited tokenHash) :=
  inferInstanceAs (Decidable (_ ∧ _))

/-- The condition of `claim_invite`. -/
def Claimable (user : User) (tokenHash : Text) (cutoff : Time) : Prop :=
  user.Invited tokenHash ∧ cutoff ≤ user.createdAt

instance (user : User) (tokenHash : Text) (cutoff : Time) :
    Decidable (user.Claimable tokenHash cutoff) :=
  inferInstanceAs (Decidable (_ ∧ _))

/-- The condition of `hard_delete_pending_user`, in a session that sees the rows
of one organization. -/
def Deletable (user : User) (tenant : Option Uuid) (orgId userId : Uuid) : Prop :=
  user.id = userId ∧ user.organizationId = orgId ∧ user.inviteTokenHash.isSome = true ∧
    user.isDeleted = false ∧ tenant = some user.organizationId

instance (user : User) (tenant : Option Uuid) (orgId userId : Uuid) :
    Decidable (user.Deletable tenant orgId userId) :=
  inferInstanceAs (Decidable (_ ∧ _))

end User

/-- The committed rows, and what the calls that committed have answered.  A
token is drawn for one row. -/
structure InviteStore (τ : Type) where
  users : List User
  organizations : List Organization
  answers : List (τ × InviteAnswer)
  ids : (users.map User.id).Nodup
  tokens : ∀ first ∈ users, ∀ second ∈ users, first.inviteTokenHash.isSome = true →
    first.inviteTokenHash = second.inviteTokenHash → first = second

namespace InviteStore

variable {τ : Type}

def row (store : InviteStore τ) (userId : Uuid) : Option User :=
  store.users.find? fun user => decide (user.id = userId)

def findUserByInviteToken (store : InviteStore τ) (tokenHash : Text) : Option User :=
  store.users.find? fun user => decide (user.Invited tokenHash)

def findClaimable (store : InviteStore τ) (tokenHash : Text) (cutoff : Time) : Option User :=
  store.users.find? fun user => decide (user.Claimable tokenHash cutoff)

def findDeletable (store : InviteStore τ) (tenant : Option Uuid) (orgId userId : Uuid) :
    Option User :=
  store.users.find? fun user => decide (user.Deletable tenant orgId userId)

/-- What the `UPDATE` of a claim makes of a row. -/
def claimRow (userId : Uuid) (passwordHash : Text) (user : User) : User :=
  if user.id = userId then CredentialEdit.apply user (.acceptInvite passwordHash) else user

theorem claimRow_of_ne {userId : Uuid} {passwordHash : Text} {user : User}
    (other : user.id ≠ userId) : claimRow userId passwordHash user = user :=
  if_neg other

@[simp] theorem claimRow_id (userId : Uuid) (passwordHash : Text) (user : User) :
    (claimRow userId passwordHash user).id = user.id := by
  rw [claimRow]
  split
  · rfl
  · rfl

theorem claimRow_of_pending {userId : Uuid} {passwordHash : Text} {user : User}
    (pending : (claimRow userId passwordHash user).inviteTokenHash.isSome = true) :
    claimRow userId passwordHash user = user := by
  rw [claimRow] at pending ⊢
  split at pending
  · simp [CredentialEdit.apply] at pending
  · rename_i other
    exact if_neg other

/-- `claim_invite`, once the row is locked. -/
def claim (store : InviteStore τ) (userId : Uuid) (passwordHash : Text) : InviteStore τ :=
  { store with
    users := store.users.map (claimRow userId passwordHash)
    ids := by
      rw [List.map_map, show User.id ∘ claimRow userId passwordHash = User.id from
        funext fun user => claimRow_id userId passwordHash user]
      exact store.ids
    tokens := by
      intro first firstStored second secondStored pending same
      obtain ⟨old, oldStored, rfl⟩ := List.mem_map.mp firstStored
      obtain ⟨other, otherStored, rfl⟩ := List.mem_map.mp secondStored
      have unchanged := claimRow_of_pending pending
      have otherUnchanged := claimRow_of_pending (same ▸ pending)
      rw [unchanged, otherUnchanged] at same
      rw [unchanged] at pending
      rw [unchanged, otherUnchanged]
      exact store.tokens old oldStored other otherStored pending same }

/-- `hard_delete_pending_user`, once the row is locked. -/
def delete (store : InviteStore τ) (userId : Uuid) : InviteStore τ :=
  { store with
    users := store.users.filter fun user => decide (user.id ≠ userId)
    ids := store.ids.sublist (List.filter_sublist.map User.id)
    tokens := fun first firstStored second secondStored =>
      store.tokens first (List.mem_of_mem_filter firstStored) second
        (List.mem_of_mem_filter secondStored) }

def record (store : InviteStore τ) (call : τ) (answer : InviteAnswer) : InviteStore τ :=
  { store with answers := (call, answer) :: store.answers }

end InviteStore

/-- `str.isupper`, `str.islower` and `str.isdigit` of one character. -/
structure CharClasses where
  isUpper : Char → Bool
  isLower : Char → Bool
  isDigit : Char → Bool

/-- `_validate_password`, with the message of the error. -/
def CharClasses.validatePassword (classes : CharClasses) (password : Text) : Option Text :=
  if password.length < 8 then some "Password must be at least 8 characters long.".toList
  else if password.any classes.isUpper = false then
    some "Password must contain at least one uppercase letter.".toList
  else if password.any classes.isLower = false then
    some "Password must contain at least one lowercase letter.".toList
  else if password.any classes.isDigit = false then
    some "Password must contain at least one digit.".toList
  else none

/-- `accept_invite` comes with the hash of the password under a fresh salt. -/
inductive InviteCall where
  | revokeInvite (orgId userId : Uuid)
  | getInviteInfo (token : Text)
  | acceptInvite (token password passwordHash : Text)
  deriving DecidableEq

/-- A call and the organization its session is bound to. -/
structure InviteRequest where
  tenant : Option Uuid
  call : InviteCall

/-- Where a transaction stands. -/
inductive InvitePhase where
  | begin
  /-- The cutoff of the claim is set. -/
  | claiming (calledAt : Time)
  /-- The `UPDATE` has found its row. -/
  | claimWaiting (calledAt : Time) (userId : Uuid)
  /-- The row is locked; the condition is evaluated again. -/
  | claimLocked (calledAt : Time) (userId : Uuid)
  /-- The row is written; the tokens of the user are issued. -/
  | claimed (calledAt : Time) (user : User)
  | missed
  /-- The row a missed claim has selected. -/
  | judging (stale : User)
  /-- The row `get_invite_info` has selected. -/
  | found (user : User)
  | describing (user : User)
  | described (response : InviteInfoResponse)
  | deleting (orgId userId : Uuid)
  /-- The `DELETE` has found its row. -/
  | deleteWaiting (orgId userId : Uuid)
  /-- The row is locked; the condition is evaluated again. -/
  | deleteLocked (orgId userId : Uuid)
  | deleted (userId : Uuid)
  /-- The `DELETE` matched no row. -/
  | kept
  | refused (error : AuthError)
  | ended

abbrev InviteMove (τ : Type) := Move (InviteStore τ) InvitePhase Unit Uuid

/-- The answer that a call returns in a phase, before its commit. -/
def InviteCall.answer : InviteCall → InvitePhase → Option InviteAnswer
  | .acceptInvite _ _ _, .claimed calledAt user => some (.tokens user.claimedInvite calledAt)
  | .getInviteInfo _, .described response => some (.info response)
  | .revokeInvite _ _, .deleted _ => some .revoked
  | _, _ => none

section Programs

variable (classes : CharClasses) (hashInviteToken : Text → Text)
variable {τ : Type} (call : τ) (now : Time) (store : InviteStore τ) (tenant : Option Uuid)

/-- The `DELETE` of `hard_delete_pending_user`. -/
def deleteProgram : InvitePhase → InviteMove τ
  | .deleting orgId userId =>
      match store.findDeletable tenant orgId userId with
      | none => .go .kept
      | some _ => .go (.deleteWaiting orgId userId)
  | .deleteWaiting orgId userId =>
      match store.row userId with
      | none => .go .kept
      | some _ => .lockRow userId (.deleteLocked orgId userId)
  | .deleteLocked orgId userId =>
      match store.findDeletable tenant orgId userId with
      | none => .go .kept
      | some _ => .go (.deleted userId)
  | _ => .stay

def revokeProgram (orgId userId : Uuid) : InvitePhase → InviteMove τ
  | .begin => .go (.deleting orgId userId)
  | .deleted userId => .commit ((store.delete userId).record call .revoked)
  | .kept => .go (.refused (.notFound "No pending invite for this user.".toList))
  | .refused _ => .abort
  | phase => deleteProgram store tenant phase

/-- `get_invite_info`.  The clean-up is committed before the error is raised. -/
def infoProgram (tokenHash : Text) : InvitePhase → InviteMove τ
  | .begin =>
      match store.findUserByInviteToken tokenHash with
      | none => .go (.refused genericInvite404)
      | some user => .go (.found user)
  | .found user =>
      if isExpired user.createdAt now then .go (.deleting user.organizationId user.id)
      else .go (.describing user)
  | .describing user =>
      match Organizations.getById store.organizations user.organizationId with
      | none => .go (.refused genericInvite404)
      | some org => .go (.described ⟨org.name, user.email.getD [], user.name.getD []⟩)
  | .described response => .commit (store.record call (.info response))
  | .deleted userId => .commit (store.delete userId)
  | .kept => .commit store
  | .refused _ => .abort
  | phase => deleteProgram store tenant phase

/-- `accept_invite`: a claim that misses looks for an expired row to clean up. -/
def acceptProgram (tokenHash password passwordHash : Text) : InvitePhase → InviteMove τ
  | .begin =>
      match classes.validatePassword password with
      | some message => .go (.refused (.validation message))
      | none => .go (.claiming now)
  | .claiming calledAt =>
      match store.findClaimable tokenHash (calledAt - inviteExpiry) with
      | none => .go .missed
      | some user => .go (.claimWaiting calledAt user.id)
  | .claimWaiting calledAt userId =>
      match store.row userId with
      | none => .go .missed
      | some _ => .lockRow userId (.claimLocked calledAt userId)
  | .claimLocked calledAt userId =>
      match store.row userId with
      | none => .go .missed
      | some user =>
          if user.Claimable tokenHash (calledAt - inviteExpiry) then .go (.claimed calledAt user)
          else .go .missed
  | .claimed calledAt user =>
      .commit ((store.claim user.id passwordHash).record call
        (.tokens user.claimedInvite calledAt))
  | .missed =>
      match store.findUserByInviteToken tokenHash with
      | none => .go (.refused genericInvite404)
      | some stale => .go (.judging stale)
  | .judging stale =>
      if isExpired stale.createdAt now then .go (.deleting stale.organizationId stale.id)
      else .go (.refused genericInvite404)
  | .deleted userId => .commit (store.delete userId)
  | .kept => .commit store
  | .refused _ => .abort
  | phase => deleteProgram store tenant phase

def InviteRequest.program (request : InviteRequest) (phase : InvitePhase) : InviteMove τ :=
  match request.call with
  | .revokeInvite orgId userId => revokeProgram call store request.tenant orgId userId phase
  | .getInviteInfo token =>
      infoProgram call now store request.tenant (hashInviteToken token) phase
  | .acceptInvite token password passwordHash =>
      acceptProgram classes call now store request.tenant (hashInviteToken token) password
        passwordHash phase

end Programs

/-- The clock and the transactions of the calls. -/
structure InviteSystem (τ : Type) where
  now : Time
  database : Database (InviteStore τ) InvitePhase Unit Uuid τ

inductive InviteEvent (τ : Type) where
  | tick (elapsed : Nat)
  | act (action : Action τ)
  deriving DecidableEq

namespace InviteSystem

variable {τ : Type}

/-- No call has answered yet. -/
def start (now : Time) (store : InviteStore τ) : InviteSystem τ :=
  { now := now, database := Database.start { store with answers := [] } .begin }

/-- Time passes, or a transaction is scheduled or fails. -/
def perform [DecidableEq τ] (classes : CharClasses) (hashInviteToken : Text → Text)
    (requests : τ → InviteRequest) (system : InviteSystem τ) : InviteEvent τ → InviteSystem τ
  | .tick elapsed => { system with now := system.now + elapsed }
  | .act action =>
      { system with
        database := system.database.perform
          (fun call store phase =>
            (requests call).program classes hashInviteToken call system.now store phase)
          .ended action }

/-- The call has returned an answer, and its transaction has not failed since. -/
def Returns (requests : τ → InviteRequest) (system : InviteSystem τ) (call : τ)
    (answer : InviteAnswer) : Prop :=
  (call, answer) ∈ system.database.committed.answers ∨
    (requests call).call.answer (system.database.phase call) = some answer

end InviteSystem

end OpenZync.Auth
