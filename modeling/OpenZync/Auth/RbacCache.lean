import Mathlib.Data.Fintype.Basic
import OpenZync.Auth.UserService
import OpenZync.Library.CacheAside
import OpenZync.Library.Transactions

/-!
# Cached roles and permissions

`get_org_role` and `get_effective_permissions` beside the requests that change
what they read.  A request deletes the cached values before it commits, so a
lookup in between may store the old one again; no lookup is stale as long as no
value that a commit changes is cached or about to be.
-/

namespace OpenZync.Auth

open OpenZync.Library

inductive RbacKind where
  | role
  | permissions
  deriving DecidableEq

instance : Fintype RbacKind where
  elems := {.role, .permissions}
  complete kind := by cases kind with
    | role => decide
    | permissions => decide

/-- The Redis key: its prefix, the organization and the user. -/
structure RbacKey where
  kind : RbacKind
  organizationId : Uuid
  userId : Uuid
  deriving DecidableEq

/-- A permission set is cached as the sorted array of its elements. -/
inductive RbacValue where
  | role (role : Role)
  | permissions (permissions : List Permission)
  deriving DecidableEq

def RbacKind.ofUser (user : User) : RbacKind → RbacValue
  | .role => .role user.role
  | .permissions => .permissions (user.permissions.dedup.insertionSort (· ≤ ·))

/-- The value that a lookup falls back on. -/
def RbacKind.failClosed : RbacKind → RbacValue
  | .role => .role .member
  | .permissions => .permissions []

/-- What a lookup loads and stores: nothing for a user who is unknown, inactive
or deleted. -/
def loadRbac (users : List User) (key : RbacKey) : Option RbacValue :=
  (Users.getByUuid users key.organizationId key.userId).bind fun user =>
    if user.Live then some (key.kind.ofUser user) else none

/-- The value of a key. -/
def rbacValue (users : List User) (key : RbacKey) : RbacValue :=
  (loadRbac users key).getD key.kind.failClosed

/-- `begun` counts the commits before the lookup. -/
inductive LookupPhase where
  | idle
  | started (key : RbacKey) (begun : Nat)
  | missed (key : RbacKey) (begun : Nat)
  | loaded (key : RbacKey) (begun : Nat) (value : RbacValue)
  | returned (key : RbacKey) (begun : Nat) (value : RbacValue)
  /-- The database read failed and the lookup returned `failClosed`. -/
  | denied (key : RbacKey) (begun : Nat)
  deriving DecidableEq

/-- The value that the lookup is about to store. -/
def LookupPhase.copy : LookupPhase → Option (RbacKey × RbacValue)
  | .loaded key _ value => some (key, value)
  | _ => none

inductive UserRequest where
  | updateUser (organizationId userId : Uuid) (fields : UpdateFields) (actorUserId : Uuid)
      (actorPermissions : Option (List Permission))
  | updateMemberRole (organizationId userId : Uuid) (role : DashboardRole)
  | deleteUser (organizationId userId actorUserId : Uuid)
  deriving DecidableEq

namespace UserRequest

def organizationId : UserRequest → Uuid
  | .updateUser organizationId _ _ _ _ => organizationId
  | .updateMemberRole organizationId _ _ => organizationId
  | .deleteUser organizationId _ _ => organizationId

def userId : UserRequest → Uuid
  | .updateUser _ userId _ _ _ => userId
  | .updateMemberRole _ userId _ => userId
  | .deleteUser _ userId _ => userId

def key (request : UserRequest) (kind : RbacKind) : RbacKey :=
  { kind := kind
    organizationId := request.organizationId
    userId := request.userId }

/-- The caches that the request drops, in order. -/
def invalidates : UserRequest → List RbacKind
  | .updateUser _ _ fields _ _ =>
      (if fields.role.isSome then [.role] else []) ++
        if fields.role.isSome || fields.permissions.isSome then [.permissions] else []
  | .updateMemberRole _ _ _ => [.role, .permissions]
  | .deleteUser _ _ _ => [.role, .permissions]

/-- `UserRepository.update` sends the bare message, the superadmin route adds a
full stop. -/
def rowNotFound : UserRequest → ServiceError
  | .updateMemberRole organizationId userId _ =>
      .notFound ("User ".toList ++ Text.ofUuid userId ++ " not found in organization ".toList ++
        Text.ofUuid organizationId ++ ".".toList)
  | request => userNotFound request.userId request.organizationId

end UserRequest

inductive WriterPhase where
  | started
  /-- The next statement counts the admins. -/
  | counting (target : User)
  /-- The next statement is the `SELECT` of the repository.  A row that the
  session has loaded before keeps the attributes it was loaded with. -/
  | selecting (loaded : Option User) (assigned : Assignment)
  | flushing (changes : UserChanges)
  | invalidating (changes : UserChanges) (kinds : List RbacKind)
  | committed
  | failed (error : ServiceError)
  | aborted
  deriving DecidableEq

/-- The changes of a request that has only the commit left to do. -/
def WriterPhase.toCommit : WriterPhase → Option UserChanges
  | .invalidating changes [] => some changes
  | _ => none

/-- What remains of `update_user` once the role may change. -/
def toSelect (loaded : Option User) (granted : Except ServiceError UpdateFields) :
    WriterPhase :=
  match granted with
  | .error error => .failed error
  | .ok fields => .selecting loaded (.update fields)

/-- The next statement of a request. -/
def UserRequest.statement (request : UserRequest) (users : List User) :
    WriterPhase → WriterPhase
  | .started =>
      match request with
      | .updateUser organizationId userId fields actorUserId actorPermissions =>
          let granted := grantPermissions userId actorUserId actorPermissions fields
          match fields.role with
          | none => toSelect none granted
          | some newRole =>
              match checkRoleChange organizationId userId actorUserId newRole
                  (Users.getByUuid users organizationId userId) with
              | .error error => .failed error
              | .ok target =>
                  if demotes target newRole then .counting target
                  else toSelect (some target) granted
      | .updateMemberRole _ _ role =>
          .selecting none (.update
            { name := none
              email := none
              role := some (some role)
              permissions := none })
      | .deleteUser organizationId userId actorUserId =>
          if userId = actorUserId then
            .failed (.validation "You cannot delete your own account.".toList)
          else
            match checkDeletion organizationId userId
                (Users.getByUuid users organizationId userId) with
            | .error error => .failed error
            | .ok user =>
                if user.role = .admin then .counting user
                else .selecting (some user) .softDelete
  | .counting target =>
      let admins := Users.countActiveAdmins users request.organizationId
      match request with
      | .updateUser _ userId fields actorUserId actorPermissions =>
          match checkLastAdmin lastAdminDemoted admins with
          | .error error => .failed error
          | .ok () =>
              toSelect (some target) (grantPermissions userId actorUserId actorPermissions fields)
      | _ =>
          match checkLastAdmin lastAdminDeleted admins with
          | .error error => .failed error
          | .ok () => .selecting (some target) .softDelete
  | .selecting loaded assigned =>
      match Users.getByUuid users request.organizationId request.userId with
      | none => .failed request.rowNotFound
      | some user =>
          match assigned.changes (loaded.getD user) with
          | .error error => .failed error
          | .ok changes => .flushing changes
  | phase => phase

structure RbacSystem (ρ ω : Type) where
  users : List User
  /-- The committed tables before, the latest first. -/
  past : List (List User)
  cache : RbacKey → Option RbacValue
  lookups : ρ → LookupPhase
  writers : ω → WriterPhase
  rows : Uuid → Option ω

/-- A cache read or write, a database read and a deletion may fail. -/
inductive RbacAction (ρ ω : Type) where
  | lookup (lookup : ρ) (key : RbacKey)
  | readCache (lookup : ρ) (reachable : Bool)
  | readDatabase (lookup : ρ) (reachable : Bool)
  | writeCache (lookup : ρ) (reachable : Bool)
  | expire (key : RbacKey)
  | statement (writer : ω)
  | flush (writer : ω)
  | invalidate (writer : ω) (reachable : Bool)
  | commit (writer : ω)
  | abort (writer : ω)
  deriving DecidableEq

namespace RbacSystem

variable {ρ ω : Type}

def start (users : List User) : RbacSystem ρ ω :=
  { users := users
    past := []
    cache := fun _ => none
    lookups := fun _ => .idle
    writers := fun _ => .started
    rows := fun _ => none }

/-- The tables committed since `begun` commits had happened. -/
def since (system : RbacSystem ρ ω) (begun : Nat) : List (List User) :=
  (system.users :: system.past).take (system.past.length + 1 - begun)

/-- The values that lookups are about to store. -/
def copies (system : RbacSystem ρ ω) : ρ → Option (RbacKey × RbacValue) :=
  LookupPhase.copy ∘ system.lookups

variable [DecidableEq ρ] [DecidableEq ω]

def setLookup (system : RbacSystem ρ ω) (lookup : ρ) (phase : LookupPhase) : RbacSystem ρ ω :=
  { system with lookups := Function.update system.lookups lookup phase }

def setWriter (system : RbacSystem ρ ω) (writer : ω) (phase : WriterPhase) : RbacSystem ρ ω :=
  { system with writers := Function.update system.writers writer phase }

/-- The end of a transaction. -/
def finish (system : RbacSystem ρ ω) (writer : ω) (phase : WriterPhase) : RbacSystem ρ ω :=
  { system.setWriter writer phase with rows := release system.rows writer }

/-- The table once a request has committed its changes. -/
def committing (system : RbacSystem ρ ω) (request : UserRequest) (changes : UserChanges) :
    List User :=
  Users.write system.users request.organizationId request.userId changes

def perform (requests : ω → UserRequest) (system : RbacSystem ρ ω) :
    RbacAction ρ ω → RbacSystem ρ ω
  | .lookup lookup key =>
      match system.lookups lookup with
      | .idle => system.setLookup lookup (.started key system.past.length)
      | _ => system
  | .readCache lookup reachable =>
      match system.lookups lookup with
      | .started key begun =>
          match if reachable then system.cache key else none with
          | some value => system.setLookup lookup (.returned key begun value)
          | none => system.setLookup lookup (.missed key begun)
      | _ => system
  | .readDatabase lookup reachable =>
      match system.lookups lookup with
      | .missed key begun =>
          if reachable then
            match loadRbac system.users key with
            | some value => system.setLookup lookup (.loaded key begun value)
            | none => system.setLookup lookup (.returned key begun key.kind.failClosed)
          else system.setLookup lookup (.denied key begun)
      | _ => system
  | .writeCache lookup reachable =>
      match system.lookups lookup with
      | .loaded key begun value =>
          { system.setLookup lookup (.returned key begun value) with
            cache :=
              if reachable then Function.update system.cache key (some value)
              else system.cache }
      | _ => system
  | .expire key => { system with cache := Function.update system.cache key none }
  | .statement writer =>
      system.setWriter writer
        ((requests writer).statement system.users (system.writers writer))
  | .flush writer =>
      let userId := (requests writer).userId
      match system.writers writer with
      | .flushing changes =>
          let next := system.setWriter writer
            (.invalidating changes (requests writer).invalidates)
          if changes = UserChanges.none then next
          else if system.rows userId = none then
            { next with rows := Function.update system.rows userId (some writer) }
          else system
      | _ => system
  | .invalidate writer reachable =>
      match system.writers writer with
      | .invalidating changes (kind :: kinds) =>
          { system.setWriter writer (.invalidating changes kinds) with
            cache :=
              if reachable then Function.update system.cache ((requests writer).key kind) none
              else system.cache }
      | _ => system
  | .commit writer =>
      match (system.writers writer).toCommit with
      | some changes =>
          { system.finish writer .committed with
            users := system.committing (requests writer) changes
            past := system.users :: system.past }
      | none => system
  | .abort writer =>
      match system.writers writer with
      | .committed => system
      | _ => system.finish writer .aborted

/-- A lookup that returns has a value of its key from a table that was
committed when the lookup started, or later. -/
def NeverStale (system : RbacSystem ρ ω) : Prop :=
  ∀ lookup key begun value, system.lookups lookup = .returned key begun value →
    ∃ users ∈ system.since begun, rbacValue users key = value

end RbacSystem

section Condition

variable {ρ ω : Type} [DecidableEq ρ] [DecidableEq ω]

/-- The values that a commit changes are neither cached nor about to be. -/
def CommitsUnseen (requests : ω → UserRequest) (system : RbacSystem ρ ω) :
    RbacAction ρ ω → Prop
  | .commit writer =>
      ∀ changes ∈ (system.writers writer).toCommit, ∀ kind,
        loadRbac (system.committing (requests writer) changes) ((requests writer).key kind) ≠
            loadRbac system.users ((requests writer).key kind) →
          system.cache ((requests writer).key kind) = none ∧
            ∀ lookup, (system.copies lookup).map Prod.fst ≠ some ((requests writer).key kind)
  | _ => True

end Condition

/-- Other keys than those of the written user keep their value. -/
theorem loadRbac_write {users : List User} {organizationId userId : Uuid} {key : RbacKey}
    {changes : UserChanges}
    (changed : loadRbac (Users.write users organizationId userId changes) key ≠
      loadRbac users key) :
    key.userId = userId ∧ key.organizationId = organizationId := by
  by_contra different
  apply changed
  rw [loadRbac, loadRbac, Users.getByUuid_write_of_ne different]

def LookupPhase.begun : LookupPhase → Nat
  | .idle => 0
  | .started _ begun => begun
  | .missed _ begun => begun
  | .loaded _ begun _ => begun
  | .returned _ begun _ => begun
  | .denied _ begun => begun

namespace RbacSystem

variable {ρ ω : Type} {requests : ω → UserRequest} {system : RbacSystem ρ ω}

/-- Cached values and the values about to be stored are current, and no lookup
is stale. -/
structure Consistent (system : RbacSystem ρ ω) : Prop where
  current : Current (loadRbac system.users) system.cache system.copies
  begun : ∀ lookup, (system.lookups lookup).begun ≤ system.past.length
  neverStale : system.NeverStale

theorem users_mem_since {begun : Nat} (before : begun ≤ system.past.length) :
    system.users ∈ system.since begun := by
  have positive : system.past.length + 1 - begun = (system.past.length - begun) + 1 := by
    omega
  rw [since, positive, List.take_succ_cons]
  exact List.mem_cons_self

theorem start_consistent (users : List User) :
    (start users : RbacSystem ρ ω).Consistent := by
  constructor
  · exact Current.empty
  · intro lookup
    exact Nat.le_refl 0
  · intro lookup key begun value returned
    cases returned

/-- Entries that are deleted or stay. -/
theorem Consistent.forget (consistent : system.Consistent) (key : RbacKey) :
    { system with cache := Function.update system.cache key none }.Consistent :=
  { current := consistent.current.forget key
    begun := consistent.begun
    neverStale := consistent.neverStale }

/-- Lookups read neither the writers nor their locks. -/
theorem Consistent.setWriters (consistent : system.Consistent) (writers : ω → WriterPhase)
    (rows : Uuid → Option ω) :
    { system with writers := writers, rows := rows }.Consistent :=
  { current := consistent.current
    begun := consistent.begun
    neverStale := consistent.neverStale }

variable [DecidableEq ρ]

theorem copies_setLookup (lookup : ρ) (phase : LookupPhase) :
    (system.setLookup lookup phase).copies =
      Function.update system.copies lookup phase.copy := by
  funext other
  by_cases same : other = lookup
  · subst same
    simp [copies, setLookup]
  · simp [copies, setLookup, same]

theorem Consistent.setLookup (consistent : system.Consistent) (lookup : ρ)
    {phase : LookupPhase} (before : phase.begun ≤ system.past.length)
    (loaded : ∀ key value, phase.copy = some (key, value) →
      loadRbac system.users key = some value)
    (answered : ∀ key begun value, phase = .returned key begun value →
      rbacValue system.users key = value) :
    (system.setLookup lookup phase).Consistent := by
  constructor
  · rw [copies_setLookup]
    exact consistent.current.hold lookup loaded
  · intro other
    by_cases same : other = lookup
    · subst same
      simpa [RbacSystem.setLookup] using before
    · simpa [RbacSystem.setLookup, same] using consistent.begun other
  · intro other key begun value returned
    by_cases same : other = lookup
    · subst same
      simp only [RbacSystem.setLookup, Function.update_self] at returned
      subst returned
      exact ⟨system.users, users_mem_since before, answered key begun value rfl⟩
    · simp only [RbacSystem.setLookup, Function.update_of_ne same] at returned
      exact consistent.neverStale other key begun value returned

theorem Consistent.answer (consistent : system.Consistent) (lookup : ρ) {key : RbacKey}
    {begun : Nat} {value : RbacValue} (before : begun ≤ system.past.length)
    (current : rbacValue system.users key = value) :
    (system.setLookup lookup (.returned key begun value)).Consistent := by
  apply consistent.setLookup lookup
  · exact before
  · intro other held copied
    cases copied
  · intro other start held returned
    cases returned
    exact current

theorem Consistent.moveOn (consistent : system.Consistent) (lookup : ρ) {phase : LookupPhase}
    (before : phase.begun ≤ system.past.length) (copyless : phase.copy = none)
    (unanswered : ∀ key begun value, phase ≠ .returned key begun value) :
    (system.setLookup lookup phase).Consistent := by
  apply consistent.setLookup lookup before
  · intro key value copied
    rw [copyless] at copied
    cases copied
  · intro key begun value returned
    exact absurd returned (unanswered key begun value)

variable [DecidableEq ω]

theorem Consistent.readCache (consistent : system.Consistent) (lookup : ρ) (reachable : Bool) :
    (system.perform requests (.readCache lookup reachable)).Consistent := by
  rw [perform]
  split
  · rename_i key begun started
    have before := consistent.begun lookup
    simp only [started, LookupPhase.begun] at before
    split
    · rename_i value cached
      apply consistent.answer lookup before
      cases reachable with
      | false => cases cached
      | true => rw [rbacValue, consistent.current.cached key value cached, Option.getD_some]
    · exact consistent.moveOn lookup before rfl (by simp)
  · exact consistent

theorem Consistent.readDatabase (consistent : system.Consistent) (lookup : ρ)
    (reachable : Bool) :
    (system.perform requests (.readDatabase lookup reachable)).Consistent := by
  rw [perform]
  split
  · rename_i key begun missed
    have before := consistent.begun lookup
    simp only [missed, LookupPhase.begun] at before
    split
    · split
      · rename_i value found
        apply consistent.setLookup lookup
        · exact before
        · intro other held copied
          cases copied
          exact found
        · intro other start held returned
          cases returned
      · rename_i unknown
        apply consistent.answer lookup before
        rw [rbacValue, unknown, Option.getD_none]
    · exact consistent.moveOn lookup before rfl (by simp)
  · exact consistent

theorem Consistent.writeCache (consistent : system.Consistent) (lookup : ρ)
    (reachable : Bool) :
    (system.perform requests (.writeCache lookup reachable)).Consistent := by
  rw [perform]
  split
  · rename_i key begun value loaded
    have before := consistent.begun lookup
    simp only [loaded, LookupPhase.begun] at before
    have copied : system.copies lookup = some (key, value) := by
      rw [copies, Function.comp_apply, loaded, LookupPhase.copy]
    have found := consistent.current.copied lookup key value copied
    have moved : (system.setLookup lookup (.returned key begun value)).Consistent := by
      apply consistent.answer lookup before
      rw [rbacValue, found, Option.getD_some]
    have stored : Current (loadRbac system.users)
        (if reachable = true then Function.update system.cache key (some value)
          else system.cache)
        (system.setLookup lookup (.returned key begun value)).copies := by
      split
      · rw [copies_setLookup]
        apply (consistent.current.store copied).hold
        intro other held copied
        cases copied
      · exact moved.current
    exact ⟨stored, moved.begun, moved.neverStale⟩
  · exact consistent

/-- A commit whose changes nobody has cached keeps the lookups fresh. -/
theorem Consistent.commit (consistent : system.Consistent) {writer : ω}
    (unseen : CommitsUnseen requests system (.commit writer)) :
    (system.perform requests (.commit writer)).Consistent := by
  rw [perform]
  split
  · rename_i changes ready
    have unharmed : Unharmed (loadRbac system.users)
        (loadRbac (system.committing (requests writer) changes)) system.cache system.copies := by
      intro key changed
      obtain ⟨sameUser, sameOrg⟩ := loadRbac_write changed
      have same : (requests writer).key key.kind = key := by
        rw [UserRequest.key, ← sameUser, ← sameOrg]
      have unseen := unseen changes ready key.kind
      rw [same] at unseen
      obtain ⟨uncached, uncopied⟩ := unseen changed
      refine ⟨uncached, ?_⟩
      intro lookup value copied
      apply uncopied lookup
      rw [copied, Option.map_some]
    have later : ∀ begun ≤ system.past.length, ∀ users ∈ system.since begun,
        users ∈ (system.perform requests (.commit writer)).since begun := by
      intro begun before users member
      have one : system.past.length + 1 + 1 - begun = (system.past.length + 1 - begun) + 1 := by
        omega
      rw [perform, ready]
      rw [since] at member ⊢
      simp only [List.length_cons]
      rw [one, List.take_succ_cons]
      exact List.mem_cons_of_mem _ member
    refine ⟨consistent.current.change unharmed, ?_, ?_⟩
    · intro lookup
      exact Nat.le_succ_of_le (consistent.begun lookup)
    · intro lookup key begun value returned
      have before := consistent.begun lookup
      have returned : system.lookups lookup = .returned key begun value := returned
      rw [returned] at before
      obtain ⟨users, member, found⟩ := consistent.neverStale lookup key begun value returned
      have kept := later begun before users member
      rw [perform, ready] at kept
      exact ⟨users, kept, found⟩
  · exact consistent

theorem Consistent.perform (consistent : system.Consistent) (action : RbacAction ρ ω)
    (unseen : CommitsUnseen requests system action) :
    (system.perform requests action).Consistent := by
  cases action with
  | lookup lookup key =>
      rw [RbacSystem.perform]
      split
      · exact consistent.moveOn lookup (Nat.le_refl _) rfl (by simp)
      · exact consistent
  | readCache lookup reachable => exact consistent.readCache lookup reachable
  | readDatabase lookup reachable => exact consistent.readDatabase lookup reachable
  | writeCache lookup reachable => exact consistent.writeCache lookup reachable
  | expire key => exact consistent.forget key
  | statement writer => exact consistent.setWriters _ _
  | flush writer =>
      simp only [RbacSystem.perform]
      split
      · split
        · exact consistent.setWriters _ _
        · split
          · exact consistent.setWriters _ _
          · exact consistent
      · exact consistent
  | invalidate writer reachable =>
      rw [RbacSystem.perform]
      split
      · split
        · exact (consistent.forget _).setWriters _ _
        · exact consistent.setWriters _ _
      · exact consistent
  | commit writer => exact consistent.commit unseen
  | abort writer =>
      rw [RbacSystem.perform]
      split
      · exact consistent
      · exact consistent.setWriters _ _

end RbacSystem

/-- No lookup returns a role or a permission set from before a change that was
complete when the lookup started, as long as no commit changes a value that is
cached or about to be. -/
theorem rbac_lookup_never_stale {ρ ω : Type} [DecidableEq ρ] [DecidableEq ω]
    (requests : ω → UserRequest) (users : List User) {actions : List (RbacAction ρ ω)}
    {system : RbacSystem ρ ω}
    (run : GuardedRun (RbacSystem.perform requests) (CommitsUnseen requests)
      (RbacSystem.start users) actions system) : system.NeverStale :=
  (run.invariant RbacSystem.Consistent (RbacSystem.start_consistent users)
    fun consistent unseen => consistent.perform _ unseen).neverStale

instance CommitsUnseen.decidable (requests : Unit → UserRequest)
    (system : RbacSystem Bool Unit) :
    ∀ action, Decidable (CommitsUnseen requests system action)
  | .commit _ => inferInstanceAs (Decidable (∀ changes ∈ _, ∀ _, _ → _ ∧ ∀ _, _))
  | .lookup _ _ => .isTrue trivial
  | .readCache _ _ => .isTrue trivial
  | .readDatabase _ _ => .isTrue trivial
  | .writeCache _ _ => .isTrue trivial
  | .expire _ => .isTrue trivial
  | .statement _ => .isTrue trivial
  | .flush _ => .isTrue trivial
  | .invalidate _ _ => .isTrue trivial
  | .abort _ => .isTrue trivial

/-- An admin of organization 9. -/
def demotedUser : User :=
  { id := 1
    organizationId := 9
    externalId := ['a']
    name := none
    email := none
    role := .admin
    permissions := []
    passwordHash := none
    isActive := true
    isDeleted := false
    isEmailVerified := true
    mfaEnabled := false
    mustChangePassword := false
    inviteTokenHash := none
    createdAt := 0 }

def demotion : Unit → UserRequest :=
  fun _ => .updateMemberRole 9 1 .member

def demotedRole : RbacKey :=
  { kind := .role
    organizationId := 9
    userId := 1 }

def lookUpRole {ω : Type} (lookup : Bool) : List (RbacAction Bool ω) :=
  [.lookup lookup demotedRole, .readCache lookup true, .readDatabase lookup true,
    .writeCache lookup true]

/-- A lookup, the demotion and another lookup, one after the other. -/
def demotedBetween : List (RbacAction Bool Unit) :=
  lookUpRole false ++
    [.statement (), .statement (), .flush (), .invalidate () true, .invalidate () true,
      .commit ()] ++
    lookUpRole true

theorem rbac_lookup_never_stale_of_demotion :
    (demotedBetween.foldl (RbacSystem.perform demotion)
        (RbacSystem.start [demotedUser])).NeverStale ∧
      (demotedBetween.foldl (RbacSystem.perform demotion)
        (RbacSystem.start [demotedUser])).lookups true =
          .returned demotedRole 1 (.role .member) := by
  constructor
  · apply rbac_lookup_never_stale demotion [demotedUser]
    exact GuardedRun.of_allowedAlong (by decide +kernel)
  · decide +kernel

/-- A lookup between the deletion of the cached role and the commit stores the
old role again, and the next lookup returns it. -/
theorem old_role_outlives_demotion :
    ∃ actions : List (RbacAction Bool Unit),
      ¬ (actions.foldl (RbacSystem.perform demotion)
        (RbacSystem.start [demotedUser])).NeverStale := by
  refine ⟨[.statement (), .statement (), .flush (), .invalidate () true] ++ lookUpRole false ++
    [.invalidate () true, .commit ()] ++ lookUpRole true, ?_⟩
  intro fresh
  have stale := fresh true demotedRole 1 (.role .admin) (by decide +kernel)
  revert stale
  decide +kernel

end OpenZync.Auth
