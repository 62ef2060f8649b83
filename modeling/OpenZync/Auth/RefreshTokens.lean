import Mathlib.Data.List.Nodup
import OpenZync.Auth.Accounts
import OpenZync.Library.Transactions

/-!
# Refresh tokens

The rows of `refresh_tokens` and the operations that change them, each as the
program of a transaction under READ COMMITTED: a login, the rotation of a
presented token or, when the token is not current, the revocation of its
rotation family, and the two ways of setting a new password.

A row and the secret whose hash it stores are drawn together, and secrets are
compared for equality only, so hashes are numbered like the rows.
-/

namespace OpenZync.Auth

open OpenZync.Library

structure RefreshToken where
  id : Uuid
  userId : Uuid
  organizationId : Uuid
  tokenHash : Uuid
  expiresAt : Time
  isRevoked : Bool
  rotatedBy : Option Uuid
  deriving DecidableEq

/-- `refresh_tokens`.  A rotated row is revoked, and its successor is a row of
the same user. -/
structure TokenTable where
  rows : List RefreshToken
  nextId : Uuid
  bounded : ∀ row ∈ rows, row.id < nextId ∧ row.tokenHash < nextId
  ids : (rows.map RefreshToken.id).Nodup
  hashes : (rows.map RefreshToken.tokenHash).Nodup
  chained : ∀ row ∈ rows, ∀ next, row.rotatedBy = some next →
    row.isRevoked = true ∧ ∃ successor ∈ rows, successor.id = next ∧
      successor.userId = row.userId

namespace TokenTable

def empty : TokenTable :=
  { rows := []
    nextId := 0
    bounded := by simp
    ids := List.nodup_nil
    hashes := List.nodup_nil
    chained := by simp }

/-- `get_refresh_token_by_hash`, which sees revoked rows too. -/
def getByHash (table : TokenTable) (tokenHash : Uuid) : Option RefreshToken :=
  table.rows.find? fun row => decide (row.tokenHash = tokenHash)

/-- `get_refresh_token_by_id`. -/
def getById (table : TokenTable) (id : Uuid) : Option RefreshToken :=
  table.rows.find? fun row => decide (row.id = id)

/-- The row that the conditional `UPDATE` of a claim matches. -/
def current (table : TokenTable) (tokenHash : Uuid) (now : Time) : Option RefreshToken :=
  table.rows.find? fun row => decide (row.tokenHash = tokenHash ∧ row.isRevoked = false ∧
    now < row.expiresAt)

/-- The unrevoked rows of a user. -/
def unrevoked (table : TokenTable) (userId : Uuid) : List Uuid :=
  (table.rows.filter fun row => decide (row.userId = userId ∧ row.isRevoked = false)).map
    RefreshToken.id

theorem eq_of_id {table : TokenTable} {first second : RefreshToken}
    (firstMember : first ∈ table.rows) (secondMember : second ∈ table.rows)
    (same : first.id = second.id) : first = second :=
  List.inj_on_of_nodup_map table.ids firstMember secondMember same

theorem getById_some {table : TokenTable} {id : Uuid} {row : RefreshToken}
    (found : table.getById id = some row) : row ∈ table.rows ∧ row.id = id :=
  lookup_some found

theorem getByHash_some {table : TokenTable} {tokenHash : Uuid} {row : RefreshToken}
    (found : table.getByHash tokenHash = some row) : row ∈ table.rows :=
  (lookup_some found).1

theorem current_some {table : TokenTable} {tokenHash : Uuid} {now : Time} {row : RefreshToken}
    (found : table.current tokenHash now = some row) :
    row ∈ table.rows ∧ row.isRevoked = false := by
  rw [current] at found
  obtain ⟨stored, _, unrevoked, _⟩ := lookup_some found
  exact ⟨stored, unrevoked⟩

theorem getById_of_mem {table : TokenTable} {row : RefreshToken} (stored : row ∈ table.rows) :
    table.getById row.id = some row := by
  apply lookup_of_unique stored (decide_eq_true rfl)
  intro other otherStored same
  exact eq_of_id otherStored stored (of_decide_eq_true same)

/-- The row of `create_refresh_token`. -/
def fresh (table : TokenTable) (userId organizationId : Uuid) (expiresAt : Time) :
    RefreshToken :=
  { id := table.nextId
    userId := userId
    organizationId := organizationId
    tokenHash := table.nextId
    expiresAt := expiresAt
    isRevoked := false
    rotatedBy := none }

/-- `create_refresh_token`. -/
def issue (table : TokenTable) (userId organizationId : Uuid) (expiresAt : Time) :
    TokenTable :=
  { rows := table.fresh userId organizationId expiresAt :: table.rows
    nextId := table.nextId + 1
    bounded := by
      intro row member
      rcases List.mem_cons.mp member with rfl | member
      · exact ⟨Nat.lt_succ_self _, Nat.lt_succ_self _⟩
      · obtain ⟨idBound, hashBound⟩ := table.bounded row member
        exact ⟨Nat.lt_succ_of_lt idBound, Nat.lt_succ_of_lt hashBound⟩
    ids := by
      refine List.nodup_cons.mpr ⟨?_, table.ids⟩
      intro used
      obtain ⟨row, member, same⟩ := List.mem_map.mp used
      exact absurd same (Nat.ne_of_lt (table.bounded row member).1)
    hashes := by
      refine List.nodup_cons.mpr ⟨?_, table.hashes⟩
      intro used
      obtain ⟨row, member, same⟩ := List.mem_map.mp used
      exact absurd same (Nat.ne_of_lt (table.bounded row member).2)
    chained := by
      intro row member next rotated
      rcases List.mem_cons.mp member with rfl | member
      · cases rotated
      · obtain ⟨revoked, successor, stored, same⟩ := table.chained row member next rotated
        exact ⟨revoked, successor, List.mem_cons_of_mem _ stored, same⟩ }

/-- What an `UPDATE … SET is_revoked = true WHERE id IN (…)` makes of a row. -/
def revokeRow (ids : List Uuid) (row : RefreshToken) : RefreshToken :=
  if row.id ∈ ids then { row with isRevoked := true } else row

@[simp] theorem revokeRow_id (ids : List Uuid) (row : RefreshToken) :
    (revokeRow ids row).id = row.id := by
  rw [revokeRow]
  split <;> rfl

@[simp] theorem revokeRow_userId (ids : List Uuid) (row : RefreshToken) :
    (revokeRow ids row).userId = row.userId := by
  rw [revokeRow]
  split <;> rfl

@[simp] theorem revokeRow_tokenHash (ids : List Uuid) (row : RefreshToken) :
    (revokeRow ids row).tokenHash = row.tokenHash := by
  rw [revokeRow]
  split <;> rfl

@[simp] theorem revokeRow_rotatedBy (ids : List Uuid) (row : RefreshToken) :
    (revokeRow ids row).rotatedBy = row.rotatedBy := by
  rw [revokeRow]
  split <;> rfl

theorem revokeRow_isRevoked {ids : List Uuid} {row : RefreshToken}
    (revoked : row.isRevoked = true) : (revokeRow ids row).isRevoked = true := by
  rw [revokeRow]
  split
  · rfl
  · exact revoked

/-- `revoke_refresh_token_ids`. -/
def revokeIds (table : TokenTable) (ids : List Uuid) : TokenTable :=
  { rows := table.rows.map (revokeRow ids)
    nextId := table.nextId
    bounded := by
      intro row member
      obtain ⟨old, stored, rfl⟩ := List.mem_map.mp member
      rw [revokeRow_id, revokeRow_tokenHash]
      exact table.bounded old stored
    ids := by
      rw [List.map_map, show RefreshToken.id ∘ revokeRow ids = RefreshToken.id from
        funext fun row => revokeRow_id ids row]
      exact table.ids
    hashes := by
      rw [List.map_map, show RefreshToken.tokenHash ∘ revokeRow ids = RefreshToken.tokenHash from
        funext fun row => revokeRow_tokenHash ids row]
      exact table.hashes
    chained := by
      intro row member next rotated
      obtain ⟨old, stored, rfl⟩ := List.mem_map.mp member
      rw [revokeRow_rotatedBy] at rotated
      obtain ⟨revoked, successor, successorStored, same, user⟩ :=
        table.chained old stored next rotated
      refine ⟨revokeRow_isRevoked revoked, revokeRow ids successor,
        List.mem_map_of_mem successorStored, ?_, ?_⟩
      · rw [revokeRow_id, same]
      · rw [revokeRow_userId, revokeRow_userId, user] }

/-- The claim of a row together with `set_refresh_token_rotated_by`. -/
def rotateRow (id next : Uuid) (row : RefreshToken) : RefreshToken :=
  if row.id = id then { row with isRevoked := true, rotatedBy := some next } else row

@[simp] theorem rotateRow_id (id next : Uuid) (row : RefreshToken) :
    (rotateRow id next row).id = row.id := by
  rw [rotateRow]
  split <;> rfl

@[simp] theorem rotateRow_userId (id next : Uuid) (row : RefreshToken) :
    (rotateRow id next row).userId = row.userId := by
  rw [rotateRow]
  split <;> rfl

@[simp] theorem rotateRow_tokenHash (id next : Uuid) (row : RefreshToken) :
    (rotateRow id next row).tokenHash = row.tokenHash := by
  rw [rotateRow]
  split <;> rfl

/-- What a rotation leaves: the claimed row revoked and chained to a fresh row
of its user. -/
def rotate (table : TokenTable) (row : RefreshToken) (stored : row ∈ table.rows)
    (expiresAt : Time) : TokenTable :=
  let issued := table.issue row.userId row.organizationId expiresAt
  { rows := issued.rows.map (rotateRow row.id table.nextId)
    nextId := issued.nextId
    bounded := by
      intro other member
      obtain ⟨old, oldStored, rfl⟩ := List.mem_map.mp member
      rw [rotateRow_id, rotateRow_tokenHash]
      exact issued.bounded old oldStored
    ids := by
      rw [List.map_map, show RefreshToken.id ∘ rotateRow row.id table.nextId = RefreshToken.id from
        funext fun other => rotateRow_id row.id table.nextId other]
      exact issued.ids
    hashes := by
      rw [List.map_map, show RefreshToken.tokenHash ∘ rotateRow row.id table.nextId =
        RefreshToken.tokenHash from
        funext fun other => rotateRow_tokenHash row.id table.nextId other]
      exact issued.hashes
    chained := by
      intro other member next rotated
      obtain ⟨old, oldStored, rfl⟩ := List.mem_map.mp member
      by_cases same : old.id = row.id
      · have equal : old = row :=
          issued.eq_of_id oldStored (List.mem_cons_of_mem _ stored) same
        subst equal
        rw [rotateRow, if_pos rfl] at rotated ⊢
        refine ⟨rfl, rotateRow old.id table.nextId
          (table.fresh old.userId old.organizationId expiresAt),
          List.mem_map_of_mem (List.mem_cons_self ..), ?_, ?_⟩
        · rw [rotateRow_id]
          exact Option.some.inj rotated
        · rw [rotateRow_userId]
          rfl
      · rw [rotateRow, if_neg same] at rotated ⊢
        obtain ⟨revoked, successor, successorStored, sameId, user⟩ :=
          issued.chained old oldStored next rotated
        refine ⟨revoked, rotateRow row.id table.nextId successor,
          List.mem_map_of_mem successorStored, ?_, ?_⟩
        · rw [rotateRow_id, sameId]
        · rw [rotateRow_userId, user] }

end TokenTable

/-- `_REFRESH_FAMILY_WALK_LIMIT`. -/
def refreshFamilyWalkLimit : Nat := 30

inductive RefreshError where
  | invalid
  | userGone
  | deactivated

def RefreshError.message : RefreshError → Text
  | .invalid => "Refresh token is invalid or has expired.".toList
  | .userGone => "User no longer exists.".toList
  | .deactivated => "This account has been deactivated.".toList

/-- The user checks of a rotation, on what `get_user_by_id` has returned. -/
def checkRefreshUser : Option User → Except RefreshError User
  | none => .error .userGone
  | some user => if user.Live then .ok user else .error .deactivated

/-- A request.  What it reads outside the table comes with it: the clock, the
user that it finds, whether its password checks pass. -/
inductive TokenOperation where
  | login (userId organizationId : Uuid) (expiresAt : Time)
  | refresh (tokenHash : Uuid) (now : Time) (user : Option User) (expiresAt : Time)
  | changePassword (userId organizationId : Uuid) (passed : Bool) (expiresAt : Time)
  | resetPassword (userId : Uuid) (passed : Bool)

/-- The committed rows.  Beside them stand the presented tokens whose family a
committed refresh has revoked, and for every committed password change its user
and the number of the next row at the commit. -/
structure TokenStore where
  table : TokenTable
  rejected : List Uuid
  changes : List (Uuid × Uuid)

def TokenStore.start (table : TokenTable) : TokenStore :=
  { table := table
    rejected := []
    changes := [] }

inductive TokenPhase where
  | begin
  /-- The conditional `UPDATE` has matched the row. -/
  | claimed (row : RefreshToken)
  /-- It has matched none. -/
  | refused
  /-- The family walk: the presented token, the tokens found so far, the one
  read last and the hops left. -/
  | walking (presented : Uuid) (family : List Uuid) (node : RefreshToken) (hops : Nat)
  /-- The rows of the family still to lock. -/
  | killing (presented : Uuid) (family todo : List Uuid)
  /-- The row of the user is updated. -/
  | updated
  /-- The bulk `UPDATE`: the rows of its snapshot and those still to lock. -/
  | sweeping (snapshot todo : List Uuid)
  | ended

inductive TokenRow where
  | token (id : Uuid)
  | user (id : Uuid)
  deriving DecidableEq

abbrev TokenMove := Move TokenStore TokenPhase Unit TokenRow

abbrev TokenDatabase (τ : Type) := Database TokenStore TokenPhase Unit TokenRow τ

/-- An `UPDATE … WHERE … AND NOT is_revoked` at one row of its snapshot, as it
is committed by then. -/
def TokenTable.lockNext (table : TokenTable) (id : Uuid) (next : TokenPhase) : TokenMove :=
  if (table.getById id).any (fun row => !row.isRevoked) then .lockRow (.token id) next
  else .go next

/-- `refresh`. -/
def refreshProgram (tokenHash : Uuid) (now : Time) (user : Option User) (expiresAt : Time)
    (store : TokenStore) : TokenPhase → TokenMove
  | .begin =>
      match store.table.current tokenHash now with
      | some row => .lockRow (.token row.id) (.claimed row)
      | none => .go .refused
  | .refused =>
      match store.table.getByHash tokenHash with
      | none => .abort
      | some presented =>
          .go (.walking presented.id [presented.id] presented refreshFamilyWalkLimit)
  | .claimed row =>
      match found : store.table.getByHash row.tokenHash, checkRefreshUser user with
      | some stored, .ok _ =>
          .commit { store with
            table := store.table.rotate stored (TokenTable.getByHash_some found) expiresAt }
      | _, _ => .abort
  | .walking presented family _ 0 => .go (.killing presented family family)
  | .walking presented family node (hops + 1) =>
      match node.rotatedBy with
      | none => .go (.killing presented family family)
      | some next =>
          if next ∈ family then .go (.killing presented family family)
          else
            match store.table.getById next with
            | none => .go (.killing presented (family ++ [next]) (family ++ [next]))
            | some successor => .go (.walking presented (family ++ [next]) successor hops)
  | .killing presented family (id :: todo) =>
      store.table.lockNext id (.killing presented family todo)
  | .killing presented family [] =>
      .commit { store with
        table := store.table.revokeIds family
        rejected := presented :: store.rejected }
  | _ => .stay

/-- `change_password` and `reset_password`.  Both update the row of the user
before they revoke its tokens; only the first issues a new pair. -/
def passwordProgram (userId : Uuid) (passed : Bool) (issued : TokenTable → TokenTable)
    (store : TokenStore) : TokenPhase → TokenMove
  | .begin => if passed = true then .lockRow (.user userId) .updated else .abort
  | .updated =>
      .go (.sweeping (store.table.unrevoked userId) (store.table.unrevoked userId))
  | .sweeping snapshot (id :: todo) => store.table.lockNext id (.sweeping snapshot todo)
  | .sweeping snapshot [] =>
      .commit { store with
        table := issued (store.table.revokeIds snapshot)
        changes := (userId, store.table.nextId) :: store.changes }
  | _ => .stay

def TokenOperation.program (store : TokenStore) (phase : TokenPhase) :
    TokenOperation → TokenMove
  | .login userId organizationId expiresAt =>
      match phase with
      | .begin =>
          .commit { store with table := store.table.issue userId organizationId expiresAt }
      | _ => .stay
  | .refresh tokenHash now user expiresAt =>
      refreshProgram tokenHash now user expiresAt store phase
  | .changePassword userId organizationId passed expiresAt =>
      passwordProgram userId passed (·.issue userId organizationId expiresAt) store phase
  | .resetPassword userId passed => passwordProgram userId passed id store phase

/-- One scheduling step of concurrent requests. -/
def performTokens {τ : Type} [DecidableEq τ] (operations : τ → TokenOperation) :
    TokenDatabase τ → Action τ → TokenDatabase τ :=
  Database.perform (fun transaction store phase =>
    (operations transaction).program store phase) .ended

/-- A user with sessions, for examples. -/
def sessionUser : User :=
  { id := 7, organizationId := 1, externalId := "a@acme.io".toList, name := none,
    email := some "a@acme.io".toList, role := .member, permissions := [],
    passwordHash := some "bcrypt".toList, isActive := true, isDeleted := false,
    isEmailVerified := true, mfaEnabled := false, mustChangePassword := false,
    inviteTokenHash := none, createdAt := 0 }

end OpenZync.Auth
