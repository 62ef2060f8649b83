import Mathlib.Data.Fintype.Prod
import OpenZync.Auth.TokenFamilies

/-!
# Sessions after a password change

The bulk revocation of a password change sees the rows committed when it
starts.  It ends every session of the user, unless a token of the user is
committed while it runs.
-/

namespace OpenZync.Auth

open OpenZync.Library

/-- The user for whom the next step of a transaction commits a token, other
than by a password change. -/
def TokenOperation.issuesFor (operation : TokenOperation) : TokenPhase → Option Uuid
  | .begin =>
      match operation with
      | .login userId _ _ => some userId
      | _ => none
  | .claimed row => if operation.userLive = true then some row.userId else none
  | _ => none

def TokenPhase.isSweeping : TokenPhase → Bool
  | .sweeping _ _ => true
  | _ => false

/-- No login and no rotation of a user commits while the tokens of that user
are being revoked in bulk. -/
def SweepsAlone {τ : Type} (operations : τ → TokenOperation) (database : TokenDatabase τ)
    (action : Action τ) : Prop :=
  ∀ transaction, action = .advance transaction →
    ∀ userId ∈ (operations transaction).issuesFor (database.phase transaction),
      ∀ other, (database.phase other).isSweeping = true →
        (operations other).userId ≠ some userId

/-- The rows of a user that are not revoked are in the snapshot. -/
def InSnapshot (table : TokenTable) (userId : Uuid) (snapshot : List Uuid) : Prop :=
  ∀ row ∈ table.rows, row.userId = userId → row.isRevoked = false → row.id ∈ snapshot

/-- A bulk revocation in progress has every live token of its user in its
snapshot. -/
def Covers (operation : TokenOperation) (store : TokenStore) : TokenPhase → Prop
  | .sweeping snapshot _ =>
      ∀ userId, operation.userId = some userId → InSnapshot store.table userId snapshot
  | _ => True

/-- The tokens that a committed password change has found are dead. -/
def OldSessionsDead (store : TokenStore) : Prop :=
  ∀ change ∈ store.changes, change.2 ≤ store.table.nextId ∧
    ∀ row ∈ store.table.rows, row.userId = change.1 → row.id < change.2 →
      store.table.Dead row.id

section Snapshots

variable {table : TokenTable} {userId : Uuid} {snapshot : List Uuid}

theorem InSnapshot.start : InSnapshot table userId (table.unrevoked userId) := by
  intro row stored owner live
  exact List.mem_map_of_mem (List.mem_filter.mpr ⟨stored, decide_eq_true ⟨owner, live⟩⟩)

theorem InSnapshot.revokeIds (covered : InSnapshot table userId snapshot) (ids : List Uuid) :
    InSnapshot (table.revokeIds ids) userId snapshot := by
  intro row stored owner live
  obtain ⟨old, oldStored, rfl⟩ := List.mem_map.mp stored
  rw [TokenTable.revokeRow_userId] at owner
  rw [TokenTable.revokeRow_id]
  apply covered old oldStored owner
  by_contra revoked
  rw [TokenTable.revokeRow_isRevoked (by simpa using revoked)] at live
  cases live

theorem InSnapshot.issue (covered : InSnapshot table userId snapshot) {other : Uuid}
    (different : other ≠ userId) (organizationId : Uuid) (expiresAt : Time) :
    InSnapshot (table.issue other organizationId expiresAt) userId snapshot := by
  intro row stored owner live
  rcases List.mem_cons.mp stored with rfl | stored
  · exact absurd owner different
  · exact covered row stored owner live

theorem InSnapshot.rotate (covered : InSnapshot table userId snapshot) {row : RefreshToken}
    (stored : row ∈ table.rows) (different : row.userId ≠ userId) (expiresAt : Time) :
    InSnapshot (table.rotate row stored expiresAt) userId snapshot := by
  intro new newStored owner live
  obtain ⟨old, oldStored, rfl⟩ := List.mem_map.mp newStored
  rw [TokenTable.rotateRow_userId] at owner
  rw [TokenTable.rotateRow_id]
  apply covered.issue different row.organizationId expiresAt old oldStored owner
  rw [TokenTable.rotateRow] at live
  split at live
  · cases live
  · exact live

theorem dead_of_revokeIds (covered : InSnapshot table userId snapshot) {row : RefreshToken}
    (stored : row ∈ table.rows) (owner : row.userId = userId) :
    (table.revokeIds snapshot).Dead row.id := by
  refine ⟨fun id => ∃ other ∈ table.rows, other.id = id ∧ other.userId = userId,
    ⟨row, stored, rfl, owner⟩, ?_⟩
  rintro id ⟨other, otherStored, rfl, otherOwner⟩
  constructor
  · cases live : other.isRevoked with
    | true =>
        have revoked : table.Revoked other.id := ⟨other, otherStored, rfl, live⟩
        exact revoked.revokeIds snapshot
    | false =>
        exact TokenTable.revoked_revokeIds otherStored
          (covered other otherStored otherOwner live)
  · intro next succeeds
    obtain ⟨source, sourceStored, same, rotated⟩ := succeeds.of_revokeIds
    rw [table.eq_of_id sourceStored otherStored same] at rotated
    obtain ⟨_, successor, successorStored, sameNext, sameUser⟩ :=
      table.chained other otherStored next rotated
    exact ⟨successor, successorStored, sameNext, sameUser.trans otherOwner⟩

end Snapshots

section Commits

variable {operation : TokenOperation} {store store' : TokenStore} {held : TokenRow → Prop}
  {phase : TokenPhase}

theorem covers_of_commit (knows : Knows operation store held phase)
    (commit : TokenCommit operation store phase store') {userId : Uuid} {snapshot : List Uuid}
    (covered : InSnapshot store.table userId snapshot)
    (issues : ∀ other ∈ operation.issuesFor phase, other ≠ userId)
    (sweeps : phase.isSweeping = true → operation.userId ≠ some userId) :
    InSnapshot store'.table userId snapshot := by
  cases commit with
  | login other organizationId expiresAt isLogin =>
      subst isLogin
      exact covered.issue (issues other rfl) organizationId expiresAt
  | rotation row stored member sameHash live expiresAt =>
      refine covered.rotate member ?_ expiresAt
      rw [rotate_undisturbed member knows.2.1 sameHash]
      exact issues row.userId (if_pos live)
  | kill presented family => exact covered.revokeIds family
  | change other organizationId expiresAt rows owner =>
      apply (covered.revokeIds rows).issue
      intro same
      rw [same] at owner
      exact sweeps rfl owner
  | reset other rows owner => exact covered.revokeIds rows

theorem oldSessionsDead_of_commit (knows : Knows operation store held phase)
    (covers : Covers operation store phase)
    (commit : TokenCommit operation store phase store') (dead : OldSessionsDead store) :
    OldSessionsDead store' := by
  have extended := (commit_undisturbed knows commit).2
  have kept : ∀ change ∈ store.changes, change.2 ≤ store'.table.nextId ∧
      ∀ row ∈ store'.table.rows, row.userId = change.1 → row.id < change.2 →
        store'.table.Dead row.id := by
    intro change member
    obtain ⟨bounded, sessions⟩ := dead change member
    refine ⟨Nat.le_trans bounded extended.nextId, ?_⟩
    intro row stored owner before
    obtain ⟨old, oldStored, sameId, sameUser⟩ :=
      extended.origin row stored (Nat.lt_of_lt_of_le before bounded)
    rw [← sameId] at before ⊢
    exact (sessions old oldStored (sameUser.trans owner) before).of_extends extended
  have added : ∀ userId snapshot, phase = .sweeping snapshot [] →
      operation.userId = some userId →
      (store.table.revokeIds snapshot).Extends store'.table →
      store.table.nextId ≤ store'.table.nextId ∧
      ∀ row ∈ store'.table.rows, row.userId = userId → row.id < store.table.nextId →
        store'.table.Dead row.id := by
    rintro userId snapshot rfl owner later
    refine ⟨extended.nextId, ?_⟩
    intro row stored rowOwner before
    obtain ⟨old, oldStored, sameId, sameUser⟩ := extended.origin row stored before
    rw [← sameId]
    exact (dead_of_revokeIds (covers userId owner) oldStored
      (sameUser.trans rowOwner)).of_extends later
  cases commit with
  | login userId organizationId expiresAt isLogin => exact kept
  | rotation row stored member sameHash live expiresAt => exact kept
  | kill presented family => exact kept
  | change userId organizationId expiresAt snapshot owner =>
      intro change member
      rcases List.mem_cons.mp member with rfl | member
      · exact added userId snapshot rfl owner
          (TokenTable.extends_issue _ userId organizationId expiresAt)
      · exact kept change member
  | reset userId snapshot owner =>
      intro change member
      rcases List.mem_cons.mp member with rfl | member
      · exact added userId snapshot rfl owner
          { nextId := le_rfl
            stored := fun row stored => ⟨row, stored, rfl, rfl⟩
            origin := fun row stored _ => ⟨row, stored, rfl, rfl⟩
            revoked := fun _ revoked => revoked
            succeeds := fun _ _ _ succeeds => succeeds }
      · exact kept change member

/-- A refresh never begins a bulk revocation. -/
theorem refresh_covers {tokenHash : Uuid} {now : Time} {user : Option User} {expiresAt : Time}
    {Store Others : TokenStore → Prop}
    (commits : ∀ store', refreshProgram tokenHash now user expiresAt store phase =
      .commit store' → Store store' ∧ Others store') :
    (refreshProgram tokenHash now user expiresAt store phase).Keeps Store Others
      (fun store _ phase => Covers operation store phase) store held := by
  cases phase with
  | begin =>
      simp only [refreshProgram]
      split <;> trivial
  | refused =>
      simp only [refreshProgram]
      split <;> trivial
  | claimed row => exact claimed_keeps commits
  | walking presented family node hops =>
      cases hops with
      | zero => trivial
      | succ hops =>
          simp only [refreshProgram]
          split
          · trivial
          · split
            · trivial
            · split <;> trivial
  | killing presented family todo =>
      cases todo with
      | nil => exact commits _ rfl
      | cons id todo =>
          simp only [refreshProgram, TokenTable.lockNext]
          split <;> trivial
  | updated => trivial
  | sweeping snapshot todo => trivial
  | ended => trivial

theorem password_covers {operation : TokenOperation} {userId : Uuid} {passed : Bool}
    {issued : TokenTable → TokenTable} {Others : TokenStore → Prop}
    (owned : operation.userId = some userId) (covers : Covers operation store phase)
    (commits : ∀ store', passwordProgram userId passed issued store phase = .commit store' →
      OldSessionsDead store' ∧ Others store') :
    (passwordProgram userId passed issued store phase).Keeps OldSessionsDead Others
      (fun store _ phase => Covers operation store phase) store held := by
  apply password_keeps ?_ ?_ ?_ commits
  · intro held
    trivial
  · intro held other owner
    cases owned.symm.trans owner
    exact InSnapshot.start
  · intro snapshot id todo held sweeping
    rw [sweeping] at covers
    exact covers

end Commits

section Runs

variable {τ : Type} [DecidableEq τ] {operations : τ → TokenOperation}

def SessionsEnded (operations : τ → TokenOperation) (database : TokenDatabase τ) : Prop :=
  database.Consistent OldSessionsDead
    fun transaction store _ phase => Covers (operations transaction) store phase

theorem SessionsEnded.perform {database : TokenDatabase τ}
    (ended : SessionsEnded operations database) (known : Known operations database)
    {action : Action τ} (alone : SweepsAlone operations database action) :
    SessionsEnded operations (performTokens operations database action) := by
  apply Database.Consistent.step ended action
  · intro transaction store held
    trivial
  · intro transaction scheduled
    have knows := known.transactions transaction
    have commits : ∀ store', (operations transaction).program database.committed
        (database.phase transaction) = .commit store' → OldSessionsDead store' ∧
          ∀ other, other ≠ transaction →
            Covers (operations other) store' (database.phase other) := by
      intro store' committed
      have commit := program_commit committed
      refine ⟨oldSessionsDead_of_commit knows (ended.transactions transaction) commit
        ended.store, ?_⟩
      intro other different
      have covers := ended.transactions other
      have otherKnows := known.transactions other
      cases phase : database.phase other with
      | sweeping snapshot todo =>
          rw [phase] at covers otherKnows
          intro userId owner
          apply covers_of_commit knows commit (covers userId owner)
          · intro issued member same
            rw [same] at member
            exact alone transaction scheduled userId member other (by rw [phase]; rfl) owner
          · intro sweeps sameOwner
            have locked := otherKnows.2 userId owner
            cases own : database.phase transaction with
            | sweeping rows rest =>
                rw [own] at knows
                have lockedToo := knows.2 userId sameOwner
                exact different (Option.some.inj (locked.symm.trans lockedToo))
            | _ =>
                rw [own] at sweeps
                cases sweeps
      | _ => trivial
    have covers := ended.transactions transaction
    cases operation : operations transaction with
    | refresh tokenHash now user expiresAt =>
        rw [operation] at commits
        exact refresh_covers commits
    | login userId organizationId expiresAt =>
        rw [operation] at commits
        exact login_keeps commits
    | changePassword userId organizationId passed expiresAt =>
        rw [operation] at covers
        simp only [operation, TokenOperation.program] at commits ⊢
        exact password_covers rfl covers commits
    | resetPassword userId passed =>
        rw [operation] at covers
        simp only [operation, TokenOperation.program] at commits ⊢
        exact password_covers rfl covers commits

/-- After a password change or reset has committed, no claim matches a token
that follows one of the user issued before the commit, as long as no other
token of the user is committed during the revocation. -/
theorem password_change_ends_sessions {table : TokenTable} {actions : List (Action τ)}
    {database : TokenDatabase τ}
    (run : GuardedRun (performTokens operations) (SweepsAlone operations)
      (Database.start (TokenStore.start table) .begin) actions database) :
    ∀ change ∈ database.committed.changes, ∀ old ∈ database.committed.table.rows,
      old.userId = change.1 → old.id < change.2 → ∀ tokenHash now row,
      database.committed.table.current tokenHash now = some row →
      ¬ database.committed.table.Reaches old.id row.id := by
  have both := run.invariant
    (fun database => Known operations database ∧ SessionsEnded operations database)
    ⟨Known.start _, by simp [OldSessionsDead, TokenStore.start, Database.start],
      fun _ => trivial⟩
    fun invariant alone => ⟨invariant.1.perform _, invariant.2.perform invariant.1 alone⟩
  intro change member old stored owner before tokenHash now row matched
  exact ((both.2.store change member).2 old stored owner before).not_current matched

end Runs

/-- A login, a rotation of its token, and a password change. -/
def passwordRequests : Bool × Bool → TokenOperation
  | (false, false) => .login 7 1 1000
  | (false, true) => .refresh 0 10 (some sessionUser) 1000
  | (true, false) => .changePassword 7 1 true 1000
  | (true, true) => .resetPassword 7 true

instance sweepsAloneDecidable (operations : Bool × Bool → TokenOperation)
    (database : TokenDatabase (Bool × Bool)) (action : Action (Bool × Bool)) :
    Decidable (SweepsAlone operations database action) :=
  inferInstanceAs (Decidable (∀ _, _))

/-- The rotation commits before the revocation takes its snapshot. -/
def changedAfterwards : TokenDatabase (Bool × Bool) :=
  ([(false, false), (false, true), (true, false), (false, true), (true, false), (true, false),
    (true, false)].map Action.advance).foldl
    (performTokens passwordRequests) (Database.start (TokenStore.start .empty) .begin)

theorem password_change_ends_rotated_session :
    changedAfterwards.committed.changes = [(7, 2)] ∧
    ∀ change ∈ changedAfterwards.committed.changes,
      ∀ old ∈ changedAfterwards.committed.table.rows,
      old.userId = change.1 → old.id < change.2 → ∀ tokenHash now row,
      changedAfterwards.committed.table.current tokenHash now = some row →
      ¬ changedAfterwards.committed.table.Reaches old.id row.id :=
  ⟨by decide +kernel,
    password_change_ends_sessions (GuardedRun.of_allowedAlong (by decide +kernel))⟩

/-- The rotation has claimed the token when the revocation takes its snapshot,
and commits while the revocation waits for the row. -/
def changedMeanwhile : TokenDatabase (Bool × Bool) :=
  ([(false, false), (false, true), (true, false), (true, false), (true, false), (false, true),
    (true, false), (true, false)].map Action.advance).foldl
    (performTokens passwordRequests) (Database.start (TokenStore.start .empty) .begin)

/-- The successor of the old session survives the password change. -/
theorem rotation_survives_password_change :
    changedMeanwhile.committed.changes = [(7, 2)] ∧
      ∃ row, changedMeanwhile.committed.table.current 1 30 = some row ∧
        changedMeanwhile.committed.table.Reaches 0 row.id := by
  have rotated : changedMeanwhile.committed.table.Succeeds 0 1 := by
    unfold TokenTable.Succeeds
    decide +kernel
  exact ⟨by decide +kernel, ⟨1, 7, 1, 1, 1000, false, none⟩, by decide +kernel,
    Relation.ReflTransGen.single rotated⟩

end OpenZync.Auth
