import OpenZync.Auth.RefreshTokens
import Mathlib.Logic.Relation

/-!
# Rotation families

A family is followed through `rotated_by`.  A set of tokens that are revoked,
and whose successors are in the set, stays dead: no claim matches one of them
again.  A family walk collects such a set, unless the chain goes on behind it.
-/

namespace OpenZync.Auth

open OpenZync.Library

namespace TokenTable

/-- `rotated_by` of the first token names the second. -/
def Succeeds (table : TokenTable) (id next : Uuid) : Prop :=
  ∃ row ∈ table.rows, row.id = id ∧ row.rotatedBy = some next

/-- The second token is reached from the first through `rotated_by`. -/
def Reaches (table : TokenTable) : Uuid → Uuid → Prop :=
  Relation.ReflTransGen table.Succeeds

def Revoked (table : TokenTable) (id : Uuid) : Prop :=
  ∃ row ∈ table.rows, row.id = id ∧ row.isRevoked = true

/-- The token and all that follow it are revoked. -/
def Dead (table : TokenTable) (id : Uuid) : Prop :=
  ∃ family : Uuid → Prop, family id ∧
    ∀ member, family member → table.Revoked member ∧
      ∀ next, table.Succeeds member next → family next

theorem Succeeds.unique {table : TokenTable} {id first second : Uuid}
    (firstNext : table.Succeeds id first) (secondNext : table.Succeeds id second) :
    first = second := by
  obtain ⟨row, stored, same, rotated⟩ := firstNext
  obtain ⟨row', stored', same', rotated'⟩ := secondNext
  rw [table.eq_of_id stored stored' (same.trans same'.symm), rotated'] at rotated
  exact (Option.some.inj rotated).symm

theorem Revoked.isRevoked {table : TokenTable} {row : RefreshToken}
    (revoked : table.Revoked row.id) (stored : row ∈ table.rows) : row.isRevoked = true := by
  obtain ⟨other, otherStored, same, isRevoked⟩ := revoked
  rw [← table.eq_of_id otherStored stored same]
  exact isRevoked

theorem Dead.reaches {table : TokenTable} {id later : Uuid} (dead : table.Dead id)
    (reaches : table.Reaches id later) : table.Revoked later := by
  obtain ⟨family, member, closed⟩ := dead
  have kept : family later := by
    induction reaches with
    | refl => exact member
    | tail _ last induction => exact (closed _ induction).2 _ last
  exact (closed later kept).1

theorem Dead.not_current {table : TokenTable} {id : Uuid} (dead : table.Dead id)
    {tokenHash : Uuid} {now : Time} {row : RefreshToken}
    (matched : table.current tokenHash now = some row) : ¬ table.Reaches id row.id := by
  intro reaches
  obtain ⟨stored, unrevoked⟩ := current_some matched
  rw [(dead.reaches reaches).isRevoked stored] at unrevoked
  cases unrevoked

/-- Of two tokens reached from one, the later follows the earlier, which is
therefore revoked. -/
theorem eq_of_unrevoked {table : TokenTable} {root : Uuid} {first second : RefreshToken}
    (firstStored : first ∈ table.rows) (secondStored : second ∈ table.rows)
    (firstReached : table.Reaches root first.id) (secondReached : table.Reaches root second.id)
    (firstLive : first.isRevoked = false) (secondLive : second.isRevoked = false) :
    first = second := by
  have ends : ∀ live ∈ table.rows, live.isRevoked = false → ∀ later,
      table.Reaches live.id later → later = live.id := by
    intro live stored unrevoked later reaches
    rcases Relation.ReflTransGen.cases_head reaches with same | ⟨next, head, _⟩
    · exact same.symm
    · obtain ⟨row, rowStored, same, rotated⟩ := head
      rw [table.eq_of_id rowStored stored same] at rotated
      have revoked := (table.chained live stored next rotated).1
      rw [unrevoked] at revoked
      cases revoked
  have functional : Relator.RightUnique table.Succeeds :=
    fun _ _ _ firstNext secondNext => firstNext.unique secondNext
  rcases Relation.ReflTransGen.total_of_right_unique functional firstReached secondReached
    with forward | backward
  · exact (table.eq_of_id secondStored firstStored
      (ends first firstStored firstLive _ forward)).symm
  · exact table.eq_of_id firstStored secondStored
      (ends second secondStored secondLive _ backward)

section Changes

variable {table : TokenTable} {userId organizationId : Uuid} {expiresAt : Time}

theorem Succeeds.of_issue {id next : Uuid}
    (succeeds : (table.issue userId organizationId expiresAt).Succeeds id next) :
    table.Succeeds id next := by
  obtain ⟨row, stored, same, rotated⟩ := succeeds
  rcases List.mem_cons.mp stored with rfl | stored
  · cases rotated
  · exact ⟨row, stored, same, rotated⟩

theorem Revoked.issue {id : Uuid} (revoked : table.Revoked id) :
    (table.issue userId organizationId expiresAt).Revoked id := by
  obtain ⟨row, stored, same, isRevoked⟩ := revoked
  exact ⟨row, List.mem_cons_of_mem _ stored, same, isRevoked⟩

theorem Succeeds.of_revokeIds {ids : List Uuid} {id next : Uuid}
    (succeeds : (table.revokeIds ids).Succeeds id next) : table.Succeeds id next := by
  obtain ⟨row, stored, same, rotated⟩ := succeeds
  obtain ⟨old, oldStored, rfl⟩ := List.mem_map.mp stored
  rw [revokeRow_id] at same
  rw [revokeRow_rotatedBy] at rotated
  exact ⟨old, oldStored, same, rotated⟩

theorem Revoked.revokeIds {id : Uuid} (revoked : table.Revoked id) (ids : List Uuid) :
    (table.revokeIds ids).Revoked id := by
  obtain ⟨row, stored, same, isRevoked⟩ := revoked
  refine ⟨revokeRow ids row, List.mem_map_of_mem stored, ?_, revokeRow_isRevoked isRevoked⟩
  rw [revokeRow_id, same]

theorem revoked_revokeIds {ids : List Uuid} {row : RefreshToken} (stored : row ∈ table.rows)
    (named : row.id ∈ ids) : (table.revokeIds ids).Revoked row.id := by
  refine ⟨revokeRow ids row, List.mem_map_of_mem stored, revokeRow_id ids row, ?_⟩
  rw [revokeRow, if_pos named]

variable {row : RefreshToken} {stored : row ∈ table.rows}

theorem Succeeds.of_rotate {id next : Uuid}
    (succeeds : (table.rotate row stored expiresAt).Succeeds id next) (other : id ≠ row.id) :
    table.Succeeds id next := by
  obtain ⟨new, newStored, same, rotated⟩ := succeeds
  obtain ⟨old, oldStored, rfl⟩ := List.mem_map.mp newStored
  rw [rotateRow_id] at same
  rw [rotateRow, if_neg (same ▸ other)] at rotated
  exact Succeeds.of_issue ⟨old, oldStored, same, rotated⟩

theorem Revoked.rotate {id : Uuid} (revoked : table.Revoked id) :
    (table.rotate row stored expiresAt).Revoked id := by
  have issued : (table.issue row.userId row.organizationId expiresAt).Revoked id :=
    revoked.issue
  obtain ⟨old, oldStored, same, isRevoked⟩ := issued
  refine ⟨rotateRow row.id table.nextId old, List.mem_map_of_mem oldStored, ?_, ?_⟩
  · rw [rotateRow_id, same]
  · rw [rotateRow]
    split
    · rfl
    · exact isRevoked

end Changes

/-- A later table: its rows are still there, the rows numbered before are among
them, and revoked tokens stay revoked and keep their successors. -/
structure Extends (table later : TokenTable) : Prop where
  nextId : table.nextId ≤ later.nextId
  stored : ∀ row ∈ table.rows, ∃ row' ∈ later.rows, row'.id = row.id ∧ row'.userId = row.userId
  origin : ∀ row' ∈ later.rows, row'.id < table.nextId →
    ∃ row ∈ table.rows, row.id = row'.id ∧ row.userId = row'.userId
  revoked : ∀ id, table.Revoked id → later.Revoked id
  succeeds : ∀ id next, table.Revoked id → later.Succeeds id next → table.Succeeds id next

theorem Extends.trans {table middle later : TokenTable} (first : table.Extends middle)
    (second : middle.Extends later) : table.Extends later := by
  refine ⟨Nat.le_trans first.nextId second.nextId, ?_, ?_,
    fun id revoked => second.revoked id (first.revoked id revoked), ?_⟩
  · intro row stored
    obtain ⟨row', stored', id', user'⟩ := first.stored row stored
    obtain ⟨row'', stored'', id'', user''⟩ := second.stored row' stored'
    exact ⟨row'', stored'', id''.trans id', user''.trans user'⟩
  · intro row'' stored'' before
    obtain ⟨row', stored', id', user'⟩ :=
      second.origin row'' stored'' (Nat.lt_of_lt_of_le before first.nextId)
    rw [← id'] at before
    obtain ⟨row, stored, id, user⟩ := first.origin row' stored' before
    exact ⟨row, stored, id.trans id', user.trans user'⟩
  · intro id next revoked succeeds
    exact first.succeeds id next revoked
      (second.succeeds id next (first.revoked id revoked) succeeds)

theorem extends_issue (table : TokenTable) (userId organizationId : Uuid) (expiresAt : Time) :
    table.Extends (table.issue userId organizationId expiresAt) :=
  { nextId := Nat.le_succ _
    stored := fun row stored => ⟨row, List.mem_cons_of_mem _ stored, rfl, rfl⟩
    origin := by
      intro row member before
      rcases List.mem_cons.mp member with rfl | stored
      · exact absurd before (Nat.lt_irrefl _)
      · exact ⟨row, stored, rfl, rfl⟩
    revoked := fun _ revoked => revoked.issue
    succeeds := fun _ _ _ succeeds => succeeds.of_issue }

theorem extends_revokeIds (table : TokenTable) (ids : List Uuid) :
    table.Extends (table.revokeIds ids) :=
  { nextId := le_rfl
    stored := fun row stored =>
      ⟨revokeRow ids row, List.mem_map_of_mem stored, revokeRow_id ids row,
        revokeRow_userId ids row⟩
    origin := by
      intro row member _
      obtain ⟨old, stored, rfl⟩ := List.mem_map.mp member
      exact ⟨old, stored, (revokeRow_id ids old).symm, (revokeRow_userId ids old).symm⟩
    revoked := fun _ revoked => revoked.revokeIds ids
    succeeds := fun _ _ _ succeeds => succeeds.of_revokeIds }

theorem extends_rotate {table : TokenTable} {row : RefreshToken} (stored : row ∈ table.rows)
    (live : row.isRevoked = false) (expiresAt : Time) :
    table.Extends (table.rotate row stored expiresAt) := by
  refine ⟨Nat.le_succ _, ?_, ?_, fun _ revoked => revoked.rotate, ?_⟩
  · intro other otherStored
    exact ⟨rotateRow row.id table.nextId other,
      List.mem_map_of_mem (List.mem_cons_of_mem _ otherStored), rotateRow_id _ _ other,
      rotateRow_userId _ _ other⟩
  · intro new newStored before
    obtain ⟨old, oldStored, rfl⟩ := List.mem_map.mp newStored
    rw [rotateRow_id] at before ⊢
    rw [rotateRow_userId]
    exact (extends_issue table row.userId row.organizationId expiresAt).origin old oldStored
      before
  · intro id next revoked succeeds
    apply succeeds.of_rotate
    intro same
    rw [same] at revoked
    rw [revoked.isRevoked stored] at live
    cases live

theorem Dead.of_extends {table later : TokenTable} {id : Uuid} (dead : table.Dead id)
    (extended : table.Extends later) : later.Dead id := by
  obtain ⟨family, member, closed⟩ := dead
  refine ⟨family, member, ?_⟩
  intro other otherMember
  obtain ⟨revoked, successors⟩ := closed other otherMember
  exact ⟨extended.revoked other revoked,
    fun next succeeds => successors next (extended.succeeds other next revoked succeeds)⟩

end TokenTable

def TokenOperation.userId : TokenOperation → Option Uuid
  | .login userId _ _ => some userId
  | .refresh _ _ _ _ => none
  | .changePassword userId _ _ _ => some userId
  | .resetPassword userId _ => some userId

/-- The user checks of a rotation pass. -/
def TokenOperation.userLive : TokenOperation → Bool
  | .refresh _ _ (some user) _ => decide user.Live
  | _ => false

/-- What a commit leaves. -/
inductive TokenCommit (operation : TokenOperation) (store : TokenStore) :
    TokenPhase → TokenStore → Prop where
  | login (userId organizationId : Uuid) (expiresAt : Time)
      (isLogin : operation = .login userId organizationId expiresAt) :
      TokenCommit operation store .begin
        { store with table := store.table.issue userId organizationId expiresAt }
  | rotation (row stored : RefreshToken) (member : stored ∈ store.table.rows)
      (sameHash : stored.tokenHash = row.tokenHash) (live : operation.userLive = true)
      (expiresAt : Time) :
      TokenCommit operation store (.claimed row)
        { store with table := store.table.rotate stored member expiresAt }
  | kill (presented : Uuid) (family : List Uuid) :
      TokenCommit operation store (.killing presented family [])
        { store with
          table := store.table.revokeIds family
          rejected := presented :: store.rejected }
  | change (userId organizationId : Uuid) (expiresAt : Time) (snapshot : List Uuid)
      (owner : operation.userId = some userId) :
      TokenCommit operation store (.sweeping snapshot [])
        { store with
          table := (store.table.revokeIds snapshot).issue userId organizationId expiresAt
          changes := (userId, store.table.nextId) :: store.changes }
  | reset (userId : Uuid) (snapshot : List Uuid) (owner : operation.userId = some userId) :
      TokenCommit operation store (.sweeping snapshot [])
        { store with
          table := store.table.revokeIds snapshot
          changes := (userId, store.table.nextId) :: store.changes }

theorem lockNext_commit {table : TokenTable} {id : Uuid} {next : TokenPhase}
    {store' : TokenStore} : table.lockNext id next ≠ .commit store' := by
  rw [TokenTable.lockNext]
  split <;> simp

theorem userLive_of_check {tokenHash : Uuid} {now : Time} {user : Option User}
    {expiresAt : Time} {found : User} (passed : checkRefreshUser user = .ok found) :
    (TokenOperation.refresh tokenHash now user expiresAt).userLive = true := by
  cases user with
  | none => cases passed
  | some user =>
      rw [checkRefreshUser] at passed
      split at passed
      · rename_i live
        exact decide_eq_true live
      · cases passed

theorem claimed_move (tokenHash : Uuid) (now : Time) (user : Option User) (expiresAt : Time)
    (store : TokenStore) (row : RefreshToken) :
    (∃ store', refreshProgram tokenHash now user expiresAt store (.claimed row) =
      .commit store') ∨
    refreshProgram tokenHash now user expiresAt store (.claimed row) = .abort := by
  simp only [refreshProgram]
  split
  · exact .inl ⟨_, rfl⟩
  · exact .inr rfl

theorem claimed_keeps {tokenHash : Uuid} {now : Time} {user : Option User} {expiresAt : Time}
    {store : TokenStore} {row : RefreshToken} {held : TokenRow → Prop}
    {Store Others : TokenStore → Prop} {Local : TokenStore → (TokenRow → Prop) → TokenPhase → Prop}
    (commits : ∀ store', refreshProgram tokenHash now user expiresAt store (.claimed row) =
      .commit store' → Store store' ∧ Others store') :
    (refreshProgram tokenHash now user expiresAt store (.claimed row)).Keeps Store Others Local
      store held := by
  rcases claimed_move tokenHash now user expiresAt store row with ⟨store', move⟩ | move
  · rw [move]
    exact commits store' move
  · rw [move]
    trivial

theorem refresh_commit {tokenHash : Uuid} {now : Time} {user : Option User} {expiresAt : Time}
    {store store' : TokenStore} {phase : TokenPhase}
    (committed : refreshProgram tokenHash now user expiresAt store phase = .commit store') :
    TokenCommit (.refresh tokenHash now user expiresAt) store phase store' := by
  cases phase with
  | begin =>
      simp only [refreshProgram] at committed
      split at committed <;> cases committed
  | refused =>
      simp only [refreshProgram] at committed
      split at committed <;> cases committed
  | claimed row =>
      simp only [refreshProgram] at committed
      split at committed
      · rename_i stored _ found passed
        cases committed
        apply TokenCommit.rotation row stored _ ?_ ?_ expiresAt
        · exact (lookup_some found).2
        · exact userLive_of_check passed
      · cases committed
  | walking presented family node hops =>
      cases hops with
      | zero => cases committed
      | succ hops =>
          simp only [refreshProgram] at committed
          split at committed
          · cases committed
          · split at committed
            · cases committed
            · split at committed <;> cases committed
  | killing presented family todo =>
      cases todo with
      | nil =>
          cases committed
          exact .kill presented family
      | cons id todo => exact absurd committed lockNext_commit
  | updated => cases committed
  | sweeping snapshot todo => cases committed
  | ended => cases committed

theorem password_commit {userId : Uuid} {passed : Bool} {issued : TokenTable → TokenTable}
    {store store' : TokenStore} {phase : TokenPhase}
    (committed : passwordProgram userId passed issued store phase = .commit store') :
    ∃ snapshot, phase = .sweeping snapshot [] ∧ store' = { store with
      table := issued (store.table.revokeIds snapshot)
      changes := (userId, store.table.nextId) :: store.changes } := by
  cases phase with
  | begin =>
      simp only [passwordProgram] at committed
      split at committed <;> cases committed
  | sweeping snapshot todo =>
      cases todo with
      | nil =>
          cases committed
          exact ⟨snapshot, rfl, rfl⟩
      | cons id todo => exact absurd committed lockNext_commit
  | refused => cases committed
  | claimed row => cases committed
  | walking presented family node hops => cases committed
  | killing presented family todo => cases committed
  | updated => cases committed
  | ended => cases committed

theorem program_commit {operation : TokenOperation} {store store' : TokenStore}
    {phase : TokenPhase} (committed : operation.program store phase = .commit store') :
    TokenCommit operation store phase store' := by
  cases operation with
  | login userId organizationId expiresAt =>
      cases phase with
      | begin =>
          cases committed
          exact .login userId organizationId expiresAt rfl
      | refused => cases committed
      | claimed row => cases committed
      | walking presented family node hops => cases committed
      | killing presented family todo => cases committed
      | updated => cases committed
      | sweeping snapshot todo => cases committed
      | ended => cases committed
  | refresh tokenHash now user expiresAt => exact refresh_commit committed
  | changePassword userId organizationId passed expiresAt =>
      simp only [TokenOperation.program] at committed
      obtain ⟨snapshot, rfl, rfl⟩ := password_commit committed
      exact .change userId organizationId expiresAt snapshot rfl
  | resetPassword userId passed =>
      simp only [TokenOperation.program] at committed
      obtain ⟨snapshot, rfl, rfl⟩ := password_commit committed
      exact .reset userId snapshot rfl

namespace TokenTable

def Stored (table : TokenTable) (id : Uuid) : Prop :=
  ∃ row ∈ table.rows, row.id = id

theorem Extends.keeps_stored {table later : TokenTable} (extended : table.Extends later) {id : Uuid}
    (stored : table.Stored id) : later.Stored id := by
  obtain ⟨row, member, rfl⟩ := stored
  obtain ⟨row', member', same, _⟩ := extended.stored row member
  exact ⟨row', member', same⟩

end TokenTable

/-- Each token of a bulk `UPDATE` is still to lock, locked, or revoked
already. -/
def Sweeps (table : TokenTable) (held : TokenRow → Prop) (ids todo : List Uuid) : Prop :=
  ∀ id ∈ ids, table.Stored id ∧ (id ∈ todo ∨ held (.token id) ∨ table.Revoked id)

/-- What a transaction knows about the rows it has locked or read. -/
def Knows (operation : TokenOperation) (store : TokenStore) (held : TokenRow → Prop) :
    TokenPhase → Prop
  | .claimed row => held (.token row.id) ∧ row ∈ store.table.rows ∧ row.isRevoked = false
  | .walking _ family node _ => (∀ id ∈ family, store.table.Stored id) ∧
      ∀ next, node.rotatedBy = some next → store.table.Stored next
  | .killing _ family todo => Sweeps store.table held family todo
  | .updated => ∀ userId, operation.userId = some userId → held (.user userId)
  | .sweeping snapshot todo => Sweeps store.table held snapshot todo ∧
      ∀ userId, operation.userId = some userId → held (.user userId)
  | _ => True

/-- A row that nobody holds is left as it is. -/
def RowsUndisturbed (held : TokenRow → Prop) (store store' : TokenStore) : Prop :=
  (∀ row ∈ store.table.rows, ¬ held (.token row.id) → row ∈ store'.table.rows) ∧
    store.table.Extends store'.table

section Moves

variable {operation : TokenOperation} {store store' : TokenStore} {held : TokenRow → Prop}
  {phase : TokenPhase}

theorem rotate_undisturbed {table : TokenTable} {row stored : RefreshToken}
    (member : stored ∈ table.rows) (rowMember : row ∈ table.rows)
    (sameHash : stored.tokenHash = row.tokenHash) : stored = row :=
  List.inj_on_of_nodup_map table.hashes member rowMember sameHash

theorem revokeIds_undisturbed {table : TokenTable} {ids : List Uuid}
    (sweeps : Sweeps table held ids []) {row : RefreshToken} (stored : row ∈ table.rows)
    (free : ¬ held (.token row.id)) : row ∈ (table.revokeIds ids).rows := by
  have same : TokenTable.revokeRow ids row = row := by
    rw [TokenTable.revokeRow]
    split
    · rename_i named
      rcases (sweeps row.id named).2 with none | own | revoked
      · cases none
      · exact absurd own free
      · rw [← revoked.isRevoked stored]
    · rfl
  exact List.mem_map.mpr ⟨row, stored, same⟩

theorem commit_undisturbed (knows : Knows operation store held phase)
    (commit : TokenCommit operation store phase store') :
    RowsUndisturbed held store store' := by
  cases commit with
  | login userId organizationId expiresAt isLogin =>
      exact ⟨fun row stored _ => List.mem_cons_of_mem _ stored,
        store.table.extends_issue userId organizationId expiresAt⟩
  | rotation row stored member sameHash live expiresAt =>
      obtain ⟨own, rowMember, unrevoked⟩ := knows
      have equal := rotate_undisturbed member rowMember sameHash
      subst equal
      refine ⟨?_, TokenTable.extends_rotate member unrevoked expiresAt⟩
      intro other otherStored free
      refine List.mem_map.mpr ⟨other, List.mem_cons_of_mem _ otherStored, ?_⟩
      rw [TokenTable.rotateRow, if_neg]
      intro same
      rw [same] at free
      exact free own
  | kill presented family =>
      exact ⟨fun row stored free => revokeIds_undisturbed knows stored free,
        store.table.extends_revokeIds family⟩
  | change userId organizationId expiresAt snapshot owner =>
      exact ⟨fun row stored free =>
          List.mem_cons_of_mem _ (revokeIds_undisturbed knows.1 stored free),
        (store.table.extends_revokeIds snapshot).trans
          (TokenTable.extends_issue _ userId organizationId expiresAt)⟩
  | reset userId snapshot owner =>
      exact ⟨fun row stored free => revokeIds_undisturbed knows.1 stored free,
        store.table.extends_revokeIds snapshot⟩

/-- What is known survives the commits of those who hold other rows. -/
theorem Knows.framed {own : TokenRow → Prop} (apart : ∀ row, own row → ¬ held row)
    (undisturbed : RowsUndisturbed held store store')
    (knows : Knows operation store own phase) : Knows operation store' own phase := by
  have sweeps : ∀ {ids todo}, Sweeps store.table own ids todo →
      Sweeps store'.table own ids todo := by
    intro ids todo before id member
    obtain ⟨stored, state⟩ := before id member
    refine ⟨undisturbed.2.keeps_stored stored, ?_⟩
    exact state.imp_right (Or.imp_right (undisturbed.2.revoked id))
  cases phase with
  | claimed row =>
      obtain ⟨owned, member, live⟩ := knows
      exact ⟨owned, undisturbed.1 row member (apart _ owned), live⟩
  | walking presented family node hops =>
      exact ⟨fun id member => undisturbed.2.keeps_stored (knows.1 id member),
        fun next rotated => undisturbed.2.keeps_stored (knows.2 next rotated)⟩
  | killing presented family todo => exact sweeps knows
  | sweeping snapshot todo => exact ⟨sweeps knows.1, knows.2⟩
  | updated => exact knows
  | begin => trivial
  | refused => trivial
  | ended => trivial

end Moves

section Sound

variable {operation : TokenOperation} {store : TokenStore} {held : TokenRow → Prop}
  {phase : TokenPhase}

theorem Sweeps.start {table : TokenTable} {ids : List Uuid}
    (stored : ∀ id ∈ ids, table.Stored id) : Sweeps table held ids ids :=
  fun id member => ⟨stored id member, .inl member⟩

/-- One row of a bulk `UPDATE`: it is locked, or it is revoked by then. -/
theorem Sweeps.lockNext {table : TokenTable} {ids todo : List Uuid} {id : Uuid}
    (sweeps : Sweeps table held ids (id :: todo)) :
    Sweeps table (fun other => other = .token id ∨ held other) ids todo ∧
      ((table.getById id).any (fun row => !row.isRevoked) = false →
        Sweeps table held ids todo) := by
  constructor
  · intro other member
    obtain ⟨stored, state⟩ := sweeps other member
    refine ⟨stored, ?_⟩
    rcases state with listed | own | revoked
    · rcases List.mem_cons.mp listed with rfl | listed
      · exact .inr (.inl (.inl rfl))
      · exact .inl listed
    · exact .inr (.inl (.inr own))
    · exact .inr (.inr revoked)
  · intro skipped other member
    obtain ⟨stored, state⟩ := sweeps other member
    refine ⟨stored, ?_⟩
    rcases state with listed | own | revoked
    · rcases List.mem_cons.mp listed with rfl | listed
      · obtain ⟨row, rowStored, rfl⟩ := stored
        rw [TokenTable.getById_of_mem rowStored] at skipped
        exact .inr (.inr ⟨row, rowStored, rfl, by simpa using skipped⟩)
      · exact .inl listed
    · exact .inr (.inl own)
    · exact .inr (.inr revoked)

theorem lockNext_sound {ids todo : List Uuid} {id : Uuid} {next : TokenPhase}
    (sweeps : Sweeps store.table held ids (id :: todo))
    (knows : ∀ held', (∀ row, held row → held' row) → Sweeps store.table held' ids todo →
      Knows operation store held' next) :
    (store.table.lockNext id next).Sound (fun _ => True) RowsUndisturbed (Knows operation)
      store held := by
  rw [TokenTable.lockNext]
  split
  · exact knows _ (fun _ own => .inr own) sweeps.lockNext.1
  · rename_i skipped
    exact knows held (fun _ own => own) (sweeps.lockNext.2 (by simpa using skipped))

theorem refresh_sound {tokenHash : Uuid} {now : Time} {user : Option User} {expiresAt : Time}
    (knows : Knows (.refresh tokenHash now user expiresAt) store held phase) :
    (refreshProgram tokenHash now user expiresAt store phase).Sound (fun _ => True)
      RowsUndisturbed (Knows (.refresh tokenHash now user expiresAt)) store held := by
  cases phase with
  | begin =>
      simp only [refreshProgram]
      split
      · rename_i row matched
        obtain ⟨stored, live⟩ := TokenTable.current_some matched
        exact ⟨.inl rfl, stored, live⟩
      · trivial
  | refused =>
      simp only [refreshProgram]
      split
      · trivial
      · rename_i presented found
        have stored := TokenTable.getByHash_some found
        refine ⟨?_, ?_⟩
        · intro id member
          exact ⟨presented, stored, (List.mem_singleton.mp member).symm⟩
        · intro next rotated
          obtain ⟨_, successor, successorStored, same, _⟩ :=
            store.table.chained presented stored next rotated
          exact ⟨successor, successorStored, same⟩
  | claimed row =>
      rcases claimed_move tokenHash now user expiresAt store row with ⟨store', move⟩ | move
      · rw [move]
        exact ⟨trivial, commit_undisturbed knows (refresh_commit move)⟩
      · rw [move]
        trivial
  | walking presented family node hops =>
      cases hops with
      | zero => exact Sweeps.start knows.1
      | succ hops =>
          simp only [refreshProgram]
          split
          · exact Sweeps.start knows.1
          · rename_i next rotated
            have nextStored := knows.2 next rotated
            have family' : ∀ id ∈ family ++ [next], store.table.Stored id := by
              intro id member
              rcases List.mem_append.mp member with member | last
              · exact knows.1 id member
              · rw [List.mem_singleton.mp last]
                exact nextStored
            split
            · exact Sweeps.start knows.1
            · split
              · exact Sweeps.start family'
              · rename_i successor found
                obtain ⟨stored, _⟩ := TokenTable.getById_some found
                refine ⟨family', ?_⟩
                intro later rotatedLater
                obtain ⟨_, row, rowStored, same, _⟩ :=
                  store.table.chained successor stored later rotatedLater
                exact ⟨row, rowStored, same⟩
  | killing presented family todo =>
      cases todo with
      | nil => exact ⟨trivial, commit_undisturbed knows (.kill presented family)⟩
      | cons id todo => exact lockNext_sound knows fun _ _ sweeps => sweeps
  | updated => trivial
  | sweeping snapshot todo => trivial
  | ended => trivial

theorem unrevoked_stored {table : TokenTable} {userId id : Uuid}
    (member : id ∈ table.unrevoked userId) : table.Stored id := by
  obtain ⟨row, listed, same⟩ := List.mem_map.mp member
  exact ⟨row, List.mem_of_mem_filter listed, same⟩

theorem password_sound {userId : Uuid} {passed : Bool} {issued : TokenTable → TokenTable}
    (owner : operation.userId = some userId)
    (commits : ∀ snapshot, Knows operation store held (.sweeping snapshot []) →
      RowsUndisturbed held store { store with
        table := issued (store.table.revokeIds snapshot)
        changes := (userId, store.table.nextId) :: store.changes })
    (knows : Knows operation store held phase) :
    (passwordProgram userId passed issued store phase).Sound (fun _ => True)
      RowsUndisturbed (Knows operation) store held := by
  cases phase with
  | begin =>
      simp only [passwordProgram]
      split
      · intro other same
        rw [owner] at same
        exact .inl (congrArg TokenRow.user (Option.some.inj same).symm)
      · trivial
  | updated => exact ⟨Sweeps.start fun id member => unrevoked_stored member, knows⟩
  | sweeping snapshot todo =>
      cases todo with
      | nil => exact ⟨trivial, commits snapshot knows⟩
      | cons id todo =>
          apply lockNext_sound knows.1
          intro held' grown sweeps
          exact ⟨sweeps, fun other same => grown _ (knows.2 other same)⟩
  | refused => trivial
  | claimed row => trivial
  | walking presented family node hops => trivial
  | killing presented family todo => trivial
  | ended => trivial

theorem program_sound (knows : Knows operation store held phase) :
    (operation.program store phase).Sound (fun _ => True) RowsUndisturbed (Knows operation)
      store held := by
  cases operation with
  | login userId organizationId expiresAt =>
      cases phase with
      | begin => exact ⟨trivial, commit_undisturbed knows (.login _ _ _ rfl)⟩
      | refused => trivial
      | claimed row => trivial
      | walking presented family node hops => trivial
      | killing presented family todo => trivial
      | updated => trivial
      | sweeping snapshot todo => trivial
      | ended => trivial
  | refresh tokenHash now user expiresAt => exact refresh_sound knows
  | changePassword userId organizationId passed expiresAt =>
      simp only [TokenOperation.program]
      apply password_sound rfl ?_ knows
      intro snapshot known
      exact commit_undisturbed known (.change userId organizationId expiresAt snapshot rfl)
  | resetPassword userId passed =>
      simp only [TokenOperation.program]
      apply password_sound rfl ?_ knows
      intro snapshot known
      exact commit_undisturbed known (.reset userId snapshot rfl)

theorem login_keeps {userId organizationId : Uuid} {expiresAt : Time}
    {Store Others : TokenStore → Prop}
    {Local : TokenStore → (TokenRow → Prop) → TokenPhase → Prop}
    (commits : ∀ store', (TokenOperation.login userId organizationId expiresAt).program store
      phase = .commit store' → Store store' ∧ Others store') :
    ((TokenOperation.login userId organizationId expiresAt).program store phase).Keeps Store
      Others Local store held := by
  cases phase with
  | begin => exact commits _ rfl
  | refused => trivial
  | claimed row => trivial
  | walking presented family node hops => trivial
  | killing presented family todo => trivial
  | updated => trivial
  | sweeping snapshot todo => trivial
  | ended => trivial

/-- The moves of a password change, for any local invariant. -/
theorem password_keeps {userId : Uuid} {passed : Bool} {issued : TokenTable → TokenTable}
    {Store Others : TokenStore → Prop}
    {Local : TokenStore → (TokenRow → Prop) → TokenPhase → Prop}
    (updated : ∀ held, Local store held .updated)
    (snapshot : ∀ held, Local store held
      (.sweeping (store.table.unrevoked userId) (store.table.unrevoked userId)))
    (next : ∀ snapshot id todo held, phase = .sweeping snapshot (id :: todo) →
      Local store held (.sweeping snapshot todo))
    (commits : ∀ store', passwordProgram userId passed issued store phase = .commit store' →
      Store store' ∧ Others store') :
    (passwordProgram userId passed issued store phase).Keeps Store Others Local store held := by
  cases phase with
  | begin =>
      simp only [passwordProgram]
      split
      · exact updated _
      · trivial
  | updated => exact snapshot held
  | sweeping rows todo =>
      cases todo with
      | nil => exact commits _ rfl
      | cons id todo =>
          simp only [passwordProgram, TokenTable.lockNext]
          split
          · exact next rows id todo _ rfl
          · exact next rows id todo held rfl
  | refused => trivial
  | claimed row => trivial
  | walking presented family node hops => trivial
  | killing presented family todo => trivial
  | ended => trivial

end Sound

section Runs

variable {τ : Type} [DecidableEq τ] {operations : τ → TokenOperation}

/-- What every transaction knows is true. -/
def Known (operations : τ → TokenOperation) (database : TokenDatabase τ) : Prop :=
  database.Consistent (fun _ => True) fun transaction => Knows (operations transaction)

omit [DecidableEq τ] in
theorem Known.start (store : TokenStore) :
    Known operations (Database.start store .begin : TokenDatabase τ) :=
  ⟨trivial, fun _ => trivial⟩

theorem Known.perform {database : TokenDatabase τ} (known : Known operations database)
    (action : Action τ) : Known operations (performTokens operations database action) := by
  apply Database.Consistent.perform known RowsUndisturbed action
  · intro transaction store held
    trivial
  · intro transaction _
    exact program_sound (known.transactions transaction)
  · intro transaction store held own phase apart undisturbed knows
    exact Knows.framed apart undisturbed knows

end Runs

end OpenZync.Auth
