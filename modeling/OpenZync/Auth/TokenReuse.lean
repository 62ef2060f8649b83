import Mathlib.Data.Fintype.Prod
import OpenZync.Auth.TokenFamilies

/-!
# Reuse of a rotated token

Every family has at most one live token, in every run.  That a family dies when
one of its rotated tokens is presented again needs more: the walk has to reach
the end of the chain, and the chain must not grow behind it.
-/

namespace OpenZync.Auth

open OpenZync.Library

/-- The tokens that a family kill in progress has read. -/
def TokenPhase.family : TokenPhase → List Uuid
  | .walking _ family _ _ => family
  | .killing _ family _ => family
  | _ => []

/-- The row that a rotation in progress has claimed. -/
def TokenPhase.claim : TokenPhase → Option RefreshToken
  | .claimed row => some row
  | _ => none

/-- The token at which a walk has used up its hops. -/
def TokenPhase.lastHop : TokenPhase → Option RefreshToken
  | .walking _ _ node 0 => some node
  | _ => none

/-- No rotation commits while a family kill in progress has read its token, and
no walk stops for want of hops at a token that has been rotated. -/
def WalksReachEnd {τ : Type} (operations : τ → TokenOperation) (database : TokenDatabase τ)
    (action : Action τ) : Prop :=
  ∀ transaction, action = .advance transaction →
    ((operations transaction).userLive = true →
      ∀ row ∈ (database.phase transaction).claim,
        ∀ other, row.id ∉ (database.phase other).family) ∧
    ∀ node ∈ (database.phase transaction).lastHop, node.rotatedBy = none

/-- A walk has collected the successors of all that it has left behind, and
where it stands it has read the successor; a finished walk has collected the
successors of all. -/
def Collects (store : TokenStore) : TokenPhase → Prop
  | .walking presented family node _ =>
      presented ∈ family ∧ node.id ∈ family ∧
      (∀ id ∈ family, id ≠ node.id → ∀ next, store.table.Succeeds id next → next ∈ family) ∧
      ∀ next, store.table.Succeeds node.id next → node.rotatedBy = some next
  | .killing presented family _ =>
      presented ∈ family ∧
      ∀ id ∈ family, ∀ next, store.table.Succeeds id next → next ∈ family
  | _ => True

section Walk

variable {store store' : TokenStore} {presented : Uuid} {family : List Uuid}
  {node : RefreshToken} {hops : Nat}

theorem succeeds_of_mem {table : TokenTable} {row : RefreshToken} (stored : row ∈ table.rows)
    {next : Uuid} (succeeds : table.Succeeds row.id next) : row.rotatedBy = some next := by
  obtain ⟨other, otherStored, same, rotated⟩ := succeeds
  rw [← table.eq_of_id otherStored stored same]
  exact rotated

/-- A walk that stands at a token whose successor, if any, is collected has
collected every successor. -/
theorem Collects.close (collects : Collects store (.walking presented family node hops))
    (last : ∀ next, node.rotatedBy = some next → next ∈ family) (todo : List Uuid) :
    Collects store (.killing presented family todo) := by
  obtain ⟨start, stands, closed, read⟩ := collects
  refine ⟨start, ?_⟩
  intro id member next succeeds
  by_cases here : id = node.id
  · rw [here] at succeeds
    exact last next (read next succeeds)
  · exact closed id member here next succeeds

theorem Collects.successors (collects : Collects store (.walking presented family node hops))
    {next : Uuid} (rotated : node.rotatedBy = some next) :
    ∀ id ∈ family, ∀ later, store.table.Succeeds id later → later ∈ family ++ [next] := by
  obtain ⟨_, _, closed, read⟩ := collects
  intro id member later succeeds
  by_cases here : id = node.id
  · rw [here] at succeeds
    rw [rotated] at read
    rw [← Option.some.inj (read later succeeds)]
    exact List.mem_append_right _ (List.mem_singleton.mpr rfl)
  · exact List.mem_append_left _ (closed id member here later succeeds)

theorem Collects.hop (collects : Collects store (.walking presented family node (hops + 1)))
    {next : Uuid} (rotated : node.rotatedBy = some next) {successor : RefreshToken}
    (stored : successor ∈ store.table.rows) (same : successor.id = next) :
    Collects store (.walking presented (family ++ [next]) successor hops) := by
  refine ⟨List.mem_append_left _ collects.1, ?_, ?_, ?_⟩
  · rw [same]
    exact List.mem_append_right _ (List.mem_singleton.mpr rfl)
  · intro id member other later succeeds
    rcases List.mem_append.mp member with member | last
    · exact collects.successors rotated id member later succeeds
    · rw [List.mem_singleton.mp last, ← same] at other
      exact absurd rfl other
  · intro later succeeds
    exact succeeds_of_mem stored succeeds

/-- A successor without a row ends the walk. -/
theorem Collects.missing (collects : Collects store (.walking presented family node hops))
    {next : Uuid} (rotated : node.rotatedBy = some next)
    (absent : store.table.getById next = none) (todo : List Uuid) :
    Collects store (.killing presented (family ++ [next]) todo) := by
  refine ⟨List.mem_append_left _ collects.1, ?_⟩
  intro id member later succeeds
  rcases List.mem_append.mp member with member | last
  · exact collects.successors rotated id member later succeeds
  · obtain ⟨row, stored, same, _⟩ := succeeds
    rw [← List.mem_singleton.mp last, ← same, TokenTable.getById_of_mem stored] at absent
    cases absent

theorem Collects.of_succeeds {phase : TokenPhase} (collects : Collects store phase)
    (kept : ∀ id ∈ phase.family, ∀ next, store'.table.Succeeds id next →
      store.table.Succeeds id next) : Collects store' phase := by
  cases phase with
  | walking presented family node hops =>
      obtain ⟨start, stands, closed, read⟩ := collects
      refine ⟨start, stands, ?_, ?_⟩
      · intro id member other next succeeds
        exact closed id member other next (kept id member next succeeds)
      · intro next succeeds
        exact read next (kept node.id stands next succeeds)
  | killing presented family todo =>
      exact ⟨collects.1,
        fun id member next succeeds => collects.2 id member next (kept id member next succeeds)⟩
  | begin => trivial
  | refused => trivial
  | claimed row => trivial
  | updated => trivial
  | sweeping snapshot todo => trivial
  | ended => trivial

end Walk

section Moves

variable {operation : TokenOperation} {store store' : TokenStore} {held : TokenRow → Prop}
  {phase : TokenPhase}

theorem succeeds_of_commit (knows : Knows operation store held phase)
    (commit : TokenCommit operation store phase store') {id next : Uuid}
    (other : operation.userLive = true → ∀ row ∈ phase.claim, id ≠ row.id)
    (succeeds : store'.table.Succeeds id next) : store.table.Succeeds id next := by
  cases commit with
  | login userId organizationId expiresAt isLogin => exact succeeds.of_issue
  | rotation row stored member sameHash live expiresAt =>
      have rotated : (store.table.rotate stored member expiresAt).Succeeds id next := succeeds
      apply rotated.of_rotate
      rw [rotate_undisturbed member knows.2.1 sameHash]
      exact other live row rfl
  | kill presented family => exact succeeds.of_revokeIds
  | change userId organizationId expiresAt snapshot owner =>
      exact succeeds.of_issue.of_revokeIds
  | reset userId snapshot owner => exact succeeds.of_revokeIds

theorem rejected_of_commit (knows : Knows operation store held phase)
    (collects : Collects store phase) (commit : TokenCommit operation store phase store')
    (dead : ∀ id ∈ store.rejected, store.table.Dead id) :
    ∀ id ∈ store'.rejected, store'.table.Dead id := by
  have extended := (commit_undisturbed knows commit).2
  have kept : ∀ id ∈ store.rejected, store'.table.Dead id :=
    fun id member => (dead id member).of_extends extended
  cases commit with
  | login userId organizationId expiresAt isLogin => exact kept
  | rotation row stored member sameHash live expiresAt => exact kept
  | change userId organizationId expiresAt snapshot owner => exact kept
  | reset userId snapshot owner => exact kept
  | kill presented family =>
      intro id member
      rcases List.mem_cons.mp member with rfl | member
      · refine ⟨(· ∈ family), collects.1, ?_⟩
        intro other otherMember
        obtain ⟨⟨row, stored, rfl⟩, _⟩ := knows other otherMember
        exact ⟨TokenTable.revoked_revokeIds stored otherMember,
          fun next succeeds => collects.2 _ otherMember next succeeds.of_revokeIds⟩
      · exact kept id member

/-- The moves of a refresh keep what its walk has collected, as long as the
walk does not run out of hops. -/
theorem refresh_collects {tokenHash : Uuid} {now : Time} {user : Option User}
    {expiresAt : Time} {Store Others : TokenStore → Prop} (collects : Collects store phase)
    (reachesEnd : ∀ node ∈ phase.lastHop, node.rotatedBy = none)
    (commits : ∀ store', refreshProgram tokenHash now user expiresAt store phase =
      .commit store' → Store store' ∧ Others store') :
    (refreshProgram tokenHash now user expiresAt store phase).Keeps Store Others
      (fun store _ phase => Collects store phase) store held := by
  cases phase with
  | begin =>
      simp only [refreshProgram]
      split <;> trivial
  | refused =>
      simp only [refreshProgram]
      split
      · trivial
      · rename_i presented found
        have start := List.mem_singleton.mpr (Eq.refl presented.id)
        refine ⟨start, start, ?_, ?_⟩
        · intro id member other
          exact absurd (List.mem_singleton.mp member) other
        · intro next succeeds
          exact succeeds_of_mem (TokenTable.getByHash_some found) succeeds
  | claimed row => exact claimed_keeps commits
  | walking presented family node hops =>
      cases hops with
      | zero =>
          have last := reachesEnd node rfl
          exact collects.close (by simp [last]) family
      | succ hops =>
          simp only [refreshProgram]
          split
          · rename_i last
            exact collects.close (by simp [last]) family
          · rename_i next rotated
            split
            · rename_i known
              refine collects.close ?_ family
              intro other rotated'
              rw [rotated] at rotated'
              rw [← Option.some.inj rotated']
              exact known
            · split
              · rename_i absent
                exact collects.missing rotated absent (family ++ [next])
              · rename_i successor found
                obtain ⟨stored, same⟩ := TokenTable.getById_some found
                exact collects.hop rotated stored same
  | killing presented family todo =>
      cases todo with
      | nil => exact commits _ rfl
      | cons id todo =>
          simp only [refreshProgram, TokenTable.lockNext]
          split
          · exact collects
          · exact collects
  | updated => trivial
  | sweeping snapshot todo => trivial
  | ended => trivial

end Moves

section Runs

variable {τ : Type} [DecidableEq τ] {operations : τ → TokenOperation}

/-- Rejected families are dead, and walks have collected what they passed. -/
def RejectedDead (database : TokenDatabase τ) : Prop :=
  database.Consistent (fun store => ∀ id ∈ store.rejected, store.table.Dead id)
    fun _ store _ phase => Collects store phase

theorem RejectedDead.perform {database : TokenDatabase τ} (dead : RejectedDead database)
    (known : Known operations database) {action : Action τ}
    (reachesEnd : WalksReachEnd operations database action) :
    RejectedDead (performTokens operations database action) := by
  apply Database.Consistent.step dead action
  · intro transaction store held
    trivial
  · intro transaction scheduled
    have knows := known.transactions transaction
    have collects := dead.transactions transaction
    obtain ⟨unread, hops⟩ := reachesEnd transaction scheduled
    have commits : ∀ store', (operations transaction).program database.committed
        (database.phase transaction) = .commit store' →
        (∀ id ∈ store'.rejected, store'.table.Dead id) ∧
          ∀ other, other ≠ transaction → Collects store' (database.phase other) := by
      intro store' committed
      have commit := program_commit committed
      refine ⟨rejected_of_commit knows collects commit dead.store, ?_⟩
      intro other _
      apply (dead.transactions other).of_succeeds
      intro id member next succeeds
      apply succeeds_of_commit knows commit ?_ succeeds
      intro live row claimed same
      rw [same] at member
      exact unread live row claimed other member
    cases operation : operations transaction with
    | refresh tokenHash now user expiresAt =>
        rw [operation] at commits
        exact refresh_collects collects hops commits
    | login userId organizationId expiresAt =>
        rw [operation] at commits
        exact login_keeps commits
    | changePassword userId organizationId passed expiresAt =>
        simp only [operation, TokenOperation.program] at commits ⊢
        apply password_keeps ?_ ?_ ?_ commits
        · exact fun _ => trivial
        · exact fun _ => trivial
        · exact fun _ _ _ _ _ => trivial
    | resetPassword userId passed =>
        simp only [operation, TokenOperation.program] at commits ⊢
        apply password_keeps ?_ ?_ ?_ commits
        · exact fun _ => trivial
        · exact fun _ => trivial
        · exact fun _ _ _ _ _ => trivial

/-- At every point each rotation family has at most one unrevoked token, and
once a presented token has been rejected with its family, no claim matches a
token that follows it, as long as the walks reach the end of their chains. -/
theorem refresh_family_dies_on_reuse {table : TokenTable} {actions : List (Action τ)}
    {database : TokenDatabase τ}
    (run : GuardedRun (performTokens operations) (WalksReachEnd operations)
      (Database.start (TokenStore.start table) .begin) actions database) :
    (∀ root, ∀ first ∈ database.committed.table.rows,
      ∀ second ∈ database.committed.table.rows,
      database.committed.table.Reaches root first.id →
      database.committed.table.Reaches root second.id →
      first.isRevoked = false → second.isRevoked = false → first = second) ∧
    ∀ presented ∈ database.committed.rejected, ∀ tokenHash now row,
      database.committed.table.current tokenHash now = some row →
      ¬ database.committed.table.Reaches presented row.id := by
  have both := run.invariant (fun database => Known operations database ∧ RejectedDead database)
    ⟨Known.start _, by simp [TokenStore.start, Database.start], fun _ => trivial⟩
    fun invariant reachesEnd =>
      ⟨invariant.1.perform _, invariant.2.perform invariant.1 reachesEnd⟩
  refine ⟨?_, ?_⟩
  · intro root first firstStored second secondStored firstReached secondReached firstLive
      secondLive
    exact TokenTable.eq_of_unrevoked firstStored secondStored firstReached secondReached
      firstLive secondLive
  · intro presented rejected tokenHash now row matched
    exact (both.2.store presented rejected).not_current matched

end Runs

/-- A login, a rotation of its token, and a replay of it; the last request
rotates the second token. -/
def replayRequests : Bool × Bool → TokenOperation
  | (false, false) => .login 7 1 1000
  | (false, true) => .refresh 0 10 (some sessionUser) 1000
  | (true, false) => .refresh 0 20 (some sessionUser) 1000
  | (true, true) => .refresh 1 20 (some sessionUser) 1000

instance walksReachEndDecidable (operations : Bool × Bool → TokenOperation)
    (database : TokenDatabase (Bool × Bool)) (action : Action (Bool × Bool)) :
    Decidable (WalksReachEnd operations database action) :=
  inferInstanceAs (Decidable (∀ _, _))

/-- The replay is rejected after the rotation has committed. -/
def replayed : TokenDatabase (Bool × Bool) :=
  ([(false, false), (false, true), (false, true), (true, false), (true, false), (true, false),
    (true, false), (true, false), (true, false), (true, false)].map Action.advance).foldl
    (performTokens replayRequests) (Database.start (TokenStore.start .empty) .begin)

theorem refresh_family_dies_on_replay :
    replayed.committed.rejected = [0] ∧
    (∀ root, ∀ first ∈ replayed.committed.table.rows,
      ∀ second ∈ replayed.committed.table.rows,
      replayed.committed.table.Reaches root first.id →
      replayed.committed.table.Reaches root second.id →
      first.isRevoked = false → second.isRevoked = false → first = second) ∧
    ∀ presented ∈ replayed.committed.rejected, ∀ tokenHash now row,
      replayed.committed.table.current tokenHash now = some row →
      ¬ replayed.committed.table.Reaches presented row.id :=
  ⟨by decide +kernel,
    refresh_family_dies_on_reuse (GuardedRun.of_allowedAlong (by decide +kernel))⟩

/-- A session that has been refreshed 32 times, and a replay of its first
token. -/
def longSession : Nat → TokenOperation
  | 0 => .login 7 1 1000
  | number + 1 =>
      .refresh (if number < 32 then number else 0) 10 (some sessionUser) 1000

def longReplayed : TokenDatabase Nat :=
  ((0 :: (List.range 32).flatMap (fun number => [number + 1, number + 1]) ++
    List.replicate 70 33).map Action.advance).foldl
    (performTokens longSession) (Database.start (TokenStore.start .empty) .begin)

/-- The walk stops after 30 hops, and the end of the chain stays alive. -/
theorem long_session_survives_replay :
    longReplayed.committed.rejected = [0] ∧
      ∃ row, longReplayed.committed.table.current 32 30 = some row ∧
        longReplayed.committed.table.Reaches 0 row.id := by
  have links : ∀ number < 32,
      longReplayed.committed.table.Succeeds number (number + 1) := by
    unfold TokenTable.Succeeds
    decide +kernel
  have chain : ∀ number ≤ 32, longReplayed.committed.table.Reaches 0 number := by
    intro number bound
    induction number with
    | zero => exact .refl
    | succ number induction =>
        exact (induction (Nat.le_of_succ_le bound)).tail (links number bound)
  exact ⟨by decide +kernel, ⟨32, 7, 1, 32, 1000, false, none⟩, by decide +kernel,
    chain 32 le_rfl⟩

end OpenZync.Auth
