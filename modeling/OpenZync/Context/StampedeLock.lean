import OpenZync.Library.Execution
import OpenZync.Library.Leases
import OpenZync.Text

/-!
# The stampede lock

`get_or_compute` on one key.  A call that misses takes a lock for ten seconds,
computes, stores and deletes the lock, without a look at whose it is by then.
-/

namespace OpenZync.Context

open OpenZync.Library

/-- `STAMPEDE_LOCK_TTL`: ten seconds. -/
def stampedeLockTtl : Int := 10 * 1000000

/-- The arguments of a call: its time to live, and whether it takes the lock. -/
structure ComputeCall where
  ttl : Option Int
  enableStampedeProtection : Bool

/-- Where a call stands; a call ends with a value or with an exception. -/
inductive ComputePhase where
  | reading
  | locking
  /-- Another call has the lock; the cache is read once more after a pause. -/
  | waiting
  | computing (acquired : Bool)
  | storing (value : Text) (acquired : Bool)
  /-- In the `finally` of a call that has acquired the lock. -/
  | unlocking (result : Option Text)
  | ended (result : Option Text)
deriving DecidableEq

inductive ComputeAction (τ : Type) where
  | wait (elapsed : Nat)
  /-- `get` before the lock is asked for. -/
  | read (call : τ) (reachable : Bool)
  /-- `SET lock_key "1" NX EX`. -/
  | lock (call : τ) (reply : CommandReply)
  /-- `get` after the pause. -/
  | retry (call : τ) (reachable : Bool)
  /-- `compute_fn` returns or raises. -/
  | compute (call : τ) (value : Option Text)
  | store (call : τ) (reply : CommandReply)
  /-- `DELETE lock_key`. -/
  | unlock (call : τ) (reply : CommandReply)

/-- Redis with the calls.  `acquisitions` has the lock that a call has acquired and
not deleted, with its end, `deletions` who has deleted whose lock. -/
structure ComputeState (τ : Type) where
  now : Int
  redis : Leases Text Text τ
  phase : τ → ComputePhase
  acquisitions : τ → Option (Text × Int)
  deletions : List (τ × τ)

/-- `{key}:lock` -/
def lockKey (key : Text) : Text :=
  key ++ ":lock".toList

theorem lockKey_ne (key : Text) : lockKey key ≠ key := by
  intro same
  have lengths := congrArg List.length same
  simp [lockKey] at lengths

namespace ComputeState

variable {τ : Type}

def start (now : Int) : ComputeState τ :=
  { now := now
    redis := fun _ => none
    phase := fun _ => .reading
    acquisitions := fun _ => none
    deletions := [] }

/-- What the cache answers under a key. -/
def cached (state : ComputeState τ) (key : Text) : Option Text :=
  (state.redis.held state.now key).map Lease.value

section

variable [DecidableEq τ]

def setPhase (state : ComputeState τ) (call : τ) (phase : ComputePhase) : ComputeState τ :=
  { state with phase := Function.update state.phase call phase }

/-- The lock is set. -/
def acquire (state : ComputeState τ) (key : Text) (call : τ) : ComputeState τ :=
  let expiresAt := state.now + stampedeLockTtl
  { state with
    redis := state.redis.set (lockKey key) ⟨"1".toList, call, expiresAt⟩
    acquisitions := Function.update state.acquisitions call (some (lockKey key, expiresAt)) }

def lock (state : ComputeState τ) (key : Text) (call : τ) (reply : CommandReply) :
    ComputeState τ :=
  match reply with
  | .refused => state.setPhase call (.ended none)
  | .answered =>
      match state.redis.held state.now (lockKey key) with
      | some _ => state.setPhase call .waiting
      | none => (state.acquire key call).setPhase call (.computing true)
  | .lost =>
      match state.redis.held state.now (lockKey key) with
      | some _ => state.setPhase call (.ended none)
      | none => (state.acquire key call).setPhase call (.ended none)

/-- The value is set, with `ttl if ttl is not None else self._default_ttl`. -/
def setValue (state : ComputeState τ) (defaultTtl : Int) (arguments : ComputeCall) (key : Text)
    (call : τ) (value : Text) : ComputeState τ :=
  { state with
    redis := state.redis.set key
      ⟨value, call, state.now + arguments.ttl.getD defaultTtl * 1000000⟩ }

/-- The end of the `try`. -/
def finish (state : ComputeState τ) (call : τ) (acquired : Bool) (result : Option Text) :
    ComputeState τ :=
  state.setPhase call (if acquired then .unlocking result else .ended result)

/-- The lock is deleted, whoever has it. -/
def deleteLock (state : ComputeState τ) (key : Text) (call : τ) : ComputeState τ :=
  { state with
    redis := state.redis.delete (lockKey key)
    acquisitions := Function.update state.acquisitions call none
    deletions := state.deletions ++
      ((state.redis.held state.now (lockKey key)).map fun lease => (call, lease.owner)).toList }

/-- An action that the phase of the call does not allow does nothing. -/
def perform (defaultTtl : Int) (calls : τ → ComputeCall) (key : Text)
    (state : ComputeState τ) : ComputeAction τ → ComputeState τ
  | .wait elapsed => { state with now := state.now + elapsed }
  | .read call reachable =>
      match state.phase call with
      | .reading =>
          if reachable then
            match state.cached key with
            | some value => state.setPhase call (.ended (some value))
            | none =>
                state.setPhase call
                  (if (calls call).enableStampedeProtection then .locking
                    else .computing false)
          else state.setPhase call (.ended none)
      | _ => state
  | .lock call reply =>
      match state.phase call with
      | .locking => state.lock key call reply
      | _ => state
  | .retry call reachable =>
      match state.phase call with
      | .waiting =>
          if reachable then
            match state.cached key with
            | some value => state.setPhase call (.ended (some value))
            | none => state.setPhase call (.computing false)
          else state.setPhase call (.ended none)
      | _ => state
  | .compute call value =>
      match state.phase call with
      | .computing acquired =>
          match value with
          | some text => state.setPhase call (.storing text acquired)
          | none => state.finish call acquired none
      | _ => state
  | .store call reply =>
      match state.phase call with
      | .storing value acquired =>
          match reply with
          | .answered =>
              (state.setValue defaultTtl (calls call) key call value).finish call acquired
                (some value)
          | .refused => state.finish call acquired none
          | .lost =>
              (state.setValue defaultTtl (calls call) key call value).finish call acquired none
      | _ => state
  | .unlock call reply =>
      match state.phase call with
      | .unlocking result =>
          match reply with
          | .answered => (state.deleteLock key call).setPhase call (.ended result)
          | .refused => state.setPhase call (.ended none)
          | .lost => (state.deleteLock key call).setPhase call (.ended none)
      | _ => state

end

/-- No call has deleted the lock of another, and at most one acquisition is
unexpired. -/
structure OwnLocks (state : ComputeState τ) : Prop where
  own : ∀ deletion ∈ state.deletions, deletion.1 = deletion.2
  single : ∀ call call' key expiresAt expiresAt',
    state.acquisitions call = some (key, expiresAt) → state.now < expiresAt →
    state.acquisitions call' = some (key, expiresAt') → state.now < expiresAt' → call = call'

/-- The lock that a call has acquired is still in force. -/
def Unexpired (state : ComputeState τ) (call : τ) : Prop :=
  ∃ acquisition ∈ state.acquisitions call, state.now < acquisition.2

/-- A call deletes its lock before the time of it is over, or when there is no
lock. -/
def InTime (key : Text) (state : ComputeState τ) : ComputeAction τ → Prop
  | .unlock call reply =>
      ∀ result, state.phase call = .unlocking result → reply ≠ .refused →
        state.Unexpired call ∨ state.redis.held state.now (lockKey key) = none
  | _ => True

/-- What every step in time preserves. -/
structure LocksKept (key : Text) (state : ComputeState τ) : Prop where
  honoured : state.redis.Honoured state.now state.acquisitions
  /-- The lock is that of a call that has not deleted it. -/
  held : ∀ lease, state.redis (lockKey key) = some lease →
    state.acquisitions lease.owner = some (lockKey key, lease.expiresAt)
  locks : ∀ call acquisition, state.acquisitions call = some acquisition →
    acquisition.1 = lockKey key
  own : ∀ deletion ∈ state.deletions, deletion.1 = deletion.2

namespace LocksKept

variable {key : Text} {state : ComputeState τ} {call : τ}

theorem start (key : Text) (now : Int) : LocksKept key (ComputeState.start now : ComputeState τ) :=
  { honoured := Leases.Honoured.none
    held := by simp [ComputeState.start]
    locks := by simp [ComputeState.start]
    own := by simp [ComputeState.start] }

theorem ownLocks (kept : LocksKept key state) : OwnLocks state := by
  refine ⟨kept.own, ?_⟩
  intro call call' key' expiresAt expiresAt' took alive took' alive'
  exact kept.honoured.unique took alive took' alive'

theorem wait (kept : LocksKept key state) (elapsed : Nat) :
    LocksKept key { state with now := state.now + elapsed } :=
  { kept with
    honoured :=
      kept.honoured.wait (Int.le_add_of_nonneg_right (Int.natCast_nonneg elapsed)) }

variable [DecidableEq τ]

/-- A call goes on without a change in Redis. -/
theorem setPhase (kept : LocksKept key state) (call : τ) (phase : ComputePhase) :
    LocksKept key (state.setPhase call phase) :=
  { honoured := kept.honoured
    held := kept.held
    locks := kept.locks
    own := kept.own }

theorem finish (kept : LocksKept key state) (call : τ) (acquired : Bool)
    (result : Option Text) : LocksKept key (state.finish call acquired result) :=
  kept.setPhase call _

theorem acquire (kept : LocksKept key state) (call : τ)
    (free : state.redis.held state.now (lockKey key) = none) :
    LocksKept key (state.acquire key call) := by
  refine
    { honoured := kept.honoured.take free ⟨"1".toList, call, state.now + stampedeLockTtl⟩
      held := ?_, locks := ?_, own := kept.own }
  · intro lease found
    simp only [ComputeState.acquire, Leases.set, Function.update_self, Option.some.injEq] at found
    subst found
    simp only [ComputeState.acquire, Function.update_self]
  · intro other acquisition took
    simp only [ComputeState.acquire] at took
    by_cases same : other = call
    · rw [same, Function.update_self, Option.some.injEq] at took
      rw [← took]
    · rw [Function.update_of_ne same] at took
      exact kept.locks other acquisition took

omit [DecidableEq τ] in
/-- Setting a value leaves the locks alone. -/
theorem setValue (kept : LocksKept key state) (defaultTtl : Int) (arguments : ComputeCall)
    (call : τ) (value : Text) :
    LocksKept key (state.setValue defaultTtl arguments key call value) := by
  refine { kept with honoured := ?_, held := ?_ }
  · apply kept.honoured.set
    intro owner key' expiresAt took
    have lock : key' = lockKey key := kept.locks owner _ took
    rw [lock]
    exact lockKey_ne key
  · intro lease found
    simp only [ComputeState.setValue, Leases.set, Function.update_of_ne (lockKey_ne key)] at found
    exact kept.held lease found

omit [DecidableEq τ] in
/-- A call that has the lock finds itself as its owner. -/
theorem owner_eq (kept : LocksKept key state) (unexpired : state.Unexpired call)
    {lease : Lease Text τ} (found : state.redis.held state.now (lockKey key) = some lease) :
    lease.owner = call := by
  obtain ⟨⟨lock, expiresAt⟩, took, alive⟩ := unexpired
  obtain rfl := kept.locks call _ took
  obtain ⟨value, holds⟩ := kept.honoured call _ expiresAt took alive
  rw [found] at holds
  cases holds
  rfl

omit [DecidableEq τ] in
/-- A call in whose name the lock is held has not run out of time. -/
theorem unexpired_of_owner (kept : LocksKept key state) {lease : Lease Text τ}
    (found : state.redis.held state.now (lockKey key) = some lease) :
    state.Unexpired lease.owner := by
  obtain ⟨stored, alive⟩ := Leases.held_eq_some.mp found
  exact ⟨_, kept.held lease stored, alive⟩

theorem deleteLock (kept : LocksKept key state)
    (inTime : state.Unexpired call ∨ state.redis.held state.now (lockKey key) = none) :
    LocksKept key (state.deleteLock key call) := by
  have mine : ∀ lease, state.redis.held state.now (lockKey key) = some lease →
      lease.owner = call := by
    intro lease found
    rcases inTime with unexpired | free
    · exact kept.owner_eq unexpired found
    · rw [free] at found
      cases found
  refine { honoured := ?_, held := ?_, locks := ?_, own := ?_ }
  · apply (kept.honoured.giveUp call).delete
    intro lease found
    rw [mine lease found, Function.update_self]
  · intro lease found
    simp [ComputeState.deleteLock, Leases.delete] at found
  · intro other acquisition took
    simp only [ComputeState.deleteLock] at took
    by_cases same : other = call
    · rw [same, Function.update_self] at took
      cases took
    · rw [Function.update_of_ne same] at took
      exact kept.locks other acquisition took
  · intro deletion member
    simp only [ComputeState.deleteLock, List.mem_append, Option.mem_toList] at member
    rcases member with before | new
    · exact kept.own deletion before
    · obtain ⟨lease, found, rfl⟩ := Option.map_eq_some_iff.mp new
      exact (mine lease found).symm

theorem lock (kept : LocksKept key state) (call : τ) (reply : CommandReply) :
    LocksKept key (state.lock key call reply) := by
  cases reply with
  | answered =>
      unfold ComputeState.lock
      dsimp only
      split
      · exact kept.setPhase call _
      · rename_i free
        exact (kept.acquire call free).setPhase call _
  | refused => exact kept.setPhase call _
  | lost =>
      unfold ComputeState.lock
      dsimp only
      split
      · exact kept.setPhase call _
      · rename_i free
        exact (kept.acquire call free).setPhase call _

theorem store (kept : LocksKept key state) (defaultTtl : Int) (arguments : ComputeCall)
    (call : τ) (value : Text) (acquired : Bool) (result : Option Text) :
    LocksKept key
      ((state.setValue defaultTtl arguments key call value).finish call acquired result) :=
  (kept.setValue defaultTtl arguments call value).finish call acquired result

theorem unlock (kept : LocksKept key state)
    (inTime : state.Unexpired call ∨ state.redis.held state.now (lockKey key) = none)
    (phase : ComputePhase) : LocksKept key ((state.deleteLock key call).setPhase call phase) :=
  (kept.deleteLock inTime).setPhase call phase

/-- A step in time preserves it. -/
theorem perform (kept : LocksKept key state) {defaultTtl : Int} {calls : τ → ComputeCall}
    {action : ComputeAction τ} (inTime : InTime key state action) :
    LocksKept key (state.perform defaultTtl calls key action) := by
  cases action with
  | wait elapsed => exact kept.wait elapsed
  | read call reachable =>
      unfold ComputeState.perform
      dsimp only
      split
      · split
        · split
          · exact kept.setPhase call _
          · exact kept.setPhase call _
        · exact kept.setPhase call _
      · exact kept
  | lock call reply =>
      unfold ComputeState.perform
      dsimp only
      split
      · exact kept.lock call reply
      · exact kept
  | retry call reachable =>
      unfold ComputeState.perform
      dsimp only
      split
      · split
        · split
          · exact kept.setPhase call _
          · exact kept.setPhase call _
        · exact kept.setPhase call _
      · exact kept
  | compute call value =>
      unfold ComputeState.perform
      dsimp only
      split
      · split
        · exact kept.setPhase call _
        · exact kept.finish call _ _
      · exact kept
  | store call reply =>
      unfold ComputeState.perform
      dsimp only
      split
      · split
        · exact kept.store defaultTtl (calls call) call _ _ _
        · exact kept.finish call _ _
        · exact kept.store defaultTtl (calls call) call _ _ _
      · exact kept
  | unlock call reply =>
      unfold ComputeState.perform
      dsimp only
      split
      · rename_i result unlocking
        cases reply with
        | answered => exact kept.unlock (inTime result unlocking (by simp)) _
        | refused => exact kept.setPhase call _
        | lost => exact kept.unlock (inTime result unlocking (by simp)) _
      · exact kept

theorem inTime_of_deleteLock (kept : LocksKept key state)
    (own : ∀ deletion ∈ (state.deleteLock key call).deletions, deletion.1 = deletion.2) :
    state.Unexpired call ∨ state.redis.held state.now (lockKey key) = none := by
  cases found : state.redis.held state.now (lockKey key) with
  | none => exact .inr rfl
  | some lease =>
      have mine : call = lease.owner := by
        apply own (call, lease.owner)
        simp [ComputeState.deleteLock, found]
      rw [mine]
      exact .inl (kept.unexpired_of_owner found)

theorem inTime (kept : LocksKept key state) {defaultTtl : Int} {calls : τ → ComputeCall}
    {action : ComputeAction τ}
    (after : OwnLocks (state.perform defaultTtl calls key action)) :
    InTime key state action := by
  cases action with
  | unlock call reply =>
      intro result unlocking executed
      apply kept.inTime_of_deleteLock
      have own := after.own
      cases reply with
      | answered =>
          simp only [ComputeState.perform, unlocking] at own
          exact own
      | refused => exact absurd rfl executed
      | lost =>
          simp only [ComputeState.perform, unlocking] at own
          exact own
  | _ => trivial

end LocksKept

/-- In any interleaving of calls on one key, no call ever deletes the lock of another
and at most one acquisition is unexpired at a time exactly when every call that
has acquired the lock deletes it before the ten seconds are over or when there is
none. -/
theorem ownLocks_throughout_iff [DecidableEq τ] (defaultTtl : Int) (calls : τ → ComputeCall)
    (key : Text) (now : Int) (actions : List (ComputeAction τ)) :
    (∀ before after, actions = before ++ after →
      OwnLocks (before.foldl (perform defaultTtl calls key) (.start now))) ↔
      AllowedAlong (perform defaultTtl calls key) (InTime key) (.start now) actions := by
  have implied (state : ComputeState τ) (kept : LocksKept key state) : OwnLocks state :=
    kept.ownLocks
  have preserved (state : ComputeState τ) (action : ComputeAction τ)
      (kept : LocksKept key state) (inTime : InTime key state action) :
      LocksKept key (state.perform defaultTtl calls key action) := kept.perform inTime
  have necessary (state : ComputeState τ) (action : ComputeAction τ)
      (kept : LocksKept key state)
      (after : OwnLocks (state.perform defaultTtl calls key action)) :
      InTime key state action := kept.inTime after
  exact (AllowedAlong.iff_throughout implied preserved necessary (.start key now) actions).symm

/-- Calls of a deployment. -/
def protectedCalls (_ : Nat) : ComputeCall :=
  ⟨none, true⟩

/-- The first call computes for eleven seconds, and the second takes the lock over. -/
def slowCompute : List (ComputeAction Nat) :=
  [.read 0 true, .lock 0 .answered, .wait 11000000, .read 1 true, .lock 1 .answered,
    .compute 0 (some "v".toList), .store 0 .answered, .unlock 0 .answered]

/-- The first call deletes the lock of the second. -/
theorem slowCompute_deletes :
    ¬ ∀ before after, slowCompute = before ++ after →
      OwnLocks (before.foldl (perform 30 protectedCalls "k".toList)
        (.start 0 : ComputeState Nat)) := by
  intro throughout
  have last := throughout slowCompute [] rfl
  have mine : (0 : Nat) = 1 := last.own (0, 1) (List.mem_singleton.mpr rfl)
  cases mine

end ComputeState

end OpenZync.Context
