import OpenZync.Library.Execution
import OpenZync.Library.Leases
import OpenZync.Text

/-!
# The election of a leading worker

A worker asks for the lock once, when it boots.  The one that gets it registers
the cron jobs and renews the lock every third of its time; the others never ask
again.  Nobody deletes the lock, and a worker that has lost it keeps its cron
jobs.
-/

namespace OpenZync.Workers

open OpenZync.Library

/-- `LEADER_LOCK_KEY`. -/
def leaderLockKey : Text := "openzync:worker:leader".toList

/-- `LEADER_LOCK_TTL_S`, in microseconds. -/
def leaderLockTtl : Time := 300 * 1000000

/-- `LEADER_LOCK_TTL_S // 3`. -/
def renewalPause : Time := 300 / 3 * 1000000

inductive WorkerPhase where
  | starting
  | follower
  /-- `renew_leader_lock` sleeps. -/
  | renewing (wakesAt : Time)
  /-- `renew_leader_lock` has returned, and `is_leader` is still set. -/
  | unrenewed
  | ended
deriving DecidableEq

namespace WorkerPhase

/-- The cron jobs of a worker are registered where `is_leader` is set. -/
def leads : WorkerPhase → Bool
  | renewing _ => true
  | unrenewed => true
  | _ => false

/-- The process has asked for the lock and runs. -/
def up : WorkerPhase → Bool
  | follower => true
  | phase => phase.leads

theorem up_of_leads {phase : WorkerPhase} (leads : phase.leads) : phase.up := by
  cases phase with
  | follower => rfl
  | starting => exact leads
  | renewing wakesAt => exact leads
  | unrenewed => exact leads
  | ended => exact leads

end WorkerPhase

/-- Redis, the workers and the clock. -/
structure ElectionState (τ : Type) where
  redis : Leases Text Text τ
  phase : τ → WorkerPhase
  clock : Time
  /-- When Redis last executed a `SET` of the worker. -/
  setAt : τ → Option Time
  /-- The renewals since then that were not executed. -/
  missed : τ → Nat

/-- What happens next.  `delay` is the time from a command to the next sleep. -/
inductive ElectionAction (τ : Type) where
  | wait (duration : Nat)
  | boot (worker : τ) (reply : CommandReply) (delay : Nat)
  | renew (worker : τ) (reply : CommandReply) (delay : Nat)
  /-- The process ends, in whatever way. -/
  | stop (worker : τ)

namespace ElectionState

variable {τ : Type} [DecidableEq τ]

def start (clock : Time) : ElectionState τ :=
  { redis := fun _ => none
    phase := fun _ => .starting
    clock := clock
    setAt := fun _ => none
    missed := fun _ => 0 }

def setPhase (state : ElectionState τ) (worker : τ) (phase : WorkerPhase) : ElectionState τ :=
  { state with phase := Function.update state.phase worker phase }

/-- `SET key owner EX ttl` is executed. -/
def lock (state : ElectionState τ) (owner : τ → Text) (worker : τ) : ElectionState τ :=
  { state with
    redis := state.redis.set leaderLockKey
      { value := owner worker
        owner := worker
        expiresAt := state.clock + leaderLockTtl }
    setAt := Function.update state.setAt worker (some state.clock)
    missed := Function.update state.missed worker 0 }

def miss (state : ElectionState τ) (worker : τ) : ElectionState τ :=
  { state with missed := Function.update state.missed worker (state.missed worker + 1) }

/-- `try_acquire_leader_lock`, where Redis executes the command. -/
def tryAcquireLeaderLock (state : ElectionState τ) (owner : τ → Text) (worker : τ) :
    ElectionState τ × Bool :=
  match state.redis.held state.clock leaderLockKey with
  | some _ => (state, false)
  | none => (state.lock owner worker, true)

/-- The script of `renew_leader_lock`. -/
def renewLeaderLock (state : ElectionState τ) (owner : τ → Text) (worker : τ) :
    ElectionState τ × Bool :=
  match state.redis.held state.clock leaderLockKey with
  | some lease =>
      if lease.value = owner worker then (state.lock owner worker, true)
      else (state.miss worker, false)
  | none => (state.miss worker, false)

/-- A worker that boots: an exception of the command ends `main`. -/
def boot (state : ElectionState τ) (owner : τ → Text) (worker : τ) (wakesAt : Time) :
    CommandReply → ElectionState τ
  | .refused => state.setPhase worker .ended
  | .lost => (state.tryAcquireLeaderLock owner worker).1.setPhase worker .ended
  | .answered =>
      (state.tryAcquireLeaderLock owner worker).1.setPhase worker
        (if (state.tryAcquireLeaderLock owner worker).2 then .renewing wakesAt else .follower)

/-- One round of `renew_leader_lock`: an exception of the script is logged. -/
def renew (state : ElectionState τ) (owner : τ → Text) (worker : τ) (wakesAt : Time) :
    CommandReply → ElectionState τ
  | .refused => (state.miss worker).setPhase worker (.renewing wakesAt)
  | .lost => (state.renewLeaderLock owner worker).1.setPhase worker (.renewing wakesAt)
  | .answered =>
      (state.renewLeaderLock owner worker).1.setPhase worker
        (if (state.renewLeaderLock owner worker).2 then .renewing wakesAt else .unrenewed)

/-- An action that the phase of the worker does not allow does nothing. -/
def perform (owner : τ → Text) (state : ElectionState τ) : ElectionAction τ → ElectionState τ
  | .wait duration => { state with clock := state.clock + duration }
  | .boot worker reply delay =>
      match state.phase worker with
      | .starting => state.boot owner worker (state.clock + delay + renewalPause) reply
      | _ => state
  | .renew worker reply delay =>
      match state.phase worker with
      | .renewing wakesAt =>
          if wakesAt ≤ state.clock then
            state.renew owner worker (state.clock + delay + renewalPause) reply
          else state
      | _ => state
  | .stop worker => state.setPhase worker .ended

def run (owner : τ → Text) (clock : Time) (actions : List (ElectionAction τ)) :
    ElectionState τ :=
  actions.foldl (perform owner) (start clock)

section Phases

variable (state : ElectionState τ) (owner : τ → Text) {worker other : τ} {phase : WorkerPhase}

@[simp] theorem setPhase_phase_self : (state.setPhase worker phase).phase worker = phase :=
  Function.update_self ..

@[simp] theorem setPhase_phase_of_ne (different : other ≠ worker) :
    (state.setPhase worker phase).phase other = state.phase other :=
  Function.update_of_ne different ..

theorem setPhase_phase_cases (worker other : τ) (phase : WorkerPhase) :
    other = worker ∧ (state.setPhase worker phase).phase other = phase ∨
      other ≠ worker ∧ (state.setPhase worker phase).phase other = state.phase other := by
  by_cases same : other = worker
  · subst same
    exact .inl ⟨rfl, setPhase_phase_self state⟩
  · exact .inr ⟨same, setPhase_phase_of_ne state same⟩

@[simp] theorem lock_setAt_self : (state.lock owner worker).setAt worker = some state.clock :=
  Function.update_self ..

@[simp] theorem lock_setAt_of_ne (different : other ≠ worker) :
    (state.lock owner worker).setAt other = state.setAt other :=
  Function.update_of_ne different ..

@[simp] theorem lock_redis_self : (state.lock owner worker).redis leaderLockKey =
    some ⟨owner worker, worker, state.clock + leaderLockTtl⟩ := by
  simp [lock, Leases.set]

/-- The lock is taken where nobody has it. -/
theorem tryAcquireLeaderLock_cases (worker : τ) :
    (∃ lease, state.redis.held state.clock leaderLockKey = some lease) ∧
        state.tryAcquireLeaderLock owner worker = (state, false) ∨
      state.redis.held state.clock leaderLockKey = none ∧
        state.tryAcquireLeaderLock owner worker = (state.lock owner worker, true) := by
  unfold tryAcquireLeaderLock
  cases held : state.redis.held state.clock leaderLockKey with
  | some lease => exact .inl ⟨⟨lease, rfl⟩, rfl⟩
  | none => exact .inr ⟨rfl, rfl⟩

theorem renewLeaderLock_cases (worker : τ) :
    (∃ lease, state.redis.held state.clock leaderLockKey = some lease ∧
        lease.value = owner worker) ∧
        state.renewLeaderLock owner worker = (state.lock owner worker, true) ∨
      state.renewLeaderLock owner worker = (state.miss worker, false) := by
  unfold renewLeaderLock
  cases held : state.redis.held state.clock leaderLockKey with
  | some lease =>
      by_cases own : lease.value = owner worker
      · exact .inl ⟨⟨lease, rfl, own⟩, if_pos own⟩
      · exact .inr (if_neg own)
  | none => exact .inr rfl

end Phases

/-- What an action comes to. -/
inductive Outcome (owner : τ → Text) (state : ElectionState τ) :
    ElectionAction τ → ElectionState τ → Prop where
  | wait (duration : Nat) :
      Outcome owner state (.wait duration) { state with clock := state.clock + duration }
  | idle {action : ElectionAction τ} : Outcome owner state action state
  | turnedAway {worker : τ} {reply : CommandReply} {delay : Nat} {phase : WorkerPhase}
      (starting : state.phase worker = .starting) (phases : phase = .ended ∨ phase = .follower)
      (locked : reply = .answered →
        ∃ lease, state.redis.held state.clock leaderLockKey = some lease) :
      Outcome owner state (.boot worker reply delay) (state.setPhase worker phase)
  | acquired {worker : τ} {reply : CommandReply} {delay : Nat} {phase : WorkerPhase}
      (starting : state.phase worker = .starting)
      (free : state.redis.held state.clock leaderLockKey = none)
      (phases : reply ≠ .answered ∧ phase = .ended ∨
        reply = .answered ∧ phase = .renewing (state.clock + delay + renewalPause)) :
      Outcome owner state (.boot worker reply delay)
        ((state.lock owner worker).setPhase worker phase)
  | missed {worker : τ} {reply : CommandReply} {delay : Nat} {wakesAt : Time}
      {phase : WorkerPhase} (sleeps : state.phase worker = .renewing wakesAt)
      (awake : wakesAt ≤ state.clock)
      (phases : phase = .unrenewed ∨ phase = .renewing (state.clock + delay + renewalPause)) :
      Outcome owner state (.renew worker reply delay)
        ((state.miss worker).setPhase worker phase)
  | renewed {worker : τ} {reply : CommandReply} {delay : Nat} {wakesAt : Time}
      {lease : Lease Text τ} (sleeps : state.phase worker = .renewing wakesAt)
      (awake : wakesAt ≤ state.clock)
      (held : state.redis.held state.clock leaderLockKey = some lease)
      (own : lease.value = owner worker) :
      Outcome owner state (.renew worker reply delay)
        ((state.lock owner worker).setPhase worker
          (.renewing (state.clock + delay + renewalPause)))
  | stopped (worker : τ) : Outcome owner state (.stop worker) (state.setPhase worker .ended)

theorem outcome_boot (owner : τ → Text) (state : ElectionState τ) {worker : τ}
    (starting : state.phase worker = .starting) (reply : CommandReply) (delay : Nat) :
    Outcome owner state (.boot worker reply delay)
      (state.boot owner worker (state.clock + delay + renewalPause) reply) := by
  rcases state.tryAcquireLeaderLock_cases owner worker with
    ⟨locked, outcome⟩ | ⟨free, outcome⟩
  · cases reply with
    | refused => exact .turnedAway starting (.inl rfl) nofun
    | lost =>
        rw [boot, outcome]
        exact .turnedAway starting (.inl rfl) nofun
    | answered =>
        rw [boot, outcome]
        exact .turnedAway starting (.inr rfl) fun _ => locked
  · cases reply with
    | refused => exact .turnedAway starting (.inl rfl) nofun
    | lost =>
        rw [boot, outcome]
        exact .acquired starting free (.inl ⟨nofun, rfl⟩)
    | answered =>
        rw [boot, outcome]
        exact .acquired starting free (.inr ⟨rfl, rfl⟩)

theorem outcome_renew (owner : τ → Text) (state : ElectionState τ) {worker : τ} {wakesAt : Time}
    (sleeps : state.phase worker = .renewing wakesAt) (awake : wakesAt ≤ state.clock)
    (reply : CommandReply) (delay : Nat) :
    Outcome owner state (.renew worker reply delay)
      (state.renew owner worker (state.clock + delay + renewalPause) reply) := by
  rcases state.renewLeaderLock_cases owner worker with
    ⟨⟨lease, held, own⟩, outcome⟩ | outcome
  · cases reply with
    | refused => exact .missed sleeps awake (.inr rfl)
    | lost =>
        rw [renew, outcome]
        exact .renewed sleeps awake held own
    | answered =>
        rw [renew, outcome]
        exact .renewed sleeps awake held own
  · cases reply with
    | refused => exact .missed sleeps awake (.inr rfl)
    | lost =>
        rw [renew, outcome]
        exact .missed sleeps awake (.inr rfl)
    | answered =>
        rw [renew, outcome]
        exact .missed sleeps awake (.inl rfl)

theorem outcome_perform (owner : τ → Text) (state : ElectionState τ)
    (action : ElectionAction τ) :
    Outcome owner state action (perform owner state action) := by
  cases action with
  | wait duration => exact .wait duration
  | stop worker => exact .stopped worker
  | boot worker reply delay =>
      cases phase : state.phase worker with
      | starting =>
          simp only [perform, phase]
          exact outcome_boot owner state phase reply delay
      | follower => simpa only [perform, phase] using Outcome.idle
      | renewing wakesAt => simpa only [perform, phase] using Outcome.idle
      | unrenewed => simpa only [perform, phase] using Outcome.idle
      | ended => simpa only [perform, phase] using Outcome.idle
  | renew worker reply delay =>
      cases phase : state.phase worker with
      | renewing wakesAt =>
          simp only [perform, phase]
          by_cases awake : wakesAt ≤ state.clock
          · rw [if_pos awake]
            exact outcome_renew owner state phase awake reply delay
          · rw [if_neg awake]
            exact .idle
      | starting => simpa only [perform, phase] using Outcome.idle
      | follower => simpa only [perform, phase] using Outcome.idle
      | unrenewed => simpa only [perform, phase] using Outcome.idle
      | ended => simpa only [perform, phase] using Outcome.idle

section Locks

variable {owner : τ → Text} {state next : ElectionState τ} {action : ElectionAction τ}
  {worker : τ} {phase : WorkerPhase}

/-- The lock is what Redis set last. -/
structure Stamped (state : ElectionState τ) : Prop where
  owned : ∀ lease, state.redis leaderLockKey = some lease →
    ∃ time, state.setAt lease.owner = some time ∧ lease.expiresAt = time + leaderLockTtl
  latest : ∀ worker time, state.setAt worker = some time → time ≤ state.clock ∧
    ∃ lease, state.redis leaderLockKey = some lease ∧ time + leaderLockTtl ≤ lease.expiresAt

omit [DecidableEq τ] in
theorem stamped_start (clock : Time) : Stamped (start clock : ElectionState τ) := by
  refine ⟨?_, ?_⟩
  · intro lease found
    cases found
  · intro worker time found
    cases found

theorem Stamped.setPhase (stamped : Stamped state) : Stamped (state.setPhase worker phase) :=
  ⟨stamped.owned, stamped.latest⟩

theorem Stamped.miss (stamped : Stamped state) : Stamped (state.miss worker) :=
  ⟨stamped.owned, stamped.latest⟩

theorem Stamped.lock (stamped : Stamped state) : Stamped (state.lock owner worker) := by
  refine ⟨?_, ?_⟩
  · intro lease found
    rw [lock_redis_self, Option.some.injEq] at found
    subst found
    exact ⟨state.clock, lock_setAt_self state owner, rfl⟩
  · intro other time found
    have past : time ≤ state.clock := by
      by_cases same : other = worker
      · subst same
        rw [lock_setAt_self, Option.some.injEq] at found
        exact Int.le_of_eq found.symm
      · rw [lock_setAt_of_ne state owner same] at found
        exact (stamped.latest other time found).1
    exact ⟨past, _, lock_redis_self state owner, Int.add_le_add_right past _⟩

theorem Stamped.outcome (stamped : Stamped state) (outcome : Outcome owner state action next) :
    Stamped next := by
  cases outcome with
  | wait duration =>
      refine ⟨stamped.owned, ?_⟩
      intro worker time found
      obtain ⟨past, rest⟩ := stamped.latest worker time found
      exact ⟨Int.le_trans past (Int.le_add_of_nonneg_right (Int.natCast_nonneg _)), rest⟩
  | idle => exact stamped
  | turnedAway => exact stamped.setPhase
  | acquired => exact stamped.lock.setPhase
  | missed => exact stamped.miss.setPhase
  | renewed => exact stamped.lock.setPhase
  | stopped => exact stamped.setPhase

omit [DecidableEq τ] in
/-- Somebody has the lock exactly when a `SET` was executed less than its time ago. -/
theorem Stamped.held_iff (stamped : Stamped state) :
    (∃ lease, state.redis.held state.clock leaderLockKey = some lease) ↔
      ∃ worker time, state.setAt worker = some time ∧ state.clock < time + leaderLockTtl := by
  constructor
  · rintro ⟨lease, held⟩
    obtain ⟨found, alive⟩ := Leases.held_eq_some.mp held
    obtain ⟨time, set, expires⟩ := stamped.owned lease found
    exact ⟨lease.owner, time, set, expires ▸ alive⟩
  · rintro ⟨worker, time, set, recent⟩
    obtain ⟨lease, found, later⟩ := (stamped.latest worker time set).2
    exact ⟨lease, Leases.held_eq_some.mpr ⟨found, Int.lt_of_lt_of_le recent later⟩⟩

/-- The cron jobs are registered once. -/
def OneLeader (state : ElectionState τ) : Prop :=
  ∀ first second, (state.phase first).leads → (state.phase second).leads → first = second

theorem OneLeader.setPhase (one : OneLeader state)
    (led : phase.leads → (state.phase worker).leads) : OneLeader (state.setPhase worker phase) := by
  have before : ∀ other, ((state.setPhase worker phase).phase other).leads →
      (state.phase other).leads := by
    intro other leads
    rcases state.setPhase_phase_cases worker other phase with
      ⟨rfl, changed⟩ | ⟨different, same⟩
    · rw [changed] at leads
      exact led leads
    · rw [same] at leads
      exact leads
  intro first second leads leads'
  exact one first second (before first leads) (before second leads')

/-- A worker that boots while another one leads, and gets an answer, finds a lock that was
set less than its time ago. -/
def BootsLocked (state : ElectionState τ) : ElectionAction τ → Prop
  | .boot worker .answered _ => state.phase worker = .starting →
      (∃ leader, (state.phase leader).leads) →
        ∃ setter time, state.setAt setter = some time ∧ state.clock < time + leaderLockTtl
  | _ => True

theorem OneLeader.outcome (one : OneLeader state) (stamped : Stamped state)
    (locked : BootsLocked state action) (outcome : Outcome owner state action next) :
    OneLeader next := by
  cases outcome with
  | wait duration => exact one
  | idle => exact one
  | turnedAway starting phases =>
      apply one.setPhase
      intro leads
      rcases phases with rfl | rfl
      · cases leads
      · cases leads
  | @acquired worker reply delay phase starting free phases =>
      rcases phases with ⟨_, rfl⟩ | ⟨rfl, rfl⟩
      · have locked : OneLeader (state.lock owner worker) := one
        apply locked.setPhase
        intro leads
        cases leads
      · have nobody : ∀ other, ¬ (state.phase other).leads := by
          intro other leads
          obtain ⟨lease, held⟩ := stamped.held_iff.mpr (locked starting ⟨other, leads⟩)
          rw [free] at held
          cases held
        have leader : ∀ other, (((state.lock owner worker).setPhase worker
            (.renewing (state.clock + delay + renewalPause))).phase other).leads →
            other = worker := by
          intro other leads
          rcases (state.lock owner worker).setPhase_phase_cases worker other
              (.renewing (state.clock + delay + renewalPause)) with
            ⟨same, _⟩ | ⟨_, same⟩
          · exact same
          · rw [same] at leads
            exact (nobody other leads).elim
        intro first second leads leads'
        rw [leader first leads, leader second leads']
  | @missed worker reply delay wakesAt phase sleeps awake phases =>
      have still : OneLeader (state.miss worker) := one
      apply still.setPhase
      intro _
      change (state.phase _).leads
      rw [sleeps]
      rfl
  | @renewed worker reply delay wakesAt lease sleeps =>
      have still : OneLeader (state.lock owner worker) := one
      apply still.setPhase
      intro _
      change (state.phase _).leads
      rw [sleeps]
      rfl
  | stopped worker =>
      apply one.setPhase
      intro leads
      cases leads

theorem BootsLocked.of_oneLeader (stamped : Stamped state)
    (one : OneLeader (perform owner state action)) : BootsLocked state action := by
  cases action with
  | wait duration => exact True.intro
  | renew worker reply delay => exact True.intro
  | stop worker => exact True.intro
  | boot worker reply delay =>
      cases reply with
      | refused => exact True.intro
      | lost => exact True.intro
      | answered =>
          rintro starting ⟨leader, leads⟩
          apply stamped.held_iff.mp
          simp only [perform, starting] at one
          rcases state.tryAcquireLeaderLock_cases owner worker with
            ⟨locked, _⟩ | ⟨_, outcome⟩
          · exact locked
          · rw [boot, outcome] at one
            have different : leader ≠ worker := by
              rintro rfl
              rw [starting] at leads
              cases leads
            have still := one leader worker
            rw [setPhase_phase_of_ne _ different, setPhase_phase_self] at still
            exact (different (still leads rfl)).elim

/-- In every run there is at most one leader throughout, exactly when each worker that
boots while another one leads finds the lock set less than five minutes ago. -/
theorem oneLeader_iff (owner : τ → Text) (clock : Time) (actions : List (ElectionAction τ)) :
    AllowedAlong (perform owner) BootsLocked (start clock) actions ↔
      ∀ before after, actions = before ++ after → OneLeader (run owner clock before) := by
  have implied : ∀ state : ElectionState τ, Stamped state ∧ OneLeader state → OneLeader state :=
    fun _ invariant => invariant.2
  have preserved : ∀ (state : ElectionState τ) (action : ElectionAction τ),
      Stamped state ∧ OneLeader state → BootsLocked state action →
        Stamped (perform owner state action) ∧ OneLeader (perform owner state action) := by
    rintro state action ⟨stamped, one⟩ locked
    have outcome := outcome_perform owner state action
    exact ⟨stamped.outcome outcome, one.outcome stamped locked outcome⟩
  have necessary : ∀ (state : ElectionState τ) (action : ElectionAction τ),
      Stamped state ∧ OneLeader state → OneLeader (perform owner state action) →
        BootsLocked state action :=
    fun _ _ invariant one => BootsLocked.of_oneLeader invariant.1 one
  have initial : OneLeader (start clock : ElectionState τ) := by
    intro first second leads
    cases leads
  exact AllowedAlong.iff_throughout implied preserved necessary
    ⟨stamped_start clock, initial⟩ actions

end Locks

section Renewals

variable {owner : τ → Text} {state next : ElectionState τ} {action : ElectionAction τ}
  {worker : τ} {phase : WorkerPhase}

/-- No two processes that are up have one host name and one process id. -/
def OwnersApart (owner : τ → Text) (state : ElectionState τ) : ElectionAction τ → Prop
  | .boot worker _ _ => state.phase worker = .starting →
      ∀ other, (state.phase other).up → owner other ≠ owner worker
  | _ => True

def Apart (owner : τ → Text) (state : ElectionState τ) : Prop :=
  ∀ first second, (state.phase first).up → (state.phase second).up →
    owner first = owner second → first = second

theorem Apart.setPhase (apart : Apart owner state)
    (other : phase.up → ∀ other, other ≠ worker → (state.phase other).up →
      owner other ≠ owner worker) : Apart owner (state.setPhase worker phase) := by
  intro first second up up' same
  rcases state.setPhase_phase_cases worker first phase with
    ⟨rfl, changed⟩ | ⟨different, unchanged⟩
  · rcases state.setPhase_phase_cases first second phase with
      ⟨rfl, _⟩ | ⟨different', unchanged'⟩
    · rfl
    · rw [changed] at up
      rw [unchanged'] at up'
      exact (other up second different' up' same.symm).elim
  · rw [unchanged] at up
    rcases state.setPhase_phase_cases worker second phase with
      ⟨rfl, changed'⟩ | ⟨_, unchanged'⟩
    · rw [changed'] at up'
      exact (other up' first different up same).elim
    · rw [unchanged'] at up'
      exact apart first second up up' same

/-- A leader finds its own text in the lock only where it has set it itself. -/
def Own (owner : τ → Text) (state : ElectionState τ) : Prop :=
  ∀ worker lease, (state.phase worker).leads → state.redis leaderLockKey = some lease →
    lease.value = owner worker → lease.owner = worker

theorem Own.setPhase (own : Own owner state)
    (led : phase.leads → (state.phase worker).leads) : Own owner (state.setPhase worker phase) := by
  intro other lease leads found value
  rcases state.setPhase_phase_cases worker other phase with
    ⟨rfl, changed⟩ | ⟨_, unchanged⟩
  · rw [changed] at leads
    exact own other lease (led leads) found value
  · rw [unchanged] at leads
    exact own other lease leads found value

theorem own_lock (others : ∀ other, other ≠ worker → (state.phase other).leads →
    owner other ≠ owner worker) : Own owner ((state.lock owner worker).setPhase worker phase) := by
  intro other lease leads found value
  have set : lease = ⟨owner worker, worker, state.clock + leaderLockTtl⟩ :=
    (Option.some.inj ((lock_redis_self state owner).symm.trans found)).symm
  subst set
  rcases (state.lock owner worker).setPhase_phase_cases worker other phase with
    ⟨same, _⟩ | ⟨different, unchanged⟩
  · exact same.symm
  · rw [unchanged] at leads
    exact (others other different leads value.symm).elim

/-- A leader that missed renewals sleeps until as many pauses after it set the lock. -/
def Paced (state : ElectionState τ) : Prop :=
  ∀ worker wakesAt, state.phase worker = .renewing wakesAt →
    ∃ time, state.setAt worker = some time ∧
      time + renewalPause * (state.missed worker + 1) ≤ wakesAt

theorem Paced.setPhase (paced : Paced state) (awake : ∀ wakesAt, phase ≠ .renewing wakesAt) :
    Paced (state.setPhase worker phase) := by
  intro other wakesAt renewing
  rcases state.setPhase_phase_cases worker other phase with
    ⟨rfl, changed⟩ | ⟨_, unchanged⟩
  · exact (awake wakesAt (changed.symm.trans renewing)).elim
  · exact paced other wakesAt (unchanged.symm.trans renewing)

theorem Paced.lock (paced : Paced state)
    (sleeps : ∀ wakesAt, phase = .renewing wakesAt → state.clock + renewalPause ≤ wakesAt) :
    Paced ((state.lock owner worker).setPhase worker phase) := by
  intro other wakesAt renewing
  rcases (state.lock owner worker).setPhase_phase_cases worker other phase with
    ⟨rfl, changed⟩ | ⟨different, unchanged⟩
  · refine ⟨state.clock, lock_setAt_self state owner, ?_⟩
    have later := sleeps wakesAt (changed.symm.trans renewing)
    have none : ((state.lock owner other).setPhase other phase).missed other = 0 :=
      Function.update_self ..
    rw [none, Int.natCast_zero, Int.zero_add, Int.mul_one]
    exact later
  · obtain ⟨time, set, later⟩ := paced other wakesAt (unchanged.symm.trans renewing)
    have same : ((state.lock owner worker).setPhase worker phase).missed other =
        state.missed other :=
      Function.update_of_ne different ..
    exact ⟨time, (lock_setAt_of_ne state owner different).trans set, by rw [same]; exact later⟩

theorem Paced.miss (paced : Paced state) {wakesAt : Time}
    (sleeps : state.phase worker = .renewing wakesAt)
    (later : ∀ next, phase = .renewing next → wakesAt + renewalPause ≤ next) :
    Paced ((state.miss worker).setPhase worker phase) := by
  intro other next renewing
  rcases (state.miss worker).setPhase_phase_cases worker other phase with
    ⟨rfl, changed⟩ | ⟨different, unchanged⟩
  · obtain ⟨time, set, before⟩ := paced other wakesAt sleeps
    have after := later next (changed.symm.trans renewing)
    have one : ((state.miss other).setPhase other phase).missed other =
        state.missed other + 1 :=
      Function.update_self ..
    refine ⟨time, set, ?_⟩
    rw [one, Int.natCast_succ, Int.mul_add renewalPause _ 1, Int.mul_one, ← Int.add_assoc]
    exact Int.le_trans (Int.add_le_add_right before _) after
  · obtain ⟨time, set, before⟩ := paced other next (unchanged.symm.trans renewing)
    have same : ((state.miss worker).setPhase worker phase).missed other = state.missed other :=
      Function.update_of_ne different ..
    exact ⟨time, set, by rw [same]; exact before⟩

structure Sound (owner : τ → Text) (state : ElectionState τ) : Prop where
  stamped : Stamped state
  apart : Apart owner state
  own : Own owner state
  paced : Paced state

theorem pause_le (clock : Time) (delay : Nat) :
    clock + renewalPause ≤ clock + delay + renewalPause :=
  Int.add_le_add_right (Int.le_add_of_nonneg_right (Int.natCast_nonneg _)) _

omit [DecidableEq τ] in
theorem sound_start (owner : τ → Text) (clock : Time) : Sound owner (start clock) := by
  refine ⟨stamped_start clock, ?_, ?_, ?_⟩
  · intro first second up
    cases up
  · intro worker lease leads
    cases leads
  · intro worker wakesAt renewing
    cases renewing

theorem Sound.outcome (sound : Sound owner state) (apart : OwnersApart owner state action)
    (outcome : Outcome owner state action next) : Sound owner next := by
  refine ⟨sound.stamped.outcome outcome, ?_, ?_, ?_⟩
  · cases outcome with
    | wait duration => exact sound.apart
    | idle => exact sound.apart
    | turnedAway starting phases =>
        apply sound.apart.setPhase
        intro _ other _ up
        exact apart starting other up
    | @acquired worker reply delay phase starting free phases =>
        have still : Apart owner (state.lock owner worker) := sound.apart
        apply still.setPhase
        intro _ other _ up
        exact apart starting other up
    | @missed worker reply delay wakesAt phase sleeps awake phases =>
        have still : Apart owner (state.miss worker) := sound.apart
        apply still.setPhase
        intro _ other different up same
        apply different
        exact sound.apart other worker up (by rw [sleeps]; rfl) same
    | @renewed worker reply delay wakesAt lease sleeps =>
        have still : Apart owner (state.lock owner worker) := sound.apart
        apply still.setPhase
        intro _ other different up same
        apply different
        exact sound.apart other worker up (by rw [sleeps]; rfl) same
    | stopped worker =>
        apply sound.apart.setPhase
        intro up
        cases up
  · cases outcome with
    | wait duration => exact sound.own
    | idle => exact sound.own
    | turnedAway starting phases =>
        apply sound.own.setPhase
        intro leads
        rcases phases with rfl | rfl
        · cases leads
        · cases leads
    | acquired starting free phases =>
        apply own_lock
        intro other _ leads
        exact apart starting other (WorkerPhase.up_of_leads leads)
    | @missed worker reply delay wakesAt phase sleeps awake phases =>
        have still : Own owner (state.miss worker) := sound.own
        apply still.setPhase
        intro _
        change (state.phase _).leads
        rw [sleeps]
        rfl
    | @renewed worker reply delay wakesAt lease sleeps =>
        apply own_lock
        intro other different leads same
        apply different
        exact sound.apart other worker (WorkerPhase.up_of_leads leads) (by rw [sleeps]; rfl) same
    | stopped worker =>
        apply sound.own.setPhase
        intro leads
        cases leads
  · cases outcome with
    | wait duration => exact sound.paced
    | idle => exact sound.paced
    | turnedAway starting phases =>
        apply sound.paced.setPhase
        intro wakesAt
        rcases phases with rfl | rfl
        · exact nofun
        · exact nofun
    | acquired starting free phases =>
        apply sound.paced.lock
        intro wakesAt renewing
        rcases phases with ⟨_, rfl⟩ | ⟨_, rfl⟩
        · cases renewing
        · cases renewing
          exact pause_le state.clock _
    | missed sleeps awake phases =>
        apply sound.paced.miss sleeps
        intro later renewing
        rcases phases with rfl | rfl
        · cases renewing
        · cases renewing
          exact Int.le_trans (Int.add_le_add_right awake _) (pause_le state.clock _)
    | renewed sleeps =>
        apply sound.paced.lock
        intro wakesAt renewing
        cases renewing
        exact pause_le state.clock _
    | stopped worker =>
        apply sound.paced.setPhase
        intro wakesAt
        exact nofun

/-- Two renewals in a row were missed, or none is to come. -/
def Spent (state : ElectionState τ) (worker : τ) : Prop :=
  match state.phase worker with
  | .starting => False
  | .renewing _ => 2 ≤ state.missed worker
  | _ => True

omit [DecidableEq τ] in
theorem spent_of_unchanged {worker : τ} (phases : next.phase worker = state.phase worker)
    (missed : next.missed worker = state.missed worker) (spent : Spent state worker) :
    Spent next worker := by
  unfold Spent at spent ⊢
  rw [phases, missed]
  exact spent

omit [DecidableEq τ] in
/-- Three pauses are the time of the lock. -/
theorem Sound.lost_of_missed (sound : Sound owner state) {wakesAt : Time}
    (sleeps : state.phase worker = .renewing wakesAt) (awake : wakesAt ≤ state.clock)
    (missed : 2 ≤ state.missed worker) {lease : Lease Text τ}
    (held : state.redis.held state.clock leaderLockKey = some lease) :
    lease.value ≠ owner worker := by
  intro value
  obtain ⟨found, alive⟩ := Leases.held_eq_some.mp held
  have own := sound.own worker lease (by rw [sleeps]; rfl) found value
  obtain ⟨time, set, expires⟩ := sound.stamped.owned lease found
  obtain ⟨time', set', later⟩ := sound.paced worker wakesAt sleeps
  rw [own, set', Option.some.injEq] at set
  subst set
  have pauses : leaderLockTtl ≤ renewalPause * (state.missed worker + 1) := by
    have three : (3 : Int) ≤ state.missed worker + 1 := by omega
    have third : leaderLockTtl = renewalPause * 3 := by simp [leaderLockTtl, renewalPause]
    rw [third]
    exact Int.mul_le_mul_of_nonneg_left three (by simp [renewalPause])
  have ended : time' + leaderLockTtl ≤ state.clock :=
    Int.le_trans (Int.add_le_add_left pauses time') (Int.le_trans later awake)
  rw [expires] at alive
  exact absurd alive (Int.not_lt.mpr ended)

theorem Spent.outcome {worker : τ} (spent : Spent state worker) (sound : Sound owner state)
    (outcome : Outcome owner state action next) :
    Spent next worker ∧ next.setAt worker = state.setAt worker ∧
      ((state.phase worker).leads → action ≠ .stop worker → (next.phase worker).leads) := by
  have booted : state.phase worker ≠ .starting := by
    intro starting
    simp [Spent, starting] at spent
  cases outcome with
  | wait duration => exact ⟨spent, rfl, fun leads _ => leads⟩
  | idle => exact ⟨spent, rfl, fun leads _ => leads⟩
  | @turnedAway other reply delay phase starting =>
      have different : worker ≠ other := by
        rintro rfl
        exact booted starting
      have same : (state.setPhase other phase).phase worker = state.phase worker :=
        setPhase_phase_of_ne state different
      exact ⟨spent_of_unchanged same rfl spent, rfl, fun leads _ => by rw [same]; exact leads⟩
  | @acquired other reply delay phase starting =>
      have different : worker ≠ other := by
        rintro rfl
        exact booted starting
      have same : ((state.lock owner other).setPhase other phase).phase worker =
          state.phase worker :=
        setPhase_phase_of_ne (state.lock owner other) different
      refine ⟨spent_of_unchanged same (Function.update_of_ne different ..) spent,
        lock_setAt_of_ne state owner different, ?_⟩
      intro leads _
      rw [same]
      exact leads
  | @missed other reply delay wakesAt phase sleeps awake phases =>
      by_cases same : worker = other
      · subst same
        have twice : 2 ≤ state.missed worker := by simpa [Spent, sleeps] using spent
        have now : ((state.miss worker).setPhase worker phase).phase worker = phase :=
          setPhase_phase_self (state.miss worker)
        have more : ((state.miss worker).setPhase worker phase).missed worker =
            state.missed worker + 1 :=
          Function.update_self ..
        rcases phases with rfl | rfl
        · exact ⟨by simp [Spent], rfl, fun _ _ => by rw [now]; rfl⟩
        · refine ⟨?_, rfl, fun _ _ => by rw [now]; rfl⟩
          simp only [Spent, now, more]
          omega
      · have unchanged : ((state.miss other).setPhase other phase).phase worker =
            state.phase worker :=
          setPhase_phase_of_ne (state.miss other) same
        refine ⟨spent_of_unchanged unchanged (Function.update_of_ne same ..) spent, rfl, ?_⟩
        intro leads _
        rw [unchanged]
        exact leads
  | @renewed other reply delay wakesAt lease sleeps awake held own =>
      have different : worker ≠ other := by
        rintro rfl
        have twice : 2 ≤ state.missed worker := by simpa [Spent, sleeps] using spent
        exact sound.lost_of_missed sleeps awake twice held own
      have same : ((state.lock owner other).setPhase other
          (.renewing (state.clock + delay + renewalPause))).phase worker = state.phase worker :=
        setPhase_phase_of_ne (state.lock owner other) different
      refine ⟨spent_of_unchanged same (Function.update_of_ne different ..) spent,
        lock_setAt_of_ne state owner different, ?_⟩
      intro leads _
      rw [same]
      exact leads
  | stopped other =>
      by_cases same : worker = other
      · subst same
        exact ⟨by simp [Spent], rfl, fun _ runs => (runs rfl).elim⟩
      · have unchanged : (state.setPhase other .ended).phase worker = state.phase worker :=
          setPhase_phase_of_ne state same
        refine ⟨spent_of_unchanged unchanged rfl spent, rfl, ?_⟩
        intro leads _
        rw [unchanged]
        exact leads

theorem sound_run {clock : Time} {actions : List (ElectionAction τ)}
    (apart : AllowedAlong (perform owner) (OwnersApart owner) (start clock) actions) :
    Sound owner (run owner clock actions) := by
  apply (GuardedRun.of_allowedAlong apart).invariant (Sound owner) (sound_start owner clock)
  intro state action sound allowed
  exact sound.outcome allowed (outcome_perform owner state action)

theorem spent_foldl {actions : List (ElectionAction τ)} (sound : Sound owner state)
    (spent : Spent state worker)
    (apart : AllowedAlong (perform owner) (OwnersApart owner) state actions) :
    (actions.foldl (perform owner) state).setAt worker = state.setAt worker ∧
      ((state.phase worker).leads → (∀ action ∈ actions, action ≠ .stop worker) →
        ((actions.foldl (perform owner) state).phase worker).leads) := by
  induction actions generalizing state with
  | nil => exact ⟨rfl, fun leads _ => leads⟩
  | cons action actions induction =>
      have outcome := outcome_perform owner state action
      obtain ⟨still, set, leads⟩ := spent.outcome sound outcome
      obtain ⟨sets, led⟩ := induction (sound.outcome apart.1 outcome) still apart.2
      refine ⟨sets.trans set, ?_⟩
      intro before runs
      apply led (leads before (runs action List.mem_cons_self))
      intro later member
      exact runs later (List.mem_cons_of_mem _ member)

/-- A leader two of whose renewals in a row were not executed never renews the lock again,
and keeps its cron jobs until it stops. -/
theorem never_renewed_again (owner : τ → Text) (clock : Time)
    (before after : List (ElectionAction τ)) (worker : τ)
    (apart : AllowedAlong (perform owner) (OwnersApart owner) (start clock) (before ++ after))
    (leads : ((run owner clock before).phase worker).leads)
    (missed : 2 ≤ (run owner clock before).missed worker) :
    (run owner clock (before ++ after)).setAt worker = (run owner clock before).setAt worker ∧
      ((∀ action ∈ after, action ≠ .stop worker) →
        ((run owner clock (before ++ after)).phase worker).leads) := by
  obtain ⟨first, second⟩ := AllowedAlong.append_iff.mp apart
  have spent : Spent (run owner clock before) worker := by
    unfold Spent
    split
    · rename_i starting
      rw [starting] at leads
      cases leads
    · exact missed
    · exact True.intro
  obtain ⟨set, led⟩ := spent_foldl (sound_run first) spent second
  rw [run, List.foldl_append]
  exact ⟨set, led leads⟩

/-- The host names and process ids of two workers. -/
def owners : Bool → Text
  | true => "worker-1:7".toList
  | false => "worker-2:7".toList

instance (state : ElectionState Bool) (action : ElectionAction Bool) :
    Decidable (OwnersApart owners state action) :=
  match action with
  | .boot worker _ _ =>
      inferInstanceAs (Decidable (state.phase worker = .starting →
        ∀ other, (state.phase other).up → owners other ≠ owners worker))
  | .wait _ => .isTrue True.intro
  | .renew _ _ _ => .isTrue True.intro
  | .stop _ => .isTrue True.intro

/-- Redis is away for two renewals. -/
def refusedTwice : List (ElectionAction Bool) :=
  [.boot true .answered 0, .wait 100000000, .renew true .refused 0, .wait 100000000,
    .renew true .refused 0]

/-- The other worker boots before the third. -/
def bootedBetween : List (ElectionAction Bool) :=
  [.wait 100000000, .boot false .answered 0, .renew true .answered 0]

theorem never_renewed_again_bootedBetween :
    (run owners 0 (refusedTwice ++ bootedBetween)).setAt true =
        (run owners 0 refusedTwice).setAt true ∧
      ((∀ action ∈ bootedBetween, action ≠ .stop true) →
        ((run owners 0 (refusedTwice ++ bootedBetween)).phase true).leads) :=
  never_renewed_again owners 0 refusedTwice bootedBetween true (by decide) (by decide) (by decide)

end Renewals

section Stalls

variable {owner : τ → Text} {state next : ElectionState τ} {action : ElectionAction τ}
  {lease : Lease Text τ}

def BootsBefore (expiresAt : Time) (state : ElectionState τ) : ElectionAction τ → Prop
  | .boot _ _ _ => state.clock < expiresAt
  | _ => True

/-- The lock is there, and nobody runs cron jobs. -/
structure Stalled (lease : Lease Text τ) (state : ElectionState τ) : Prop where
  leaderless : ∀ worker, ¬ (state.phase worker).leads
  locked : state.redis leaderLockKey = some lease

theorem Stalled.setPhase (stalled : Stalled lease state) {worker : τ} {phase : WorkerPhase}
    (follows : ¬ phase.leads) : Stalled lease (state.setPhase worker phase) := by
  refine ⟨?_, stalled.locked⟩
  intro other
  rcases state.setPhase_phase_cases worker other phase with ⟨_, changed⟩ | ⟨_, unchanged⟩
  · rw [changed]
    exact follows
  · rw [unchanged]
    exact stalled.leaderless other

theorem Stalled.outcome (stalled : Stalled lease state)
    (early : BootsBefore lease.expiresAt state action)
    (outcome : Outcome owner state action next) : Stalled lease next := by
  cases outcome with
  | wait duration => exact ⟨stalled.leaderless, stalled.locked⟩
  | idle => exact stalled
  | turnedAway starting phases =>
      apply stalled.setPhase
      rcases phases with rfl | rfl
      · exact nofun
      · exact nofun
  | acquired starting free =>
      rw [Leases.held_eq_some.mpr ⟨stalled.locked, early⟩] at free
      cases free
  | @missed worker reply delay wakesAt phase sleeps =>
      exact (stalled.leaderless worker (by rw [sleeps]; rfl)).elim
  | @renewed worker reply delay wakesAt lease sleeps =>
      exact (stalled.leaderless worker (by rw [sleeps]; rfl)).elim
  | stopped worker => exact stalled.setPhase nofun

/-- Whoever boots is elected where the lock has come to its end. -/
theorem Stalled.elected_iff (stalled : Stalled lease state) {worker : τ}
    (starting : state.phase worker = .starting) (delay : Nat) :
    ((perform owner state (.boot worker .answered delay)).phase worker).leads ↔
      lease.expiresAt ≤ state.clock := by
  simp only [perform, starting]
  rcases state.tryAcquireLeaderLock_cases owner worker with
    ⟨⟨other, held⟩, outcome⟩ | ⟨free, outcome⟩
  · have same := (Leases.held_eq_some.mp held).1
    rw [stalled.locked, Option.some.injEq] at same
    subst same
    have alive := (Leases.held_eq_some.mp held).2
    rw [boot, outcome, setPhase_phase_self]
    exact iff_of_false nofun (Int.not_le.mpr alive)
  · rw [boot, outcome, setPhase_phase_self]
    apply iff_of_true rfl
    apply Int.not_lt.mp
    intro alive
    rw [Leases.held_eq_some.mpr ⟨stalled.locked, alive⟩] at free
    cases free

/-- Once all leaders have stopped, no worker that boots before the end of the lock ever runs
cron jobs, and the next one that boots does so exactly when the lock has come to its end. -/
theorem leaderless_until (owner : τ → Text) (clock : Time)
    (before after : List (ElectionAction τ)) (lease : Lease Text τ)
    (stopped : ∀ worker, ¬ ((run owner clock before).phase worker).leads)
    (locked : (run owner clock before).redis leaderLockKey = some lease)
    (early : AllowedAlong (perform owner) (BootsBefore lease.expiresAt)
      (run owner clock before) after) :
    (∀ worker, ¬ ((run owner clock (before ++ after)).phase worker).leads) ∧
      ∀ worker delay, (run owner clock (before ++ after)).phase worker = .starting →
        (((run owner clock (before ++ after ++ [.boot worker .answered delay])).phase
            worker).leads ↔
          lease.expiresAt ≤ (run owner clock (before ++ after)).clock) := by
  have stalled : Stalled lease (run owner clock (before ++ after)) := by
    rw [run, List.foldl_append]
    apply (GuardedRun.of_allowedAlong early).invariant (Stalled lease) ⟨stopped, locked⟩
    intro state action stalled allowed
    exact stalled.outcome allowed (outcome_perform owner state action)
  refine ⟨stalled.leaderless, ?_⟩
  intro worker delay starting
  have last : run owner clock (before ++ after ++ [.boot worker .answered delay]) =
      perform owner (run owner clock (before ++ after)) (.boot worker .answered delay) := by
    rw [run, List.foldl_append]
    rfl
  rw [last]
  exact stalled.elected_iff starting delay

instance (expiresAt : Time) (state : ElectionState Bool) (action : ElectionAction Bool) :
    Decidable (BootsBefore expiresAt state action) :=
  match action with
  | .boot _ _ _ => inferInstanceAs (Decidable (state.clock < expiresAt))
  | .wait _ => .isTrue True.intro
  | .renew _ _ _ => .isTrue True.intro
  | .stop _ => .isTrue True.intro

/-- The leader stops, and the other worker boots within five minutes. -/
theorem leaderless_until_rollout :
    (∀ worker, ¬ ((run owners 0 ([.boot true .answered 0, .stop true] ++
        [.wait 299000000, .boot false .answered 0])).phase worker).leads) ∧
      ∀ worker delay, (run owners 0 ([.boot true .answered 0, .stop true] ++
          [.wait 299000000, .boot false .answered 0])).phase worker = .starting →
        (((run owners 0 ([.boot true .answered 0, .stop true] ++
            [.wait 299000000, .boot false .answered 0] ++
              [.boot worker .answered delay])).phase worker).leads ↔
          300000000 ≤ (run owners 0 ([.boot true .answered 0, .stop true] ++
            [.wait 299000000, .boot false .answered 0])).clock) :=
  leaderless_until owners 0 [.boot true .answered 0, .stop true]
    [.wait 299000000, .boot false .answered 0] ⟨owners true, true, 300000000⟩
    (by decide) (by rfl) (by decide)

end Stalls

end ElectionState

end OpenZync.Workers
