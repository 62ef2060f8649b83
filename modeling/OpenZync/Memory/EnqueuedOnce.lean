import OpenZync.Library.Execution
import OpenZync.Memory.EpisodeFanOut

/-!
# Each task of an episode is enqueued once

The claim of a pair decides which call enqueues it.  A call that fails gives
its claim back, as long as its failure is an exception of the queue and the
script that compares and deletes is executed.
-/

namespace OpenZync.Memory

open OpenZync.Library

variable {τ : Type} [DecidableEq τ] {calls : τ → EpisodeCall} {state : FanOut τ} {call : τ}
  {task : EpisodeTask} {rest : List EpisodeTask}

/-- The claim of a pair that is in force. -/
def FanOut.claimOf (state : FanOut τ) (task : EpisodeTask) (episodeId : Text) :
    Option (Lease Text τ) :=
  state.claims.held state.now (dedupKey task episodeId)

/-- The jobs of a pair that were enqueued since its key was last claimed. -/
def FanOut.sinceClaim (state : FanOut τ) (task : EpisodeTask) (episodeId : Text) :
    List EnqueuedJob :=
  (state.jobs.drop (state.since (dedupKey task episodeId))).filter fun job =>
    job.task = task ∧ job.episodeId = episodeId

/-- No pair is enqueued twice in the lifetime of a claim, no call that has failed
holds the claim of its task, and none has deleted the claim of another. -/
structure EnqueuedOnce (calls : τ → EpisodeCall) (state : FanOut τ) : Prop where
  atMostOnce : ∀ task episodeId, ∀ lease ∈ state.claimOf task episodeId,
    (state.sinceClaim task episodeId).length ≤ 1
  released : ∀ failure ∈ state.failed,
    ∀ lease ∈ state.claimOf failure.2 (calls failure.1).episodeId, lease.owner ≠ failure.1
  notStolen : ∀ deletion ∈ state.deletions, deletion.1 = deletion.2

/-- No two calls for an episode have one job. -/
def DistinctJobs (calls : τ → EpisodeCall) : Prop :=
  ∀ call call', (calls call).episodeId = (calls call').episodeId →
    (calls call).jobId = (calls call').jobId → call = call'

/-- A step that the handler covers: Redis answers whenever it has claimed, the
script is executed, an enqueue raises or succeeds, and no other call has claimed
the pair when it succeeds. -/
def Covered (calls : τ → EpisodeCall) (state : FanOut τ) : FanOutAction τ → Prop
  | .wait _ => True
  | .claim _ reply => reply ≠ .lost
  | .enqueue _ .declined | .enqueue _ .cancelled => False
  | .enqueue _ .raised => True
  | .enqueue call .accepted =>
      match state.phase call with
      | .enqueuing task _ =>
          ∀ lease ∈ state.claimOf task (calls call).episodeId, lease.owner = call
      | _ => True
  | .release _ reply => reply ≠ .refused

omit [DecidableEq τ] in
theorem FanOut.compareAndDelete_phase (call : τ) (task : EpisodeTask) :
    (state.compareAndDelete calls call task).phase = state.phase := by
  unfold FanOut.compareAndDelete
  split
  · split <;> rfl
  · rfl

/-- What every covered step preserves. -/
structure FannedOut (calls : τ → EpisodeCall) (state : FanOut τ) : Prop
    extends EnqueuedOnce calls state where
  past : ∀ key, state.since key ≤ state.jobs.length
  /-- A claim is that of a call under its own job. -/
  owned : ∀ key lease, state.claims key = some lease →
    lease.value = (calls lease.owner).jobId ∧
      ∃ task, key = dedupKey task (calls lease.owner).episodeId
  /-- Nothing is enqueued yet where the owner is about to. -/
  pending : ∀ task episodeId rest, ∀ lease ∈ state.claimOf task episodeId,
    state.phase lease.owner = .enqueuing task rest → state.sinceClaim task episodeId = []
  ended : ∀ failure ∈ state.failed, state.phase failure.1 = .raised

omit [DecidableEq τ] in
theorem FannedOut.start (now : Int) : FannedOut calls (FanOut.start now) :=
  { atMostOnce := by simp [FanOut.start, FanOut.claimOf, Leases.held]
    released := by simp [FanOut.start]
    notStolen := by simp [FanOut.start]
    past := by simp [FanOut.start]
    owned := by simp [FanOut.start]
    pending := by simp [FanOut.start, FanOut.claimOf, Leases.held]
    ended := by simp [FanOut.start] }

namespace FannedOut

omit [DecidableEq τ] in
theorem wait (fanned : FannedOut calls state) (elapsed : Nat) :
    FannedOut calls { state with now := state.now + elapsed } := by
  have before (task : EpisodeTask) (episodeId : Text) (lease : Lease Text τ)
      (found : state.claims.held (state.now + elapsed) (dedupKey task episodeId) = some lease) :
      lease ∈ state.claimOf task episodeId :=
    Leases.held_of_later (Int.le_add_of_nonneg_right (Int.natCast_nonneg elapsed)) found
  refine { fanned with atMostOnce := ?_, released := ?_, pending := ?_ }
  · intro task episodeId lease found
    exact fanned.atMostOnce task episodeId lease (before task episodeId lease found)
  · intro failure member lease found
    exact fanned.released failure member lease (before _ _ lease found)
  · intro task episodeId rest lease found
    exact fanned.pending task episodeId rest lease (before task episodeId lease found)

theorem setPhase (fanned : FannedOut calls state) (active : state.phase call ≠ .raised)
    {phase : FanOutPhase} (idle : ∀ task rest, phase ≠ .enqueuing task rest) :
    FannedOut calls (state.setPhase call phase) := by
  refine { fanned with pending := ?_, ended := ?_ }
  · intro task episodeId rest lease found enqueuing
    rw [FanOut.setPhase] at enqueuing
    by_cases same : lease.owner = call
    · simp only [same, Function.update_self] at enqueuing
      exact absurd enqueuing (idle task rest)
    · simp only [Function.update_of_ne same] at enqueuing
      exact fanned.pending task episodeId rest lease found enqueuing
  · intro failure member
    have raised := fanned.ended failure member
    have other : failure.1 ≠ call := by
      rintro rfl
      exact active raised
    rw [FanOut.setPhase]
    simp only [Function.update_of_ne other]
    exact raised

theorem setClaim (fanned : FannedOut calls state) (active : state.phase call ≠ .raised)
    (task : EpisodeTask) (rest : List EpisodeTask) :
    FannedOut calls ((state.setClaim calls call task).setPhase call (.enqueuing task rest)) := by
  have nothing (task' : EpisodeTask) (episodeId : Text)
      (same : dedupKey task' episodeId = dedupKey task (calls call).episodeId) :
      (state.setClaim calls call task).sinceClaim task' episodeId = [] := by
    simp [FanOut.sinceClaim, FanOut.setClaim, same]
  have unchanged (task' : EpisodeTask) (episodeId : Text)
      (different : dedupKey task' episodeId ≠ dedupKey task (calls call).episodeId) :
      (state.setClaim calls call task).sinceClaim task' episodeId =
        state.sinceClaim task' episodeId := by
    simp [FanOut.sinceClaim, FanOut.setClaim, Function.update_of_ne different]
  refine
    { atMostOnce := ?_, released := ?_, notStolen := fanned.notStolen, past := ?_, owned := ?_
      pending := ?_, ended := ?_ }
  · intro task' episodeId lease found
    change ((state.setClaim calls call task).sinceClaim task' episodeId).length ≤ 1
    rcases Leases.of_held_set found with ⟨same, _⟩ | ⟨different, held⟩
    · rw [nothing task' episodeId same]
      exact Nat.zero_le 1
    · rw [unchanged task' episodeId different]
      exact fanned.atMostOnce task' episodeId lease held
  · intro failure member lease found
    have other : failure.1 ≠ call := by
      rintro rfl
      exact active (fanned.ended failure member)
    rcases Leases.of_held_set found with ⟨_, rfl⟩ | ⟨_, held⟩
    · exact other.symm
    · exact fanned.released failure member lease held
  · intro key
    simp only [FanOut.setPhase, FanOut.setClaim]
    by_cases same : key = dedupKey task (calls call).episodeId
    · rw [same, Function.update_self]
    · rw [Function.update_of_ne same]
      exact fanned.past key
  · intro key lease
    simp only [FanOut.setPhase, FanOut.setClaim, Leases.set]
    by_cases same : key = dedupKey task (calls call).episodeId
    · rw [same, Function.update_self, Option.some.injEq]
      rintro rfl
      exact ⟨rfl, task, rfl⟩
    · rw [Function.update_of_ne same]
      exact fanned.owned key lease
  · intro task' episodeId rest' lease found enqueuing
    change (state.setClaim calls call task).sinceClaim task' episodeId = []
    rcases Leases.of_held_set found with ⟨same, _⟩ | ⟨different, held⟩
    · exact nothing task' episodeId same
    · rw [unchanged task' episodeId different]
      simp only [FanOut.setPhase] at enqueuing
      by_cases own : lease.owner = call
      · rw [own, Function.update_self, FanOutPhase.enqueuing.injEq] at enqueuing
        obtain ⟨rfl, rfl⟩ := enqueuing
        obtain ⟨_, other, sameKey⟩ :=
          fanned.owned _ lease (Leases.held_eq_some.mp held).1
        rw [own] at sameKey
        obtain ⟨rfl, rfl⟩ := dedupKey_inj sameKey
        exact absurd rfl different
      · rw [Function.update_of_ne own] at enqueuing
        exact fanned.pending task' episodeId rest' lease held enqueuing
  · intro failure member
    have raised := fanned.ended failure member
    have other : failure.1 ≠ call := by
      rintro rfl
      exact active raised
    simp only [FanOut.setPhase, Function.update_of_ne other]
    exact raised

theorem accept (fanned : FannedOut calls state)
    (enqueuing : state.phase call = .enqueuing task rest)
    (covered : ∀ lease ∈ state.claimOf task (calls call).episodeId, lease.owner = call) :
    FannedOut calls (state.enqueue calls call task rest .accepted) := by
  have grown (task' : EpisodeTask) (episodeId : Text) :
      (state.enqueue calls call task rest .accepted).sinceClaim task' episodeId =
        state.sinceClaim task' episodeId ++
          [(calls call).job task].filter fun job =>
            job.task = task' ∧ job.episodeId = episodeId := by
    simp only [FanOut.sinceClaim, FanOut.enqueue, FanOut.setPhase]
    rw [List.drop_append_of_le_length (fanned.past _), List.filter_append]
  have unchanged (task' : EpisodeTask) (episodeId : Text)
      (different : ¬ (task = task' ∧ (calls call).episodeId = episodeId)) :
      (state.enqueue calls call task rest .accepted).sinceClaim task' episodeId =
        state.sinceClaim task' episodeId := by
    rw [grown, List.filter_cons_of_neg, List.filter_nil, List.append_nil]
    intro matched
    exact different (of_decide_eq_true matched)
  refine { fanned with atMostOnce := ?_, past := ?_, pending := ?_, ended := ?_ }
  · intro task' episodeId lease found
    by_cases same : task = task' ∧ (calls call).episodeId = episodeId
    · obtain ⟨rfl, rfl⟩ := same
      have nothing : state.sinceClaim task (calls call).episodeId = [] := by
        apply fanned.pending task _ rest lease found
        rw [covered lease found, enqueuing]
      rw [grown, nothing, List.nil_append]
      exact List.length_filter_le _ _
    · rw [unchanged task' episodeId same]
      exact fanned.atMostOnce task' episodeId lease found
  · intro key
    have before := fanned.past key
    simp only [FanOut.enqueue, FanOut.setPhase, List.length_append]
    omega
  · intro task' episodeId rest' lease found enqueuing'
    simp only [FanOut.enqueue, FanOut.setPhase] at enqueuing'
    by_cases same : lease.owner = call
    · rw [same, Function.update_self] at enqueuing'
      cases enqueuing'
    · rw [Function.update_of_ne same] at enqueuing'
      have different : ¬ (task = task' ∧ (calls call).episodeId = episodeId) := by
        rintro ⟨rfl, rfl⟩
        exact same (covered lease found)
      rw [unchanged task' episodeId different]
      exact fanned.pending task' episodeId rest' lease found enqueuing'
  · intro failure member
    have raised := fanned.ended failure member
    have other : failure.1 ≠ call := by
      rintro rfl
      rw [enqueuing] at raised
      cases raised
    simp only [FanOut.enqueue, FanOut.setPhase, Function.update_of_ne other]
    exact raised

omit [DecidableEq τ] in
/-- The script deletes a claim of the call, or none. -/
theorem compareAndDelete (fanned : FannedOut calls state) (distinct : DistinctJobs calls)
    (call : τ) (task : EpisodeTask) :
    FannedOut calls (state.compareAndDelete calls call task) := by
  unfold FanOut.compareAndDelete
  split
  · rename_i lease held
    split
    · rename_i sameJob
      have own : call = lease.owner := by
        obtain ⟨value, other, sameKey⟩ := fanned.owned _ lease (Leases.held_eq_some.mp held).1
        exact distinct call lease.owner (dedupKey_inj sameKey).2 (sameJob.symm.trans value)
      refine
        { fanned with
          atMostOnce := ?_, released := ?_, notStolen := ?_, owned := ?_, pending := ?_ }
      · intro task' episodeId lease' found
        exact fanned.atMostOnce task' episodeId lease' (Leases.of_held_delete found).2
      · intro failure member lease' found
        exact fanned.released failure member lease' (Leases.of_held_delete found).2
      · intro deletion member
        rcases List.mem_append.mp member with before | new
        · exact fanned.notStolen deletion before
        · obtain rfl := List.mem_singleton.mp new
          exact own
      · intro key lease' found
        have different : key ≠ dedupKey task (calls call).episodeId := by
          rintro rfl
          simp [Leases.delete] at found
        simp only [Leases.delete, Function.update_of_ne different] at found
        exact fanned.owned key lease' found
      · intro task' episodeId rest lease' found enqueuing
        exact fanned.pending task' episodeId rest lease' (Leases.of_held_delete found).2 enqueuing
    · exact fanned
  · exact fanned

theorem fail (fanned : FannedOut calls state) (active : state.phase call ≠ .raised)
    (notHeld : ∀ lease ∈ state.claimOf task (calls call).episodeId, lease.owner ≠ call) :
    FannedOut calls ((state.fail call task).setPhase call .raised) := by
  have onward : FannedOut calls (state.setPhase call .raised) :=
    fanned.setPhase active (by simp)
  refine { onward with released := ?_, ended := ?_ }
  · intro failure member lease found
    rcases List.mem_append.mp member with before | new
    · exact fanned.released failure before lease found
    · obtain rfl := List.mem_singleton.mp new
      exact notHeld lease found
  · intro failure member
    rcases List.mem_append.mp member with before | new
    · exact onward.ended failure before
    · obtain rfl := List.mem_singleton.mp new
      simp [FanOut.setPhase]

omit [DecidableEq τ] in
/-- After the script the call does not hold the claim. -/
theorem not_held_compareAndDelete (fanned : FannedOut calls state) (call : τ)
    (task : EpisodeTask) :
    ∀ lease ∈ (state.compareAndDelete calls call task).claimOf task (calls call).episodeId,
      lease.owner ≠ call := by
  unfold FanOut.compareAndDelete
  split
  · rename_i lease held
    split
    · intro lease' found
      exact absurd rfl (Leases.of_held_delete found).1
    · rename_i otherJob
      intro lease' found own
      have same : lease' = lease := Option.some.inj (found.symm.trans held)
      subst same
      have value := (fanned.owned _ lease' (Leases.held_eq_some.mp held).1).1
      rw [own] at value
      exact otherJob value
  · rename_i free
    intro lease found
    have none := found.symm.trans free
    cases none

/-- A call gives its claim back. -/
theorem release (fanned : FannedOut calls state) (distinct : DistinctJobs calls)
    (releasing : state.phase call = .releasing task) {reply : CommandReply}
    (executed : reply ≠ .refused) : FannedOut calls (state.release calls call task reply) := by
  have active : state.phase call ≠ .raised := by simp [releasing]
  have released : state.release calls call task reply =
      ((state.compareAndDelete calls call task).fail call task).setPhase call .raised := by
    cases reply with
    | answered => rfl
    | refused => exact absurd rfl executed
    | lost => rfl
  rw [released]
  apply (fanned.compareAndDelete distinct call task).fail
  · rw [FanOut.compareAndDelete_phase]
    exact active
  · exact fanned.not_held_compareAndDelete call task

theorem claim (fanned : FannedOut calls state)
    (claiming : state.phase call = .claiming (task :: rest)) {reply : CommandReply}
    (covered : reply ≠ .lost) :
    FannedOut calls (state.claim calls call task rest reply) := by
  have active : state.phase call ≠ .raised := by simp [claiming]
  cases reply with
  | answered =>
      unfold FanOut.claim
      dsimp only
      split
      · exact fanned.setPhase active (by simp)
      · exact fanned.setClaim active task rest
  | refused => exact fanned.setPhase active (by simp)
  | lost => exact absurd rfl covered

theorem enqueue (fanned : FannedOut calls state)
    (enqueuing : state.phase call = .enqueuing task rest) {outcome : EnqueueOutcome}
    (covered : Covered calls state (.enqueue call outcome)) :
    FannedOut calls (state.enqueue calls call task rest outcome) := by
  cases outcome with
  | accepted =>
      simp only [Covered, enqueuing] at covered
      exact fanned.accept enqueuing covered
  | declined => exact covered.elim
  | raised => exact fanned.setPhase (by simp [enqueuing]) (by simp)
  | cancelled => exact covered.elim

/-- Every covered step preserves it. -/
theorem perform (fanned : FannedOut calls state) (distinct : DistinctJobs calls)
    {action : FanOutAction τ} (covered : Covered calls state action) :
    FannedOut calls (state.perform calls action) := by
  cases action with
  | wait elapsed => exact fanned.wait elapsed
  | claim call reply =>
      rw [FanOut.perform]
      split
      · rename_i claiming
        exact fanned.claim claiming covered
      · exact fanned
  | enqueue call outcome =>
      rw [FanOut.perform]
      split
      · rename_i enqueuing
        exact fanned.enqueue enqueuing covered
      · exact fanned
  | release call reply =>
      rw [FanOut.perform]
      split
      · rename_i releasing
        exact fanned.release distinct releasing covered
      · exact fanned

end FannedOut

/-- In a run of covered steps no pair is enqueued twice in the lifetime of a claim,
no call that has failed holds the claim of its task, and none has deleted the
claim of another. -/
theorem enqueuedOnce_of_covered (calls : τ → EpisodeCall) (distinct : DistinctJobs calls)
    (now : Int) {actions : List (FanOutAction τ)} {state : FanOut τ}
    (run : GuardedRun (FanOut.perform calls) (Covered calls) (.start now) actions state) :
    EnqueuedOnce calls state := by
  have fanned : FannedOut calls state :=
    run.invariant (FannedOut calls) (.start now)
      fun fanned covered => fanned.perform distinct covered
  exact fanned.toEnqueuedOnce

/-- Two replicas that ingest the same episode. -/
def replicas (replica : Bool) : EpisodeCall :=
  { jobId := if replica then "job-2".toList else "job-1".toList
    orgId := "o".toList
    projectId := "p".toList
    sessionId := "s".toList
    traceId := "t".toList
    qnameHigh := "high".toList
    qnameLow := "low".toList
    episodeId := "e".toList
    role := "user".toList }

theorem replicas_distinct : DistinctJobs replicas := by
  intro call call' _
  cases call <;> cases call' <;> simp [replicas]

/-- The enqueue of the first replica raises, and the second enqueues the task. -/
def firstRaises : List (FanOutAction Bool) :=
  [.claim false .answered, .enqueue false .raised, .release false .answered,
    .claim true .answered, .enqueue true .accepted]

theorem second_replica_enqueues :
    EnqueuedOnce replicas (firstRaises.foldl (FanOut.perform replicas) (.start 0)) := by
  have allowed : AllowedAlong (FanOut.perform replicas) (Covered replicas) (.start 0)
      firstRaises := by
    refine ⟨by simp [Covered], trivial, by simp [Covered], by simp [Covered], ?_, trivial⟩
    intro lease found
    cases found
    rfl
  exact enqueuedOnce_of_covered replicas replicas_distinct 0 (.of_allowedAlong allowed)

/-- The first replica is cancelled while it enqueues. -/
theorem cancelled_enqueue_keeps_claim :
    ¬ EnqueuedOnce replicas
      ([FanOutAction.claim false .answered, .enqueue false .cancelled].foldl
        (FanOut.perform replicas) (.start 0)) := by
  intro once
  exact once.released (false, .enrichEpisode) (List.mem_singleton.mpr rfl)
    ⟨"job-1".toList, false, 0 + enqueueDedupTtl⟩ rfl rfl

end OpenZync.Memory
