import OpenZync.Library.Leases
import OpenZync.Library.Segments
import OpenZync.Text

/-!
# Enqueueing the tasks of an episode

`_enqueue_one_episode`: each of the three enrichment tasks of an episode is
claimed in Redis, enqueued, and given back if the enqueue raises.  Any number of
calls for any episodes interleave at these three steps; Redis and the queue may
fail, and a call may be cancelled at each of them.
-/

namespace OpenZync.Memory

open OpenZync.Library

/-- The tasks of the fan-out. -/
inductive EpisodeTask where
  | enrichEpisode
  | embedEpisode
  | linkEntitiesToEpisode
deriving DecidableEq

def EpisodeTask.name : EpisodeTask → Text
  | .enrichEpisode => "enrich_episode".toList
  | .embedEpisode => "embed_episode".toList
  | .linkEntitiesToEpisode => "link_entities_to_episode".toList

/-- `tasks`, in the order of the loop. -/
def episodeTasks : List EpisodeTask :=
  [.enrichEpisode, .embedEpisode, .linkEntitiesToEpisode]

/-- The arguments of one call. -/
structure EpisodeCall where
  jobId : Text
  orgId : Text
  projectId : Text
  sessionId : Text
  traceId : Text
  qnameHigh : Text
  qnameLow : Text
  episodeId : Text
  role : Text

/-- A job as it is handed to the queue. -/
structure EnqueuedJob where
  task : EpisodeTask
  queueName : Text
  episodeId : Text
  orgId : Text
  projectId : Text
  traceId : Text
  sessionId : Option Text
  role : Option Text

/-- The job of one task, with its queue and its extra arguments. -/
def EpisodeCall.job (call : EpisodeCall) (task : EpisodeTask) : EnqueuedJob :=
  { task := task
    queueName :=
      match task with
      | .enrichEpisode | .embedEpisode => call.qnameHigh
      | .linkEntitiesToEpisode => call.qnameLow
    episodeId := call.episodeId
    orgId := call.orgId
    projectId := call.projectId
    traceId := call.traceId
    sessionId :=
      match task with
      | .enrichEpisode => some call.sessionId
      | _ => none
    role :=
      match task with
      | .embedEpisode => none
      | _ => some call.role }

/-- `memory:enqueued:{task_name}:{episode_id}` -/
def dedupKey (task : EpisodeTask) (episodeId : Text) : Text :=
  "memory:enqueued:".toList ++ (task.name ++ ':' :: episodeId)

theorem EpisodeTask.name_colonFree (task : EpisodeTask) : ':' ∉ task.name := by
  cases task <;> decide

theorem EpisodeTask.name_inj {task task' : EpisodeTask} (same : task.name = task'.name) :
    task = task' := by
  revert same
  cases task <;> cases task' <;> decide

theorem dedupKey_inj {task task' : EpisodeTask} {episodeId episodeId' : Text}
    (same : dedupKey task episodeId = dedupKey task' episodeId') :
    task = task' ∧ episodeId = episodeId' := by
  obtain ⟨sameName, sameId⟩ := append_separator_inj task.name_colonFree task'.name_colonFree
    (List.append_cancel_left same)
  exact ⟨EpisodeTask.name_inj sameName, sameId⟩

/-- `_ENQUEUE_DEDUP_TTL_SEC`: seven days. -/
def enqueueDedupTtl : Int := 7 * 24 * 3600 * 1000000

/-- How `arq_pool.enqueue` ends; `declined` is the result `None`. -/
inductive EnqueueOutcome where
  | accepted
  | declined
  | raised
  | cancelled
deriving DecidableEq

/-- Where a call stands. -/
inductive FanOutPhase where
  /-- At the head of the loop; the call returns when no task is left. -/
  | claiming (tasks : List EpisodeTask)
  | enqueuing (task : EpisodeTask) (rest : List EpisodeTask)
  /-- In the handler of an enqueue that raised. -/
  | releasing (task : EpisodeTask)
  | raised
deriving DecidableEq

inductive FanOutAction (τ : Type) where
  | wait (elapsed : Nat)
  /-- `SET key job_id NX EX`. -/
  | claim (call : τ) (reply : CommandReply)
  | enqueue (call : τ) (outcome : EnqueueOutcome)
  /-- The Lua script that compares and deletes. -/
  | release (call : τ) (reply : CommandReply)

/-- Redis and the queue, with the calls.  `since` is the number of jobs there were
when a key was last claimed, `failed` has the tasks that a call has claimed
and not enqueued, `deletions` who has deleted whose claim. -/
structure FanOut (τ : Type) where
  now : Int
  claims : Leases Text Text τ
  jobs : List EnqueuedJob
  phase : τ → FanOutPhase
  since : Text → Nat
  failed : List (τ × EpisodeTask)
  deletions : List (τ × τ)

namespace FanOut

variable {τ : Type}

def start (now : Int) : FanOut τ :=
  { now := now
    claims := fun _ => none
    jobs := []
    phase := fun _ => .claiming episodeTasks
    since := fun _ => 0
    failed := []
    deletions := [] }

variable [DecidableEq τ] (calls : τ → EpisodeCall)

def setPhase (state : FanOut τ) (call : τ) (phase : FanOutPhase) : FanOut τ :=
  { state with phase := Function.update state.phase call phase }

/-- The call will not enqueue a task that it has claimed. -/
def fail (state : FanOut τ) (call : τ) (task : EpisodeTask) : FanOut τ :=
  { state with failed := state.failed ++ [(call, task)] }

/-- The key of a task is set to the job of the call. -/
def setClaim (state : FanOut τ) (call : τ) (task : EpisodeTask) : FanOut τ :=
  let key := dedupKey task (calls call).episodeId
  { state with
    claims := state.claims.set key ⟨(calls call).jobId, call, state.now + enqueueDedupTtl⟩
    since := Function.update state.since key state.jobs.length }

def claim (state : FanOut τ) (call : τ) (task : EpisodeTask) (rest : List EpisodeTask)
    (reply : CommandReply) : FanOut τ :=
  match reply with
  | .answered =>
      match state.claims.held state.now (dedupKey task (calls call).episodeId) with
      | some _ => state.setPhase call (.claiming rest)
      | none => (state.setClaim calls call task).setPhase call (.enqueuing task rest)
  | .refused => state.setPhase call .raised
  | .lost =>
      match state.claims.held state.now (dedupKey task (calls call).episodeId) with
      | some _ => state.setPhase call .raised
      | none => ((state.setClaim calls call task).fail call task).setPhase call .raised

def enqueue (state : FanOut τ) (call : τ) (task : EpisodeTask) (rest : List EpisodeTask)
    (outcome : EnqueueOutcome) : FanOut τ :=
  match outcome with
  | .accepted =>
      { state with jobs := state.jobs ++ [(calls call).job task] }.setPhase call (.claiming rest)
  | .declined => (state.fail call task).setPhase call (.claiming rest)
  | .raised => state.setPhase call (.releasing task)
  | .cancelled => (state.fail call task).setPhase call .raised

/-- `if GET key == job_id then DEL key` -/
def compareAndDelete (state : FanOut τ) (call : τ) (task : EpisodeTask) : FanOut τ :=
  match state.claims.held state.now (dedupKey task (calls call).episodeId) with
  | some lease =>
      if lease.value = (calls call).jobId then
        { state with
          claims := state.claims.delete (dedupKey task (calls call).episodeId)
          deletions := state.deletions ++ [(call, lease.owner)] }
      else state
  | none => state

def release (state : FanOut τ) (call : τ) (task : EpisodeTask) (reply : CommandReply) :
    FanOut τ :=
  let released :=
    match reply with
    | .refused => state
    | .answered | .lost => state.compareAndDelete calls call task
  (released.fail call task).setPhase call .raised

/-- An action that the phase of the call does not allow does nothing. -/
def perform (state : FanOut τ) : FanOutAction τ → FanOut τ
  | .wait elapsed => { state with now := state.now + elapsed }
  | .claim call reply =>
      match state.phase call with
      | .claiming (task :: rest) => state.claim calls call task rest reply
      | _ => state
  | .enqueue call outcome =>
      match state.phase call with
      | .enqueuing task rest => state.enqueue calls call task rest outcome
      | _ => state
  | .release call reply =>
      match state.phase call with
      | .releasing task => state.release calls call task reply
      | _ => state

end FanOut

end OpenZync.Memory
