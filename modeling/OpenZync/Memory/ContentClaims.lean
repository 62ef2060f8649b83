import Mathlib.Logic.Function.Basic
import OpenZync.Memory.IngestTables

/-!
# Submissions of one content

Any number of submissions of the same content, by the path of messages or the
path of facts.  Each claims the content in Redis, the messages also in the
table of claims, and does its work in a transaction.  The operations of the
submissions interleave freely; a handler may raise or be cancelled, a commit
may fail, Redis may be unreachable or lose the key.
-/

namespace OpenZync.Memory

/-- The two services that claim a content hash. -/
inductive IngestPath where
  /-- `MemoryService.ingest`, which commits inside the block that releases the
  claim on failure. -/
  | messages
  /-- `FactService`, whose transaction is committed after the handler returned. -/
  | facts
deriving DecidableEq

/-- Where a submission stands. -/
inductive SubmissionPhase (τ : Type) where
  | submitted
  /-- The claim in Redis is won; the row is still to be claimed. -/
  | claimed
  /-- Inside the block that releases the claim on failure. -/
  | working
  /-- The handler of the facts path has returned; the commit is pending. -/
  | returned
  /-- The row claim is lost; the prior job is still to be looked up. -/
  | lost
  /-- The answer is known; the claim is still to be released. -/
  | losing (prior : Option Uuid)
  /-- The transaction is rolled back; the claim is still to be released. -/
  | releasing
  | failed
  /-- Answered from the claim in Redis. -/
  | duplicate (winner : τ)
  /-- Answered from the table of claims. -/
  | replayed (prior : Option Uuid)
  | ingested
deriving DecidableEq

/-- The identifier a submission draws and the instant its transaction begins. -/
structure Submission where
  jobId : Uuid
  now : Time

/-- The claim in Redis is known by the submission that won it. -/
structure ClaimState (τ : Type) where
  redis : Option τ
  table : DedupTable
  /-- The transaction with an uncommitted row of the key. -/
  writer : Option τ
  phase : τ → SubmissionPhase τ
  committed : List τ

inductive ClaimAction (τ : Type) where
  /-- `claim_content_hash`. -/
  | claim (submission : τ) (reachable : Bool)
  /-- `insert_or_none`. -/
  | claimRow (submission : τ) (raises : Bool)
  /-- `get_job_id` of a lost claim. -/
  | lookUp (submission : τ) (raises : Bool)
  /-- The handler raises. -/
  | raise (submission : τ)
  /-- The request is cancelled. -/
  | cancel (submission : τ)
  /-- The handler of the facts path returns. -/
  | complete (submission : τ)
  | commit (submission : τ) (succeeds : Bool)
  /-- `release_content_hash`, which swallows the errors of Redis. -/
  | release (submission : τ) (reachable : Bool)
  /-- Redis expires, evicts or otherwise loses the key. -/
  | loseKey
deriving DecidableEq

namespace ClaimState

variable {τ : Type} [DecidableEq τ]

def start (table : DedupTable) : ClaimState τ :=
  { redis := none
    table := table
    writer := none
    phase := fun _ => .submitted
    committed := [] }

def setPhase (state : ClaimState τ) (submission : τ) (phase : SubmissionPhase τ) :
    ClaimState τ :=
  { state with phase := Function.update state.phase submission phase }

/-- Roll the transaction of a submission back. -/
def abandon (state : ClaimState τ) (submission : τ) : ClaimState τ :=
  { state with writer := if state.writer = some submission then none else state.writer }

/-- The Lua script: the first submission wins, the others replay it.  A Redis
error propagates before anything is claimed. -/
def claim (path : IngestPath) (state : ClaimState τ) (submission : τ) (reachable : Bool) :
    ClaimState τ :=
  if reachable then
    match state.redis with
    | some winner => state.setPhase submission (.duplicate winner)
    | none =>
        { state with redis := some submission }.setPhase submission
          (match path with
          | .messages => .claimed
          | .facts => .working)
  else state.setPhase submission .failed

/-- The claim of the row, before the block that releases the claim in Redis.
An uncommitted row of the key blocks it. -/
def claimRow (key : DedupKey) (submissions : τ → Submission) (state : ClaimState τ)
    (submission : τ) (raises : Bool) : ClaimState τ :=
  if raises then state.setPhase submission .failed
  else if state.writer.isSome then state
  else if (insertOrNone state.table key (submissions submission).jobId
      (submissions submission).now).2 then
    { state with writer := some submission }.setPhase submission .working
  else state.setPhase submission .lost

/-- The commit writes the row and the episodes of the messages, or the facts. -/
def succeed (path : IngestPath) (key : DedupKey) (submissions : τ → Submission)
    (state : ClaimState τ) (submission : τ) : ClaimState τ :=
  { state with
    table :=
      match path with
      | .messages => (insertOrNone state.table key (submissions submission).jobId
          (submissions submission).now).1
      | .facts => state.table
    writer := none
    committed := state.committed ++ [submission] }.setPhase submission .ingested

def deleteKey (reachable : Bool) (state : ClaimState τ) : ClaimState τ :=
  if reachable then { state with redis := none } else state

/-- An action that the phase of the submission does not allow does nothing. -/
def perform (path : IngestPath) (key : DedupKey) (submissions : τ → Submission)
    (state : ClaimState τ) : ClaimAction τ → ClaimState τ
  | .claim submission reachable =>
      match state.phase submission with
      | .submitted => state.claim path submission reachable
      | _ => state
  | .claimRow submission raises =>
      match state.phase submission with
      | .claimed => state.claimRow key submissions submission raises
      | _ => state
  | .lookUp submission raises =>
      match state.phase submission with
      | .lost =>
          if raises then state.setPhase submission .failed
          else state.setPhase submission
            (.losing (getJobId state.table key (submissions submission).now))
      | _ => state
  | .raise submission =>
      match state.phase submission with
      | .submitted => state.setPhase submission .failed
      | .working => (state.abandon submission).setPhase submission .releasing
      | _ => state
  | .cancel submission =>
      match state.phase submission with
      | .submitted => state.setPhase submission .failed
      | .claimed => state.setPhase submission .failed
      | .lost => state.setPhase submission .failed
      | .working =>
          match path with
          | .messages => (state.abandon submission).setPhase submission .releasing
          | .facts => state.setPhase submission .failed
      | .returned => state.setPhase submission .failed
      | _ => state
  | .complete submission =>
      match path, state.phase submission with
      | .facts, .working => state.setPhase submission .returned
      | _, _ => state
  | .commit submission succeeds =>
      match path, state.phase submission with
      | .messages, .working =>
          if succeeds then state.succeed path key submissions submission
          else (state.abandon submission).setPhase submission .releasing
      | .facts, .returned =>
          if succeeds then state.succeed path key submissions submission
          else state.setPhase submission .failed
      | _, _ => state
  | .release submission reachable =>
      match state.phase submission with
      | .releasing => (state.deleteKey reachable).setPhase submission .failed
      | .losing prior => (state.deleteKey reachable).setPhase submission (.replayed prior)
      | _ => state
  | .loseKey => { state with redis := none }

end ClaimState

end OpenZync.Memory
