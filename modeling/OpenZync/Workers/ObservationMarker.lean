import OpenZync.Library.Execution
import OpenZync.Text

/-!
# The marker of the observation pass

`link_entities_to_episode` queues a `compute_observations` job unless a marker
says that one is pending, and sets the marker after the job.  The job deletes
the marker before anything else, looks at bit 6 of the episode it was queued
for, and scans the whole project.  Runs of both tasks take their steps in any
order.  The project is open, its graph enabled, and the marker does not expire.
-/

namespace OpenZync.Workers

/-- `max_retries` of both tasks. -/
def observationRetries : Nat := 3

inductive LinkPhase where
  /-- Before the commit of the links.  An attempt may repeat one that had
  committed and got no further. -/
  | linking (owing : Bool)
  | committed
  | markerAbsent
  | enqueued
  /-- The pass is taken care of, and community detection follows. -/
  | finishing
  | returned
  | failed
deriving DecidableEq

/-- A run of `link_entities_to_episode`. -/
structure LinkRun where
  episodeId : Uuid
  attempt : Nat
  phase : LinkPhase
deriving DecidableEq

inductive ComputePhase where
  | queued
  | started
  | markerDeleted
  | checked
  | scanning
  | returned
  | failed
deriving DecidableEq

/-- A job of `compute_observations`, queued or run. -/
structure ComputeRun where
  episodeId : Uuid
  attempt : Nat
  phase : ComputePhase
deriving DecidableEq

inductive ObservationEvent where
  | linksCommitted (episodeId : Uuid)
  | scanStarted
deriving DecidableEq

/-- What the runs of one project share, with the runs themselves. -/
structure ObservationState where
  links : List LinkRun
  jobs : List ComputeRun
  marker : Bool
  /-- Episodes that carry bit 6. -/
  observed : List Uuid
  /-- Oldest first. -/
  log : List ObservationEvent
deriving DecidableEq

def ObservationState.start (observed : List Uuid) : ObservationState :=
  { links := []
    jobs := []
    marker := false
    observed := observed
    log := [] }

inductive ObservationAction where
  | startLink (episodeId : Uuid)
  | link (index : Nat)
  /-- The attempt raises here. -/
  | linkFails (index : Nat) (retryable : Bool)
  | compute (index : Nat)
  | computeFails (index : Nat) (retryable : Bool)
deriving DecidableEq

/-- `with_retry` starts another attempt. -/
def retries (retryable : Bool) (attempt : Nat) : Bool :=
  retryable && decide (attempt < observationRetries)

namespace LinkRun

/-- The run has committed links and neither queued a job nor seen the marker. -/
def Owes (run : LinkRun) : Prop :=
  run.phase = .linking true ∨ run.phase = .committed ∨ run.phase = .markerAbsent

instance (run : LinkRun) : Decidable run.Owes :=
  inferInstanceAs (Decidable (_ ∨ _ ∨ _))

def InProgress (run : LinkRun) : Prop :=
  run.phase ≠ .returned ∧ run.phase ≠ .failed

instance (run : LinkRun) : Decidable run.InProgress :=
  inferInstanceAs (Decidable (_ ∧ _))

def fail (run : LinkRun) (retryable : Bool) : LinkRun :=
  if retries retryable run.attempt then
    { run with
      attempt := run.attempt + 1
      phase := .linking (decide run.Owes) }
  else { run with phase := .failed }

end LinkRun

namespace ComputeRun

/-- The scan is still to come. -/
def BeforeScan (job : ComputeRun) : Prop :=
  job.phase = .queued ∨ job.phase = .started ∨ job.phase = .markerDeleted ∨
    job.phase = .checked

instance (job : ComputeRun) : Decidable job.BeforeScan :=
  inferInstanceAs (Decidable (_ ∨ _ ∨ _ ∨ _))

/-- The job has not deleted the marker. -/
def BeforeMarker (job : ComputeRun) : Prop :=
  job.phase = .queued ∨ job.phase = .started

instance (job : ComputeRun) : Decidable job.BeforeMarker :=
  inferInstanceAs (Decidable (_ ∨ _))

/-- Queued, or a run in progress. -/
def Unfinished (job : ComputeRun) : Prop :=
  job.phase ≠ .returned ∧ job.phase ≠ .failed

instance (job : ComputeRun) : Decidable job.Unfinished :=
  inferInstanceAs (Decidable (_ ∧ _))

def fail (job : ComputeRun) (retryable : Bool) : ComputeRun :=
  if retries retryable job.attempt then
    { job with
      attempt := job.attempt + 1
      phase := .started }
  else { job with phase := .failed }

end ComputeRun

namespace ObservationState

/-- The next step of a run of `link_entities_to_episode`. -/
def linkStep (state : ObservationState) (index : Nat) (run : LinkRun) : ObservationState :=
  let moved (phase : LinkPhase) := state.links.set index { run with phase := phase }
  match run.phase with
  | .linking _ =>
      { state with
        links := moved .committed
        log := state.log ++ [.linksCommitted run.episodeId] }
  | .committed =>
      { state with links := moved (if state.marker then .finishing else .markerAbsent) }
  | .markerAbsent =>
      { state with
        links := moved .enqueued
        jobs := state.jobs ++
          [{ episodeId := run.episodeId, attempt := 1, phase := .queued }] }
  | .enqueued => { state with links := moved .finishing, marker := true }
  | .finishing => { state with links := moved .returned }
  | _ => state

/-- The next step of a job, the first of which takes it off the queue. -/
def computeStep (state : ObservationState) (index : Nat) (job : ComputeRun) :
    ObservationState :=
  let moved (phase : ComputePhase) := state.jobs.set index { job with phase := phase }
  match job.phase with
  | .queued => { state with jobs := moved .started }
  | .started => { state with jobs := moved .markerDeleted, marker := false }
  | .markerDeleted =>
      { state with
        jobs := moved (if state.observed.contains job.episodeId then .returned else .checked) }
  | .checked => { state with jobs := moved .scanning, log := state.log ++ [.scanStarted] }
  | .scanning =>
      { state with jobs := moved .returned, observed := job.episodeId :: state.observed }
  | _ => state

def perform (state : ObservationState) : ObservationAction → ObservationState
  | .startLink episodeId =>
      { state with
        links := state.links ++
          [{ episodeId := episodeId, attempt := 1, phase := .linking false }] }
  | .link index =>
      match state.links[index]? with
      | some run => state.linkStep index run
      | none => state
  | .linkFails index retryable =>
      match state.links[index]? with
      | some run =>
          if run.InProgress then
            { state with links := state.links.set index (run.fail retryable) }
          else state
      | none => state
  | .compute index =>
      match state.jobs[index]? with
      | some job => state.computeStep index job
      | none => state
  | .computeFails index retryable =>
      match state.jobs[index]? with
      | some job =>
          if job.Unfinished ∧ job.phase ≠ .queued then
            { state with jobs := state.jobs.set index (job.fail retryable) }
          else state
      | none => state

/-- Nothing is in progress and nothing is queued. -/
def Quiescent (state : ObservationState) : Prop :=
  (∀ run ∈ state.links, ¬ run.InProgress) ∧ ∀ job ∈ state.jobs, ¬ job.Unfinished

instance (state : ObservationState) : Decidable state.Quiescent :=
  inferInstanceAs (Decidable (_ ∧ _))

end ObservationState

/-- Every commit of links is followed by the start of a scan. -/
def EveryCommitScanned (log : List ObservationEvent) : Prop :=
  ∀ before episodeId after, log = before ++ .linksCommitted episodeId :: after →
    .scanStarted ∈ after

end OpenZync.Workers
