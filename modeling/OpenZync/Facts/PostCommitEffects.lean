import Mathlib.Logic.Function.Iterate
import OpenZync.Library.Execution
import OpenZync.Library.Savepoints

/-!
# Post-commit effects

A `FactInvalidationService` keeps one flat list of queued effects and two
session hooks.  The hooks fire for the outermost transaction and for every
savepoint alike, and are not told which of them ended.
-/

namespace OpenZync.Facts

open OpenZync.Library

universe u

/-- The service on its session.  `savepoints` counts the open savepoints of
the session; a batch of effects counts as run when its task is dispatched. -/
structure EffectSession (ε : Type u) where
  savepoints : Nat
  pendingEffects : List ε
  eventsAttached : Bool
  ran : List ε
  failed : List ε

variable {ε : Type u}

namespace EffectSession

def start : EffectSession ε :=
  { savepoints := 0
    pendingEffects := []
    eventsAttached := false
    ran := []
    failed := [] }

def attachPostCommitEvents (session : EffectSession ε) : EffectSession ε :=
  if session.eventsAttached then session else { session with eventsAttached := true }

def queuePostCommitEffect (session : EffectSession ε) (effect : ε) : EffectSession ε :=
  attachPostCommitEvents
    { session with pendingEffects := session.pendingEffects ++ [effect] }

/-- `_run_pending_effects`: an effect that raises is logged, and the next one
still runs. -/
def runPendingEffects (raises : ε → Bool) (session : EffectSession ε) :
    List ε → EffectSession ε
  | [] => session
  | effect :: effects =>
      runPendingEffects raises
        { session with
          ran := session.ran ++ [effect]
          failed :=
            if raises effect then session.failed ++ [effect] else session.failed }
        effects

/-- `_on_after_commit`.  Without a running event loop the effects are lost. -/
def onAfterCommit (raises : ε → Bool) (loopRunning : Bool) (session : EffectSession ε) :
    EffectSession ε :=
  match session.pendingEffects with
  | [] => session
  | effect :: effects =>
      if loopRunning then
        runPendingEffects raises { session with pendingEffects := [] } (effect :: effects)
      else { session with pendingEffects := [] }

def onAfterRollback (session : EffectSession ε) : EffectSession ε :=
  { session with pendingEffects := [] }

/-- The session ends one transaction by a commit, inside `await`. -/
def dispatchAfterCommit (raises : ε → Bool) (session : EffectSession ε) :
    EffectSession ε :=
  if session.eventsAttached then onAfterCommit raises true session else session

def dispatchAfterRollback (session : EffectSession ε) : EffectSession ε :=
  if session.eventsAttached then onAfterRollback session else session

/-- One operation.  `commit` and `rollback` of the session first end the
savepoints that are still open. -/
def perform (raises : ε → Bool) (session : EffectSession ε) :
    SessionOperation ε → EffectSession ε
  | .queue effect => session.queuePostCommitEffect effect
  | .beginNested => { session with savepoints := session.savepoints + 1 }
  | .release =>
      match session.savepoints with
      | 0 => session
      | outer + 1 => { session.dispatchAfterCommit raises with savepoints := outer }
  | .rollbackNested =>
      match session.savepoints with
      | 0 => session
      | outer + 1 => { session.dispatchAfterRollback with savepoints := outer }
  | .commit =>
      { (dispatchAfterCommit raises)^[session.savepoints + 1] session with savepoints := 0 }
  | .rollback =>
      { dispatchAfterRollback^[session.savepoints + 1] session with savepoints := 0 }

/-- The service after a sequence of operations on a new session. -/
def run (raises : ε → Bool) (operations : List (SessionOperation ε)) : EffectSession ε :=
  operations.foldl (perform raises) start

section Hooks

variable {raises : ε → Bool} {session : EffectSession ε}

theorem runPendingEffects_ran (effects : List ε) :
    (session.runPendingEffects raises effects).ran = session.ran ++ effects ∧
      (session.runPendingEffects raises effects).pendingEffects =
        session.pendingEffects := by
  induction effects generalizing session with
  | nil => simp [runPendingEffects]
  | cons effect effects induction =>
      rw [runPendingEffects]
      refine ⟨?_, induction.2⟩
      rw [induction.1]
      simp

/-- The hooks do nothing to an empty queue, attached or not. -/
theorem dispatchAfterCommit_of_empty (empty : session.pendingEffects = []) :
    session.dispatchAfterCommit raises = session := by
  rw [dispatchAfterCommit]
  split
  · rw [onAfterCommit, empty]
  · rfl

theorem dispatchAfterRollback_of_empty (empty : session.pendingEffects = []) :
    session.dispatchAfterRollback = session := by
  rw [dispatchAfterRollback]
  split
  · rw [onAfterRollback, ← empty]
  · rfl

variable (attached : session.pendingEffects ≠ [] → session.eventsAttached = true)

include attached in
theorem dispatchAfterCommit_drains (raises : ε → Bool) :
    (session.dispatchAfterCommit raises).pendingEffects = [] ∧
      (session.dispatchAfterCommit raises).ran = session.ran ++ session.pendingEffects := by
  cases queue : session.pendingEffects with
  | nil =>
      rw [dispatchAfterCommit_of_empty queue]
      exact ⟨queue, (List.append_nil _).symm⟩
  | cons effect effects =>
      have hooked : session.eventsAttached = true := by
        apply attached
        rw [queue]
        exact List.cons_ne_nil effect effects
      simp only [dispatchAfterCommit, hooked, if_true, onAfterCommit, queue]
      exact ⟨(runPendingEffects_ran _).2, (runPendingEffects_ran _).1⟩

include attached in
theorem dispatchAfterRollback_drops :
    session.dispatchAfterRollback.pendingEffects = [] ∧
      session.dispatchAfterRollback.ran = session.ran := by
  cases queue : session.pendingEffects with
  | nil =>
      rw [dispatchAfterRollback_of_empty queue]
      exact ⟨queue, rfl⟩
  | cons effect effects =>
      have hooked : session.eventsAttached = true := by
        apply attached
        rw [queue]
        exact List.cons_ne_nil effect effects
      simp [dispatchAfterRollback, hooked, onAfterRollback]

include attached in
/-- Ending the open savepoints first makes no difference to the queue. -/
theorem dispatchAfterCommit_iterate (opened : Nat) :
    (dispatchAfterCommit raises)^[opened + 1] session =
      session.dispatchAfterCommit raises := by
  rw [Function.iterate_succ_apply]
  apply Function.iterate_fixed
  exact dispatchAfterCommit_of_empty (dispatchAfterCommit_drains attached raises).1

include attached in
theorem dispatchAfterRollback_iterate (opened : Nat) :
    dispatchAfterRollback^[opened + 1] session = session.dispatchAfterRollback := by
  rw [Function.iterate_succ_apply]
  apply Function.iterate_fixed
  exact dispatchAfterRollback_of_empty (dispatchAfterRollback_drops attached).1

end Hooks

/-- The flat queue holds what the queues of the levels hold together. -/
structure Tracks (session : EffectSession ε) (levels : EffectLevels ε) : Prop where
  savepoints : session.savepoints = levels.outer.length
  pending : session.pendingEffects = levels.pending
  attached : session.pendingEffects ≠ [] → session.eventsAttached = true
  ran : session.ran = levels.ran

end EffectSession

/-- A savepoint is released only while nothing waits for the outermost
commit, and rolled back only while nothing queued outside it waits. -/
def SavepointsSeparate (levels : EffectLevels ε) : SessionOperation ε → Prop
  | .release => levels.outer ≠ [] → levels.pending = []
  | .rollbackNested => levels.outer.flatten = []
  | _ => True

instance [DecidableEq ε] (levels : EffectLevels ε) :
    DecidablePred (SavepointsSeparate levels)
  | .queue _ => .isTrue trivial
  | .beginNested => .isTrue trivial
  | .release => inferInstanceAs (Decidable (levels.outer ≠ [] → levels.pending = []))
  | .rollbackNested => inferInstanceAs (Decidable (levels.outer.flatten = []))
  | .commit => .isTrue trivial
  | .rollback => .isTrue trivial

namespace EffectSession

section Simulation

variable {raises : ε → Bool} {session : EffectSession ε} {levels : EffectLevels ε}

theorem Tracks.dispatchAfterCommit (tracks : session.Tracks levels) (raises : ε → Bool) :
    (session.dispatchAfterCommit raises).pendingEffects = [] ∧
      (session.dispatchAfterCommit raises).ran = levels.ran ++ levels.pending := by
  obtain ⟨drained, ran⟩ := dispatchAfterCommit_drains tracks.attached raises
  refine ⟨drained, ?_⟩
  rw [ran, tracks.ran, tracks.pending]

theorem Tracks.perform (tracks : session.Tracks levels) (operation : SessionOperation ε)
    (separate : SavepointsSeparate levels operation) :
    (session.perform raises operation).Tracks (levels.step operation) := by
  cases operation with
  | queue effect =>
      have queued : (session.queuePostCommitEffect effect).eventsAttached = true ∧
          (session.queuePostCommitEffect effect).savepoints = session.savepoints ∧
          (session.queuePostCommitEffect effect).ran = session.ran ∧
          (session.queuePostCommitEffect effect).pendingEffects =
            session.pendingEffects ++ [effect] := by
        rw [queuePostCommitEffect, attachPostCommitEvents]
        split
        · rename_i hooked
          exact ⟨hooked, rfl, rfl, rfl⟩
        · exact ⟨rfl, rfl, rfl, rfl⟩
      obtain ⟨hooked, savepoints, ran, pending⟩ := queued
      refine ⟨?_, ?_, ?_, ?_⟩
      · exact savepoints.trans tracks.savepoints
      · refine pending.trans ?_
        rw [tracks.pending]
        simp [EffectLevels.step, EffectLevels.pending]
      · intro _
        exact hooked
      · exact ran.trans tracks.ran
  | beginNested =>
      refine ⟨?_, ?_, tracks.attached, tracks.ran⟩
      · simp [EffectSession.perform, EffectLevels.step, tracks.savepoints]
      · simp [EffectSession.perform, EffectLevels.step, tracks.pending,
          EffectLevels.pending]
  | release =>
      cases opened : levels.outer with
      | nil =>
          have closed : session.savepoints = 0 := by rw [tracks.savepoints, opened]; rfl
          simpa [EffectSession.perform, closed, EffectLevels.step, opened] using tracks
      | cons parent outer =>
          have depth : session.savepoints = outer.length + 1 := by
            rw [tracks.savepoints, opened, List.length_cons]
          have nothing : levels.pending = [] := separate (by simp [opened])
          have empty : session.pendingEffects = [] := tracks.pending.trans nothing
          simp only [EffectSession.perform, depth, EffectLevels.step, opened]
          rw [dispatchAfterCommit_of_empty empty]
          refine ⟨rfl, ?_, tracks.attached, tracks.ran⟩
          rw [EffectLevels.pending, opened] at nothing
          simpa [EffectLevels.pending, empty, and_assoc] using nothing
  | rollbackNested =>
      cases opened : levels.outer with
      | nil =>
          have closed : session.savepoints = 0 := by rw [tracks.savepoints, opened]; rfl
          simpa [EffectSession.perform, closed, EffectLevels.step, opened] using tracks
      | cons parent outer =>
          have depth : session.savepoints = outer.length + 1 := by
            rw [tracks.savepoints, opened, List.length_cons]
          obtain ⟨dropped, ran⟩ := dispatchAfterRollback_drops tracks.attached
          have outside : levels.outer.flatten = [] := separate
          simp only [EffectSession.perform, depth, EffectLevels.step, opened]
          refine ⟨rfl, ?_, fun waiting => absurd dropped waiting, ran.trans tracks.ran⟩
          rw [opened] at outside
          simp only [List.flatten_cons, List.append_eq_nil_iff] at outside
          simp only [EffectLevels.pending, dropped, outside.1, List.append_nil]
          simpa using outside.2
  | commit =>
      obtain ⟨drained, ran⟩ := tracks.dispatchAfterCommit raises
      simp only [EffectSession.perform, dispatchAfterCommit_iterate tracks.attached]
      exact ⟨rfl, drained, fun waiting => absurd drained waiting, ran⟩
  | rollback =>
      obtain ⟨dropped, ran⟩ := dispatchAfterRollback_drops tracks.attached
      simp only [EffectSession.perform, dispatchAfterRollback_iterate tracks.attached]
      exact ⟨rfl, dropped, fun waiting => absurd dropped waiting, ran.trans tracks.ran⟩

theorem tracks_of_run (raises : ε → Bool) {operations : List (SessionOperation ε)}
    (run : GuardedRun EffectLevels.step SavepointsSeparate .start operations levels) :
    (EffectSession.run raises operations).Tracks levels ∧
      levels = operations.foldl EffectLevels.step .start := by
  induction run with
  | nil => exact ⟨⟨rfl, rfl, fun waiting => absurd rfl waiting, rfl⟩, rfl⟩
  | snoc _ separate induction =>
      obtain ⟨tracks, reached⟩ := induction
      rw [EffectSession.run, List.foldl_append, List.foldl_append, ← reached]
      exact ⟨tracks.perform _ separate, rfl⟩

end Simulation

end EffectSession

/-- When savepoints end only as `SavepointsSeparate` allows, exactly the effects
that are due have run, once each and in the order they were queued.  Every
prefix of the operations is such a run, so nothing runs before the outermost
commit. -/
theorem effects_run_on_commit (raises : ε → Bool) {operations : List (SessionOperation ε)}
    {levels : EffectLevels ε}
    (run : GuardedRun EffectLevels.step SavepointsSeparate .start operations levels) :
    (EffectSession.run raises operations).ran = dueEffects 0 operations := by
  obtain ⟨tracks, reached⟩ := EffectSession.tracks_of_run raises run
  rw [tracks.ran, reached, EffectLevels.ran_eq_dueEffects]

/-- An empty savepoint released and one rolled back with its own effect, then
an effect that commits. -/
def separateOperations : List (SessionOperation Nat) :=
  [.beginNested, .release, .beginNested, .queue 1, .rollbackNested, .queue 2, .commit]

theorem effects_run_on_commit_separate :
    dueEffects 0 separateOperations = [2] ∧
      (EffectSession.run (fun _ => false) separateOperations).ran = [2] := by
  have run : GuardedRun EffectLevels.step SavepointsSeparate .start separateOperations
      (separateOperations.foldl EffectLevels.step .start) :=
    .of_allowedAlong (by decide)
  exact ⟨by decide, (effects_run_on_commit (fun _ => false) run).trans (by decide)⟩

/-- An effect queued inside a savepoint, as the enrichment of an episode does,
runs when the savepoint is released although the transaction then fails. -/
theorem releasedSavepoint_runsEarly :
    (EffectSession.run (fun _ => false)
        [.beginNested, .queue 1, .release, .rollback]).ran = [1] ∧
      dueEffects 0 ([.beginNested, .queue 1, .release, .rollback] :
        List (SessionOperation Nat)) = [] := by
  decide

end OpenZync.Facts
