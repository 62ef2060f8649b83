import OpenZync.Workers.ObservationMarker

/-!
# Links that no scan has seen

While every run keeps to three rules, links without a scan always have a run
that owes them a job, or a job on its way to its scan.
-/

namespace OpenZync.Workers

open OpenZync.Library

section Lists

variable {α : Type} {items : List α} {index : Nat} {old new : α} {Holds : α → Prop}

theorem mem_set_self (found : items[index]? = some old) : new ∈ items.set index new := by
  obtain ⟨inside, _⟩ := List.getElem?_eq_some_iff.mp found
  exact List.mem_set inside new

theorem exists_mem_set (found : items[index]? = some old) (kept : Holds old → Holds new)
    (present : ∃ item ∈ items, Holds item) : ∃ item ∈ items.set index new, Holds item := by
  obtain ⟨inside, rfl⟩ := List.getElem?_eq_some_iff.mp found
  obtain ⟨item, member, holds⟩ := present
  obtain ⟨position, bound, rfl⟩ := List.getElem_of_mem member
  by_cases same : index = position
  · subst same
    exact ⟨new, mem_set_self found, kept holds⟩
  · refine ⟨items[position], ?_, holds⟩
    apply List.mem_iff_getElem.mpr
    exact ⟨position, by simpa using bound, by simp [same]⟩

theorem exists_mem_append {more : List α} (present : ∃ item ∈ items, Holds item) :
    ∃ item ∈ items ++ more, Holds item := by
  obtain ⟨item, member, holds⟩ := present
  exact ⟨item, List.mem_append_left more member, holds⟩

end Lists

/-- Links are scanned after their commit, or some run will see to it. -/
structure Attended (state : ObservationState) : Prop where
  marked : state.marker = true → ∃ job ∈ state.jobs, job.BeforeMarker
  covered : EveryCommitScanned state.log ∨ (∃ run ∈ state.links, run.Owes) ∨
    ∃ job ∈ state.jobs, job.BeforeScan

/-- The rules.  The marker is set only while a job is queued that has not
deleted it, or runs and has not; a job that has deleted it does not find bit 6
set; and neither a job before its scan nor a run that owes one gives up. -/
def KeepsPromise (state : ObservationState) : ObservationAction → Prop
  | .startLink _ => True
  | .link index => ∀ run ∈ state.links[index]?, run.phase = .enqueued →
      ∃ job ∈ state.jobs, job.BeforeMarker
  | .linkFails index retryable => ∀ run ∈ state.links[index]?, run.Owes →
      retries retryable run.attempt = true
  | .compute index => ∀ job ∈ state.jobs[index]?, job.phase = .markerDeleted →
      state.observed.contains job.episodeId = false
  | .computeFails index retryable => ∀ job ∈ state.jobs[index]?, job.BeforeScan →
      retries retryable job.attempt = true

instance (state : ObservationState) (action : ObservationAction) :
    Decidable (KeepsPromise state action) := by
  unfold KeepsPromise
  split <;> infer_instance

theorem ComputeRun.BeforeMarker.beforeScan {job : ComputeRun} (before : job.BeforeMarker) :
    job.BeforeScan := by
  rcases before with queued | started
  · exact Or.inl queued
  · exact Or.inr (Or.inl started)

theorem everyCommitScanned_nil : EveryCommitScanned [] := by
  intro before episodeId after split
  simp at split

theorem everyCommitScanned_append (log : List ObservationEvent) :
    EveryCommitScanned (log ++ [.scanStarted]) := by
  intro before episodeId after split
  rcases List.eq_nil_or_concat after with rfl | ⟨rest, event, rfl⟩
  · have last := congrArg List.getLast? split
    simp at last
  · rw [List.concat_eq_append] at split ⊢
    have ends : log ++ [.scanStarted] =
        (before ++ .linksCommitted episodeId :: rest) ++ [event] := by
      simpa using split
    have same := List.append_inj_right' ends rfl
    simp [← List.singleton_inj.mp same]

namespace Attended

variable {state : ObservationState} {index : Nat}

/-- A step of a run of `link_entities_to_episode` that leaves jobs, marker and
log alone and owes what the run owed. -/
theorem setLink {run next : LinkRun} (attended : Attended state)
    (found : state.links[index]? = some run) (owing : run.Owes → next.Owes) :
    Attended { state with links := state.links.set index next } := by
  refine ⟨attended.marked, ?_⟩
  rcases attended.covered with scanned | owed | coming
  · exact Or.inl scanned
  · exact Or.inr (Or.inl (exists_mem_set found owing owed))
  · exact Or.inr (Or.inr coming)

theorem setJob {job next : ComputeRun} (attended : Attended state)
    (found : state.jobs[index]? = some job) (marker : job.BeforeMarker → next.BeforeMarker)
    (scan : job.BeforeScan → next.BeforeScan) :
    Attended { state with jobs := state.jobs.set index next } := by
  refine ⟨fun marked => exists_mem_set found marker (attended.marked marked), ?_⟩
  rcases attended.covered with scanned | owed | coming
  · exact Or.inl scanned
  · exact Or.inr (Or.inl owed)
  · exact Or.inr (Or.inr (exists_mem_set found scan coming))

theorem linkStep {run : LinkRun} (attended : Attended state)
    (found : state.links[index]? = some run)
    (kept : run.phase = .enqueued → ∃ job ∈ state.jobs, job.BeforeMarker) :
    Attended (state.linkStep index run) := by
  unfold ObservationState.linkStep
  cases phase : run.phase with
  | linking owing =>
      refine ⟨attended.marked, Or.inr (Or.inl ?_)⟩
      exact ⟨_, mem_set_self found, Or.inr (Or.inl rfl)⟩
  | committed =>
      by_cases marker : state.marker = true
      · refine ⟨attended.marked, Or.inr (Or.inr ?_)⟩
        obtain ⟨job, member, before⟩ := attended.marked marker
        exact ⟨job, member, before.beforeScan⟩
      · exact attended.setLink found (by simp [LinkRun.Owes, marker])
  | markerAbsent =>
      refine ⟨fun marked => exists_mem_append (attended.marked marked), Or.inr (Or.inr ?_)⟩
      exact ⟨_, List.mem_append_right _ List.mem_cons_self, Or.inl rfl⟩
  | enqueued =>
      have moved : Attended
          { state with links := state.links.set index { run with phase := .finishing } } :=
        attended.setLink found (by simp [LinkRun.Owes, phase])
      exact ⟨fun _ => kept phase, moved.covered⟩
  | finishing => exact attended.setLink found (by simp [LinkRun.Owes, phase])
  | returned => exact attended
  | failed => exact attended

theorem computeStep {job : ComputeRun} (attended : Attended state)
    (found : state.jobs[index]? = some job)
    (kept : job.phase = .markerDeleted → state.observed.contains job.episodeId = false) :
    Attended (state.computeStep index job) := by
  unfold ObservationState.computeStep
  cases phase : job.phase with
  | queued => exact attended.setJob found (fun _ => Or.inr rfl) fun _ => Or.inr (Or.inl rfl)
  | started =>
      refine ⟨fun marked => absurd marked Bool.false_ne_true, Or.inr (Or.inr ?_)⟩
      exact ⟨_, mem_set_self found, Or.inr (Or.inr (Or.inl rfl))⟩
  | markerDeleted =>
      rw [kept phase]
      exact attended.setJob found (by simp [ComputeRun.BeforeMarker, phase])
        fun _ => Or.inr (Or.inr (Or.inr rfl))
  | checked =>
      exact ⟨fun marked => exists_mem_set found (by simp [ComputeRun.BeforeMarker, phase])
        (attended.marked marked), Or.inl (everyCommitScanned_append state.log)⟩
  | scanning =>
      have moved : Attended
          { state with jobs := state.jobs.set index { job with phase := .returned } } :=
        attended.setJob found (by simp [ComputeRun.BeforeMarker, phase])
          (by simp [ComputeRun.BeforeScan, phase])
      exact ⟨moved.marked, moved.covered⟩
  | returned => exact attended
  | failed => exact attended

theorem perform {action : ObservationAction} (attended : Attended state)
    (kept : KeepsPromise state action) : Attended (state.perform action) := by
  cases action with
  | startLink episodeId =>
      refine ⟨attended.marked, ?_⟩
      rcases attended.covered with scanned | owed | coming
      · exact Or.inl scanned
      · exact Or.inr (Or.inl (exists_mem_append owed))
      · exact Or.inr (Or.inr coming)
  | link index =>
      rw [ObservationState.perform]
      cases found : state.links[index]? with
      | none => exact attended
      | some run => exact attended.linkStep found (kept run found)
  | linkFails index retryable =>
      rw [ObservationState.perform]
      cases found : state.links[index]? with
      | none => exact attended
      | some run =>
          simp only
          split
          · apply attended.setLink found
            intro owes
            have again : (run.fail retryable).phase = .linking true := by
              rw [LinkRun.fail, if_pos (kept run found owes), decide_eq_true owes]
            exact Or.inl again
          · exact attended
  | compute index =>
      rw [ObservationState.perform]
      cases found : state.jobs[index]? with
      | none => exact attended
      | some job => exact attended.computeStep found (kept job found)
  | computeFails index retryable =>
      rw [ObservationState.perform]
      cases found : state.jobs[index]? with
      | none => exact attended
      | some job =>
          simp only
          split
          · have again (before : job.BeforeScan) :
                (job.fail retryable).phase = .started := by
              rw [ComputeRun.fail, if_pos (kept job found before)]
            apply attended.setJob found
            · intro before
              exact Or.inr (again before.beforeScan)
            · intro before
              exact Or.inr (Or.inl (again before))
          · exact attended

/-- When nothing is left to run, nothing is left to scan. -/
theorem everyCommitScanned (attended : Attended state) (quiet : state.Quiescent) :
    EveryCommitScanned state.log := by
  rcases attended.covered with scanned | ⟨run, member, owes⟩ | ⟨job, member, before⟩
  · exact scanned
  · exfalso
    apply quiet.1 run member
    rcases owes with phase | phase | phase
    · simp [LinkRun.InProgress, phase]
    · simp [LinkRun.InProgress, phase]
    · simp [LinkRun.InProgress, phase]
  · exfalso
    apply quiet.2 job member
    rcases before with phase | phase | phase | phase
    · simp [ComputeRun.Unfinished, phase]
    · simp [ComputeRun.Unfinished, phase]
    · simp [ComputeRun.Unfinished, phase]
    · simp [ComputeRun.Unfinished, phase]

end Attended

/-- After a run that keeps to the rules, whenever everything has come to rest,
every commit of links has been followed by a scan. -/
theorem linked_episodes_observed {observed : List Uuid} {actions : List ObservationAction}
    {state : ObservationState}
    (run : GuardedRun ObservationState.perform KeepsPromise (.start observed) actions state)
    (quiet : state.Quiescent) : EveryCommitScanned state.log := by
  have attended : Attended state := by
    apply run.invariant Attended
    · refine ⟨fun marked => absurd marked Bool.false_ne_true, ?_⟩
      exact Or.inl everyCommitScanned_nil
    · intro state action attended kept
      exact attended.perform kept
  exact attended.everyCommitScanned quiet

/-- Two episodes are linked, and the job of the first scans after both. -/
def linkedTogether : List ObservationAction :=
  [.startLink 1, .link 0, .link 0, .link 0, .link 0, .link 0, .startLink 2, .link 1, .link 1,
    .link 1, .compute 0, .compute 0, .compute 0, .compute 0, .compute 0]

theorem linked_episodes_observed_together :
    (linkedTogether.foldl ObservationState.perform (.start [])).log =
        [.linksCommitted 1, .linksCommitted 2, .scanStarted] ∧
      EveryCommitScanned (linkedTogether.foldl ObservationState.perform (.start [])).log :=
  ⟨by decide, linked_episodes_observed (GuardedRun.of_allowedAlong (by decide)) (by decide)⟩

/-- The job of the first episode is done before its marker is set, and the
second episode takes the marker for a job. -/
def markedTooLate : List ObservationAction :=
  [.startLink 1, .link 0, .link 0, .link 0, .compute 0, .compute 0, .compute 0, .compute 0,
    .compute 0, .link 0, .link 0, .startLink 2, .link 1, .link 1, .link 1]

theorem linked_episode_missed :
    (markedTooLate.foldl ObservationState.perform (.start [])).Quiescent ∧
      ¬ EveryCommitScanned (markedTooLate.foldl ObservationState.perform (.start [])).log := by
  refine ⟨by decide, ?_⟩
  intro scanned
  have later := scanned [.linksCommitted 1, .scanStarted] 2 [] (by decide)
  cases later

end OpenZync.Workers
