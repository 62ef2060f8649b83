import OpenZync.Memory.ContentClaims

/-!
# One committed ingest in each window

The row of the table of claims decides which submissions of messages commit.
Whatever happens to the claims in Redis, two that commit are more than the
window apart.
-/

namespace OpenZync.Memory

open ClaimState

variable {τ : Type} [DecidableEq τ] {key : DedupKey} {submissions : τ → Submission}

/-- What the table of claims guarantees about the submissions of messages. -/
structure RowDecides (key : DedupKey) (submissions : τ → Submission) (state : ClaimState τ) :
    Prop where
  unique : UniqueKeys state.table
  /-- Only the transaction with the uncommitted row is at work. -/
  working : ∀ submission, state.phase submission = .working → state.writer = some submission
  /-- It found no row that is not expired, and none is committed meanwhile. -/
  won : ∀ submission, state.writer = some submission →
    (insertOrNone state.table key (submissions submission).jobId
      (submissions submission).now).2 = true
  /-- The row of the key is at least as young as every committed submission. -/
  recorded : ∀ submission ∈ state.committed, ∃ row ∈ state.table,
    row.key = key ∧ (submissions submission).now ≤ row.createdAt
  apart : state.committed.Pairwise fun earlier later =>
    (submissions earlier).now + dedupTtl < (submissions later).now

omit [DecidableEq τ] in
theorem RowDecides.start {table : DedupTable} (unique : UniqueKeys table) :
    RowDecides key submissions (ClaimState.start table : ClaimState τ) :=
  { unique := unique
    working := by simp [ClaimState.start]
    won := by simp [ClaimState.start]
    recorded := by simp [ClaimState.start]
    apart := by simp [ClaimState.start] }

/-- A step that neither commits nor changes who is at work. -/
theorem RowDecides.setPhase {state : ClaimState τ} (decides : RowDecides key submissions state)
    (submission : τ) {phase : SubmissionPhase τ} (idle : phase ≠ .working) :
    RowDecides key submissions (state.setPhase submission phase) := by
  refine ⟨decides.unique, ?_, decides.won, decides.recorded, decides.apart⟩
  intro other atWork
  rw [ClaimState.setPhase] at atWork ⊢
  by_cases same : other = submission
  · subst same
    simp only [Function.update_self] at atWork
    exact absurd atWork idle
  · simp only [Function.update_of_ne same] at atWork
    exact decides.working other atWork

omit [DecidableEq τ] in
theorem RowDecides.redis {state : ClaimState τ} (decides : RowDecides key submissions state)
    (claim : Option τ) : RowDecides key submissions { state with redis := claim } :=
  { unique := decides.unique
    working := decides.working
    won := decides.won
    recorded := decides.recorded
    apart := decides.apart }

omit [DecidableEq τ] in
theorem RowDecides.deleteKey {state : ClaimState τ} (decides : RowDecides key submissions state)
    (reachable : Bool) : RowDecides key submissions (state.deleteKey reachable) := by
  rw [ClaimState.deleteKey]
  split
  · exact decides.redis none
  · exact decides

/-- A transaction that is rolled back leaves nobody at work. -/
theorem RowDecides.abandon {state : ClaimState τ} (decides : RowDecides key submissions state)
    {submission : τ} (atWork : state.phase submission = .working)
    {phase : SubmissionPhase τ} (idle : phase ≠ .working) :
    RowDecides key submissions ((state.abandon submission).setPhase submission phase) := by
  have writer := decides.working submission atWork
  have none : (state.abandon submission).writer = none := if_pos writer
  refine ⟨decides.unique, ?_, ?_, decides.recorded, decides.apart⟩
  · intro other otherAtWork
    rw [ClaimState.setPhase] at otherAtWork
    by_cases same : other = submission
    · subst same
      simp only [Function.update_self] at otherAtWork
      exact absurd otherAtWork idle
    · simp only [Function.update_of_ne same] at otherAtWork
      have otherWriter := decides.working other otherAtWork
      rw [writer] at otherWriter
      exact absurd (Option.some.inj otherWriter).symm same
  · intro other otherWriter
    have absent : (state.abandon submission).writer = some other := otherWriter
    rw [none] at absent
    cases absent

theorem RowDecides.claimRow {state : ClaimState τ} (decides : RowDecides key submissions state)
    (submission : τ) (raises : Bool) :
    RowDecides key submissions (state.claimRow key submissions submission raises) := by
  rw [ClaimState.claimRow]
  split
  · exact decides.setPhase submission (by simp)
  · split
    · exact decides
    · rename_i free
      split
      · rename_i won
        refine ⟨decides.unique, ?_, ?_, decides.recorded, decides.apart⟩
        · intro other atWork
          rw [ClaimState.setPhase] at atWork ⊢
          by_cases same : other = submission
          · rw [same]
          · simp only [Function.update_of_ne same] at atWork
            rw [decides.working other atWork] at free
            exact absurd rfl free
        · intro other writer
          cases (Option.some.inj writer)
          exact won
      · exact decides.setPhase submission (by simp)

/-- A commit replaces an expired row, so it comes more than the window after
every commit before it. -/
theorem RowDecides.succeed {state : ClaimState τ} (decides : RowDecides key submissions state)
    {submission : τ} (atWork : state.phase submission = .working) :
    RowDecides key submissions (state.succeed .messages key submissions submission) := by
  have won := decides.won submission (decides.working submission atWork)
  obtain ⟨expired, left, _⟩ := insertOrNone_won won
  have since : ∀ earlier ∈ state.committed,
      (submissions earlier).now + dedupTtl < (submissions submission).now := by
    intro earlier member
    obtain ⟨row, stored, same, recorded⟩ := decides.recorded earlier member
    exact Int.add_lt_of_lt_sub_right (lt_of_le_of_lt recorded (expired row stored same))
  have written : { jobId := (submissions submission).jobId
                   key := key
                   createdAt := (submissions submission).now : DedupRow } ∈
      (insertOrNone state.table key (submissions submission).jobId
        (submissions submission).now).1 := by
    rw [left]
    simp
  refine ⟨insertOrNone_unique decides.unique won, ?_, ?_, ?_, ?_⟩
  · intro other otherAtWork
    rw [ClaimState.succeed, ClaimState.setPhase] at otherAtWork
    by_cases same : other = submission
    · subst same
      simp only [Function.update_self] at otherAtWork
      cases otherAtWork
    · simp only [Function.update_of_ne same] at otherAtWork
      have writer := decides.working submission atWork
      rw [decides.working other otherAtWork] at writer
      exact absurd (Option.some.inj writer) same
  · intro other writer
    cases writer
  · intro other member
    refine ⟨_, written, rfl, ?_⟩
    rcases List.mem_append.mp member with earlier | last
    · have gap := since other earlier
      have positive : (0 : Int) ≤ dedupTtl := by decide
      exact le_of_lt (lt_of_le_of_lt (Int.le_add_of_nonneg_right positive) gap)
    · rw [List.mem_singleton.mp last]
  · refine List.pairwise_append.mpr ⟨decides.apart, by simp, ?_⟩
    intro earlier member last isLast
    rw [List.mem_singleton.mp isLast]
    exact since earlier member

/-- Every action keeps what the table guarantees. -/
theorem RowDecides.perform {state : ClaimState τ} (decides : RowDecides key submissions state)
    (action : ClaimAction τ) :
    RowDecides key submissions (state.perform .messages key submissions action) := by
  cases action with
  | claim submission reachable =>
      rw [ClaimState.perform]
      split
      · rw [ClaimState.claim]
        split
        · split
          · exact decides.setPhase submission (by simp)
          · exact (decides.redis _).setPhase submission (by simp)
        · exact decides.setPhase submission (by simp)
      · exact decides
  | claimRow submission raises =>
      rw [ClaimState.perform]
      split
      · exact decides.claimRow submission raises
      · exact decides
  | lookUp submission raises =>
      rw [ClaimState.perform]
      split
      · split
        · exact decides.setPhase submission (by simp)
        · exact decides.setPhase submission (by simp)
      · exact decides
  | raise submission =>
      rw [ClaimState.perform]
      split
      · exact decides.setPhase submission (by simp)
      · rename_i atWork
        exact decides.abandon atWork (by simp)
      · exact decides
  | cancel submission =>
      rw [ClaimState.perform]
      split
      · exact decides.setPhase submission (by simp)
      · exact decides.setPhase submission (by simp)
      · exact decides.setPhase submission (by simp)
      · rename_i atWork
        exact decides.abandon atWork (by simp)
      · exact decides.setPhase submission (by simp)
      · exact decides
  | complete submission => exact decides
  | commit submission succeeds =>
      by_cases atWork : state.phase submission = .working
      · simp only [ClaimState.perform, atWork]
        split
        · exact decides.succeed atWork
        · exact decides.abandon atWork (by simp)
      · have unchanged : state.perform .messages key submissions
            (.commit submission succeeds) = state := by
          cases phase : state.phase submission <;> simp_all [ClaimState.perform]
        rw [unchanged]
        exact decides
  | release submission reachable =>
      rw [ClaimState.perform]
      split
      · exact (decides.deleteKey reachable).setPhase submission (by simp)
      · exact (decides.deleteKey reachable).setPhase submission (by simp)
      · exact decides
  | loseKey => exact decides.redis none

theorem RowDecides.run {state : ClaimState τ} (decides : RowDecides key submissions state)
    (actions : List (ClaimAction τ)) :
    RowDecides key submissions
      (actions.foldl (ClaimState.perform .messages key submissions) state) := by
  induction actions generalizing state with
  | nil => exact decides
  | cons action actions induction => exact induction (decides.perform action)

/-- The claim times lie within one window. -/
def WithinWindow (first second : Submission) : Prop :=
  first.now ≤ second.now + dedupTtl ∧ second.now ≤ first.now + dedupTtl

/-- No two committed submissions lie within one window. -/
def CommittedOnce (submissions : τ → Submission) (state : ClaimState τ) : Prop :=
  state.committed.Pairwise fun first second =>
    ¬ WithinWindow (submissions first) (submissions second)

/-- A claim that loses against the table learns a prior job at the same
instant. -/
def LoserLearns (table : DedupTable) (key : DedupKey) (jobId : Uuid) (now : Time) : Prop :=
  (insertOrNone table key jobId now).2 = false → (getJobId table key now).isSome = true

/-- After any run of submissions of one content, with any loss of the key in
Redis, at most one in each window has committed; and a claim that loses learns
the winner exactly if no row of the key is just as old as the window. -/
theorem committedOnce_and_loserLearns_iff (key : DedupKey) (submissions : τ → Submission)
    (table : DedupTable) (unique : UniqueKeys table) (actions : List (ClaimAction τ))
    (jobId : Uuid) (now : Time) :
    let state := actions.foldl (ClaimState.perform .messages key submissions) (.start table)
    CommittedOnce submissions state ∧ LoserLearns state.table key jobId now ↔
      ∀ row ∈ state.table, row.key = key → row.createdAt ≠ now - dedupTtl := by
  intro state
  have decides : RowDecides key submissions state := (RowDecides.start unique).run actions
  have once : CommittedOnce submissions state := by
    apply decides.apart.imp
    intro first second gap within
    exact absurd within.2 (not_le.mpr gap)
  rw [LoserLearns, lost_claim_learns_iff decides.unique]
  exact ⟨And.right, fun boundary => ⟨once, boundary⟩⟩

/-- Two submissions, the second at exactly the end of the window of the
first. -/
def boundarySubmissions (submission : Nat) : Submission :=
  { jobId := 100 + submission
    now := if submission = 0 then 0 else dedupTtl }

def boundaryKey : DedupKey :=
  { projectId := 1
    sessionId := 2
    contentHash := "5f".toList }

/-- The first submission commits; then Redis loses the key. -/
def firstCommits : List (ClaimAction Nat) :=
  [.claim 0 true, .claimRow 0 false, .commit 0 true, .loseKey]

/-- The second submission goes to the table of claims. -/
def secondLoses : List (ClaimAction Nat) :=
  [.claim 1 true, .claimRow 1 false, .lookUp 1 false]

theorem earlier_claim_learns :
    CommittedOnce boundarySubmissions
        (firstCommits.foldl (ClaimState.perform .messages boundaryKey boundarySubmissions)
          (.start [])) ∧
      LoserLearns (firstCommits.foldl
          (ClaimState.perform .messages boundaryKey boundarySubmissions) (.start [])).table
        boundaryKey 101 (dedupTtl - 1) :=
  (committedOnce_and_loserLearns_iff boundaryKey boundarySubmissions [] (by simp [UniqueKeys])
    firstCommits 101 (dedupTtl - 1)).mpr (by decide)

/-- A submission at exactly the end of the window loses and learns nothing. -/
theorem boundary_claim_learns_nothing :
    ((firstCommits ++ secondLoses).foldl
        (ClaimState.perform .messages boundaryKey boundarySubmissions) (.start [])).phase 1 =
          .losing none ∧
      ¬ LoserLearns (firstCommits.foldl
          (ClaimState.perform .messages boundaryKey boundarySubmissions) (.start [])).table
        boundaryKey 101 dedupTtl := by
  refine ⟨by decide, ?_⟩
  intro learns
  exact absurd (learns (by decide)) (by decide)

end OpenZync.Memory
