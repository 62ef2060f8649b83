import Mathlib.Data.Fintype.Basic
import OpenZync.Library.Execution
import OpenZync.Memory.ContentClaims

/-!
# Soundness of replays

A submission that is answered as a duplicate relies on another one.  The answer
is given when the other one has only claimed the content, so it is sound as
long as no submission fails after others were answered from its claim, and
every failed one gives its claim back before the next submission comes.
-/

namespace OpenZync.Memory

open OpenZync.Library

variable {τ : Type} [DecidableEq τ]

namespace SubmissionPhase

/-- The submission has won the claim and may still commit. -/
def inFlight : SubmissionPhase τ → Bool
  | .claimed => true
  | .working => true
  | .returned => true
  | _ => false

/-- The submission has won the claim and has not failed. -/
def holding : SubmissionPhase τ → Bool
  | .submitted => false
  | .failed => false
  | .duplicate _ => false
  | _ => true

/-- The submission has met a committed row or committed itself. -/
def told : SubmissionPhase τ → Bool
  | .lost => true
  | .losing _ => true
  | .replayed _ => true
  | .ingested => true
  | _ => false

/-- The submission is not running: not begun, answered, committed or failed. -/
def resting : SubmissionPhase τ → Bool
  | .submitted => true
  | .failed => true
  | .duplicate _ => true
  | .replayed _ => true
  | .ingested => true
  | _ => false

/-- The submission was answered as a duplicate or a replay. -/
def answered : SubmissionPhase τ → Bool
  | .duplicate _ => true
  | .replayed _ => true
  | _ => false

omit [DecidableEq τ] in
theorem resting_of_inFlight {phase : SubmissionPhase τ} (flying : phase.inFlight = true) :
    phase.resting = false := by
  cases phase <;> first | rfl | cases flying

end SubmissionPhase

/-- Nobody was answered from the claim of the submission, or some submission
has committed. -/
def Harmless (state : ClaimState τ) (submission : τ) : Prop :=
  state.committed ≠ [] ∨ ∀ other, state.phase other ≠ .duplicate submission

/-- The submission may fail without giving its claim back. -/
def Unclaimed (state : ClaimState τ) (submission : τ) : Prop :=
  state.redis ≠ some submission ∧ Harmless state submission

/-- The conditions on an action, in the state it is performed in. -/
def FailsCleanly (path : IngestPath) (state : ClaimState τ) : ClaimAction τ → Prop
  | .claim submission reachable =>
      state.phase submission = .submitted → reachable = true → ∀ winner,
        state.redis = some winner → state.phase winner = .releasing → state.committed ≠ []
  | .claimRow submission raises =>
      state.phase submission = .claimed → raises = true → Unclaimed state submission
  | .lookUp submission raises =>
      state.phase submission = .lost → raises = true → Unclaimed state submission
  | .raise submission => state.phase submission = .working → Harmless state submission
  | .cancel submission =>
      match path, state.phase submission with
      | .messages, .working => Harmless state submission
      | .facts, .working => Unclaimed state submission
      | _, .claimed => Unclaimed state submission
      | _, .lost => Unclaimed state submission
      | _, .returned => Unclaimed state submission
      | _, _ => True
  | .complete _ => True
  | .commit submission succeeds =>
      succeeds = false →
        match path with
        | .messages => state.phase submission = .working → Harmless state submission
        | .facts => state.phase submission = .returned → Unclaimed state submission
  | .release submission reachable =>
      state.phase submission = .releasing → reachable = false → state.redis ≠ some submission
  | .loseKey => True

structure ReplayInvariant (submissions : τ → Submission) (state : ClaimState τ) : Prop where
  claimHeld : ∀ holder, state.redis = some holder → (state.phase holder).holding = true
  answered : ∀ submission winner, state.phase submission = .duplicate winner →
    state.committed ≠ [] ∨ (state.phase winner).inFlight = true
  told : ∀ submission, (state.phase submission).told = true → state.committed ≠ []
  rows : ∀ row ∈ state.table, ∃ submission ∈ state.committed,
    row.jobId = (submissions submission).jobId

variable {submissions : τ → Submission} {state : ClaimState τ}

omit [DecidableEq τ] in
theorem ReplayInvariant.start : ReplayInvariant submissions (.start [] : ClaimState τ) :=
  { claimHeld := by simp [ClaimState.start]
    answered := by simp [ClaimState.start]
    told := by simp [ClaimState.start, SubmissionPhase.told]
    rows := by simp [ClaimState.start] }

theorem ReplayInvariant.setPhase (invariant : ReplayInvariant submissions state)
    (submission : τ) (phase : SubmissionPhase τ)
    (holds : state.redis = some submission → phase.holding = true)
    (keeps : Harmless state submission ∨ phase.inFlight = true)
    (relies : ∀ winner, phase = .duplicate winner →
      state.committed ≠ [] ∨ winner ≠ submission ∧ (state.phase winner).inFlight = true)
    (told : phase.told = true → state.committed ≠ []) :
    ReplayInvariant submissions (state.setPhase submission phase) := by
  refine ⟨?_, ?_, ?_, invariant.rows⟩
  · intro holder held
    by_cases same : holder = submission
    · subst same
      simpa [ClaimState.setPhase] using holds held
    · simpa [ClaimState.setPhase, Function.update_of_ne same] using
        invariant.claimHeld holder held
  · intro other winner duplicate
    have moved : ∀ {holder}, holder ≠ submission →
        (state.setPhase submission phase).phase holder = state.phase holder :=
      fun different => Function.update_of_ne different _ _
    have own : (state.setPhase submission phase).phase submission = phase :=
      Function.update_self _ _ _
    by_cases same : other = submission
    · subst same
      rw [own] at duplicate
      rcases relies winner duplicate with committed | ⟨different, flying⟩
      · exact .inl committed
      · exact .inr (by rw [moved different]; exact flying)
    · rw [moved same] at duplicate
      by_cases isWinner : winner = submission
      · subst isWinner
        rw [own]
        rcases keeps with (committed | nobody) | flying
        · exact .inl committed
        · exact absurd duplicate (nobody other)
        · exact .inr flying
      · rw [moved isWinner]
        exact invariant.answered other winner duplicate
  · intro other isTold
    by_cases same : other = submission
    · subst same
      exact told (by simpa [ClaimState.setPhase] using isTold)
    · apply invariant.told other
      simpa [ClaimState.setPhase, Function.update_of_ne same] using isTold

omit [DecidableEq τ] in
theorem ReplayInvariant.loseKey (invariant : ReplayInvariant submissions state) :
    ReplayInvariant submissions { state with redis := none } :=
  { claimHeld := by
      intro _ held
      cases held
    answered := invariant.answered
    told := invariant.told
    rows := invariant.rows }

theorem ReplayInvariant.abandon (invariant : ReplayInvariant submissions state)
    (submission : τ) : ReplayInvariant submissions (state.abandon submission) :=
  { claimHeld := invariant.claimHeld
    answered := invariant.answered
    told := invariant.told
    rows := invariant.rows }

/-- A submission that fails without a release must not hold the claim. -/
theorem ReplayInvariant.fail (invariant : ReplayInvariant submissions state) (submission : τ)
    (unclaimed : Unclaimed state submission) :
    ReplayInvariant submissions (state.setPhase submission .failed) := by
  apply invariant.setPhase submission .failed
  · intro held
    exact absurd held unclaimed.1
  · exact .inl unclaimed.2
  · intro winner impossible
    cases impossible
  · intro impossible
    cases impossible

/-- A submission that fails inside the block is about to release. -/
theorem ReplayInvariant.startRelease (invariant : ReplayInvariant submissions state)
    (submission : τ) (harmless : Harmless state submission) :
    ReplayInvariant submissions
      ((state.abandon submission).setPhase submission .releasing) := by
  apply (invariant.abandon submission).setPhase submission .releasing
  · intro _
    rfl
  · exact .inl harmless
  · intro winner impossible
    cases impossible
  · intro impossible
    cases impossible

omit [DecidableEq τ] in
/-- Nobody relies on a submission that can no longer commit. -/
theorem ReplayInvariant.harmless (invariant : ReplayInvariant submissions state)
    {submission : τ} (ended : (state.phase submission).inFlight = false) :
    Harmless state submission := by
  by_cases committed : state.committed = []
  · refine .inr fun other duplicate => ?_
    rcases invariant.answered other submission duplicate with some | flying
    · exact some committed
    · rw [ended] at flying
      cases flying
  · exact .inl committed

omit [DecidableEq τ] in
/-- A submission that has not begun holds no claim. -/
theorem ReplayInvariant.unclaimed_of_submitted (invariant : ReplayInvariant submissions state)
    {submission : τ} (early : state.phase submission = .submitted) :
    Unclaimed state submission := by
  constructor
  · intro held
    have holding := invariant.claimHeld submission held
    rw [early] at holding
    cases holding
  · exact invariant.harmless (by rw [early]; rfl)

omit [DecidableEq τ] in
/-- Whoever holds the claim and is not about to release it has committed, has
met a committed row or may still commit. -/
theorem ReplayInvariant.relies (invariant : ReplayInvariant submissions state) {winner : τ}
    (held : state.redis = some winner)
    (released : state.phase winner = .releasing → state.committed ≠ []) :
    state.committed ≠ [] ∨ (state.phase winner).inFlight = true := by
  have holding := invariant.claimHeld winner held
  have told := invariant.told winner
  cases phase : state.phase winner with
  | submitted => simp [phase, SubmissionPhase.holding] at holding
  | failed => simp [phase, SubmissionPhase.holding] at holding
  | duplicate other => simp [phase, SubmissionPhase.holding] at holding
  | claimed => exact .inr rfl
  | working => exact .inr rfl
  | returned => exact .inr rfl
  | releasing => exact .inl (released phase)
  | lost => exact .inl (told (by rw [phase]; rfl))
  | losing prior => exact .inl (told (by rw [phase]; rfl))
  | replayed prior => exact .inl (told (by rw [phase]; rfl))
  | ingested => exact .inl (told (by rw [phase]; rfl))

theorem ReplayInvariant.claim (invariant : ReplayInvariant submissions state)
    (path : IngestPath) {submission : τ} (reachable : Bool)
    (early : state.phase submission = .submitted)
    (released : reachable = true → ∀ winner, state.redis = some winner →
      state.phase winner = .releasing → state.committed ≠ []) :
    ReplayInvariant submissions (state.claim path submission reachable) := by
  have unclaimed := invariant.unclaimed_of_submitted early
  rw [ClaimState.claim.eq_def]
  split
  · rename_i reached
    split
    · rename_i winner held
      apply invariant.setPhase submission (.duplicate winner)
      · intro own
        exact absurd own unclaimed.1
      · exact .inl unclaimed.2
      · intro other same
        cases same
        rcases invariant.relies held (released reached winner held) with committed | flying
        · exact .inl committed
        · refine .inr ⟨?_, flying⟩
          rintro rfl
          exact unclaimed.1 held
      · intro impossible
        cases impossible
    · have claimed : ∀ phase : SubmissionPhase τ, phase.inFlight = true →
          phase.holding = true → phase.told = false → (∀ winner, phase ≠ .duplicate winner) →
          ReplayInvariant submissions
            ({ state with redis := some submission }.setPhase submission phase) := by
        intro phase flying holding untold unanswered
        have moved := invariant.setPhase submission phase (fun _ => holding) (.inr flying)
          (fun winner same => absurd same (unanswered winner))
          (fun isTold => by rw [untold] at isTold; cases isTold)
        refine ⟨?_, moved.answered, moved.told, moved.rows⟩
        intro holder held
        cases held
        simpa [ClaimState.setPhase] using holding
      cases path with
      | messages => exact claimed .claimed rfl rfl rfl (by simp)
      | facts => exact claimed .working rfl rfl rfl (by simp)
  · exact invariant.fail submission unclaimed

theorem ReplayInvariant.claimRow (invariant : ReplayInvariant submissions state)
    (key : DedupKey) (submission : τ) (raises : Bool)
    (unclaimed : raises = true → Unclaimed state submission) :
    ReplayInvariant submissions (state.claimRow key submissions submission raises) := by
  rw [ClaimState.claimRow]
  split
  · rename_i raised
    exact invariant.fail submission (unclaimed raised)
  · split
    · exact invariant
    · split
      · have moved := invariant.setPhase submission .working (fun _ => rfl) (.inr rfl)
          (by intro winner impossible; cases impossible) (by intro impossible; cases impossible)
        exact ⟨moved.claimHeld, moved.answered, moved.told, moved.rows⟩
      · rename_i lost
        have committed : state.committed ≠ [] := by
          have found : (insertOrNone state.table key (submissions submission).jobId
              (submissions submission).now).2 = false := by simpa using lost
          obtain ⟨row, member, _⟩ := insertOrNone_lost_iff.mp found
          obtain ⟨owner, ownerMember, _⟩ := invariant.rows row member
          exact List.ne_nil_of_mem ownerMember
        exact invariant.setPhase submission .lost (fun _ => rfl) (.inl (.inl committed))
          (by intro winner impossible; cases impossible) (fun _ => committed)

/-- A commit settles everything. -/
theorem ReplayInvariant.succeed (invariant : ReplayInvariant submissions state)
    (path : IngestPath) (key : DedupKey) (submission : τ) :
    ReplayInvariant submissions (state.succeed path key submissions submission) := by
  have committed : (state.succeed path key submissions submission).committed ≠ [] := by
    simp [ClaimState.succeed, ClaimState.setPhase]
  refine ⟨?_, fun _ _ _ => .inl committed, fun _ _ => committed, ?_⟩
  · intro holder held
    by_cases same : holder = submission
    · subst same
      simp [ClaimState.succeed, ClaimState.setPhase, SubmissionPhase.holding]
    · have before := invariant.claimHeld holder held
      simpa [ClaimState.succeed, ClaimState.setPhase, Function.update_of_ne same] using before
  · intro row member
    have origin : row ∈ state.table ∨ row.jobId = (submissions submission).jobId := by
      cases path with
      | messages => exact mem_insertOrNone member
      | facts => exact .inl member
    rcases origin with old | new
    · obtain ⟨owner, ownerMember, same⟩ := invariant.rows row old
      exact ⟨owner, List.mem_append_left _ ownerMember, same⟩
    · exact ⟨submission, List.mem_append_right _ (by simp), new⟩

omit [DecidableEq τ] in
theorem ReplayInvariant.deleteKey (invariant : ReplayInvariant submissions state)
    (reachable : Bool) : ReplayInvariant submissions (state.deleteKey reachable) := by
  rw [ClaimState.deleteKey]
  split
  · exact invariant.loseKey
  · exact invariant

theorem ReplayInvariant.release (invariant : ReplayInvariant submissions state)
    {submission : τ} (reachable : Bool) (releasing : state.phase submission = .releasing)
    (reached : reachable = false → state.redis ≠ some submission) :
    ReplayInvariant submissions ((state.deleteKey reachable).setPhase submission .failed) := by
  apply (invariant.deleteKey reachable).fail submission
  have harmless : Harmless state submission := invariant.harmless (by rw [releasing]; rfl)
  cases reachable with
  | true => exact ⟨by simp [ClaimState.deleteKey], harmless⟩
  | false => exact ⟨reached rfl, harmless⟩

theorem ReplayInvariant.perform (invariant : ReplayInvariant submissions state)
    {path : IngestPath} {key : DedupKey} {action : ClaimAction τ}
    (cleanly : FailsCleanly path state action) :
    ReplayInvariant submissions (state.perform path key submissions action) := by
  cases action with
  | claim submission reachable =>
      rw [ClaimState.perform]
      split
      · rename_i early
        exact invariant.claim path reachable early (cleanly early)
      · exact invariant
  | claimRow submission raises =>
      rw [ClaimState.perform]
      split
      · rename_i claimed
        exact invariant.claimRow key submission raises (cleanly claimed)
      · exact invariant
  | lookUp submission raises =>
      rw [ClaimState.perform]
      split
      · rename_i lost
        have committed := invariant.told submission (by rw [lost]; rfl)
        split
        · rename_i raised
          exact invariant.fail submission (cleanly lost raised)
        · exact invariant.setPhase submission (.losing _) (fun _ => rfl) (.inl (.inl committed))
            (by intro winner impossible; cases impossible) (fun _ => committed)
      · exact invariant
  | raise submission =>
      rw [ClaimState.perform]
      split
      · rename_i early
        exact invariant.fail submission (invariant.unclaimed_of_submitted early)
      · rename_i working
        exact invariant.startRelease submission (cleanly working)
      · exact invariant
  | cancel submission =>
      simp only [FailsCleanly] at cleanly
      simp only [ClaimState.perform]
      cases phase : state.phase submission with
      | submitted =>
          exact invariant.fail submission (invariant.unclaimed_of_submitted phase)
      | claimed =>
          apply invariant.fail submission
          cases path <;> simpa only [phase] using cleanly
      | lost =>
          apply invariant.fail submission
          cases path <;> simpa only [phase] using cleanly
      | returned =>
          apply invariant.fail submission
          cases path <;> simpa only [phase] using cleanly
      | working =>
          cases path with
          | messages =>
              apply invariant.startRelease submission
              simpa only [phase] using cleanly
          | facts =>
              apply invariant.fail submission
              simpa only [phase] using cleanly
      | _ => exact invariant
  | complete submission =>
      rw [ClaimState.perform.eq_def]
      simp only
      split
      · exact invariant.setPhase submission .returned (fun _ => rfl) (.inr rfl)
          (by intro winner impossible; cases impossible) (by intro impossible; cases impossible)
      · exact invariant
  | commit submission succeeds =>
      rw [ClaimState.perform.eq_def]
      simp only
      split
      · rename_i working
        split
        · exact invariant.succeed .messages key submission
        · rename_i fails
          exact invariant.startRelease submission (cleanly (by simpa using fails) working)
      · rename_i returned
        split
        · exact invariant.succeed .facts key submission
        · rename_i fails
          exact invariant.fail submission (cleanly (by simpa using fails) returned)
      · exact invariant
  | release submission reachable =>
      rw [ClaimState.perform]
      split
      · rename_i releasing
        exact invariant.release reachable releasing (cleanly releasing)
      · rename_i prior losing
        have committed := invariant.told submission (by rw [losing]; rfl)
        have kept : (state.deleteKey reachable).committed ≠ [] := by
          cases reachable <;> exact committed
        exact (invariant.deleteKey reachable).setPhase submission (.replayed prior)
          (fun _ => rfl) (.inl (.inl kept)) (by intro winner impossible; cases impossible)
          (fun _ => kept)
      · exact invariant
  | loseKey => exact invariant.loseKey

/-- Once nobody is running, an answered submission has a committed one behind
it; a failed submission leaves no claim in Redis; and every row in the table of
claims is that of a committed one. -/
structure SoundReplays (submissions : τ → Submission) (state : ClaimState τ) : Prop where
  committed : (∀ submission, (state.phase submission).resting = true) →
    ∀ submission, (state.phase submission).answered = true → state.committed ≠ []
  released : ∀ submission, state.phase submission = .failed → state.redis ≠ some submission
  rows : ∀ row ∈ state.table, ∃ submission ∈ state.committed,
    row.jobId = (submissions submission).jobId

omit [DecidableEq τ] in
theorem ReplayInvariant.sound (invariant : ReplayInvariant submissions state) :
    SoundReplays submissions state := by
  refine ⟨?_, ?_, invariant.rows⟩
  · intro resting submission answered
    cases phase : state.phase submission with
    | duplicate winner =>
        rcases invariant.answered submission winner phase with committed | flying
        · exact committed
        · have rests := resting winner
          rw [SubmissionPhase.resting_of_inFlight flying] at rests
          cases rests
    | replayed prior => exact invariant.told submission (by rw [phase]; rfl)
    | _ =>
        rw [phase] at answered
        cases answered
  · intro submission failed held
    have holding := invariant.claimHeld submission held
    rw [failed] at holding
    cases holding

/-- In every run whose failures meet the conditions, the replays are sound in
every state reached. -/
theorem replays_sound {path : IngestPath} {key : DedupKey} {actions : List (ClaimAction τ)}
    (run : GuardedRun (ClaimState.perform path key submissions) (FailsCleanly path)
      (.start []) actions state) :
    SoundReplays submissions state :=
  (run.invariant (ReplayInvariant submissions) .start
    fun invariant cleanly => invariant.perform cleanly).sound

section Decidable

variable [Fintype τ]

instance (state : ClaimState τ) (submission : τ) : Decidable (Harmless state submission) :=
  inferInstanceAs (Decidable (_ ∨ _))

instance (state : ClaimState τ) (submission : τ) : Decidable (Unclaimed state submission) :=
  inferInstanceAs (Decidable (_ ∧ _))

end Decidable

/-- Three submissions of one content. -/
def threeSubmissions (submission : Fin 3) : Submission :=
  { jobId := 100 + submission
    now := submission }

def oneContent : DedupKey :=
  { projectId := 1
    sessionId := 2
    contentHash := "5f".toList }

/-- The first submission fails and releases its claim, the second commits and
the third is answered from its claim. -/
def cleanFailure : List (ClaimAction (Fin 3)) :=
  [.claim 0 true, .claimRow 0 false, .raise 0, .release 0 true, .claim 1 true,
    .claimRow 1 false, .claim 2 true, .commit 1 true]

theorem clean_failure_sound :
    SoundReplays threeSubmissions
      (cleanFailure.foldl (ClaimState.perform .messages oneContent threeSubmissions)
        (.start [])) := by
  have allowed : AllowedAlong (ClaimState.perform .messages oneContent threeSubmissions)
      (FailsCleanly .messages) (.start []) cleanFailure := by
    refine ⟨?_, ?_, ?_, ?_, ?_, ?_, ?_, ?_, trivial⟩ <;> simp only [FailsCleanly] <;> decide
  exact replays_sound (GuardedRun.of_allowedAlong allowed)

/-- A submission of messages is answered from a claim whose holder then fails;
and a commit that fails after the handler of the facts path has returned leaves
the claim, from which the next submission is answered. -/
theorem replays_unsound :
    ¬ SoundReplays threeSubmissions
        ([.claim 0 true, .claimRow 0 false, .claim 1 true, .raise 0, .release 0 true].foldl
          (ClaimState.perform .messages oneContent threeSubmissions) (.start [])) ∧
      ¬ SoundReplays threeSubmissions
        ([.claim 0 true, .complete 0, .commit 0 false, .claim 1 true].foldl
          (ClaimState.perform .facts oneContent threeSubmissions) (.start [])) := by
  constructor
  · intro sound
    exact sound.committed (by decide) 1 (by decide) (by decide)
  · intro sound
    exact sound.committed (by decide) 1 (by decide) (by decide)

end OpenZync.Memory
