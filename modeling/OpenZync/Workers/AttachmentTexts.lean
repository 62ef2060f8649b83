import OpenZync.Workers.EnrichmentRaces

/-!
# The texts of the attachments

The jobs of an episode's attachments run one after the other.  The first that
finishes marks the episode, and every later one takes the mark for its own and
returns, so all attachments have their text only where there is one at most.
-/

namespace OpenZync.Workers

open OpenZync.Library

/-- One attempt of a job, first or retried. -/
structure BlobAttempt where
  job : BlobJob
  world : BlobWorld

/-- A failed attempt leaves the tables as they were. -/
def runAttempt (libraries : Libraries) (tables : EpisodeTables) (attempt : BlobAttempt) :
    EpisodeTables :=
  match extractBlobText libraries attempt.world attempt.job tables with
  | .ok result => result
  | .error _ => tables

def runAttempts (libraries : Libraries) (tables : EpisodeTables)
    (attempts : List BlobAttempt) : EpisodeTables :=
  attempts.foldl (runAttempt libraries) tables

/-- Every attachment has its text. -/
def EpisodeTables.AllStored (tables : EpisodeTables) : Prop :=
  ∀ blob ∈ tables.blobs, blob.extractedText.isSome

/-- The mark that makes the task skip. -/
def EpisodeTables.Marked (tables : EpisodeTables) : Prop :=
  tables.episode.enrichmentStatus &&& enrichmentBlobText ≠ 0#32

instance (tables : EpisodeTables) : Decidable tables.AllStored :=
  inferInstanceAs (Decidable (∀ _ ∈ tables.blobs, _))

instance (tables : EpisodeTables) : Decidable tables.Marked :=
  inferInstanceAs (Decidable (_ ≠ _))

/-- An episode as it is ingested, before any of its jobs. -/
structure EpisodeTables.Uploaded (tables : EpisodeTables) : Prop where
  live : tables.episode.isDeleted = false
  unmarked : ¬ tables.Marked
  empty : ∀ blob ∈ tables.blobs, blob.extractedText = none
  distinct : (tables.blobs.map BlobRow.id).Nodup

/-- The attachment has a text that redaction does not leave empty. -/
def BlobAttempt.Yields (libraries : Libraries) (attempt : BlobAttempt) : Prop :=
  obtainText libraries attempt.world attempt.job ≠ .ok none

/-- Some attempt of the attachment's job returned and had found the project
open. -/
def ReturnedOpen (libraries : Libraries) (tables : EpisodeTables)
    (attempts : List BlobAttempt) (blobId : Uuid) : Prop :=
  ∃ before attempt after result, attempts = before ++ attempt :: after ∧
    attempt.job.blobId = blobId ∧ attempt.world.archived = false ∧
    extractBlobText libraries attempt.world attempt.job
      (runAttempts libraries tables before) = .ok result

section Blobs

variable {blobs : List BlobRow} {blobId : Uuid} {text : Text}

theorem updateExtractedText_stored (empty : ∀ blob ∈ blobs, blob.extractedText = none) :
    (∀ blob ∈ updateExtractedText blobs blobId text, blob.extractedText.isSome) ↔
      ∀ blob ∈ blobs, blob.id = blobId := by
  rw [updateExtractedText, List.forall_mem_map]
  apply forall_congr'
  intro blob
  apply imp_congr_right
  intro member
  split
  · rename_i same
    exact iff_of_true rfl same
  · rename_i other
    rw [empty blob member]
    exact iff_of_false Bool.false_ne_true other

theorem eq_of_length_le_one (few : blobs.length ≤ 1) {first second : BlobRow}
    (one : first ∈ blobs) (other : second ∈ blobs) : first = second := by
  match blobs, few with
  | [blob], _ => rw [List.mem_singleton.mp one, List.mem_singleton.mp other]

/-- Rows of distinct ids that all have one id. -/
theorem length_le_one (distinct : (blobs.map BlobRow.id).Nodup)
    (one : ∀ blob ∈ blobs, blob.id = blobId) : blobs.length ≤ 1 := by
  have same : blobs.map BlobRow.id = List.replicate blobs.length blobId := by
    rw [List.eq_replicate_iff]
    refine ⟨List.length_map _, ?_⟩
    intro id member
    obtain ⟨blob, stored, rfl⟩ := List.mem_map.mp member
    exact one blob stored
  rw [same, List.nodup_replicate] at distinct
  exact distinct

end Blobs

section Attempts

variable {libraries : Libraries} {tables : EpisodeTables} {attempt : BlobAttempt}

theorem storeText_marked (job : BlobJob) (text : Text) (loaded : EnrichmentStatus) :
    (tables.storeText job text loaded).Marked := by
  intro cleared
  have covered : Covers (loaded ||| enrichmentBlobText) enrichmentBlobText :=
    Covers.self.or_right
  have zero : enrichmentBlobText = 0#32 := covered.symm.trans cleared
  exact absurd zero (by decide)

/-- Once the episode is marked, nothing more happens. -/
theorem loadStatus_of_marked (marked : tables.Marked) (job : BlobJob) (archived : Bool) :
    loadStatus job archived tables = none := by
  have present : tables.episode.enrichmentStatus &&& enrichmentBlobText ≠ 0#32 := marked
  simp only [loadStatus, if_pos present, ite_self]

theorem loadStatus_of_unmarked (live : tables.episode.isDeleted = false)
    (unmarked : ¬ tables.Marked) {job : BlobJob}
    (known : ∃ blob ∈ tables.blobs, blob.id = job.blobId) :
    loadStatus job false tables = some tables.episode.enrichmentStatus := by
  have found : ¬ (tables.blobs.all fun blob => blob.id != job.blobId) = true := by
    obtain ⟨blob, member, same⟩ := known
    intro absent
    have different := List.all_eq_true.mp absent blob member
    rw [bne_iff_ne] at different
    exact different same
  have absent : ¬ tables.episode.enrichmentStatus &&& enrichmentBlobText ≠ 0#32 := unmarked
  rw [loadStatus, if_neg found, if_neg (by simp [live]), if_neg absent]
  rfl

theorem loadStatus_some {job : BlobJob} {archived : Bool} {loaded : EnrichmentStatus}
    (load : loadStatus job archived tables = some loaded) :
    loaded = tables.episode.enrichmentStatus ∧ archived = false ∧
      ∃ blob ∈ tables.blobs, blob.id = job.blobId := by
  unfold loadStatus at load
  split at load
  · cases load
  · rename_i known
    split at load
    · cases load
    · split at load
      · cases load
      · split at load
        · cases load
        · rename_i notArchived
          refine ⟨(Option.some.inj load).symm, by simpa using notArchived, ?_⟩
          simpa using known

theorem extractBlobText_cases {result : EpisodeTables}
    (returned : extractBlobText libraries attempt.world attempt.job tables = .ok result) :
    loadStatus attempt.job attempt.world.archived tables = none ∧ result = tables ∨
      obtainText libraries attempt.world attempt.job = .ok none ∧ result = tables ∨
      ∃ loaded text, loadStatus attempt.job attempt.world.archived tables = some loaded ∧
        obtainText libraries attempt.world attempt.job = .ok (some text) ∧
        result = tables.storeText attempt.job text loaded := by
  unfold extractBlobText at returned
  split at returned
  · rename_i skipped
    cases returned
    exact Or.inl ⟨skipped, rfl⟩
  · rename_i loaded load
    obtain ⟨obtained, found, rest⟩ := bind_eq_ok.mp returned
    cases obtained with
    | none =>
        cases rest
        exact Or.inr (Or.inl ⟨found, rfl⟩)
    | some text =>
        obtain ⟨_, _, stored⟩ := bind_eq_ok.mp rest
        cases stored
        exact Or.inr (Or.inr ⟨loaded, text, load, found, rfl⟩)

theorem runAttempt_of_marked (marked : tables.Marked) :
    runAttempt libraries tables attempt = tables := by
  rw [runAttempt, extractBlobText, loadStatus_of_marked marked]

theorem runAttempts_of_marked (marked : tables.Marked) (attempts : List BlobAttempt) :
    runAttempts libraries tables attempts = tables := by
  induction attempts with
  | nil => rfl
  | cons attempt attempts induction =>
      rw [runAttempts, List.foldl_cons, runAttempt_of_marked marked]
      exact induction

theorem runAttempts_append (first second : List BlobAttempt) :
    runAttempts libraries tables (first ++ second) =
      runAttempts libraries (runAttempts libraries tables first) second :=
  List.foldl_append

theorem runAttempts_cons (attempts : List BlobAttempt) :
    runAttempts libraries tables (attempt :: attempts) =
      runAttempts libraries (runAttempt libraries tables attempt) attempts :=
  rfl

end Attempts

section Runs

variable {libraries : Libraries} {tables : EpisodeTables}

/-- Nothing has happened, or the job of one attachment has stored its text. -/
def Progress (libraries : Libraries) (tables : EpisodeTables) (attempts : List BlobAttempt) :
    Prop :=
  runAttempts libraries tables attempts = tables ∨
    ∃ job text, (∃ blob ∈ tables.blobs, blob.id = job.blobId) ∧
      ReturnedOpen libraries tables attempts job.blobId ∧
      runAttempts libraries tables attempts =
        tables.storeText job text tables.episode.enrichmentStatus

theorem ReturnedOpen.append {attempts : List BlobAttempt} {blobId : Uuid}
    (returned : ReturnedOpen libraries tables attempts blobId) (more : List BlobAttempt) :
    ReturnedOpen libraries tables (attempts ++ more) blobId := by
  obtain ⟨before, attempt, after, result, rfl, same, opened, ran⟩ := returned
  exact ⟨before, attempt, after ++ more, result, by simp, same, opened, ran⟩

theorem progress (libraries : Libraries) (tables : EpisodeTables) (attempts : List BlobAttempt) :
    Progress libraries tables attempts := by
  induction attempts using List.reverseRecOn with
  | nil => exact Or.inl rfl
  | append_singleton attempts attempt induction =>
      have last : runAttempts libraries tables (attempts ++ [attempt]) =
          runAttempt libraries (runAttempts libraries tables attempts) attempt :=
        runAttempts_append attempts [attempt]
      rcases induction with untouched | ⟨job, text, known, returned, stored⟩
      · rw [untouched] at last
        cases ran : extractBlobText libraries attempt.world attempt.job tables with
        | error error =>
            rw [runAttempt, ran] at last
            exact Or.inl last
        | ok result =>
            rw [runAttempt, ran] at last
            rcases extractBlobText_cases ran with ⟨_, rfl⟩ | ⟨_, rfl⟩ |
              ⟨loaded, text, load, _, rfl⟩
            · exact Or.inl last
            · exact Or.inl last
            · obtain ⟨rfl, opened, known⟩ := loadStatus_some load
              refine Or.inr ⟨attempt.job, text, known, ?_, last⟩
              exact ⟨attempts, attempt, [], _, rfl, rfl, opened, by rw [untouched, ran]⟩
      · have marked : (runAttempts libraries tables attempts).Marked := by
          rw [stored]
          exact storeText_marked job text _
        rw [runAttempt_of_marked marked, stored] at last
        exact Or.inr ⟨job, text, known, returned.append [attempt], last⟩

theorem marked_of_returnedOpen (uploaded : tables.Uploaded) {attempts : List BlobAttempt}
    (yields : ∀ attempt ∈ attempts, attempt.Yields libraries) {blobId : Uuid}
    (known : ∃ blob ∈ tables.blobs, blob.id = blobId)
    (returned : ReturnedOpen libraries tables attempts blobId) :
    (runAttempts libraries tables attempts).Marked := by
  obtain ⟨before, attempt, after, result, rfl, rfl, opened, ran⟩ := returned
  have marked : (runAttempt libraries (runAttempts libraries tables before) attempt).Marked := by
    rcases progress libraries tables before with
      untouched | ⟨job, text, _, _, stored⟩
    · rw [runAttempt, ran]
      rw [untouched] at ran
      rcases extractBlobText_cases ran with ⟨skipped, _⟩ | ⟨nothing, _⟩ |
        ⟨loaded, text, _, _, rfl⟩
      · rw [opened, loadStatus_of_unmarked uploaded.live uploaded.unmarked known] at skipped
        cases skipped
      · exact absurd nothing (yields attempt (by simp))
      · exact storeText_marked _ _ _
    · have marked : (runAttempts libraries tables before).Marked := by
        rw [stored]
        exact storeText_marked job text _
      rw [runAttempt_of_marked marked]
      exact marked
  rw [runAttempts_append, runAttempts_cons, runAttempts_of_marked marked]
  exact marked

theorem allStored_of_marked (uploaded : tables.Uploaded) (few : tables.blobs.length ≤ 1)
    {attempts : List BlobAttempt} (marked : (runAttempts libraries tables attempts).Marked) :
    (runAttempts libraries tables attempts).AllStored := by
  rcases progress libraries tables attempts with
    untouched | ⟨job, text, ⟨blob, member, same⟩, _, stored⟩
  · rw [untouched] at marked
    exact absurd marked uploaded.unmarked
  · rw [stored]
    apply (updateExtractedText_stored uploaded.empty).mpr
    intro other stored
    have equal : other = blob := eq_of_length_le_one few stored member
    rw [equal, same]

/-- All attachments get their text, and the mark is never ahead of them, exactly
where there is at most one attachment and its job has returned on an open
project. -/
theorem attachments_stored_iff (libraries : Libraries) {tables : EpisodeTables}
    (uploaded : tables.Uploaded) {attempts : List BlobAttempt}
    (yields : ∀ attempt ∈ attempts, attempt.Yields libraries) :
    ((runAttempts libraries tables attempts).AllStored ∧
        ∀ before after, attempts = before ++ after →
          (runAttempts libraries tables before).Marked →
          (runAttempts libraries tables before).AllStored) ↔
      tables.blobs.length ≤ 1 ∧
        ∀ blob ∈ tables.blobs, ReturnedOpen libraries tables attempts blob.id := by
  constructor
  · rintro ⟨all, _⟩
    rcases progress libraries tables attempts with
      untouched | ⟨job, text, _, returned, stored⟩
    · rw [untouched] at all
      have none : tables.blobs = [] := by
        apply List.eq_nil_iff_forall_not_mem.mpr
        intro blob member
        have present := all blob member
        rw [uploaded.empty blob member] at present
        cases present
      rw [none]
      exact ⟨Nat.zero_le 1, fun blob member => nomatch member⟩
    · rw [stored] at all
      have one := (updateExtractedText_stored uploaded.empty).mp all
      refine ⟨length_le_one uploaded.distinct one, ?_⟩
      intro blob member
      rw [one blob member]
      exact returned
  · rintro ⟨few, returned⟩
    refine ⟨?_, fun before _ _ => allStored_of_marked uploaded few⟩
    by_cases none : tables.blobs = []
    · have none : (runAttempts libraries tables attempts).blobs = [] := by
        rcases progress libraries tables attempts with
          untouched | ⟨job, text, ⟨blob, member, _⟩, _⟩
        · rw [untouched, none]
        · rw [none] at member
          cases member
      intro blob member
      rw [none] at member
      cases member
    · obtain ⟨blob, member⟩ := List.exists_mem_of_ne_nil _ none
      apply allStored_of_marked uploaded few
      exact marked_of_returnedOpen uploaded yields ⟨blob, member, rfl⟩ (returned blob member)

end Runs

/-- Two text files, whose jobs run one after the other. -/
def twoFiles : EpisodeTables :=
  { episode := { enrichmentStatus := 0#32, isDeleted := false }
    blobs := [{ id := 7, extractedText := none }, { id := 8, extractedText := none }] }

def plainAttempt (blobId : Uuid) : BlobAttempt :=
  { job := plainJob blobId
    world := plainWorld }

theorem freshTables_uploaded : freshTables.Uploaded :=
  ⟨rfl, by decide, by simp [freshTables], by simp [freshTables]⟩

theorem plainAttempt_yields (blobId : Uuid) : (plainAttempt blobId).Yields plainLibraries := by
  intro nothing
  have obtained : (obtainText plainLibraries plainWorld (plainJob 0)).toOption =
      some (some "hi".toList) := by decide +kernel
  have same : obtainText plainLibraries plainWorld (plainJob 0) = .ok none := nothing
  rw [same] at obtained
  cases obtained

theorem attachments_stored_iff_one :
    (runAttempts plainLibraries freshTables [plainAttempt 7]).AllStored := by
  have yields : ∀ attempt ∈ [plainAttempt 7], attempt.Yields plainLibraries := by
    intro attempt member
    rw [List.mem_singleton.mp member]
    exact plainAttempt_yields 7
  apply ((attachments_stored_iff plainLibraries freshTables_uploaded yields).mpr ?_).1
  refine ⟨by decide, ?_⟩
  intro blob member
  rw [List.mem_singleton.mp member]
  have returned : ∃ result, extractBlobText plainLibraries plainWorld (plainJob 7)
      freshTables = .ok result := by
    obtain ⟨result, ran, _⟩ := exists_ok
      (show (extractBlobText plainLibraries plainWorld (plainJob 7)
        freshTables).toOption.any (fun _ => true) = true by decide +kernel)
    exact ⟨result, ran⟩
  obtain ⟨result, ran⟩ := returned
  exact ⟨[], plainAttempt 7, [], result, rfl, rfl, rfl, ran⟩

/-- Both jobs return, and the second file has no text. -/
theorem second_attachment_skipped :
    twoFiles.Uploaded ∧
      (∀ attempt ∈ [plainAttempt 7, plainAttempt 8], attempt.Yields plainLibraries) ∧
      (extractBlobText plainLibraries plainWorld (plainJob 7) twoFiles).toOption.isSome ∧
      (extractBlobText plainLibraries plainWorld (plainJob 8)
        (runAttempts plainLibraries twoFiles [plainAttempt 7])).toOption.isSome ∧
      ¬ (runAttempts plainLibraries twoFiles [plainAttempt 7, plainAttempt 8]).AllStored ∧
      (runAttempts plainLibraries twoFiles [plainAttempt 7, plainAttempt 8]).Marked := by
  refine ⟨⟨rfl, by decide, by simp [twoFiles], by simp [twoFiles]⟩, ?_, ?_, ?_, ?_, ?_⟩
  · simp [plainAttempt_yields]
  · decide +kernel
  · decide +kernel
  · decide +kernel
  · decide +kernel

end OpenZync.Workers
