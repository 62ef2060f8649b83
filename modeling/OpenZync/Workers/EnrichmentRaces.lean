import OpenZync.Workers.EnrichmentBits
import OpenZync.Workers.StampingWorkers

/-!
# Bits that are lost

Four of the tasks only ever add bits.  The fifth puts back the value it has
loaded, so a run keeps every committed bit exactly when that value still has
all of them whenever it is flushed.
-/

namespace OpenZync.Workers

open OpenZync.Library

/-- The stored status has no bit that the loaded value does not have. -/
def StillCurrent (loaded : EnrichmentStatus) (tables : EpisodeTables) : Prop :=
  Covers (loaded ||| enrichmentBlobText) tables.episode.enrichmentStatus

instance (loaded : EnrichmentStatus) (tables : EpisodeTables) :
    Decidable (StillCurrent loaded tables) :=
  inferInstanceAs (Decidable (Covers _ _))

/-- A blob text task that is about to write flushes a value that is current. -/
def CurrentAtFlush (tables : EpisodeTables) : Task → StampPhase → Prop
  | .extractBlobText _ _, .flushing status _ => StillCurrent status tables
  | _, _ => True

instance (tables : EpisodeTables) (task : Task) (phase : StampPhase) :
    Decidable (CurrentAtFlush tables task phase) := by
  unfold CurrentAtFlush
  split <;> infer_instance

/-- The same for the transaction an action schedules. -/
def FlushesCurrent {τ : Type} (task : τ → Task) (database : StampDatabase τ) :
    Action τ → Prop
  | .advance transaction =>
      CurrentAtFlush database.committed (task transaction) (database.phase transaction)
  | .abort _ => True

instance {τ : Type} (task : τ → Task) (database : StampDatabase τ) (action : Action τ) :
    Decidable (FlushesCurrent task database action) := by
  unfold FlushesCurrent
  split <;> infer_instance

/-- The first tables have every bit of the second ones. -/
def KeepsBits (after before : EpisodeTables) : Prop :=
  Covers after.episode.enrichmentStatus before.episode.enrichmentStatus

section Moves

variable {tables : EpisodeTables} {phase : StampPhase}

theorem KeepsBits.refl (tables : EpisodeTables) : KeepsBits tables tables :=
  Covers.self

theorem keepsBits_applyEnrichmentBits (bits : EnrichmentStatus) :
    KeepsBits (tables.applyEnrichmentBits bits) tables := by
  unfold KeepsBits EpisodeTables.applyEnrichmentBits EpisodeRow.applyEnrichmentBits
  split
  · exact Covers.self
  · exact Covers.self.or_left

theorem embedEpisode_keepsBits (archived archivedSince : Bool) :
    KeepsBits ((embedEpisode archived archivedSince tables phase).result tables) tables := by
  cases phase with
  | rechecking =>
      rw [embedEpisode]
      split
      · exact .refl tables
      · split
        · exact .refl tables
        · split
          · exact .refl tables
          · exact keepsBits_applyEnrichmentBits _
  | start =>
      rw [embedEpisode]
      repeat' split
      all_goals exact .refl tables
  | _ => exact .refl tables

theorem enrichEpisodeSteps_keepsBits (config : OrgConfig) (world : World) :
    KeepsBits ((enrichEpisodeSteps config world tables phase).result tables) tables := by
  cases phase with
  | enriching =>
      simp only [enrichEpisodeSteps]
      split
      · exact enrichAttempt_reports.covers_entry
      · exact .refl tables
  | _ => exact .refl tables

theorem stampBits_keepsBits : KeepsBits ((stampBits tables phase).result tables) tables := by
  cases phase with
  | stamping bits => exact keepsBits_applyEnrichmentBits bits
  | _ => exact .refl tables

theorem linkEntitiesToEpisode_keepsBits :
    KeepsBits ((linkEntitiesToEpisode tables phase).result tables) tables := by
  unfold linkEntitiesToEpisode
  split
  · exact .refl tables
  · exact stampBits_keepsBits

theorem computeObservations_keepsBits (graphEnabled archived : Bool) :
    KeepsBits ((computeObservations graphEnabled archived tables phase).result tables)
      tables := by
  unfold computeObservations
  split
  · repeat' split
    all_goals exact .refl tables
  · exact stampBits_keepsBits

theorem extractBlobTextSteps_keepsBits (libraries : Libraries) (world : BlobWorld)
    (job : BlobJob) :
    KeepsBits ((extractBlobTextSteps libraries world job tables phase).result tables)
        tables ↔ CurrentAtFlush tables (.extractBlobText world job) phase := by
  cases phase with
  | flushing status text => exact Iff.rfl
  | start =>
      rw [extractBlobTextSteps]
      split
      · exact iff_of_true (.refl tables) trivial
      · exact iff_of_true (.refl tables) trivial
  | loaded status =>
      rw [extractBlobTextSteps]
      split
      · exact iff_of_true (.refl tables) trivial
      · exact iff_of_true (.refl tables) trivial
  | _ => exact iff_of_true (.refl tables) trivial

theorem taskProgram_keepsBits (libraries : Libraries) (task : Task) :
    KeepsBits ((taskProgram libraries task tables phase).result tables) tables ↔
      CurrentAtFlush tables task phase := by
  cases task with
  | embedEpisode archived archivedSince =>
      exact iff_of_true (embedEpisode_keepsBits archived archivedSince) trivial
  | enrichEpisode config world =>
      exact iff_of_true (enrichEpisodeSteps_keepsBits config world) trivial
  | linkEntitiesToEpisode => exact iff_of_true linkEntitiesToEpisode_keepsBits trivial
  | computeObservations graphEnabled archived =>
      exact iff_of_true (computeObservations_keepsBits graphEnabled archived) trivial
  | extractBlobText world job => exact extractBlobTextSteps_keepsBits libraries world job

end Moves

section Runs

variable {τ : Type} [DecidableEq τ] (libraries : Libraries) (task : τ → Task)

theorem performStamps_keepsBits (database : StampDatabase τ) (action : Action τ) :
    FlushesCurrent task database action ↔
      KeepsBits (performStamps libraries task database action).committed
        database.committed := by
  cases action with
  | abort transaction => exact iff_of_true trivial (.refl database.committed)
  | advance transaction =>
      rw [performStamps, Database.perform, Database.advance_committed]
      exact (taskProgram_keepsBits libraries (task transaction)).symm

/-- No committed bit is ever lost exactly when every value that is flushed is
still current. -/
theorem bits_kept_iff_flushed_current (tables : EpisodeTables) (actions : List (Action τ)) :
    (∀ before middle after, actions = before ++ middle ++ after →
      Covers (statusAfter libraries task tables (before ++ middle))
        (statusAfter libraries task tables before)) ↔
      AllowedAlong (performStamps libraries task) (FlushesCurrent task)
        (Database.start tables StampPhase.start) actions := by
  rw [AllowedAlong.congr (performStamps_keepsBits libraries task)]
  exact (AllowedAlong.iff_ordered
    (fun after before : StampDatabase τ => KeepsBits after.committed before.committed)
    (fun database => .refl database.committed) Covers.trans _ actions).symm

end Runs

/-- Libraries of a text file whose bytes are its characters. -/
def plainLibraries : Libraries :=
  { decodeUtf8 := List.map fun byte => Char.ofNat byte.toNat
    pdfPages := fun _ => .error .importError
    docxParagraphs := fun _ => .error .importError
    ocr := fun _ => .error .importError
    magic := fun _ => .error .importError
    processMessage := fun _ text => .ok text }

def plainJob (blobId : Uuid) : BlobJob :=
  { blobId := blobId
    storageKey := "note.txt".toList
    mimeType := "text/plain".toList }

/-- Nothing fails, and the file holds two letters. -/
def plainWorld : BlobWorld :=
  { archived := false
    getOrgStorageConfig := .ok ()
    download := fun _ => .ok [104, 105]
    orgPii := some
      { piiMode := none
        piiSensitivity := none
        piiEnabledTypes := none
        piiMinConfidence := none }
    persist := .ok () }

/-- An episode with one attachment is embedded while the text is extracted. -/
def racingTask : Fin 2 → Task
  | 0 => .extractBlobText plainWorld (plainJob 7)
  | 1 => .embedEpisode false false

def freshTables : EpisodeTables :=
  { episode := { enrichmentStatus := 0#32, isDeleted := false }
    blobs := [{ id := 7, extractedText := none }] }

theorem embedding_bit_lost :
    ∃ before middle : List (Action (Fin 2)),
      Covers (statusAfter plainLibraries racingTask freshTables before) enrichmentEmbedding ∧
      ¬ Covers (statusAfter plainLibraries racingTask freshTables (before ++ middle))
        enrichmentEmbedding := by
  refine ⟨[.advance 0, .advance 1, .advance 1, .advance 1],
    [.advance 0, .advance 0, .advance 0], ?_, ?_⟩
  · decide +kernel
  · decide +kernel

end OpenZync.Workers
