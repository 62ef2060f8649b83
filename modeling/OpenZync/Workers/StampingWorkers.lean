import OpenZync.Library.Transactions
import OpenZync.Workers.ExtractBlobText

/-!
# Workers that stamp one episode

Five tasks stamp bits on the status of an episode, each in a transaction of its
own and any number of them at once.  Three join their bit in SQL, one holds the
lock of the row from its first read, and the blob text task writes the value it
has loaded.  An attempt that raises anywhere is a transaction that is aborted,
and a retry is another transaction.
-/

namespace OpenZync.Workers

open OpenZync.Library

def enrichmentEntityLinks : EnrichmentStatus := 1#32 <<< 3

def enrichmentObservations : EnrichmentStatus := 1#32 <<< 6

/-- One attempt of a task, with what it meets outside the two tables. -/
inductive Task where
  /-- The archived guard runs before the embedding and once more under the lock. -/
  | embedEpisode (archived archivedSince : Bool)
  | enrichEpisode (config : OrgConfig) (world : World)
  | linkEntitiesToEpisode
  | computeObservations (graphEnabled archived : Bool)
  | extractBlobText (world : BlobWorld) (job : BlobJob)

inductive StampPhase where
  | start
  /-- The text is embedded and no lock is held. -/
  | embedded
  /-- `embed_episode` has the row locked. -/
  | rechecking
  /-- `enrich_episode` has the row locked. -/
  | enriching
  /-- All work is done but the stamp. -/
  | working (bits : EnrichmentStatus)
  | stamping (bits : EnrichmentStatus)
  /-- The blob text task has loaded the status. -/
  | loaded (status : EnrichmentStatus)
  | storing (status : EnrichmentStatus) (text : Text)
  | flushing (status : EnrichmentStatus) (text : Text)
  | ended
deriving DecidableEq

/-- The rows that are written. -/
inductive StampedRow where
  | episode
  | blob (id : Uuid)
deriving DecidableEq

abbrev StampMove := Move EpisodeTables StampPhase Unit StampedRow

/-- `apply_enrichment_bits` and the commit after it. -/
def EpisodeTables.applyEnrichmentBits (tables : EpisodeTables) (bits : EnrichmentStatus) :
    EpisodeTables :=
  { tables with episode := tables.episode.applyEnrichmentBits bits }

def embedEpisode (archived archivedSince : Bool) (tables : EpisodeTables) :
    StampPhase → StampMove
  | .start =>
      if tables.episode.isDeleted then .abort
      else if tables.episode.enrichmentStatus &&& enrichmentEmbedding ≠ 0#32 then .abort
      else if archived then .abort
      else .go .embedded
  | .embedded => .lockRow .episode .rechecking
  | .rechecking =>
      if tables.episode.isDeleted then .abort
      else if tables.episode.enrichmentStatus &&& enrichmentEmbedding ≠ 0#32 then .abort
      else if archivedSince then .abort
      else .commit (tables.applyEnrichmentBits enrichmentEmbedding)
  | _ => .stay

/-- The status that decides what to do is read under the lock, so the row is
still the same when the task commits. -/
def enrichEpisodeSteps (config : OrgConfig) (world : World) (tables : EpisodeTables) :
    StampPhase → StampMove
  | .start => .lockRow .episode .enriching
  | .enriching =>
      let run := enrichAttempt config world tables.episode
      if run.committed then .commit { tables with episode := run.row } else .abort
  | _ => .stay

/-- The update waits for the row and joins the bits with what is there then. -/
def stampBits (tables : EpisodeTables) : StampPhase → StampMove
  | .working bits => .lockRow .episode (.stamping bits)
  | .stamping bits => .commit (tables.applyEnrichmentBits bits)
  | _ => .stay

def linkEntitiesToEpisode (tables : EpisodeTables) : StampPhase → StampMove
  | .start => .go (.working enrichmentEntityLinks)
  | phase => stampBits tables phase

def computeObservations (graphEnabled archived : Bool) (tables : EpisodeTables) :
    StampPhase → StampMove
  | .start =>
      if graphEnabled = false then .abort
      else if tables.episode.isDeleted then .abort
      else if tables.episode.enrichmentStatus &&& enrichmentObservations ≠ 0#32 then .abort
      else if archived then .abort
      else .go (.working enrichmentObservations)
  | phase => stampBits tables phase

/-- The steps of `extract_blob_text`. -/
def extractBlobTextSteps (libraries : Libraries) (world : BlobWorld) (job : BlobJob)
    (tables : EpisodeTables) : StampPhase → StampMove
  | .start =>
      match loadStatus job world.archived tables with
      | none => .abort
      | some status => .go (.loaded status)
  | .loaded status =>
      match obtainText libraries world job with
      | .ok (some text) => .lockRow (.blob job.blobId) (.storing status text)
      | _ => .abort
  | .storing status text => .lockRow .episode (.flushing status text)
  | .flushing status text => .commit (tables.storeText job text status)
  | _ => .stay

def taskProgram (libraries : Libraries) (task : Task) (tables : EpisodeTables)
    (phase : StampPhase) : StampMove :=
  match task with
  | .embedEpisode archived archivedSince => embedEpisode archived archivedSince tables phase
  | .enrichEpisode config world => enrichEpisodeSteps config world tables phase
  | .linkEntitiesToEpisode => linkEntitiesToEpisode tables phase
  | .computeObservations graphEnabled archived =>
      computeObservations graphEnabled archived tables phase
  | .extractBlobText world job => extractBlobTextSteps libraries world job tables phase

section Runs

variable {τ : Type} [DecidableEq τ] (libraries : Libraries) (task : τ → Task)

abbrev StampDatabase (τ : Type) := Database EpisodeTables StampPhase Unit StampedRow τ

def performStamps (database : StampDatabase τ) (action : Action τ) : StampDatabase τ :=
  database.perform (fun transaction => taskProgram libraries (task transaction)) .ended action

/-- The committed status after some actions, from tables that no task has
touched. -/
def statusAfter (tables : EpisodeTables) (actions : List (Action τ)) : EnrichmentStatus :=
  (actions.foldl (performStamps libraries task)
    (Database.start tables StampPhase.start)).committed.episode.enrichmentStatus

end Runs

end OpenZync.Workers
