import Mathlib.Data.List.Basic
import OpenZync.Text

/-!
# The tables of ingestion

The rows of `episodes` and the queries of the repository that assign sequence
numbers, insert a batch and wipe a project.

The rows of `ingest_dedup` and the statements of its repository.  All
statements of a transaction see the same `now`, the instant the transaction
began, which is also what `created_at` defaults to.
-/

namespace OpenZync.Memory

/-- A message as `ingest` hands it to the repository. -/
structure EpisodeMessage where
  role : Text
  content : Text
  /-- The rendered JSON object. -/
  metadata : Text
  createdAt : Option Time
deriving DecidableEq

structure Episode where
  id : Uuid
  organizationId : Uuid
  projectId : Uuid
  sessionId : Uuid
  userId : Uuid
  role : Text
  content : Text
  metadata : Text
  createdAt : Time
  sequenceNumber : Int
  isDeleted : Bool
deriving DecidableEq

/-- The live episodes of a session. -/
def Episode.LiveIn (sessionId : Uuid) (episode : Episode) : Prop :=
  episode.sessionId = sessionId ∧ episode.isDeleted = false

instance (sessionId : Uuid) (episode : Episode) : Decidable (episode.LiveIn sessionId) :=
  inferInstanceAs (Decidable (_ ∧ _))

/-- The sequence numbers of the live episodes of a session. -/
def liveNumbers (episodes : List Episode) (sessionId : Uuid) : List Int :=
  (episodes.filter fun episode => episode.LiveIn sessionId).map Episode.sequenceNumber

/-- `get_next_sequence`: `coalesce(max(sequence_number), -1) + 1` over the live
episodes. -/
def nextSequence (episodes : List Episode) (sessionId : Uuid) : Int :=
  (liveNumbers episodes sessionId).max?.getD (-1) + 1

/-- The arguments of one ingest into a session, with the identifiers and the
instant that the insert draws. -/
structure EpisodeBatch where
  organizationId : Uuid
  projectId : Uuid
  sessionId : Uuid
  userId : Uuid
  messages : List EpisodeMessage
  ids : Nat → Uuid
  now : Time

/-- `batch_create`: one row for each message, numbered from `startSeq` on. -/
def EpisodeBatch.rows (batch : EpisodeBatch) (startSeq : Int) : List Episode :=
  batch.messages.mapIdx fun index message =>
    { id := batch.ids index
      organizationId := batch.organizationId
      projectId := batch.projectId
      sessionId := batch.sessionId
      userId := batch.userId
      role := message.role
      content := message.content
      metadata := message.metadata
      createdAt := message.createdAt.getD batch.now
      sequenceNumber := startSeq + index
      isDeleted := false }

/-- The partial unique index `uq_episodes_session_sequence` rejects a row whose
number a live episode of the session has. -/
def collides (episodes rows : List Episode) (sessionId : Uuid) : Bool :=
  rows.any fun row => (liveNumbers episodes sessionId).contains row.sequenceNumber

theorem mem_liveNumbers {episodes : List Episode} {sessionId : Uuid} {number : Int} :
    number ∈ liveNumbers episodes sessionId ↔
      ∃ episode ∈ episodes, episode.LiveIn sessionId ∧ episode.sequenceNumber = number := by
  simp [liveNumbers, and_assoc]

theorem liveNumbers_append (first second : List Episode) (sessionId : Uuid) :
    liveNumbers (first ++ second) sessionId =
      liveNumbers first sessionId ++ liveNumbers second sessionId := by
  simp [liveNumbers]

theorem lt_nextSequence {episodes : List Episode} {sessionId : Uuid} {number : Int}
    (member : number ∈ liveNumbers episodes sessionId) :
    number < nextSequence episodes sessionId := by
  rw [nextSequence]
  cases greatest : (liveNumbers episodes sessionId).max? with
  | none => simp [List.max?_eq_none_iff.mp greatest] at member
  | some top =>
      have bound := (List.max?_eq_some_iff.mp greatest).2 number member
      simp only [Option.getD_some]
      omega

theorem EpisodeBatch.rows_numbers (batch : EpisodeBatch) (startSeq : Int) :
    (batch.rows startSeq).map Episode.sequenceNumber =
      (List.range batch.messages.length).map fun index : Nat => startSeq + (index : Int) := by
  apply List.ext_getElem
  · simp [rows]
  · intro index inRows inRange
    simp [rows]

theorem EpisodeBatch.rows_texts (batch : EpisodeBatch) (startSeq : Int) :
    (batch.rows startSeq).map (fun row => (row.role, row.content, row.metadata)) =
      batch.messages.map fun message => (message.role, message.content, message.metadata) := by
  apply List.ext_getElem
  · simp [rows]
  · intro index inRows inMessages
    simp [rows]

theorem EpisodeBatch.mem_rows {batch : EpisodeBatch} {startSeq : Int} {row : Episode}
    (member : row ∈ batch.rows startSeq) :
    row.LiveIn batch.sessionId ∧ startSeq ≤ row.sequenceNumber := by
  rw [rows, List.mem_mapIdx] at member
  obtain ⟨index, inside, rfl⟩ := member
  refine ⟨⟨rfl, rfl⟩, ?_⟩
  simp only
  omega

theorem EpisodeBatch.rows_numbers_nodup (batch : EpisodeBatch) (startSeq : Int) :
    ((batch.rows startSeq).map Episode.sequenceNumber).Nodup := by
  rw [rows_numbers]
  apply List.Nodup.map _ List.nodup_range
  intro first second same
  have shifted : startSeq + (first : Int) = startSeq + (second : Int) := same
  omega

/-- `_DEDUP_TTL`, 48 hours. -/
def dedupTtl : Time := 48 * 60 * 60 * 1000000

/-- The columns of the unique index. -/
structure DedupKey where
  projectId : Uuid
  sessionId : Uuid
  contentHash : Text
deriving DecidableEq

structure DedupRow where
  jobId : Uuid
  key : DedupKey
  createdAt : Time
deriving DecidableEq

abbrev DedupTable := List DedupRow

/-- The `DELETE` of `insert_or_none`. -/
def deleteExpired (table : DedupTable) (key : DedupKey) (now : Time) : DedupTable :=
  table.filter fun row => !(decide (row.key = key) && decide (row.createdAt < now - dedupTtl))

/-- `insert_or_none`: the table it leaves and whether the claim was won. -/
def insertOrNone (table : DedupTable) (key : DedupKey) (jobId : Uuid) (now : Time) :
    DedupTable × Bool :=
  let remaining := deleteExpired table key now
  if remaining.any fun row => decide (row.key = key) then (remaining, false)
  else (remaining ++ [{ jobId := jobId, key := key, createdAt := now }], true)

def getJobId (table : DedupTable) (key : DedupKey) (now : Time) : Option Uuid :=
  (table.find? fun row =>
    decide (row.key = key) && decide (now - dedupTtl < row.createdAt)).map DedupRow.jobId

/-- The unique index on project, session and content. -/
def UniqueKeys (table : DedupTable) : Prop :=
  (table.map DedupRow.key).Nodup

theorem insertOrNone_lost_iff {table : DedupTable} {key : DedupKey} {jobId : Uuid} {now : Time} :
    (insertOrNone table key jobId now).2 = false ↔
      ∃ row ∈ table, row.key = key ∧ now - dedupTtl ≤ row.createdAt := by
  rw [insertOrNone]
  split
  · rename_i found
    obtain ⟨row, member, same⟩ := List.any_eq_true.mp found
    simp only [deleteExpired, List.mem_filter, Bool.not_eq_true', Bool.and_eq_false_iff,
      decide_eq_false_iff_not, decide_eq_true_eq] at member same
    refine ⟨fun _ => ⟨row, member.1, same, ?_⟩, fun _ => rfl⟩
    rcases member.2 with different | kept
    · exact absurd same different
    · exact not_lt.mp kept
  · rename_i missing
    refine ⟨fun lost => (by cases lost), ?_⟩
    rintro ⟨row, member, same, kept⟩
    apply absurd _ missing
    refine List.any_eq_true.mpr ⟨row, ?_, by simp [same]⟩
    simp only [deleteExpired, List.mem_filter, Bool.not_eq_true', Bool.and_eq_false_iff,
      decide_eq_false_iff_not]
    exact ⟨member, .inr (not_lt.mpr kept)⟩

/-- A prior claim is found if its row is younger than the window. -/
theorem getJobId_isSome_iff {table : DedupTable} {key : DedupKey} {now : Time} :
    (getJobId table key now).isSome = true ↔
      ∃ row ∈ table, row.key = key ∧ now - dedupTtl < row.createdAt := by
  simp [getJobId]

/-- A losing claim learns a prior job except at the one instant where the row is
neither expired nor visible. -/
theorem lost_claim_learns_iff {table : DedupTable} (unique : UniqueKeys table) {key : DedupKey}
    {jobId : Uuid} {now : Time} :
    ((insertOrNone table key jobId now).2 = false → (getJobId table key now).isSome = true) ↔
      ∀ row ∈ table, row.key = key → row.createdAt ≠ now - dedupTtl := by
  rw [insertOrNone_lost_iff, getJobId_isSome_iff]
  constructor
  · intro learns row member same boundary
    obtain ⟨other, otherMember, otherSame, visible⟩ :=
      learns ⟨row, member, same, boundary.ge⟩
    have equal : other = row := by
      apply List.inj_on_of_nodup_map unique otherMember member
      rw [otherSame, same]
    rw [equal, boundary] at visible
    exact lt_irrefl _ visible
  · rintro apart ⟨row, member, same, kept⟩
    exact ⟨row, member, same, lt_of_le_of_ne kept (apart row member same).symm⟩

theorem insertOrNone_won {table : DedupTable} {key : DedupKey} {jobId : Uuid} {now : Time}
    (won : (insertOrNone table key jobId now).2 = true) :
    (∀ row ∈ table, row.key = key → row.createdAt < now - dedupTtl) ∧
      (insertOrNone table key jobId now).1 =
        deleteExpired table key now ++ [{ jobId := jobId, key := key, createdAt := now }] ∧
      ∀ row ∈ deleteExpired table key now, row.key ≠ key := by
  have expired : ∀ row ∈ table, row.key = key → row.createdAt < now - dedupTtl := by
    intro row member same
    by_contra kept
    have lost : (insertOrNone table key jobId now).2 = false :=
      insertOrNone_lost_iff.mpr ⟨row, member, same, not_lt.mp kept⟩
    rw [won] at lost
    cases lost
  have gone : ∀ row ∈ deleteExpired table key now, row.key ≠ key := by
    intro row member same
    simp only [deleteExpired, List.mem_filter, Bool.not_eq_true', Bool.and_eq_false_iff,
      decide_eq_false_iff_not] at member
    rcases member.2 with different | kept
    · exact different same
    · exact kept (expired row member.1 same)
  refine ⟨expired, ?_, gone⟩
  rw [insertOrNone, if_neg]
  intro found
  obtain ⟨row, member, same⟩ := List.any_eq_true.mp found
  exact gone row member (by simpa using same)

theorem insertOrNone_unique {table : DedupTable} (unique : UniqueKeys table) {key : DedupKey}
    {jobId : Uuid} {now : Time} (won : (insertOrNone table key jobId now).2 = true) :
    UniqueKeys (insertOrNone table key jobId now).1 := by
  obtain ⟨_, left, gone⟩ := insertOrNone_won won
  rw [left, UniqueKeys, List.map_append]
  have kept : ((deleteExpired table key now).map DedupRow.key).Nodup :=
    unique.sublist (List.filter_sublist.map _)
  refine kept.append (by simp) ?_
  intro found old new
  obtain ⟨row, member, rfl⟩ := List.mem_map.mp old
  exact gone row member (by simpa using new)

/-- A claim adds no row but its own. -/
theorem mem_insertOrNone {table : DedupTable} {key : DedupKey} {jobId : Uuid} {now : Time}
    {row : DedupRow} (member : row ∈ (insertOrNone table key jobId now).1) :
    row ∈ table ∨ row.jobId = jobId := by
  rw [insertOrNone] at member
  split at member
  · exact .inl (List.mem_of_mem_filter member)
  · rcases List.mem_append.mp member with old | new
    · exact .inl (List.mem_of_mem_filter old)
    · rw [List.mem_singleton.mp new]
      exact .inr rfl

end OpenZync.Memory
