import OpenZync.Library.Transactions
import OpenZync.Memory.IngestTables

/-!
# Sequence numbers of concurrent ingests

`_lock_and_insert` as the program of a transaction: lock the session row, read
the greatest number of the live episodes, insert the batch, commit.  Any number
of ingests run side by side and may fail at any point.  The committed tables
carry a record of the batches with what was committed when each of them took
the lock.
-/

namespace OpenZync.Memory

open OpenZync.Library

/-- A committed batch, with its first number and the episodes that were
committed when it took the lock. -/
structure CommittedBatch where
  batch : EpisodeBatch
  startSeq : Int
  before : List Episode

structure EpisodeTables where
  episodes : List Episode
  batches : List CommittedBatch

/-- Where an ingest stands; once it has the lock, with the episodes committed
at that moment. -/
inductive IngestPhase where
  | claimed
  | locked (before : List Episode)
  | numbered (before : List Episode) (startSeq : Int)
  | inserted (before : List Episode) (startSeq : Int)
  | ended

abbrev IngestMove := Move EpisodeTables IngestPhase Empty Uuid

abbrev IngestDatabase (τ : Type) := Database EpisodeTables IngestPhase Empty Uuid τ

/-- `_lock_and_insert`, then the commit. -/
def ingestProgram (batch : EpisodeBatch) (tables : EpisodeTables) : IngestPhase → IngestMove
  | .claimed => .lockRow batch.sessionId (.locked tables.episodes)
  | .locked before => .go (.numbered before (nextSequence tables.episodes batch.sessionId))
  | .numbered before startSeq =>
      if collides tables.episodes (batch.rows startSeq) batch.sessionId then .abort
      else .go (.inserted before startSeq)
  | .inserted before startSeq =>
      .commit
        { episodes := tables.episodes ++ batch.rows startSeq
          batches := tables.batches ++ [{ batch, startSeq, before }] }
  | .ended => .stay

/-- One scheduling step of concurrent ingests. -/
def performIngests {τ : Type} [DecidableEq τ] (batches : τ → EpisodeBatch) :
    IngestDatabase τ → Action τ → IngestDatabase τ :=
  Database.perform (fun transaction => ingestProgram (batches transaction)) .ended

/-- The committed live episodes of every session have distinct numbers. -/
def NumbersDistinct (episodes : List Episode) : Prop :=
  ∀ sessionId, (liveNumbers episodes sessionId).Nodup

/-- The rows a committed batch inserted. -/
def CommittedBatch.rows (committed : CommittedBatch) : List Episode :=
  committed.batch.rows committed.startSeq

/-- Every number of the session that was live when the batch took the lock is
below the first of its own. -/
def CommittedBatch.Above (committed : CommittedBatch) : Prop :=
  ∀ number ∈ liveNumbers committed.before committed.batch.sessionId,
    number < committed.startSeq

/-- The episodes are those there were and the rows of the committed batches,
with distinct numbers. -/
structure TablesSound (initial : List Episode) (tables : EpisodeTables) : Prop where
  episodes : tables.episodes = initial ++ tables.batches.flatMap CommittedBatch.rows
  distinct : NumbersDistinct tables.episodes
  above : ∀ committed ∈ tables.batches, committed.Above

/-- An ingest that holds the lock sees the live numbers of its session as they
were when it took it. -/
def NumbersHeld (batch : EpisodeBatch) (tables : EpisodeTables) (held : Uuid → Prop) :
    IngestPhase → Prop
  | .claimed => True
  | .locked before =>
      held batch.sessionId ∧
        liveNumbers tables.episodes batch.sessionId = liveNumbers before batch.sessionId
  | .numbered before startSeq =>
      (held batch.sessionId ∧
        liveNumbers tables.episodes batch.sessionId = liveNumbers before batch.sessionId) ∧
        startSeq = nextSequence tables.episodes batch.sessionId
  | .inserted before startSeq =>
      (held batch.sessionId ∧
        liveNumbers tables.episodes batch.sessionId = liveNumbers before batch.sessionId) ∧
        startSeq = nextSequence tables.episodes batch.sessionId
  | .ended => True

/-- Sessions whose rows are not locked keep their live numbers. -/
def NumbersUndisturbed (held : Uuid → Prop) (tables tables' : EpisodeTables) : Prop :=
  ∀ sessionId, ¬ held sessionId →
    liveNumbers tables'.episodes sessionId = liveNumbers tables.episodes sessionId

theorem liveNumbers_rows_self (batch : EpisodeBatch) (startSeq : Int) :
    liveNumbers (batch.rows startSeq) batch.sessionId =
      (batch.rows startSeq).map Episode.sequenceNumber := by
  rw [liveNumbers, List.filter_eq_self.mpr]
  intro row member
  simpa using (EpisodeBatch.mem_rows member).1

theorem liveNumbers_rows_of_ne {batch : EpisodeBatch} {sessionId : Uuid}
    (different : sessionId ≠ batch.sessionId) (startSeq : Int) :
    liveNumbers (batch.rows startSeq) sessionId = [] := by
  rw [liveNumbers, List.filter_eq_nil_iff.mpr, List.map_nil]
  intro row member live
  have own := (EpisodeBatch.mem_rows member).1
  have other : row.LiveIn sessionId := by simpa using live
  exact different (other.1.symm.trans own.1)

theorem NumbersDistinct.append {episodes : List Episode} (distinct : NumbersDistinct episodes)
    (batch : EpisodeBatch) :
    NumbersDistinct (episodes ++ batch.rows (nextSequence episodes batch.sessionId)) := by
  intro sessionId
  rw [liveNumbers_append]
  by_cases same : sessionId = batch.sessionId
  · subst same
    rw [liveNumbers_rows_self]
    refine (distinct batch.sessionId).append (batch.rows_numbers_nodup _) ?_
    intro number old new
    obtain ⟨row, member, rfl⟩ := List.mem_map.mp new
    have above := (EpisodeBatch.mem_rows member).2
    have below := lt_nextSequence old
    omega
  · rw [liveNumbers_rows_of_ne same, List.append_nil]
    exact distinct sessionId

theorem TablesSound.commit {initial : List Episode} {tables : EpisodeTables}
    (sound : TablesSound initial tables) {batch : EpisodeBatch} {before : List Episode}
    (same : liveNumbers tables.episodes batch.sessionId = liveNumbers before batch.sessionId) :
    TablesSound initial
      { episodes := tables.episodes ++ batch.rows (nextSequence tables.episodes batch.sessionId)
        batches := tables.batches ++
          [{ batch := batch
             startSeq := nextSequence tables.episodes batch.sessionId
             before := before }] } := by
  refine ⟨?_, sound.distinct.append batch, ?_⟩
  · rw [List.flatMap_append, ← List.append_assoc, ← sound.episodes, List.flatMap_singleton,
      CommittedBatch.rows]
  · intro committed member
    rcases List.mem_append.mp member with old | new
    · exact sound.above committed old
    · rw [List.mem_singleton.mp new]
      intro number live
      apply lt_nextSequence
      rw [same]
      exact live

theorem ingestProgram_sound {initial : List Episode} {tables : EpisodeTables}
    (sound : TablesSound initial tables) {batch : EpisodeBatch} {held : Uuid → Prop}
    {phase : IngestPhase} (numbers : NumbersHeld batch tables held phase) :
    (ingestProgram batch tables phase).Sound (TablesSound initial) NumbersUndisturbed
      (NumbersHeld batch) tables held := by
  cases phase with
  | claimed => exact ⟨.inl rfl, rfl⟩
  | locked before => exact ⟨numbers, rfl⟩
  | numbered before startSeq =>
      rw [ingestProgram]
      split
      · exact trivial
      · exact numbers
  | inserted before startSeq =>
      obtain ⟨⟨own, same⟩, rfl⟩ := numbers
      refine ⟨sound.commit same, ?_⟩
      intro sessionId free
      have different : sessionId ≠ batch.sessionId := by
        rintro rfl
        exact free own
      simp only [liveNumbers_append, liveNumbers_rows_of_ne different, List.append_nil]
  | ended => exact trivial

theorem NumbersHeld.framed {batch : EpisodeBatch} {tables tables' : EpisodeTables}
    {held own : Uuid → Prop} {phase : IngestPhase}
    (apart : ∀ sessionId, own sessionId → ¬ held sessionId)
    (undisturbed : NumbersUndisturbed held tables tables')
    (numbers : NumbersHeld batch tables own phase) : NumbersHeld batch tables' own phase := by
  have kept : own batch.sessionId → liveNumbers tables'.episodes batch.sessionId =
      liveNumbers tables.episodes batch.sessionId :=
    fun mine => undisturbed batch.sessionId (apart batch.sessionId mine)
  have next : own batch.sessionId → nextSequence tables'.episodes batch.sessionId =
      nextSequence tables.episodes batch.sessionId := by
    intro mine
    rw [nextSequence, kept mine, nextSequence]
  cases phase with
  | claimed => exact trivial
  | locked before => exact ⟨numbers.1, (kept numbers.1).trans numbers.2⟩
  | numbered before startSeq =>
      obtain ⟨⟨mine, same⟩, started⟩ := numbers
      exact ⟨⟨mine, (kept mine).trans same⟩, started.trans (next mine).symm⟩
  | inserted before startSeq =>
      obtain ⟨⟨mine, same⟩, started⟩ := numbers
      exact ⟨⟨mine, (kept mine).trans same⟩, started.trans (next mine).symm⟩
  | ended => exact trivial

theorem ingests_consistent {τ : Type} [DecidableEq τ] (batches : τ → EpisodeBatch)
    {initial : List Episode} {database : IngestDatabase τ} (schedule : List (Action τ))
    (consistent : database.Consistent (TablesSound initial) fun transaction =>
      NumbersHeld (batches transaction)) :
    (schedule.foldl (performIngests batches) database).Consistent (TablesSound initial)
      fun transaction => NumbersHeld (batches transaction) := by
  induction schedule generalizing database with
  | nil => exact consistent
  | cons action schedule induction =>
      rw [List.foldl_cons]
      apply induction
      apply consistent.perform NumbersUndisturbed action
      · intro transaction tables held
        exact trivial
      · intro transaction _
        exact ingestProgram_sound consistent.store (consistent.transactions transaction)
      · intro transaction tables held own phase apart undisturbed numbers
        exact numbers.framed apart undisturbed

/-- For every schedule of ingests: the episodes are the initial ones and those
of the committed batches; the live ones of a session have distinct numbers; and
a committed batch occupies a contiguous block in message order, above every
number that was live when it took the lock. -/
theorem sequence_numbers_contiguous {τ : Type} [DecidableEq τ] (batches : τ → EpisodeBatch)
    (initial : List Episode) (distinct : NumbersDistinct initial)
    (schedule : List (Action τ)) :
    let tables := (schedule.foldl (performIngests batches)
      (Database.start { episodes := initial, batches := [] } .claimed)).committed
    tables.episodes = initial ++ tables.batches.flatMap CommittedBatch.rows ∧
      NumbersDistinct tables.episodes ∧
      ∀ committed ∈ tables.batches,
        committed.rows.map (fun row => (row.role, row.content, row.metadata)) =
            committed.batch.messages.map
              (fun message => (message.role, message.content, message.metadata)) ∧
          committed.rows.map Episode.sequenceNumber =
            (List.range committed.rows.length).map
              (fun index : Nat => committed.startSeq + (index : Int)) ∧
          ∀ episode ∈ committed.before, episode.LiveIn committed.batch.sessionId →
            ∀ row ∈ committed.rows, episode.sequenceNumber < row.sequenceNumber := by
  intro tables
  have started : (Database.start { episodes := initial, batches := [] } .claimed :
      IngestDatabase τ).Consistent (TablesSound initial) fun transaction =>
        NumbersHeld (batches transaction) :=
    { store := ⟨by simp [Database.start], distinct, by simp [Database.start]⟩
      transactions := fun _ => trivial }
  have sound : TablesSound initial tables := (ingests_consistent batches schedule started).store
  refine ⟨sound.episodes, sound.distinct, ?_⟩
  intro committed member
  refine ⟨committed.batch.rows_texts committed.startSeq, ?_, ?_⟩
  · rw [CommittedBatch.rows, committed.batch.rows_numbers, EpisodeBatch.rows,
      List.length_mapIdx]
  · intro episode inside live row rowInside
    have first := sound.above committed member _ (mem_liveNumbers.mpr ⟨episode, inside, live, rfl⟩)
    have start := (EpisodeBatch.mem_rows rowInside).2
    omega

/-- Two ingests into session 7, of two messages and of one. -/
def twoIngests (transaction : Bool) : EpisodeBatch :=
  { organizationId := 1
    projectId := 2
    sessionId := 7
    userId := 3
    messages := (if transaction then ["hi", "there"] else ["bye"]).map fun content =>
      { role := "user".toList
        content := content.toList
        metadata := []
        createdAt := none }
    ids := fun index => if transaction then 100 + index else 200 + index
    now := 50 }

/-- The second ingest tries to take the lock while the first one holds it. -/
def interleavedIngests : List (Action Bool) :=
  [.advance true, .advance true, .advance false, .advance true, .advance true,
    .advance false, .advance false, .advance false, .advance false]

theorem interleaved_ingests_numbered :
    let tables := (interleavedIngests.foldl (performIngests twoIngests)
      (Database.start { episodes := [], batches := [] } .claimed)).committed
    tables.episodes.map Episode.sequenceNumber = [0, 1, 2] ∧
      NumbersDistinct tables.episodes :=
  ⟨by decide, (sequence_numbers_contiguous twoIngests [] (fun _ => List.nodup_nil)
    interleavedIngests).2.1⟩

end OpenZync.Memory
