import OpenZync.Repositories.ListingPages

/-!
# The pages of episodes

`EpisodeRepository` lists the episodes of a session and of a project by their
sequence numbers, which repeat across the sessions of a project, and then by
identifiers.  Following the cursors visits the rows of the session, or of the
project, that are not deleted, in this order and each once, also when the limit
is above the cap.
-/

namespace OpenZync.Repositories

open OpenZync.Library

/-- The columns of `episodes` that the pages read. -/
structure EpisodeRow where
  id : Uuid
  idBound : id < 2 ^ 128
  projectId : Uuid
  sessionId : Uuid
  isDeleted : Bool
  sequenceNumber : Int

namespace EpisodeRepository

/-- `CursorExpiredError` -/
inductive CursorExpired where
  | invalid
  deriving DecidableEq

/-- `_encode_cursor` -/
def encodeEpisodeCursor (sequenceNumber : Int) (episodeId : Uuid) : Text :=
  encodeVersionedCursor (intText sequenceNumber ++ '|' :: Text.hexDigits 32 episodeId)

/-- `_decode_cursor`; `raw.split("|", 1)` needs the separator. -/
def decodeEpisodeCursor (cursor : Text) : Option (Int × Uuid) := do
  let raw ← decodeVersionedCursor cursor
  let (seqStr, sep, idHex) := Text.partition '|' raw
  if sep = [] then none
  else
    let sequenceNumber ← readInt seqStr
    let episodeId ← Text.readUuid idHex
    some (sequenceNumber, episodeId)

/-- The condition that a cursor adds to the query. -/
def cursorFilter : Option Text → Except CursorExpired (EpisodeRow → Bool)
  | none => .ok fun _ => true
  | some cursor =>
      match decodeEpisodeCursor cursor with
      | none => .error .invalid
      | some (cursorSeq, cursorId) => .ok fun episode =>
          decide (episode.sequenceNumber = cursorSeq ∧ cursorId < episode.id ∨
            cursorSeq < episode.sequenceNumber)

/-- `ORDER BY sequence_number ASC, id ASC` -/
def order : Keyset EpisodeRow :=
  (intColumn EpisodeRow.sequenceNumber).keyset EpisodeRow.id .asc

/-- The page of a query: one row more than the capped limit is fetched, and when
all of them came the limit is applied. -/
def episodePage (limit : Nat) (rows : List EpisodeRow) : List EpisodeRow × Option Text :=
  let effectiveLimit := min limit 500 + 1
  pageOf effectiveLimit limit (fun last => encodeEpisodeCursor last.sequenceNumber last.id)
    (order.sorted rows)

/-- The live episodes of a session. -/
def sessionEpisodes (episodes : Table EpisodeRow.id) (sessionId : Uuid) : List EpisodeRow :=
  episodes.rows.filter fun episode => episode.sessionId = sessionId && !episode.isDeleted

/-- The live episodes of a project. -/
def projectEpisodes (episodes : Table EpisodeRow.id) (projectId : Uuid) : List EpisodeRow :=
  episodes.rows.filter fun episode => episode.projectId = projectId && !episode.isDeleted

/-- `get_by_session_id` -/
def getBySessionId (episodes : Table EpisodeRow.id) (sessionId : Uuid) (limit : Nat)
    (cursor : Option Text) : Except CursorExpired (List EpisodeRow × Option Text) := do
  let kept ← cursorFilter cursor
  .ok (episodePage limit ((sessionEpisodes episodes sessionId).filter kept))

/-- `get_by_project_id` -/
def getByProjectId (episodes : Table EpisodeRow.id) (projectId : Uuid) (limit : Nat)
    (cursor : Option Text) : Except CursorExpired (List EpisodeRow × Option Text) := do
  let kept ← cursorFilter cursor
  .ok (episodePage limit ((projectEpisodes episodes projectId).filter kept))

theorem notMem_intText (value : Int) : '|' ∉ intText value := by
  have undigited : ∀ number, '|' ∉ Nat.toDigits 10 number := by
    intro number member
    have digit := Nat.isDigit_of_mem_toDigits (by decide) (by decide) member
    cases digit
  cases value with
  | ofNat value => exact undigited value
  | negSucc value =>
      rw [intText, List.mem_cons, not_or]
      exact ⟨by decide, undigited (value + 1)⟩

theorem decodeEpisodeCursor_encode (sequenceNumber : Int) {episodeId : Uuid}
    (bound : episodeId < 2 ^ 128) :
    decodeEpisodeCursor (encodeEpisodeCursor sequenceNumber episodeId) =
      some (sequenceNumber, episodeId) := by
  rw [decodeEpisodeCursor, encodeEpisodeCursor,
    decodeVersionedCursor_encodeVersionedCursor (by simp)]
  simp [Text.partition_append (notMem_intText sequenceNumber), readInt_intText,
    Text.readUuid_hexDigits bound]

theorem cursorFilter_encode (row : EpisodeRow) :
    cursorFilter (some (encodeEpisodeCursor row.sequenceNumber row.id)) =
      .ok (order.selects (0 : Int) row) := by
  rw [cursorFilter, decodeEpisodeCursor_encode row.sequenceNumber row.idBound]
  dsimp only
  congr 1
  funext other
  simp only [order, Keyset.selects, Keyset.passes, SortColumn.keyset, intColumn, SqlOrder.ahead,
    SqlOrder.eqv, SqlOrder.nat, Option.getD_some]
  grind

/-- One episode comes before another. -/
def Before (first second : EpisodeRow) : Prop :=
  first.sequenceNumber < second.sequenceNumber ∨
    first.sequenceNumber = second.sequenceNumber ∧ first.id < second.id

instance (first second : EpisodeRow) : Decidable (Before first second) :=
  inferInstanceAs (Decidable (_ ∨ _))

theorem precedes_iff_before {first second : EpisodeRow} (apart : first.id ≠ second.id) :
    order.precedes first second = true ↔ Before first second := by
  simp only [order, Keyset.precedes, Keyset.valueAhead, Keyset.tied, SortColumn.keyset, intColumn,
    SqlOrder.ahead, SqlOrder.eqv, SqlOrder.nat, Before]
  grind

theorem before_irrefl (episode : EpisodeRow) : ¬ Before episode episode := by
  simp [Before]

theorem eq_sorted_iff {rows listing : List EpisodeRow} (distinct : (rows.map EpisodeRow.id).Nodup) :
    listing = order.sorted rows ↔
      listing.Pairwise Before ∧ ∀ episode, episode ∈ listing ↔ episode ∈ rows := by
  have sortedPerm : (order.sorted rows).Perm rows := List.perm_insertionSort _ rows
  have sortedBefore : (order.sorted rows).Pairwise Before := by
    have apart : (order.sorted rows).Pairwise fun first second => first.id ≠ second.id := by
      rw [← List.pairwise_map (f := EpisodeRow.id)]
      exact (sortedPerm.map EpisodeRow.id).nodup_iff.mpr distinct
    exact ((order.pairwise_sorted rows).and apart).imp fun both =>
      (precedes_iff_before both.2).mp both.1
  constructor
  · rintro rfl
    exact ⟨sortedBefore, fun _ => sortedPerm.mem_iff⟩
  · rintro ⟨before, held⟩
    have once : listing.Nodup := by
      apply before.imp
      rintro first second ahead rfl
      exact before_irrefl first ahead
    have perm : listing.Perm rows :=
      (List.perm_ext_iff_of_nodup once (List.Nodup.of_map _ distinct)).mpr held
    apply List.Perm.eq_of_pairwise _ before sortedBefore (perm.trans sortedPerm.symm)
    intro first second _ _ ahead back
    simp only [Before] at ahead back
    grind

theorem pages_visit {limit : Nat} (positive : 1 ≤ limit) {rows : List EpisodeRow}
    (distinct : (rows.map EpisodeRow.id).Nodup) :
    Visits (fun cursor => (cursorFilter cursor).bind fun kept =>
        .ok (episodePage limit (rows.filter kept))) none (order.sorted rows) := by
  have listed : order.Distinct rows := distinct
  have safe : order.SafeEnds (0 : Int) (min limit 500 + 1) (min limit (min limit 500 + 1))
      (order.sorted rows) :=
    Keyset.safeEnds_of_nullFree (by simp [order, SortColumn.keyset, intColumn]) rfl
  have next : ∀ row ∈ rows, cursorFilter (some (encodeEpisodeCursor row.sequenceNumber row.id)) =
      .ok (order.selects (0 : Int) row) := fun row _ => cursorFilter_encode row
  apply (Keyset.visits_iff_of_conditions listed _ rfl next (by omega) (by omega)).mpr safe
  intro cursor kept decoded
  simp only [decoded, Except.bind, episodePage]
  rw [pageOf_min]

/-- Following the cursors visits the rows of the table that are of the session, or
of the project, and are not deleted, each once and in their order, and no other
row. -/
theorem episodes_visited_iff (episodes : Table EpisodeRow.id) {limit : Nat} (positive : 1 ≤ limit) :
    (∀ sessionId visited, Visits (getBySessionId episodes sessionId limit) none visited ↔
      visited.Pairwise Before ∧ ∀ episode, episode ∈ visited ↔
        episode ∈ episodes.rows ∧ episode.sessionId = sessionId ∧ episode.isDeleted = false) ∧
    ∀ projectId visited, Visits (getByProjectId episodes projectId limit) none visited ↔
      visited.Pairwise Before ∧ ∀ episode, episode ∈ visited ↔
        episode ∈ episodes.rows ∧ episode.projectId = projectId ∧ episode.isDeleted = false := by
  constructor
  · intro sessionId visited
    have distinct : ((sessionEpisodes episodes sessionId).map EpisodeRow.id).Nodup :=
      (List.filter_sublist.map _).nodup episodes.primaryKey
    have visits := pages_visit positive distinct
    have listed : Visits (getBySessionId episodes sessionId limit) none visited ↔
        visited = order.sorted (sessionEpisodes episodes sessionId) :=
      ⟨fun visited => visited.unique visits, fun same => same ▸ visits⟩
    rw [listed, eq_sorted_iff distinct]
    simp [sessionEpisodes]
  · intro projectId visited
    have distinct : ((projectEpisodes episodes projectId).map EpisodeRow.id).Nodup :=
      (List.filter_sublist.map _).nodup episodes.primaryKey
    have visits := pages_visit positive distinct
    have listed : Visits (getByProjectId episodes projectId limit) none visited ↔
        visited = order.sorted (projectEpisodes episodes projectId) :=
      ⟨fun visited => visited.unique visits, fun same => same ▸ visits⟩
    rw [listed, eq_sorted_iff distinct]
    simp [projectEpisodes]

theorem zero_lt_idBound : (0 : Uuid) < 2 ^ 128 := by decide

/-- An episode of the project 3. -/
def episodeOf (sessionId : Uuid) (sequenceNumber : Int) (isDeleted : Bool) (id : Uuid)
    (idBound : id < 2 ^ 128) : EpisodeRow :=
  { id := id
    idBound := idBound
    projectId := 3
    sessionId := sessionId
    isDeleted := isDeleted
    sequenceNumber := sequenceNumber }

/-- The first episodes of the sessions 5 and 4, and a second of session 4 that is
deleted. -/
def tiedEpisodes : Table EpisodeRow.id :=
  { rows := [episodeOf 5 0 false 2 two_lt_idBound, episodeOf 4 0 false 1 one_lt_idBound,
      episodeOf 4 1 true 0 zero_lt_idBound]
    primaryKey := by decide }

/-- By project, a page of one episode ends in a tie and the next one goes on
behind it; by session, the deleted episode is passed over. -/
theorem episodes_visited_tied :
    Visits (getByProjectId tiedEpisodes 3 1) none
        [episodeOf 4 0 false 1 one_lt_idBound, episodeOf 5 0 false 2 two_lt_idBound] ∧
      Visits (getBySessionId tiedEpisodes 4 1) none
        [episodeOf 4 0 false 1 one_lt_idBound] := by
  constructor
  · apply ((episodes_visited_iff tiedEpisodes (Nat.le_refl 1)).2 3 _).mpr
    exact ⟨by decide, by grind [tiedEpisodes, episodeOf]⟩
  · apply ((episodes_visited_iff tiedEpisodes (Nat.le_refl 1)).1 4 _).mpr
    exact ⟨by decide, by grind [tiedEpisodes, episodeOf]⟩

end EpisodeRepository

end OpenZync.Repositories
