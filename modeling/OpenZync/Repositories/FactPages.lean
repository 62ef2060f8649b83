import OpenZync.Repositories.ListingPages
import OpenZync.Repositories.Listings

/-!
# The listing of a session's facts

The statement is put together as text: the order of the identifiers follows the
column only for the default order, while the row comparison with the cursor
takes column and identifier in one direction.

By creation time, and by ascending confidence, the facts are visited as they
are listed.  In the other descending orders the identifiers are compared against
their order, and a subject may be NULL.
-/

namespace OpenZync.Repositories

open OpenZync.Library

/-- Double-precision numbers: `0.0`, how the database orders them, `str` and
`float`. -/
structure Doubles (φ : Type) where
  zero : φ
  order : SqlOrder φ
  str : φ → Text
  float : Text → Option φ
  float_str : ∀ number, float (str number) = some number

structure ListedFact (φ : Type) where
  id : Uuid
  idBound : id < 2 ^ 128
  organizationId : Uuid
  subject : Option Text
  confidence : φ
  sourceEpisodeId : Option Uuid
  createdAt : Datetime
  validFrom : Option Datetime
  validTo : Option Datetime
  invalidAt : Option Datetime

section Facts

variable {φ : Type} (doubles : Doubles φ) (collation : SqlOrder Text)

def confidenceColumn : SortColumn (ListedFact φ) :=
  { Value := φ
    order := doubles.order
    value := fun fact => some fact.confidence
    text := doubles.str
    read := doubles.float }

/-- `SESSION_FACT_SORTABLE_SQL`, with what the cursor holds of each column. -/
def sessionFactSortable (sortBy : Text) : Option (SortColumn (ListedFact φ)) :=
  if sortBy = "created_at".toList then some (datetimeColumn ListedFact.createdAt)
  else if sortBy = "confidence".toList then some (confidenceColumn doubles)
  else if sortBy = "subject".toList then some (textColumn collation ListedFact.subject)
  else none

/-- `ORDER BY column dir, f.id tiebreak` with `(column, f.id) op (value, id)`. -/
def factKeyset (column : SortColumn (ListedFact φ)) (reqSort : Text) (reqDir : SortDir) :
    Keyset (ListedFact φ) :=
  { Value := column.Value
    order := column.order
    value := column.value
    id := ListedFact.id
    direction := reqDir
    tieOrder := if reqSort = "created_at".toList ∧ reqDir = .desc then .desc else .asc
    tieCompare := reqDir }

/-- The facts of the base query. -/
def factRows (facts : Table (@ListedFact.id φ)) (episodes : Table ListedEpisode.id)
    (organizationId sessionId : Uuid) (effectiveAt : Datetime) : List (ListedFact φ) :=
  facts.rows.filter fun fact =>
    fact.organizationId = organizationId &&
      fact.sourceEpisodeId.any (fun source => episodes.rows.any fun episode =>
        episode.id = source && episode.sessionId = sessionId && !episode.isDeleted) &&
      fact.invalidAt.all (fun invalidAt => effectiveAt.stamp < invalidAt.stamp) &&
      fact.validFrom.all (fun validFrom => validFrom.stamp ≤ effectiveAt.stamp) &&
      fact.validTo.all fun validTo => effectiveAt.stamp < validTo.stamp

/-- The cursor of a fact: the identifier is written with hyphens. -/
def encodeFactCursor (column : SortColumn (ListedFact φ)) (reqSort : Text) (reqDir : SortDir)
    (last : ListedFact φ) : Text :=
  encodeCursor (sortPayload reqSort reqDir (column.cursorText last) (Text.ofUuid last.id))

/-- The row comparison of a cursor, none without a cursor or with an empty one. -/
def factCondition (column : SortColumn (ListedFact φ)) (reqSort : Text) (reqDir : SortDir) :
    Option Text → Except ListError (ListedFact φ → Bool)
  | none => .ok fun _ => true
  | some [] => .ok fun _ => true
  | some cursor =>
      match (decodeCursor cursor).bind splitPayload with
      | none => .error .invalidCursor
      | some (cSort, cDir, cVal, idHex) =>
          if cSort ≠ reqSort ∨ cDir ≠ reqDir.text then
            .error (.cursorSortMismatch cSort cDir reqSort reqDir.text)
          else
            match Text.readUuid idHex with
            | none => .error .invalidCursor
            | some cursorId =>
                match column.read cVal with
                | none => .error .invalidCursor
                | some cursorVal =>
                    .ok ((factKeyset column reqSort reqDir).passes cursorVal cursorId)

/-- `FactRepository.list_by_session` -/
def listBySession (facts : Table (@ListedFact.id φ)) (episodes : Table ListedEpisode.id)
    (organizationId sessionId : Uuid) (now : Datetime) (limit : Nat) (cursor : Option Text)
    (sort : Option SortSpec) : Except ListError (List (ListedFact φ) × Option Text) :=
  let (reqSort, reqDir) := (sort.getD .empty).effective "created_at".toList .desc
  match sessionFactSortable doubles collation reqSort with
  | none => .error (.invalidSortBy reqSort)
  | some column => do
      let effectiveLimit := min limit 200 + 1
      let keyset ← factCondition column reqSort reqDir cursor
      let rows := (factRows facts episodes organizationId sessionId now).filter keyset
      .ok (pageOf effectiveLimit (effectiveLimit - 1) (encodeFactCursor column reqSort reqDir)
        ((factKeyset column reqSort reqDir).sorted rows))

end Facts

variable {φ : Type} {doubles : Doubles φ} {collation : SqlOrder Text} {limit : Nat}

theorem readUuid_ofUuid {uuid : Uuid} (bound : uuid < 2 ^ 128) :
    Text.readUuid (Text.ofUuid uuid) = some uuid := by
  apply Text.readUuid_of_filter bound
  have kept : ∀ width value, (Text.hexDigits width value).filter (fun c => !decide (c = '-')) =
      Text.hexDigits width value := by
    intro width value
    rw [List.filter_eq_self]
    intro c member
    have apart : c ≠ '-' := fun same =>
      Text.notMem_hexDigits (c := '-') (by decide) width value (same ▸ member)
    simpa using apart
  have whole : Text.hexDigits 32 uuid =
      Text.hexDigits 8 (uuid / 16 ^ 24) ++ (Text.hexDigits 4 (uuid / 16 ^ 20) ++
        (Text.hexDigits 4 (uuid / 16 ^ 16) ++ (Text.hexDigits 4 (uuid / 16 ^ 12) ++
          Text.hexDigits 12 uuid))) := by
    rw [← Text.hexDigits_add 4 12, ← Text.hexDigits_add 4 16, ← Text.hexDigits_add 4 20,
      ← Text.hexDigits_add 8 24]
  rw [whole]
  simp [Text.ofUuid, kept]

theorem notMem_ofUuid (uuid : Uuid) : '|' ∉ Text.ofUuid uuid := by
  have apart : ∀ width value, '|' ∉ Text.hexDigits width value :=
    fun width value => Text.notMem_hexDigits (by decide) width value
  simp [Text.ofUuid, apart]

theorem encodeCursor_ne_nil {value : Text} (present : value ≠ []) : encodeCursor value ≠ [] := by
  intro empty
  have read := decodeCursor_encodeCursor value
  rw [empty] at read
  exact present (Option.some.inj read).symm

theorem factCondition_encode {column : SortColumn (ListedFact φ)} {nullValue : column.Value}
    {sortBy : Text} {sortDir : SortDir} (plain : ':' ∉ sortBy) (named : sortBy ≠ [])
    (readBack : column.ReadBack nullValue) (row : ListedFact φ) :
    factCondition column sortBy sortDir (some (encodeFactCursor column sortBy sortDir row)) =
      .ok ((factKeyset column sortBy sortDir).selects nullValue row) := by
  have identified : Text.ofUuid row.id ≠ [] := by simp [Text.ofUuid]
  have decoded : (decodeCursor (encodeFactCursor column sortBy sortDir row)).bind splitPayload =
      some (sortBy, sortDir.text, column.cursorText row, Text.ofUuid row.id) := by
    rw [encodeFactCursor, decodeCursor_encodeCursor]
    exact splitPayload_sortPayload plain named identified (notMem_ofUuid row.id)
  have present : encodeFactCursor column sortBy sortDir row ≠ [] := by
    apply encodeCursor_ne_nil
    simp [sortPayload]
  obtain ⟨c, text, shown⟩ := List.exists_cons_of_ne_nil present
  rw [shown] at decoded ⊢
  simp only [factCondition, decoded, ne_eq, not_true_eq_false, or_self, if_false,
    readUuid_ofUuid row.idBound, readBack row]
  rfl

theorem sessionFactSortable_plain {sortBy : Text} {column : SortColumn (ListedFact φ)}
    (listed : sessionFactSortable doubles collation sortBy = some column) :
    ':' ∉ sortBy ∧ sortBy ≠ [] := by
  rw [sessionFactSortable] at listed
  split_ifs at listed with createdAt confidence subject
  · rw [createdAt]; decide
  · rw [confidence]; decide
  · rw [subject]; decide

theorem facts_visits_iff (positive : 1 ≤ limit) (facts : Table (@ListedFact.id φ))
    (episodes : Table ListedEpisode.id) (organizationId sessionId : Uuid) (now : Datetime)
    (sort : Option SortSpec) {column : SortColumn (ListedFact φ)}
    (listed : sessionFactSortable doubles collation
      (requested sort "created_at".toList .desc).1 = some column) {nullValue : column.Value}
    (readBack : column.ReadBack nullValue) :
    let keyset := factKeyset column (requested sort "created_at".toList .desc).1
      (requested sort "created_at".toList .desc).2
    Visits (fun cursor => listBySession doubles collation facts episodes organizationId sessionId
        now limit cursor sort) none
      (keyset.sorted (factRows facts episodes organizationId sessionId now)) ↔
      keyset.SafeEnds nullValue (min limit 200 + 1) (min limit 200)
        (keyset.sorted (factRows facts episodes organizationId sessionId now)) := by
  intro keyset
  obtain ⟨plain, named⟩ := sessionFactSortable_plain listed
  have distinct : keyset.Distinct (factRows facts episodes organizationId sessionId now) :=
    (List.filter_sublist.map _).nodup facts.primaryKey
  apply Keyset.visits_iff_of_conditions distinct _ rfl
    (fun row _ => factCondition_encode plain named readBack row) (by omega) (Nat.le_succ _)
  intro cursor kept decoded
  rw [requested] at listed decoded
  simp only [listBySession, listed, decoded]
  rfl

theorem readBack_confidenceColumn (doubles : Doubles φ) (nullValue : φ) :
    (confidenceColumn doubles).ReadBack nullValue := by
  intro row
  exact doubles.float_str row.confidence

/-- By creation time the identifiers are compared in their order. -/
theorem safeEnds_createdAt (sortDir : SortDir) (nullValue : Datetime) (size page : Nat)
    (listing : List (ListedFact φ)) :
    (factKeyset (datetimeColumn ListedFact.createdAt) "created_at".toList sortDir).SafeEnds
      nullValue size page listing := by
  apply Keyset.safeEnds_of_nullFree (fun row => by simp [factKeyset, datetimeColumn])
  cases sortDir with
  | asc => rfl
  | desc => rfl

/-- By confidence they are compared in their order only when ascending. -/
theorem safeEnds_confidence_iff (doubles : Doubles φ) (sortDir : SortDir) (nullValue : φ)
    (size page : Nat) (listing : List (ListedFact φ)) :
    (factKeyset (confidenceColumn doubles) "confidence".toList sortDir).SafeEnds nullValue size
        page listing ↔
      sortDir = .asc ∨
        (factKeyset (confidenceColumn doubles) "confidence".toList sortDir).UntiedEnds size page
          listing := by
  have nullFree : ∀ row : ListedFact φ,
      (factKeyset (confidenceColumn doubles) "confidence".toList sortDir).value row ≠ none := by
    simp [factKeyset, confidenceColumn]
  cases sortDir with
  | asc => exact iff_of_true (Keyset.safeEnds_of_nullFree nullFree rfl) (Or.inl rfl)
  | desc =>
      have differ : (factKeyset (confidenceColumn doubles) "confidence".toList .desc).tieOrder ≠
          (factKeyset (confidenceColumn doubles) "confidence".toList .desc).tieCompare := by
        simp [factKeyset]
      refine (Keyset.safeEnds_iff_untiedEnds nullFree differ).trans ?_
      simp only [reduceCtorEq, false_or]

/-- Facts by creation time or ascending confidence are visited as they are
listed; by descending confidence exactly when no page end ties, and by subject
exactly when every page end is safe. -/
theorem facts_visited_iff (doubles : Doubles φ) (collation : SqlOrder Text) {limit : Nat}
    (positive : 1 ≤ limit) (facts : Table (@ListedFact.id φ)) (episodes : Table ListedEpisode.id)
    (organizationId sessionId : Uuid) (now : Datetime) (sort : Option SortSpec) :
    let sortBy := (requested sort "created_at".toList .desc).1
    let sortDir := (requested sort "created_at".toList .desc).2
    let listing := fun column => (factKeyset column sortBy sortDir).sorted
      (factRows facts episodes organizationId sessionId now)
    let visited := fun column => Visits (fun cursor => listBySession doubles collation facts
      episodes organizationId sessionId now limit cursor sort) none (listing column)
    (sortBy = "created_at".toList → visited (datetimeColumn ListedFact.createdAt)) ∧
    (sortBy = "confidence".toList → (visited (confidenceColumn doubles) ↔ sortDir = .asc ∨
      (factKeyset (confidenceColumn doubles) sortBy sortDir).UntiedEnds (min limit 200 + 1)
        (min limit 200) (listing (confidenceColumn doubles)))) ∧
    (sortBy = "subject".toList → (visited (textColumn collation ListedFact.subject) ↔
      (factKeyset (textColumn collation ListedFact.subject) sortBy sortDir).SafeEnds ([] : Text)
        (min limit 200 + 1) (min limit 200)
        (listing (textColumn collation ListedFact.subject)))) := by
  intro sortBy sortDir listing visited
  refine ⟨fun createdAt => ?_, fun confidence => ?_, fun subject => ?_⟩
  · have listed : sessionFactSortable doubles collation sortBy =
        some (datetimeColumn ListedFact.createdAt) := by
      rw [createdAt]
      rfl
    apply (facts_visits_iff positive facts episodes organizationId sessionId now sort listed
      (readBack_datetimeColumn _ datetimeMin)).mpr
    have safe := safeEnds_createdAt sortDir datetimeMin (min limit 200 + 1) (min limit 200)
      ((factKeyset (datetimeColumn ListedFact.createdAt) sortBy sortDir).sorted
        (factRows facts episodes organizationId sessionId now))
    rw [← createdAt] at safe
    exact safe
  · have listed : sessionFactSortable doubles collation sortBy =
        some (confidenceColumn doubles) := by
      rw [confidence]
      rfl
    refine (facts_visits_iff positive facts episodes organizationId sessionId now sort listed
      (readBack_confidenceColumn doubles doubles.zero)).trans ?_
    have safe := safeEnds_confidence_iff doubles sortDir doubles.zero (min limit 200 + 1)
      (min limit 200) (listing (confidenceColumn doubles))
    rw [← confidence] at safe
    exact safe
  · have listed : sessionFactSortable doubles collation sortBy =
        some (textColumn collation ListedFact.subject) := by
      rw [subject]
      rfl
    exact facts_visits_iff positive facts episodes organizationId sessionId now sort listed
      (readBack_textColumn collation ListedFact.subject)

/-- The confidences one half and one. -/
inductive SomeDouble where
  | half
  | one
  deriving DecidableEq

def someDoubles : Doubles SomeDouble :=
  { zero := .half
    order :=
      { le := fun first second => decide (first = .half ∨ second = .one)
        total := by
          intro first second
          cases first <;> cases second <;> simp
        trans := by
          intro first second third left right
          cases first <;> cases second <;> cases third <;> simp at left right ⊢ }
    str := fun number =>
      match number with
      | .half => "0.5".toList
      | .one => "1.0".toList
    float := fun text =>
      if text = "0.5".toList then some .half
      else if text = "1.0".toList then some .one
      else none
    float_str := by
      intro number
      cases number with
      | half => rfl
      | one => rfl }

def sureFact : ListedFact SomeDouble :=
  { id := 1
    idBound := one_lt_idBound
    organizationId := 7
    subject := some "x:y|z".toList
    confidence := .one
    sourceEpisodeId := some 5
    createdAt := datetimeMin
    validFrom := none
    validTo := none
    invalidAt := none }

/-- Two facts of one confidence. -/
def tiedFacts : Table (@ListedFact.id SomeDouble) :=
  { rows := [sureFact, { sureFact with id := 2, idBound := two_lt_idBound }]
    primaryKey := by decide }

def someEpisodes : Table ListedEpisode.id :=
  { rows := [{ id := 5, idBound := by decide, sessionId := 4, isDeleted := false,
               sequenceNumber := 0, createdAt := datetimeMin }]
    primaryKey := by decide }

def byConfidence : Option SortSpec :=
  some { sortBy := some "confidence".toList, sortDir := .desc }

theorem facts_visited_tiedFacts :
    let keyset := factKeyset (confidenceColumn someDoubles) "confidence".toList .desc
    let listing := keyset.sorted (factRows tiedFacts someEpisodes 7 4 datetimeMin)
    (Visits (fun cursor => listBySession someDoubles codePoints tiedFacts someEpisodes 7 4
        datetimeMin 1 cursor byConfidence) none listing ↔
      Direction.desc = .asc ∨ keyset.UntiedEnds 2 1 listing) :=
  (facts_visited_iff someDoubles codePoints (Nat.le_refl 1) tiedFacts someEpisodes 7 4
    datetimeMin byConfidence).2.1 rfl

/-- Listed by descending confidence, one fact a page: the second one is never
visited. -/
theorem tiedFact_lost :
    let keyset := factKeyset (confidenceColumn someDoubles) "confidence".toList .desc
    let listing := keyset.sorted (factRows tiedFacts someEpisodes 7 4 datetimeMin)
    listing = [sureFact, { sureFact with id := 2, idBound := two_lt_idBound }] ∧
      ¬ Visits (fun cursor => listBySession someDoubles codePoints tiedFacts someEpisodes 7 4
        datetimeMin 1 cursor byConfidence) none listing := by
  intro keyset listing
  have shown : listing = [sureFact, { sureFact with id := 2, idBound := two_lt_idBound }] := rfl
  refine ⟨shown, ?_⟩
  intro visits
  have safe := (facts_visits_iff (Nat.le_refl 1) tiedFacts someEpisodes 7 4 datetimeMin byConfidence
    rfl (readBack_confidenceColumn someDoubles .half)).mp visits
  have ends := safe [] sureFact _ shown 0 rfl (Nat.le_refl 2)
  have untied := ends.2.resolve_left (by decide)
  exact absurd (untied _ List.mem_cons_self) (by decide)

end OpenZync.Repositories
