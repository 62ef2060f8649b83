import OpenZync.Repositories.Listings

/-!
# Following the cursors of the listings

Sessions and messages are visited as they are listed.  So are users by columns
that are never NULL; by name and email the cursor stands for an empty text
where there is none, and no comparison selects a NULL.
-/

namespace OpenZync.Repositories

open OpenZync.Library

section Columns

variable {ρ : Type} {column : SortColumn ρ} {nullValue : column.Value} {id : ρ → Uuid}
  {sortBy : Text} {sortDir : SortDir} {cap limit : Nat} {versioned : Bool} {rows : List ρ}

/-- What the cursor of a row writes is read back as its value, or as another
one for a NULL. -/
def SortColumn.ReadBack (column : SortColumn ρ) (nullValue : column.Value) : Prop :=
  ∀ row, column.read (column.cursorText row) = some ((column.value row).getD nullValue)

theorem readBack_textColumn (collation : SqlOrder Text) (value : ρ → Option Text) :
    (textColumn collation value).ReadBack ([] : Text) := by
  intro row
  rw [SortColumn.cursorText]
  change some _ = some _
  cases shown : value row with
  | none => simp [textColumn, shown]
  | some text => simp [textColumn, shown]

theorem readBack_datetimeColumn (value : ρ → Datetime) (nullValue : Datetime) :
    (datetimeColumn value).ReadBack nullValue := by
  intro row
  exact fromisoformat_isoformat (value row)

theorem readInt_intText (value : Int) : readInt (intText value) = some value := by
  cases value with
  | ofNat value =>
      rw [readInt, intText, (Text.plainDigits_toDigits value).readInteger_eq (by decide),
        Text.readDigits_toDigits]
      rfl
  | negSucc value =>
      rw [readInt, intText, (Text.plainDigits_toDigits (value + 1)).readInteger_neg (by decide),
        Text.readDigits_toDigits]
      rfl

theorem readBack_intColumn (value : ρ → Int) (nullValue : Int) :
    (intColumn value).ReadBack nullValue := by
  intro row
  exact readInt_intText (value row)

theorem cursorCondition_encode (readBack : column.ReadBack nullValue) (plain : ':' ∉ sortBy)
    (named : sortBy ≠ []) {row : ρ} (bound : id row < 2 ^ 128) (versioned : Bool) :
    cursorCondition column id sortBy sortDir (decodeSortCursor
        (encodeSortCursor sortBy sortDir (column.cursorText row) (id row) versioned) versioned) =
      .ok ((column.keyset id sortDir).selects nullValue row) := by
  rw [decodeSortCursor_encodeSortCursor plain named bound]
  simp only [cursorCondition, ne_eq, not_true_eq_false, or_self, if_false, readBack row]
  rfl

theorem orderedPage_eq (rows : List ρ) :
    orderedPage column id sortBy sortDir cap limit versioned rows =
      pageOf (min limit cap + 1) (min limit (min limit cap + 1))
        (fun last => encodeSortCursor sortBy sortDir (column.cursorText last) (id last) versioned)
        ((column.keyset id sortDir).sorted rows) := by
  exact pageOf_min _

theorem visits_iff_of_condition {ε : Type} {condition : Option Text → Except ε (ρ → Bool)}
    (nullValue : column.Value) (positive : 1 ≤ limit) (distinct : (rows.map id).Nodup)
    (first : condition none = .ok fun _ => true)
    (next : ∀ row ∈ rows, condition (some
        (encodeSortCursor sortBy sortDir (column.cursorText row) (id row) versioned)) =
      .ok ((column.keyset id sortDir).selects nullValue row)) :
    Visits (fun cursor => (condition cursor).bind fun condition =>
        .ok (orderedPage column id sortBy sortDir cap limit versioned (rows.filter condition)))
      none ((column.keyset id sortDir).sorted rows) ↔
      (column.keyset id sortDir).SafeEnds nullValue (min limit cap + 1)
        (min limit (min limit cap + 1)) ((column.keyset id sortDir).sorted rows) := by
  have distinct : (column.keyset id sortDir).Distinct rows := distinct
  apply Keyset.visits_iff_of_conditions distinct _ first next (by omega) (by omega)
  intro cursor kept decoded
  simp only [decoded, Except.bind, orderedPage_eq]

theorem visits_sessionCondition (sortDir : SortDir) (cap : Nat) (versioned : Bool)
    (positive : 1 ≤ limit) (distinct : (rows.map id).Nodup)
    (bounded : ∀ row, id row < 2 ^ 128) (plain : ':' ∉ sortBy) (named : sortBy ≠ [])
    (nullFree : ∀ row, column.value row ≠ none) (readBack : column.ReadBack nullValue) :
    Visits (fun cursor => (sessionCondition column id sortBy sortDir versioned cursor).bind
        fun condition => .ok
          (orderedPage column id sortBy sortDir cap limit versioned (rows.filter condition)))
      none ((column.keyset id sortDir).sorted rows) := by
  rw [visits_iff_of_condition nullValue positive distinct rfl]
  · exact Keyset.safeEnds_of_nullFree nullFree rfl
  · intro row _
    exact cursorCondition_encode readBack plain named (bounded row) versioned

end Columns

section Listings

variable {collation : SqlOrder Text} {ilike : Text → Text → Bool} {limit : Nat}

/-- The sort key and the direction that a request asks for. -/
def requested (sort : Option SortSpec) (defaultSort : Text) (defaultDir : SortDir) :
    Text × SortDir :=
  (sort.getD .empty).effective defaultSort defaultDir

theorem sessionSortable_readBack {sortBy : Text} {column : SortColumn ListedSession}
    (listed : sessionSortableColumns collation sortBy = some column) :
    (':' ∉ sortBy ∧ sortBy ≠ []) ∧ (∀ row, column.value row ≠ none) ∧
      ∃ nullValue, column.ReadBack nullValue := by
  rw [sessionSortableColumns] at listed
  split_ifs at listed with externalId createdAt updatedAt
  · obtain rfl := Option.some.inj listed
    rw [externalId]
    exact ⟨by decide, by simp [textColumn], _, readBack_textColumn collation _⟩
  · obtain rfl := Option.some.inj listed
    rw [createdAt]
    exact ⟨by decide, by simp [datetimeColumn], datetimeMin, readBack_datetimeColumn _ _⟩
  · obtain rfl := Option.some.inj listed
    rw [updatedAt]
    exact ⟨by decide, by simp [datetimeColumn], datetimeMin, readBack_datetimeColumn _ _⟩

theorem messageSortable_readBack {sortBy : Text} {column : SortColumn ListedEpisode}
    (listed : messageSortableColumns sortBy = some column) :
    (':' ∉ sortBy ∧ sortBy ≠ []) ∧ (∀ row, column.value row ≠ none) ∧
      ∃ nullValue, column.ReadBack nullValue := by
  rw [messageSortableColumns] at listed
  split_ifs at listed with sequenceNumber createdAt
  · obtain rfl := Option.some.inj listed
    rw [sequenceNumber]
    exact ⟨by decide, by simp [intColumn], (0 : Int), readBack_intColumn _ _⟩
  · obtain rfl := Option.some.inj listed
    rw [createdAt]
    exact ⟨by decide, by simp [datetimeColumn], datetimeMin, readBack_datetimeColumn _ _⟩

theorem sessions_visits (positive : 1 ≤ limit) (projects : Uuid → Option Uuid)
    (sessions : Table ListedSession.id) (orgId projectId : Uuid) (includeClosed : Bool)
    (sort : Option SortSpec) {column : SortColumn ListedSession}
    (listed : sessionSortableColumns collation
      (requested sort "created_at".toList .desc).1 = some column) :
    Visits (fun cursor => listSessions collation projects sessions orgId projectId limit cursor
        includeClosed sort) none
      ((column.keyset ListedSession.id (requested sort "created_at".toList .desc).2).sorted
        (sessionRows projects sessions orgId projectId includeClosed)) := by
  obtain ⟨⟨plain, named⟩, nullFree, nullValue, readBack⟩ := sessionSortable_readBack listed
  have distinct : ((sessionRows projects sessions orgId projectId includeClosed).map
      ListedSession.id).Nodup :=
    (List.filter_sublist.map _).nodup sessions.primaryKey
  have visits := visits_sessionCondition (requested sort "created_at".toList .desc).2 200 false
    positive distinct ListedSession.idBound plain named nullFree readBack
  rw [requested] at listed
  simp only [listSessions, listed]
  exact visits

/-- The messages that a request may see. -/
def visibleMessages (projects : Uuid → Option Uuid) (sessions : Table ListedSession.id)
    (episodes : Table ListedEpisode.id) (orgId sessionId : Uuid) : List ListedEpisode :=
  if sessionCheck projects sessions orgId sessionId then messageRows episodes sessionId else []

theorem messages_visits (positive : 1 ≤ limit) (projects : Uuid → Option Uuid)
    (sessions : Table ListedSession.id) (episodes : Table ListedEpisode.id)
    (orgId sessionId : Uuid) (sort : Option SortSpec) {column : SortColumn ListedEpisode}
    (listed : messageSortableColumns (requested sort "sequence_number".toList .asc).1 =
      some column) :
    Visits (fun cursor => getMessages projects sessions episodes orgId sessionId limit cursor sort)
      none
      ((column.keyset ListedEpisode.id (requested sort "sequence_number".toList .asc).2).sorted
        (visibleMessages projects sessions episodes orgId sessionId)) := by
  obtain ⟨⟨plain, named⟩, nullFree, nullValue, readBack⟩ := messageSortable_readBack listed
  have distinct : ((messageRows episodes sessionId).map ListedEpisode.id).Nodup :=
    (List.filter_sublist.map _).nodup episodes.primaryKey
  have visits := visits_sessionCondition (requested sort "sequence_number".toList .asc).2 500 true
    positive distinct ListedEpisode.idBound plain named nullFree readBack
  rw [requested] at listed
  by_cases found : sessionCheck projects sessions orgId sessionId = true
  · simp only [getMessages, visibleMessages, found, listed]
    exact visits
  · rw [Bool.not_eq_true] at found
    rw [visibleMessages, found]
    apply Visits.last
    rw [getMessages, found]
    rfl

theorem userCondition_encode {sortBy : Text} {sortDir : SortDir} {column : SortColumn ListedUser}
    {nullValue : column.Value} (listed : userSortableColumns collation sortBy = some column)
    (plain : ':' ∉ sortBy) (named : sortBy ≠ []) (readBack : column.ReadBack nullValue)
    (row : ListedUser) :
    userCondition collation sortBy sortDir
        (some (encodeSortCursor sortBy sortDir (column.cursorText row) row.id false)) =
      .ok ((column.keyset ListedUser.id sortDir).selects nullValue row) := by
  have decoded : decodeSortCursor
      (encodeSortCursor sortBy sortDir (column.cursorText row) row.id false) false =
        some (sortBy, sortDir, column.cursorText row, row.id) :=
    decodeSortCursor_encodeSortCursor plain named row.idBound false
  have condition : cursorCondition column ListedUser.id sortBy sortDir (decodeSortCursor
      (encodeSortCursor sortBy sortDir (column.cursorText row) row.id false) false) =
        .ok ((column.keyset ListedUser.id sortDir).selects nullValue row) :=
    cursorCondition_encode readBack plain named row.idBound false
  rw [decoded] at condition
  simp only [userCondition, decodeUserCursor, decoded, Option.filter, listed, Option.isSome_some,
    if_true]
  exact condition

theorem userSortable_plain {sortBy : Text} {column : SortColumn ListedUser}
    (listed : userSortableColumns collation sortBy = some column) :
    ':' ∉ sortBy ∧ sortBy ≠ [] := by
  rw [userSortableColumns] at listed
  split_ifs at listed with externalId name email createdAt
  · rw [externalId]; decide
  · rw [name]; decide
  · rw [email]; decide
  · rw [createdAt]; decide

theorem userSortable_nullFree {sortBy : Text} {column : SortColumn ListedUser}
    (listed : userSortableColumns collation sortBy = some column)
    (name : sortBy ≠ "name".toList) (email : sortBy ≠ "email".toList) :
    (∀ row, column.value row ≠ none) ∧ ∃ nullValue, column.ReadBack nullValue := by
  rw [userSortableColumns] at listed
  split_ifs at listed
  · obtain rfl := Option.some.inj listed
    exact ⟨by simp [textColumn], _, readBack_textColumn collation _⟩
  · obtain rfl := Option.some.inj listed
    exact ⟨by simp [datetimeColumn], datetimeMin, readBack_datetimeColumn _ _⟩

theorem users_visits_iff (positive : 1 ≤ limit) (users : Table ListedUser.id)
    (filters : UserFilters) (sort : Option SortSpec) {column : SortColumn ListedUser}
    (listed : userSortableColumns collation (requested sort "created_at".toList .desc).1 =
      some column) {nullValue : column.Value} (readBack : column.ReadBack nullValue) :
    Visits (fun cursor => listUsers collation ilike users filters limit cursor sort) none
      ((column.keyset ListedUser.id (requested sort "created_at".toList .desc).2).sorted
        (userRows ilike users filters)) ↔
      (column.keyset ListedUser.id (requested sort "created_at".toList .desc).2).SafeEnds nullValue
        (min limit 200 + 1) (min limit (min limit 200 + 1))
        ((column.keyset ListedUser.id (requested sort "created_at".toList .desc).2).sorted
          (userRows ilike users filters)) := by
  have distinct : ((userRows ilike users filters).map ListedUser.id).Nodup :=
    (List.filter_sublist.map _).nodup users.primaryKey
  obtain ⟨plain, named⟩ := userSortable_plain listed
  have fetched : (fun cursor => listUsers collation ilike users filters limit cursor sort) =
      fun cursor => (userCondition collation (requested sort "created_at".toList .desc).1
        (requested sort "created_at".toList .desc).2 cursor).bind fun condition =>
          .ok (orderedPage column ListedUser.id (requested sort "created_at".toList .desc).1
            (requested sort "created_at".toList .desc).2 200 limit false
            ((userRows ilike users filters).filter condition)) := by
    funext cursor
    rw [requested] at listed ⊢
    simp only [listUsers, listed]
    rfl
  rw [fetched, visits_iff_of_condition nullValue positive distinct rfl]
  intro row _
  exact userCondition_encode listed plain named readBack row

/-- A text column of users that may be NULL, with its sort key. -/
inductive NullableField : Text → (ListedUser → Option Text) → Prop where
  | name : NullableField "name".toList ListedUser.name
  | email : NullableField "email".toList ListedUser.email

/-- Sessions, messages and users by a column without NULLs are visited as they
are listed; users by name or email exactly when every page end is safe. -/
theorem listings_visited_iff (collation : SqlOrder Text) (ilike : Text → Text → Bool)
    {limit : Nat} (positive : 1 ≤ limit) :
    (∀ projects sessions orgId projectId includeClosed sort column,
      sessionSortableColumns collation (requested sort "created_at".toList .desc).1 =
        some column →
      Visits (fun cursor => listSessions collation projects sessions orgId projectId limit cursor
          includeClosed sort) none
        ((column.keyset ListedSession.id (requested sort "created_at".toList .desc).2).sorted
          (sessionRows projects sessions orgId projectId includeClosed))) ∧
    (∀ projects sessions episodes orgId sessionId sort column,
      messageSortableColumns (requested sort "sequence_number".toList .asc).1 = some column →
      Visits (fun cursor =>
          getMessages projects sessions episodes orgId sessionId limit cursor sort) none
        ((column.keyset ListedEpisode.id (requested sort "sequence_number".toList .asc).2).sorted
          (visibleMessages projects sessions episodes orgId sessionId))) ∧
    (∀ users filters sort column,
      userSortableColumns collation (requested sort "created_at".toList .desc).1 = some column →
      (requested sort "created_at".toList .desc).1 ≠ "name".toList →
      (requested sort "created_at".toList .desc).1 ≠ "email".toList →
      Visits (fun cursor => listUsers collation ilike users filters limit cursor sort) none
        ((column.keyset ListedUser.id (requested sort "created_at".toList .desc).2).sorted
          (userRows ilike users filters))) ∧
    ∀ users filters sort field,
      NullableField (requested sort "created_at".toList .desc).1 field →
      let keyset := (textColumn collation field).keyset ListedUser.id
        (requested sort "created_at".toList .desc).2
      (Visits (fun cursor => listUsers collation ilike users filters limit cursor sort) none
          (keyset.sorted (userRows ilike users filters)) ↔
        keyset.SafeEnds ([] : Text) (min limit 200 + 1) (min limit (min limit 200 + 1))
          (keyset.sorted (userRows ilike users filters))) := by
  refine ⟨?_, ?_, ?_, ?_⟩
  · intro projects sessions orgId projectId includeClosed sort column listed
    exact sessions_visits positive projects sessions orgId projectId includeClosed sort listed
  · intro projects sessions episodes orgId sessionId sort column listed
    exact messages_visits positive projects sessions episodes orgId sessionId sort listed
  · intro users filters sort column listed name email
    obtain ⟨nullFree, nullValue, readBack⟩ := userSortable_nullFree listed name email
    rw [users_visits_iff positive users filters sort listed readBack]
    exact Keyset.safeEnds_of_nullFree nullFree rfl
  · intro users filters sort field nullable
    have listed : userSortableColumns collation (requested sort "created_at".toList .desc).1 =
        some (textColumn collation field) := by
      generalize (requested sort "created_at".toList .desc).1 = sortBy at nullable
      cases nullable with
      | name => rfl
      | email => rfl
    exact users_visits_iff positive users filters sort listed (readBack_textColumn collation field)

end Listings

/-- The order of code points, as in the collation `C`. -/
def codePoints : SqlOrder Text :=
  { le := fun first second => decide (first ≤ second)
    total := by
      intro first second
      simp only [decide_eq_true_eq]
      exact le_total first second
    trans := by
      intro first second third left right
      simp only [decide_eq_true_eq] at left right ⊢
      exact le_trans left right }

theorem one_lt_idBound : (1 : Uuid) < 2 ^ 128 := by decide

theorem two_lt_idBound : (2 : Uuid) < 2 ^ 128 := by decide

def namedUser : ListedUser :=
  { id := 1
    idBound := one_lt_idBound
    organizationId := 7
    externalId := "one".toList
    name := some "a:b|c".toList
    email := none
    metadataText := []
    isDeleted := false
    createdAt := datetimeMin }

/-- A named user and one without a name. -/
def oneUnnamed : Table ListedUser.id :=
  { rows := [{ namedUser with id := 2, idBound := two_lt_idBound, name := none }, namedUser]
    primaryKey := by decide }

def allUsers : UserFilters :=
  { organizationId := 7
    search := none
    createdAfter := none
    createdBefore := none
    includeDeleted := false }

def byName : Option SortSpec :=
  some { sortBy := some "name".toList, sortDir := .asc }

def someSession : ListedSession :=
  { id := 1
    idBound := one_lt_idBound
    projectId := 3
    externalId := "s|:".toList
    isDeleted := false
    closedAt := none
    createdAt := datetimeMin
    updatedAt := datetimeMin }

def someSessions : Table ListedSession.id :=
  { rows := [someSession]
    primaryKey := by decide }

theorem listings_visited_oneUnnamed :
    Visits (fun cursor => listSessions codePoints (fun _ => some 7) someSessions 7 3 1 cursor
        false none) none
      (((datetimeColumn ListedSession.createdAt).keyset ListedSession.id .desc).sorted
        (sessionRows (fun _ => some 7) someSessions 7 3 false)) ∧
    (Visits (fun cursor => listUsers codePoints (fun _ _ => false) oneUnnamed allUsers 1 cursor
        byName) none
      (((textColumn codePoints ListedUser.name).keyset ListedUser.id .asc).sorted
        (userRows (fun _ _ => false) oneUnnamed allUsers)) ↔
      ((textColumn codePoints ListedUser.name).keyset ListedUser.id .asc).SafeEnds ([] : Text) 2 1
        (((textColumn codePoints ListedUser.name).keyset ListedUser.id .asc).sorted
          (userRows (fun _ _ => false) oneUnnamed allUsers))) := by
  have lossless := listings_visited_iff codePoints (fun _ _ => false) (Nat.le_refl 1)
  exact ⟨lossless.1 (fun _ => some 7) someSessions 7 3 false none _ rfl,
    lossless.2.2.2 oneUnnamed allUsers byName _ .name⟩

/-- Listed by name, one user a page: the user without a name is never visited. -/
theorem unnamed_lost :
    ((textColumn codePoints ListedUser.name).keyset ListedUser.id .asc).sorted
        (userRows (fun _ _ => false) oneUnnamed allUsers) =
      [namedUser, { namedUser with id := 2, idBound := two_lt_idBound, name := none }] ∧
    ¬ Visits (fun cursor => listUsers codePoints (fun _ _ => false) oneUnnamed allUsers 1 cursor
        byName) none
      (((textColumn codePoints ListedUser.name).keyset ListedUser.id .asc).sorted
        (userRows (fun _ _ => false) oneUnnamed allUsers)) := by
  have listing : ((textColumn codePoints ListedUser.name).keyset ListedUser.id .asc).sorted
      (userRows (fun _ _ => false) oneUnnamed allUsers) =
        [namedUser, { namedUser with id := 2, idBound := two_lt_idBound, name := none }] := rfl
  refine ⟨listing, ?_⟩
  intro visits
  have safe := (users_visits_iff (Nat.le_refl 1) oneUnnamed allUsers byName rfl
    (readBack_textColumn codePoints ListedUser.name)).mp visits
  have ends := safe [] namedUser _ listing 0 rfl (Nat.le_refl 2)
  exact ends.1 _ List.mem_cons_self rfl

end OpenZync.Repositories
