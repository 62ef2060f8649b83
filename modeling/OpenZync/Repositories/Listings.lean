import OpenZync.Repositories.Cursors
import OpenZync.Repositories.Datetimes

/-!
# The listings of users, sessions and messages

Each listing writes its own filters and checks; the ordering, the comparison
with the cursor and the page are the same.  Every listing orders by its column
and then by ascending identifiers.
-/

namespace OpenZync.Repositories

open OpenZync.Library

/-- `SortSpec` -/
structure SortSpec where
  sortBy : Option Text
  sortDir : SortDir

/-- `SortSpec()` -/
def SortSpec.empty : SortSpec :=
  { sortBy := none
    sortDir := .asc }

def SortSpec.effective (spec : SortSpec) (defaultSort : Text) (defaultDir : SortDir) :
    Text × SortDir :=
  match spec.sortBy with
  | none => (defaultSort, defaultDir)
  | some sortBy => (sortBy, spec.sortDir)

/-- The `ValidationError`s of a listing. -/
inductive ListError where
  | invalidSortBy (sortBy : Text)
  | cursorSortMismatch (cSort cDir reqSort reqDir : Text)
  | invalidCursor

/-- The rows of a table with its primary key. -/
structure Table {ρ : Type} (id : ρ → Uuid) where
  rows : List ρ
  primaryKey : (rows.map id).Nodup

/-- A sortable column: how the database orders it, how a cursor writes its
values and how they are read back. -/
structure SortColumn (ρ : Type) where
  Value : Type
  order : SqlOrder Value
  value : ρ → Option Value
  text : Value → Text
  read : Text → Option Value

namespace SortColumn

variable {ρ : Type}

/-- The value in the cursor of a row, `value or ""`. -/
def cursorText (column : SortColumn ρ) (row : ρ) : Text :=
  ((column.value row).map column.text).getD []

/-- `ORDER BY column, id ASC`, and a comparison with `id > cursor_id`. -/
def keyset (column : SortColumn ρ) (id : ρ → Uuid) (sortDir : SortDir) : Keyset ρ :=
  { Value := column.Value
    order := column.order
    value := column.value
    id := id
    direction := sortDir
    tieOrder := .asc
    tieCompare := .asc }

end SortColumn

/-- The condition of a decoded cursor. -/
def cursorCondition {ρ : Type} (column : SortColumn ρ) (id : ρ → Uuid) (reqSort : Text)
    (reqDir : SortDir) : Option (Text × SortDir × Text × Uuid) → Except ListError (ρ → Bool)
  | none => .error .invalidCursor
  | some (cSort, cDir, cVal, cId) =>
      if cSort ≠ reqSort ∨ cDir ≠ reqDir then
        .error (.cursorSortMismatch cSort cDir.text reqSort reqDir.text)
      else
        match column.read cVal with
        | none => .error .invalidCursor
        | some value => .ok ((column.keyset id reqDir).passes value cId)

/-- The condition of a cursor, none without a cursor. -/
def sessionCondition {ρ : Type} (column : SortColumn ρ) (id : ρ → Uuid) (reqSort : Text)
    (reqDir : SortDir) (versioned : Bool) : Option Text → Except ListError (ρ → Bool)
  | none => .ok fun _ => true
  | some cursor => cursorCondition column id reqSort reqDir (decodeSortCursor cursor versioned)

/-- Order the rows, fetch one more than the capped limit and keep a page. -/
def orderedPage {ρ : Type} (column : SortColumn ρ) (id : ρ → Uuid) (sortBy : Text)
    (sortDir : SortDir) (cap limit : Nat) (versioned : Bool) (rows : List ρ) :
    List ρ × Option Text :=
  let effectiveLimit := min limit cap + 1
  pageOf effectiveLimit limit
    (fun last => encodeSortCursor sortBy sortDir (column.cursorText last) (id last) versioned)
    ((column.keyset id sortDir).sorted rows)

/-- A text column, ordered by the collation of the database. -/
def textColumn {ρ : Type} (collation : SqlOrder Text) (value : ρ → Option Text) : SortColumn ρ :=
  { Value := Text
    order := collation
    value := value
    text := fun text => text
    read := some }

def datetimeColumn {ρ : Type} (value : ρ → Datetime) : SortColumn ρ :=
  { Value := Datetime
    order := Datetime.order
    value := fun row => some (value row)
    text := isoformat
    read := fromisoformat }

/-- `str` of an integer. -/
def intText : Int → Text
  | .ofNat value => Nat.toDigits 10 value
  | .negSucc value => '-' :: Nat.toDigits 10 (value + 1)

/-- `int` of a text. -/
def readInt (text : Text) : Option Int :=
  Text.readInteger 10 text

def intColumn {ρ : Type} (value : ρ → Int) : SortColumn ρ :=
  { Value := Int
    order :=
      { le := fun first second => decide (first ≤ second)
        total := by
          intro first second
          simp only [decide_eq_true_eq]
          exact Int.le_total first second
        trans := by
          intro first second third left right
          simp only [decide_eq_true_eq] at left right ⊢
          exact Int.le_trans left right }
    value := fun row => some (value row)
    text := intText
    read := readInt }

section Users

structure ListedUser where
  id : Uuid
  idBound : id < 2 ^ 128
  organizationId : Uuid
  externalId : Text
  name : Option Text
  email : Option Text
  metadataText : Text
  isDeleted : Bool
  createdAt : Datetime

variable (collation : SqlOrder Text) (ilike : Text → Text → Bool)

/-- `USER_SORTABLE_COLUMNS` -/
def userSortableColumns (sortBy : Text) : Option (SortColumn ListedUser) :=
  if sortBy = "external_id".toList then
    some (textColumn collation fun user => some user.externalId)
  else if sortBy = "name".toList then some (textColumn collation ListedUser.name)
  else if sortBy = "email".toList then some (textColumn collation ListedUser.email)
  else if sortBy = "created_at".toList then some (datetimeColumn ListedUser.createdAt)
  else none

/-- `UserRepository._decode_cursor` -/
def decodeUserCursor (cursor : Text) : Option (Text × SortDir × Text × Uuid) :=
  (decodeSortCursor cursor false).filter fun decoded =>
    (userSortableColumns collation decoded.1).isSome

/-- The filters of a request for users. -/
structure UserFilters where
  organizationId : Uuid
  search : Option Text
  createdAfter : Option Datetime
  createdBefore : Option Datetime
  includeDeleted : Bool

/-- A text that may be NULL is like a pattern. -/
def ilikeField (value : Option Text) (pattern : Text) : Bool :=
  value.any fun text => ilike text pattern

def UserFilters.Matches (filters : UserFilters) (user : ListedUser) : Bool :=
  user.organizationId = filters.organizationId &&
    (filters.includeDeleted || !user.isDeleted) &&
    (match filters.search with
      | none => true
      | some [] => true
      | some search =>
          let searchPattern := '%' :: search ++ ['%']
          ilike user.externalId searchPattern || ilikeField ilike user.name searchPattern ||
            ilikeField ilike user.email searchPattern || ilike user.metadataText searchPattern) &&
    filters.createdAfter.all (fun after => after.stamp ≤ user.createdAt.stamp) &&
    filters.createdBefore.all fun before => user.createdAt.stamp < before.stamp

def userRows (users : Table ListedUser.id) (filters : UserFilters) : List ListedUser :=
  users.rows.filter (filters.Matches ilike)

/-- The condition of a cursor for users, none without a cursor. -/
def userCondition (reqSort : Text) (reqDir : SortDir) :
    Option Text → Except ListError (ListedUser → Bool)
  | none => .ok fun _ => true
  | some cursor =>
      match decodeUserCursor collation cursor with
      | none => .error .invalidCursor
      | some (cSort, cDir, cVal, cId) =>
          match userSortableColumns collation cSort with
          | none => .error .invalidCursor
          | some column =>
              cursorCondition column ListedUser.id reqSort reqDir (some (cSort, cDir, cVal, cId))

/-- `UserRepository.list` -/
def listUsers (users : Table ListedUser.id) (filters : UserFilters) (limit : Nat)
    (cursor : Option Text) (sort : Option SortSpec) :
    Except ListError (List ListedUser × Option Text) := do
  let (reqSort, reqDir) := (sort.getD .empty).effective "created_at".toList .desc
  let condition ← userCondition collation reqSort reqDir cursor
  match userSortableColumns collation reqSort with
  | none => .error (.invalidSortBy reqSort)
  | some column =>
      .ok (orderedPage column ListedUser.id reqSort reqDir 200 limit false
        ((userRows ilike users filters).filter condition))

end Users

section Sessions

structure ListedSession where
  id : Uuid
  idBound : id < 2 ^ 128
  projectId : Uuid
  externalId : Text
  isDeleted : Bool
  closedAt : Option Datetime
  createdAt : Datetime
  updatedAt : Datetime

variable (collation : SqlOrder Text)

/-- `SESSION_SORTABLE_COLUMNS` -/
def sessionSortableColumns (sortBy : Text) : Option (SortColumn ListedSession) :=
  if sortBy = "external_id".toList then
    some (textColumn collation fun session => some session.externalId)
  else if sortBy = "created_at".toList then some (datetimeColumn ListedSession.createdAt)
  else if sortBy = "updated_at".toList then some (datetimeColumn ListedSession.updatedAt)
  else none

/-- The rows that a request for sessions is about; a project is known by its
organization. -/
def sessionRows (projects : Uuid → Option Uuid) (sessions : Table ListedSession.id)
    (orgId projectId : Uuid) (includeClosed : Bool) : List ListedSession :=
  sessions.rows.filter fun session =>
    session.projectId = projectId && projects session.projectId = some orgId &&
      !session.isDeleted && (includeClosed || session.closedAt.isNone)

/-- `SessionRepository.list` -/
def listSessions (projects : Uuid → Option Uuid) (sessions : Table ListedSession.id)
    (orgId projectId : Uuid) (limit : Nat) (cursor : Option Text) (includeClosed : Bool)
    (sort : Option SortSpec) : Except ListError (List ListedSession × Option Text) :=
  let (reqSort, reqDir) := (sort.getD .empty).effective "created_at".toList .desc
  match sessionSortableColumns collation reqSort with
  | none => .error (.invalidSortBy reqSort)
  | some column => do
      let condition ← sessionCondition column ListedSession.id reqSort reqDir false cursor
      .ok (orderedPage column ListedSession.id reqSort reqDir 200 limit false
        ((sessionRows projects sessions orgId projectId includeClosed).filter condition))

end Sessions

section Messages

structure ListedEpisode where
  id : Uuid
  idBound : id < 2 ^ 128
  sessionId : Uuid
  isDeleted : Bool
  sequenceNumber : Int
  createdAt : Datetime

/-- `MESSAGE_SORTABLE_COLUMNS` -/
def messageSortableColumns (sortBy : Text) : Option (SortColumn ListedEpisode) :=
  if sortBy = "sequence_number".toList then some (intColumn ListedEpisode.sequenceNumber)
  else if sortBy = "created_at".toList then some (datetimeColumn ListedEpisode.createdAt)
  else none

/-- The session is there and belongs to the organization. -/
def sessionCheck (projects : Uuid → Option Uuid) (sessions : Table ListedSession.id)
    (orgId sessionId : Uuid) : Bool :=
  sessions.rows.any fun session =>
    session.id = sessionId && projects session.projectId = some orgId && !session.isDeleted

def messageRows (episodes : Table ListedEpisode.id) (sessionId : Uuid) : List ListedEpisode :=
  episodes.rows.filter fun episode => episode.sessionId = sessionId && !episode.isDeleted

/-- `SessionRepository.get_messages` -/
def getMessages (projects : Uuid → Option Uuid) (sessions : Table ListedSession.id)
    (episodes : Table ListedEpisode.id) (orgId sessionId : Uuid) (limit : Nat)
    (cursor : Option Text) (sort : Option SortSpec) :
    Except ListError (List ListedEpisode × Option Text) :=
  if !sessionCheck projects sessions orgId sessionId then .ok ([], none)
  else
    let (reqSort, reqDir) := (sort.getD .empty).effective "sequence_number".toList .asc
    match messageSortableColumns reqSort with
    | none => .error (.invalidSortBy reqSort)
    | some column => do
        let condition ← sessionCondition column ListedEpisode.id reqSort reqDir true cursor
        .ok (orderedPage column ListedEpisode.id reqSort reqDir 500 limit true
          ((messageRows episodes sessionId).filter condition))

end Messages

end OpenZync.Repositories
