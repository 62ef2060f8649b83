import OpenZync.Library.JsonReading
import OpenZync.Repositories.FactPages

/-!
# The listings of the graph

The PostgreSQL backend lists entities, the edges of an entity and observations
through one keyset predicate.  A cursor is a JSON object in base64, made from
the item of a page's last row.

The columns of an entity query and the dictionary that `_row_to_entity` makes
of them.  It has the type of the entity under `type`, and `get_all_entities`
adds `is_merged` and nothing else.
-/

namespace OpenZync.Graph.Listings

open OpenZync.Library
open OpenZync.Repositories

variable {ν ρ : Type}

/-- A dictionary, and an object as it is read. -/
abbrev Item (ν : Type) := List (Text × Json ν)

/-- `orjson`: an object of texts and nulls is read back. -/
structure JsonCodec (ν : Type) where
  dumps : Json ν → List UInt8
  loads : List UInt8 → Option (Json ν)
  present : ∀ value, dumps value ≠ []
  roundTrip : ∀ members : Item ν, (∀ member ∈ members, member.2.Scalar) →
    (members.map Prod.fst).Nodup → loads (dumps (.object members)) = some (.object members)

/-- What the driver makes of a text that is bound to a timestamp: it refuses
it, or reads its ISO form. -/
inductive TimestampBinding where
  | refuses
  | reads
  deriving DecidableEq

/-- The collation of the database: the empty text comes first. -/
structure Collation where
  order : SqlOrder Text
  emptyFirst : ∀ text, order.le [] text = true

/-- The value of a key, the last one when it repeats. -/
def memberOf (members : Item ν) (key : Text) : Option (Json ν) :=
  (members.reverse.find? fun member => member.1 = key).map Prod.snd

/-- `last[key]` of an item, which has the key. -/
def subscript (last : Item ν) (key : Text) : Json ν :=
  (memberOf last key).getD .null

/-- `value or ""` of a text or of nothing. -/
def orEmpty : Option (Json ν) → Json ν
  | some (.string text) => .string text
  | _ => .string []

/-- `value == text` -/
def isText (value : Json ν) (text : Text) : Bool :=
  match value with
  | .string other => other = text
  | _ => false

/-- A sortable column: how the database orders it, and what it makes of a
cursor's value, none when the driver refuses it. -/
structure GraphColumn (ρ ν : Type) where
  Value : Type
  order : SqlOrder Value
  value : ρ → Option Value
  bind : Json ν → Option (Option Value)

def textKey (collation : Collation) (value : ρ → Text) : GraphColumn ρ ν :=
  { Value := Text
    order := collation.order
    value := fun row => some (value row)
    bind := fun bound =>
      match bound with
      | .string text => some (some text)
      | .null => some none
      | _ => none }

def timestampKey (binding : TimestampBinding) (value : ρ → Option Datetime) : GraphColumn ρ ν :=
  { Value := Datetime
    order := Datetime.order
    value := value
    bind := fun bound =>
      match bound with
      | .string text =>
          match binding with
          | .refuses => none
          | .reads => (fromisoformat text).map some
      | .null => some none
      | _ => none }

/-- `ORDER BY column dir, id ASC`, and `(column, id) op (value, id)`. -/
def GraphColumn.keyset (column : GraphColumn ρ ν) (id : ρ → Uuid) (dir : SortDir) : Keyset ρ :=
  { Value := column.Value
    order := column.order
    value := column.value
    id := id
    direction := dir
    tieOrder := .asc
    tieCompare := dir }

/-- The keyset predicate; a comparison with NULL selects nothing. -/
def GraphColumn.comparison (column : GraphColumn ρ ν) (id : ρ → Uuid) (dir : SortDir)
    (bound : Option column.Value) (cId : Uuid) (row : ρ) : Bool :=
  match bound with
  | none => false
  | some value => (column.keyset id dir).passes value cId row

/-- The errors of a listing; a failing statement is an `ExternalServiceError`. -/
inductive GraphListError (ν : Type) where
  | invalidSortBy (key : Text)
  | invalidCursor
  | cursorSortMismatch (cSort cDir : Json ν) (reqSort reqDir : Text)
  | externalService

/-- `_resolve_graph_sort` -/
def resolveGraphSort (whitelist : Text → Option (GraphColumn ρ ν)) (sortBy : Option Text)
    (sortDir : SortDir) (defaultSort : Text) (defaultDir : SortDir) :
    Except (GraphListError ν) (GraphColumn ρ ν × SortDir) :=
  let key := sortBy.getD defaultSort
  match whitelist key with
  | none => .error (.invalidSortBy key)
  | some orderCol => .ok (orderCol, if sortBy.isSome then sortDir else defaultDir)

/-- `_decode_sort_keyset_cursor`; an identifier that is no text is none. -/
def decodeSortKeysetCursor (codec : JsonCodec ν) (cursor : Text) (defaultSort : Text)
    (defaultDir : SortDir) : Option (Json ν × Json ν × Json ν × Uuid) := do
  let bytes ← Base64Url.decodeStandard cursor
  match ← codec.loads bytes with
  | .object decoded =>
      let cSort := (memberOf decoded "s".toList).getD (.string defaultSort)
      let cDir := (memberOf decoded "d".toList).getD (.string defaultDir.text)
      match ← memberOf decoded "i".toList with
      | .string text =>
          let cId ← Text.readUuid text
          let cVal ← memberOf decoded "c".toList
          some (cSort, cDir, cVal, cId)
      | _ => none
  | _ => none

/-- What the three listings do not share; an item has the identifier of its row. -/
structure GraphListing (ρ ν : Type) where
  id : ρ → Uuid
  idBound : ∀ row, id row < 2 ^ 128
  whitelist : Text → Option (GraphColumn ρ ν)
  defaultDir : SortDir
  toItem : ρ → Item ν
  identified : ∀ row, memberOf (toItem row) "id".toList = some (.string (Text.ofUuid (id row)))
  sortVal : Text → Item ν → Json ν

namespace GraphListing

variable (listing : GraphListing ρ ν) (codec : JsonCodec ν)

/-- The next cursor of a page with more to come, from the item of its last row. -/
def nextCursor (reqSort : Text) (reqDir : SortDir) (row : ρ) : Text :=
  let last := listing.toItem row
  Base64Url.encodeStandard (codec.dumps (.object
    [("s".toList, .string reqSort), ("d".toList, .string reqDir.text),
      ("c".toList, listing.sortVal reqSort last), ("i".toList, subscript last "id".toList)]))

/-- The keyset predicate of a cursor, none without a cursor or with an empty one. -/
def predicate (column : GraphColumn ρ ν) (reqSort : Text) (reqDir : SortDir) :
    Option Text → Except (GraphListError ν) (ρ → Bool)
  | none => .ok fun _ => true
  | some [] => .ok fun _ => true
  | some cursor =>
      match decodeSortKeysetCursor codec cursor "created_at".toList listing.defaultDir with
      | none => .error .invalidCursor
      | some (cSort, cDir, cVal, cId) =>
          if isText cSort reqSort && isText cDir reqDir.text then
            match column.bind cVal with
            | none => .error .externalService
            | some bound => .ok (column.comparison listing.id reqDir bound cId)
          else .error (.cursorSortMismatch cSort cDir reqSort reqDir.text)

/-- A page of the rows; those that tie come in the order of a rank. -/
def page (rank : ρ → Nat) (rows : List ρ) (limit : Nat) (cursor : Option Text)
    (sort : Option SortSpec) : Except (GraphListError ν) (List ρ × Option Text) :=
  let limit := min limit 200
  let (reqSort, reqDir) := requested sort "created_at".toList listing.defaultDir
  match resolveGraphSort listing.whitelist (some reqSort) reqDir "created_at".toList
    listing.defaultDir with
  | .error error => .error error
  | .ok (column, dir) => do
      let kept ← listing.predicate codec column reqSort reqDir cursor
      .ok (pageOf (limit + 1) limit (listing.nextCursor codec reqSort reqDir)
        (((column.keyset listing.id dir).ranked rank).sorted (rows.filter kept)))

end GraphListing

/-- `value.isoformat() if value else None` -/
def isoOrNull (value : Option Datetime) : Json ν :=
  match value with
  | none => .null
  | some value => .string (isoformat value)

def uuidText (uuid : Uuid) : Json ν :=
  .string (Text.ofUuid uuid)

section Entities

structure ListedEntity (ν : Type) where
  id : Uuid
  idBound : id < 2 ^ 128
  organizationId : Uuid
  projectId : Uuid
  name : Text
  entityType : Text
  summary : Option Text
  attributes : Item ν
  createdAt : Option Datetime

/-- `_row_to_entity` -/
def rowToEntity (row : ListedEntity ν) : Item ν :=
  [("id".toList, uuidText row.id),
    ("name".toList, .string row.name),
    ("type".toList, .string row.entityType),
    ("summary".toList, .string (row.summary.getD [])),
    ("attributes".toList, .object row.attributes),
    ("created_at".toList, isoOrNull row.createdAt)]

variable (collation : Collation) (binding : TimestampBinding)

/-- `GRAPH_NODE_SORTABLE_SQL` -/
def graphNodeSortable (key : Text) : Option (GraphColumn (ListedEntity ν) ν) :=
  if key = "name".toList then some (textKey collation ListedEntity.name)
  else if key = "created_at".toList then some (timestampKey binding ListedEntity.createdAt)
  else if key = "entity_type".toList then some (textKey collation ListedEntity.entityType)
  else none

def entityListing : GraphListing (ListedEntity ν) ν :=
  { id := ListedEntity.id
    idBound := ListedEntity.idBound
    whitelist := graphNodeSortable collation binding
    defaultDir := .asc
    toItem := rowToEntity
    identified := fun _ => rfl
    sortVal := fun reqSort last =>
      if reqSort = "name".toList then subscript last "name".toList
      else if reqSort = "entity_type".toList then orEmpty (memberOf last "entity_type".toList)
      else subscript last "created_at".toList }

def entityRows (entities : Table (@ListedEntity.id ν)) (orgId projectId : Uuid)
    (entityType : Option Text) : List (ListedEntity ν) :=
  entities.rows.filter fun row =>
    row.organizationId = orgId && row.projectId = projectId &&
      match entityType with
      | none => true
      | some [] => true
      | some entityType => row.entityType = entityType

/-- `list_entities` -/
def listEntities (codec : JsonCodec ν) (entities : Table (@ListedEntity.id ν))
    (orgId projectId : Uuid) (entityType : Option Text) (limit : Nat) (cursor : Option Text)
    (sort : Option SortSpec) : Except (GraphListError ν) (List (ListedEntity ν) × Option Text) :=
  (entityListing collation binding).page codec ListedEntity.id
    (entityRows entities orgId projectId entityType) limit cursor sort

end Entities

section Edges

structure ListedEdge (ν : Type) where
  id : Uuid
  idBound : id < 2 ^ 128
  organizationId : Uuid
  projectId : Uuid
  sourceId : Uuid
  targetId : Uuid
  relationshipType : Text
  properties : Json ν
  fact : Option Text
  confidence : ν
  validFrom : Option Datetime
  validTo : Option Datetime
  invalidAt : Option Datetime
  createdAt : Option Datetime

/-- `_row_to_relationship` -/
def rowToRelationship (row : ListedEdge ν) : Item ν :=
  [("id".toList, uuidText row.id),
    ("source_id".toList, uuidText row.sourceId),
    ("target_id".toList, uuidText row.targetId),
    ("type".toList, .string row.relationshipType),
    ("properties".toList, row.properties),
    ("fact".toList, .string (row.fact.getD [])),
    ("confidence".toList, .number row.confidence),
    ("valid_from".toList, isoOrNull row.validFrom),
    ("valid_to".toList, isoOrNull row.validTo),
    ("created_at".toList, isoOrNull row.createdAt)]

variable (collation : Collation) (binding : TimestampBinding)

/-- `GRAPH_EDGE_SORTABLE_SQL` -/
def graphEdgeSortable (key : Text) : Option (GraphColumn (ListedEdge ν) ν) :=
  if key = "created_at".toList then some (timestampKey binding ListedEdge.createdAt)
  else if key = "predicate".toList then some (textKey collation ListedEdge.relationshipType)
  else none

def edgeListing : GraphListing (ListedEdge ν) ν :=
  { id := ListedEdge.id
    idBound := ListedEdge.idBound
    whitelist := graphEdgeSortable collation binding
    defaultDir := .desc
    toItem := rowToRelationship
    identified := fun _ => rfl
    sortVal := fun reqSort last =>
      if reqSort = "predicate".toList then orEmpty (memberOf last "type".toList)
      else subscript last "created_at".toList }

def edgeRows (edges : Table (@ListedEdge.id ν)) (orgId projectId entityId : Uuid)
    (predicate : Option Text) : List (ListedEdge ν) :=
  edges.rows.filter fun row =>
    row.organizationId = orgId && row.projectId = projectId &&
      (row.sourceId = entityId || row.targetId = entityId) && row.invalidAt.isNone &&
      match predicate with
      | none => true
      | some [] => true
      | some predicate => row.relationshipType = predicate

/-- The order in which the database returns edges that tie when no tiebreak is
asked for. -/
structure TieOrder (edges : Table (@ListedEdge.id ν)) where
  rank : ListedEdge ν → Nat
  distinct : (edges.rows.map rank).Nodup

/-- The default order has no tiebreak, the others have the identifier. -/
def TieOrder.of {edges : Table (@ListedEdge.id ν)} (ties : TieOrder edges)
    (sort : Option SortSpec) : ListedEdge ν → Nat :=
  if (sort.bind SortSpec.sortBy).isNone then ties.rank else ListedEdge.id

/-- `list_entity_edges` -/
def listEntityEdges (codec : JsonCodec ν) (edges : Table (@ListedEdge.id ν))
    (ties : TieOrder edges) (orgId projectId entityId : Uuid) (predicate : Option Text)
    (limit : Nat) (cursor : Option Text) (sort : Option SortSpec) :
    Except (GraphListError ν) (List (ListedEdge ν) × Option Text) :=
  (edgeListing collation binding).page codec (ties.of sort)
    (edgeRows edges orgId projectId entityId predicate) limit cursor sort

end Edges

section Observations

structure ListedObservation (ν : Type) where
  id : Uuid
  idBound : id < 2 ^ 128
  organizationId : Uuid
  projectId : Uuid
  subjectEntityId : Uuid
  relatedEntityId : Option Uuid
  observationType : Text
  content : Text
  confidence : ν
  supportingFactIds : List Uuid
  supportingRelationshipIds : List Uuid
  validFrom : Option Datetime
  validTo : Option Datetime
  observationMetadata : Item ν
  createdAt : Datetime
  updatedAt : Datetime

/-- `_row_to_observation` -/
def rowToObservation (row : ListedObservation ν) : Item ν :=
  [("id".toList, uuidText row.id),
    ("organization_id".toList, uuidText row.organizationId),
    ("project_id".toList, uuidText row.projectId),
    ("subject_entity_id".toList, uuidText row.subjectEntityId),
    ("related_entity_id".toList, (row.relatedEntityId.map uuidText).getD .null),
    ("observation_type".toList, .string row.observationType),
    ("content".toList, .string row.content),
    ("confidence".toList, .number row.confidence),
    ("supporting_fact_ids".toList, .array (row.supportingFactIds.map uuidText)),
    ("supporting_relationship_ids".toList, .array (row.supportingRelationshipIds.map uuidText)),
    ("valid_from".toList, isoOrNull row.validFrom),
    ("valid_to".toList, isoOrNull row.validTo),
    ("observation_metadata".toList, .object row.observationMetadata),
    ("created_at".toList, isoOrNull (some row.createdAt)),
    ("updated_at".toList, isoOrNull (some row.updatedAt))]

variable (collation : Collation) (binding : TimestampBinding)

/-- `OBSERVATION_SORTABLE_SQL` -/
def observationSortable (key : Text) : Option (GraphColumn (ListedObservation ν) ν) :=
  if key = "name".toList then some (textKey collation ListedObservation.content)
  else if key = "created_at".toList then
    some (timestampKey binding fun row => some row.createdAt)
  else none

def observationListing : GraphListing (ListedObservation ν) ν :=
  { id := ListedObservation.id
    idBound := ListedObservation.idBound
    whitelist := observationSortable collation binding
    defaultDir := .asc
    toItem := rowToObservation
    identified := fun _ => rfl
    sortVal := fun reqSort last =>
      if reqSort = "name".toList then orEmpty (memberOf last "content".toList)
      else subscript last "created_at".toList }

def observationRows (observations : Table (@ListedObservation.id ν)) (orgId projectId : Uuid)
    (subjectEntityId : Option Uuid) (observationType : Option Text) :
    List (ListedObservation ν) :=
  observations.rows.filter fun row =>
    row.organizationId = orgId && row.projectId = projectId &&
      subjectEntityId.all (fun subject => row.subjectEntityId = subject) &&
      observationType.all fun type => row.observationType = type

/-- `get_observations` -/
def getObservations (codec : JsonCodec ν) (observations : Table (@ListedObservation.id ν))
    (orgId projectId : Uuid) (subjectEntityId : Option Uuid) (observationType : Option Text)
    (limit : Nat) (cursor : Option Text) (sort : Option SortSpec) :
    Except (GraphListError ν) (List (ListedObservation ν) × Option Text) :=
  (observationListing collation binding).page codec ListedObservation.id
    (observationRows observations orgId projectId subjectEntityId observationType) limit cursor
    sort

end Observations

end OpenZync.Graph.Listings

namespace OpenZync.Graph.FalkorDB

open OpenZync.Library Listings

variable {ν : Type}

/-- The columns of an entity query.  The attributes are as `_parse_json_field`
reads them, and the identifier is the text of a UUID. -/
structure EntityRow (ν : Type) where
  id : Uuid
  name : Option Text
  entityType : Option Text
  summary : Option Text
  attributes : Json ν
  createdAt : Option Text
  isMerged : Option Bool
  idBound : id < 2 ^ 128

theorem idBound_of_small (id : Fin 10) : id.val < 2 ^ 128 :=
  lt_trans id.isLt (by decide)

/-- `str(value) if value else ""` -/
def textOrEmpty (value : Option Text) : Json ν :=
  .string (value.getD [])

/-- `str(value) if value else None` -/
def textOrNone : Option Text → Json ν
  | some (c :: text) => .string (c :: text)
  | _ => .null

/-- `_row_to_entity` -/
def rowToEntity (row : EntityRow ν) : Item ν :=
  [("id".toList, uuidText row.id), ("name".toList, textOrEmpty row.name),
    ("type".toList, textOrEmpty row.entityType), ("summary".toList, textOrEmpty row.summary),
    ("attributes".toList, row.attributes), ("created_at".toList, textOrNone row.createdAt)]

/-- The dictionary of `get_all_entities`. -/
def listedEntity (row : EntityRow ν) : Item ν :=
  rowToEntity row ++ [("is_merged".toList, .bool (row.isMerged.getD false))]

end OpenZync.Graph.FalkorDB
