import OpenZync.Graph.EntityMerge
import OpenZync.GraphEdgeSync
import OpenZync.Library.AtomicFolds

/-!
# Creating many edges

`create_relationship_bulk` and `create_relationship` of the PostgreSQL and the
FalkorDB backend, on the active edges by key.  PostgreSQL has a statement of its
own for the bulk call and runs all of them in one savepoint; FalkorDB calls
`create_relationship` for one element after another.
-/

namespace OpenZync.Graph

open Library

/-- A value of `source_id` or `target_id`. -/
inductive IdValue where
  | uuid (id : Uuid)
  | text (value : Text)
deriving DecidableEq

def IdValue.isTruthy : IdValue → Bool
  | .uuid _ => true
  | .text value => !value.isEmpty

/-- The keys of an element that are read.  A missing `confidence` is not the
same as `None`. -/
structure RelationshipDict where
  sourceId : Option IdValue
  targetId : Option IdValue
  relationshipType : Option Text
  properties : Option Text
  confidence : Option (Option ℚ)
  validFrom : Option Time
  validTo : Option Time
deriving DecidableEq

/-- An element of the list with its position. -/
abbrev Element := RelationshipDict × Nat

/-- The required values, where none is missing or empty. -/
def RelationshipDict.required (rel : RelationshipDict) : Option (IdValue × IdValue × Text) :=
  match rel.sourceId, rel.targetId, rel.relationshipType with
  | some source, some target, some relType =>
      if source.isTruthy && target.isTruthy && !relType.isEmpty then
        some (source, target, relType)
      else none
  | _, _, _ => none

inductive RelationshipFailure where
  /-- The `ValueError` of PostgreSQL, which shows the element. -/
  | missingKeys (got : RelationshipDict)
  /-- The `ValueError` of FalkorDB, which names its position. -/
  | missingKeysAt (index : Nat)
  /-- The `ValueError` of `UUID`. -/
  | badlyFormed (value : IdValue)
  | unsafeEdgeType (name : Text)
  | notFound (source target : Uuid)
  | notConnected
  | externalService
deriving DecidableEq

/-- What a call meets: the identifiers that texts spell, the stored entities,
and the identifiers and instants the operations on the elements draw. -/
structure EdgeWorld where
  parseId : Text → Option Uuid
  hasEntity : Uuid → Bool
  newId : Nat → Uuid
  now : Nat → Time

namespace EdgeWorld

def readId (world : EdgeWorld) : IdValue → Option Uuid
  | .uuid id => some id
  | .text value => world.parseId value

def hasEnds (world : EdgeWorld) (key : EdgeKey) : Bool :=
  world.hasEntity key.sourceId && world.hasEntity key.targetId

/-- The arguments of `create_relationship` after the key. -/
def input (world : EdgeWorld) (element : Element) (confidence : Option ℚ) : RelationshipInput :=
  { relId := world.newId element.2
    properties := element.1.properties.getD ['{', '}']
    confidence := confidence
    validFrom := element.1.validFrom
    validTo := element.1.validTo
    now := world.now element.2 }

end EdgeWorld

/-- A returned relationship. -/
structure CreatedRelationship (ρ : Type) where
  key : EdgeKey
  edge : ρ
deriving DecidableEq

/-- What an edge says, apart from its key. -/
structure EdgeContent where
  properties : Text
  confidence : ℚ
  validFrom : Option Time
  validTo : Option Time
deriving DecidableEq

namespace Postgres

/-- A row of `graph_relationships` with the columns that may be null. -/
structure EdgeRow where
  id : Uuid
  properties : Text
  fact : Option Text
  confidence : ℚ
  validFrom : Option Time
  validTo : Option Time
deriving DecidableEq

/-- The active row of each key, of which the partial unique index admits one. -/
abbrev EdgeTable := EdgeKey → Option EdgeRow

def EdgeRow.content (row : EdgeRow) : EdgeContent :=
  { properties := row.properties
    confidence := row.confidence
    validFrom := row.validFrom
    validTo := row.validTo }

def contents (table : EdgeTable) (key : EdgeKey) : Option EdgeContent :=
  (table key).map EdgeRow.content

/-- `LEAST` of a column that may be null and a value. -/
def least : Option Time → Time → Time
  | none, start => start
  | some stored, start => min stored start

/-- The row that `create_relationship` inserts. -/
def insertedRow (input : RelationshipInput) : EdgeRow :=
  { id := input.relId
    properties := input.properties
    fact := some []
    confidence := input.certainty
    validFrom := some input.startsAt
    validTo := input.validTo }

/-- The `DO UPDATE SET` part of `create_relationship`. -/
def updatedRow (row : EdgeRow) (input : RelationshipInput) : EdgeRow :=
  { row with
    properties := input.properties
    fact := some []
    confidence := max row.confidence input.certainty
    validFrom := some (least row.validFrom input.startsAt)
    validTo := unionEnd row.validTo input.validTo }

/-- The row that `create_relationship_bulk` inserts. -/
def bulkInsertedRow (input : RelationshipInput) : EdgeRow :=
  { id := input.relId
    properties := input.properties
    fact := none
    confidence := input.certainty
    validFrom := input.validFrom
    validTo := input.validTo }

/-- The `DO UPDATE SET` part of `create_relationship_bulk`. -/
def bulkUpdatedRow (row : EdgeRow) (input : RelationshipInput) : EdgeRow :=
  { row with confidence := max row.confidence input.certainty }

/-- The row of the store of one key. -/
def Row.edgeRow (row : Row) : EdgeRow :=
  { id := row.id
    properties := row.properties
    fact := some []
    confidence := row.confidence
    validFrom := some row.validFrom
    validTo := row.validTo }

/-- Single calls do what they do in the store of one key. -/
theorem insertedRow_eq_edgeRow (input : RelationshipInput) :
    insertedRow input = (insertion input).edgeRow :=
  rfl

theorem updatedRow_edgeRow (row : Row) (input : RelationshipInput) :
    updatedRow row.edgeRow input = (doUpdate row input).edgeRow :=
  rfl

def upsertedRow : Option EdgeRow → RelationshipInput → EdgeRow
  | none, input => insertedRow input
  | some row, input => updatedRow row input

def bulkUpsertedRow : Option EdgeRow → RelationshipInput → EdgeRow
  | none, input => bulkInsertedRow input
  | some row, input => bulkUpdatedRow row input

/-- A database, which may fail to answer the statement for an element. -/
structure World extends EdgeWorld where
  answers : Nat → Bool

section Calls

variable (world : World)

/-- One upsert; the ends are foreign keys. -/
def execute (index : Nat) (key : EdgeKey) (upserted : Option EdgeRow → EdgeRow) :
    Attempt EdgeTable RelationshipFailure (CreatedRelationship EdgeRow) :=
  if world.answers index && world.hasEnds key then
    fun table =>
      (Function.update table key (some (upserted (table key))),
        .ok { key := key, edge := upserted (table key) })
  else Attempt.fail .externalService

/-- `create_relationship` -/
def createRelationship (index : Nat) (key : EdgeKey) (input : RelationshipInput) :
    Attempt EdgeTable RelationshipFailure (CreatedRelationship EdgeRow) :=
  Attempt.savepoint (execute world index key fun stored => upsertedRow stored input)

/-- `create_relationship` with the values of an element. -/
def createElement (element : Element) :
    Attempt EdgeTable RelationshipFailure (CreatedRelationship EdgeRow) :=
  match element.1.required with
  | none => Attempt.fail (.missingKeys element.1)
  | some (source, target, relType) =>
      match world.readId source, world.readId target with
      | some sourceId, some targetId =>
          createRelationship world element.2 ⟨sourceId, targetId, relType⟩
            (world.input element element.1.confidence.join)
      | _, _ => Attempt.fail .externalService

/-- The body of the loop of `create_relationship_bulk`.  The column of the
confidence is not null. -/
def insertElement (element : Element) :
    Attempt EdgeTable RelationshipFailure (CreatedRelationship EdgeRow) :=
  match element.1.required with
  | none => Attempt.fail (.missingKeys element.1)
  | some (source, target, relType) =>
      match world.readId source, world.readId target, element.1.confidence.getD (some 1) with
      | some sourceId, some targetId, some confidence =>
          execute world element.2 ⟨sourceId, targetId, relType⟩ fun stored =>
            bulkUpsertedRow stored (world.input element (some confidence))
      | _, _, _ => Attempt.fail .externalService

/-- `create_relationship_bulk` -/
def createRelationshipBulk (relationships : List RelationshipDict) :
    Attempt EdgeTable RelationshipFailure (List (CreatedRelationship EdgeRow)) :=
  if relationships.isEmpty then pure []
  else Attempt.savepoint (Attempt.collect (insertElement world) relationships.zipIdx)

/-- The key and the arguments of an element whose statement stores a row; there
is none where a key is missing, an end unreadable or unknown, the confidence
`None`, or the statement not answered. -/
def entry (element : Element) : Option (EdgeKey × RelationshipInput) :=
  match element.1.required with
  | none => none
  | some (source, target, relType) =>
      match world.readId source, world.readId target, element.1.confidence.getD (some 1) with
      | some sourceId, some targetId, some confidence =>
          if world.answers element.2 && world.hasEnds ⟨sourceId, targetId, relType⟩ then
            some (⟨sourceId, targetId, relType⟩, world.input element (some confidence))
          else none
      | _, _, _ => none

end Calls

end Postgres

namespace FalkorDB

/-- The edge of each key, of which `MERGE` makes one. -/
abbrev EdgeGraph := EdgeKey → Option Edge

def Edge.content (edge : Edge) : EdgeContent :=
  { properties := edge.properties
    confidence := edge.confidence
    validFrom := edge.validFrom
    validTo := edge.validTo }

def contents (graph : EdgeGraph) (key : EdgeKey) : Option EdgeContent :=
  (graph key).map Edge.content

def mergedEdge : Option Edge → RelationshipInput → Edge
  | none, input => onCreate input
  | some edge, input => onMatch edge input

/-- A server, which may be unreachable, and may refuse the query for an element
or lose its answer. -/
structure World extends EdgeWorld where
  connected : Bool
  fates : Nat → Attempt.Fate

section Calls

variable (world : World)

/-- The query of `create_relationship`, which does nothing without both ends. -/
def merge (key : EdgeKey) (input : RelationshipInput) (graph : EdgeGraph) : EdgeGraph :=
  if world.hasEnds key then Function.update graph key (some (mergedEdge (graph key) input))
  else graph

/-- `create_relationship` -/
def createRelationship (index : Nat) (source target : Uuid) (relationshipType : Text)
    (input : RelationshipInput) :
    Attempt EdgeGraph RelationshipFailure (CreatedRelationship Edge) :=
  if !world.connected then Attempt.fail .notConnected
  else
    match storedEdgeType relationshipType with
    | none => Attempt.fail (.unsafeEdgeType relationshipType)
    | some relType => do
        let key : EdgeKey := ⟨source, target, relType⟩
        Attempt.remote (world.fates index) .externalService (merge world key input)
        let rows ← Attempt.read fun graph => if world.hasEnds key then graph key else none
        match rows with
        | none => Attempt.fail (.notFound source target)
        | some edge => pure { key := key, edge := edge }

/-- `create_relationship` with the values of an element, the body of the loop of
`create_relationship_bulk`. -/
def createElement (element : Element) :
    Attempt EdgeGraph RelationshipFailure (CreatedRelationship Edge) :=
  match element.1.required with
  | none => Attempt.fail (.missingKeysAt element.2)
  | some (source, target, relType) =>
      match world.readId source with
      | none => Attempt.fail (.badlyFormed source)
      | some sourceId =>
          match world.readId target with
          | none => Attempt.fail (.badlyFormed target)
          | some targetId =>
              createRelationship world element.2 sourceId targetId relType
                (world.input element element.1.confidence.join)

/-- `create_relationship_bulk` -/
def createRelationshipBulk (relationships : List RelationshipDict) :
    Attempt EdgeGraph RelationshipFailure (List (CreatedRelationship Edge)) :=
  if !world.connected then Attempt.fail .notConnected
  else Attempt.collect (createElement world) relationships.zipIdx

/-- The key and the arguments of an element whose query merges an edge where it
is carried out. -/
def entry (element : Element) : Option (EdgeKey × RelationshipInput) :=
  match element.1.required with
  | none => none
  | some (source, target, relType) =>
      match world.readId source, world.readId target, storedEdgeType relType with
      | some sourceId, some targetId, some relType =>
          if world.hasEnds ⟨sourceId, targetId, relType⟩ then
            some (⟨sourceId, targetId, relType⟩,
              world.input element element.1.confidence.join)
          else none
      | _, _, _ => none

/-- The element is merged and its query answered. -/
def Lands (element : Element) : Prop :=
  (entry world element).isSome = true ∧ world.fates element.2 = .answered

instance (element : Element) : Decidable (Lands world element) :=
  inferInstanceAs (Decidable (_ ∧ _))

/-- What is merged up to the first element that fails: a lost answer leaves that
element merged as well. -/
def written : List Element → List (EdgeKey × RelationshipInput)
  | [] => []
  | element :: elements =>
      match entry world element, world.fates element.2 with
      | some merged, .answered => merged :: written elements
      | some merged, .lost => [merged]
      | _, _ => []

end Calls

end FalkorDB

end OpenZync.Graph
