import Mathlib.Algebra.Order.Ring.Unbundled.Rat
import OpenZync.Text

/-!
# One edge key in two graph stores

`create_relationship`, `expire_relationship` and
`expire_relationships_matching` of the FalkorDB and the PostgreSQL backend, on
the edges of one key: source, target and relationship type.  Both endpoints
exist.  FalkorDB merges every create into one edge of the key; PostgreSQL keeps
a row per interval between two expiries and merges into the active one.
-/

namespace OpenZync.Graph

/-- The arguments of `create_relationship` that reach the edge, with the
instant of the call and the identifier it draws for a new edge. -/
structure RelationshipInput where
  relId : Uuid
  properties : Text
  confidence : Option ℚ
  validFrom : Option Time
  validTo : Option Time
  now : Time
deriving DecidableEq

namespace RelationshipInput

/-- `confidence if confidence is not None else 1.0`. -/
def certainty (input : RelationshipInput) : ℚ :=
  input.confidence.getD 1

/-- `COALESCE(:valid_from, now())`. -/
def startsAt (input : RelationshipInput) : Time :=
  input.validFrom.getD input.now

end RelationshipInput

inductive EdgeOperation where
  | create (input : RelationshipInput)
  /-- `expire_relationship`, which knows the edge by its identifier. -/
  | expireRelationship (relationshipId : Uuid) (now : Time)
  | expireRelationshipsMatching (atTime : Time)
deriving DecidableEq

/-- The calls of `create_relationship` among the operations. -/
def creates : List EdgeOperation → List RelationshipInput :=
  List.filterMap fun
    | .create input => some input
    | _ => none

namespace FalkorDB

/-- The properties of an edge; a property that is not set is null. -/
structure Edge where
  id : Uuid
  properties : Text
  confidence : ℚ
  validFrom : Option Time
  validTo : Option Time
  invalidAt : Option Time
deriving DecidableEq

/-- The `ON CREATE SET` part of the merge. -/
def onCreate (input : RelationshipInput) : Edge :=
  { id := input.relId
    properties := input.properties
    confidence := input.certainty
    validFrom := input.validFrom
    validTo := input.validTo
    invalidAt := none }

/-- The `ON MATCH SET` part of the merge. -/
def onMatch (edge : Edge) (input : RelationshipInput) : Edge :=
  { edge with
    properties := input.properties
    confidence := if edge.confidence < input.certainty then input.certainty else edge.confidence
    validFrom := if input.validFrom.isSome then input.validFrom else edge.validFrom
    validTo := if input.validTo.isSome then input.validTo else edge.validTo }

/-- `SET r.invalid_at` where it is null. -/
def expire (atTime : Time) (edge : Edge) : Edge :=
  if edge.invalidAt.isNone then { edge with invalidAt := some atTime } else edge

/-- The edge of the key after an operation. -/
def perform (edge : Option Edge) : EdgeOperation → Option Edge
  | .create input =>
      match edge with
      | none => some (onCreate input)
      | some edge => some (onMatch edge input)
  | .expireRelationship relationshipId now =>
      edge.map fun edge => if edge.id = relationshipId then expire now edge else edge
  | .expireRelationshipsMatching atTime => edge.map (expire atTime)

def run (operations : List EdgeOperation) : Option Edge :=
  operations.foldl perform none

end FalkorDB

namespace Postgres

/-- A row of `graph_relationships`. -/
structure Row where
  id : Uuid
  properties : Text
  confidence : ℚ
  validFrom : Time
  validTo : Option Time
  invalidAt : Option Time
deriving DecidableEq

def Row.isActive (row : Row) : Bool :=
  row.invalidAt.isNone

/-- The inserted values. -/
def insertion (input : RelationshipInput) : Row :=
  { id := input.relId
    properties := input.properties
    confidence := input.certainty
    validFrom := input.startsAt
    validTo := input.validTo
    invalidAt := none }

/-- The later of two ends, a missing one being never. -/
def unionEnd : Option Time → Option Time → Option Time
  | _, none => none
  | none, some _ => none
  | some stored, some given => some (max stored given)

/-- The `DO UPDATE SET` part of the upsert. -/
def doUpdate (row : Row) (input : RelationshipInput) : Row :=
  { row with
    properties := input.properties
    confidence := max row.confidence input.certainty
    validFrom := min row.validFrom input.startsAt
    validTo := unionEnd row.validTo input.validTo }

/-- Update the active row the partial index finds, or insert one. -/
def upsert (input : RelationshipInput) : List Row → List Row
  | [] => [insertion input]
  | row :: rows =>
      if row.isActive then doUpdate row input :: rows else row :: upsert input rows

/-- `SET invalid_at` where it is null. -/
def expire (atTime : Time) (row : Row) : Row :=
  if row.isActive then { row with invalidAt := some atTime } else row

/-- The rows of the key after an operation. -/
def perform (rows : List Row) : EdgeOperation → List Row
  | .create input => upsert input rows
  | .expireRelationship relationshipId now =>
      rows.map fun row => if row.id = relationshipId then expire now row else row
  | .expireRelationshipsMatching atTime => rows.map (expire atTime)

def run (operations : List EdgeOperation) : List Row :=
  operations.foldl perform []

/-- The active row of the key. -/
def active (operations : List EdgeOperation) : Option Row :=
  (run operations).find? Row.isActive

end Postgres

end OpenZync.Graph
