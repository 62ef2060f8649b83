import OpenZync.Facts.Store

/-!
# Edge keys and the expire set

The pure half of `GraphEdgeSyncService`: which graph edge a fact carries, the
transition recorded when a fact is closed, and the reduction of those
transitions to expiry commands by the D1 rule.
-/

namespace OpenZync

open Facts

/-- Triple key of a graph edge derived from a fact. -/
structure EdgeKey where
  sourceId : Uuid
  targetId : Uuid
  relationshipType : Text
  deriving DecidableEq

/-- The SPO strings carried as provenance. -/
structure Triple where
  subject : Text
  predicate : Text
  object : Text
  deriving DecidableEq

/-- One old-fact to successor transition; no successor for a retraction. -/
structure SupersessionEvent where
  oldFactId : Uuid
  newFactId : Option Uuid
  triple : Triple
  oldEdgeKey : Option EdgeKey
  successorReasserts : Bool
  deriving DecidableEq

/-- One edge-expiry unit: the triple key and the deterministic instant. -/
structure EdgeExpiryCommand where
  orgId : Uuid
  projectId : Uuid
  edgeKey : EdgeKey
  atTime : Time
  factId : Uuid
  deriving DecidableEq

/-- A fact yields an edge key only when both entity IDs resolve and its
predicate is not blank. -/
def edgeKeyForFact (fact : Fact) : Option EdgeKey :=
  match fact.subjectEntityId, fact.objectEntityId, fact.predicate with
  | some source, some target, some predicate =>
      if Text.strip predicate = [] then none
      else some ⟨source, target, predicate⟩
  | _, _, _ => none

def makeSupersessionEvent (oldFact : Fact) (newFact : Option Fact)
    (triple : Triple) : SupersessionEvent :=
  { oldFactId := oldFact.id
    newFactId := newFact.map Fact.id
    triple := triple
    oldEdgeKey := edgeKeyForFact oldFact
    successorReasserts :=
      (edgeKeyForFact oldFact).isSome &&
        decide (newFact.bind edgeKeyForFact = edgeKeyForFact oldFact) }

/-- The D1 rule on one transition: a literal fact has no edge, a successor
that re-asserts the key keeps it, every other transition expires it. -/
def expiryCommand (orgId projectId : Uuid) (atTime : Time)
    (event : SupersessionEvent) : Option EdgeExpiryCommand :=
  match event.oldEdgeKey with
  | none => none
  | some key =>
      if event.newFactId.isSome && event.successorReasserts then none
      else some ⟨orgId, projectId, key, atTime, event.oldFactId⟩

def computeExpiryCommands (events : List SupersessionEvent)
    (orgId projectId : Uuid) (atTime : Time) : List EdgeExpiryCommand :=
  events.filterMap (expiryCommand orgId projectId atTime)

end OpenZync
