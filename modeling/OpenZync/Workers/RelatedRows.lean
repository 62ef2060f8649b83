import OpenZync.Facts.Assertions
import OpenZync.Library.FirstItems
import OpenZync.Workers.EntityMatching

/-!
# Rows related by their content

A created row is related to the last fact handed over with its content text,
and the text of one triple can be the text of another.  The rows that a request
creates are those of the admitted assertions of its ingest, one by one, so the last
row with a content is that of the last admitted entry with it.
-/

namespace OpenZync.Workers.ExtractFacts

open OpenZync.Facts OpenZync.Library

/-- The texts of a fact. -/
def FactOutput.triple (output : FactOutput) : Triple :=
  ⟨output.subject, output.predicate, output.object⟩

def FactDict.triple (fact : FactDict) : Triple :=
  ⟨fact.subject, fact.predicate, fact.object⟩

/-- The texts of a triple without surrounding blanks, as `_prepare_entry` stores
them. -/
def trimmed (triple : Triple) : Triple :=
  ⟨Text.strip triple.subject, Text.strip triple.predicate, Text.strip triple.object⟩

/-- The triple that the texts of a slot are handed over as. -/
def resolvedTriple (casing : Casing) (known : List KnownEntity) (triple : Triple) : Triple :=
  { subject := canonicalName casing known (Text.strip triple.subject)
    predicate := Text.strip triple.predicate
    object := canonicalName casing known (Text.strip triple.object) }

namespace FactsRequest

variable (casing : Casing) (store : FactStore) (request : FactsRequest) (content : Text)

/-- The fact that the rows with a content are related to: the last one handed over
with it. -/
def lastHanded : Option FactDict :=
  (request.resolvedFacts casing).reverse.find? fun fact => decide (fact.content = content)

/-- The last entry with a content that the ingest inserts. -/
def lastInserted : Option Entry :=
  ((request.ingestCall casing).inserted casing store).reverse.find? fun entry =>
    decide (entry.content = content)

end FactsRequest

section

variable {casing : Casing} {request : FactsRequest} {store : FactStore}
variable {result : ProcessedFacts}

theorem output_of_handed {fact : FactDict} (handed : fact ∈ request.resolvedFacts casing) :
    1 ≤ fact.slot ∧ fact.slot ≤ request.parsed.length ∧
      ∃ output, request.parsed[fact.slot - 1]? = some output ∧
        fact.triple = resolvedTriple casing request.knownEntities output.triple := by
  obtain ⟨index, output, kept, found, filtered, rfl⟩ := mem_resolvedFacts handed
  obtain ⟨rfl, _⟩ := filterFact_eq_some filtered
  obtain ⟨within, _⟩ := List.getElem?_eq_some_iff.mp found
  simp only [resolveFact_slot]
  refine ⟨Nat.le_add_left 1 index, within, output, by simpa using found, ?_⟩
  simp [FactDict.triple, resolvedTriple, FactOutput.triple]

theorem eq_of_slot {fact other : FactDict} (handed : fact ∈ request.resolvedFacts casing)
    (otherHanded : other ∈ request.resolvedFacts casing) (same : fact.slot = other.slot) :
    fact = other := by
  obtain ⟨index, output, kept, found, filtered, rfl⟩ := mem_resolvedFacts handed
  obtain ⟨index', output', kept', found', filtered', rfl⟩ := mem_resolvedFacts otherHanded
  obtain ⟨rfl, _⟩ := filterFact_eq_some filtered
  obtain ⟨rfl, _⟩ := filterFact_eq_some filtered'
  simp only [resolveFact_slot, Nat.add_right_cancel_iff] at same
  subst same
  rw [found, Option.some_inj] at found'
  rw [found']

theorem processed_ok (processed : processFactsOutput casing store request = .ok result) :
    ∃ outcome, ingestWithSupersession casing request.collaborators store
        (request.ingestCall casing) = .ok outcome ∧
      result.newFacts = outcome.result.created ∧
      result.slotMap = ((List.range' 1 request.parsed.length).map fun slot =>
        (slot, (request.slotsOf casing result.newFacts).get? slot)) ∧
      result.relationships = result.newFacts.filterMap fun row =>
        ((request.inputOf casing row).bind (request.relationshipFor casing)).map
          fun edge => (row, edge) := by
  obtain ⟨outcome, ingested, same⟩ := bind_eq_ok.mp processed
  cases same
  exact ⟨outcome, ingested, rfl, rfl, rfl⟩

theorem created_rows (processed : processFactsOutput casing store request = .ok result) :
    List.Forall₂ (RowOf (request.ingestCall casing).ctx)
      ((request.ingestCall casing).inserted casing store) result.newFacts := by
  obtain ⟨outcome, ingested, same, _⟩ := processed_ok processed
  rw [same]
  exact ingest_inserted ingested

theorem inputOf_eq (row : Fact) :
    request.inputOf casing row = request.lastHanded casing row.content :=
  Library.Dict.get?_keyed ..

theorem lastHanded_eq_some {content : Text} {input : FactDict}
    (last : request.lastHanded casing content = some input) :
    input ∈ request.resolvedFacts casing ∧ input.content = content := by
  obtain ⟨handed, same⟩ := lookup_some last
  exact ⟨List.mem_reverse.mp handed, same⟩

theorem content_of_rowOf {ctx : BatchCtx} {entry : Entry} {row : Fact}
    (rowOf : RowOf ctx entry row) : row.content = entry.content := by
  rw [rowOf]
  rfl

theorem last_created (processed : processFactsOutput casing store request = .ok result)
    (content : Text) :
    Option.Rel (RowOf (request.ingestCall casing).ctx)
      (request.lastInserted casing store content)
      (result.newFacts.reverse.find? fun row => decide (row.content = content)) := by
  apply find?_rel _ (List.rel_reverse (created_rows processed))
  intro entry row rowOf
  rw [content_of_rowOf rowOf]

end

/-- A fact that states its texts and its start only. -/
def FactOutput.ofTriple (triple : Triple) (validFrom : Option Time) : FactOutput :=
  { subject := triple.subject
    predicate := triple.predicate
    object := triple.object
    confidence := 1
    subjectType := none
    objectType := none
    validFrom := validFrom
    validTo := none }

/-- A request for the given facts at the instant 10, without known entities or
existing facts. -/
def FactsRequest.ofFacts (repository : Option EntityRepository) (facts : List FactOutput) :
    FactsRequest :=
  { orgId := 1
    projectId := 1
    userId := 1
    episodeId := 1
    graphBackend := false
    entityRepository := repository
    episodeRepository := true
    arqRedis := false
    parsed := facts
    knownEntities := []
    existingFacts := []
    now := 10 }

end OpenZync.Workers.ExtractFacts
