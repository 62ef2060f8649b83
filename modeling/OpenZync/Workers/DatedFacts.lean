import OpenZync.Facts.RefusedWrites
import OpenZync.Workers.EntityMatching

/-!
# Dated facts

The filter drops a fact whose window ends before it begins, but looks at the
window the response states.  A fact that states only an end begins at the
instant of the ingest, and when it has ended by then and comes to its insert, the
guard fails the batch.
-/

namespace OpenZync.Workers.ExtractFacts

open OpenZync.Facts OpenZync.Library

/-- A fact without a start does not end by `now`. -/
def FactDict.EndsLater (fact : FactDict) (now : Time) : Prop :=
  fact.validFrom = none → ∀ stop ∈ fact.validTo, now < stop

instance (fact : FactDict) (now : Time) : Decidable (fact.EndsLater now) :=
  inferInstanceAs (Decidable (_ → ∀ stop ∈ fact.validTo, now < stop))

/-- The fact is neither dropped as a repetition or a retracted one, nor does the
database refuse a closing before its turn. -/
def FactsRequest.ComesToInsert (casing : Casing) (store : FactStore) (request : FactsRequest)
    (fact : FactDict) : Prop :=
  ∃ assertion ∈ (request.ingestCall casing).assertions casing store,
    assertion.entry = prepareEntry fact.toForm (some request.episodeId) request.now

theorem alive_iff {casing : Casing} {request : FactsRequest} {fact : FactDict}
    (handed : fact ∈ request.resolvedFacts casing) (episodeId : Option Uuid) :
    (prepareEntry fact.toForm episodeId request.now).Alive ↔ fact.EndsLater request.now := by
  obtain ⟨_, output, kept, _, filtered, rfl⟩ := mem_resolvedFacts handed
  obtain ⟨rfl, _, _, _, window⟩ := filterFact_eq_some filtered
  unfold Entry.Alive StartsBefore FactDict.EndsLater prepareEntry FactDict.toForm
  simp only [resolveFact_validFrom, resolveFact_validTo]
  unfold BornDeadWindow at window
  cases starts : output.validFrom with
  | none => simp
  | some start =>
      rw [starts] at window
      constructor
      · intro _ absent
        cases absent
      · intro _ first isFirst stop isStop
        rw [← Option.mem_some_iff.mp isFirst]
        apply lt_of_not_ge
        intro reversed
        exact window ⟨start, rfl, stop, isStop, reversed⟩

/-- A request fails with the validation error where its ingest comes to the insert
of an entry that ends before it starts. -/
theorem processFacts_raises_iff (casing : Casing) (store : FactStore) (request : FactsRequest) :
    RaisesBornDead (processFactsOutput casing store request) ↔
      ∃ assertion ∈ (request.ingestCall casing).assertions casing store,
        ¬ assertion.entry.Alive := by
  rw [← @ingest_raises_iff casing request.collaborators store (request.ingestCall casing) rfl]
  exact raisesBornDead_bind fun _ => .ok _

/-- The sale is on until the given instant. -/
def saleUntil (stop : Time) : FactOutput :=
  { subject := "Shop".toList
    predicate := "has".toList
    object := "sale".toList
    confidence := 1
    subjectType := none
    objectType := none
    validFrom := none
    validTo := some stop }

/-- A request for one fact, without known entities or existing facts. -/
def FactsRequest.single (fact : FactOutput) (now : Time) : FactsRequest :=
  { orgId := 1
    projectId := 1
    userId := 1
    episodeId := 1
    graphBackend := false
    entityRepository := none
    episodeRepository := true
    arqRedis := false
    parsed := [fact]
    knownEntities := []
    existingFacts := []
    now := now }

end OpenZync.Workers.ExtractFacts
