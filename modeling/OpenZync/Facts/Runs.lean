import OpenZync.Facts.IdentityRefinement
import OpenZync.Facts.Invalidation

/-!
# Runs of the fact service

Requests on one fact store, one transaction each.  A request that raises is
rolled back, so it leaves the tables as they were and only time passes.
-/

namespace OpenZync.Facts

open OpenZync.Library

/-- The store and the instant of the last request. -/
structure Ledger where
  store : FactStore
  clock : Time

/-- The ledger before any request. -/
def Ledger.initial (clock : Time) : Ledger :=
  ⟨FactStore.empty, clock⟩

/-- A request of the fact service. -/
inductive FactOperation where
  | ingest (call : IngestCall)
  | retract (call : RetractCall)
  | invalidate (call : LlmCall)

namespace FactOperation

def now : FactOperation → Time
  | .ingest call => call.now
  | .retract call => call.atTime
  | .invalidate call => call.now

/-- The tables a request commits. -/
def perform (casing : Casing) (collaborators : Collaborators) (store : FactStore) :
    FactOperation → Except FactError FactStore
  | .ingest call =>
      (ingestWithSupersession casing collaborators store call).map IngestOutcome.store
  | .retract call =>
      (retractFact collaborators store call).map InvalidationOutcome.store
  | .invalidate call =>
      (applyLlmInvalidations collaborators store call).map InvalidationOutcome.store

end FactOperation

/-- One request: commit its tables, or roll back. -/
def Ledger.step (casing : Casing) (collaborators : Collaborators) (ledger : Ledger)
    (operation : FactOperation) : Ledger :=
  match operation.perform casing collaborators ledger.store with
  | .ok store => ⟨store, operation.now⟩
  | .error _ => ⟨ledger.store, operation.now⟩

/-- One ingest request. -/
def Ledger.ingest (casing : Casing) (collaborators : Collaborators) (ledger : Ledger)
    (call : IngestCall) : Ledger :=
  ledger.step casing collaborators (.ingest call)

/-- A form that gives its triple and its content. -/
def FactForm.ofTriple (subject predicate object content : String) : FactForm :=
  { subject := some subject.toList
    predicate := some predicate.toList
    object := some object.toList
    content := some content.toList
    confidence := none
    subjectType := none
    objectType := none
    subjectEntityId := none
    objectEntityId := none
    validFrom := none
    validTo := none }

/-- The call the extraction workers make for one episode. -/
def IngestCall.ofForms (episode : Uuid) (facts : List FactForm) (now : Time) : IngestCall :=
  { orgId := 1
    projectId := 1
    userId := 1
    facts := facts
    sourceEpisodeId := some episode
    insertMode := .batchCreateOrSkip
    now := now }

/-- One episode stated a content of "Acme uses Go". -/
def firstEpisodeLedger : Ledger :=
  (Ledger.initial 0).ingest Casing.ascii ⟨false, false, false⟩
    (.ofForms 1 [.ofTriple "Acme" "uses" "Go" "first"] 10)

/-- No form of the call gives a validity bound. -/
def IngestCall.Undated (call : IngestCall) : Prop :=
  ∀ form ∈ call.facts, form.validFrom = none ∧ form.validTo = none

instance (call : IngestCall) : Decidable call.Undated :=
  inferInstanceAs (Decidable (∀ form ∈ call.facts, _))

/-- A request commits the tables it produced, or changes nothing. -/
theorem Ledger.step_cases (casing : Casing) (collaborators : Collaborators)
    (ledger : Ledger) (operation : FactOperation) :
    (∃ store, operation.perform casing collaborators ledger.store = .ok store ∧
        ledger.step casing collaborators operation = ⟨store, operation.now⟩) ∨
      ledger.step casing collaborators operation = ⟨ledger.store, operation.now⟩ := by
  unfold Ledger.step
  split
  · rename_i store performed
    exact .inl ⟨store, performed, rfl⟩
  · exact .inr rfl

/-- An ingest request commits the tables of its outcome, or changes nothing. -/
theorem Ledger.ingest_cases (casing : Casing) (collaborators : Collaborators)
    (ledger : Ledger) (call : IngestCall) :
    (∃ outcome,
        ingestWithSupersession casing collaborators ledger.store call = .ok outcome ∧
        ledger.ingest casing collaborators call = ⟨outcome.store, call.now⟩) ∨
      ledger.ingest casing collaborators call = ⟨ledger.store, call.now⟩ := by
  rcases ledger.step_cases casing collaborators (.ingest call) with
    ⟨store, performed, stepped⟩ | unchanged
  · obtain ⟨outcome, ingested, rfl⟩ := map_eq_ok.mp performed
    exact .inl ⟨outcome, ingested, stepped⟩
  · exact .inr unchanged

theorem dedupEntries_sublist (casing : Casing) (entries : List Entry)
    (seen : List (NameIdentity × Text)) :
    (dedupEntries casing entries seen).Sublist entries := by
  induction entries generalizing seen with
  | nil => exact .slnil
  | cons entry entries induction =>
      unfold dedupEntries
      split
      · exact (induction seen).cons entry
      · exact (induction _).cons_cons entry

theorem IngestCall.entry_of_form {casing : Casing} {call : IngestCall} {entry : Entry}
    (member : entry ∈ call.entries casing) :
    ∃ form ∈ call.facts, entry = prepareEntry form call.sourceEpisodeId call.now := by
  obtain ⟨form, formMember, rfl⟩ :=
    List.mem_map.mp ((dedupEntries_sublist casing call.prepared []).subset member)
  exact ⟨form, formMember, rfl⟩

theorem IngestCall.Undated.entry {casing : Casing} {call : IngestCall}
    (undated : call.Undated) {entry : Entry} (member : entry ∈ call.entries casing) :
    entry.validFrom = call.now ∧ entry.validTo = none := by
  obtain ⟨form, formMember, rfl⟩ := call.entry_of_form member
  obtain ⟨noFrom, noTo⟩ := undated form formMember
  simp [prepareEntry, noFrom, noTo]

theorem ingest_row {casing : Casing} {collaborators : Collaborators}
    {store : FactStore} {call : IngestCall} {outcome : IngestOutcome}
    (ingested : ingestWithSupersession casing collaborators store call = .ok outcome)
    {fact : Fact} (member : fact ∈ outcome.store.facts) :
    ∃ original successor,
      fact = { original.closedAt outcome.result.superseded call.now with
        supersededByFactId := successor } ∧
      (original ∈ store.facts ∨
        original ∈ outcome.result.created ∧ store.nextId ≤ original.id ∧
        ∃ entry ∈ call.entries casing,
          isTombstoned casing (call.tombstones casing store) entry = false ∧
          StartsBefore (some entry.validFrom) entry.validTo ∧
          RowOf call.ctx entry original) := by
  obtain ⟨final, _, ledger, _, _, created, superseded, _, facts, _⟩ :=
    ingest_ledger ingested
  rw [facts, ledger.facts, List.map_map] at member
  obtain ⟨original, source, rfl⟩ := List.mem_map.mp member
  obtain ⟨successor, linked⟩ :=
    (original.closedAt final.superseded call.now).withLineage_eq final.events
  refine ⟨original, successor, by rw [superseded]; exact linked, ?_⟩
  rcases List.mem_append.mp source with stored | inserted
  · exact .inl stored
  · obtain ⟨above, _, source⟩ := ledger.created original inserted
    exact .inr ⟨created ▸ inserted, above, source⟩

theorem ingest_created {casing : Casing} {collaborators : Collaborators}
    {store : FactStore} {call : IngestCall} {outcome : IngestOutcome}
    (ingested : ingestWithSupersession casing collaborators store call = .ok outcome)
    {fact : Fact} (member : fact ∈ outcome.result.created) :
    ∃ entry ∈ call.entries casing,
      isTombstoned casing (call.tombstones casing store) entry = false ∧
        RowOf call.ctx entry fact := by
  obtain ⟨final, _, ledger, _, _, created, _⟩ := ingest_ledger ingested
  rw [created] at member
  obtain ⟨_, _, entry, entryMember, live, _, row⟩ := ledger.created fact member
  exact ⟨entry, entryMember, live, row⟩

theorem ingest_row_kept {casing : Casing} {collaborators : Collaborators}
    {store : FactStore} {call : IngestCall} {outcome : IngestOutcome}
    (ingested : ingestWithSupersession casing collaborators store call = .ok outcome)
    {fact : Fact} (member : fact ∈ store.facts) :
    ∃ successor, { fact.closedAt outcome.result.superseded call.now with
      supersededByFactId := successor } ∈ outcome.store.facts := by
  obtain ⟨final, _, ledger, _, _, _, superseded, _, facts, _⟩ := ingest_ledger ingested
  obtain ⟨successor, linked⟩ :=
    (fact.closedAt final.superseded call.now).withLineage_eq final.events
  refine ⟨successor, ?_⟩
  rw [superseded, facts, ← linked, ledger.facts]
  exact List.mem_map_of_mem (List.mem_map_of_mem (List.mem_append_left _ member))

theorem ingest_superseded_active {casing : Casing} {collaborators : Collaborators}
    {store : FactStore} {call : IngestCall} {outcome : IngestOutcome}
    (ingested : ingestWithSupersession casing collaborators store call = .ok outcome)
    {fact : Fact} (member : fact ∈ store.facts)
    (closed : fact.id ∈ outcome.result.superseded) :
    fact.InScope call.orgId call.projectId ∧ fact.EffectiveAt call.now := by
  obtain ⟨final, _, ledger, _, _, _, superseded, _, _⟩ := ingest_ledger ingested
  rw [superseded] at closed
  rcases ledger.closable _ closed with ⟨_, identity, candidate, found, same⟩ |
    ⟨row, created, same⟩
  · have equal := FactStore.eq_of_id
      ((scanned_candidates casing call store).stored found) member same
    subst equal
    have passed := (List.mem_filter.mp (mem_bucketByName.mp found).1).2
    simp only [Bool.and_eq_true, decide_eq_true_eq] at passed
    exact passed.1
  · have above := (ledger.created row created).1
    rw [same] at above
    exact absurd (store.fresh fact member) (Nat.not_lt_of_le above)

/-- A successful invalidation pass is a run of its loop on the stored rows. -/
theorem applyLlmInvalidations_ok {collaborators : Collaborators} {store : FactStore}
    {call : LlmCall} {outcome : InvalidationOutcome}
    (applied : applyLlmInvalidations collaborators store call = .ok outcome) :
    ∃ events skipped, applyInvalidations call call.invalidations (store.getById · none)
      store [] 0 = .ok (outcome.store, events, skipped) := by
  unfold applyLlmInvalidations at applied
  split at applied
  · rename_i none
    cases applied
    exact ⟨[], 0, by rw [none]; rfl⟩
  · obtain ⟨_, _, written⟩ := bind_eq_ok.mp applied
    obtain ⟨⟨last, events, skipped⟩, loop, result⟩ := bind_eq_ok.mp written
    cases result
    exact ⟨events, skipped, loop⟩

/-- What a successful pass did to the fact table: it ended open facts that the
LLM named, and rewrote lineage. -/
theorem applyLlmInvalidations_facts {collaborators : Collaborators} {store : FactStore}
    {call : LlmCall} {outcome : InvalidationOutcome}
    (applied : applyLlmInvalidations collaborators store call = .ok outcome) :
    ∃ (closed : List Uuid) (lineage : Fact → Option Uuid),
      outcome.store.facts = store.facts.map (fun fact =>
        { fact.closedAt closed call.now with supersededByFactId := lineage fact }) ∧
      outcome.store.nextId = store.nextId ∧
      ∀ fact ∈ store.facts, fact.id ∈ closed →
        ¬ fact.Closed ∧ ∃ inv ∈ call.invalidations,
          inv.existingFactRef.bind call.refToFact = some fact.id := by
  obtain ⟨events, skipped, loop⟩ := applyLlmInvalidations_ok applied
  obtain ⟨closed, lineage, _, facts, nextId, _, _, _, _, _, closable⟩ :=
    applyInvalidations_ok (store.loadedById_getById none) loop
  refine ⟨closed, lineage, facts, nextId, ?_⟩
  intro fact member inClosed
  obtain ⟨⟨row, loaded, isOpen⟩, named⟩ := closable fact.id inClosed
  obtain ⟨stored, sameId, _⟩ := FactStore.getById_mem loaded
  have equal := FactStore.eq_of_id stored member sameId
  subst equal
  exact ⟨isOpen, named⟩

end OpenZync.Facts
