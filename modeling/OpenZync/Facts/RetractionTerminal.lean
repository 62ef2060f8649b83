import OpenZync.Facts.ConflictFreedom

/-!
# Retraction is terminal for an assertion

A retracted row stays in the table with its triple and its entities, whatever
the service does afterwards, and the tombstone scan of every later ingest
finds it by entity or by case-insensitive text.  The entry it settles is
dropped, wherever it stands in its batch.
-/

namespace OpenZync.Facts

open OpenZync.Library

/-- The part of a row that the conflict rule reads. -/
def Fact.SameAssertion (left right : Fact) : Prop :=
  left.InScope right.organizationId right.projectId ∧ left.subject = right.subject ∧
    left.predicate = right.predicate ∧ left.object = right.object ∧
    left.subjectEntityId = right.subjectEntityId ∧
    left.objectEntityId = right.objectEntityId

/-- The store keeps a retracted row of the assertion. -/
def Tombstone (fact : Fact) (store : FactStore) : Prop :=
  ∃ row ∈ store.facts, row.invalidAt.isSome = true ∧ row.SameAssertion fact

/-- Text the database and the runtime fold to the same lower case. -/
def SameFolded (casing : Casing) (stored written : Option Text) : Prop :=
  stored.isSome = true ∧ stored.map casing.sqlLower = written.map casing.lower

/-- The triple of `written` repeats the stored one up to letter case of
subject and object. -/
def Fact.SpelledLike (casing : Casing) (written stored : Fact) : Prop :=
  SameFolded casing stored.subject written.subject ∧
    stored.predicate = written.predicate ∧
    SameFolded casing stored.object written.object

theorem tombstone_ingest {casing : Casing} {collaborators : Collaborators}
    {store : FactStore} {call : IngestCall} {outcome : IngestOutcome} {fact : Fact}
    (tombstone : Tombstone fact store)
    (ingested : ingestWithSupersession casing collaborators store call = .ok outcome) :
    Tombstone fact outcome.store := by
  obtain ⟨row, member, retracted, same⟩ := tombstone
  obtain ⟨successor, kept⟩ := ingest_row_kept ingested member
  refine ⟨_, kept, ?_, ?_⟩
  · unfold Fact.closedAt
    split <;> exact retracted
  · unfold Fact.closedAt
    split <;> exact same

theorem tombstone_retract {collaborators : Collaborators} {store : FactStore}
    {call : RetractCall} {outcome : InvalidationOutcome} {fact : Fact}
    (tombstone : Tombstone fact store)
    (retraction : retractFact collaborators store call = .ok outcome) :
    Tombstone fact outcome.store := by
  obtain ⟨row, member, retracted, same⟩ := tombstone
  obtain ⟨_, _, _, _, ⟨_, unchanged, _⟩ | ⟨_, facts, _⟩⟩ := retractFact_ok retraction
  · rw [unchanged]
    exact ⟨row, member, retracted, same⟩
  · rw [Tombstone, facts, FactStore.rewrite]
    refine ⟨_, List.mem_map_of_mem member, ?_, ?_⟩
    · split
      · rfl
      · exact retracted
    · split <;> exact same

theorem tombstone_invalidate {collaborators : Collaborators} {store : FactStore}
    {call : LlmCall} {outcome : InvalidationOutcome} {fact : Fact}
    (tombstone : Tombstone fact store)
    (applied : applyLlmInvalidations collaborators store call = .ok outcome) :
    Tombstone fact outcome.store := by
  obtain ⟨row, member, retracted, same⟩ := tombstone
  obtain ⟨closed, lineage, facts, _, _⟩ := applyLlmInvalidations_facts applied
  refine ⟨_, facts ▸ List.mem_map_of_mem member, ?_, ?_⟩
  · unfold Fact.closedAt
    split <;> exact retracted
  · unfold Fact.closedAt
    split <;> exact same

theorem tombstone_step {casing : Casing} {collaborators : Collaborators}
    {ledger : Ledger} {fact : Fact} (tombstone : Tombstone fact ledger.store)
    (operation : FactOperation) :
    Tombstone fact (ledger.step casing collaborators operation).store := by
  rcases ledger.step_cases casing collaborators operation with
    ⟨store, performed, stepped⟩ | unchanged
  · rw [stepped]
    cases operation with
    | ingest call =>
        obtain ⟨outcome, ingested, rfl⟩ := map_eq_ok.mp performed
        exact tombstone_ingest tombstone ingested
    | retract call =>
        obtain ⟨outcome, retraction, rfl⟩ := map_eq_ok.mp performed
        exact tombstone_retract tombstone retraction
    | invalidate call =>
        obtain ⟨outcome, applied, rfl⟩ := map_eq_ok.mp performed
        exact tombstone_invalidate tombstone applied
  · rw [unchanged]
    exact tombstone

theorem tombstone_of_retraction {collaborators : Collaborators} {store : FactStore}
    {retraction : RetractCall} {retracted : InvalidationOutcome}
    (performed : retractFact collaborators store retraction = .ok retracted)
    (ended : retracted.closedCount = 1) {fact : Fact} (member : fact ∈ store.facts)
    (named : fact.id = retraction.factId) : Tombstone fact retracted.store := by
  obtain ⟨_, _, _, _, ⟨_, _, zero⟩ | ⟨_, facts, _⟩⟩ := retractFact_ok performed
  · rw [ended] at zero
    cases zero
  · refine ⟨{ fact with invalidAt := some retraction.atTime }, ?_, rfl,
      ⟨rfl, rfl⟩, rfl, rfl, rfl, rfl, rfl⟩
    rw [facts, FactStore.rewrite]
    exact List.mem_map.mpr ⟨fact, member, if_pos named⟩

theorem tombstone_run {casing : Casing} {collaborators : Collaborators}
    {ledger : Ledger} {fact : Fact} (tombstone : Tombstone fact ledger.store)
    (operations : List FactOperation) :
    Tombstone fact (operations.foldl (Ledger.step casing collaborators) ledger).store := by
  induction operations generalizing ledger with
  | nil => exact tombstone
  | cons operation operations induction => exact induction (tombstone_step tombstone operation)

theorem keyTerm_text_matches {casing : Casing} {raw : Text} {column : Option Text}
    {entityId : Option Uuid} (folded : SameFolded casing column (some raw)) :
    (KeyTerm.text raw).matches casing entityId column = true :=
  decide_eq_true folded.2

theorem matchKeys_reach {casing : Casing} {ctx : BatchCtx} {entry : Entry} {row : Fact}
    (conflict : (rowFor ctx entry).ConflictsWith casing row)
    (reached : ((rowFor ctx entry).Resolved ∧ row.Resolved) ∨
      (rowFor ctx entry).SpelledLike casing row) :
    ∃ key ∈ entry.matchKeys, key.matches casing row = true := by
  rcases reached with resolved | ⟨subject, predicate, object⟩
  · rcases conflict with ⟨_, subject, predicate, object⟩ | ⟨unresolved, _⟩
    · obtain ⟨subjectId, subjectSome⟩ := Option.isSome_iff_exists.mp resolved.1.1
      obtain ⟨objectId, objectSome⟩ := Option.isSome_iff_exists.mp resolved.1.2
      have entrySubject : entry.subjectEntityId = some subjectId := subjectSome
      have entryObject : entry.objectEntityId = some objectId := objectSome
      refine ⟨⟨.entity subjectId, entry.predicate, .entity objectId⟩, ?_, ?_⟩
      · simp [Entry.matchKeys, entrySubject, entryObject]
      · have sameSubject : row.subjectEntityId = some subjectId :=
          subject.symm.trans subjectSome
        have sameObject : row.objectEntityId = some objectId :=
          object.symm.trans objectSome
        have samePredicate : row.predicate = some entry.predicate := predicate.symm
        simp [MatchKey.matches, KeyTerm.matches, sameSubject, sameObject, samePredicate]
    · exact absurd resolved unresolved
  · refine ⟨entry.textKey, entry.textKey_mem_matchKeys, ?_⟩
    have samePredicate : row.predicate = some entry.predicate := predicate
    simp [MatchKey.matches, Entry.textKey, keyTerm_text_matches subject,
      keyTerm_text_matches object, samePredicate]

theorem tombstone_drops {casing : Casing} {call : IngestCall} {store : FactStore}
    {fact : Fact} (tombstone : Tombstone fact store)
    (inScope : fact.InScope call.orgId call.projectId) {entry : Entry}
    (member : entry ∈ call.entries casing)
    (named : entry.nameIdentity casing = nameIdentityOfFact casing fact)
    (conflict : (rowFor call.ctx entry).ConflictsWith casing fact)
    (reached : ((rowFor call.ctx entry).Resolved ∧ fact.Resolved) ∨
      (rowFor call.ctx entry).SpelledLike casing fact) :
    isTombstoned casing (call.tombstones casing store) entry = true := by
  obtain ⟨row, rowMember, retracted, ⟨sameOrg, sameProject⟩, subject, predicate, object,
    subjectId, objectId⟩ := tombstone
  have rowConflict : (rowFor call.ctx entry).ConflictsWith casing row := by
    simpa [Fact.ConflictsWith, Fact.Resolved, nameIdentityOfFact, subject, predicate,
      object, subjectId, objectId] using conflict
  have rowReached : ((rowFor call.ctx entry).Resolved ∧ row.Resolved) ∨
      (rowFor call.ctx entry).SpelledLike casing row := by
    simpa [Fact.SpelledLike, Fact.Resolved, subject, predicate, object, subjectId,
      objectId] using reached
  have rowNamed : nameIdentityOfFact casing row = entry.nameIdentity casing := by
    rw [named]
    simp [nameIdentityOfFact, subject, predicate, object]
  have rowScope : row.InScope call.orgId call.projectId :=
    ⟨sameOrg.trans inScope.1, sameProject.trans inScope.2⟩
  obtain ⟨key, keyMember, matched⟩ := matchKeys_reach rowConflict rowReached
  have scanned : ((call.entries casing).flatMap Entry.matchKeys).any
      (fun key => key.matches casing row) = true :=
    List.any_eq_true.mpr ⟨key, List.mem_flatMap.mpr ⟨entry, member, keyMember⟩, matched⟩
  refine List.any_eq_true.mpr ⟨row, mem_bucketByName.mpr ⟨?_, rowNamed⟩,
    (candidateConflicts_iff casing call.ctx entry row).mpr rowConflict⟩
  refine List.mem_filter.mpr ⟨rowMember, ?_⟩
  simp only [Bool.and_eq_true, decide_eq_true_eq]
  exact ⟨⟨rowScope, retracted⟩, scanned⟩

/-- Once a fact is retracted, no later ingest of its project creates a fact of
its name identity that makes the same assertion: with its entities and
predicate where both facts resolve theirs, and with its predicate and its
subject and object up to letter case where they do not. -/
theorem retraction_terminal {casing : Casing} {collaborators : Collaborators}
    {store : FactStore} {retraction : RetractCall} {retracted : InvalidationOutcome}
    (performed : retractFact collaborators store retraction = .ok retracted)
    (ended : retracted.closedCount = 1) {fact : Fact} (member : fact ∈ store.facts)
    (named : fact.id = retraction.factId) (operations : List FactOperation)
    {call : IngestCall} {outcome : IngestOutcome}
    (ingested : ingestWithSupersession casing collaborators
      (operations.foldl (Ledger.step casing collaborators)
        ⟨retracted.store, retraction.atTime⟩).store call = .ok outcome)
    (inScope : fact.InScope call.orgId call.projectId) :
    ∀ created ∈ outcome.result.created,
      nameIdentityOfFact casing created = nameIdentityOfFact casing fact →
      created.ConflictsWith casing fact →
      ¬ ((created.Resolved ∧ fact.Resolved) ∨ created.SpelledLike casing fact) := by
  intro created createdMember sameIdentity conflict reached
  have tombstone := @tombstone_run casing collaborators
    ⟨retracted.store, retraction.atTime⟩ fact
    (tombstone_of_retraction performed ended member named) operations
  obtain ⟨entry, entryMember, live, row⟩ := ingest_created ingested createdMember
  rw [row] at sameIdentity conflict reached
  have dropped := tombstone_drops tombstone inScope entryMember sameIdentity conflict reached
  rw [live] at dropped
  cases dropped

/-- A retracted fact is not created again in another letter case. -/
theorem retraction_terminal_caseVariant :
    ∃ retracted outcome,
      retractFact ⟨false, false, false⟩ firstEpisodeLedger.store ⟨0, 1, 1, none, 20⟩ =
          .ok retracted ∧
        ingestWithSupersession Casing.ascii ⟨false, false, false⟩ retracted.store
          (.ofForms 2 [.ofTriple "ACME" "uses" "GO" "again"] 30) = .ok outcome ∧
        outcome.result.skippedCount = 1 ∧ firstEpisodeLedger.store.facts.length = 1 ∧
        ∀ fact ∈ firstEpisodeLedger.store.facts, ∀ created ∈ outcome.result.created,
          nameIdentityOfFact Casing.ascii created =
              nameIdentityOfFact Casing.ascii fact →
            created.ConflictsWith Casing.ascii fact →
            ¬ ((created.Resolved ∧ fact.Resolved) ∨
              created.SpelledLike Casing.ascii fact) := by
  obtain ⟨retracted, performed, tested⟩ : ∃ retracted,
      retractFact ⟨false, false, false⟩ firstEpisodeLedger.store ⟨0, 1, 1, none, 20⟩ =
          .ok retracted ∧
        (decide (retracted.closedCount = 1) &&
          (ingestWithSupersession Casing.ascii ⟨false, false, false⟩ retracted.store
            (.ofForms 2 [.ofTriple "ACME" "uses" "GO" "again"] 30)).toOption.any
              fun outcome => decide (outcome.result.skippedCount = 1)) = true :=
    exists_ok (by decide)
  rw [Bool.and_eq_true] at tested
  obtain ⟨outcome, ingested, skipped⟩ := exists_ok tested.2
  have only : ∀ fact ∈ firstEpisodeLedger.store.facts,
      fact.id = 0 ∧ fact.InScope 1 1 := by
    decide
  exact ⟨retracted, outcome, performed, ingested, of_decide_eq_true skipped, by decide,
    fun fact member => retraction_terminal performed (of_decide_eq_true tested.1) member
      (only fact member).1 [] ingested (only fact member).2⟩

/-- The ledger in which "Alice likes Tea" between entities 7 and 8 was
retracted. -/
def retractedLedger : Ledger :=
  [FactOperation.ingest (.ofForms 1
      [{ FactForm.ofTriple "Alice" "likes" "Tea" "Alice likes tea" with
        subjectEntityId := some 7
        objectEntityId := some 8 }] 10),
    .retract ⟨0, 1, 1, none, 20⟩].foldl
    (Ledger.step Casing.ascii ⟨false, false, false⟩) (Ledger.initial 0)

/-- The same names between other entities are another fact: it is created and
active. -/
theorem otherEntities_createdAfterRetraction :
    ∃ outcome,
      ingestWithSupersession Casing.ascii ⟨false, false, false⟩ retractedLedger.store
          (.ofForms 2 [{ FactForm.ofTriple "Alice" "likes" "Tea" "Alice likes tea" with
            subjectEntityId := some 9
            objectEntityId := some 8 }] 30) = .ok outcome ∧
        ∃ retracted ∈ retractedLedger.store.facts, retracted.invalidAt = some 20 ∧
          ∃ created ∈ outcome.result.created, created ∈ outcome.store.facts ∧
            created.EffectiveAt 30 ∧
            nameIdentityOfFact Casing.ascii created =
              nameIdentityOfFact Casing.ascii retracted := by
  obtain ⟨outcome, ingested, tested⟩ : ∃ outcome,
      ingestWithSupersession Casing.ascii ⟨false, false, false⟩ retractedLedger.store
          (.ofForms 2 [{ FactForm.ofTriple "Alice" "likes" "Tea" "Alice likes tea" with
            subjectEntityId := some 9
            objectEntityId := some 8 }] 30) = .ok outcome ∧
        decide (∃ retracted ∈ retractedLedger.store.facts, retracted.invalidAt = some 20 ∧
          ∃ created ∈ outcome.result.created, created ∈ outcome.store.facts ∧
            created.EffectiveAt 30 ∧
            nameIdentityOfFact Casing.ascii created =
              nameIdentityOfFact Casing.ascii retracted) = true :=
    exists_ok (by decide)
  exact ⟨outcome, ingested, of_decide_eq_true tested⟩

end OpenZync.Facts
