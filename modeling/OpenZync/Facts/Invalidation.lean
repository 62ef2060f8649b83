import OpenZync.Facts.SupersessionIngest

/-!
# Retraction and LLM-driven invalidation

The two operations that close a fact without a conflicting assertion.
`retract_fact` sets `invalid_at`; `apply_llm_invalidations` sets `valid_to`
on the facts the LLM contradicted.  Both test rows that were loaded before
their advisory locks were taken; a loaded ORM row follows the updates of its
own session and of no other.
-/

namespace OpenZync.Facts

open OpenZync.Library

/-- `get_by_id` with the tenant filter. -/
def FactStore.getById (store : FactStore) (factId : Uuid)
    (organizationId : Option Uuid) : Option Fact :=
  store.facts.find? fun fact =>
    decide (fact.id = factId) &&
      organizationId.all fun org => decide (fact.organizationId = org)

/-- Superseded, expired by date or retracted: `valid_to` or `invalid_at` is
set. -/
def Fact.Closed (fact : Fact) : Prop :=
  fact.validTo.isSome = true ∨ fact.invalidAt.isSome = true

instance (fact : Fact) : Decidable fact.Closed :=
  inferInstanceAs (Decidable (_ ∨ _))

def Fact.triple (fact : Fact) : Triple :=
  ⟨fact.subject.getD [], fact.predicate.getD [], fact.object.getD []⟩

/-- The arguments of one `retract_fact` call. -/
structure RetractCall where
  factId : Uuid
  organizationId : Uuid
  projectId : Uuid
  reason : Option Text
  atTime : Time
  deriving DecidableEq

/-- What a closing operation leaves in the open transaction. -/
structure InvalidationOutcome where
  store : FactStore
  events : List SupersessionEvent
  effects : List PostCommitEffect
  closedCount : Nat
  skippedCount : Nat

/-- `notify_retraction`: the effects of one retraction. -/
def notifyRetraction (collaborators : Collaborators) (orgId projectId : Uuid)
    (oldFact : Fact) (atTime : Time) : List PostCommitEffect :=
  (if collaborators.graphSync then
    [.graphSync orgId projectId
      [makeSupersessionEvent oldFact none ⟨[], [], []⟩] atTime] else []) ++
  (if collaborators.webhookService then
    [.factRetracted oldFact.id oldFact.triple] else []) ++
  (if collaborators.cacheService then
    [.purgeProjectContext orgId projectId] else []) ++
  [.incRetractedTotal 1]

/-- The guards of `retract_fact` on the loaded row: a missing or foreign fact
is not found, a closed fact is left alone. -/
def checkRetraction (call : RetractCall) : Option Fact → Except FactError (Option Fact)
  | none => .error (.notFound call.factId)
  | some fact =>
      if fact.projectId ≠ call.projectId then .error (.notFound call.factId)
      else if fact.Closed then .ok none
      else .ok (some fact)

/-- The writes of `retract_fact` for the loaded row. -/
def writeRetraction (collaborators : Collaborators) (store : FactStore)
    (call : RetractCall) (fact : Fact) : Except FactError InvalidationOutcome := do
  let store ← store.setInvalidAt fact.id call.atTime
  .ok
    { store := store.recordInvalidationEvent
        { organizationId := fact.organizationId
          projectId := fact.projectId
          oldFactId := fact.id
          newFactId := none
          kind := .retracted
          reason := call.reason
          atTime := call.atTime
          sourceEpisodeId := none }
      events := [makeSupersessionEvent fact none ⟨[], [], []⟩]
      effects := notifyRetraction collaborators fact.organizationId
        fact.projectId fact call.atTime
      closedCount := 1
      skippedCount := 0 }

def retractFact (collaborators : Collaborators) (store : FactStore)
    (call : RetractCall) : Except FactError InvalidationOutcome := do
  match ← checkRetraction call (store.getById call.factId (some call.organizationId)) with
  | none => .ok ⟨store, [], [], 0, 1⟩
  | some fact => writeRetraction collaborators store call fact

/-- One explicit invalidation of the LLM output. -/
structure LlmInvalidation where
  existingFactRef : Option Text
  successorFactRef : Option Text
  reason : Option Text
  deriving DecidableEq

/-- The arguments of one `apply_llm_invalidations` call.  The dicts map prompt
references to row identifiers; a successor slot may be present and empty. -/
structure LlmCall where
  orgId : Uuid
  projectId : Uuid
  invalidations : List LlmInvalidation
  refToFact : Text → Option Uuid
  successorByRef : Text → Option (Option Uuid)
  now : Time

/-- Trust boundary: every reference must be one the LLM was given. -/
def checkReferences (call : LlmCall) : List LlmInvalidation → Except FactError Unit
  | [] => .ok ()
  | inv :: invs =>
      match inv.existingFactRef.bind call.refToFact with
      | none => .error (.unknownFactRef inv.existingFactRef)
      | some _ =>
          match inv.successorFactRef with
          | none => checkReferences call invs
          | some ref =>
              match call.successorByRef ref with
              | none => .error (.unknownSuccessorRef ref)
              | some _ => checkReferences call invs

/-- `f"inv:{org_id}:{project_id}:{fact_id}"`. -/
def lockKeyForFact (orgId projectId factId : Uuid) : Text :=
  "inv:".toList ++ Text.ofUuid orgId ++ ':' :: Text.ofUuid projectId ++
    ':' :: Text.ofUuid factId

/-- Advisory-lock keys in acquisition order. -/
def LlmCall.lockKeys (call : LlmCall) : List Text :=
  (((call.invalidations.filterMap fun inv =>
      inv.existingFactRef.bind call.refToFact).dedup).map
    (lockKeyForFact call.orgId call.projectId)).insertionSort (· ≤ ·)

/-- The successor row named by an invalidation; an empty reference is none. -/
def LlmCall.successorOf (call : LlmCall) (inv : LlmInvalidation) : Option Uuid :=
  match inv.successorFactRef with
  | some (c :: cs) => (call.successorByRef (c :: cs)).join
  | _ => none

/-- The `llm_invalidated` event of one closed fact. -/
def llmEvent (call : LlmCall) (old : Fact) (successor : Option Fact)
    (reason : Option Text) : InvalidationEvent :=
  { organizationId := call.orgId
    projectId := call.projectId
    oldFactId := old.id
    newFactId := successor.map Fact.id
    kind := .llmInvalidated
    reason := reason
    atTime := call.now
    sourceEpisodeId := none }

/-- The closing loop of `apply_llm_invalidations`.  A fact whose loaded row is
closed is skipped by the overlap guard, and the loaded row follows the update
of the loop. -/
def applyInvalidations (call : LlmCall) :
    List LlmInvalidation → (Uuid → Option Fact) → FactStore →
      List (SupersessionEvent × Option Text) → Nat →
      Except FactError (FactStore × List (SupersessionEvent × Option Text) × Nat)
  | [], _, store, events, skipped => .ok (store, events, skipped)
  | inv :: invs, loaded, store, events, skipped =>
      match (inv.existingFactRef.bind call.refToFact).bind loaded with
      | none => .error (.unknownFactRef inv.existingFactRef)
      | some old =>
          if old.Closed then applyInvalidations call invs loaded store events (skipped + 1)
          else do
            let successor := (call.successorOf inv).bind (store.getById · none)
            let reason := inv.reason.filter (· ≠ [])
            let store ← store.setValidTo old.id call.now
            let store ← store.setSupersededBy old.id (successor.map Fact.id)
            applyInvalidations call invs
              (Function.update loaded old.id (some { old with validTo := some call.now }))
              (store.recordInvalidationEvent (llmEvent call old successor reason))
              (events ++ [(makeSupersessionEvent old successor old.triple, reason)])
              skipped

/-- The effects of one invalidation pass, in the order they are queued. -/
def llmEffects (collaborators : Collaborators) (call : LlmCall)
    (events : List (SupersessionEvent × Option Text)) : List PostCommitEffect :=
  (if events = [] then []
    else .incInvalidatedTotal events.length ::
      (if collaborators.cacheService then
        [.purgeProjectContext call.orgId call.projectId] else [])) ++
  (if collaborators.webhookService then
    events.map fun (event, reason) =>
      .factInvalidated event.oldFactId event.newFactId event.triple reason
    else []) ++
  (if collaborators.graphSync ∧ events ≠ [] then
    [.graphSync call.orgId call.projectId (events.map Prod.fst) call.now] else [])

/-- The writes of `apply_llm_invalidations` for loaded rows. -/
def writeInvalidations (collaborators : Collaborators) (store : FactStore)
    (call : LlmCall) (loaded : Uuid → Option Fact) :
    Except FactError InvalidationOutcome := do
  let (store, events, skipped) ←
    applyInvalidations call call.invalidations loaded store [] 0
  .ok
    { store := store
      events := events.map Prod.fst
      effects := llmEffects collaborators call events
      closedCount := events.length
      skippedCount := skipped }

def applyLlmInvalidations (collaborators : Collaborators) (store : FactStore)
    (call : LlmCall) : Except FactError InvalidationOutcome :=
  if call.invalidations = [] then .ok ⟨store, [], [], 0, 0⟩
  else do
    checkReferences call call.invalidations
    writeInvalidations collaborators store call (store.getById · none)

theorem FactStore.getById_mem {store : FactStore} {factId : Uuid} {org : Option Uuid}
    {fact : Fact} (found : store.getById factId org = some fact) :
    fact ∈ store.facts ∧ fact.id = factId ∧ ∀ id ∈ org, fact.organizationId = id := by
  have passed := List.find?_some found
  rw [Bool.and_eq_true] at passed
  refine ⟨List.mem_of_find?_eq_some found, of_decide_eq_true passed.1, ?_⟩
  rintro id rfl
  simpa using passed.2

/-- What the guards of a retraction let through. -/
theorem checkRetraction_ok {call : RetractCall} {found result : Option Fact}
    (checked : checkRetraction call found = .ok result) :
    ∃ fact, found = some fact ∧ fact.projectId = call.projectId ∧
      (fact.Closed ∧ result = none ∨ ¬ fact.Closed ∧ result = some fact) := by
  cases found with
  | none => cases checked
  | some fact =>
      rw [checkRetraction] at checked
      split at checked
      · cases checked
      · rename_i sameProject
        refine ⟨fact, rfl, Classical.not_not.mp sameProject, ?_⟩
        split at checked
        · rename_i closed
          cases checked
          exact .inl ⟨closed, rfl⟩
        · rename_i isOpen
          cases checked
          exact .inr ⟨isOpen, rfl⟩

/-- A retraction writes `invalid_at` and one event. -/
theorem writeRetraction_ok {collaborators : Collaborators} {store : FactStore}
    {call : RetractCall} {fact : Fact} {outcome : InvalidationOutcome}
    (written : writeRetraction collaborators store call fact = .ok outcome) :
    outcome.store.facts = FactStore.rewrite store.facts fact.id
        (fun row => { row with invalidAt := some call.atTime }) ∧
      outcome.store.nextId = store.nextId ∧
      ∃ event : InvalidationEvent, outcome.store.events = store.events ++ [event] ∧
        event.oldFactId = fact.id ∧ event.atTime = call.atTime := by
  obtain ⟨updated, update, result⟩ := bind_eq_ok.mp written
  cases result
  obtain ⟨facts, events, nextId⟩ := FactStore.update_ok update
  exact ⟨facts, nextId, _, by rw [← events]; rfl, rfl, rfl⟩

/-- A retraction leaves a closed fact alone; an open one gets `invalid_at` and
one event. -/
theorem retractFact_ok {collaborators : Collaborators} {store : FactStore}
    {call : RetractCall} {outcome : InvalidationOutcome}
    (retracted : retractFact collaborators store call = .ok outcome) :
    ∃ fact ∈ store.facts, fact.id = call.factId ∧
      fact.InScope call.organizationId call.projectId ∧
      (fact.Closed ∧ outcome.store = store ∧ outcome.closedCount = 0 ∨
        ¬ fact.Closed ∧
        outcome.store.facts = FactStore.rewrite store.facts call.factId
          (fun row => { row with invalidAt := some call.atTime }) ∧
        outcome.store.nextId = store.nextId) := by
  obtain ⟨result, checked, rest⟩ := bind_eq_ok.mp retracted
  obtain ⟨fact, found, sameProject, ⟨closed, rfl⟩ | ⟨isOpen, rfl⟩⟩ :=
    checkRetraction_ok checked
  · obtain ⟨member, sameId, sameOrg⟩ := FactStore.getById_mem found
    cases rest
    exact ⟨fact, member, sameId, ⟨sameOrg _ rfl, sameProject⟩, .inl ⟨closed, rfl, rfl⟩⟩
  · obtain ⟨member, sameId, sameOrg⟩ := FactStore.getById_mem found
    obtain ⟨facts, nextId, _⟩ := writeRetraction_ok rest
    exact ⟨fact, member, sameId, ⟨sameOrg _ rfl, sameProject⟩,
      .inr ⟨isOpen, sameId ▸ facts, nextId⟩⟩

/-- Rows under their own identifiers. -/
def LoadedById (loaded : Uuid → Option Fact) : Prop :=
  ∀ id, ∀ row ∈ loaded id, row.id = id

theorem FactStore.loadedById_getById (store : FactStore) (org : Option Uuid) :
    LoadedById (store.getById · org) :=
  fun _ _ found => (FactStore.getById_mem found).2.1

/-- A loaded row follows the update of its own session. -/
theorem LoadedById.ended {loaded : Uuid → Option Fact} (keyed : LoadedById loaded)
    (old : Fact) (now : Time) :
    LoadedById (Function.update loaded old.id (some { old with validTo := some now })) := by
  intro id row member
  by_cases same : id = old.id
  · subst same
    rw [Function.update_self] at member
    cases member
    rfl
  · rw [Function.update_of_ne same] at member
    exact keyed id row member

theorem FactStore.endAndLink_ok {store ended linked : FactStore} {id : Uuid} {now : Time}
    {successor : Option Uuid} (end_ : store.setValidTo id now = .ok ended)
    (link : ended.setSupersededBy id successor = .ok linked) :
    linked.facts = store.facts.map (fun fact =>
        { fact.closedAt [id] now with
          supersededByFactId :=
            if fact.id = id then successor else fact.supersededByFactId }) ∧
      linked.events = store.events ∧ linked.nextId = store.nextId := by
  obtain ⟨endedFacts, endedEvents, endedNext⟩ := FactStore.update_ok end_
  obtain ⟨linkedFacts, linkedEvents, linkedNext⟩ := FactStore.update_ok link
  refine ⟨?_, linkedEvents.trans endedEvents, linkedNext.trans endedNext⟩
  rw [linkedFacts, endedFacts, FactStore.rewrite, FactStore.rewrite, List.map_map]
  apply List.map_congr_left
  intro fact _member
  by_cases same : fact.id = id <;> simp [same, Fact.closedAt]

/-- The invalidation loop ends facts that the LLM named and whose loaded rows
are open, each once and with one event; it rewrites lineage, and nothing else
of a row changes. -/
theorem applyInvalidations_ok {call : LlmCall} {invs : List LlmInvalidation}
    {loaded : Uuid → Option Fact} {store store' : FactStore}
    {events events' : List (SupersessionEvent × Option Text)} {skipped skipped' : Nat}
    (keyed : LoadedById loaded)
    (applied : applyInvalidations call invs loaded store events skipped =
      .ok (store', events', skipped')) :
    ∃ (closed : List Uuid) (lineage : Fact → Option Uuid)
        (recorded : List InvalidationEvent),
      store'.facts = store.facts.map (fun fact =>
        { fact.closedAt closed call.now with supersededByFactId := lineage fact }) ∧
      store'.nextId = store.nextId ∧
      store'.events = store.events ++ recorded ∧
      recorded.map InvalidationEvent.oldFactId = closed ∧
      (∀ event ∈ recorded, event.atTime = call.now) ∧
      closed.Nodup ∧
      (∀ fact, fact.id ∉ closed → lineage fact = fact.supersededByFactId) ∧
      ∀ id ∈ closed, (∃ row ∈ loaded id, ¬ row.Closed) ∧ ∃ inv ∈ invs,
        inv.existingFactRef.bind call.refToFact = some id := by
  induction invs generalizing loaded store events skipped with
  | nil =>
      cases applied
      exact ⟨[], Fact.supersededByFactId, [], by simp [Fact.closedAt], rfl, by simp,
        rfl, by simp, List.nodup_nil, fun _ _ => rfl, by simp⟩
  | cons inv invs induction =>
      unfold applyInvalidations at applied
      split at applied
      · cases applied
      · rename_i old found
        obtain ⟨factId, named, lookup⟩ := Option.bind_eq_some_iff.mp found
        have sameId : old.id = factId := keyed factId old lookup
        split at applied
        · obtain ⟨closed, lineage, recorded, facts, nextId, log, olds, times, distinct,
            untouched, closable⟩ := induction keyed applied
          refine ⟨closed, lineage, recorded, facts, nextId, log, olds, times, distinct,
            untouched, ?_⟩
          intro id inClosed
          obtain ⟨isOpen, other, otherMember, otherNamed⟩ := closable id inClosed
          exact ⟨isOpen, other, List.mem_cons_of_mem _ otherMember, otherNamed⟩
        · rename_i isOpen
          obtain ⟨ended, end_, rest⟩ := bind_eq_ok.mp applied
          obtain ⟨linked, link, loop⟩ := bind_eq_ok.mp rest
          obtain ⟨linkedFacts, linkedEvents, linkedNext⟩ := FactStore.endAndLink_ok end_ link
          obtain ⟨closed, lineage, recorded, facts, nextId, log, olds, times, distinct,
            untouched, closable⟩ := induction (keyed.ended old call.now) loop
          let successor := (call.successorOf inv).bind (store.getById · none)
          let first (fact : Fact) : Fact :=
            { fact.closedAt [old.id] call.now with
              supersededByFactId :=
                if fact.id = old.id then successor.map Fact.id
                else fact.supersededByFactId }
          have firstFacts : linked.facts = store.facts.map first := linkedFacts
          have once : old.id ∉ closed := by
            intro again
            obtain ⟨⟨row, member, rowOpen⟩, _⟩ := closable old.id again
            rw [Function.update_self] at member
            cases member
            exact rowOpen (.inl rfl)
          refine ⟨old.id :: closed, lineage ∘ first,
            llmEvent call old successor (inv.reason.filter (· ≠ [])) :: recorded, ?_,
            nextId.trans linkedNext, ?_, ?_, ?_,
            List.nodup_cons.mpr ⟨once, distinct⟩, ?_, ?_⟩
          · rw [facts]
            change linked.facts.map _ = _
            rw [firstFacts, List.map_map]
            apply List.map_congr_left
            intro fact _member
            simp only [Function.comp_apply, first, Fact.closedAt_lineage,
              Fact.closedAt_closedAt, List.singleton_append]
          · rw [log]
            simp [FactStore.recordInvalidationEvent, linkedEvents, successor]
          · rw [List.map_cons, olds, llmEvent]
          · intro event member
            rcases List.mem_cons.mp member with rfl | later
            · rfl
            · exact times event later
          · intro fact outside
            rw [List.mem_cons, not_or] at outside
            have same : (first fact).id = fact.id := fact.closedAt_id _ _
            rw [Function.comp_apply, untouched (first fact) (same ▸ outside.2)]
            exact if_neg outside.1
          · intro id inClosed
            rcases List.mem_cons.mp inClosed with rfl | later
            · exact ⟨⟨old, sameId ▸ lookup, isOpen⟩, inv, List.mem_cons_self,
                sameId ▸ named⟩
            · obtain ⟨⟨row, member, rowOpen⟩, other, otherMember, otherNamed⟩ :=
                closable id later
              have different : id ≠ old.id := fun same => once (same ▸ later)
              rw [Function.update_of_ne different] at member
              exact ⟨⟨row, member, rowOpen⟩, other, List.mem_cons_of_mem _ otherMember,
                otherNamed⟩

end OpenZync.Facts
