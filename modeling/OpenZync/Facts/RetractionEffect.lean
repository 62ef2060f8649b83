import OpenZync.Facts.Runs
import OpenZync.Library.FirstItems

/-!
# Retraction takes effect

The guards of `retract_fact` and `apply_llm_invalidations` ask whether a bound
is set, the read clause whether it has passed.  A fact with an end that is
still to come is effective for the one and closed for the others: the call
succeeds and the fact stays.
-/

namespace OpenZync.Facts

open OpenZync.Library

/-- From `t0` on the fact is not effective, and the call has recorded one event
of the kind for it. -/
def TakesEffect (store store' : FactStore) (factId : Uuid) (kind : InvalidationKind)
    (t0 : Time) : Prop :=
  (∀ row ∈ store'.facts, row.id = factId → ∀ t, t0 ≤ t → ¬ row.EffectiveAt t) ∧
    ((store'.events.drop store.events.length).countP fun event =>
      decide (event.kind = kind ∧ event.oldFactId = factId)) = 1

/-- The pass names the fact. -/
def LlmCall.Names (call : LlmCall) (factId : Uuid) : Prop :=
  ∃ inv ∈ call.invalidations, inv.existingFactRef.bind call.refToFact = some factId

variable {collaborators : Collaborators} {store : FactStore} {fact : Fact}

theorem Fact.not_effectiveAt_of_invalidAt {t0 t : Time} (retracted : fact.invalidAt = some t0)
    (later : t0 ≤ t) : ¬ fact.EffectiveAt t := by
  rintro ⟨before, _, _⟩
  exact Int.not_lt.mpr later (before t0 retracted)

theorem Fact.not_effectiveAt_of_validTo {t0 t : Time} (ended : fact.validTo = some t0)
    (later : t0 ≤ t) : ¬ fact.EffectiveAt t := by
  rintro ⟨_, _, before⟩
  exact Int.not_lt.mpr later (before t0 ended)

theorem FactStore.getById_of_mem (stored : fact ∈ store.facts) :
    store.getById fact.id none = some fact := by
  apply lookup_of_unique stored (by simp)
  intro other otherStored same
  exact FactStore.eq_of_id otherStored stored (by simpa using same)

/-- One entry of the log for a fact that the log names, when it names none twice. -/
theorem countP_events_eq_one {events : List InvalidationEvent} {kind : InvalidationKind}
    {factId : Uuid} (kinds : ∀ event ∈ events, event.kind = kind)
    (distinct : (events.map InvalidationEvent.oldFactId).Nodup)
    (recorded : factId ∈ events.map InvalidationEvent.oldFactId) :
    (events.countP fun event => decide (event.kind = kind ∧ event.oldFactId = factId)) = 1 := by
  have counted := List.count_eq_one_of_mem distinct recorded
  rw [List.count, List.countP_map] at counted
  rw [← counted]
  apply List.countP_congr
  intro event member
  simp [kinds event member]

/-- A row that a call leaves as it was stays effective. -/
theorem not_takesEffect_of_mem {store' : FactStore} {kind : InvalidationKind} {t0 : Time}
    (kept : fact ∈ store'.facts) (effective : fact.EffectiveAt t0) :
    ¬ TakesEffect store store' fact.id kind t0 :=
  fun takes => takes.1 fact kept rfl t0 (Int.le_refl t0) effective

theorem writeRetraction_event {call : RetractCall} {outcome : InvalidationOutcome}
    (written : writeRetraction collaborators store call fact = .ok outcome) :
    ∃ event, outcome.store.events = store.events ++ [event] ∧ event.kind = .retracted ∧
      event.oldFactId = fact.id := by
  obtain ⟨updated, update, result⟩ := bind_eq_ok.mp written
  cases result
  obtain ⟨_, events, _⟩ := FactStore.update_ok update
  exact ⟨_, by rw [← events]; rfl, rfl, rfl⟩

theorem retractFact_takesEffect_iff {call : RetractCall} {outcome : InvalidationOutcome}
    (retracted : retractFact collaborators store call = .ok outcome) (stored : fact ∈ store.facts)
    (named : fact.id = call.factId) (effective : fact.EffectiveAt call.atTime) :
    TakesEffect store outcome.store fact.id .retracted call.atTime ↔ ¬ fact.Closed := by
  obtain ⟨result, checked, rest⟩ := bind_eq_ok.mp retracted
  obtain ⟨loaded, found, _, guarded⟩ := checkRetraction_ok checked
  obtain ⟨member, sameId, _⟩ := FactStore.getById_mem found
  obtain rfl : loaded = fact := FactStore.eq_of_id member stored (sameId.trans named.symm)
  rcases guarded with ⟨closed, rfl⟩ | ⟨isOpen, rfl⟩
  · cases rest
    exact iff_of_false (not_takesEffect_of_mem stored effective) (fun isOpen => isOpen closed)
  · refine iff_of_true ⟨?_, ?_⟩ isOpen
    · obtain ⟨facts, _, _⟩ := writeRetraction_ok rest
      intro row rowMember same t later
      rw [facts] at rowMember
      obtain ⟨original, _, rfl⟩ := List.mem_map.mp rowMember
      split at same
      · rename_i target
        rw [if_pos target]
        exact Fact.not_effectiveAt_of_invalidAt rfl later
      · rename_i other
        exact absurd same other
    · obtain ⟨event, events, kind, old⟩ := writeRetraction_event rest
      simp [events, kind, old]

theorem applyInvalidations_events {call : LlmCall} {invs : List LlmInvalidation}
    {loaded : Uuid → Option Fact} {store' : FactStore}
    {events events' : List (SupersessionEvent × Option Text)} {skipped skipped' : Nat}
    (keyed : LoadedById loaded)
    (applied : applyInvalidations call invs loaded store events skipped =
      .ok (store', events', skipped')) :
    ∃ recorded, store'.events = store.events ++ recorded ∧
      (∀ event ∈ recorded, event.kind = .llmInvalidated) ∧
      ∀ inv ∈ invs, ∀ row, (inv.existingFactRef.bind call.refToFact).bind loaded = some row →
        ¬ row.Closed → row.id ∈ recorded.map InvalidationEvent.oldFactId := by
  induction invs generalizing loaded store events skipped with
  | nil =>
      cases applied
      exact ⟨[], by simp, by simp, by simp⟩
  | cons inv invs induction =>
      unfold applyInvalidations at applied
      split at applied
      · cases applied
      · rename_i old found
        split at applied
        · rename_i closed
          obtain ⟨recorded, log, kinds, complete⟩ := induction keyed applied
          refine ⟨recorded, log, kinds, ?_⟩
          intro other member row lookup isOpen
          rcases List.mem_cons.mp member with rfl | later
          · rw [found] at lookup
            cases lookup
            exact absurd closed isOpen
          · exact complete other later row lookup isOpen
        · obtain ⟨ended, end_, rest⟩ := bind_eq_ok.mp applied
          obtain ⟨linked, link, loop⟩ := bind_eq_ok.mp rest
          obtain ⟨_, linkedEvents, _⟩ := FactStore.endAndLink_ok end_ link
          obtain ⟨recorded, log, kinds, complete⟩ :=
            induction (keyed.ended old call.now) loop
          let successor := (call.successorOf inv).bind (store.getById · none)
          refine ⟨llmEvent call old successor (inv.reason.filter (· ≠ [])) :: recorded, ?_, ?_,
            ?_⟩
          · rw [log]
            simp [FactStore.recordInvalidationEvent, linkedEvents, successor]
          · intro event member
            rcases List.mem_cons.mp member with rfl | later
            · rfl
            · exact kinds event later
          · intro other member row lookup isOpen
            obtain ⟨factId, named, loadedRow⟩ := Option.bind_eq_some_iff.mp lookup
            have sameId : row.id = factId := keyed factId row loadedRow
            by_cases same : row.id = old.id
            · rw [same]
              exact List.mem_cons_self
            · apply List.mem_cons_of_mem
              rcases List.mem_cons.mp member with rfl | later
              · rw [found] at lookup
                cases lookup
                exact absurd rfl same
              · apply complete other later row ?_ isOpen
                rw [named, Option.bind_some, Function.update_of_ne (sameId ▸ same)]
                exact loadedRow

theorem applyLlmInvalidations_takesEffect_iff {call : LlmCall} {outcome : InvalidationOutcome}
    (applied : applyLlmInvalidations collaborators store call = .ok outcome)
    (stored : fact ∈ store.facts) (named : call.Names fact.id)
    (effective : fact.EffectiveAt call.now) :
    TakesEffect store outcome.store fact.id .llmInvalidated call.now ↔ ¬ fact.Closed := by
  obtain ⟨events, skipped, loop⟩ := applyLlmInvalidations_ok applied
  have keyed := store.loadedById_getById none
  obtain ⟨closed, lineage, recorded, facts, _, log, olds, _, distinct, untouched, closable⟩ :=
    applyInvalidations_ok keyed loop
  obtain ⟨others, sameLog, kinds, complete⟩ := applyInvalidations_events keyed loop
  obtain rfl : recorded = others := List.append_cancel_left (log.symm.trans sameLog)
  by_cases isClosed : fact.Closed
  · refine iff_of_false (not_takesEffect_of_mem ?_ effective) (fun isOpen => isOpen isClosed)
    have notNamed : fact.id ∉ closed := by
      intro member
      obtain ⟨⟨row, loaded, isOpen⟩, _⟩ := closable fact.id member
      obtain ⟨rowMember, sameId, _⟩ := FactStore.getById_mem loaded
      obtain rfl : row = fact := FactStore.eq_of_id rowMember stored sameId
      exact isOpen isClosed
    rw [facts]
    refine List.mem_map.mpr ⟨fact, stored, ?_⟩
    rw [untouched fact notNamed, Fact.closedAt, if_neg notNamed]
  · have ended : fact.id ∈ closed := by
      obtain ⟨inv, invMember, refers⟩ := named
      rw [← olds]
      apply complete inv invMember fact ?_ isClosed
      rw [refers, Option.bind_some]
      exact FactStore.getById_of_mem stored
    refine iff_of_true ⟨?_, ?_⟩ isClosed
    · intro row rowMember same t later
      rw [facts] at rowMember
      obtain ⟨original, _, rfl⟩ := List.mem_map.mp rowMember
      have sameId : original.id = fact.id := by simpa using same
      apply Fact.not_effectiveAt_of_validTo _ later
      simp [Fact.closedAt, sameId, ended]
    · rw [sameLog, List.drop_left]
      exact countP_events_eq_one kinds (olds ▸ distinct) (olds ▸ ended)

/-- Either way of closing a named fact takes effect exactly on the facts without
bounds. -/
theorem closing_takesEffect_iff (collaborators : Collaborators) (store : FactStore) (fact : Fact)
    (stored : fact ∈ store.facts) :
    (∀ (call : RetractCall) outcome, retractFact collaborators store call = .ok outcome →
      fact.id = call.factId → fact.EffectiveAt call.atTime →
      (TakesEffect store outcome.store fact.id .retracted call.atTime ↔ ¬ fact.Closed)) ∧
    (∀ (call : LlmCall) outcome, applyLlmInvalidations collaborators store call = .ok outcome →
      call.Names fact.id → fact.EffectiveAt call.now →
      (TakesEffect store outcome.store fact.id .llmInvalidated call.now ↔ ¬ fact.Closed)) :=
  ⟨fun _ _ retracted named effective =>
      retractFact_takesEffect_iff retracted stored named effective,
    fun _ _ applied named effective =>
      applyLlmInvalidations_takesEffect_iff applied stored named effective⟩

/-- A fact that holds from instant 10 on, until `validTo`. -/
def statedFact (validTo : Option Time) : Fact :=
  { id := 0
    organizationId := 1
    projectId := 1
    userId := 1
    content := "The sale ends Friday".toList
    subject := some "Acme".toList
    predicate := some "runs".toList
    object := some "sale".toList
    subjectType := []
    objectType := []
    confidence := 1
    sourceEpisodeId := some 1
    subjectEntityId := none
    objectEntityId := none
    validFrom := some 10
    validTo := validTo
    invalidAt := none
    supersededByFactId := none }

/-- The tables with that row alone. -/
def statedStore (validTo : Option Time) (ordered : ∀ stop ∈ validTo, (10 : Time) ≤ stop) :
    FactStore :=
  { facts := [statedFact validTo]
    events := []
    nextId := 1
    primaryKey := by simp
    fresh := by simp [statedFact]
    ranges := by simpa [statedFact, Fact.RangeOrdered] using ordered
    temporalExcl := List.pairwise_singleton _ _ }

def openEnded : FactStore :=
  statedStore none (by simp)

def endingAt100 : FactStore :=
  statedStore (some 100) (by simp)

def retraction : RetractCall :=
  { factId := 0
    organizationId := 1
    projectId := 1
    reason := none
    atTime := 20 }

/-- The LLM names the fact by its first reference. -/
def contradiction : LlmCall :=
  { orgId := 1
    projectId := 1
    invalidations := [⟨some "F1".toList, none, none⟩]
    refToFact := fun ref => if ref = "F1".toList then some 0 else none
    successorByRef := fun _ => none
    now := 20 }

theorem closing_takesEffect_unbounded :
    ∃ retracted invalidated,
      retractFact ⟨false, false, false⟩ openEnded retraction = .ok retracted ∧
      applyLlmInvalidations ⟨false, false, false⟩ openEnded contradiction = .ok invalidated ∧
      TakesEffect openEnded retracted.store 0 .retracted 20 ∧
      TakesEffect openEnded invalidated.store 0 .llmInvalidated 20 := by
  obtain ⟨retracted, returned, _⟩ : ∃ retracted,
      retractFact ⟨false, false, false⟩ openEnded retraction = .ok retracted ∧
        true = true :=
    exists_ok (by decide)
  obtain ⟨invalidated, applied, _⟩ : ∃ invalidated,
      applyLlmInvalidations ⟨false, false, false⟩ openEnded contradiction = .ok invalidated ∧
        true = true :=
    exists_ok (by decide)
  have effect := closing_takesEffect_iff ⟨false, false, false⟩ openEnded
    (statedFact none) List.mem_cons_self
  refine ⟨retracted, invalidated, returned, applied, ?_, ?_⟩
  · exact (effect.1 retraction retracted returned rfl (by decide)).mpr (by decide)
  · have named : contradiction.Names 0 := ⟨_, List.mem_cons_self, rfl⟩
    exact (effect.2 contradiction invalidated applied named (by decide)).mpr (by decide)

/-- A fact that ends at 100: both calls return at 20, and it stays effective. -/
theorem scheduledEnd_stays_effective :
    ∃ retracted invalidated,
      retractFact ⟨false, false, false⟩ endingAt100 retraction = .ok retracted ∧
      applyLlmInvalidations ⟨false, false, false⟩ endingAt100 contradiction = .ok invalidated ∧
      contradiction.Names 0 ∧ (statedFact (some 100)).EffectiveAt 20 ∧
      ¬ TakesEffect endingAt100 retracted.store 0 .retracted 20 ∧
      ¬ TakesEffect endingAt100 invalidated.store 0 .llmInvalidated 20 := by
  obtain ⟨retracted, returned, keptByRetraction⟩ : ∃ retracted,
      retractFact ⟨false, false, false⟩ endingAt100 retraction = .ok retracted ∧
        decide (statedFact (some 100) ∈ retracted.store.facts) = true :=
    exists_ok (by decide)
  obtain ⟨invalidated, applied, keptByPass⟩ : ∃ invalidated,
      applyLlmInvalidations ⟨false, false, false⟩ endingAt100 contradiction = .ok invalidated ∧
        decide (statedFact (some 100) ∈ invalidated.store.facts) = true :=
    exists_ok (by decide)
  have effective : (statedFact (some 100)).EffectiveAt 20 := by decide
  exact ⟨retracted, invalidated, returned, applied, ⟨_, List.mem_cons_self, rfl⟩, effective,
    not_takesEffect_of_mem (of_decide_eq_true keptByRetraction) effective,
    not_takesEffect_of_mem (of_decide_eq_true keptByPass) effective⟩

end OpenZync.Facts
