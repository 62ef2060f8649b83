import OpenZync.Facts.RangeGuard
import OpenZync.Workers.ExtractFacts

/-!
# The matched entity and the handed facts

`_match_entity` tries every comparison on an entity before it looks at the next
one.  An exact match is returned when no entity before it contains the
candidate or is contained in it.

Every fact that `process_facts_output` hands to the ingest comes from one slot
of the response: its texts are trimmed and its subject and object take the name
of the entity they match.  What happens to it depends on its slot no further.
-/

namespace OpenZync.Workers.ExtractFacts

section

variable {casing : Casing} {candidate name : Text} {known : List KnownEntity}

/-- What the loop over the entities takes. -/
def KnownEntity.Matches (casing : Casing) (candidate : Text) (entity : KnownEntity) : Prop :=
  entity.Exact casing candidate ∨ entity.Partial casing candidate

instance (candidate : Text) : DecidablePred (KnownEntity.Matches casing candidate) :=
  fun _ => inferInstanceAs (Decidable (_ ∨ _))

theorem firstByText_eq_find? :
    firstByText casing candidate known =
      known.find? fun entity => decide (entity.Matches casing candidate) := by
  induction known with
  | nil => rfl
  | cons entity entities induction =>
      rw [firstByText, List.find?_cons, induction]
      by_cases exactly : entity.Exact casing candidate
      · simp [KnownEntity.Matches, exactly]
      · by_cases partly : entity.Partial casing candidate <;>
          simp [KnownEntity.Matches, exactly, partly]

theorem matchEntity_of_found (notPronoun : folded casing name ∉ firstPersonPronouns)
    {entity : KnownEntity}
    (found : firstByText casing (folded casing name) known = some entity) :
    matchEntity casing name known = some entity := by
  rw [matchEntity, firstPerson, if_neg (by simpa using notPronoun), found]
  rfl

theorem exists_first_exact (some_ : ∃ entity ∈ known, entity.Exact casing candidate) :
    ∃ before entity after, known = before ++ entity :: after ∧
      entity.Exact casing candidate ∧
        ∀ other ∈ before, ¬ other.Exact casing candidate := by
  induction known with
  | nil =>
      obtain ⟨entity, member, _⟩ := some_
      cases member
  | cons first rest induction =>
      by_cases exactly : first.Exact casing candidate
      · exact ⟨[], first, rest, rfl, exactly, by simp⟩
      · have later : ∃ entity ∈ rest, entity.Exact casing candidate := by
          obtain ⟨entity, member, isExact⟩ := some_
          rcases List.mem_cons.mp member with rfl | inRest
          · exact absurd isExact exactly
          · exact ⟨entity, inRest, isExact⟩
        obtain ⟨before, entity, after, rfl, isExact, none_⟩ := induction later
        refine ⟨first :: before, entity, after, rfl, isExact, ?_⟩
        intro other member
        rcases List.mem_cons.mp member with rfl | inBefore
        · exact exactly
        · exact none_ other inBefore

end

/-- An exact match wins when no entity before the first one matches in part. -/
theorem matchEntity_exact_iff (casing : Casing) (name : Text) (known : List KnownEntity)
    (notPronoun : folded casing name ∉ firstPersonPronouns) :
    ((∃ entity ∈ known, entity.Exact casing (folded casing name)) →
        ∃ entity ∈ known, matchEntity casing name known = some entity ∧
          entity.Exact casing (folded casing name)) ↔
      ∀ before entity after, known = before ++ entity :: after →
        entity.Exact casing (folded casing name) →
        (∀ other ∈ before, ¬ other.Exact casing (folded casing name)) →
        ∀ other ∈ before, ¬ other.Partial casing (folded casing name) := by
  constructor
  · rintro wins before entity after rfl isExact noneExact other member partly
    have stops : ∃ early, (before.find? fun entity =>
        decide (entity.Matches casing (folded casing name))) = some early := by
      rw [← Option.isSome_iff_exists, List.find?_isSome]
      exact ⟨other, member, decide_eq_true (.inr partly)⟩
    obtain ⟨early, found⟩ := stops
    have returned : matchEntity casing name (before ++ entity :: after) = some early := by
      apply matchEntity_of_found notPronoun
      rw [firstByText_eq_find?, List.find?_append, found]
      rfl
    obtain ⟨winner, _, same, winnerExact⟩ := wins ⟨entity, by simp, isExact⟩
    rw [returned, Option.some_inj] at same
    subst same
    exact noneExact early (List.mem_of_find?_eq_some found) winnerExact
  · intro undisturbed some_
    obtain ⟨before, entity, after, rfl, isExact, noneExact⟩ := exists_first_exact some_
    refine ⟨entity, by simp, ?_, isExact⟩
    apply matchEntity_of_found notPronoun
    have skipped : (before.find? fun entity =>
        decide (entity.Matches casing (folded casing name))) = none := by
      rw [List.find?_eq_none]
      intro other member
      rw [decide_eq_true_eq]
      rintro (exactly | partly)
      · exact noneExact other member exactly
      · exact undisturbed before entity after rfl isExact noneExact other member partly
    have taken : entity.Matches casing (folded casing name) := .inl isExact
    rw [firstByText_eq_find?, List.find?_append, skipped, Option.none_or, List.find?_cons,
      decide_eq_true taken]

/-- An entity known by its name only. -/
def KnownEntity.named (id : Uuid) (name : String) : KnownEntity :=
  { id := id
    name := name.toList
    entityType := none }

theorem matchEntity_exact_iff_listed :
    folded Casing.ascii "Ann ".toList ∉ firstPersonPronouns ∧
      ∃ entity ∈ [KnownEntity.named 1 "Bob", KnownEntity.named 2 "ann"],
        matchEntity Casing.ascii "Ann ".toList
            [KnownEntity.named 1 "Bob", KnownEntity.named 2 "ann"] = some entity ∧
          entity.Exact Casing.ascii (folded Casing.ascii "Ann ".toList) :=
  ⟨by decide, (matchEntity_exact_iff Casing.ascii "Ann ".toList
    [KnownEntity.named 1 "Bob", KnownEntity.named 2 "ann"] (by decide)).mpr (by
      rintro before entity after split isExact noneExact other member
      match before, split with
      | [], _ => cases member
      | [first], split =>
          obtain ⟨rfl, -⟩ := List.cons.inj split
          obtain rfl := List.mem_singleton.mp member
          decide
      | _ :: second :: rest, split =>
          have atEnd := congrArg List.length split
          simp at atEnd) (by decide)⟩

/-- Ann is taken for Anna, who comes first. -/
theorem matchEntity_preempted :
    ¬ ∀ (casing : Casing) (name : Text) (known : List KnownEntity),
      folded casing name ∉ firstPersonPronouns →
      (∃ entity ∈ known, entity.Exact casing (folded casing name)) →
        ∃ entity ∈ known, matchEntity casing name known = some entity ∧
          entity.Exact casing (folded casing name) := by
  intro wins
  have ann := wins Casing.ascii "Ann".toList
    [KnownEntity.named 1 "Anna", KnownEntity.named 2 "Ann"] (by decide) (by decide)
  revert ann
  decide

open OpenZync.Facts OpenZync.Library

section

variable {casing : Casing} {known : List KnownEntity}

/-- The name a subject or an object is replaced with. -/
def canonicalName (casing : Casing) (known : List KnownEntity) (text : Text) : Text :=
  ((matchEntity casing text known).map KnownEntity.name).getD text

theorem matchEntity_nil (text : Text) : matchEntity casing text [] = none := by
  simp [matchEntity, firstPerson, firstByText, firstByLetters]

variable (fact : FactDict)

@[simp] theorem resolveFact_subject :
    (resolveFact casing known fact).subject = canonicalName casing known fact.subject := by
  unfold resolveFact canonicalName
  cases matchEntity casing fact.subject known <;> cases matchEntity casing fact.object known <;>
    rfl

@[simp] theorem resolveFact_predicate :
    (resolveFact casing known fact).predicate = fact.predicate := by
  unfold resolveFact
  cases matchEntity casing fact.subject known <;> cases matchEntity casing fact.object known <;>
    rfl

@[simp] theorem resolveFact_object :
    (resolveFact casing known fact).object = canonicalName casing known fact.object := by
  unfold resolveFact canonicalName
  cases matchEntity casing fact.subject known <;> cases matchEntity casing fact.object known <;>
    rfl

@[simp] theorem resolveFact_validFrom :
    (resolveFact casing known fact).validFrom = fact.validFrom := by
  unfold resolveFact
  cases matchEntity casing fact.subject known <;> cases matchEntity casing fact.object known <;>
    rfl

@[simp] theorem resolveFact_validTo :
    (resolveFact casing known fact).validTo = fact.validTo := by
  unfold resolveFact
  cases matchEntity casing fact.subject known <;> cases matchEntity casing fact.object known <;>
    rfl

@[simp] theorem resolveFact_slot : (resolveFact casing known fact).slot = fact.slot := by
  unfold resolveFact
  cases matchEntity casing fact.subject known <;> cases matchEntity casing fact.object known <;>
    rfl

/-- Without known entities the loop changes nothing either. -/
theorem resolveFactEntities_eq_map (facts : List FactDict) :
    resolveFactEntities casing facts known = facts.map (resolveFact casing known) := by
  unfold resolveFactEntities
  split
  · rename_i noEntities
    subst noEntities
    have unchanged : resolveFact casing [] = id := by
      funext fact
      simp [resolveFact, matchEntity_nil]
    rw [unchanged, List.map_id]
  · rfl

end

theorem filterFact_eq_some {output : FactOutput} {slot : Nat} {fact : FactDict}
    (kept : filterFact output slot = some fact) :
    fact =
        { subject := Text.strip output.subject
          predicate := Text.strip output.predicate
          object := Text.strip output.object
          confidence := output.confidence
          subjectType := output.subjectType
          objectType := output.objectType
          subjectEntityId := none
          objectEntityId := none
          validFrom := output.validFrom
          validTo := output.validTo
          slot := slot } ∧
      Text.strip output.subject ≠ [] ∧ Text.strip output.predicate ≠ [] ∧
        Text.strip output.object ≠ [] ∧ ¬ BornDeadWindow output.validFrom output.validTo := by
  simp only [filterFact, Option.ite_none_left_eq_some, not_or, Option.some.injEq] at kept
  obtain ⟨_, ⟨subject, predicate, object⟩, alive, rfl⟩ := kept
  exact ⟨rfl, subject, predicate, object, alive⟩

theorem mem_filterFacts {outputs : List FactOutput} {fact : FactDict} :
    fact ∈ filterFacts outputs ↔
      ∃ index output, outputs[index]? = some output ∧
        filterFact output (index + 1) = some fact := by
  simp only [filterFacts, List.mem_filterMap, List.mem_zipIdx_iff_le_and_getElem?_sub, Prod.exists]
  constructor
  · rintro ⟨output, slot, ⟨above, found⟩, kept⟩
    refine ⟨slot - 1, output, found, ?_⟩
    rw [Nat.sub_add_cancel above]
    exact kept
  · rintro ⟨index, output, found, kept⟩
    exact ⟨output, index + 1, ⟨by omega, by simpa using found⟩, kept⟩

theorem mem_resolvedFacts {casing : Casing} {request : FactsRequest} {fact : FactDict}
    (member : fact ∈ request.resolvedFacts casing) :
    ∃ index output kept, request.parsed[index]? = some output ∧
      filterFact output (index + 1) = some kept ∧
      fact = resolveFact casing request.knownEntities kept := by
  have resolved : fact ∈
      (filterFacts request.parsed).map (resolveFact casing request.knownEntities) := by
    rw [FactsRequest.resolvedFacts, resolveFactEntities_eq_map] at member
    unfold deduplicateFacts at member
    split at member
    · exact member
    · exact List.mem_of_mem_filter member
  obtain ⟨kept, keptMember, rfl⟩ := List.mem_map.mp resolved
  obtain ⟨index, output, found, filtered⟩ := mem_filterFacts.mp keptMember
  exact ⟨index, output, kept, found, filtered, rfl⟩

theorem entry_of_fact {casing : Casing} {request : FactsRequest} {entry : Entry}
    (member : entry ∈ (request.ingestCall casing).entries casing) :
    ∃ fact ∈ request.resolvedFacts casing,
      entry = prepareEntry fact.toForm (some request.episodeId) request.now := by
  obtain ⟨form, formMember, rfl⟩ := IngestCall.entry_of_form member
  obtain ⟨fact, factMember, rfl⟩ := List.mem_map.mp formMember
  exact ⟨fact, factMember, rfl⟩

end OpenZync.Workers.ExtractFacts
