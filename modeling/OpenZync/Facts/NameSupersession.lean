import OpenZync.Facts.Assertions
import OpenZync.Facts.Letters

/-!
# Closing by name

An entry that closes a fact through the name identity says what the fact said,
up to case, whitespace and punctuation, unless the two are told apart by letters
that the identity normalization erases.  What a call closes is read off its
assertions: each supersedes the rows that it hits.
-/

namespace OpenZync.Facts

open OpenZync.Library

section

variable (casing : Casing) (collaborators : Collaborators) (store : FactStore)
variable (call : IngestCall)

/-- In the writes of a successful call the entry closes the fact. -/
def IngestCall.Closes (entry : Entry) (old : Fact) : Prop :=
  ∃ outcome machine final oldFacts,
    ingestWithSupersession casing collaborators store call = .ok outcome ∧
    MachineRun casing (call.candidates casing store) (call.tombstones casing store) call.ctx
      (Machine.start store (scheduled casing (call.entries casing))) machine ∧
    (entry, oldFacts) ∈ machine.pending ∧ old ∈ oldFacts ∧
    MachineRun casing (call.candidates casing store) (call.tombstones casing store) call.ctx
      machine final ∧
    final.remaining = [] ∧ final.pending = [] ∧
    final.superseded = outcome.result.superseded ∧ final.created = outcome.result.created

end

/-- One of the two lacks a resolved entity, so their names were compared. -/
def ByName (entry : Entry) (old : Fact) : Prop :=
  ¬ ((entry.subjectEntityId.isSome = true ∧ entry.objectEntityId.isSome = true) ∧ old.Resolved)

instance (entry : Entry) (old : Fact) : Decidable (ByName entry old) :=
  inferInstanceAs (Decidable (¬ _))

namespace LetterReading

variable {casing : Casing} (reading : LetterReading casing)

/-- The two agree up to letter case, whitespace and punctuation. -/
def SameAssertion (entry : Entry) (old : Fact) : Prop :=
  reading.letters entry.subject = reading.letters (old.subject.getD []) ∧
    reading.letters entry.predicate = reading.letters (old.predicate.getD []) ∧
    reading.letters entry.object = reading.letters (old.object.getD [])

instance (entry : Entry) (old : Fact) : Decidable (reading.SameAssertion entry old) :=
  inferInstanceAs (Decidable (_ ∧ _ ∧ _))

/-- Two terms with erased letters whose letters are not the same. -/
def ErasedApart (first second : Text) : Prop :=
  (∃ c ∈ first ++ second, reading.Erases c) ∧ reading.letters first ≠ reading.letters second

instance (first second : Text) : Decidable (reading.ErasedApart first second) :=
  @instDecidableAnd _ _ (List.decidableBEx _ _) inferInstance

/-- Erased letters tell the subjects, the predicates or the objects apart. -/
def MadeEqual (entry : Entry) (old : Fact) : Prop :=
  reading.ErasedApart entry.subject (old.subject.getD []) ∨
    reading.ErasedApart entry.predicate (old.predicate.getD []) ∨
    reading.ErasedApart entry.object (old.object.getD [])

instance (entry : Entry) (old : Fact) : Decidable (reading.MadeEqual entry old) :=
  inferInstanceAs (Decidable (_ ∨ _ ∨ _))

theorem letters_eq_iff {first second : Text}
    (same : normalizeIdentityTerm casing first = normalizeIdentityTerm casing second) :
    reading.letters first = reading.letters second ↔ ¬ reading.ErasedApart first second := by
  constructor
  · rintro agree ⟨_, differ⟩
    exact differ agree
  · intro notApart
    by_contra differ
    have kept : ∀ c ∈ first ++ second, ¬ reading.Erases c := by
      intro c member erases
      exact notApart ⟨⟨c, member, erases⟩, differ⟩
    apply differ
    rw [reading.letters_eq fun c member => kept c (List.mem_append_left _ member),
      reading.letters_eq fun c member => kept c (List.mem_append_right _ member), same]

theorem sameAssertion_iff {entry : Entry} {old : Fact}
    (identity : entry.nameIdentity casing = nameIdentityOfFact casing old) :
    reading.SameAssertion entry old ↔ ¬ reading.MadeEqual entry old := by
  have subject := reading.letters_eq_iff (congrArg NameIdentity.subject identity)
  have predicate := reading.letters_eq_iff (congrArg NameIdentity.predicate identity)
  have object := reading.letters_eq_iff (congrArg NameIdentity.object identity)
  rw [SameAssertion, MadeEqual, not_or, not_or]
  exact and_congr subject (and_congr predicate object)

end LetterReading

section

variable {casing : Casing} {collaborators : Collaborators} {store : FactStore}
variable {call : IngestCall}

theorem identity_of_byName {entry : Entry} {old : Fact}
    (conflicting : candidateConflicts casing entry old = true) (byName : ByName entry old) :
    entry.nameIdentity casing = nameIdentityOfFact casing old := by
  rw [candidateConflicts] at conflicting
  split at conflicting
  · rename_i subjectId objectId subject object
    split at conflicting
    · rename_i resolved
      refine absurd ⟨⟨by simp [subject], by simp [object]⟩, ?_⟩ byName
      rw [identityOfFact] at resolved
      split at resolved
      · rename_i oldSubject oldObject
        exact ⟨by simp [oldSubject], by simp [oldObject]⟩
      · cases resolved
    · exact of_decide_eq_true conflicting
  · exact of_decide_eq_true conflicting

theorem IngestCall.Closes.hit {entry : Entry} {old : Fact}
    (closes : call.Closes casing collaborators store entry old) :
    ∃ assertion ∈ call.assertions casing store, assertion.entry = entry ∧
      ∃ slot ∈ assertion.rows, slot.hit casing entry = true ∧ slot.fact = old.anonymous := by
  obtain ⟨_, machine, _, oldFacts, _, run, waits, member, _⟩ := closes
  obtain ⟨done, log, simulation, logged, _⟩ := assertionLog_run run
  exact ⟨_, logged.pending simulation waits, rfl,
    (logged.waiting entry oldFacts waits old.anonymous).mp ⟨old, member, rfl⟩⟩

theorem closes_of_hit {outcome : IngestOutcome}
    (ingested : ingestWithSupersession casing collaborators store call = .ok outcome)
    {assertion : Assertion} (asserted : assertion ∈ call.assertions casing store) {slot : Slot}
    (member : slot ∈ assertion.rows) (hit : slot.hit casing assertion.entry = true) :
    ∃ old, call.Closes casing collaborators store assertion.entry old ∧
      old.anonymous = slot.fact := by
  obtain ⟨final, run, remaining, pending, created, superseded, _⟩ := ingest_run ingested
  obtain ⟨_, log, _, logged, waited⟩ := assertionLog_run run
  rw [IngestCall.assertions, logged.complete remaining pending] at asserted
  obtain ⟨middle, oldFacts, before, after, waits, supersedes⟩ := waited assertion asserted
  obtain ⟨old, oldMember, same⟩ := (supersedes slot.fact).mpr ⟨slot, member, hit, rfl⟩
  exact ⟨old, ⟨outcome, middle, final, oldFacts, ingested, before, waits, oldMember, after,
    remaining, pending, superseded.symm, created.symm⟩, same⟩

/-- Every closing by name of a call is one of the same assertion exactly when no
assertion of the call hits by name a row that erased letters tell apart from it. -/
theorem nameClosings_agree_iff (reading : LetterReading casing) {outcome : IngestOutcome}
    (ingested : ingestWithSupersession casing collaborators store call = .ok outcome) :
    (∀ entry old, call.Closes casing collaborators store entry old → ByName entry old →
        reading.SameAssertion entry old) ↔
      ∀ assertion ∈ call.assertions casing store, ∀ slot ∈ assertion.rows,
        slot.hit casing assertion.entry = true → ByName assertion.entry slot.fact →
          ¬ reading.MadeEqual assertion.entry slot.fact := by
  have identified : ∀ {entry : Entry} {slot : Slot}, slot.hit casing entry = true →
      ByName entry slot.fact →
        entry.nameIdentity casing = nameIdentityOfFact casing slot.fact := by
    intro entry slot hit byName
    exact identity_of_byName (Bool.and_eq_true_iff.mp hit).2 byName
  constructor
  · intro agree assertion member slot row hit byName
    obtain ⟨old, closes, same⟩ := closes_of_hit ingested member row hit
    rw [← reading.sameAssertion_iff (identified hit byName), ← same]
    exact agree assertion.entry old closes (by rw [← same] at byName; exact byName)
  · intro apart entry old closes byName
    obtain ⟨assertion, member, rfl, slot, row, hit, same⟩ := closes.hit
    have slotByName : ByName assertion.entry slot.fact := by
      rw [same]
      exact byName
    have agree := (reading.sameAssertion_iff (identified hit slotByName)).mpr
      (apart assertion member slot row hit slotByName)
    rw [same] at agree
    exact agree

end

/-- ASCII and the unified ideographs, which have no case. -/
def ideographReading : LetterReading Casing.ascii :=
  { isAlnum := fun c => isAsciiAlnum c || (0x4E00 ≤ c.toNat && c.toNat ≤ 0x9FFF)
    fold := fun c => [c.toLower]
    lower_kept := by
      intro text
      induction text with
      | nil => rfl
      | cons c text induction =>
          have split : Casing.ascii.lower (c :: text) =
              Casing.ascii.lower [c] ++ Casing.ascii.lower text := rfl
          rw [split, List.filter_append, induction]
          rfl
    fold_ascii := by
      intro c ascii
      have lowered : isAsciiAlnum c.toLower = true := by
        simpa [Casing.ascii] using ascii
      simp [Casing.ascii, lowered]
    fold_space := by
      intro c space
      have lowered : Text.isSpace c.toLower = true := by
        rw [Text.toLower_of_isSpace space]
        exact space
      have bounds := Text.isSpace_toNat lowered
      have foreign : ¬ (0x4E00 ≤ c.toLower.toNat ∧ c.toLower.toNat ≤ 0x9FFF) := by omega
      simp [isAsciiAlnum_of_isSpace lowered, foreign] }

/-- A form of three names with its content. -/
def plainForm (subject predicate object content : Text) : FactForm :=
  { subject := some subject
    predicate := some predicate
    object := some object
    content := some content
    confidence := none
    subjectType := none
    objectType := none
    subjectEntityId := none
    objectEntityId := none
    validFrom := none
    validTo := none }

/-- A batch of the instant 1 without a source episode. -/
def plainBatch (facts : List FactForm) : IngestCall :=
  { orgId := 1
    projectId := 1
    userId := 1
    facts := facts
    sourceEpisodeId := none
    insertMode := .batchCreate
    now := 1 }

/-- The capital of a country, in two spellings. -/
def spellings : List FactForm :=
  [plainForm "Tokyo".toList "capital of".toList "Japan".toList "Tokyo is the capital".toList,
    plainForm "TOKYO".toList "capital of".toList "Japan!".toList "TOKYO it is".toList]

/-- The second spelling closes the first. -/
theorem nameClosings_agree_iff_spellings :
    ∃ outcome, ingestWithSupersession Casing.ascii ⟨false, false, false⟩ FactStore.empty
        (plainBatch spellings) = .ok outcome ∧ outcome.result.superseded ≠ [] ∧
      ∀ entry old, (plainBatch spellings).Closes Casing.ascii ⟨false, false, false⟩
        FactStore.empty entry old → ByName entry old →
          ideographReading.SameAssertion entry old := by
  obtain ⟨outcome, ingested, closed⟩ := @exists_ok _ _
    (ingestWithSupersession Casing.ascii ⟨false, false, false⟩ FactStore.empty
      (plainBatch spellings)) (fun outcome => decide (outcome.result.superseded ≠ []))
    (by decide +kernel)
  exact ⟨outcome, ingested, of_decide_eq_true closed,
    (nameClosings_agree_iff ideographReading ingested).mpr (by decide +kernel)⟩

/-- The capitals of two countries. -/
def capitals : List FactForm :=
  [plainForm "東京".toList "capital of".toList "日本".toList "東京は日本の首都".toList,
    plainForm "北京".toList "capital of".toList "中国".toList "北京是中国首都".toList]

/-- Neither name is written in ASCII, so the second form closes the first. -/
theorem capitals_close_each_other :
    ∃ entry old,
      (plainBatch capitals).Closes Casing.ascii ⟨false, false, false⟩ FactStore.empty entry old ∧
        ByName entry old ∧ ¬ ideographReading.SameAssertion entry old := by
  obtain ⟨outcome, ingested, _⟩ := @exists_ok _ _
    (ingestWithSupersession Casing.ascii ⟨false, false, false⟩ FactStore.empty
      (plainBatch capitals)) (fun _ => true) (by decide +kernel)
  have found : ∃ assertion ∈ (plainBatch capitals).assertions Casing.ascii FactStore.empty,
      ∃ slot ∈ assertion.rows, slot.hit Casing.ascii assertion.entry = true ∧
        ByName assertion.entry slot.fact ∧
          ¬ ideographReading.SameAssertion assertion.entry slot.fact := by
    decide +kernel
  obtain ⟨assertion, member, slot, row, hit, byName, differ⟩ := found
  obtain ⟨old, closes, same⟩ := closes_of_hit ingested member row hit
  rw [← same] at byName differ
  exact ⟨assertion.entry, old, closes, byName, differ⟩

end OpenZync.Facts
