import OpenZync.Facts.SupersessionIngest
import OpenZync.Library.Execution

/-!
# Rows an ingest does not see

A row whose `invalid_at` has passed takes no part in the exclusion constraint
and in the conflict scan.  Two stores that differ in such rows alone go through
every statement of an ingest in lockstep; only the tombstone scan looks at the
rows that one of them lacks.
-/

namespace OpenZync.Facts

open OpenZync.Library

/-- The smaller store lacks the rows that are `gone`, all of which were
invalidated by `since`. -/
structure Without (gone : List Uuid) (since : Time) (larger smaller : FactStore) : Prop where
  facts : smaller.facts = larger.facts.filter fun fact => decide (fact.id ∉ gone)
  nextId : smaller.nextId = larger.nextId
  used : ∀ id ∈ gone, id < larger.nextId
  dead : ∀ fact ∈ larger.facts, fact.id ∈ gone → ∃ instant ∈ fact.invalidAt, instant ≤ since

variable {gone : List Uuid} {since : Time} {larger smaller : FactStore}

theorem filter_rewrite (facts : List Fact) (id : Uuid) {change : Fact → Fact}
    (keepsId : ∀ fact, (change fact).id = fact.id) :
    (FactStore.rewrite facts id change).filter (fun fact => decide (fact.id ∉ gone)) =
      FactStore.rewrite (facts.filter fun fact => decide (fact.id ∉ gone)) id change := by
  unfold FactStore.rewrite
  rw [List.filter_map]
  congr 1
  apply List.filter_congr
  intro fact _
  simp only [Function.comp_apply]
  split
  · rw [keepsId]
  · rfl

/-- The two stores beside the same value. -/
def SameValue {α : Type} (gone : List Uuid) (since : Time) (left right : α × FactStore) : Prop :=
  left.1 = right.1 ∧ Without gone since left.2 right.2

namespace Without

/-- A dead row passes every check of the schema. -/
theorem unchecked {facts : List Fact}
    (dead : ∀ fact ∈ facts, fact.id ∈ gone → ∃ instant ∈ fact.invalidAt, instant ≤ since) :
    ((∀ fact ∈ facts.filter (fun fact => decide (fact.id ∉ gone)),
        fact.invalidAt = none → fact.RangeOrdered) ↔
      ∀ fact ∈ facts, fact.invalidAt = none → fact.RangeOrdered) ∧
    ((facts.filter fun fact => decide (fact.id ∉ gone)).Pairwise
        (fun left right => ¬ left.Excludes right) ↔
      facts.Pairwise fun left right => ¬ left.Excludes right) := by
  have invalid : ∀ fact ∈ facts, fact.id ∈ gone → fact.invalidAt ≠ none := by
    intro fact member isGone none
    obtain ⟨instant, set, _⟩ := dead fact member isGone
    rw [none] at set
    cases set
  constructor
  · constructor
    · intro checked fact member valid
      apply checked fact _ valid
      rw [List.mem_filter]
      exact ⟨member, decide_eq_true fun isGone => invalid fact member isGone valid⟩
    · intro checked fact member
      exact checked fact (List.mem_filter.mp member).1
  · apply pairwise_filter_iff
    intro fact member dropped other
    have isGone : fact.id ∈ gone := by simpa using dropped
    constructor
    · rintro ⟨valid, _⟩
      exact invalid fact member isGone valid
    · rintro ⟨_, valid, _⟩
      exact invalid fact member isGone valid

theorem update (without : Without gone since larger smaller) (id : Uuid)
    (change : Fact → Fact) (keepsId : ∀ fact, (change fact).id = fact.id)
    (keepsInvalidAt : ∀ fact, (change fact).invalidAt = fact.invalidAt) :
    Agree (Without gone since) (larger.update id change keepsId)
      (smaller.update id change keepsId) := by
  have rewritten : FactStore.rewrite smaller.facts id change =
      (FactStore.rewrite larger.facts id change).filter fun fact => decide (fact.id ∉ gone) := by
    rw [filter_rewrite larger.facts id keepsId, without.facts]
  have dead : ∀ fact ∈ FactStore.rewrite larger.facts id change, fact.id ∈ gone →
      ∃ instant ∈ fact.invalidAt, instant ≤ since := by
    intro fact member isGone
    obtain ⟨original, originalMember, rewrittenEq⟩ := List.mem_map.mp member
    have kept : fact.id = original.id ∧ fact.invalidAt = original.invalidAt := by
      rw [← rewrittenEq]
      split
      · exact ⟨keepsId original, keepsInvalidAt original⟩
      · exact ⟨rfl, rfl⟩
    rw [kept.1] at isGone
    rw [kept.2]
    exact without.dead original originalMember isGone
  obtain ⟨rangesIff, exclIff⟩ := unchecked dead
  rw [← rewritten] at rangesIff exclIff
  unfold FactStore.update
  by_cases ranges : ∀ fact ∈ FactStore.rewrite larger.facts id change,
      fact.invalidAt = none → fact.RangeOrdered
  · rw [dif_pos ranges, dif_pos (rangesIff.mpr ranges)]
    by_cases excl : (FactStore.rewrite larger.facts id change).Pairwise
        fun left right => ¬ left.Excludes right
    · rw [dif_pos excl, dif_pos (exclIff.mpr excl)]
      exact ⟨rewritten, without.nextId, without.used, dead⟩
    · rw [dif_neg excl, dif_neg (fun small => excl (exclIff.mp small))]
      exact rfl
  · rw [dif_neg ranges, dif_neg (fun small => ranges (rangesIff.mp small))]
    exact rfl

theorem insert (without : Without gone since larger smaller) (row : Fact) :
    Agree (SameValue gone since) (larger.insert row) (smaller.insert row) := by
  have newId : larger.nextId ∉ gone := fun isGone =>
    Nat.lt_irrefl _ (without.used larger.nextId isGone)
  have exclIff : (∀ other ∈ smaller.facts, ¬ other.Excludes { row with id := smaller.nextId }) ↔
      ∀ other ∈ larger.facts, ¬ other.Excludes { row with id := larger.nextId } := by
    rw [without.facts, without.nextId]
    constructor
    · intro admitted other member excluded
      apply admitted other _ excluded
      rw [List.mem_filter]
      refine ⟨member, decide_eq_true fun isGone => ?_⟩
      obtain ⟨instant, set, _⟩ := without.dead other member isGone
      rw [excluded.1] at set
      cases set
    · intro admitted other member
      exact admitted other (List.mem_filter.mp member).1
  unfold FactStore.insert
  by_cases ranges : row.invalidAt = none → row.RangeOrdered
  · rw [dif_pos ranges, dif_pos ranges]
    by_cases excl : ∀ other ∈ larger.facts, ¬ other.Excludes { row with id := larger.nextId }
    · rw [dif_pos excl, dif_pos (exclIff.mpr excl)]
      have sameRow : ({ row with id := smaller.nextId } : Fact) =
          { row with id := larger.nextId } := by
        rw [without.nextId]
      refine ⟨sameRow.symm, ?_, congrArg (· + 1) without.nextId, ?_, ?_⟩
      · show smaller.facts ++ [{ row with id := smaller.nextId }] =
          (larger.facts ++ [{ row with id := larger.nextId }]).filter
            fun fact => decide (fact.id ∉ gone)
        rw [List.filter_append, ← without.facts, sameRow,
          List.filter_cons_of_pos (by simpa using newId), List.filter_nil]
      · intro id isGone
        exact Nat.lt_succ_of_lt (without.used id isGone)
      · intro fact member isGone
        rcases List.mem_append.mp member with old | new
        · exact without.dead fact old isGone
        · rw [List.mem_singleton.mp new] at isGone
          exact (newId isGone).elim
    · rw [dif_neg excl, dif_neg (fun small => excl (exclIff.mp small))]
      exact rfl
  · rw [dif_neg ranges, dif_neg ranges]
    exact rfl

theorem recordInvalidationEvent (without : Without gone since larger smaller)
    (event : InvalidationEvent) :
    Without gone since (larger.recordInvalidationEvent event)
      (smaller.recordInvalidationEvent event) :=
  ⟨without.facts, without.nextId, without.used, without.dead⟩

theorem setValidTo (without : Without gone since larger smaller) (id : Uuid) (now : Time) :
    Agree (Without gone since) (larger.setValidTo id now) (smaller.setValidTo id now) :=
  without.update id (fun fact => { fact with validTo := some now }) (fun _ => rfl) fun _ => rfl

theorem setSupersededBy (without : Without gone since larger smaller) (id : Uuid)
    (successor : Option Uuid) :
    Agree (Without gone since) (larger.setSupersededBy id successor)
      (smaller.setSupersededBy id successor) :=
  without.update id (fun fact => { fact with supersededByFactId := successor }) (fun _ => rfl)
    fun _ => rfl

theorem closeConflicts (without : Without gone since larger smaller) (now : Time)
    (conflicts : List Fact) :
    Agree (Without gone since) (closeConflicts now conflicts larger)
      (closeConflicts now conflicts smaller) := by
  induction conflicts generalizing larger smaller with
  | nil => exact without
  | cons conflict conflicts ih =>
      apply (without.setValidTo conflict.id now).bind
      intro larger smaller without
      exact ih without

theorem persistRow (without : Without gone since larger smaller) (ctx : BatchCtx)
    (entry : Entry) :
    Agree (SameValue gone since) (persistRow ctx larger entry)
      (persistRow ctx smaller entry) := by
  unfold Facts.persistRow
  cases ctx.insertMode with
  | batchCreate =>
      apply (without.insert _).bind
      rintro ⟨fact, larger⟩ ⟨_, smaller⟩ ⟨rfl, without⟩
      exact ⟨rfl, without⟩
  | batchCreateOrSkip =>
      have inserted := without.insert
        (entry.toFact ctx.orgId ctx.projectId ctx.userId ctx.sourceEpisodeId)
      simp only [createOrSkipRow]
      revert inserted
      cases larger.insert
          (entry.toFact ctx.orgId ctx.projectId ctx.userId ctx.sourceEpisodeId) with
      | ok left =>
          cases smaller.insert
              (entry.toFact ctx.orgId ctx.projectId ctx.userId ctx.sourceEpisodeId) with
          | ok right =>
              rintro ⟨same, without⟩
              exact ⟨congrArg some same, without⟩
          | error right => exact False.elim
      | error left =>
          cases smaller.insert
              (entry.toFact ctx.orgId ctx.projectId ctx.userId ctx.sourceEpisodeId) with
          | ok right => exact False.elim
          | error right =>
              rintro ⟨⟩
              cases left with
              | exclusionViolation => exact ⟨rfl, without⟩
              | _ => exact rfl

theorem persistRows (without : Without gone since larger smaller) (ctx : BatchCtx)
    (entries : List Entry) :
    Agree (SameValue gone since) (persistRows ctx entries larger)
      (persistRows ctx entries smaller) := by
  induction entries generalizing larger smaller with
  | nil => exact ⟨rfl, without⟩
  | cons entry entries ih =>
      apply (without.persistRow ctx entry).bind
      rintro ⟨inserted, larger⟩ ⟨_, smaller⟩ ⟨rfl, without⟩
      apply (ih without).bind
      rintro ⟨rest, larger⟩ ⟨_, smaller⟩ ⟨rfl, without⟩
      exact ⟨rfl, without⟩

theorem insertRows (without : Without gone since larger smaller) (ctx : BatchCtx)
    (entries : List Entry) :
    Agree (SameValue gone since) (insertRows ctx entries larger)
      (insertRows ctx entries smaller) := by
  apply Agree.bind_same
  intro _
  exact without.persistRows ctx entries

theorem recordLineage (without : Without gone since larger smaller) (orgId projectId : Uuid)
    (now : Time) (sources : Uuid → Option Uuid) (transitions : List SupersessionEvent) :
    Agree (Without gone since) (recordLineage orgId projectId now sources transitions larger)
      (recordLineage orgId projectId now sources transitions smaller) := by
  induction transitions generalizing larger smaller with
  | nil => exact without
  | cons transition transitions ih =>
      unfold Facts.recordLineage
      cases transition.newFactId with
      | none => exact ih without
      | some newFactId =>
          apply (without.setSupersededBy transition.oldFactId (some newFactId)).bind
          intro larger smaller without
          exact ih (without.recordInvalidationEvent _)

section Loops

variable {casing : Casing} {candidates tombstones tombstones' : NameIdentity → List Fact}
  {ctx : BatchCtx}

theorem batchSafeLoop (without : Without gone since larger smaller) {entries : List Entry}
    (tombstoned : ∀ entry ∈ entries,
      isTombstoned casing tombstones entry = isTombstoned casing tombstones' entry)
    (state : BatchState) (kept : List (Entry × List Fact)) :
    Agree (fun left right => Without gone since left.1 right.1 ∧ left.2 = right.2)
      (batchSafeLoop casing candidates tombstones ctx entries larger state kept)
      (batchSafeLoop casing candidates tombstones' ctx entries smaller state kept) := by
  induction entries generalizing larger smaller state kept with
  | nil => exact ⟨without, rfl⟩
  | cons entry entries ih =>
      have rest := fun entry member => tombstoned entry (List.mem_cons_of_mem _ member)
      simp only [Facts.batchSafeLoop, tombstoned entry List.mem_cons_self]
      split
      · exact ih without rest state.skip kept
      · apply (without.closeConflicts ctx.now _).bind
        intro larger smaller without
        exact ih without rest _ _

theorem supersedeBatchSafe (without : Without gone since larger smaller) {entries : List Entry}
    (tombstoned : ∀ entry ∈ entries,
      isTombstoned casing tombstones entry = isTombstoned casing tombstones' entry)
    (state : BatchState) :
    Agree (fun left right => Without gone since left.1 right.1 ∧ left.2 = right.2)
      (supersedeBatchSafe casing candidates tombstones ctx entries larger state)
      (supersedeBatchSafe casing candidates tombstones' ctx entries smaller state) := by
  apply (without.batchSafeLoop tombstoned state []).bind
  rintro ⟨larger, state, kept⟩ ⟨smaller, _, _⟩ ⟨without, ⟨⟩⟩
  apply (without.insertRows ctx (kept.map Prod.fst)).bind
  rintro ⟨inserted, larger⟩ ⟨_, smaller⟩ ⟨rfl, without⟩
  exact ⟨without, rfl⟩

theorem supersedeSequential (without : Without gone since larger smaller)
    {entries : List Entry}
    (tombstoned : ∀ entry ∈ entries,
      isTombstoned casing tombstones entry = isTombstoned casing tombstones' entry)
    (state : BatchState) :
    Agree (fun left right => Without gone since left.1 right.1 ∧ left.2 = right.2)
      (supersedeSequential casing candidates tombstones ctx entries larger state)
      (supersedeSequential casing candidates tombstones' ctx entries smaller state) := by
  induction entries generalizing larger smaller state with
  | nil => exact ⟨without, rfl⟩
  | cons entry entries ih =>
      have rest := fun entry member => tombstoned entry (List.mem_cons_of_mem _ member)
      simp only [Facts.supersedeSequential, tombstoned entry List.mem_cons_self]
      split
      · exact ih without rest state.skip
      · apply (without.closeConflicts ctx.now _).bind
        intro larger smaller without
        apply (without.insertRows ctx [entry]).bind
        rintro ⟨inserted, larger⟩ ⟨_, smaller⟩ ⟨rfl, without⟩
        cases inserted with
        | nil => exact ih without rest _
        | cons newFact inserted => exact ih without rest _

end Loops

end Without

/-- What two agreeing ingests leave: the same answer over the two stores. -/
def SameOutcome (gone : List Uuid) (since : Time) (left right : IngestOutcome) : Prop :=
  Without gone since left.store right.store ∧ left.result = right.result ∧
    left.events = right.events ∧ left.effects = right.effects

theorem not_effectiveAt_of_dead {fact : Fact} {now : Time}
    (dead : ∃ instant ∈ fact.invalidAt, instant ≤ since) (later : since ≤ now) :
    ¬ fact.EffectiveAt now := by
  obtain ⟨instant, set, past⟩ := dead
  intro effective
  exact absurd (effective.1 instant set) (not_lt.mpr (past.trans later))

theorem Without.candidates (without : Without gone since larger smaller) (casing : Casing)
    (call : IngestCall) (later : since ≤ call.now) :
    call.candidates casing larger = call.candidates casing smaller := by
  unfold IngestCall.candidates findConflictingActiveForUpdate
  rw [without.facts, List.filter_filter]
  congr 1
  apply List.filter_congr
  intro fact member
  by_cases isGone : fact.id ∈ gone
  · have inactive := not_effectiveAt_of_dead (without.dead fact member isGone) later
    simp [isGone, inactive]
  · simp [isGone]

/-- No row that is gone stands in the way of an entry. -/
def NoneTombstoned (casing : Casing) (gone : List Uuid) (store : FactStore)
    (call : IngestCall) : Prop :=
  ∀ entry ∈ call.entries casing, ∀ fact ∈ call.tombstones casing store (entry.nameIdentity casing),
    fact.id ∈ gone → candidateConflicts casing entry fact = false

theorem Without.isTombstoned (without : Without gone since larger smaller) {casing : Casing}
    {call : IngestCall} (free : NoneTombstoned casing gone larger call) {entry : Entry}
    (member : entry ∈ call.entries casing) :
    Facts.isTombstoned casing (call.tombstones casing larger) entry =
      Facts.isTombstoned casing (call.tombstones casing smaller) entry := by
  have buckets : call.tombstones casing smaller (entry.nameIdentity casing) =
      (call.tombstones casing larger (entry.nameIdentity casing)).filter
        fun fact => decide (fact.id ∉ gone) := by
    simp only [IngestCall.tombstones, scanTombstones, findRetractedByMatchKeys, bucketByName,
      without.facts, List.filter_filter]
    apply List.filter_congr
    intro fact _
    simp only [Bool.and_comm, Bool.and_left_comm, Bool.and_assoc]
  unfold Facts.isTombstoned
  rw [buckets, List.any_filter]
  apply Bool.eq_iff_iff.mpr
  rw [List.any_eq_true, List.any_eq_true]
  constructor
  · rintro ⟨fact, scanned, conflicts⟩
    refine ⟨fact, scanned, ?_⟩
    have kept : fact.id ∉ gone := by
      intro isGone
      rw [free entry member fact scanned isGone] at conflicts
      cases conflicts
    simp [kept, conflicts]
  · rintro ⟨fact, scanned, both⟩
    rw [Bool.and_eq_true] at both
    exact ⟨fact, scanned, both.2⟩

theorem Without.ingest (without : Without gone since larger smaller) {casing : Casing}
    (collaborators : Collaborators) {call : IngestCall} (later : since ≤ call.now)
    (free : NoneTombstoned casing gone larger call) :
    Agree (SameOutcome gone since) (ingestWithSupersession casing collaborators larger call)
      (ingestWithSupersession casing collaborators smaller call) := by
  unfold ingestWithSupersession
  split
  · exact ⟨without, rfl, rfl, rfl⟩
  · have tombstoned : ∀ entry ∈ call.entries casing,
        Facts.isTombstoned casing (call.tombstones casing larger) entry =
          Facts.isTombstoned casing (call.tombstones casing smaller) entry :=
      fun entry member => without.isTombstoned free member
    unfold ingestScanned
    rw [without.candidates casing call later]
    apply (without.supersedeBatchSafe
      (fun entry member => tombstoned entry (List.mem_filter.mp member).1) _).bind
    rintro ⟨larger, state⟩ ⟨smaller, _⟩ ⟨without, rfl⟩
    apply (without.supersedeSequential
      (fun entry member => tombstoned entry (List.mem_filter.mp member).1) state).bind
    rintro ⟨larger, state⟩ ⟨smaller, _⟩ ⟨without, rfl⟩
    apply (without.recordLineage call.orgId call.projectId call.now _ state.events).bind
    intro larger smaller without
    exact ⟨without, rfl, rfl, rfl⟩

end OpenZync.Facts
