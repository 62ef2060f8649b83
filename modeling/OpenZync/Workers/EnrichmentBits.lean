import OpenZync.Workers.EnrichEpisode

/-!
# What the enrichment bits say

Every call adds to the status what its released sections have stamped, and
bit 8 where it marks an older episode assessed.  A section stamps the bits it
reports, except for the entities section of an organisation without a graph
backend, which is released and stamps nothing.
-/

namespace OpenZync.Workers

open OpenZync.Library

/-- The bits of all the sections together. -/
def joined (bits : Section → EnrichmentStatus) (parts : List Section) : EnrichmentStatus :=
  parts.foldr (fun part rest => bits part ||| rest) 0#32

/-- What the released savepoint of a section has stamped. -/
def OrgConfig.stamped (config : OrgConfig) : Section → EnrichmentStatus
  | .entities => if config.graphEnabled then Section.entities.bits else 0#32
  | part => part.bits

/-- Bit 8 as the facts section leaves it on an episode that has its facts. -/
def assessedBits (entry : EnrichmentStatus) : EnrichmentStatus :=
  if Covers entry enrichmentFacts then llmInvalidationBit else 0#32

section Masks

variable {bits : Section → EnrichmentStatus} {status : EnrichmentStatus}

@[simp] theorem joined_nil : joined bits [] = 0#32 := rfl

@[simp] theorem joined_cons (part : Section) (rest : List Section) :
    joined bits (part :: rest) = bits part ||| joined bits rest := rfl

@[simp] theorem joined_append (first second : List Section) :
    joined bits (first ++ second) = joined bits first ||| joined bits second := by
  induction first with
  | nil => simp
  | cons part rest ih =>
      rw [List.cons_append, joined_cons, ih, joined_cons, BitVec.or_assoc]

theorem covers_joined {part : Section} {parts : List Section} (member : part ∈ parts) :
    Covers (joined bits parts) (bits part) := by
  obtain ⟨before, after, rfl⟩ := List.append_of_mem member
  rw [joined_append, joined_cons]
  exact Covers.self.or_left.or_right

theorem exists_covers_of_joined {mask : EnrichmentStatus} (single : SingleBit mask)
    {parts : List Section} (covered : Covers (joined bits parts) mask) :
    ∃ part ∈ parts, Covers (bits part) mask := by
  induction parts with
  | nil => exact (single.not_covers_zero covered).elim
  | cons part rest ih =>
      rcases single.covers_or.mp covered with here | later
      · exact ⟨part, List.mem_cons_self, here⟩
      · obtain ⟨other, member, found⟩ := ih later
        exact ⟨other, List.mem_cons_of_mem _ member, found⟩

theorem covers_llmBits_iff :
    Covers status llmBits ↔ ∀ part : Section, Covers status part.bits := by
  unfold llmBits
  rw [covers_or, covers_or, covers_or, covers_or]
  constructor
  · rintro ⟨⟨⟨⟨entities, facts⟩, classification⟩, structured⟩, invalidation⟩ part
    cases part with
    | classification => exact classification
    | entities => exact entities
    | facts => exact covers_or.mpr ⟨facts, invalidation⟩
    | structured => exact structured
  · intro parts
    have facts := covers_or.mp (parts .facts)
    exact ⟨⟨⟨⟨parts .entities, facts.1⟩, parts .classification⟩, parts .structured⟩, facts.2⟩

theorem singleBit_entities : SingleBit enrichmentEntities :=
  ⟨0, by omega, by decide⟩

theorem singleBit_facts : SingleBit enrichmentFacts :=
  ⟨2, by omega, by decide⟩

theorem singleBit_classification : SingleBit enrichmentClassification :=
  ⟨4, by omega, by decide⟩

theorem singleBit_structured : SingleBit enrichmentStructuredExtraction :=
  ⟨5, by omega, by decide⟩

theorem singleBit_invalidation : SingleBit llmInvalidationBit :=
  ⟨8, by omega, by decide⟩

theorem stamped_eq (config : OrgConfig) (part : Section) :
    config.stamped part = part.bits ∨
      config.graphEnabled = false ∧ part = .entities ∧ config.stamped part = 0#32 := by
  cases part with
  | entities =>
      cases enabled : config.graphEnabled with
      | true => exact Or.inl (by simp [OrgConfig.stamped, enabled])
      | false => exact Or.inr ⟨rfl, rfl, by simp [OrgConfig.stamped, enabled]⟩
  | classification => exact Or.inl rfl
  | facts => exact Or.inl rfl
  | structured => exact Or.inl rfl

theorem or_joined_stamped {config : OrgConfig}
    (excused : config.graphEnabled = true ∨ Covers status enrichmentEntities)
    (parts : List Section) :
    status ||| joined config.stamped parts = status ||| joined Section.bits parts := by
  induction parts with
  | nil => rfl
  | cons part rest ih =>
      have head : status ||| config.stamped part = status ||| part.bits := by
        rcases stamped_eq config part with same | ⟨disabled, rfl, nothing⟩
        · rw [same]
        · have covered := excused.resolve_left (by simp [disabled])
          rw [nothing, BitVec.or_zero]
          exact covered.or_eq.symm
      rw [joined_cons, joined_cons, or_or_distrib, head, ih, ← or_or_distrib]

end Masks

@[simp] theorem applyEnrichmentBits_isDeleted (row : EpisodeRow) (bits : EnrichmentStatus) :
    (row.applyEnrichmentBits bits).isDeleted = row.isDeleted := by
  unfold EpisodeRow.applyEnrichmentBits
  split <;> rfl

theorem applyEnrichmentBits_status {row : EpisodeRow} (live : row.isDeleted = false)
    (bits : EnrichmentStatus) :
    (row.applyEnrichmentBits bits).enrichmentStatus = row.enrichmentStatus ||| bits := by
  simp [EpisodeRow.applyEnrichmentBits, live]

/-- What an open transaction has made of the status it started from: the stamps
of its released sections and `extra`. -/
structure Accounted (config : OrgConfig) (entry extra : EnrichmentStatus)
    (state : TaskState) : Prop where
  live : state.row.isDeleted = false
  status : state.row.enrichmentStatus =
    entry ||| joined config.stamped state.released ||| extra

/-- A section failed, was released, or had nothing left to do. -/
def Settled (known : EnrichmentStatus) (state : TaskState) (part : Section) : Prop :=
  part ∈ state.errors ∨ part ∈ state.released ∨ Covers known part.bits

/-- The body of a savepoint sets the given bits, if it does not raise. -/
def Stamps (bits : EnrichmentStatus) (body : EpisodeRow → Except TaskError EpisodeRow) : Prop :=
  ∀ before after, before.isDeleted = false → body before = .ok after →
    after.isDeleted = false ∧
      after.enrichmentStatus = before.enrichmentStatus ||| bits

section Sections

variable {entry extra known : EnrichmentStatus} {state : TaskState} {part : Section}
variable {body : EpisodeRow → Except TaskError EpisodeRow}
variable {config : OrgConfig} {world : World}

theorem Accounted.nested (accounted : Accounted config entry extra state)
    (stamps : Stamps (config.stamped part) body) :
    Accounted config entry extra (state.nested part body) := by
  unfold TaskState.nested
  cases ran : body state.row with
  | error error => exact ⟨accounted.live, accounted.status⟩
  | ok row =>
      obtain ⟨live, stamped⟩ := stamps state.row row accounted.live ran
      refine ⟨live, ?_⟩
      simp only [stamped, accounted.status, joined_append, joined_cons, joined_nil,
        BitVec.or_zero]
      ac_rfl

theorem settled_nested (state : TaskState) (part : Section)
    (body : EpisodeRow → Except TaskError EpisodeRow) :
    Settled known (state.nested part body) part := by
  unfold TaskState.nested
  cases body state.row with
  | error error => exact Or.inl (by simp)
  | ok row => exact Or.inr (Or.inl (by simp))

theorem Settled.nested {other : Section} (settled : Settled known state other)
    (part : Section) (body : EpisodeRow → Except TaskError EpisodeRow) :
    Settled known (state.nested part body) other := by
  unfold TaskState.nested
  rcases settled with failed | released | done
  · cases body state.row with
    | error error => exact Or.inl (List.mem_append_left _ failed)
    | ok row => exact Or.inl failed
  · cases body state.row with
    | error error => exact Or.inr (Or.inl released)
    | ok row => exact Or.inr (Or.inl (List.mem_append_left _ released))
  · exact Or.inr (Or.inr done)

theorem stampAfter_stamps (bits : EnrichmentStatus) (run : HelperRun) :
    Stamps bits (stampAfter bits run) := by
  intro before after live ran
  have afterEq : after = before.applyEnrichmentBits bits := by
    unfold stampAfter at ran
    cases persisted : run.persist with
    | error error => simp [persisted, bind, Except.bind] at ran
    | ok done =>
        cases flushed : run.flush with
        | error error => simp [persisted, flushed, bind, Except.bind] at ran
        | ok done =>
            simp only [persisted, flushed, bind, Except.bind, pure, Except.pure,
              Except.ok.injEq] at ran
            exact ran.symm
  rw [afterEq, applyEnrichmentBits_isDeleted, applyEnrichmentBits_status live]
  exact ⟨live, rfl⟩

theorem factsBody_stamps : Stamps Section.facts.bits (factsBody config world) := by
  intro before after live ran
  unfold factsBody at ran
  cases processed : processFactsOutput world.facts before with
  | error error => simp [processed, bind, Except.bind] at ran
  | ok middle =>
      obtain ⟨middleLive, middleStatus⟩ := stampAfter_stamps _ _ before middle live processed
      have afterEq : after = middle.applyEnrichmentBits llmInvalidationBit := by
        rw [processed] at ran
        simp only [bind, Except.bind, pure, Except.pure] at ran
        split at ran
        · cases applied : world.applyLlmInvalidations with
          | error error => simp [applied] at ran
          | ok done =>
              simp only [applied, Except.ok.injEq] at ran
              exact ran.symm
        · simp only [Except.ok.injEq] at ran
          exact ran.symm
      rw [afterEq, applyEnrichmentBits_isDeleted, applyEnrichmentBits_status middleLive,
        middleStatus, BitVec.or_assoc]
      exact ⟨middleLive, rfl⟩

/-- Without a backend the body raises nothing and writes nothing. -/
theorem entitiesBody_stamps :
    Stamps (config.stamped .entities) fun row =>
      if config.graphEnabled then processEntitiesOutput world.entities row else .ok row := by
  cases enabled : config.graphEnabled with
  | true =>
      simp only [OrgConfig.stamped, enabled, if_true]
      exact stampAfter_stamps _ _
  | false =>
      intro before after live ran
      simp only [Bool.false_eq_true, if_false, Except.ok.injEq] at ran
      subst after
      refine ⟨live, ?_⟩
      simp [OrgConfig.stamped, enabled]

/-- The three sections that do nothing outside their savepoint. -/
theorem Accounted.section {bits : EnrichmentStatus}
    (accounted : Accounted config entry extra state)
    (stamps : Stamps (config.stamped part) body) :
    Accounted config entry extra
      (if entry &&& bits = 0#32 then state.nested part body else state.alreadySet bits) := by
  split
  · exact accounted.nested stamps
  · exact ⟨accounted.live, accounted.status⟩

theorem settled_section {bits : EnrichmentStatus} (single : SingleBit bits)
    (same : part.bits = bits) (knownEntry : Covers known entry) :
    Settled known
      (if entry &&& bits = 0#32 then state.nested part body else state.alreadySet bits)
      part := by
  split
  · exact settled_nested state part body
  · rename_i present
    rw [single.and_eq_zero_iff, not_not, ← same] at present
    exact Or.inr (Or.inr (knownEntry.trans present))

theorem Settled.section {bits : EnrichmentStatus} {other : Section}
    (settled : Settled known state other) :
    Settled known
      (if entry &&& bits = 0#32 then state.nested part body else state.alreadySet bits)
      other := by
  split
  · exact settled.nested part body
  · exact settled

theorem factsSection_cases {result : TaskState}
    (ran : factsSection config world entry state = .ok result) :
    (¬ Covers entry enrichmentFacts ∧
      result = state.nested .facts (factsBody config world)) ∨
    (Covers entry enrichmentFacts ∧
      result.row = state.row.applyEnrichmentBits llmInvalidationBit ∧
      result.errors = state.errors ∧ result.released = state.released) ∨
    (Covers entry enrichmentFacts ∧ Covers entry llmInvalidationBit ∧
      result = state.alreadySet enrichmentFacts) := by
  unfold factsSection at ran
  split at ran
  · rename_i absent
    cases ran
    exact Or.inl ⟨singleBit_facts.and_eq_zero_iff.mp absent, rfl⟩
  · rename_i present
    rw [singleBit_facts.and_eq_zero_iff, not_not] at present
    split at ran
    · cases stamped : world.stampInvalidation with
      | error error => simp [stamped, bind, Except.bind] at ran
      | ok done =>
          simp only [stamped, bind, Except.bind, pure, Except.pure, Except.ok.injEq] at ran
          subst result
          exact Or.inr (Or.inl ⟨present, rfl, rfl, rfl⟩)
    · rename_i assessed
      rw [singleBit_invalidation.and_eq_zero_iff, not_not] at assessed
      cases ran
      exact Or.inr (Or.inr ⟨present, assessed, rfl⟩)

theorem factsSection_accounted {result : TaskState}
    (accounted : Accounted config entry 0#32 state)
    (ran : factsSection config world entry state = .ok result) :
    Accounted config entry (assessedBits entry) result := by
  rcases factsSection_cases ran with ⟨absent, rfl⟩ | ⟨present, rowEq, _, releasedEq⟩ |
    ⟨present, assessed, rfl⟩
  · simp only [assessedBits, absent, if_false]
    exact accounted.nested factsBody_stamps
  · simp only [assessedBits, present, if_true]
    refine ⟨?_, ?_⟩
    · rw [rowEq, applyEnrichmentBits_isDeleted, accounted.live]
    · rw [rowEq, releasedEq, applyEnrichmentBits_status accounted.live, accounted.status,
        BitVec.or_zero]
  · simp only [assessedBits, present, if_true]
    refine ⟨accounted.live, ?_⟩
    calc state.row.enrichmentStatus
        = (entry ||| llmInvalidationBit) ||| joined config.stamped state.released := by
          rw [accounted.status, BitVec.or_zero, assessed.or_eq]
      _ = entry ||| joined config.stamped state.released ||| llmInvalidationBit := by ac_rfl

theorem Settled.factsSection {other : Section} {result : TaskState}
    (settled : Settled known state other)
    (ran : factsSection config world entry state = .ok result) :
    Settled known result other := by
  rcases factsSection_cases ran with ⟨_, rfl⟩ | ⟨_, _, errorsEq, releasedEq⟩ | ⟨_, _, rfl⟩
  · exact settled.nested _ _
  · rw [Settled, errorsEq, releasedEq]
    exact settled
  · exact settled

theorem settled_factsSection {result : TaskState}
    (ran : factsSection config world entry state = .ok result) :
    Settled (entry ||| assessedBits entry) result .facts := by
  by_cases present : Covers entry enrichmentFacts
  · refine Or.inr (Or.inr (covers_or.mpr ⟨present.or_left, ?_⟩))
    simp only [assessedBits, present, if_true]
    exact Covers.self.or_right
  · rcases factsSection_cases ran with ⟨_, rfl⟩ | ⟨covered, _⟩ | ⟨covered, _⟩
    · exact settled_nested _ _ _
    · exact (present covered).elim
    · exact (present covered).elim

theorem runSections_spec {row : EpisodeRow} {result : TaskState}
    (live : row.isDeleted = false)
    (ran : runSections config world row = .ok result) :
    Accounted config row.enrichmentStatus (assessedBits row.enrichmentStatus) result ∧
      ∀ part,
        Settled (row.enrichmentStatus ||| assessedBits row.enrichmentStatus) result part := by
  unfold runSections at ran
  simp only [bind, Except.bind, pure, Except.pure] at ran
  split at ran
  · cases ran
  · rename_i middle facts
    cases ran
    have start : Accounted config row.enrichmentStatus 0#32
        { row := row, errors := [], setBits := 0#32, released := [] } :=
      ⟨live, by simp⟩
    constructor
    · apply Accounted.section _ (stampAfter_stamps _ _)
      apply factsSection_accounted _ facts
      apply Accounted.section _ entitiesBody_stamps
      exact start.section (stampAfter_stamps _ _)
    · have known : Covers (row.enrichmentStatus ||| assessedBits row.enrichmentStatus)
          row.enrichmentStatus := Covers.self.or_left
      intro part
      cases part with
      | structured => exact settled_section singleBit_structured rfl known
      | facts => exact (settled_factsSection facts).section
      | entities =>
          apply Settled.section
          apply Settled.factsSection _ facts
          exact settled_section singleBit_entities rfl known
      | classification =>
          apply Settled.section
          apply Settled.factsSection _ facts
          apply Settled.section
          exact settled_section singleBit_classification rfl known

end Sections

/-- What a call makes of the status of its episode. -/
structure Reports (config : OrgConfig) (row : EpisodeRow) (run : TaskRun) : Prop where
  isDeleted : run.row.isDeleted = row.isDeleted
  status : run.row.enrichmentStatus =
    row.enrichmentStatus ||| joined config.stamped run.released |||
      (if run.committed then assessedBits row.enrichmentStatus else 0#32)

theorem Reports.covers_entry {config : OrgConfig} {row : EpisodeRow} {run : TaskRun}
    (reports : Reports config row run) :
    Covers run.row.enrichmentStatus row.enrichmentStatus := by
  rw [reports.status]
  exact Covers.self.or_left.or_left

/-- A call that returned has every section stamped or found its bits. -/
def Complete (config : OrgConfig) (run : TaskRun) : Prop :=
  ∀ part, Covers run.row.enrichmentStatus (config.stamped part)

section Attempts

variable {config : OrgConfig} {world : World} {row : EpisodeRow}

theorem reports_unchanged (outcome : Except TaskError Unit) (llmCalls : Nat) :
    Reports config row (.unchanged row outcome llmCalls) :=
  ⟨rfl, by simp [TaskRun.unchanged]⟩

theorem covers_stamped {status : EnrichmentStatus} {part : Section}
    (covered : Covers status part.bits) : Covers status (config.stamped part) := by
  rcases stamped_eq config part with same | ⟨_, _, nothing⟩
  · rw [same]
    exact covered
  · rw [nothing]
    exact BitVec.and_zero

theorem persistSections_reports (live : row.isDeleted = false) :
    Reports config row (persistSections config world row) := by
  unfold persistSections
  cases ran : runSections config world row with
  | error error => exact reports_unchanged _ _
  | ok state =>
      have accounted := (runSections_spec live ran).1
      cases world.commit with
      | error error => exact reports_unchanged _ _
      | ok done => exact ⟨accounted.live.trans live.symm, accounted.status⟩

theorem persistSections_complete (live : row.isDeleted = false)
    (returned : (persistSections config world row).outcome = .ok ()) :
    Complete config (persistSections config world row) := by
  unfold persistSections at returned ⊢
  cases ran : runSections config world row with
  | error error => simp [ran, TaskRun.unchanged] at returned
  | ok state =>
      obtain ⟨accounted, settled⟩ := runSections_spec live ran
      cases committed : world.commit with
      | error error => simp [ran, committed, TaskRun.unchanged] at returned
      | ok done =>
          have clean : state.errors = [] := by
            simp only [ran, committed, TaskState.outcome] at returned
            split at returned
            · assumption
            · cases returned
          intro part
          simp only [accounted.status]
          rcases settled part with failed | released | known
          · rw [clean] at failed
            cases failed
          · exact (covers_joined released).or_right.or_left
          · rw [BitVec.or_assoc, BitVec.or_comm (joined _ _), ← BitVec.or_assoc]
            exact (covers_stamped known).or_left

theorem enrichAttempt_reports : Reports config row (enrichAttempt config world row) := by
  unfold enrichAttempt
  split
  · exact reports_unchanged _ _
  · rename_i live
    split
    · exact reports_unchanged _ _
    · split
      · exact reports_unchanged _ _
      · split
        · exact reports_unchanged _ _
        · split
          · exact reports_unchanged _ _
          · exact persistSections_reports (by simpa using live)

theorem enrichAttempt_complete (unarchived : world.archived = false)
    (returned : (enrichAttempt config world row).outcome = .ok ()) :
    Complete config (enrichAttempt config world row) := by
  unfold enrichAttempt at returned ⊢
  split at returned
  · cases returned
  · rename_i live
    split at returned
    · rename_i done
      rw [if_neg live, if_pos done]
      intro part
      exact covers_stamped (covers_llmBits_iff.mp done part)
    · rename_i unfinished
      rw [if_neg (by simp [unarchived])] at returned
      rw [if_neg live, if_neg unfinished, if_neg (by simp [unarchived])]
      split at returned
      · cases returned
      · split at returned
        · cases returned
        · exact persistSections_complete (by simpa using live) returned

theorem covers_invalidation_of_facts {parts : List Section}
    (covered : Covers (joined config.stamped parts) enrichmentFacts) :
    Covers (joined config.stamped parts) llmInvalidationBit := by
  obtain ⟨part, member, found⟩ := exists_covers_of_joined singleBit_facts covered
  have reported : Covers part.bits enrichmentFacts := by
    rcases stamped_eq config part with same | ⟨_, _, nothing⟩
    · rw [← same]
      exact found
    · rw [nothing] at found
      exact (singleBit_facts.not_covers_zero found).elim
  have facts : part = .facts := by
    cases part with
    | facts => rfl
    | entities => exact absurd reported (by decide)
    | classification => exact absurd reported (by decide)
    | structured => exact absurd reported (by decide)
  subst part
  exact (covers_joined member).trans (covers_or.mp Covers.self).2

/-- Bit 8 is stamped without a savepoint only for facts that were there before
the first attempt. -/
theorem Reports.assessed {first : TaskRun} (before : Reports config row first)
    (later : Bool) :
    joined config.stamped first.released |||
        (if first.committed then assessedBits row.enrichmentStatus else 0#32) |||
        (if later then assessedBits first.row.enrichmentStatus else 0#32) =
      joined config.stamped first.released |||
        (if first.committed || later then assessedBits row.enrichmentStatus else 0#32) := by
  by_cases old : Covers row.enrichmentStatus enrichmentFacts
  · have still : Covers first.row.enrichmentStatus enrichmentFacts := by
      rw [before.status]
      exact old.or_left.or_left
    simp only [assessedBits, still, old, if_true]
    cases first.committed <;> cases later <;> simp [BitVec.or_assoc]
  · have none : assessedBits row.enrichmentStatus = 0#32 := if_neg old
    simp only [none, ite_self, BitVec.or_zero]
    cases later with
    | false => simp
    | true =>
        by_cases added : Covers first.row.enrichmentStatus enrichmentFacts
        · simp only [assessedBits, added, if_true]
          rw [before.status, none, ite_self, BitVec.or_zero, singleBit_facts.covers_or] at added
          exact (covers_invalidation_of_facts (added.resolve_left old)).or_eq
        · simp [assessedBits, added]

theorem Reports.andThen {first second : TaskRun} (before : Reports config row first)
    (after : Reports config first.row second) :
    Reports config row (first.andThen second) := by
  refine ⟨after.isDeleted.trans before.isDeleted, ?_⟩
  have assessed := before.assessed second.committed
  calc second.row.enrichmentStatus
      = row.enrichmentStatus ||| (joined config.stamped first.released |||
          (if first.committed then assessedBits row.enrichmentStatus else 0#32) |||
          (if second.committed then assessedBits first.row.enrichmentStatus else 0#32)) |||
          joined config.stamped second.released := by
        rw [after.status]
        nth_rewrite 1 [before.status]
        ac_rfl
    _ = row.enrichmentStatus |||
          joined config.stamped (first.released ++ second.released) |||
          (if first.committed || second.committed then
            assessedBits row.enrichmentStatus else 0#32) := by
        rw [assessed, joined_append]
        ac_rfl

end Attempts

section Retries

variable {config : OrgConfig} {worlds : Nat → World}

theorem withRetry_reports (attempt retries : Nat) (row : EpisodeRow) :
    Reports config row
      (withRetry (fun attempt => enrichAttempt config (worlds attempt)) attempt retries row) := by
  induction retries generalizing attempt row with
  | zero => exact enrichAttempt_reports
  | succ retries ih =>
      have first : Reports config row (enrichAttempt config (worlds attempt) row) :=
        enrichAttempt_reports
      unfold withRetry
      dsimp only
      split
      · exact first
      · split
        · exact first.andThen (ih (attempt + 1) _)
        · exact first

theorem withRetry_complete (attempt retries : Nat) (row : EpisodeRow)
    (unarchived : ∀ index, index ≤ attempt + retries → (worlds index).archived = false)
    (returned : (withRetry (fun attempt => enrichAttempt config (worlds attempt))
      attempt retries row).outcome = .ok ()) :
    Complete config
      (withRetry (fun attempt => enrichAttempt config (worlds attempt)) attempt retries row) := by
  induction retries generalizing attempt row with
  | zero => exact enrichAttempt_complete (unarchived attempt (by omega)) returned
  | succ retries ih =>
      unfold withRetry at returned ⊢
      dsimp only at returned ⊢
      cases outcome : (enrichAttempt config (worlds attempt) row).outcome with
      | ok done =>
          exact enrichAttempt_complete (unarchived attempt (by omega)) outcome
      | error error =>
          rw [outcome] at returned
          dsimp only at returned ⊢
          split at returned
          · rename_i retryable
            rw [if_pos retryable]
            exact ih (attempt + 1) _
              (fun index bound => unarchived index (by omega)) returned
          · rw [outcome] at returned
            cases returned

/-- A deleted episode, one that passes the skip test and one of an archived
project are left alone, and no attempt follows. -/
theorem enrichEpisode_idle {row : EpisodeRow}
    (idle : row.isDeleted = true ∨ Covers row.enrichmentStatus llmBits ∨
      (worlds 0).archived = true) :
    enrichEpisode config worlds row =
      .unchanged row (if row.isDeleted then .error .episodeNotFound else .ok ()) 0 := by
  have attempt : enrichAttempt config (worlds 0) row =
      .unchanged row (if row.isDeleted then .error .episodeNotFound else .ok ()) 0 := by
    unfold enrichAttempt
    cases deleted : row.isDeleted with
    | true => rfl
    | false =>
        rw [deleted] at idle
        simp only [Bool.false_eq_true, if_false]
        rcases idle with impossible | covered | archived
        · cases impossible
        · exact if_pos covered
        · rw [archived]
          split <;> rfl
  have unfolded : enrichEpisode config worlds row =
      withRetry (fun attempt => enrichAttempt config (worlds attempt)) 0 (1 + 1) row := rfl
  rw [unfolded]
  simp only [withRetry, attempt, TaskRun.unchanged]
  cases row.isDeleted <;> rfl

theorem llmCalls_le_withRetry (body : Nat → EpisodeRow → TaskRun) (attempt retries : Nat)
    (row : EpisodeRow) :
    (body attempt row).llmCalls ≤ (withRetry body attempt retries row).llmCalls := by
  cases retries with
  | zero => exact Nat.le_refl _
  | succ retries =>
      unfold withRetry
      dsimp only
      split
      · exact Nat.le_refl _
      · split
        · exact Nat.le_add_right _ _
        · exact Nat.le_refl _

end Retries

/-- Bit 0 of an organisation without a graph backend, unless the episode has it. -/
def unstampedBits (config : OrgConfig) (row : EpisodeRow) : EnrichmentStatus :=
  if config.graphEnabled = true ∨ Covers row.enrichmentStatus enrichmentEntities then 0#32
  else enrichmentEntities

theorem unstampedBits_excused (config : OrgConfig) (row : EpisodeRow) :
    config.graphEnabled = true ∨
      Covers (row.enrichmentStatus ||| unstampedBits config row) enrichmentEntities := by
  unfold unstampedBits
  split
  · rename_i excused
    rw [BitVec.or_zero]
    exact excused
  · exact Or.inr Covers.self.or_right

/-- Without a graph backend no call stamps bit 0. -/
theorem enrichEpisode_without_graph {config : OrgConfig} {row : EpisodeRow}
    (disabled : config.graphEnabled = false)
    (absent : ¬ Covers row.enrichmentStatus enrichmentEntities) (worlds : Nat → World) :
    ¬ Covers (enrichEpisode config worlds row).row.enrichmentStatus enrichmentEntities := by
  have reports : Reports config row (enrichEpisode config worlds row) :=
    withRetry_reports 0 _ row
  rw [reports.status, singleBit_entities.covers_or, singleBit_entities.covers_or]
  rintro ((old | stamped) | assessed)
  · exact absent old
  · obtain ⟨part, _, found⟩ := exists_covers_of_joined singleBit_entities stamped
    cases part with
    | entities =>
        simp only [OrgConfig.stamped, disabled, Bool.false_eq_true, if_false] at found
        exact singleBit_entities.not_covers_zero found
    | classification => exact absurd found (by simp only [OrgConfig.stamped]; decide)
    | facts => exact absurd found (by simp only [OrgConfig.stamped]; decide)
    | structured => exact absurd found (by simp only [OrgConfig.stamped]; decide)
  · split at assessed
    · unfold assessedBits at assessed
      split at assessed
      · exact absurd assessed (by decide)
      · exact singleBit_entities.not_covers_zero assessed
    · exact singleBit_entities.not_covers_zero assessed

theorem without_graph_enriched_again {config : OrgConfig} {row : EpisodeRow}
    (disabled : config.graphEnabled = false) (live : row.isDeleted = false)
    (absent : ¬ Covers row.enrichmentStatus enrichmentEntities) (worlds later : Nat → World)
    (unarchived : (later 0).archived = false) (prepared : (later 0).prepare = .ok ()) :
    0 < (enrichEpisode config later (enrichEpisode config worlds row).row).llmCalls ∧
      reconcilerEnqueues (enrichEpisode config worlds row).row false true = true := by
  have reports : Reports config row (enrichEpisode config worlds row) :=
    withRetry_reports 0 _ row
  have still := enrichEpisode_without_graph disabled absent worlds
  have unfinished :
      ¬ (enrichEpisode config worlds row).row.enrichmentStatus &&& llmBits = llmBits := by
    intro covered
    exact still (covers_llmBits_iff.mp covered .entities)
  have stillLive : (enrichEpisode config worlds row).row.isDeleted = false :=
    reports.isDeleted.trans live
  constructor
  · apply Nat.lt_of_lt_of_le _ (llmCalls_le_withRetry _ 0 _ _)
    simp only [enrichAttempt, stillLive, Bool.false_eq_true, if_false, if_neg unfinished,
      unarchived, prepared]
    split
    · exact Nat.one_pos
    · unfold persistSections
      split
      · exact Nat.one_pos
      · split
        · exact Nat.one_pos
        · exact Nat.one_pos
  · have enqueued : (enrichEpisode config worlds row).row.enrichmentStatus &&& llmEnrichmentBits ≠
        llmEnrichmentBits := unfinished
    simp [reconcilerEnqueues, stillLive, enqueued]

/-- The status after a call is the status before it joined with the bits of the
sections whose savepoint was released and, for an episode that had its facts,
bit 8.  A call that returns, without meeting an archived project, leaves no bit
of the skip test out, so that no later call on the episode calls the LLM.
Nothing is said about bit 0 where there is no graph backend to put entities in. -/
theorem enrichEpisode_bits_truthful_and_convergent (config : OrgConfig)
    (worlds : Nat → World) (row : EpisodeRow) :
    ((enrichEpisode config worlds row).row.enrichmentStatus ||| unstampedBits config row =
      row.enrichmentStatus |||
        joined Section.bits (enrichEpisode config worlds row).released |||
        (if (enrichEpisode config worlds row).committed then
          assessedBits row.enrichmentStatus else 0#32) |||
        unstampedBits config row) ∧
    ((enrichEpisode config worlds row).outcome = .ok () →
      (∀ attempt, attempt < maxRetries → (worlds attempt).archived = false) →
      Covers ((enrichEpisode config worlds row).row.enrichmentStatus |||
        unstampedBits config row) llmBits ∧
      (unstampedBits config row = 0#32 →
        ∀ later : Nat → World,
          (enrichEpisode config later (enrichEpisode config worlds row).row).llmCalls = 0)) ∧
    ((worlds 0).archived = true →
      (enrichEpisode config worlds row).row = row ∧
        (enrichEpisode config worlds row).llmCalls = 0) := by
  have reports : Reports config row (enrichEpisode config worlds row) :=
    withRetry_reports 0 _ row
  have excused := unstampedBits_excused config row
  refine ⟨?_, ?_, ?_⟩
  · have exchanged := or_joined_stamped excused (enrichEpisode config worlds row).released
    rw [reports.status]
    calc row.enrichmentStatus |||
          joined config.stamped (enrichEpisode config worlds row).released |||
          (if (enrichEpisode config worlds row).committed then
            assessedBits row.enrichmentStatus else 0#32) ||| unstampedBits config row
        = ((row.enrichmentStatus ||| unstampedBits config row) |||
            joined config.stamped (enrichEpisode config worlds row).released) |||
            (if (enrichEpisode config worlds row).committed then
              assessedBits row.enrichmentStatus else 0#32) := by ac_rfl
      _ = _ := by
          rw [exchanged]
          ac_rfl
  · intro returned unarchived
    have complete : Complete config (enrichEpisode config worlds row) :=
      withRetry_complete 0 _ row
        (fun index bound => unarchived index (by simp [maxRetries] at bound ⊢; omega)) returned
    have covered : Covers ((enrichEpisode config worlds row).row.enrichmentStatus |||
        unstampedBits config row) llmBits := by
      rw [covers_llmBits_iff]
      intro part
      rcases stamped_eq config part with same | ⟨disabled, rfl, _⟩
      · rw [← same]
        exact (complete part).or_left
      · have known := excused.resolve_left (by simp [disabled])
        exact (covers_or.mpr ⟨reports.covers_entry.or_left, Covers.self.or_right⟩).trans known
    refine ⟨covered, ?_⟩
    intro nothing later
    rw [nothing, BitVec.or_zero] at covered
    rw [enrichEpisode_idle (Or.inr (Or.inl covered))]
    rfl
  · intro archived
    rw [enrichEpisode_idle (Or.inr (Or.inr archived))]
    exact ⟨rfl, rfl⟩

/-- A world in which no step raises. -/
def smoothWorld (archived : Bool) : World :=
  { archived := archived
    resolveGraphBackend := .ok ()
    renderPrompt := .ok ()
    getOrgConfig := .ok ()
    llmChat := .ok ()
    hasInvalidations := true
    classification := ⟨.ok (), .ok ()⟩
    entities := ⟨.ok (), .ok ()⟩
    facts := ⟨.ok (), .ok ()⟩
    applyLlmInvalidations := .ok ()
    stampInvalidation := .ok ()
    structured := ⟨.ok (), .ok ()⟩
    commit := .ok () }

/-- An episode with bit 2 alone gets bit 8 although the facts section opened no
savepoint; the first episode of an archived project is returned without a bit. -/
theorem bits_beyond_released_sections :
    let config : OrgConfig := { graphEnabled := true, llmFactInvalidationEnabled := none }
    let older := enrichEpisode config (fun _ => smoothWorld false)
      { enrichmentStatus := enrichmentFacts, isDeleted := false }
    let paused := enrichEpisode config (fun _ => smoothWorld true)
      { enrichmentStatus := 0#32, isDeleted := false }
    (older.released = [.classification, .entities, .structured] ∧
      older.row.enrichmentStatus ≠ enrichmentFacts ||| joined Section.bits older.released) ∧
    (paused.outcome = .ok () ∧ ¬ Covers paused.row.enrichmentStatus llmBits) := by
  refine ⟨⟨rfl, by decide⟩, rfl, by decide⟩

end OpenZync.Workers
