import OpenZync.Facts.Runs

/-!
# Validity ranges

The born-dead guard keeps empty ranges out at insertion; closing a row writes
`valid_to` later, at the instant of the call, and is checked by `tstzrange`
only for being ordered.  A closed range is empty exactly when its row starts
at that same instant.
-/

namespace OpenZync.Facts

open OpenZync.Library

/-- Every row with both bounds starts before it ends. -/
def StrictRanges (store : FactStore) : Prop :=
  ∀ fact ∈ store.facts, StartsBefore fact.validFrom fact.validTo

instance (store : FactStore) : Decidable (StrictRanges store) :=
  inferInstanceAs (Decidable (∀ fact ∈ store.facts, _))

/-- The entry is dropped, or no row it supersedes starts at the instant of the
call. -/
def SupersedesStarted (casing : Casing) (ctx : BatchCtx) (tombstones : List Fact)
    (view : List Slot) (entry : Entry) : Prop :=
  droppedIn casing tombstones view entry = true ∨
    ∀ slot ∈ view, slot.hit casing entry = true → slot.fact.validFrom ≠ some ctx.now

instance (casing : Casing) (ctx : BatchCtx) (tombstones : List Fact)
    (view : List Slot) (entry : Entry) :
    Decidable (SupersedesStarted casing ctx tombstones view entry) :=
  inferInstanceAs (Decidable (_ ∨ _))

/-- No row the operation ends starts at the instant of the operation. -/
def FactOperation.EndsStarted (casing : Casing) (store : FactStore) :
    FactOperation → Prop
  | .ingest call => call.EveryAssertion casing store (SupersedesStarted casing call.ctx)
  | .retract _ => True
  | .invalidate call => ∀ inv ∈ call.invalidations, ∀ fact ∈ store.facts,
      inv.existingFactRef.bind call.refToFact = some fact.id → ¬ fact.Closed →
        fact.validFrom ≠ some call.now

instance (casing : Casing) (store : FactStore) (operation : FactOperation) :
    Decidable (operation.EndsStarted casing store) :=
  match operation with
  | .ingest call =>
      inferInstanceAs (Decidable (call.EveryAssertion casing store _))
  | .retract _ => isTrue trivial
  | .invalidate call =>
      inferInstanceAs (Decidable (∀ inv ∈ call.invalidations, ∀ fact ∈ store.facts, _))

section

variable {casing : Casing}
variable {candidates tombstones : NameIdentity → List Fact}
variable {ctx : BatchCtx} {origin : NameIdentity → List Slot}
variable {all done : NameIdentity → List Entry} {machine : Machine}
variable {store : FactStore} {entries : List Entry}

/-- No row closed so far starts at the instant of the call. -/
def ClosedStarted (ctx : BatchCtx) (store : FactStore) (machine : Machine) : Prop :=
  ∀ fact ∈ store.facts ++ machine.created, fact.id ∈ machine.superseded →
    fact.validFrom ≠ some ctx.now

theorem ClosedStarted.step
    (ledger : MachineLedger casing candidates tombstones ctx store entries machine)
    (scanned : Scanned casing store candidates)
    (simulation : Simulation casing candidates tombstones ctx origin all done machine)
    (started : ∀ identity, AlongAssertions casing (tombstones identity) ctx
      (SupersedesStarted casing ctx (tombstones identity)) (origin identity)
      (all identity))
    (closedStarted : ClosedStarted ctx store machine) {next : Machine}
    (taken : MachineStep casing candidates tombstones ctx machine next) :
    ∃ done', Simulation casing candidates tombstones ctx origin all done' next ∧
      ClosedStarted ctx store next := by
  obtain ⟨done', simulated⟩ := simulation.step ledger scanned taken
  refine ⟨done', simulated, ?_⟩
  cases taken with
  | skip _ _ _ => exact closedStarted
  | suppress _ _ => exact closedStarted
  | @supersede entry rest closedStore head differs live alone closed =>
      obtain ⟨split, view⟩ :=
        (simulation (entry.nameIdentity casing)).examined head alone
      have along := started (entry.nameIdentity casing)
      rw [split, alongAssertions_append] at along
      have current : SupersedesStarted casing ctx
          (tombstones (entry.nameIdentity casing))
          (machine.view casing candidates (entry.nameIdentity casing)) entry := by
        rw [view]
        exact along.2.1
      have kept : droppedIn casing (tombstones (entry.nameIdentity casing))
          (machine.view casing candidates (entry.nameIdentity casing)) entry = false := by
        rw [← ledger.dropped_eq scanned, differs, live]
        rfl
      intro fact accounted found
      rcases List.mem_append.mp found with old | new
      · exact closedStarted fact accounted old
      · obtain ⟨conflict, conflictMember, same⟩ := List.mem_map.mp new
        have equal := ledger.eq_conflict scanned conflictMember accounted same.symm
        subst equal
        obtain ⟨bucketed, opened, conflicting⟩ :=
          (ledger.mem_conflicts scanned).mp conflictMember
        rcases current with dropped | starts
        · rw [kept] at dropped
          cases dropped
        · refine starts ⟨fact.anonymous, _⟩ (List.mem_map_of_mem bucketed) ?_
          simp [Slot.hit, opened, conflicting]
  | @persist entry oldFacts rest fact store' inBatch head alive inserted tracked =>
      intro row accounted found
      rcases List.mem_append.mp accounted with stored | created
      · exact closedStarted row (List.mem_append_left _ stored) found
      · rcases List.mem_append.mp created with old | new
        · exact closedStarted row (List.mem_append_right _ old) found
        · rw [List.mem_singleton.mp new] at found
          have below := ledger.superseded_lt scanned found
          rw [(FactStore.insert_ok (persistRow_some inserted)).1] at below
          exact absurd below (Nat.lt_irrefl _)

end

theorem ingest_closedStarted {casing : Casing} {collaborators : Collaborators}
    {store : FactStore} {call : IngestCall} {outcome : IngestOutcome}
    (started : call.EveryAssertion casing store (SupersedesStarted casing call.ctx))
    (ingested : ingestWithSupersession casing collaborators store call = .ok outcome)
    {fact : Fact} (accounted : fact ∈ store.facts ∨ fact ∈ outcome.result.created)
    (closed : fact.id ∈ outcome.result.superseded) :
    fact.validFrom ≠ some call.now := by
  obtain ⟨final, run, _, _, _, created, superseded, _, _⟩ := ingest_ledger ingested
  have start := machineLedger_start casing call store
  obtain ⟨_, _, closedStarted⟩ := (simulation_start casing call store).run_with start
    (scanned_candidates casing call store)
    (fun _ machine => ClosedStarted call.ctx store machine)
    (fun held simulated closedStarted taken =>
      closedStarted.step held (scanned_candidates casing call store) simulated
        started.forall taken)
    run (by
      intro fact _ found
      cases found)
  rw [created] at accounted
  rw [superseded] at closed
  exact closedStarted fact (List.mem_append.mpr accounted) closed

theorem StartsBefore.of_ordered {lower : Option Time} {stop : Time}
    (ordered : ∀ start ∈ lower, start ≤ stop) (different : lower ≠ some stop) :
    StartsBefore lower (some stop) := by
  intro start found bound bounded
  cases bounded
  refine lt_of_le_of_ne (ordered start found) ?_
  rintro rfl
  exact different found

theorem ingest_strictRanges {casing : Casing} {collaborators : Collaborators}
    {store : FactStore} {call : IngestCall} {outcome : IngestOutcome}
    (before : StrictRanges store)
    (started : call.EveryAssertion casing store (SupersedesStarted casing call.ctx))
    (ingested : ingestWithSupersession casing collaborators store call = .ok outcome) :
    StrictRanges outcome.store := by
  intro fact member
  obtain ⟨original, successor, rfl, source⟩ := ingest_row ingested member
  by_cases closed : original.id ∈ outcome.result.superseded
  · have ended : original.closedAt outcome.result.superseded call.now =
        { original with validTo := some call.now } := if_pos closed
    have ordered : ∀ start ∈ original.validFrom, start ≤ call.now := by
      rcases source with stored | ⟨_, _, entry, _, _, _, row⟩
      · exact (ingest_superseded_active ingested stored closed).2.2.1
      · intro start found
        rw [ended] at member
        refine outcome.store.ranges _ member ?_ start found call.now rfl
        rw [row]
        rfl
    have different : original.validFrom ≠ some call.now :=
      ingest_closedStarted started ingested (source.imp_right And.left) closed
    rw [ended]
    exact .of_ordered ordered different
  · have untouched : original.closedAt outcome.result.superseded call.now = original :=
      if_neg closed
    rw [untouched]
    rcases source with stored | ⟨_, _, entry, _, _, alive, row⟩
    · exact before original stored
    · rw [row]
      exact alive

theorem retract_strictRanges {collaborators : Collaborators} {store : FactStore}
    {call : RetractCall} {outcome : InvalidationOutcome} (before : StrictRanges store)
    (retracted : retractFact collaborators store call = .ok outcome) :
    StrictRanges outcome.store := by
  obtain ⟨_, _, _, _, ⟨_, unchanged, _⟩ | ⟨_, facts, _⟩⟩ := retractFact_ok retracted
  · rw [unchanged]
    exact before
  · intro fact member
    rw [facts] at member
    obtain ⟨original, stored, rfl⟩ := List.mem_map.mp member
    split
    · exact before original stored
    · exact before original stored

theorem invalidate_strictRanges {casing : Casing} {collaborators : Collaborators}
    {store : FactStore} {call : LlmCall} {outcome : InvalidationOutcome}
    (before : StrictRanges store)
    (started : (FactOperation.invalidate call).EndsStarted casing store)
    (applied : applyLlmInvalidations collaborators store call = .ok outcome) :
    StrictRanges outcome.store := by
  obtain ⟨closed, lineage, facts, _, closable⟩ := applyLlmInvalidations_facts applied
  intro fact member
  have stored := member
  rw [facts] at stored
  obtain ⟨original, originalMember, rfl⟩ := List.mem_map.mp stored
  by_cases ends : original.id ∈ closed
  · have ended : original.closedAt closed call.now =
        { original with validTo := some call.now } := if_pos ends
    obtain ⟨isOpen, inv, invMember, named⟩ := closable original originalMember ends
    have valid : original.invalidAt = none := by
      simpa using fun retracted => isOpen (.inr retracted)
    rw [ended] at member ⊢
    exact .of_ordered
      (fun start found => outcome.store.ranges _ member valid start found call.now rfl)
      (started inv invMember original originalMember named isOpen)
  · have untouched : original.closedAt closed call.now = original := if_neg ends
    rw [untouched]
    exact before original originalMember

/-- Ranges stay strict along every run whose operations end no row at the
instant it starts. -/
theorem run_strictRanges (casing : Casing) (collaborators : Collaborators) (clock : Time)
    {operations : List FactOperation} {ledger : Ledger}
    (run : GuardedRun (Ledger.step casing collaborators)
      (fun ledger operation => operation.EndsStarted casing ledger.store)
      (Ledger.initial clock) operations ledger) :
    StrictRanges ledger.store := by
  refine run.invariant (fun ledger => StrictRanges ledger.store) ?_ ?_
  · intro fact member
    cases member
  · intro ledger operation before started
    rcases ledger.step_cases casing collaborators operation with
      ⟨store, performed, stepped⟩ | unchanged
    · rw [stepped]
      cases operation with
      | ingest call =>
          obtain ⟨outcome, ingested, rfl⟩ := map_eq_ok.mp performed
          exact ingest_strictRanges before started ingested
      | retract call =>
          obtain ⟨outcome, retracted, rfl⟩ := map_eq_ok.mp performed
          exact retract_strictRanges before retracted
      | invalidate call =>
          obtain ⟨outcome, applied, rfl⟩ := map_eq_ok.mp performed
          exact invalidate_strictRanges before started applied
    · rw [unchanged]
      exact before

/-- The operations of a run come at non-decreasing instants. -/
def InOrder (ledger : Ledger) (operation : FactOperation) : Prop :=
  ledger.clock ≤ operation.now

instance (ledger : Ledger) (operation : FactOperation) :
    Decidable (InOrder ledger operation) :=
  inferInstanceAs (Decidable (_ ≤ _))

/-- A fact superseded by a later episode keeps a strict range. -/
theorem run_strictRanges_laterEpisode :
    ∃ ledger : Ledger,
      GuardedRun (Ledger.step Casing.ascii ⟨false, false, false⟩)
        (fun ledger operation => operation.EndsStarted Casing.ascii ledger.store)
        (Ledger.initial 0)
        [.ingest (.ofForms 1 [.ofTriple "Acme" "uses" "Go" "first"] 10),
          .ingest (.ofForms 2 [.ofTriple "Acme" "uses" "Go" "second"] 20)] ledger ∧
        ledger.store.facts.map Fact.validTo = [some 20, none] ∧
        StrictRanges ledger.store := by
  refine ⟨_, .snoc (.snoc .nil (by decide)) (by decide), by decide, ?_⟩
  exact run_strictRanges Casing.ascii ⟨false, false, false⟩ 0
    (.snoc (.snoc .nil (by decide)) (by decide))

/-- Two contents of one triple in one batch: the first row ends where it
starts. -/
theorem batchRepeat_emptyRange :
    ∃ ledger : Ledger,
      GuardedRun (Ledger.step Casing.ascii ⟨false, false, false⟩) InOrder
        (Ledger.initial 0)
        [.ingest (.ofForms 1 [.ofTriple "Acme" "uses" "Go" "first",
          .ofTriple "Acme" "uses" "Go" "second"] 10)] ledger ∧
        ¬ StrictRanges ledger.store := by
  refine ⟨_, .snoc .nil (by decide), by decide⟩

end OpenZync.Facts
