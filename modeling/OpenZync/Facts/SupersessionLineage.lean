import OpenZync.Facts.Runs

/-!
# Lineage of superseded facts

Conflicts are closed before the row that replaces them is inserted, and
`ON CONFLICT DO NOTHING` may drop that row.  A run is accounted for closed row
by closed row: each is linked by an event, still waits for its successor, or
was lost with a suppressed row.  Nothing is lost exactly when the exclusion
constraint admits every row that supersedes something.
-/

namespace OpenZync.Facts

open OpenZync.Library

section

variable (casing : Casing) (tombstones : List Fact) (ctx : BatchCtx)

/-- The entry is dropped, supersedes nothing, or its row is admitted. -/
def ReplacementAdmitted (view : List Slot) (entry : Entry) : Prop :=
  droppedIn casing tombstones view entry = true ∨
    (∀ slot ∈ view, slot.hit casing entry = false) ∨
    ¬ Obstructed ctx (closedFor casing ctx view entry) entry

instance (view : List Slot) (entry : Entry) :
    Decidable (ReplacementAdmitted casing tombstones ctx view entry) :=
  inferInstanceAs (Decidable (_ ∨ _ ∨ _))

end

/-- For every name identity of the batch, the exclusion constraint admits
every row that supersedes another. -/
def IngestCall.KeepsLineage (casing : Casing) (call : IngestCall) (store : FactStore) :
    Prop :=
  call.EveryAssertion casing store fun tombstones =>
    ReplacementAdmitted casing tombstones call.ctx

instance (casing : Casing) (call : IngestCall) (store : FactStore) :
    Decidable (call.KeepsLineage casing store) :=
  inferInstanceAs (Decidable (call.EveryAssertion casing store _))

section

variable (casing : Casing)
variable (candidates tombstones : NameIdentity → List Fact)
variable (ctx : BatchCtx) (origin : NameIdentity → List Slot)

/-- No assertion performed so far lost a replacement. -/
def LosslessSoFar (done : NameIdentity → List Entry) : Prop :=
  ∀ identity, AlongAssertions casing (tombstones identity) ctx
    (ReplacementAdmitted casing (tombstones identity) ctx) (origin identity)
    (done identity)

/-- Where the closed rows of a run went. -/
structure ClosedAccount (done : NameIdentity → List Entry) (machine : Machine)
    (lost : List Uuid) : Prop where
  superseded : machine.Accounts lost
  successors : ∀ event ∈ machine.events, ∃ fact ∈ machine.created,
    event.newFactId = some fact.id
  lossless : lost = [] ↔ LosslessSoFar casing tombstones ctx origin done

end

section

variable {casing : Casing}
variable {candidates tombstones : NameIdentity → List Fact}
variable {ctx : BatchCtx} {origin : NameIdentity → List Slot}
variable {all done : NameIdentity → List Entry} {machine : Machine}
variable {lost : List Uuid}

theorem losslessSoFar_advance (entry : Entry) :
    LosslessSoFar casing tombstones ctx origin (advance casing done entry) ↔
      LosslessSoFar casing tombstones ctx origin done ∧
        ReplacementAdmitted casing (tombstones (entry.nameIdentity casing)) ctx
          (asserted casing tombstones ctx origin done (entry.nameIdentity casing))
          entry := by
  have self : AlongAssertions casing (tombstones (entry.nameIdentity casing)) ctx
        (ReplacementAdmitted casing (tombstones (entry.nameIdentity casing)) ctx)
        (origin (entry.nameIdentity casing))
        (advance casing done entry (entry.nameIdentity casing)) ↔
      AlongAssertions casing (tombstones (entry.nameIdentity casing)) ctx
          (ReplacementAdmitted casing (tombstones (entry.nameIdentity casing)) ctx)
          (origin (entry.nameIdentity casing)) (done (entry.nameIdentity casing)) ∧
        ReplacementAdmitted casing (tombstones (entry.nameIdentity casing)) ctx
          (asserted casing tombstones ctx origin done (entry.nameIdentity casing))
          entry := by
    rw [advance, Function.update_self, alongAssertions_append]
    simp [AlongAssertions]
  constructor
  · intro lossless
    refine ⟨?_, (self.mp (lossless _)).2⟩
    intro identity
    by_cases same : identity = entry.nameIdentity casing
    · subst same
      exact (self.mp (lossless _)).1
    · simpa [advance, Function.update_of_ne same] using lossless identity
  · rintro ⟨lossless, admitted⟩ identity
    by_cases same : identity = entry.nameIdentity casing
    · subst same
      exact self.mpr ⟨lossless _, admitted⟩
    · simpa [advance, Function.update_of_ne same] using lossless identity

variable {store : FactStore} {entries : List Entry}
variable (ledger : MachineLedger casing candidates tombstones ctx store entries machine)
variable (scanned : Scanned casing store candidates)
variable (simulation : Simulation casing candidates tombstones ctx origin all done machine)
variable (account : ClosedAccount casing tombstones ctx origin done machine lost)
include ledger scanned simulation account

theorem ClosedAccount.step {next : Machine}
    (taken : MachineStep casing candidates tombstones ctx machine next) :
    ∃ done', Simulation casing candidates tombstones ctx origin all done' next ∧
      ∃ lost', ClosedAccount casing tombstones ctx origin done' next lost' := by
  cases taken with
  | @skip entry rest head dropped alone =>
      obtain ⟨droppedView, simulated⟩ :=
        simulation.skip ledger scanned head dropped alone
      refine ⟨_, simulated, lost, account.superseded, account.successors, ?_⟩
      rw [losslessSoFar_advance, account.lossless]
      exact ⟨fun lossless => ⟨lossless, .inl droppedView⟩, And.left⟩
  | @supersede entry rest closedStore head differs live alone closed =>
      exact ⟨_, simulation.supersede ledger scanned head differs live alone closed,
        lost, account.superseded.supersede _ _ _, account.successors, account.lossless⟩
  | @persist entry oldFacts rest fact store' inBatch head _ inserted tracked =>
      obtain ⟨admitted, simulated⟩ := simulation.persist head inserted tracked
      refine ⟨_, simulated, lost, account.superseded.persist head _ _ _, ?_, ?_⟩
      · intro event member
        rcases List.mem_append.mp member with old | new
        · obtain ⟨row, created, successor⟩ := account.successors event old
          exact ⟨row, List.mem_append_left _ created, successor⟩
        · obtain ⟨oldFact, _, rfl⟩ := List.mem_map.mp new
          exact ⟨fact, List.mem_append_right _ (List.mem_singleton_self _), rfl⟩
      · rw [losslessSoFar_advance, account.lossless]
        exact ⟨fun lossless => ⟨lossless, .inr (.inr admitted)⟩, And.left⟩
  | @suppress entry oldFacts rest store' head suppressed =>
      obtain ⟨obstructed, simulated⟩ := simulation.suppress head suppressed
      obtain ⟨_, _, kept, _, transitions⟩ :=
        (simulation (entry.nameIdentity casing)).head head
      refine ⟨_, simulated, lost ++ oldFacts.map Fact.id,
        account.superseded.suppress head _, account.successors, ?_⟩
      · rw [losslessSoFar_advance, List.append_eq_nil_iff, account.lossless,
          List.map_eq_nil_iff]
        refine and_congr_right fun _ => ?_
        rw [transitions]
        constructor
        · exact fun untouched => .inr (.inl untouched)
        · rintro (dropped | untouched | admitted)
          · rw [kept] at dropped
            cases dropped
          · exact untouched
          · exact absurd obstructed admitted

end

theorem Fact.withLineage_successor {fact : Fact} {transitions : List SupersessionEvent}
    {transition : SupersessionEvent} {newFactId : Uuid}
    (distinct : (transitions.map SupersessionEvent.oldFactId).Nodup)
    (member : transition ∈ transitions) (same : transition.oldFactId = fact.id)
    (successor : transition.newFactId = some newFactId) :
    (fact.withLineage transitions).supersededByFactId = some newFactId := by
  induction transitions with
  | nil => cases member
  | cons first transitions induction =>
      simp only [List.map_cons, List.nodup_cons] at distinct
      rcases List.mem_cons.mp member with rfl | later
      · have last : ({ fact with supersededByFactId := some newFactId } : Fact).withLineage
            transitions = { fact with supersededByFactId := some newFactId } := by
          apply Fact.withLineage_of_not_mem
          rw [← same]
          exact distinct.1
        simp only [Fact.withLineage, successor, same, if_pos, last]
      · have different : ¬ fact.id = first.oldFactId := by
          intro equal
          apply distinct.1
          rw [← equal, ← same]
          exact List.mem_map_of_mem later
        unfold Fact.withLineage
        split
        · exact induction distinct.2 later
        · rw [if_neg different]
          exact induction distinct.2 later

/-- The events a call appended to the log. -/
def newEvents (store : FactStore) (outcome : IngestOutcome) : List InvalidationEvent :=
  outcome.store.events.drop store.events.length

/-- The row ended by this call is linked to a row the call inserted, and the
log has one new `superseded` event for it. -/
def ReplacedBy (store : FactStore) (outcome : IngestOutcome) (fact : Fact) : Prop :=
  (∃ row ∈ outcome.store.facts, row.id ∉ store.facts.map Fact.id ∧
      fact.supersededByFactId = some row.id) ∧
    ((newEvents store outcome).countP fun event =>
      decide (event.kind = .superseded ∧ event.oldFactId = fact.id)) = 1

/-- Every fact closed by the call has a stored replacement, and the returned
count is the number of new events. -/
def ClosedFactsReplaced (store : FactStore) (outcome : IngestOutcome) : Prop :=
  (∀ fact ∈ outcome.store.facts, fact.id ∈ outcome.result.superseded →
      ReplacedBy store outcome fact) ∧
    outcome.result.supersededCount =
      (newEvents store outcome).countP fun event => decide (event.kind = .superseded)

theorem lineageEvents_spec (orgId projectId : Uuid) (now : Time)
    (episodes : Uuid → Option Uuid) {transitions : List SupersessionEvent}
    (successors : ∀ transition ∈ transitions, transition.newFactId.isSome = true) :
    let recorded := transitions.filterMap fun transition =>
      transition.newFactId.map (lineageEvent orgId projectId now episodes transition)
    recorded.map InvalidationEvent.oldFactId =
        transitions.map SupersessionEvent.oldFactId ∧
      ∀ event ∈ recorded, event.kind = .superseded := by
  induction transitions with
  | nil => simp
  | cons transition transitions induction =>
      obtain ⟨sameOlds, sameKinds⟩ := induction
        fun other member => successors other (List.mem_cons_of_mem _ member)
      obtain ⟨newFactId, successor⟩ :=
        Option.isSome_iff_exists.mp (successors transition List.mem_cons_self)
      simp only [List.filterMap_cons, successor, Option.map_some, List.map_cons,
        sameOlds, List.mem_cons, forall_eq_or_imp]
      exact ⟨rfl, rfl, sameKinds⟩

/-- The closed rows of a successful call are its logged transitions and the
rows lost with a suppressed insert. -/
theorem ingest_account {casing : Casing} {collaborators : Collaborators}
    {store : FactStore} {call : IngestCall} {outcome : IngestOutcome}
    (ingested : ingestWithSupersession casing collaborators store call = .ok outcome) :
    ∃ lost, (lost = [] ↔ call.KeepsLineage casing store) ∧
      outcome.result.superseded.Perm
        (outcome.events.map SupersessionEvent.oldFactId ++ lost) ∧
      outcome.result.superseded.Nodup ∧
      (∀ event ∈ outcome.events, ∃ row ∈ outcome.store.facts,
        row.id ∉ store.facts.map Fact.id ∧ event.newFactId = some row.id) ∧
      (∀ fact ∈ outcome.store.facts, ∃ original : Fact,
        original.id = fact.id ∧ fact = original.withLineage outcome.events) ∧
      (newEvents store outcome).map InvalidationEvent.oldFactId =
        outcome.events.map SupersessionEvent.oldFactId ∧
      ∀ event ∈ newEvents store outcome, event.kind = .superseded := by
  obtain ⟨final, run, ledger, remaining, pending, created, superseded, transitions,
    facts, episodes, events⟩ := ingest_ledger ingested
  have start := machineLedger_start casing call store
  have opening : ClosedAccount casing (call.tombstones casing store) call.ctx
      (call.view casing store) (fun _ => [])
      (Machine.start store (scheduled casing (call.entries casing))) [] := by
    refine ⟨.start store _, by simp [Machine.start, Machine.of, BatchState.initial], ?_⟩
    simp [LosslessSoFar, AlongAssertions]
  obtain ⟨done, simulation, lost, account⟩ :=
    (simulation_start casing call store).run_with start
      (scanned_candidates casing call store)
      (fun done machine => ∃ lost, ClosedAccount casing (call.tombstones casing store)
        call.ctx (call.view casing store) done machine lost)
      (fun held simulated accounted taken => accounted.elim fun _ account =>
        account.step held (scanned_candidates casing call store) simulated taken)
      run ⟨[], opening⟩
  have complete : done = fun identity => entriesOf casing identity (call.entries casing) := by
    funext identity
    exact ((simulation identity).complete remaining pending).1
  have successors : ∀ event ∈ final.events, event.newFactId.isSome = true := by
    intro event member
    obtain ⟨fact, _, successor⟩ := account.successors event member
    rw [successor]
    rfl
  have appended : newEvents store outcome = final.events.filterMap fun transition =>
      transition.newFactId.map
        (lineageEvent call.orgId call.projectId call.now episodes transition) := by
    rw [newEvents, events, List.drop_left]
  obtain ⟨olds, kinds⟩ :=
    lineageEvents_spec call.orgId call.projectId call.now episodes successors
  have accounted := account.superseded.complete pending
  rw [superseded, transitions, appended]
  refine ⟨lost, ?_, accounted, ledger.supersededNodup, ?_, ?_, olds, kinds⟩
  · rw [account.lossless, complete]
    exact ⟨fun lossless identity _ => lossless identity, fun keeps => keeps.forall⟩
  · intro event member
    obtain ⟨fact, inserted, successor⟩ := account.successors event member
    have stored : fact.closedAt final.superseded call.now ∈ final.store.facts := by
      rw [ledger.facts]
      exact List.mem_map_of_mem (List.mem_append_right _ inserted)
    obtain ⟨lineage, linked⟩ := (fact.closedAt final.superseded call.now).withLineage_eq
      final.events
    have sameId : ((fact.closedAt final.superseded call.now).withLineage
        final.events).id = fact.id := by
      rw [linked]
      exact fact.closedAt_id _ _
    refine ⟨_, facts ▸ List.mem_map_of_mem stored, ?_, by rw [sameId]; exact successor⟩
    rw [sameId]
    intro old
    obtain ⟨other, member, same⟩ := List.mem_map.mp old
    have below := store.fresh other member
    rw [same] at below
    exact Nat.not_le_of_gt below (ledger.created fact inserted).1
  · intro fact member
    rw [facts] at member
    obtain ⟨original, _, rfl⟩ := List.mem_map.mp member
    obtain ⟨lineage, linked⟩ := original.withLineage_eq final.events
    exact ⟨original, by rw [linked], rfl⟩

/-- The replacements of a call are stored and logged exactly when the
exclusion constraint admits every row that supersedes another. -/
theorem closedFactsReplaced_iff {casing : Casing} {collaborators : Collaborators}
    {store : FactStore} {call : IngestCall} {outcome : IngestOutcome}
    (ingested : ingestWithSupersession casing collaborators store call = .ok outcome) :
    ClosedFactsReplaced store outcome ↔ call.KeepsLineage casing store := by
  obtain ⟨lost, lossless, accounted, distinct, successors, linked, olds, kinds⟩ :=
    ingest_account ingested
  have sameLength : (newEvents store outcome).length = outcome.events.length := by
    simpa using congrArg List.length olds
  have logged : ((newEvents store outcome).countP fun event =>
      decide (event.kind = .superseded)) = outcome.events.length := by
    rw [← sameLength, List.countP_eq_length]
    intro event member
    exact decide_eq_true (kinds event member)
  have count : outcome.result.supersededCount = outcome.events.length + lost.length := by
    simpa [FactIngestionResult.supersededCount] using accounted.length_eq
  rw [← lossless]
  constructor
  · rintro ⟨_, counted⟩
    rw [logged, count] at counted
    exact List.length_eq_zero_iff.mp (by omega)
  · rintro rfl
    rw [List.append_nil] at accounted
    have distinctOlds := accounted.nodup distinct
    refine ⟨?_, by rw [logged, count, List.length_nil, Nat.add_zero]⟩
    intro fact member closed
    obtain ⟨event, eventMember, same⟩ := List.mem_map.mp (accounted.subset closed)
    obtain ⟨row, rowMember, inserted, successor⟩ := successors event eventMember
    obtain ⟨original, sameId, rfl⟩ := linked fact member
    refine ⟨⟨row, rowMember, inserted, ?_⟩, ?_⟩
    · exact Fact.withLineage_successor distinctOlds eventMember
        (same.trans sameId.symm) successor
    · have once := List.count_eq_one_of_mem distinctOlds (List.mem_map_of_mem eventMember)
      rw [← olds, List.count, List.countP_map, same] at once
      rw [← once]
      apply List.countP_congr
      intro other otherMember
      simp [kinds other otherMember]

instance (store : FactStore) (outcome : IngestOutcome) (fact : Fact) :
    Decidable (ReplacedBy store outcome fact) :=
  inferInstanceAs (Decidable ((∃ row ∈ outcome.store.facts, _) ∧ _))

instance (store : FactStore) (outcome : IngestOutcome) :
    Decidable (ClosedFactsReplaced store outcome) :=
  inferInstanceAs (Decidable ((∀ fact ∈ outcome.store.facts, _) ∧ _))

/-- A changed content of the next episode is linked to the row it replaced. -/
theorem closedFactsReplaced_nextEpisode :
    ∃ outcome,
      ingestWithSupersession Casing.ascii ⟨false, false, false⟩ firstEpisodeLedger.store
          (.ofForms 2 [.ofTriple "Acme" "uses" "Go" "second"] 20) = .ok outcome ∧
        outcome.result.superseded = [0] ∧
        ClosedFactsReplaced firstEpisodeLedger.store outcome := by
  obtain ⟨outcome, ingested, superseded⟩ : ∃ outcome,
      ingestWithSupersession Casing.ascii ⟨false, false, false⟩ firstEpisodeLedger.store
          (.ofForms 2 [.ofTriple "Acme" "uses" "Go" "second"] 20) = .ok outcome ∧
        decide (outcome.result.superseded = [0]) = true :=
    exists_ok (by decide)
  exact ⟨outcome, ingested, of_decide_eq_true superseded,
    (closedFactsReplaced_iff ingested).mpr (by decide)⟩

/-- Episode 1 dated its fact into the future, episode 2 states the triple now. -/
def futureRowLedger : Ledger :=
  ((Ledger.initial 0).ingest Casing.ascii ⟨false, false, false⟩
    (.ofForms 1 [{ FactForm.ofTriple "Acme" "uses" "Go" "first" with
      validFrom := some 90 }] 10)).ingest Casing.ascii ⟨false, false, false⟩
      (.ofForms 2 [.ofTriple "Acme" "uses" "Go" "second"] 20)

/-- The future row of its episode keeps the successor out, and the fact it
would have replaced is closed with no lineage. -/
theorem futureRow_losesLineage :
    ∃ outcome,
      ingestWithSupersession Casing.ascii ⟨false, false, false⟩ futureRowLedger.store
          (.ofForms 1 [.ofTriple "Acme" "uses" "Go" "third"] 30) = .ok outcome ∧
        ¬ ClosedFactsReplaced futureRowLedger.store outcome := by
  obtain ⟨outcome, ingested, lost⟩ : ∃ outcome,
      ingestWithSupersession Casing.ascii ⟨false, false, false⟩ futureRowLedger.store
          (.ofForms 1 [.ofTriple "Acme" "uses" "Go" "third"] 30) = .ok outcome ∧
        decide (¬ ClosedFactsReplaced futureRowLedger.store outcome) = true :=
    exists_ok (by decide)
  exact ⟨outcome, ingested, of_decide_eq_true lost⟩

end OpenZync.Facts
