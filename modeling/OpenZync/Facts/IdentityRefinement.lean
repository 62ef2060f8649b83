import OpenZync.Facts.IdentityView

/-!
# The ingest refines the assertions of each identity

A run of the machine is simulated, for every name identity at once, by the
assertions of the entries of that identity.  Between closing its conflicts and
inserting its row an entry waits, and the simulation keeps the half-performed
assertion apart; no other entry of the identity is examined meanwhile.
-/

namespace OpenZync.Facts

open OpenZync.Library

section

variable (casing : Casing)
variable (candidates tombstones : NameIdentity → List Fact)
variable (ctx : BatchCtx) (origin : NameIdentity → List Slot)
variable (all : NameIdentity → List Entry)

/-- The rows of `identity` before the assertion of its next entry. -/
abbrev asserted (done : NameIdentity → List Entry) (identity : NameIdentity) :
    List Slot :=
  assertEntries casing (tombstones identity) ctx (origin identity) (done identity)

/-- The machine against the assertions of the first entries `done` of one
identity. -/
inductive Simulates (done : NameIdentity → List Entry) (machine : Machine)
    (identity : NameIdentity) : Prop where
  /-- No entry of the identity waits.  The live flags matter only while an
  entry of the identity is still to be examined. -/
  | settled
      (split : all identity = done identity ++
        entriesOf casing identity machine.remaining)
      (idle : ∀ waiting ∈ machine.pending,
        waiting.1.nameIdentity casing ≠ identity)
      (facts : (machine.view casing candidates identity).map Slot.fact =
        (asserted casing tombstones ctx origin done identity).map Slot.fact)
      (live : (∃ entry ∈ machine.remaining, entry.nameIdentity casing = identity) →
        machine.view casing candidates identity =
          asserted casing tombstones ctx origin done identity)
  /-- One entry of the identity closed its conflicts and waits for its row. -/
  | waiting (entry : Entry) (oldFacts : List Fact)
      (split : all identity = done identity ++
        entry :: entriesOf casing identity machine.remaining)
      (sole : (machine.pending.filter fun waiting =>
        decide (waiting.1.nameIdentity casing = identity)) = [(entry, oldFacts)])
      (kept : droppedIn casing (tombstones identity)
        (asserted casing tombstones ctx origin done identity) entry = false)
      (view : machine.view casing candidates identity =
        closedFor casing ctx
          (asserted casing tombstones ctx origin done identity) entry)
      (transitions : oldFacts = [] ↔
        ∀ slot ∈ asserted casing tombstones ctx origin done identity,
          slot.hit casing entry = false)

/-- Every identity at once. -/
def Simulation (done : NameIdentity → List Entry) (machine : Machine) : Prop :=
  ∀ identity, Simulates casing candidates tombstones ctx origin all done machine identity

/-- One more entry of its identity is done. -/
def advance (done : NameIdentity → List Entry) (entry : Entry) :
    NameIdentity → List Entry :=
  Function.update done (entry.nameIdentity casing)
    (done (entry.nameIdentity casing) ++ [entry])

end

@[simp] theorem entriesOf_cons_self (casing : Casing) (entry : Entry)
    (rest : List Entry) :
    entriesOf casing (entry.nameIdentity casing) (entry :: rest) =
      entry :: entriesOf casing (entry.nameIdentity casing) rest := by
  simp [entriesOf]

theorem entriesOf_cons_other {casing : Casing} {identity : NameIdentity}
    {entry : Entry} (other : identity ≠ entry.nameIdentity casing)
    (rest : List Entry) :
    entriesOf casing identity (entry :: rest) = entriesOf casing identity rest := by
  simp [entriesOf, Ne.symm other]

section

variable {casing : Casing}
variable {candidates tombstones : NameIdentity → List Fact}
variable {ctx : BatchCtx} {origin : NameIdentity → List Slot}
variable {all done : NameIdentity → List Entry} {machine : Machine}

theorem asserted_advance_self (entry : Entry) :
    asserted casing tombstones ctx origin (advance casing done entry)
        (entry.nameIdentity casing) =
      assertEntry casing (tombstones (entry.nameIdentity casing)) ctx
        (asserted casing tombstones ctx origin done (entry.nameIdentity casing)) entry := by
  simp [asserted, assertEntries, advance]

/-- A step that touches neither the entries nor the rows of an identity keeps
its simulation. -/
theorem Simulates.congr {next : Machine} {done' : NameIdentity → List Entry}
    {identity : NameIdentity}
    (simulates : Simulates casing candidates tombstones ctx origin all done machine
      identity)
    (sameDone : done' identity = done identity)
    (sameRemaining : entriesOf casing identity next.remaining =
      entriesOf casing identity machine.remaining)
    (samePending : (next.pending.filter fun waiting =>
        decide (waiting.1.nameIdentity casing = identity)) =
      machine.pending.filter fun waiting =>
        decide (waiting.1.nameIdentity casing = identity))
    (sameView : next.view casing candidates identity =
      machine.view casing candidates identity) :
    Simulates casing candidates tombstones ctx origin all done' next identity := by
  have sameAsserted : asserted casing tombstones ctx origin done' identity =
      asserted casing tombstones ctx origin done identity := by
    rw [asserted, sameDone]
  cases simulates with
  | settled split idle facts live =>
      refine .settled (by rw [sameDone, sameRemaining]; exact split) ?_
        (by rw [sameAsserted, sameView]; exact facts) ?_
      · have none : (machine.pending.filter fun waiting =>
            decide (waiting.1.nameIdentity casing = identity)) = [] := by
          simpa using idle
        rw [none] at samePending
        simpa using samePending
      · rintro ⟨entry, member, same⟩
        have found : entry ∈ entriesOf casing identity next.remaining := by
          simp [entriesOf, member, same]
        rw [sameRemaining] at found
        rw [sameView, sameAsserted]
        exact live ⟨entry, (List.mem_filter.mp found).1, same⟩
  | waiting entry oldFacts split sole kept view transitions =>
      exact .waiting entry oldFacts (by rw [sameDone, sameRemaining]; exact split)
        (samePending.trans sole) (by rw [sameAsserted]; exact kept)
        (by rw [sameView, sameAsserted]; exact view)
        (by rw [sameAsserted]; exact transitions)

theorem Simulates.examined {entry : Entry} {rest : List Entry}
    (simulates : Simulates casing candidates tombstones ctx origin all done machine
      (entry.nameIdentity casing))
    (head : machine.remaining = entry :: rest)
    (alone : ∀ waiting ∈ machine.pending,
      waiting.1.nameIdentity casing ≠ entry.nameIdentity casing) :
    all (entry.nameIdentity casing) = done (entry.nameIdentity casing) ++
        entry :: entriesOf casing (entry.nameIdentity casing) rest ∧
      machine.view casing candidates (entry.nameIdentity casing) =
        asserted casing tombstones ctx origin done (entry.nameIdentity casing) := by
  cases simulates with
  | settled split _ _ live =>
      rw [head, entriesOf_cons_self] at split
      exact ⟨split, live ⟨entry, head ▸ List.mem_cons_self, rfl⟩⟩
  | waiting other oldFacts _ sole _ _ _ =>
      have member : (other, oldFacts) ∈ machine.pending.filter fun waiting =>
          decide (waiting.1.nameIdentity casing = entry.nameIdentity casing) := by
        rw [sole]
        exact List.mem_singleton_self _
      obtain ⟨pending, same⟩ := List.mem_filter.mp member
      exact absurd (of_decide_eq_true same) (alone _ pending)

theorem Simulates.head {entry : Entry} {oldFacts : List Fact}
    {rest : List (Entry × List Fact)}
    (simulates : Simulates casing candidates tombstones ctx origin all done machine
      (entry.nameIdentity casing))
    (head : machine.pending = (entry, oldFacts) :: rest) :
    all (entry.nameIdentity casing) = done (entry.nameIdentity casing) ++
        entry :: entriesOf casing (entry.nameIdentity casing) machine.remaining ∧
      (∀ waiting ∈ rest, waiting.1.nameIdentity casing ≠ entry.nameIdentity casing) ∧
      droppedIn casing (tombstones (entry.nameIdentity casing))
        (asserted casing tombstones ctx origin done (entry.nameIdentity casing))
        entry = false ∧
      machine.view casing candidates (entry.nameIdentity casing) =
        closedFor casing ctx
          (asserted casing tombstones ctx origin done (entry.nameIdentity casing)) entry ∧
      (oldFacts = [] ↔
        ∀ slot ∈ asserted casing tombstones ctx origin done (entry.nameIdentity casing),
          slot.hit casing entry = false) := by
  cases simulates with
  | settled _ idle _ _ =>
      exact absurd rfl (idle (entry, oldFacts) (head ▸ List.mem_cons_self))
  | waiting other otherFacts split sole kept view transitions =>
      rw [head, List.filter_cons, if_pos (by simp)] at sole
      obtain ⟨equal, others⟩ := List.cons.inj sole
      cases equal
      exact ⟨split, by simpa using others, kept, view, transitions⟩

theorem Simulates.complete {identity : NameIdentity}
    (simulates : Simulates casing candidates tombstones ctx origin all done machine
      identity)
    (remaining : machine.remaining = []) (pending : machine.pending = []) :
    done identity = all identity ∧
      (machine.view casing candidates identity).map Slot.fact =
        (asserted casing tombstones ctx origin all identity).map Slot.fact := by
  cases simulates with
  | settled split _ facts _ =>
      have finished : all identity = done identity := by
        rw [remaining] at split
        simpa [entriesOf] using split
      refine ⟨finished.symm, ?_⟩
      rw [asserted, finished]
      exact facts
  | waiting _ _ _ sole _ _ _ =>
      rw [pending] at sole
      cases sole

theorem filter_pending_other {identity : NameIdentity} {entry : Entry}
    {oldFacts : List Fact} {rest : List (Entry × List Fact)}
    (other : identity ≠ entry.nameIdentity casing) :
    (((entry, oldFacts) :: rest).filter fun waiting =>
        decide (waiting.1.nameIdentity casing = identity)) =
      rest.filter fun waiting => decide (waiting.1.nameIdentity casing = identity) := by
  rw [List.filter_cons, if_neg (by simpa using Ne.symm other)]

theorem obstructed_view (machine : Machine) (entry : Entry) :
    Obstructed ctx (machine.view casing candidates (entry.nameIdentity casing)) entry ↔
      ∃ other ∈ machine.store.facts, other.Excludes (rowFor ctx entry) := by
  constructor
  · rintro ⟨slot, member, excluded⟩
    obtain ⟨fact, bucketed, rfl⟩ := List.mem_map.mp member
    exact ⟨fact, (mem_bucketByName.mp bucketed).1, excluded⟩
  · rintro ⟨other, member, excluded⟩
    have named : nameIdentityOfFact casing other = entry.nameIdentity casing :=
      excluded.identity casing
    exact ⟨_, List.mem_map_of_mem (mem_bucketByName.mpr ⟨member, named⟩), excluded⟩

variable {store : FactStore} {entries : List Entry}
variable (ledger : MachineLedger casing candidates tombstones ctx store entries machine)
variable (scanned : Scanned casing store candidates)
variable (simulation : Simulation casing candidates tombstones ctx origin all done machine)
include simulation

section

include ledger scanned

theorem Simulation.skip {entry : Entry} {rest : List Entry}
    (head : machine.remaining = entry :: rest)
    (dropped : (hasIdenticalContent entry
        (machine.conflicts casing candidates entry) ||
      isTombstoned casing tombstones entry) = true)
    (alone : ∀ waiting ∈ machine.pending,
      waiting.1.nameIdentity casing ≠ entry.nameIdentity casing) :
    droppedIn casing (tombstones (entry.nameIdentity casing))
        (asserted casing tombstones ctx origin done (entry.nameIdentity casing))
        entry = true ∧
      Simulation casing candidates tombstones ctx origin all
        (advance casing done entry) { machine with remaining := rest } := by
  obtain ⟨split, view⟩ := (simulation (entry.nameIdentity casing)).examined head alone
  have droppedView : droppedIn casing (tombstones (entry.nameIdentity casing))
      (asserted casing tombstones ctx origin done (entry.nameIdentity casing))
      entry = true := by
    rw [← view, ← ledger.dropped_eq scanned]
    exact dropped
  refine ⟨droppedView, ?_⟩
  intro identity
  by_cases same : identity = entry.nameIdentity casing
  · subst same
    have unchanged : machine.view casing candidates (entry.nameIdentity casing) =
        asserted casing tombstones ctx origin (advance casing done entry)
          (entry.nameIdentity casing) := by
      rw [asserted_advance_self, assertEntry, if_pos droppedView, view]
    refine .settled ?_ alone (congrArg (List.map Slot.fact) unchanged)
      fun _ => unchanged
    simpa [advance] using split
  · exact (simulation identity).congr (Function.update_of_ne same _ _)
      (by rw [head, entriesOf_cons_other same]) rfl rfl

theorem Simulation.supersede {entry : Entry} {rest : List Entry} {closedStore : FactStore}
    (head : machine.remaining = entry :: rest)
    (differs : hasIdenticalContent entry
      (machine.conflicts casing candidates entry) = false)
    (live : isTombstoned casing tombstones entry = false)
    (alone : ∀ waiting ∈ machine.pending,
      waiting.1.nameIdentity casing ≠ entry.nameIdentity casing)
    (closed : closeConflicts ctx.now
      (machine.conflicts casing candidates entry) machine.store = .ok closedStore) :
    Simulation casing candidates tombstones ctx origin all done
      (machine.supersede casing candidates entry rest closedStore) := by
  obtain ⟨split, view⟩ := (simulation (entry.nameIdentity casing)).examined head alone
  have queued : (machine.supersede casing candidates entry rest closedStore).pending =
      machine.pending ++ [(entry, machine.conflicts casing candidates entry)] := rfl
  intro identity
  by_cases same : identity = entry.nameIdentity casing
  · subst same
    refine .waiting entry (machine.conflicts casing candidates entry) split ?_ ?_ ?_ ?_
    · have none : (machine.pending.filter fun waiting =>
          decide (waiting.1.nameIdentity casing = entry.nameIdentity casing)) = [] := by
        simpa using alone
      rw [queued, List.filter_append, none]
      simp
    · rw [← view, ← ledger.dropped_eq scanned, differs, live]
      rfl
    · rw [ledger.view_supersede scanned closed, view]
    · rw [ledger.conflicts_eq_nil scanned, view]
  · refine (simulation identity).congr rfl ?_ ?_
      (ledger.view_supersede_other scanned closed same)
    · rw [head, entriesOf_cons_other same]
      rfl
    · rw [queued, List.filter_append]
      simp [Ne.symm same]

end

theorem Simulation.persist {entry : Entry} {oldFacts : List Fact}
    {rest : List (Entry × List Fact)} {fact : Fact} {store' : FactStore}
    {inBatch : NameIdentity → List Fact}
    (head : machine.pending = (entry, oldFacts) :: rest)
    (inserted : persistRow ctx machine.store entry = .ok (some fact, store'))
    (tracked : inBatch = Function.update machine.inBatch (entry.nameIdentity casing)
        (machine.inBatch (entry.nameIdentity casing) ++ [fact]) ∨
      inBatch = machine.inBatch ∧ ∀ later ∈ machine.remaining,
        later.nameIdentity casing ≠ entry.nameIdentity casing) :
    ¬ Obstructed ctx
        (closedFor casing ctx
          (asserted casing tombstones ctx origin done (entry.nameIdentity casing)) entry)
        entry ∧
      Simulation casing candidates tombstones ctx origin all
        (advance casing done entry)
        (machine.persist entry oldFacts rest fact store' inBatch) := by
  obtain ⟨split, idle, kept, view, _⟩ := (simulation (entry.nameIdentity casing)).head head
  have admitted : ¬ Obstructed ctx (closedFor casing ctx
      (asserted casing tombstones ctx origin done (entry.nameIdentity casing)) entry)
      entry := by
    rw [← view, obstructed_view]
    rintro ⟨other, member, excluded⟩
    exact FactStore.insert_admits (persistRow_some inserted) other member excluded
  refine ⟨admitted, ?_⟩
  intro identity
  by_cases same : identity = entry.nameIdentity casing
  · subst same
    obtain ⟨flag, appended, flagged⟩ :=
      @MachineLedger.view_persist casing candidates ctx machine entry oldFacts rest fact
        store' inBatch inserted tracked
    have grown : asserted casing tombstones ctx origin (advance casing done entry)
        (entry.nameIdentity casing) =
        machine.view casing candidates (entry.nameIdentity casing) ++
          [⟨rowFor ctx entry, true⟩] := by
      rw [asserted_advance_self, assertEntry, if_neg (by rw [kept]; decide),
        if_neg admitted, view]
    refine .settled ?_ idle ?_ ?_
    · simpa [advance, Machine.persist] using split
    · rw [appended, grown]
      simp
    · rintro ⟨later, member, laterSame⟩
      rcases flagged with rfl | none
      · rw [appended, grown]
      · exact absurd laterSame (none later member)
  · refine (simulation identity).congr (Function.update_of_ne same _ _) rfl ?_
      (MachineLedger.view_persist_other inserted tracked same)
    rw [head, filter_pending_other same]
    rfl

theorem Simulation.suppress {entry : Entry} {oldFacts : List Fact}
    {rest : List (Entry × List Fact)} {store' : FactStore}
    (head : machine.pending = (entry, oldFacts) :: rest)
    (suppressed : persistRow ctx machine.store entry = .ok (none, store')) :
    Obstructed ctx
        (closedFor casing ctx
          (asserted casing tombstones ctx origin done (entry.nameIdentity casing)) entry)
        entry ∧
      Simulation casing candidates tombstones ctx origin all
        (advance casing done entry)
        { machine with store := store', pending := rest } := by
  obtain ⟨rfl, refused⟩ := persistRow_none suppressed
  obtain ⟨split, idle, kept, view, _⟩ := (simulation (entry.nameIdentity casing)).head head
  have obstructed : Obstructed ctx (closedFor casing ctx
      (asserted casing tombstones ctx origin done (entry.nameIdentity casing)) entry)
      entry := by
    rw [← view, obstructed_view]
    exact FactStore.insert_exclusionViolation refused
  refine ⟨obstructed, ?_⟩
  intro identity
  by_cases same : identity = entry.nameIdentity casing
  · subst same
    have unchanged : machine.view casing candidates (entry.nameIdentity casing) =
        asserted casing tombstones ctx origin (advance casing done entry)
          (entry.nameIdentity casing) := by
      rw [asserted_advance_self, assertEntry, if_neg (by rw [kept]; decide),
        if_pos obstructed, view]
    refine .settled ?_ idle (congrArg (List.map Slot.fact) unchanged) fun _ => unchanged
    simpa [advance] using split
  · refine (simulation identity).congr (Function.update_of_ne same _ _) rfl ?_ rfl
    rw [head, filter_pending_other same]

include ledger scanned in
theorem Simulation.step {next : Machine}
    (taken : MachineStep casing candidates tombstones ctx machine next) :
    ∃ done', Simulation casing candidates tombstones ctx origin all done' next := by
  cases taken with
  | skip head dropped alone =>
      exact ⟨_, (simulation.skip ledger scanned head dropped alone).2⟩
  | supersede head differs live alone closed =>
      exact ⟨_, simulation.supersede ledger scanned head differs live alone closed⟩
  | persist head _ inserted tracked =>
      exact ⟨_, (simulation.persist head inserted tracked).2⟩
  | suppress head suppressed =>
      exact ⟨_, (simulation.suppress head suppressed).2⟩

include ledger scanned in
theorem Simulation.run_with (Holds : (NameIdentity → List Entry) → Machine → Prop)
    (preserved : ∀ {done machine next},
      MachineLedger casing candidates tombstones ctx store entries machine →
      Simulation casing candidates tombstones ctx origin all done machine →
      Holds done machine → MachineStep casing candidates tombstones ctx machine next →
      ∃ done', Simulation casing candidates tombstones ctx origin all done' next ∧
        Holds done' next)
    {final : Machine} (ran : MachineRun casing candidates tombstones ctx machine final)
    (holds : Holds done machine) :
    ∃ done', Simulation casing candidates tombstones ctx origin all done' final ∧
      Holds done' final := by
  induction ran with
  | refl => exact ⟨done, simulation, holds⟩
  | tail earlier taken induction =>
      obtain ⟨_, reached, held⟩ := induction
      exact preserved (ledger.run scanned earlier) reached held taken

include ledger scanned in
theorem Simulation.run {final : Machine}
    (ran : MachineRun casing candidates tombstones ctx machine final) :
    ∃ done', Simulation casing candidates tombstones ctx origin all done' final := by
  obtain ⟨done', reached, _⟩ := simulation.run_with ledger scanned (fun _ _ => True)
    (fun held simulated _ taken =>
      (simulated.step held scanned taken).imp fun _ reached => ⟨reached, trivial⟩)
    ran trivial
  exact ⟨done', reached⟩

end

theorem entriesOf_scheduled (casing : Casing) (entries : List Entry)
    (identity : NameIdentity) :
    entriesOf casing identity (scheduled casing entries) =
      entriesOf casing identity entries := by
  have constant : ∀ (test : Nat → Bool),
      entriesOf casing identity (entries.filter fun entry =>
          test (identityCount casing entries (entry.nameIdentity casing))) =
        if test (identityCount casing entries identity) then
          entriesOf casing identity entries else [] := by
    intro test
    simp only [entriesOf, List.filter_filter]
    split
    · rename_i passed
      apply List.filter_congr
      intro entry _member
      by_cases same : entry.nameIdentity casing = identity <;> simp [same, passed]
    · rename_i failed
      rw [List.filter_eq_nil_iff]
      intro entry _member
      by_cases same : entry.nameIdentity casing = identity <;> simp [same, failed]
  have batch := constant fun count => decide (count = 1)
  have sequential := constant fun count => decide (1 < count)
  have absent : identityCount casing entries identity = 0 →
      entriesOf casing identity entries = [] := by
    intro zero
    rw [identityCount, List.countP_eq_zero] at zero
    rw [entriesOf, List.filter_eq_nil_iff]
    exact zero
  have appended : entriesOf casing identity (scheduled casing entries) =
      entriesOf casing identity (batchEntries casing entries) ++
        entriesOf casing identity (sequentialEntries casing entries) :=
    List.filter_append ..
  rw [appended, batchEntries, sequentialEntries, batch, sequential]
  rcases Nat.lt_trichotomy (identityCount casing entries identity) 1 with
    none | once | repeated
  · rw [absent (by omega)]
    simp
  · simp [once]
  · simp [repeated, Nat.ne_of_gt repeated]

/-- The rows of one identity before the call, read off the scan buckets. -/
theorem view_start (casing : Casing) (call : IngestCall) (store : FactStore)
    (order : List Entry) (identity : NameIdentity) :
    (Machine.start store order).view casing (call.candidates casing store) identity =
      call.view casing store identity := by
  simp only [Machine.view, IngestCall.view]
  apply List.map_congr_left
  intro fact bucketed
  obtain ⟨member, named⟩ := mem_bucketByName.mp bucketed
  have opened : (Machine.start store order).isOpen (call.candidates casing store)
      identity fact =
        decide (fact.id ∈ (call.candidates casing store identity).map Fact.id) := by
    simp [Machine.isOpen, Machine.start, Machine.of, BatchState.initial]
  rw [opened]
  congr 1
  rw [Bool.eq_iff_iff, decide_eq_true_iff, List.mem_map]
  constructor
  · rintro ⟨candidate, found, same⟩
    have equal := FactStore.eq_of_id
      ((scanned_candidates casing call store).stored found) member same
    subst equal
    exact (List.mem_filter.mp (mem_bucketByName.mp found).1).2
  · intro passed
    exact ⟨fact, mem_bucketByName.mpr ⟨List.mem_filter.mpr ⟨member, passed⟩, named⟩, rfl⟩

theorem simulation_start (casing : Casing) (call : IngestCall) (store : FactStore) :
    Simulation casing (call.candidates casing store) (call.tombstones casing store)
      call.ctx (call.view casing store)
      (fun identity => entriesOf casing identity (call.entries casing))
      (fun _ => [])
      (Machine.start store (scheduled casing (call.entries casing))) := by
  intro identity
  have same := view_start casing call store (scheduled casing (call.entries casing)) identity
  refine .settled ?_ (by simp [Machine.start, Machine.of])
    (congrArg (List.map Slot.fact) same) fun _ => same
  exact (entriesOf_scheduled casing (call.entries casing) identity).symm

@[simp] theorem Fact.anonymous_withLineage (fact : Fact)
    (transitions : List SupersessionEvent) :
    (fact.withLineage transitions).anonymous = fact.anonymous := by
  obtain ⟨successor, equality⟩ := fact.withLineage_eq transitions
  rw [equality]
  rfl

theorem nameIdentityOfFact_withLineage (casing : Casing) (fact : Fact)
    (transitions : List SupersessionEvent) :
    nameIdentityOfFact casing (fact.withLineage transitions) =
      nameIdentityOfFact casing fact := by
  obtain ⟨successor, equality⟩ := fact.withLineage_eq transitions
  rw [equality]
  rfl

/-- The rows of one identity, without identifiers and lineage. -/
def FactStore.rows (casing : Casing) (store : FactStore) (identity : NameIdentity) :
    List Fact :=
  (bucketByName casing store.facts identity).map Fact.anonymous

theorem ingest_refines {casing : Casing} {collaborators : Collaborators}
    {store : FactStore} {call : IngestCall} {outcome : IngestOutcome}
    (ingested : ingestWithSupersession casing collaborators store call = .ok outcome)
    (identity : NameIdentity) :
    outcome.store.rows casing identity =
      (assertEntries casing (call.tombstones casing store identity) call.ctx
        (call.view casing store identity)
        (entriesOf casing identity (call.entries casing))).map Slot.fact := by
  obtain ⟨final, run, _, remaining, pending, _, _, _, facts, _⟩ := ingest_ledger ingested
  have start := machineLedger_start casing call store
  obtain ⟨done, simulation⟩ := (simulation_start casing call store).run start
    (scanned_candidates casing call store) run
  have sameFacts := ((simulation identity).complete remaining pending).2
  rw [FactStore.rows, facts, bucketByName_map _ _ _ _
    fun fact => nameIdentityOfFact_withLineage casing fact _, List.map_map]
  rw [Machine.view, List.map_map] at sameFacts
  rw [← sameFacts]
  apply List.map_congr_left
  intro fact _member
  exact fact.anonymous_withLineage _

end OpenZync.Facts
