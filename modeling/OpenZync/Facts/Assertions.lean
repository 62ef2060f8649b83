import OpenZync.Facts.RangeGuard

/-!
# The assertions of an ingest in order

The entries whose identity occurs once are written first, the others after them,
and each is asserted against the rows that the earlier ones left of its identity.
The list of these assertions is a function of the store and the call alone.  A
successful ingest performs all of them: the rows it creates are those of the
admitted assertions, in this order.
-/

namespace OpenZync.Facts

open OpenZync.Library

/-- An entry that comes to its insert, and the rows of its identity before it
supersedes any of them. -/
structure Assertion where
  entry : Entry
  rows : List Slot

/-- The constraints of the table hold among the rows of an identity. -/
def Admissible (view : List Slot) : Prop :=
  (∀ slot ∈ view, slot.fact.invalidAt = none → slot.fact.RangeOrdered) ∧
    view.Pairwise fun left right => ¬ left.fact.Excludes right.fact

instance : DecidablePred Admissible :=
  fun _ => inferInstanceAs (Decidable (_ ∧ _))

section

variable (casing : Casing) (tombstones : NameIdentity → List Fact) (ctx : BatchCtx)

/-- The exclusion constraint lets the row of the entry in. -/
def Assertion.Admitted (assertion : Assertion) : Prop :=
  ¬ Obstructed ctx (closedFor casing ctx assertion.rows assertion.entry) assertion.entry

instance : DecidablePred (Assertion.Admitted casing ctx) :=
  fun _ => inferInstanceAs (Decidable (¬ _))

/-- The entries whose rows the constraint lets in. -/
def admitted (asserted : List Assertion) : List Entry :=
  (asserted.filter fun assertion => decide (assertion.Admitted casing ctx)).map Assertion.entry

/-- The entries that are not dropped, each with the rows it is asserted against.
The list ends where the database refuses to end a superseded row. -/
def assertions (views : NameIdentity → List Slot) : List Entry → List Assertion
  | [] => []
  | entry :: entries =>
      let identity := entry.nameIdentity casing
      if droppedIn casing (tombstones identity) (views identity) entry then
        assertions views entries
      else if Admissible (closedFor casing ctx (views identity) entry) then
        ⟨entry, views identity⟩ ::
          assertions (Function.update views identity
            (assertEntry casing (tombstones identity) ctx (views identity) entry)) entries
      else []

end

namespace IngestCall

/-- The assertions of a call, in the order of its writes. -/
def assertions (casing : Casing) (call : IngestCall) (store : FactStore) : List Assertion :=
  Facts.assertions casing (call.tombstones casing store) call.ctx (call.view casing store)
    (scheduled casing (call.entries casing))

/-- The entries whose rows are inserted. -/
def inserted (casing : Casing) (call : IngestCall) (store : FactStore) : List Entry :=
  admitted casing call.ctx (call.assertions casing store)

end IngestCall

section

variable {casing : Casing} {tombstones : NameIdentity → List Fact} {ctx : BatchCtx}
variable {views : NameIdentity → List Slot}

theorem assertions_dropped {entry : Entry} {before : List Entry} (after : List Entry)
    (dropped : droppedIn casing (tombstones (entry.nameIdentity casing))
      (views (entry.nameIdentity casing)) entry = true)
    (apart : ∀ other ∈ before, other.nameIdentity casing ≠ entry.nameIdentity casing) :
    assertions casing tombstones ctx views (before ++ entry :: after) =
      assertions casing tombstones ctx views (before ++ after) := by
  induction before generalizing views with
  | nil => simp [assertions, dropped]
  | cons other before induction =>
      have apartTail := fun later member => apart later (List.mem_cons_of_mem _ member)
      have untouched : ∀ view : List Slot,
          Function.update views (other.nameIdentity casing) view (entry.nameIdentity casing) =
            views (entry.nameIdentity casing) := fun view =>
        Function.update_of_ne (apart other List.mem_cons_self).symm _ _
      simp only [List.cons_append, assertions]
      rw [induction dropped apartTail]
      rw [@induction (Function.update views (other.nameIdentity casing) _)
        (by rw [untouched]; exact dropped) apartTail]

/-- Entries of different identities that are neither dropped nor refused are
asserted against the rows there are. -/
theorem assertions_apart {before : List Entry} (after : List Entry)
    (distinct : (identities casing before).Nodup)
    (kept : ∀ entry ∈ before, droppedIn casing (tombstones (entry.nameIdentity casing))
      (views (entry.nameIdentity casing)) entry = false)
    (admissible : ∀ entry ∈ before,
      Admissible (closedFor casing ctx (views (entry.nameIdentity casing)) entry)) :
    ∃ rest, assertions casing tombstones ctx views (before ++ after) =
      before.map (fun entry => ⟨entry, views (entry.nameIdentity casing)⟩) ++ rest := by
  induction before generalizing views with
  | nil => exact ⟨_, rfl⟩
  | cons entry before induction =>
      simp only [identities, List.map_cons, List.nodup_cons] at distinct
      have untouched : ∀ (view : List Slot), ∀ other ∈ before,
          Function.update views (entry.nameIdentity casing) view (other.nameIdentity casing) =
            views (other.nameIdentity casing) := by
        intro view other member
        apply Function.update_of_ne
        intro same
        exact distinct.1 (same ▸ List.mem_map_of_mem member)
      obtain ⟨rest, split⟩ := @induction (Function.update views (entry.nameIdentity casing)
          (assertEntry casing (tombstones (entry.nameIdentity casing)) ctx
            (views (entry.nameIdentity casing)) entry)) distinct.2
        (by
          intro other member
          rw [untouched _ other member]
          exact kept other (List.mem_cons_of_mem _ member))
        (by
          intro other member
          rw [untouched _ other member]
          exact admissible other (List.mem_cons_of_mem _ member))
      have sameRows : before.map (fun other : Entry => (⟨other,
          Function.update views (entry.nameIdentity casing)
            (assertEntry casing (tombstones (entry.nameIdentity casing)) ctx
              (views (entry.nameIdentity casing)) entry) (other.nameIdentity casing)⟩ :
                Assertion)) =
          before.map fun other => ⟨other, views (other.nameIdentity casing)⟩ := by
        apply List.map_congr_left
        intro other member
        rw [untouched _ other member]
      refine ⟨rest, ?_⟩
      rw [List.cons_append, assertions]
      simp only [kept entry List.mem_cons_self, Bool.false_eq_true, if_false,
        if_pos (admissible entry List.mem_cons_self), split, sameRows, List.map_cons,
        List.cons_append]

theorem admitted_append (first second : List Assertion) :
    admitted casing ctx (first ++ second) =
      admitted casing ctx first ++ admitted casing ctx second := by
  rw [admitted, List.filter_append, List.map_append]
  rfl

theorem mem_of_assertion {entries : List Entry} {assertion : Assertion}
    (member : assertion ∈ assertions casing tombstones ctx views entries) :
    assertion.entry ∈ entries := by
  induction entries generalizing views with
  | nil => cases member
  | cons entry entries induction =>
      rw [assertions] at member
      split at member
      · exact List.mem_cons_of_mem _ (induction member)
      · split at member
        · rcases List.mem_cons.mp member with rfl | later
          · exact List.mem_cons_self
          · exact List.mem_cons_of_mem _ (induction later)
        · cases member

/-- A row that is kept out starts before it ends. -/
theorem alive_of_obstructed {view : List Slot} {entry : Entry}
    (obstructed : Obstructed ctx view entry) : entry.Alive := by
  obtain ⟨_, _, excluded⟩ := obstructed
  obtain ⟨_, _, _, _, _, _, _, alive, _⟩ := excluded
  exact alive

variable {candidates : NameIdentity → List Fact} {machine : Machine}

/-- The table keeps its constraints at every point of a run. -/
theorem view_admissible (identity : NameIdentity) :
    Admissible (machine.view casing candidates identity) := by
  constructor
  · intro slot member valid
    obtain ⟨fact, bucketed, rfl⟩ := List.mem_map.mp member
    exact machine.store.ranges fact (mem_bucketByName.mp bucketed).1 valid
  · rw [Machine.view, List.pairwise_map]
    exact machine.store.temporalExcl.sublist List.filter_sublist

section

variable (casing tombstones ctx)
variable (origin : NameIdentity → List Slot) (schedule : List Entry)

/-- The facts are the rows that the assertion supersedes. -/
def Assertion.Supersedes (assertion : Assertion) (oldFacts : List Fact) : Prop :=
  ∀ fact, (∃ old ∈ oldFacts, old.anonymous = fact) ↔
    ∃ slot ∈ assertion.rows, slot.hit casing assertion.entry = true ∧ slot.fact = fact

/-- The assertions a run has performed, `log`, and those it has still to
perform. -/
structure AssertionLog (done : NameIdentity → List Entry) (machine : Machine)
    (log : List Assertion) : Prop where
  split : assertions casing tombstones ctx origin schedule =
    log ++ assertions casing tombstones ctx (asserted casing tombstones ctx origin done)
      (machine.pending.map Prod.fst ++ machine.remaining)
  created : List.Forall₂ (RowOf ctx) (admitted casing ctx log) machine.created
  alive : ∀ assertion ∈ log, assertion.entry.Alive
  waiting : ∀ entry oldFacts, (entry, oldFacts) ∈ machine.pending →
    Assertion.Supersedes casing
      ⟨entry, asserted casing tombstones ctx origin done (entry.nameIdentity casing)⟩ oldFacts

end

variable {origin : NameIdentity → List Slot} {all done : NameIdentity → List Entry}
variable {store : FactStore} {entries schedule : List Entry} {log : List Assertion}

theorem asserted_advance (entry : Entry) :
    asserted casing tombstones ctx origin (advance casing done entry) =
      Function.update (asserted casing tombstones ctx origin done) (entry.nameIdentity casing)
        (assertEntry casing (tombstones (entry.nameIdentity casing)) ctx
          (asserted casing tombstones ctx origin done (entry.nameIdentity casing)) entry) := by
  funext identity
  by_cases same : identity = entry.nameIdentity casing
  · subst same
    rw [asserted_advance_self, Function.update_self]
  · rw [Function.update_of_ne same, asserted, advance, Function.update_of_ne same]

theorem asserted_advance_dropped {entry : Entry}
    (dropped : droppedIn casing (tombstones (entry.nameIdentity casing))
      (asserted casing tombstones ctx origin done (entry.nameIdentity casing)) entry = true) :
    asserted casing tombstones ctx origin (advance casing done entry) =
      asserted casing tombstones ctx origin done := by
  rw [asserted_advance, assertEntry, if_pos dropped, Function.update_eq_self]

theorem AssertionLog.start (store : FactStore) :
    AssertionLog casing tombstones ctx origin schedule (fun _ => [])
      (Machine.start store schedule) [] :=
  { split := rfl
    created := .nil
    alive := by simp
    waiting := by simp [Machine.start, Machine.of] }

variable (ledger : MachineLedger casing candidates tombstones ctx store entries machine)
variable (scanned : Scanned casing store candidates)
variable (simulation : Simulation casing candidates tombstones ctx origin all done machine)
include simulation

theorem Simulation.waiting {entry : Entry} {oldFacts : List Fact}
    (member : (entry, oldFacts) ∈ machine.pending) :
    droppedIn casing (tombstones (entry.nameIdentity casing))
        (asserted casing tombstones ctx origin done (entry.nameIdentity casing)) entry = false ∧
      Admissible (closedFor casing ctx
        (asserted casing tombstones ctx origin done (entry.nameIdentity casing)) entry) := by
  cases simulation (entry.nameIdentity casing) with
  | settled _ idle _ _ => exact absurd rfl (idle _ member)
  | waiting other otherFacts _ sole kept view _ =>
      have found : (entry, oldFacts) ∈ machine.pending.filter fun waiting =>
          decide (waiting.1.nameIdentity casing = entry.nameIdentity casing) :=
        List.mem_filter.mpr ⟨member, by simp⟩
      rw [sole, List.mem_singleton] at found
      cases found
      refine ⟨kept, ?_⟩
      rw [← view]
      exact view_admissible _

/-- No two entries of an identity wait at once. -/
theorem Simulation.nodup_pending : (identities casing (machine.pending.map Prod.fst)).Nodup := by
  rw [List.nodup_iff_count_le_one]
  intro identity
  have counted : (identities casing (machine.pending.map Prod.fst)).count identity =
      (machine.pending.filter fun waiting =>
        decide (waiting.1.nameIdentity casing = identity)).length := by
    rw [identities, List.map_map, List.count_eq_countP, List.countP_map,
      List.countP_eq_length_filter]
    rfl
  rw [counted]
  cases simulation identity with
  | settled _ idle _ _ =>
      rw [List.filter_eq_nil_iff.mpr (by simpa using idle)]
      exact Nat.zero_le 1
  | waiting entry oldFacts _ sole _ _ _ =>
      rw [sole]
      exact le_rfl

theorem AssertionLog.pending
    (logged : AssertionLog casing tombstones ctx origin schedule done machine log)
    {entry : Entry} {oldFacts : List Fact} (member : (entry, oldFacts) ∈ machine.pending) :
    ⟨entry, asserted casing tombstones ctx origin done (entry.nameIdentity casing)⟩ ∈
      assertions casing tombstones ctx origin schedule := by
  have facts : ∀ other ∈ machine.pending.map Prod.fst,
      ∃ otherFacts, (other, otherFacts) ∈ machine.pending := by
    intro other found
    obtain ⟨⟨_, otherFacts⟩, waiting, rfl⟩ := List.mem_map.mp found
    exact ⟨otherFacts, waiting⟩
  obtain ⟨rest, split⟩ := @assertions_apart casing tombstones ctx
    (asserted casing tombstones ctx origin done) _ machine.remaining simulation.nodup_pending
    (fun other found => (facts other found).elim fun _ waiting => (simulation.waiting waiting).1)
    (fun other found => (facts other found).elim fun _ waiting => (simulation.waiting waiting).2)
  rw [logged.split, split]
  exact List.mem_append_right _ (List.mem_append_left _ (List.mem_map.mpr
    ⟨entry, List.mem_map_of_mem (f := Prod.fst) member, rfl⟩))

theorem Simulation.assertions_head {entry : Entry} {oldFacts : List Fact}
    {rest : List (Entry × List Fact)} (head : machine.pending = (entry, oldFacts) :: rest)
    (after : List Entry) :
    assertions casing tombstones ctx (asserted casing tombstones ctx origin done)
        (machine.pending.map Prod.fst ++ after) =
      ⟨entry, asserted casing tombstones ctx origin done (entry.nameIdentity casing)⟩ ::
        assertions casing tombstones ctx
          (asserted casing tombstones ctx origin (advance casing done entry))
          (rest.map Prod.fst ++ after) := by
  obtain ⟨kept, admissible⟩ := simulation.waiting (head ▸ List.mem_cons_self)
  rw [head, List.map_cons, List.cons_append, assertions]
  simp only [kept, Bool.false_eq_true, if_false, if_pos admissible]
  rw [← asserted_advance]

theorem AssertionLog.performed
    (logged : AssertionLog casing tombstones ctx origin schedule done machine log)
    {entry : Entry} {oldFacts : List Fact} {rest : List (Entry × List Fact)}
    (head : machine.pending = (entry, oldFacts) :: rest) (alive : entry.Alive)
    {next : Machine} (pending : next.pending = rest) (remaining : next.remaining = machine.remaining)
    (created : List.Forall₂ (RowOf ctx)
      (admitted casing ctx (log ++ [⟨entry, asserted casing tombstones ctx origin done
        (entry.nameIdentity casing)⟩])) next.created) :
    AssertionLog casing tombstones ctx origin schedule (advance casing done entry) next
      (log ++ [⟨entry, asserted casing tombstones ctx origin done
        (entry.nameIdentity casing)⟩]) := by
  obtain ⟨_, idle, _⟩ := (simulation (entry.nameIdentity casing)).head head
  refine
    { split := ?_
      created := created
      alive := ?_
      waiting := ?_ }
  · rw [logged.split, simulation.assertions_head head, pending, remaining, List.append_assoc]
    rfl
  · intro assertion member
    rcases List.mem_append.mp member with old | new
    · exact logged.alive assertion old
    · rw [List.mem_singleton.mp new]
      exact alive
  · intro other otherFacts member fact
    rw [pending] at member
    have apart := idle _ member
    rw [asserted_advance, Function.update_of_ne apart]
    exact logged.waiting other otherFacts (head ▸ List.mem_cons_of_mem _ member) fact

include ledger scanned in
theorem AssertionLog.step
    (logged : AssertionLog casing tombstones ctx origin schedule done machine log)
    {next : Machine} (taken : MachineStep casing candidates tombstones ctx machine next) :
    ∃ done', Simulation casing candidates tombstones ctx origin all done' next ∧
      (AssertionLog casing tombstones ctx origin schedule done' next log ∨
        ∃ entry oldFacts, (entry, oldFacts) ∈ machine.pending ∧
          AssertionLog casing tombstones ctx origin schedule done' next
            (log ++ [⟨entry, asserted casing tombstones ctx origin done
              (entry.nameIdentity casing)⟩])) := by
  cases taken with
  | @skip entry rest head dropped alone =>
      obtain ⟨droppedView, simulated⟩ := simulation.skip ledger scanned head dropped alone
      have apart : ∀ other ∈ machine.pending.map Prod.fst,
          other.nameIdentity casing ≠ entry.nameIdentity casing := by
        intro other member
        obtain ⟨waiting, found, rfl⟩ := List.mem_map.mp member
        exact alone waiting found
      refine ⟨_, simulated, .inl ?_⟩
      exact
        { split := by
            rw [logged.split, head, assertions_dropped rest droppedView apart,
              asserted_advance_dropped droppedView]
          created := logged.created
          alive := logged.alive
          waiting := by
            rw [asserted_advance_dropped droppedView]
            exact logged.waiting }
  | @supersede entry rest closedStore head differs live alone closed =>
      refine ⟨_, simulation.supersede ledger scanned head differs live alone closed, .inl ?_⟩
      obtain ⟨_, view⟩ := (simulation (entry.nameIdentity casing)).examined head alone
      refine
        { split := ?_
          created := logged.created
          alive := logged.alive
          waiting := ?_ }
      · rw [logged.split, head]
        simp [Machine.supersede]
      · intro other otherFacts member fact
        rcases List.mem_append.mp member with old | new
        · exact logged.waiting other otherFacts old fact
        · cases List.mem_singleton.mp new
          rw [← view]
          simp only [Machine.view, List.mem_map, ledger.mem_conflicts scanned, Slot.hit]
          constructor
          · rintro ⟨old, ⟨bucketed, opened, conflicting⟩, rfl⟩
            exact ⟨_, ⟨old, bucketed, rfl⟩, by simp [opened, conflicting], rfl⟩
          · rintro ⟨_, ⟨old, bucketed, rfl⟩, hit, rfl⟩
            rw [Bool.and_eq_true] at hit
            exact ⟨old, ⟨bucketed, hit.1, hit.2⟩, rfl⟩
  | @persist entry oldFacts rest fact store' inBatch head alive inserted tracked =>
      obtain ⟨admitted, simulated⟩ := simulation.persist head inserted tracked
      refine ⟨_, simulated, .inr ⟨entry, oldFacts, head ▸ List.mem_cons_self, ?_⟩⟩
      refine logged.performed simulation head alive rfl rfl ?_
      have row : RowOf ctx entry fact := by
        rw [RowOf, (FactStore.insert_ok (persistRow_some inserted)).1]
      rw [admitted_append]
      refine List.rel_append logged.created ?_
      simp [Facts.admitted, Assertion.Admitted, admitted, row]
  | @suppress entry oldFacts rest store' head suppressed =>
      obtain ⟨obstructed, simulated⟩ := simulation.suppress head suppressed
      refine ⟨_, simulated, .inr ⟨entry, oldFacts, head ▸ List.mem_cons_self, ?_⟩⟩
      refine logged.performed simulation head (alive_of_obstructed obstructed) rfl rfl ?_
      rw [admitted_append]
      simpa [admitted, Assertion.Admitted, obstructed] using logged.created

end

theorem assertion_entry {casing : Casing} {call : IngestCall} {store : FactStore}
    {assertion : Assertion} (member : assertion ∈ call.assertions casing store) :
    assertion.entry ∈ call.entries casing :=
  mem_scheduled (mem_of_assertion member)

/-- At some point of the run the entry of the assertion waits, and the rows that it
supersedes are ended. -/
def Assertion.WaitsBetween (casing : Casing) (candidates tombstones : NameIdentity → List Fact)
    (ctx : BatchCtx) (start final : Machine) (assertion : Assertion) : Prop :=
  ∃ middle oldFacts, MachineRun casing candidates tombstones ctx start middle ∧
    MachineRun casing candidates tombstones ctx middle final ∧
    (assertion.entry, oldFacts) ∈ middle.pending ∧ assertion.Supersedes casing oldFacts

/-- At every point of the writes the assertions performed so far are the first
ones of the list, and each has waited for its insert. -/
theorem assertionLog_run {casing : Casing} {call : IngestCall} {store : FactStore}
    {machine : Machine}
    (run : MachineRun casing (call.candidates casing store) (call.tombstones casing store) call.ctx
      (Machine.start store (scheduled casing (call.entries casing))) machine) :
    ∃ done log,
      Simulation casing (call.candidates casing store) (call.tombstones casing store) call.ctx
        (call.view casing store) (fun identity => entriesOf casing identity (call.entries casing))
        done machine ∧
      AssertionLog casing (call.tombstones casing store) call.ctx (call.view casing store)
        (scheduled casing (call.entries casing)) done machine log ∧
      ∀ assertion ∈ log, assertion.WaitsBetween casing (call.candidates casing store)
        (call.tombstones casing store) call.ctx
        (Machine.start store (scheduled casing (call.entries casing))) machine := by
  let start := Machine.start store (scheduled casing (call.entries casing))
  have scanned := scanned_candidates casing call store
  obtain ⟨done, simulation, log, logged, _, waited⟩ :=
    (simulation_start casing call store).run_with (machineLedger_start casing call store) scanned
      (fun done machine => ∃ log, AssertionLog casing (call.tombstones casing store) call.ctx
          (call.view casing store) (scheduled casing (call.entries casing)) done machine log ∧
        MachineRun casing (call.candidates casing store) (call.tombstones casing store) call.ctx
          start machine ∧
        ∀ assertion ∈ log, assertion.WaitsBetween casing (call.candidates casing store)
          (call.tombstones casing store) call.ctx start machine)
      (by
        rintro done machine next ledger simulation ⟨log, logged, reached, waited⟩ taken
        have further : ∀ assertion ∈ log, assertion.WaitsBetween casing
            (call.candidates casing store) (call.tombstones casing store) call.ctx start next := by
          intro assertion member
          obtain ⟨middle, oldFacts, before, after, waits, supersedes⟩ := waited assertion member
          exact ⟨middle, oldFacts, before, after.tail taken, waits, supersedes⟩
        obtain ⟨done', simulated, same | ⟨entry, oldFacts, waits, longer⟩⟩ :=
          logged.step ledger scanned simulation taken
        · exact ⟨done', simulated, _, same, reached.tail taken, further⟩
        · refine ⟨done', simulated, _, longer, reached.tail taken, ?_⟩
          intro assertion member
          rcases List.mem_append.mp member with old | new
          · exact further assertion old
          · rw [List.mem_singleton.mp new]
            exact ⟨machine, oldFacts, reached, .single taken, waits,
              logged.waiting entry oldFacts waits⟩)
      run ⟨[], .start store, .refl, by simp⟩
  exact ⟨done, log, simulation, logged, waited⟩

/-- Once nothing is left, every assertion has been performed. -/
theorem AssertionLog.complete {casing : Casing} {tombstones : NameIdentity → List Fact}
    {ctx : BatchCtx} {origin : NameIdentity → List Slot} {schedule : List Entry}
    {done : NameIdentity → List Entry} {machine : Machine} {log : List Assertion}
    (logged : AssertionLog casing tombstones ctx origin schedule done machine log)
    (remaining : machine.remaining = []) (pending : machine.pending = []) :
    assertions casing tombstones ctx origin schedule = log := by
  rw [logged.split, remaining, pending]
  simp [assertions]

/-- The rows a successful ingest creates are those of the admitted assertions,
one by one. -/
theorem ingest_inserted {casing : Casing} {collaborators : Collaborators} {store : FactStore}
    {call : IngestCall} {outcome : IngestOutcome}
    (ingested : ingestWithSupersession casing collaborators store call = .ok outcome) :
    List.Forall₂ (RowOf call.ctx) (call.inserted casing store) outcome.result.created := by
  obtain ⟨final, run, remaining, pending, created, _⟩ := ingest_run ingested
  obtain ⟨done, log, _, logged, _⟩ := assertionLog_run run
  rw [created, IngestCall.inserted, IngestCall.assertions, logged.complete remaining pending]
  exact logged.created

end OpenZync.Facts
