import OpenZync.Facts.SupersessionIngest
import OpenZync.Library.Execution

/-!
# The supersession state machine

Both write paths are runs of one small machine.  It examines the entries in
order; an entry is skipped, or its conflicts are closed and it waits in
`pending` until its row is inserted or suppressed by the exclusion
constraint.  The batch-safe path examines all entries before it inserts, the
sequential path alternates.  Every invariant of the ingest is proved once, on
the four steps of the machine.
-/

namespace OpenZync.Facts

open OpenZync.Library

structure Machine where
  store : FactStore
  remaining : List Entry
  pending : List (Entry × List Fact)
  closedIds : List Uuid
  inBatch : NameIdentity → List Fact
  created : List Fact
  superseded : List Uuid
  events : List SupersessionEvent

/-- The machine at a point of the ingest. -/
def Machine.of (store : FactStore) (state : BatchState) (remaining : List Entry)
    (pending : List (Entry × List Fact)) : Machine :=
  { store := store
    remaining := remaining
    pending := pending
    closedIds := state.closedIds
    inBatch := state.inBatch
    created := state.created
    superseded := state.superseded
    events := state.events }

section

variable (casing : Casing)
variable (candidates tombstones : NameIdentity → List Fact)
variable (ctx : BatchCtx)

/-- The active facts an entry supersedes, as the code finds them. -/
def Machine.conflicts (machine : Machine) (entry : Entry) : List Fact :=
  matchingConflicts casing entry
    (candidates (entry.nameIdentity casing) ++
      machine.inBatch (entry.nameIdentity casing)) machine.closedIds

/-- Close the conflicts of an entry and let it wait for its insert. -/
def Machine.supersede (machine : Machine) (entry : Entry) (rest : List Entry)
    (store : FactStore) : Machine :=
  let identity := entry.nameIdentity casing
  let conflicts := machine.conflicts casing candidates entry
  let own := (machine.inBatch identity).map Fact.id
  { machine with
    store := store
    remaining := rest
    pending := machine.pending ++ [(entry, conflicts)]
    closedIds := machine.closedIds ++
      (conflicts.map Fact.id).filter fun id => !own.contains id
    inBatch := Function.update machine.inBatch identity
      ((machine.inBatch identity).filter fun fact =>
        !(conflicts.map Fact.id).contains fact.id)
    superseded := machine.superseded ++ conflicts.map Fact.id }

/-- Insert the row of a waiting entry and record its transitions. -/
def Machine.persist (machine : Machine) (entry : Entry) (oldFacts : List Fact)
    (rest : List (Entry × List Fact)) (fact : Fact) (store : FactStore)
    (inBatch : NameIdentity → List Fact) : Machine :=
  { machine with
    store := store
    pending := rest
    inBatch := inBatch
    created := machine.created ++ [fact]
    events := machine.events ++
      oldFacts.map fun oldFact =>
        makeSupersessionEvent oldFact (some fact) entry.triple }

inductive MachineStep : Machine → Machine → Prop where
  /-- Identical content or a tombstone: the entry is dropped. -/
  | skip {machine : Machine} {entry : Entry} {rest : List Entry}
      (head : machine.remaining = entry :: rest)
      (dropped : (hasIdenticalContent entry
          (machine.conflicts casing candidates entry) ||
        isTombstoned casing tombstones entry) = true)
      (alone : ∀ waiting ∈ machine.pending,
        waiting.1.nameIdentity casing ≠ entry.nameIdentity casing) :
      MachineStep machine { machine with remaining := rest }
  | supersede {machine : Machine} {entry : Entry} {rest : List Entry}
      {store : FactStore}
      (head : machine.remaining = entry :: rest)
      (differs : hasIdenticalContent entry
        (machine.conflicts casing candidates entry) = false)
      (live : isTombstoned casing tombstones entry = false)
      (alone : ∀ waiting ∈ machine.pending,
        waiting.1.nameIdentity casing ≠ entry.nameIdentity casing)
      (closed : closeConflicts ctx.now
        (machine.conflicts casing candidates entry) machine.store = .ok store) :
      MachineStep machine (machine.supersede casing candidates entry rest store)
  /-- The row is inserted.  It is remembered in `inBatch` unless no later
  entry has its name identity. -/
  | persist {machine : Machine} {entry : Entry} {oldFacts : List Fact}
      {rest : List (Entry × List Fact)} {fact : Fact} {store : FactStore}
      {inBatch : NameIdentity → List Fact}
      (head : machine.pending = (entry, oldFacts) :: rest)
      (alive : StartsBefore (some entry.validFrom) entry.validTo)
      (inserted : persistRow ctx machine.store entry = .ok (some fact, store))
      (tracked : inBatch = Function.update machine.inBatch (entry.nameIdentity casing)
          (machine.inBatch (entry.nameIdentity casing) ++ [fact]) ∨
        inBatch = machine.inBatch ∧ ∀ later ∈ machine.remaining,
          later.nameIdentity casing ≠ entry.nameIdentity casing) :
      MachineStep machine (machine.persist entry oldFacts rest fact store inBatch)
  /-- `ON CONFLICT DO NOTHING` drops the row. -/
  | suppress {machine : Machine} {entry : Entry} {oldFacts : List Fact}
      {rest : List (Entry × List Fact)} {store : FactStore}
      (head : machine.pending = (entry, oldFacts) :: rest)
      (suppressed : persistRow ctx machine.store entry = .ok (none, store)) :
      MachineStep machine { machine with store := store, pending := rest }

abbrev MachineRun : Machine → Machine → Prop :=
  Relation.ReflTransGen (MachineStep casing candidates tombstones ctx)

end

/-- The name identities of a list of entries. -/
def identities (casing : Casing) (entries : List Entry) : List NameIdentity :=
  entries.map (Entry.nameIdentity casing)

/-- The row both insert modes write for an entry. -/
def rowFor (ctx : BatchCtx) (entry : Entry) : Fact :=
  entry.toFact ctx.orgId ctx.projectId ctx.userId
    (match ctx.insertMode with
      | .batchCreate => entry.sourceEpisodeId
      | .batchCreateOrSkip => ctx.sourceEpisodeId)

theorem bornDeadGuard_ok {entries : List Entry} (passed : bornDeadGuard entries = .ok ()) :
    ∀ entry ∈ entries, StartsBefore (some entry.validFrom) entry.validTo := by
  induction entries with
  | nil => simp
  | cons first entries induction =>
      unfold bornDeadGuard at passed
      intro entry member
      split at passed
      · rename_i unbounded
        rcases List.mem_cons.mp member with rfl | later
        · simp [StartsBefore, unbounded]
        · exact induction passed entry later
      · rename_i validTo bounded
        split at passed
        · cases passed
        · rename_i alive
          rcases List.mem_cons.mp member with rfl | later
          · simpa [StartsBefore, bounded] using alive
          · exact induction passed entry later

theorem persistRow_some {ctx : BatchCtx} {store store' : FactStore} {entry : Entry}
    {fact : Fact} (inserted : persistRow ctx store entry = .ok (some fact, store')) :
    store.insert (rowFor ctx entry) = .ok (fact, store') := by
  unfold persistRow at inserted
  split at inserted
  · rename_i mode
    simp only [rowFor, mode]
    unfold createRow at inserted
    obtain ⟨⟨created, after⟩, insertion, result⟩ := bind_eq_ok.mp inserted
    cases result
    exact insertion
  · rename_i mode
    simp only [rowFor, mode]
    unfold createOrSkipRow at inserted
    split at inserted
    · rename_i insertion
      cases inserted
      exact insertion
    · cases inserted
    · cases inserted

theorem persistRow_none {ctx : BatchCtx} {store store' : FactStore} {entry : Entry}
    (suppressed : persistRow ctx store entry = .ok (none, store')) :
    store' = store ∧ store.insert (rowFor ctx entry) = .error .exclusionViolation := by
  unfold persistRow at suppressed
  split at suppressed
  · unfold createRow at suppressed
    obtain ⟨⟨created, after⟩, _, result⟩ := bind_eq_ok.mp suppressed
    cases result
  · rename_i mode
    simp only [rowFor, mode]
    unfold createOrSkipRow at suppressed
    split at suppressed
    · cases suppressed
    · rename_i violation
      cases suppressed
      exact ⟨rfl, violation⟩
    · cases suppressed

theorem nameIdentityOfFact_inserted (casing : Casing) {ctx : BatchCtx}
    {store store' : FactStore} {entry : Entry} {fact : Fact}
    (inserted : persistRow ctx store entry = .ok (some fact, store')) :
    nameIdentityOfFact casing fact = entry.nameIdentity casing := by
  rw [(FactStore.insert_ok (persistRow_some inserted)).1]
  rfl

theorem persistRows_identity (casing : Casing) {ctx : BatchCtx} {entries : List Entry}
    {store store' : FactStore} {inserted : List Fact}
    (persisted : persistRows ctx entries store = .ok (inserted, store'))
    {fact : Fact} (member : fact ∈ inserted) :
    nameIdentityOfFact casing fact ∈ identities casing entries := by
  induction entries generalizing store inserted with
  | nil =>
      cases persisted
      cases member
  | cons entry entries induction =>
      obtain ⟨⟨first, between⟩, head, tail⟩ := bind_eq_ok.mp persisted
      obtain ⟨⟨rest, last⟩, persistedRest, result⟩ := bind_eq_ok.mp tail
      cases result
      rcases List.mem_append.mp member with isFirst | isRest
      · cases first with
        | none => cases isFirst
        | some created =>
            rw [List.mem_singleton.mp isFirst,
              nameIdentityOfFact_inserted casing head]
            exact List.mem_cons_self
      · exact List.mem_cons_of_mem _ (induction persistedRest isRest)

section

variable {casing : Casing} {candidates tombstones : NameIdentity → List Fact}
  {ctx : BatchCtx}

/-- Before the first row of a repeated identity is inserted, the conflicts are
among the candidates of the scan. -/
theorem Machine.conflicts_of_fresh {state : BatchState} (fresh : state.inBatch = fun _ => [])
    (store : FactStore) (remaining : List Entry) (kept : List (Entry × List Fact))
    (entry : Entry) :
    (Machine.of store state remaining kept).conflicts casing candidates entry =
      matchingConflicts casing entry (candidates (entry.nameIdentity casing))
        state.closedIds := by
  simp [Machine.conflicts, Machine.of, fresh]

theorem Machine.supersede_of_fresh {state : BatchState} (fresh : state.inBatch = fun _ => [])
    (store closed : FactStore) (remaining rest : List Entry) (kept : List (Entry × List Fact))
    (entry : Entry) :
    Machine.supersede casing candidates (Machine.of store state remaining kept) entry rest
        closed =
      Machine.of closed
        (state.closeStored (matchingConflicts casing entry
          (candidates (entry.nameIdentity casing)) state.closedIds))
        rest
        (kept ++ [(entry, matchingConflicts casing entry
          (candidates (entry.nameIdentity casing)) state.closedIds)]) := by
  unfold Machine.supersede
  rw [Machine.conflicts_of_fresh fresh]
  simp [Machine.of, BatchState.closeStored, fresh]

theorem batchSafeLoop_run {entries : List Entry} (rest : List Entry)
    {store store' : FactStore} {state state' : BatchState} {kept kept' : List (Entry × List Fact)}
    (fresh : state.inBatch = fun _ => [])
    (distinct : (identities casing (kept.map Prod.fst ++ entries)).Nodup)
    (ran : batchSafeLoop casing candidates tombstones ctx entries store state kept =
      .ok (store', state', kept')) :
    MachineRun casing candidates tombstones ctx
        (Machine.of store state (entries ++ rest) kept)
        (Machine.of store' state' rest kept') ∧
      state'.inBatch = (fun _ => []) ∧ state'.created = state.created ∧
      (kept'.map Prod.fst).Sublist (kept.map Prod.fst ++ entries) := by
  induction entries generalizing store state kept with
  | nil =>
      cases ran
      exact ⟨.refl, fresh, rfl, by simp⟩
  | cons entry entries induction =>
      let conflicts := matchingConflicts casing entry
        (candidates (entry.nameIdentity casing)) state.closedIds
      have sameConflicts :
          (Machine.of store state ((entry :: entries) ++ rest) kept).conflicts
              casing candidates entry = conflicts :=
        Machine.conflicts_of_fresh fresh ..
      have alone : ∀ waiting ∈ kept,
          waiting.1.nameIdentity casing ≠ entry.nameIdentity casing := by
        intro waiting member same
        rw [identities, List.map_append, List.nodup_append] at distinct
        exact distinct.2.2 _
          (List.mem_map_of_mem (List.mem_map_of_mem member)) _
          (List.mem_map_of_mem List.mem_cons_self) same
      rw [batchSafeLoop] at ran
      split at ran
      · rename_i dropped
        have tailDistinct :
            (identities casing (kept.map Prod.fst ++ entries)).Nodup :=
          distinct.sublist (((List.sublist_cons_self entry entries).append_left
            (kept.map Prod.fst)).map _)
        obtain ⟨run, noOwn, sameCreated, sublist⟩ :=
          @induction store state.skip kept fresh tailDistinct ran
        have first : MachineStep casing candidates tombstones ctx
            (Machine.of store state ((entry :: entries) ++ rest) kept)
            (Machine.of store state.skip (entries ++ rest) kept) :=
          .skip rfl (by rw [sameConflicts]; exact dropped) alone
        exact ⟨.head first run, noOwn, sameCreated,
          sublist.trans ((List.sublist_cons_self entry entries).append_left
            (kept.map Prod.fst))⟩
      · rename_i notDropped
        obtain ⟨between, closed, tail⟩ := bind_eq_ok.mp ran
        obtain ⟨differs, live⟩ :=
          Bool.or_eq_false_iff.mp (Bool.not_eq_true _ ▸ notDropped)
        have shifted : (kept ++ [(entry, conflicts)]).map Prod.fst ++ entries =
            kept.map Prod.fst ++ (entry :: entries) := by
          simp
        obtain ⟨run, noOwn, sameCreated, sublist⟩ :=
          @induction between (state.closeStored conflicts)
            (kept ++ [(entry, conflicts)]) fresh
            (by rw [shifted]; exact distinct) tail
        have first : MachineStep casing candidates tombstones ctx
            (Machine.of store state ((entry :: entries) ++ rest) kept)
            (Machine.supersede casing candidates
              (Machine.of store state ((entry :: entries) ++ rest) kept) entry
              (entries ++ rest) between) :=
          .supersede rfl (by rw [sameConflicts]; exact differs) live alone
            (by rw [sameConflicts]; exact closed)
        have target : Machine.supersede casing candidates
              (Machine.of store state ((entry :: entries) ++ rest) kept) entry
              (entries ++ rest) between =
            Machine.of between (state.closeStored conflicts) (entries ++ rest)
              (kept ++ [(entry, conflicts)]) :=
          Machine.supersede_of_fresh fresh ..
        rw [target] at first
        exact ⟨.head first run, noOwn, sameCreated, by rw [← shifted]; exact sublist⟩

theorem persistRows_run {kept : List (Entry × List Fact)} {rest : List Entry}
    {store store' : FactStore} (state : BatchState) {inserted : List Fact}
    (distinct : (identities casing (kept.map Prod.fst)).Nodup)
    (unmet : ∀ fact ∈ state.created,
      nameIdentityOfFact casing fact ∉ identities casing (kept.map Prod.fst))
    (later : ∀ entry ∈ rest,
      entry.nameIdentity casing ∉ identities casing (kept.map Prod.fst))
    (alive : ∀ entry ∈ kept.map Prod.fst,
      StartsBefore (some entry.validFrom) entry.validTo)
    (persisted : persistRows ctx (kept.map Prod.fst) store = .ok (inserted, store')) :
    MachineRun casing candidates tombstones ctx
      (Machine.of store state rest kept)
      (Machine.of store'
        (pairKept casing kept { state with created := state.created ++ inserted })
        rest []) := by
  induction kept generalizing store state inserted with
  | nil =>
      cases persisted
      simpa [pairKept] using Relation.ReflTransGen.refl
  | cons waiting kept induction =>
      obtain ⟨entry, oldFacts⟩ := waiting
      obtain ⟨⟨first, between⟩, head, tail⟩ := bind_eq_ok.mp persisted
      obtain ⟨⟨others, last⟩, persistedRest, result⟩ := bind_eq_ok.mp tail
      cases result
      simp only [identities, List.map_cons, List.nodup_cons] at distinct
      have laterTail : ∀ entry ∈ rest,
          entry.nameIdentity casing ∉ identities casing (kept.map Prod.fst) :=
        fun entry member found =>
          later entry member (List.mem_cons_of_mem _ found)
      have aliveTail : ∀ entry ∈ kept.map Prod.fst,
          StartsBefore (some entry.validFrom) entry.validTo :=
        fun entry member => alive entry (List.mem_cons_of_mem _ member)
      have notBefore : ∀ fact ∈ state.created,
          nameIdentityOfFact casing fact ≠ entry.nameIdentity casing := by
        intro fact member same
        exact unmet fact member (by rw [same]; exact List.mem_cons_self)
      have createdOther : bucketByName casing state.created
          (entry.nameIdentity casing) = [] :=
        bucketByName_eq_nil notBefore
      cases first with
      | none =>
          have othersElsewhere : bucketByName casing others
              (entry.nameIdentity casing) = [] := by
            apply bucketByName_eq_nil
            intro fact member same
            exact distinct.1 (same ▸ persistRows_identity casing persistedRest member)
          have unpaired : bucketByName casing (state.created ++ others)
              (entry.nameIdentity casing) = [] := by
            rw [bucketByName_append, createdOther, othersElsewhere, List.append_nil]
          have run := induction state distinct.2
            (fun fact member found =>
              unmet fact member (List.mem_cons_of_mem _ found))
            laterTail aliveTail persistedRest
          have step : MachineStep casing candidates tombstones ctx
              (Machine.of store state rest ((entry, oldFacts) :: kept))
              (Machine.of between state rest kept) :=
            .suppress rfl head
          simpa [pairKept, unpaired] using Relation.ReflTransGen.head step run
      | some fact =>
          have identity := nameIdentityOfFact_inserted casing head
          have paired : (bucketByName casing (state.created ++ fact :: others)
              (entry.nameIdentity casing)).head? = some fact := by
            rw [bucketByName_append, createdOther, bucketByName_cons_self others identity]
            rfl
          have unmetTail : ∀ row ∈ state.created ++ [fact],
              nameIdentityOfFact casing row ∉ identities casing (kept.map Prod.fst) := by
            intro row member
            rcases List.mem_append.mp member with old | new
            · exact fun found => unmet row old (List.mem_cons_of_mem _ found)
            · rw [List.mem_singleton.mp new, identity]
              exact distinct.1
          have run := induction
            (BatchState.recordTransitions
              { state with created := state.created ++ [fact] } entry oldFacts fact)
            distinct.2 unmetTail laterTail aliveTail persistedRest
          have step : MachineStep casing candidates tombstones ctx
              (Machine.of store state rest ((entry, oldFacts) :: kept))
              (Machine.of between
                (BatchState.recordTransitions
                  { state with created := state.created ++ [fact] } entry oldFacts fact)
                rest kept) :=
            .persist rfl (alive entry List.mem_cons_self) head (.inr ⟨rfl, fun other member same =>
              later other member (same ▸ List.mem_cons_self)⟩)
          simpa [pairKept, paired, BatchState.recordTransitions] using
            Relation.ReflTransGen.head step run

theorem supersedeSequential_run {entries : List Entry} {store store' : FactStore}
    {state state' : BatchState}
    (ran : supersedeSequential casing candidates tombstones ctx entries store state =
      .ok (store', state')) :
    MachineRun casing candidates tombstones ctx
      (Machine.of store state entries []) (Machine.of store' state' [] []) := by
  induction entries generalizing store state with
  | nil =>
      cases ran
      exact .refl
  | cons entry entries induction =>
      let identity := entry.nameIdentity casing
      let conflicts := matchingConflicts casing entry
        (candidates identity ++ state.inBatch identity) state.closedIds
      rw [supersedeSequential] at ran
      split at ran
      · rename_i dropped
        have step : MachineStep casing candidates tombstones ctx
            (Machine.of store state (entry :: entries) [])
            (Machine.of store state.skip entries []) :=
          .skip rfl dropped (by simp [Machine.of])
        exact .head step (induction ran)
      · rename_i notDropped
        obtain ⟨between, closed, tail⟩ := bind_eq_ok.mp ran
        obtain ⟨⟨inserted, after⟩, insertion, continuation⟩ := bind_eq_ok.mp tail
        obtain ⟨_, passed, persisted⟩ := bind_eq_ok.mp insertion
        obtain ⟨⟨first, last⟩, persistedRow, rows⟩ := bind_eq_ok.mp persisted
        obtain ⟨differs, live⟩ :=
          Bool.or_eq_false_iff.mp (Bool.not_eq_true _ ▸ notDropped)
        have step : MachineStep casing candidates tombstones ctx
            (Machine.of store state (entry :: entries) [])
            (Machine.of between (state.closeTracked identity conflicts) entries
              [(entry, conflicts)]) :=
          .supersede rfl differs live (by simp [Machine.of]) closed
        simp only [persistRows, bind, Except.bind, List.append_nil,
          Except.ok.injEq, Prod.mk.injEq] at rows
        obtain ⟨rfl, rfl⟩ := rows
        cases first with
        | none =>
            have suppressed : MachineStep casing candidates tombstones ctx
                (Machine.of between (state.closeTracked identity conflicts) entries
                  [(entry, conflicts)])
                (Machine.of last (state.closeTracked identity conflicts) entries []) :=
              .suppress rfl persistedRow
            exact .head step (.head suppressed (induction continuation))
        | some fact =>
            have tracked : MachineStep casing candidates tombstones ctx
                (Machine.of between (state.closeTracked identity conflicts) entries
                  [(entry, conflicts)])
                (Machine.of last
                  (((state.closeTracked identity conflicts).track identity
                    [fact]).recordTransitions entry conflicts fact) entries []) :=
              .persist rfl (bornDeadGuard_ok passed entry List.mem_cons_self)
                persistedRow (.inl rfl)
            exact .head step (.head tracked (induction continuation))

end

theorem identityCount_eq_count (casing : Casing) (entries : List Entry)
    (identity : NameIdentity) :
    identityCount casing entries identity = (identities casing entries).count identity := by
  simp only [identityCount, identities, List.count, List.countP_map]
  apply List.countP_congr
  intro entry _member
  simp

theorem nodup_batchEntries (casing : Casing) (entries : List Entry) :
    (identities casing (batchEntries casing entries)).Nodup := by
  rw [List.nodup_iff_count_le_one]
  intro identity
  by_cases member : identity ∈ identities casing (batchEntries casing entries)
  · obtain ⟨entry, entryMember, rfl⟩ := List.mem_map.mp member
    have once := (List.mem_filter.mp entryMember).2
    rw [decide_eq_true_eq, identityCount_eq_count] at once
    rw [← once]
    exact (List.filter_sublist.map _).count_le _
  · rw [List.count_eq_zero_of_not_mem member]
    exact Nat.zero_le 1

theorem sequential_not_mem_batch (casing : Casing) (entries : List Entry)
    {entry : Entry} (member : entry ∈ sequentialEntries casing entries) :
    entry.nameIdentity casing ∉ identities casing (batchEntries casing entries) := by
  intro found
  obtain ⟨other, otherMember, same⟩ := List.mem_map.mp found
  have once := (List.mem_filter.mp otherMember).2
  have repeated := (List.mem_filter.mp member).2
  rw [decide_eq_true_eq] at once repeated
  rw [same] at once
  omega

/-- The order in which the two paths examine the entries. -/
def scheduled (casing : Casing) (entries : List Entry) : List Entry :=
  batchEntries casing entries ++ sequentialEntries casing entries

theorem mem_scheduled {casing : Casing} {entries : List Entry} {entry : Entry}
    (member : entry ∈ scheduled casing entries) : entry ∈ entries := by
  rcases List.mem_append.mp member with batch | sequential
  · exact (List.mem_filter.mp batch).1
  · exact (List.mem_filter.mp sequential).1

/-- The machine before the first entry is examined. -/
def Machine.start (store : FactStore) (entries : List Entry) : Machine :=
  Machine.of store BatchState.initial entries []

/-- Successful writes are a complete run of the machine followed by the
lineage writes, whatever the scans returned. -/
theorem ingestScanned_run {casing : Casing} {collaborators : Collaborators}
    {store : FactStore} {call : IngestCall} {candidates tombstones : NameIdentity → List Fact}
    {outcome : IngestOutcome}
    (ingested : ingestScanned casing collaborators store call candidates tombstones =
      .ok outcome) :
    ∃ final : Machine,
      MachineRun casing candidates tombstones call.ctx
        (Machine.start store (scheduled casing (call.entries casing))) final ∧
      final.remaining = [] ∧ final.pending = [] ∧
      outcome.result.created = final.created ∧
      outcome.result.superseded = final.superseded ∧
      outcome.events = final.events ∧
      ∃ episodes, recordLineage call.orgId call.projectId call.now episodes
        final.events final.store = .ok outcome.store := by
  obtain ⟨⟨batchStore, batchState⟩, batch, afterBatch⟩ := bind_eq_ok.mp ingested
  obtain ⟨⟨lastStore, lastState⟩, sequential, afterSequential⟩ :=
    bind_eq_ok.mp afterBatch
  obtain ⟨lineageStore, lineage, result⟩ := bind_eq_ok.mp afterSequential
  cases result
  obtain ⟨⟨loopStore, loopState, kept⟩, loop, afterLoop⟩ := bind_eq_ok.mp batch
  obtain ⟨⟨inserted, insertedStore⟩, insertion, paired⟩ := bind_eq_ok.mp afterLoop
  obtain ⟨_, passed, persisted⟩ := bind_eq_ok.mp insertion
  cases paired
  have distinct := nodup_batchEntries casing (call.entries casing)
  obtain ⟨examine, _, sameCreated, sublist⟩ := batchSafeLoop_run
    (sequentialEntries casing (call.entries casing)) rfl
    (by simpa using distinct) loop
  have keptSublist : (identities casing (kept.map Prod.fst)).Sublist
      (identities casing (batchEntries casing (call.entries casing))) :=
    (by simpa using sublist : (kept.map Prod.fst).Sublist _).map _
  have insert : MachineRun casing candidates tombstones call.ctx
      (Machine.of loopStore loopState
        (sequentialEntries casing (call.entries casing)) kept) _ :=
    persistRows_run loopState (distinct.sublist keptSublist)
      (by rw [sameCreated]; simp [BatchState.initial])
      (fun entry member found =>
        sequential_not_mem_batch casing _ member (keptSublist.subset found))
      (bornDeadGuard_ok passed) persisted
  have alternate := supersedeSequential_run sequential
  exact ⟨_, (examine.trans insert).trans alternate, rfl, rfl, rfl, rfl, rfl, _, lineage⟩

theorem ingest_run {casing : Casing} {collaborators : Collaborators}
    {store : FactStore} {call : IngestCall} {outcome : IngestOutcome}
    (ingested : ingestWithSupersession casing collaborators store call = .ok outcome) :
    ∃ final : Machine,
      MachineRun casing (call.candidates casing store) (call.tombstones casing store)
        call.ctx (Machine.start store (scheduled casing (call.entries casing))) final ∧
      final.remaining = [] ∧ final.pending = [] ∧
      outcome.result.created = final.created ∧
      outcome.result.superseded = final.superseded ∧
      outcome.events = final.events ∧
      ∃ episodes, recordLineage call.orgId call.projectId call.now episodes
        final.events final.store = .ok outcome.store := by
  unfold ingestWithSupersession at ingested
  split at ingested
  · rename_i noFacts
    cases ingested
    have noEntries : call.entries casing = [] := by
      simp [IngestCall.entries, IngestCall.prepared, noFacts, dedupEntries]
    refine ⟨Machine.start store [], ?_, rfl, rfl, rfl, rfl, rfl, fun _ => none, rfl⟩
    rw [noEntries]
    exact .refl
  · exact ingestScanned_run ingested

end OpenZync.Facts
