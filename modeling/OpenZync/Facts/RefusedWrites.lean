import OpenZync.Facts.Assertions

/-!
# Where an ingest stops

A batch that skips the rows the constraint keeps out stops at two statements
only: the database refuses to end a superseded row, or the guard before an insert
finds an entry that ends before it starts.  Which of the two comes first is read
off the assertions of the call.
-/

namespace OpenZync.Facts

open OpenZync.Library

/-- A range cut at `now` overlaps what it overlapped before, and what a range cut
earlier overlaps. -/
theorem excludes_closedAt_append {left right : Fact} {first : List Uuid} (rest : List Uuid)
    {now : Time} (excluded : (left.closedAt first now).Excludes (right.closedAt first now))
    (apart : ¬ left.Excludes right) :
    (left.closedAt (first ++ rest) now).Excludes (right.closedAt (first ++ rest) now) := by
  by_cases leftFirst : left.id ∈ first
  · by_cases rightFirst : right.id ∈ first
    · simpa [Fact.closedAt, leftFirst, rightFirst] using excluded
    · by_cases rightRest : right.id ∈ rest
      · simp only [Fact.closedAt, leftFirst, rightFirst, if_true, if_false] at excluded
        obtain ⟨valid, otherValid, episode, subject, predicate, object, range, _, _, cut⟩ :=
          excluded
        simp only [Fact.closedAt, List.mem_append, leftFirst, rightRest, true_or, or_true, if_true]
        exact ⟨valid, otherValid, episode, subject, predicate, object, range, cut, range, cut⟩
      · simpa [Fact.closedAt, leftFirst, rightFirst, rightRest] using excluded
  · by_cases rightFirst : right.id ∈ first
    · by_cases leftRest : left.id ∈ rest
      · simp only [Fact.closedAt, leftFirst, rightFirst, if_true, if_false] at excluded
        obtain ⟨valid, otherValid, episode, subject, predicate, object, _, range, cut, _⟩ :=
          excluded
        simp only [Fact.closedAt, List.mem_append, rightFirst, leftRest, true_or, or_true, if_true]
        exact ⟨valid, otherValid, episode, subject, predicate, object, cut, range, cut, range⟩
      · simpa [Fact.closedAt, leftFirst, rightFirst, leftRest] using excluded
    · simp only [Fact.closedAt, leftFirst, rightFirst, if_false] at excluded
      exact absurd excluded apart

/-- The rows satisfy the constraints of the table once the listed ones are ended. -/
def FactStore.CanClose (store : FactStore) (ids : List Uuid) (now : Time) : Prop :=
  (∀ fact ∈ store.facts, fact.invalidAt = none → (fact.closedAt ids now).RangeOrdered) ∧
    store.facts.Pairwise fun left right =>
      ¬ (left.closedAt ids now).Excludes (right.closedAt ids now)

theorem Fact.closedAt_invalidAt (fact : Fact) (ids : List Uuid) (now : Time) :
    (fact.closedAt ids now).invalidAt = fact.invalidAt := by
  unfold Fact.closedAt
  split <;> rfl

/-- When the rows can all be ended, each statement on the way goes through. -/
theorem closeConflicts_exists {now : Time} {conflicts : List Fact} {store : FactStore}
    (possible : store.CanClose (conflicts.map Fact.id) now) :
    ∃ store', closeConflicts now conflicts store = .ok store' := by
  induction conflicts generalizing store with
  | nil => exact ⟨store, rfl⟩
  | cons conflict conflicts induction =>
      obtain ⟨ranges, apart⟩ := possible
      have all : (conflict :: conflicts).map Fact.id =
          [conflict.id] ++ conflicts.map Fact.id := rfl
      have rewritten : FactStore.rewrite store.facts conflict.id
            (fun fact => { fact with validTo := some now }) =
          store.facts.map (Fact.closedAt · [conflict.id] now) := by
        rw [FactStore.rewrite]
        apply List.map_congr_left
        intro fact _
        simp [Fact.closedAt]
      obtain ⟨next, closed⟩ : ∃ next, store.setValidTo conflict.id now = .ok next := by
        apply FactStore.update_exists
        · rw [rewritten]
          intro fact member valid
          obtain ⟨original, stored, rfl⟩ := List.mem_map.mp member
          rw [Fact.closedAt_invalidAt] at valid
          by_cases named : original.id = conflict.id
          · simpa [Fact.closedAt, named] using ranges original stored valid
          · simpa [Fact.closedAt, named] using store.ranges original stored valid
        · rw [rewritten, List.pairwise_map]
          refine List.Pairwise.imp ?_ (apart.and store.temporalExcl)
          intro left right both excluded
          apply both.1
          rw [all]
          exact excludes_closedAt_append _ excluded both.2
      have nextFacts : next.facts = store.facts.map (Fact.closedAt · [conflict.id] now) :=
        (FactStore.update_ok closed).1.trans rewritten
      obtain ⟨last, rest⟩ := @induction next (by
        constructor
        · rw [nextFacts]
          intro fact member valid
          obtain ⟨original, stored, rfl⟩ := List.mem_map.mp member
          rw [Fact.closedAt_invalidAt] at valid
          rw [Fact.closedAt_closedAt, ← all]
          exact ranges original stored valid
        · rw [nextFacts, List.pairwise_map]
          refine apart.imp fun admitted => ?_
          simp only [Fact.closedAt_closedAt, ← all]
          exact admitted)
      refine ⟨last, ?_⟩
      simp only [closeConflicts, closed, bind, Except.bind]
      exact rest

/-- Rows that are effective can be ended. -/
theorem admissible_closedFor {casing : Casing} {ctx : BatchCtx} {view : List Slot} (entry : Entry)
    (admissible : Admissible view)
    (effective : ∀ slot ∈ view, slot.live = true → slot.fact.EffectiveAt ctx.now) :
    Admissible (closedFor casing ctx view entry) := by
  have live : ∀ slot : Slot, slot.hit casing entry = true → slot.live = true := by
    intro slot hit
    rw [Slot.hit, Bool.and_eq_true] at hit
    exact hit.1
  -- Ending an effective row leaves a part of its range.
  have shorter : ∀ slot ∈ view, ∀ fact : Fact,
      StartsBefore fact.validFrom (slot.close casing ctx.now entry).fact.validTo →
        StartsBefore fact.validFrom slot.fact.validTo := by
    intro slot member fact starts
    by_cases hit : slot.hit casing entry = true
    · rw [Slot.close, if_pos hit] at starts
      intro start isStart stop isStop
      exact (starts start isStart ctx.now rfl).trans
        ((effective slot member (live slot hit)).2.2 stop isStop)
    · rwa [Slot.close, if_neg hit] at starts
  have begun : ∀ slot : Slot, (slot.close casing ctx.now entry).fact.validFrom =
      slot.fact.validFrom := by
    intro slot
    rw [Slot.close]
    split <;> rfl
  constructor
  · intro slot member valid
    obtain ⟨original, found, rfl⟩ := List.mem_map.mp member
    by_cases hit : original.hit casing entry = true
    · rw [Slot.close, if_pos hit]
      intro start isStart stop isStop
      cases isStop
      exact (effective original found (live original hit)).2.1 start isStart
    · rw [Slot.close, if_neg hit] at valid ⊢
      exact admissible.1 original found valid
  · rw [closedFor, List.pairwise_map]
    refine admissible.2.imp_of_mem ?_
    intro left right leftMember rightMember apart excluded
    apply apart
    have fields : ∀ slot : Slot, ∃ stop, (slot.close casing ctx.now entry).fact =
        { slot.fact with validTo := stop } := by
      intro slot
      rw [Slot.close]
      split
      · exact ⟨_, rfl⟩
      · exact ⟨slot.fact.validTo, rfl⟩
    obtain ⟨valid, otherValid, episode, subject, predicate, object, leftRange, rightRange,
      leftFirst, rightFirst⟩ := excluded
    rw [begun] at leftRange rightRange leftFirst rightFirst
    have ranges : left.fact.RangesOverlap right.fact :=
      ⟨shorter left leftMember _ leftRange, shorter right rightMember _ rightRange,
        shorter right rightMember _ leftFirst, shorter left leftMember _ rightFirst⟩
    obtain ⟨leftStop, leftFields⟩ := fields left
    obtain ⟨rightStop, rightFields⟩ := fields right
    rw [leftFields] at valid episode subject predicate object
    rw [rightFields] at otherValid episode subject predicate object
    exact ⟨valid, otherValid, episode, subject, predicate, object, ranges⟩

section

variable {casing : Casing} {candidates tombstones : NameIdentity → List Fact} {ctx : BatchCtx}
variable {origin : FactStore} {entries : List Entry} {machine : Machine}

theorem MachineLedger.closeConflicts_iff
    (ledger : MachineLedger casing candidates tombstones ctx origin entries machine)
    (scanned : Scanned casing origin candidates) (entry : Entry) :
    (∃ store, closeConflicts ctx.now (machine.conflicts casing candidates entry) machine.store =
        .ok store) ↔
      Admissible (closedFor casing ctx
        (machine.view casing candidates (entry.nameIdentity casing)) entry) := by
  constructor
  · rintro ⟨store, closed⟩
    rw [← @MachineLedger.view_supersede casing candidates tombstones ctx origin entries machine
      ledger scanned entry [] store closed]
    exact view_admissible _
  · rintro ⟨ranges, apart⟩
    let ids := (machine.conflicts casing candidates entry).map Fact.id
    let slotOf := fun fact : Fact => (⟨fact.anonymous,
      machine.isOpen candidates (entry.nameIdentity casing) fact⟩ : Slot)
    -- The slot of a row is closed together with the row.
    have closing : ∀ fact ∈ machine.store.facts,
        nameIdentityOfFact casing fact = entry.nameIdentity casing →
          ((slotOf fact).close casing ctx.now entry).fact = (fact.closedAt ids ctx.now).anonymous := by
      intro fact stored named
      have bucketed := mem_bucketByName.mpr ⟨stored, named⟩
      have hit : (slotOf fact).hit casing entry = decide (fact.id ∈ ids) := by
        rw [Bool.eq_iff_iff, decide_eq_true_iff, ledger.mem_conflict_ids scanned bucketed]
        simp [slotOf, Slot.hit]
      rw [Slot.close, hit, Fact.closedAt]
      by_cases found : fact.id ∈ ids
      · simp [found, slotOf, Fact.anonymous]
      · simp [found, slotOf]
    have elsewhere : ∀ fact ∈ machine.store.facts,
        nameIdentityOfFact casing fact ≠ entry.nameIdentity casing →
          fact.closedAt ids ctx.now = fact := by
      intro fact stored other
      have bucketed : fact ∈ bucketByName casing machine.store.facts
          (nameIdentityOfFact casing fact) := mem_bucketByName.mpr ⟨stored, rfl⟩
      have missed : fact.id ∉ ids := fun found =>
        other ((ledger.mem_conflict_ids scanned bucketed).mp found).1
      rw [Fact.closedAt, if_neg missed]
    apply closeConflicts_exists
    constructor
    · intro fact stored valid
      by_cases named : nameIdentityOfFact casing fact = entry.nameIdentity casing
      · have closed := ranges ((slotOf fact).close casing ctx.now entry)
          (List.mem_map_of_mem (List.mem_map_of_mem (mem_bucketByName.mpr ⟨stored, named⟩)))
        rw [closing fact stored named] at closed
        exact closed ((fact.closedAt_invalidAt ids ctx.now).trans valid)
      · rw [elsewhere fact stored named]
        exact machine.store.ranges fact stored valid
    · rw [closedFor, Machine.view, List.pairwise_map, List.pairwise_map, bucketByName,
        List.pairwise_filter] at apart
      refine (apart.and machine.store.temporalExcl).imp_of_mem ?_
      rintro left right leftStored rightStored ⟨bucketApart, storeApart⟩ excluded
      have same := excluded.identity casing
      rw [nameIdentityOfFact_closedAt, nameIdentityOfFact_closedAt] at same
      by_cases named : nameIdentityOfFact casing left = entry.nameIdentity casing
      · have rightNamed := same.symm.trans named
        apply bucketApart (by simpa using named) (by simpa using rightNamed)
        rw [closing left leftStored named, closing right rightStored rightNamed]
        exact excluded
      · rw [elsewhere left leftStored named,
          elsewhere right rightStored (fun other => named (same.trans other))] at excluded
        exact storeApart excluded

theorem persistRow_exists (mode : ctx.insertMode = .batchCreateOrSkip) {entry : Entry}
    (alive : entry.Alive) (store : FactStore) :
    ∃ result, persistRow ctx store entry = .ok result := by
  have ordered : (entry.toFact ctx.orgId ctx.projectId ctx.userId
      ctx.sourceEpisodeId).RangeOrdered := by
    intro start isStart stop isStop
    exact (alive start isStart stop isStop).le
  unfold persistRow
  rw [mode]
  simp only [createOrSkipRow, FactStore.insert, dif_pos fun _ => ordered]
  split
  · exact ⟨_, rfl⟩
  · exact ⟨_, rfl⟩
  · rename_i raised
    split at raised <;> cases raised
    contradiction

theorem persistRows_exists (mode : ctx.insertMode = .batchCreateOrSkip) {entries : List Entry}
    (alive : ∀ entry ∈ entries, entry.Alive) (store : FactStore) :
    ∃ result, persistRows ctx entries store = .ok result := by
  induction entries generalizing store with
  | nil => exact ⟨_, rfl⟩
  | cons entry entries induction =>
      obtain ⟨⟨first, next⟩, persisted⟩ :=
        persistRow_exists mode (alive entry List.mem_cons_self) store
      obtain ⟨⟨rest, last⟩, persistedRest⟩ :=
        induction (fun other member => alive other (List.mem_cons_of_mem _ member)) next
      refine ⟨(first.toList ++ rest, last), ?_⟩
      simp only [persistRows, persisted, persistedRest, bind, Except.bind]

end

section

variable {casing : Casing} {candidates tombstones : NameIdentity → List Fact} {ctx : BatchCtx}
variable {origin : FactStore} {entries : List Entry} {machine : Machine}
variable {views : NameIdentity → List Slot} {all done : NameIdentity → List Entry}

/-- The validation error of the guard was raised. -/
def RaisesBornDead {α : Type} (result : Except FactError α) : Prop :=
  ∃ subject predicate object, result = .error (.bornDead subject predicate object)

theorem not_raisesBornDead {α : Type} {result : Except FactError α} (avoids : NotBornDead result) :
    ¬ RaisesBornDead result := by
  rintro ⟨_, _, _, raised⟩
  exact avoids _ raised trivial

theorem raisesBornDead_bind_ok {α β : Type} {first : Except FactError α} {value : α}
    (succeeded : first = .ok value) (next : α → Except FactError β) :
    RaisesBornDead (first >>= next) ↔ RaisesBornDead (next value) := by
  rw [succeeded]
  rfl

theorem raisesBornDead_guard (entries : List Entry) :
    RaisesBornDead (bornDeadGuard entries) ↔ ∃ entry ∈ entries, ¬ entry.Alive := by
  induction entries with
  | nil => simp [bornDeadGuard, RaisesBornDead]
  | cons entry entries induction =>
      by_cases alive : entry.Alive
      · have rest : bornDeadGuard (entry :: entries) = bornDeadGuard entries := by
          rw [bornDeadGuard]
          cases ends : entry.validTo with
          | none => rfl
          | some stop =>
              have starts := alive entry.validFrom rfl stop ends
              simp only [if_neg (not_le_of_gt starts)]
        rw [rest, induction]
        simp [alive]
      · refine iff_of_true ?_ ⟨entry, List.mem_cons_self, alive⟩
        refine ⟨entry.subject, entry.predicate, entry.object, ?_⟩
        rw [bornDeadGuard]
        cases ends : entry.validTo with
        | none => simp [Entry.Alive, StartsBefore, ends] at alive
        | some stop =>
            have reversed : stop ≤ entry.validFrom := by
              simpa [Entry.Alive, StartsBefore, ends] using alive
            simp only [if_pos reversed]

theorem supersedeSequential_raises_iff (mode : ctx.insertMode = .batchCreateOrSkip)
    (scanned : Scanned casing origin candidates) {remaining : List Entry} {store : FactStore}
    {state : BatchState}
    (ledger : MachineLedger casing candidates tombstones ctx origin entries
      (Machine.of store state remaining []))
    (simulation : Simulation casing candidates tombstones ctx views all done
      (Machine.of store state remaining [])) :
    RaisesBornDead (supersedeSequential casing candidates tombstones ctx remaining store state) ↔
      ∃ assertion ∈ assertions casing tombstones ctx
        (asserted casing tombstones ctx views done) remaining, ¬ assertion.entry.Alive := by
  induction remaining generalizing store state done with
  | nil => simp [supersedeSequential, RaisesBornDead, assertions]
  | cons entry remaining induction =>
      let identity := entry.nameIdentity casing
      let conflicts := matchingConflicts casing entry
        (candidates identity ++ state.inBatch identity) state.closedIds
      have head : (Machine.of store state (entry :: remaining) []).remaining =
          entry :: remaining := rfl
      have sameConflicts : (Machine.of store state (entry :: remaining) []).conflicts casing
          candidates entry = conflicts := rfl
      have alone : ∀ waiting ∈ (Machine.of store state (entry :: remaining) []).pending,
          waiting.1.nameIdentity casing ≠ entry.nameIdentity casing := by
        simp [Machine.of]
      obtain ⟨_, view⟩ := (simulation identity).examined rfl alone
      have dropped := ledger.dropped_eq scanned entry
      rw [view, sameConflicts] at dropped
      have closable := ledger.closeConflicts_iff scanned entry
      rw [view, sameConflicts] at closable
      rw [supersedeSequential, assertions]
      dsimp only
      rw [← dropped]
      by_cases isDropped : (hasIdenticalContent entry conflicts ||
          isTombstoned casing tombstones entry) = true
      · obtain ⟨droppedView, simulated⟩ :=
          simulation.skip ledger scanned rfl isDropped alone
        rw [if_pos isDropped, if_pos isDropped, ← asserted_advance_dropped droppedView]
        exact @induction (advance casing done entry) store state.skip (ledger.skip head) simulated
      · rw [if_neg isDropped, if_neg isDropped]
        obtain ⟨differs, live⟩ := Bool.or_eq_false_iff.mp (Bool.not_eq_true _ ▸ isDropped)
        by_cases admissible : Admissible (closedFor casing ctx
            (asserted casing tombstones ctx views done identity) entry)
        · obtain ⟨closed, closing⟩ := closable.mpr admissible
          have ledgerClosed := ledger.supersede scanned head live closing
          have simulated := simulation.supersede ledger scanned head differs live alone closing
          rw [if_pos admissible, ← asserted_advance]
          refine (raisesBornDead_bind_ok closing _).trans ?_
          by_cases alive : entry.Alive
          · have guarded : bornDeadGuard [entry] = .ok () :=
              bornDeadGuard_of_alive (by simpa using alive)
            obtain ⟨⟨first, last⟩, persisted⟩ := persistRow_exists mode alive closed
            have insertion : insertRows ctx [entry] closed = .ok (first.toList, last) := by
              simp [insertRows, guarded, persistRows, persisted, bind, Except.bind]
            refine (raisesBornDead_bind_ok insertion _).trans ?_
            simp only [List.mem_cons, exists_eq_or_imp, alive, not_true_eq_false, false_or]
            cases first with
            | none =>
                exact induction (ledgerClosed.suppress rfl persisted)
                  (simulated.suppress rfl persisted).2
            | some fact =>
                exact induction (ledgerClosed.persist scanned rfl alive persisted (.inl rfl))
                  (simulated.persist rfl persisted (.inl rfl)).2
          · refine iff_of_true ?_ ⟨_, List.mem_cons_self, alive⟩
            obtain ⟨subject, predicate, object, raised⟩ :=
              (raisesBornDead_guard [entry]).mpr ⟨entry, List.mem_singleton_self _, alive⟩
            refine ⟨subject, predicate, object, ?_⟩
            simp only [insertRows, raised, bind, Except.bind]
        · rw [if_neg admissible]
          refine iff_of_false ?_ (by simp)
          rintro ⟨subject, predicate, object, raised⟩
          cases closing : closeConflicts ctx.now conflicts store with
          | error failure =>
              have refused := closeConflicts_notBornDead ctx.now conflicts store failure closing
              rw [show matchingConflicts casing entry (candidates (entry.nameIdentity casing) ++
                state.inBatch (entry.nameIdentity casing)) state.closedIds = conflicts from rfl,
                closing] at raised
              cases raised
              exact refused trivial
          | ok closed => exact admissible (closable.mp ⟨closed, closing⟩)

theorem raisesBornDead_bind {α β : Type} {first : Except FactError α}
    {next : α → Except FactError β} (avoids : ∀ value, NotBornDead (next value)) :
    RaisesBornDead (first >>= next) ↔ RaisesBornDead first := by
  cases first with
  | ok value =>
      refine iff_of_false (not_raisesBornDead (avoids value)) ?_
      rintro ⟨_, _, _, raised⟩
      cases raised
  | error failure =>
      constructor
      · rintro ⟨subject, predicate, object, raised⟩
        cases raised
        exact ⟨subject, predicate, object, rfl⟩
      · rintro ⟨subject, predicate, object, raised⟩
        cases raised
        exact ⟨subject, predicate, object, rfl⟩

/-- The conflicts of the batch-safe path are rows that the scan returned, so the
database ends all of them. -/
theorem batchSafeLoop_exists (scanned : Scanned casing origin candidates)
    (effective : ∀ identity, ∀ slot ∈ views identity, slot.live = true →
      slot.fact.EffectiveAt ctx.now)
    {remaining rest : List Entry} {store : FactStore} {state : BatchState}
    {kept : List (Entry × List Fact)} (fresh : state.inBatch = fun _ => [])
    (once : ∀ entry ∈ remaining, (all (entry.nameIdentity casing)).length = 1)
    (distinct : (identities casing (kept.map Prod.fst ++ remaining)).Nodup)
    (ledger : MachineLedger casing candidates tombstones ctx origin entries
      (Machine.of store state (remaining ++ rest) kept))
    (simulation : Simulation casing candidates tombstones ctx views all done
      (Machine.of store state (remaining ++ rest) kept)) :
    ∃ result, batchSafeLoop casing candidates tombstones ctx remaining store state kept =
      .ok result := by
  induction remaining generalizing store state kept done with
  | nil => exact ⟨_, rfl⟩
  | cons entry remaining induction =>
      let conflicts := matchingConflicts casing entry (candidates (entry.nameIdentity casing))
        state.closedIds
      have head : (Machine.of store state ((entry :: remaining) ++ rest) kept).remaining =
          entry :: (remaining ++ rest) := rfl
      have sameConflicts : (Machine.of store state ((entry :: remaining) ++ rest) kept).conflicts
          casing candidates entry = conflicts := Machine.conflicts_of_fresh fresh ..
      have alone : ∀ waiting ∈ kept,
          waiting.1.nameIdentity casing ≠ entry.nameIdentity casing := by
        intro waiting member same
        rw [identities, List.map_append, List.nodup_append] at distinct
        exact distinct.2.2 _ (List.mem_map_of_mem (List.mem_map_of_mem member)) _
          (List.mem_map_of_mem List.mem_cons_self) same
      have onceTail := fun other member => once other (List.mem_cons_of_mem entry member)
      rw [batchSafeLoop]
      by_cases dropped : (hasIdenticalContent entry conflicts ||
          isTombstoned casing tombstones entry) = true
      · rw [if_pos dropped]
        have distinctTail : (identities casing (kept.map Prod.fst ++ remaining)).Nodup :=
          distinct.sublist (((List.sublist_cons_self entry remaining).append_left _).map _)
        have simulated := (simulation.skip ledger scanned rfl
          (by rw [sameConflicts]; exact dropped) alone).2
        exact @induction _ store state.skip kept fresh onceTail distinctTail
          (ledger.skip head) simulated
      · obtain ⟨differs, live⟩ := Bool.or_eq_false_iff.mp (Bool.not_eq_true _ ▸ dropped)
        obtain ⟨split, view⟩ := (simulation (entry.nameIdentity casing)).examined rfl alone
        have untouched : done (entry.nameIdentity casing) = [] := by
          have length := congrArg List.length split
          rw [once entry List.mem_cons_self, List.length_append, List.length_cons] at length
          exact List.eq_nil_of_length_eq_zero (by omega)
        have start : (Machine.of store state ((entry :: remaining) ++ rest) kept).view casing
            candidates (entry.nameIdentity casing) = views (entry.nameIdentity casing) := by
          rw [view, asserted, untouched]
          rfl
        have admissible : Admissible (closedFor casing ctx
            ((Machine.of store state ((entry :: remaining) ++ rest) kept).view casing candidates
              (entry.nameIdentity casing)) entry) := by
          apply admissible_closedFor entry (view_admissible _)
          rw [start]
          exact effective _
        obtain ⟨closed, closing⟩ := (ledger.closeConflicts_iff scanned entry).mpr admissible
        have closingHere : closeConflicts ctx.now conflicts store = .ok closed := by
          rw [← sameConflicts]
          exact closing
        have distinctTail : (identities casing
            ((kept ++ [(entry, conflicts)]).map Prod.fst ++ remaining)).Nodup := by
          simpa using distinct
        have ledgerNext := ledger.supersede scanned head live closing
        have simulated := simulation.supersede ledger scanned head
          (by rw [sameConflicts]; exact differs) live alone closing
        rw [Machine.supersede_of_fresh fresh] at ledgerNext simulated
        obtain ⟨result, ran⟩ := @induction _ closed (state.closeStored conflicts)
          (kept ++ [(entry, conflicts)]) fresh onceTail distinctTail ledgerNext simulated
        refine ⟨result, ?_⟩
        rw [if_neg dropped]
        simp only [conflicts] at closingHere ran
        simp only [closingHere, bind, Except.bind]
        exact ran

end

/-- The live rows of a call are those that its scan found in force. -/
theorem IngestCall.view_effective (casing : Casing) (call : IngestCall) (store : FactStore)
    (identity : NameIdentity) :
    ∀ slot ∈ call.view casing store identity, slot.live = true →
      slot.fact.EffectiveAt call.now := by
  intro slot member live
  obtain ⟨fact, _, rfl⟩ := List.mem_map.mp member
  simp only [Bool.and_eq_true, decide_eq_true_eq] at live
  exact live.1.2

theorem length_entriesOf_batch {casing : Casing} {entries : List Entry} {entry : Entry}
    (member : entry ∈ batchEntries casing entries) :
    (entriesOf casing (entry.nameIdentity casing) entries).length = 1 := by
  have once := of_decide_eq_true (List.mem_filter.mp member).2
  rw [← once, identityCount, List.countP_eq_length_filter]
  rfl

/-- A batch that skips what the constraint keeps out fails with the validation
error exactly when it comes to the insert of an entry that ends before it starts. -/
theorem ingest_raises_iff {casing : Casing} {collaborators : Collaborators} {store : FactStore}
    {call : IngestCall} (mode : call.insertMode = .batchCreateOrSkip) :
    RaisesBornDead (ingestWithSupersession casing collaborators store call) ↔
      ∃ assertion ∈ call.assertions casing store, ¬ assertion.entry.Alive := by
  by_cases noFacts : call.facts = []
  · have noEntries : call.entries casing = [] := by
      simp [IngestCall.entries, IngestCall.prepared, noFacts, dedupEntries]
    simp [ingestWithSupersession, noFacts, RaisesBornDead, IngestCall.assertions, noEntries,
      scheduled, batchEntries, sequentialEntries, assertions]
  · have scanned := scanned_candidates casing call store
    have ledger := machineLedger_start casing call store
    have simulation := simulation_start casing call store
    have distinct := nodup_batchEntries casing (call.entries casing)
    obtain ⟨⟨loopStore, loopState, kept⟩, loop⟩ := batchSafeLoop_exists scanned
      (call.view_effective casing store) rfl (fun _ => length_entriesOf_batch)
      (by simpa using distinct) ledger simulation
    obtain ⟨examine, _, sameCreated, sublist⟩ := batchSafeLoop_run
      (sequentialEntries casing (call.entries casing)) rfl (by simpa using distinct) loop
    have keptSublist : (identities casing (kept.map Prod.fst)).Sublist
        (identities casing (batchEntries casing (call.entries casing))) :=
      (by simpa using sublist : (kept.map Prod.fst).Sublist _).map _
    obtain ⟨done, log, simulated, logged, _⟩ := assertionLog_run examine
    rw [ingestWithSupersession, if_neg noFacts, ingestScanned]
    dsimp only
    by_cases alive : ∀ entry ∈ kept.map Prod.fst, entry.Alive
    · obtain ⟨⟨inserted, insertedStore⟩, persisted⟩ :=
        @persistRows_exists call.ctx mode _ alive loopStore
      have insertion : insertRows call.ctx (kept.map Prod.fst) loopStore =
          .ok (inserted, insertedStore) := by
        simp only [insertRows, bornDeadGuard_of_alive alive, persisted, bind, Except.bind]
      have batch : supersedeBatchSafe casing (call.candidates casing store)
          (call.tombstones casing store) call.ctx (batchEntries casing (call.entries casing)) store
          BatchState.initial = .ok (insertedStore, pairKept casing kept
            { loopState with created := loopState.created ++ inserted }) := by
        simp only [supersedeBatchSafe, loop, insertion, bind, Except.bind]
      have insert := @persistRows_run casing (call.candidates casing store)
        (call.tombstones casing store) call.ctx kept
        (sequentialEntries casing (call.entries casing)) loopStore insertedStore loopState inserted
        (distinct.sublist keptSublist) (by rw [sameCreated]; simp [BatchState.initial])
        (fun entry member found =>
          sequential_not_mem_batch casing _ member (keptSublist.subset found))
        alive persisted
      have run := examine.trans insert
      obtain ⟨done', log', simulated', logged', _⟩ := assertionLog_run run
      refine (raisesBornDead_bind_ok batch _).trans ?_
      refine (raisesBornDead_bind ?_).trans ?_
      · rintro ⟨lastStore, lastState⟩
        exact Avoids.bind (recordLineage_notBornDead _ _ _ _ _ lastStore) fun _ _ => .ok _
      · rw [supersedeSequential_raises_iff mode scanned (ledger.run scanned run) simulated',
          IngestCall.assertions, logged'.split]
        simp only [Machine.of, List.map_nil, List.nil_append, List.mem_append]
        constructor
        · rintro ⟨assertion, member, dead⟩
          exact ⟨assertion, .inr member, dead⟩
        · rintro ⟨assertion, member | member, dead⟩
          · exact absurd (logged'.alive assertion member) dead
          · exact ⟨assertion, member, dead⟩
    · push Not at alive
      obtain ⟨entry, member, dead⟩ := alive
      refine iff_of_true ?_ ?_
      · obtain ⟨subject, predicate, object, raised⟩ :=
          (raisesBornDead_guard (kept.map Prod.fst)).mpr ⟨entry, member, dead⟩
        refine ⟨subject, predicate, object, ?_⟩
        simp only [supersedeBatchSafe, loop, insertRows, raised, bind, Except.bind]
      · obtain ⟨⟨entry, oldFacts⟩, waiting, rfl⟩ := List.mem_map.mp member
        exact ⟨_, logged.pending simulated waiting, dead⟩

end OpenZync.Facts
