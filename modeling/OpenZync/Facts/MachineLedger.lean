import OpenZync.Facts.SupersessionMachine

/-!
# What a run of the machine leaves behind

The store at any point of a run is the store it started from, followed by the
rows created so far, with `valid_to` written on the superseded ones.  The
bookkeeping fields are accounted for in the same invariant: which rows may be
closed, which are remembered in `inBatch`, and that no row is closed twice.
-/

namespace OpenZync.Facts

open OpenZync.Library

/-- `fact` is the row of `entry`, as the repository inserted it. -/
def RowOf (ctx : BatchCtx) (entry : Entry) (fact : Fact) : Prop :=
  fact = { rowFor ctx entry with id := fact.id }

/-- The buckets of one scan that returned rows of `origin`. -/
def Scanned (casing : Casing) (origin : FactStore)
    (candidates : NameIdentity → List Fact) : Prop :=
  ∃ scan : List Fact, scan ⊆ origin.facts ∧ (scan.map Fact.id).Nodup ∧
    candidates = bucketByName casing scan

namespace Scanned

variable {casing : Casing} {origin : FactStore}
  {candidates : NameIdentity → List Fact}

theorem stored (scanned : Scanned casing origin candidates) {identity : NameIdentity}
    {fact : Fact} (member : fact ∈ candidates identity) : fact ∈ origin.facts := by
  obtain ⟨scan, stored, _, rfl⟩ := scanned
  exact stored (List.mem_filter.mp member).1

theorem identity (scanned : Scanned casing origin candidates) {identity : NameIdentity}
    {fact : Fact} (member : fact ∈ candidates identity) :
    nameIdentityOfFact casing fact = identity := by
  obtain ⟨scan, _, _, rfl⟩ := scanned
  exact of_decide_eq_true (List.mem_filter.mp member).2

theorem below (scanned : Scanned casing origin candidates) {identity : NameIdentity}
    {fact : Fact} (member : fact ∈ candidates identity) : fact.id < origin.nextId :=
  origin.fresh fact (scanned.stored member)

theorem nodup (scanned : Scanned casing origin candidates) (identity : NameIdentity) :
    ((candidates identity).map Fact.id).Nodup := by
  obtain ⟨scan, _, distinct, rfl⟩ := scanned
  exact (List.filter_sublist.map _).nodup distinct

end Scanned

section

variable (casing : Casing)
variable (candidates tombstones : NameIdentity → List Fact)
variable (ctx : BatchCtx) (origin : FactStore) (entries : List Entry)

structure MachineLedger (machine : Machine) : Prop where
  facts : machine.store.facts =
    (origin.facts ++ machine.created).map
      (Fact.closedAt · machine.superseded ctx.now)
  events : machine.store.events = origin.events
  grown : origin.nextId ≤ machine.store.nextId
  created : ∀ fact ∈ machine.created,
    origin.nextId ≤ fact.id ∧ fact.id < machine.store.nextId ∧
      ∃ entry ∈ entries, isTombstoned casing tombstones entry = false ∧
        StartsBefore (some entry.validFrom) entry.validTo ∧ RowOf ctx entry fact
  remaining : ∀ entry ∈ machine.remaining, entry ∈ entries
  pending : ∀ waiting ∈ machine.pending, waiting.1 ∈ entries ∧
    isTombstoned casing tombstones waiting.1 = false
  inBatch : ∀ identity, ∀ fact ∈ machine.inBatch identity,
    fact ∈ machine.created ∧ fact.id ∉ machine.superseded ∧
      nameIdentityOfFact casing fact = identity
  inBatchNodup : ∀ identity, ((machine.inBatch identity).map Fact.id).Nodup
  closable : ∀ id ∈ machine.superseded,
    (id ∈ machine.closedIds ∧ ∃ identity, ∃ fact ∈ candidates identity, fact.id = id) ∨
      ∃ fact ∈ machine.created, fact.id = id
  closedIds : ∀ id ∈ machine.closedIds, id ∈ machine.superseded ∧ id < origin.nextId
  supersededNodup : machine.superseded.Nodup

end

namespace MachineLedger

variable {casing : Casing}
variable {candidates tombstones : NameIdentity → List Fact}
variable {ctx : BatchCtx} {origin : FactStore} {entries : List Entry}
variable {machine : Machine}

theorem start (order : List Entry)
    (scheduledEntries : ∀ entry ∈ order, entry ∈ entries) :
    MachineLedger casing candidates tombstones ctx origin entries
      (Machine.start origin order) := by
  refine
    { facts := ?_
      events := rfl
      grown := Nat.le_refl _
      created := ?_
      remaining := scheduledEntries
      pending := ?_
      inBatch := ?_
      inBatchNodup := ?_
      closable := ?_
      closedIds := ?_
      supersededNodup := List.nodup_nil } <;>
    simp [Machine.start, Machine.of, BatchState.initial, Fact.closedAt]

variable (ledger : MachineLedger casing candidates tombstones ctx origin entries machine)
include ledger

/-- The rows the machine accounts for have distinct identifiers. -/
theorem ids_nodup : ((origin.facts ++ machine.created).map Fact.id).Nodup := by
  have unique := machine.store.primaryKey
  rw [ledger.facts, List.map_map] at unique
  simpa [Function.comp_def] using unique

theorem mem_store {fact : Fact} (member : fact ∈ origin.facts ++ machine.created)
    (notSuperseded : fact.id ∉ machine.superseded) : fact ∈ machine.store.facts := by
  rw [ledger.facts]
  exact List.mem_map.mpr ⟨fact, member, by rw [Fact.closedAt, if_neg notSuperseded]⟩

variable (scanned : Scanned casing origin candidates)
include scanned

theorem conflict_cases {entry : Entry} {fact : Fact}
    (member : fact ∈ machine.conflicts casing candidates entry) :
    candidateConflicts casing entry fact = true ∧ fact.id ∉ machine.superseded ∧
      nameIdentityOfFact casing fact = entry.nameIdentity casing ∧
      ((fact ∈ candidates (entry.nameIdentity casing) ∧ fact ∈ origin.facts ∧
          fact.id ∉ machine.closedIds) ∨
        (fact ∈ machine.inBatch (entry.nameIdentity casing) ∧
          fact ∈ machine.created)) := by
  simp only [Machine.conflicts, matchingConflicts, List.mem_filter,
    List.mem_append, Bool.and_eq_true, Bool.not_eq_true', List.contains_eq_mem,
    decide_eq_false_iff_not] at member
  obtain ⟨scope, notClosed, conflicting⟩ := member
  refine ⟨conflicting, ?_⟩
  rcases scope with candidate | own
  · refine ⟨?_, scanned.identity candidate,
      .inl ⟨candidate, scanned.stored candidate, notClosed⟩⟩
    intro superseded
    rcases ledger.closable _ superseded with ⟨closed, _⟩ | ⟨row, rowMember, same⟩
    · exact notClosed closed
    · have above := (ledger.created row rowMember).1
      rw [same] at above
      exact Nat.not_le_of_gt (scanned.below candidate) above
  · obtain ⟨created, notSuperseded, identity⟩ := ledger.inBatch _ fact own
    exact ⟨notSuperseded, identity, .inr ⟨own, created⟩⟩

theorem superseded_lt {id : Uuid} (member : id ∈ machine.superseded) :
    id < machine.store.nextId := by
  rcases ledger.closable id member with ⟨_, identity, fact, candidate, rfl⟩ |
    ⟨fact, created, rfl⟩
  · exact Nat.lt_of_lt_of_le (scanned.below candidate) ledger.grown
  · exact (ledger.created fact created).2.1

theorem conflicts_nodup (entry : Entry) :
    ((machine.conflicts casing candidates entry).map Fact.id).Nodup := by
  have scope : ((candidates (entry.nameIdentity casing) ++
      machine.inBatch (entry.nameIdentity casing)).map Fact.id).Nodup := by
    rw [List.map_append, List.nodup_append]
    refine ⟨scanned.nodup _, ledger.inBatchNodup _, ?_⟩
    intro storedId storedMember ownId ownMember same
    obtain ⟨candidate, candidateMember, rfl⟩ := List.mem_map.mp storedMember
    obtain ⟨own, ownFact, rfl⟩ := List.mem_map.mp ownMember
    have below := scanned.below candidateMember
    have above := (ledger.created own (ledger.inBatch _ own ownFact).1).1
    rw [same] at below
    exact Nat.not_le_of_gt below above
  exact (List.filter_sublist.map _).nodup scope

theorem eq_conflict {entry : Entry} {conflict fact : Fact}
    (member : conflict ∈ machine.conflicts casing candidates entry)
    (accounted : fact ∈ origin.facts ++ machine.created)
    (same : fact.id = conflict.id) : fact = conflict := by
  refine List.inj_on_of_nodup_map ledger.ids_nodup accounted ?_ same
  obtain ⟨_, _, _, ⟨_, stored, _⟩ | ⟨_, created⟩⟩ :=
    ledger.conflict_cases scanned member
  · exact List.mem_append_left _ stored
  · exact List.mem_append_right _ created

theorem supersede {entry : Entry} {rest : List Entry} {store : FactStore}
    (head : machine.remaining = entry :: rest)
    (live : isTombstoned casing tombstones entry = false)
    (closed : closeConflicts ctx.now (machine.conflicts casing candidates entry)
      machine.store = .ok store) :
    MachineLedger casing candidates tombstones ctx origin entries
      (machine.supersede casing candidates entry rest store) := by
  obtain ⟨closedFacts, closedEvents, closedNext⟩ := closeConflicts_ok closed
  have known : ∀ other ∈ entry :: rest, other ∈ entries := by
    intro other member
    exact ledger.remaining other (head ▸ member)
  refine
    { facts := ?_
      events := closedEvents.trans ledger.events
      grown := closedNext ▸ ledger.grown
      created := closedNext ▸ ledger.created
      remaining := fun other member => known other (List.mem_cons_of_mem _ member)
      pending := ?_
      inBatch := ?_
      inBatchNodup := ?_
      closable := ?_
      closedIds := ?_
      supersededNodup := ?_ }
  · rw [Machine.supersede, closedFacts, ledger.facts, List.map_map]
    apply List.map_congr_left
    intro fact _member
    exact Fact.closedAt_closedAt fact _ _ _
  · intro waiting member
    rcases List.mem_append.mp member with old | new
    · exact ledger.pending waiting old
    · rw [List.mem_singleton.mp new]
      exact ⟨known entry List.mem_cons_self, live⟩
  · intro identity fact member
    have tracked : fact ∈ machine.inBatch identity ∧
        (identity = entry.nameIdentity casing →
          fact.id ∉ (machine.conflicts casing candidates entry).map Fact.id) := by
      by_cases same : identity = entry.nameIdentity casing
      · subst identity
        simp only [Machine.supersede, Function.update_self, List.mem_filter,
          Bool.not_eq_true', List.contains_eq_mem, decide_eq_false_iff_not] at member
        exact ⟨member.1, fun _ => member.2⟩
      · simp only [Machine.supersede, Function.update_of_ne same] at member
        exact ⟨member, fun equal => absurd equal same⟩
    obtain ⟨created, untouched, named⟩ := ledger.inBatch identity fact tracked.1
    refine ⟨created, ?_, named⟩
    intro found
    rcases List.mem_append.mp found with old | new
    · exact untouched old
    · obtain ⟨conflict, conflictMember, same⟩ := List.mem_map.mp new
      have equal := ledger.eq_conflict scanned conflictMember
        (List.mem_append_right _ created) same.symm
      have conflictIdentity := (ledger.conflict_cases scanned conflictMember).2.2.1
      rw [← equal, named] at conflictIdentity
      exact tracked.2 conflictIdentity new
  · intro identity
    by_cases same : identity = entry.nameIdentity casing
    · subst identity
      simp only [Machine.supersede, Function.update_self]
      exact (List.filter_sublist.map _).nodup (ledger.inBatchNodup _)
    · simp only [Machine.supersede, Function.update_of_ne same]
      exact ledger.inBatchNodup identity
  · intro id member
    rcases List.mem_append.mp member with old | new
    · rcases ledger.closable id old with ⟨closedBefore, candidate⟩ | created
      · exact .inl ⟨List.mem_append_left _ closedBefore, candidate⟩
      · exact .inr created
    · obtain ⟨conflict, conflictMember, rfl⟩ := List.mem_map.mp new
      rcases (ledger.conflict_cases scanned conflictMember).2.2.2 with
        ⟨candidate, inOrigin, _⟩ | ⟨own, created⟩
      · refine .inl ⟨List.mem_append_right _ (List.mem_filter.mpr ⟨new, ?_⟩),
          _, conflict, candidate, rfl⟩
        simp only [Bool.not_eq_true', List.contains_eq_mem, decide_eq_false_iff_not]
        intro ownId
        obtain ⟨own, ownMember, same⟩ := List.mem_map.mp ownId
        have above := (ledger.created own (ledger.inBatch _ own ownMember).1).1
        rw [same] at above
        exact Nat.not_le_of_gt (scanned.below candidate) above
      · exact .inr ⟨conflict, created, rfl⟩
  · intro id member
    rcases List.mem_append.mp member with old | new
    · exact ⟨List.mem_append_left _ (ledger.closedIds id old).1,
        (ledger.closedIds id old).2⟩
    · obtain ⟨found, notOwn⟩ := List.mem_filter.mp new
      refine ⟨List.mem_append_right _ found, ?_⟩
      obtain ⟨conflict, conflictMember, rfl⟩ := List.mem_map.mp found
      rcases (ledger.conflict_cases scanned conflictMember).2.2.2 with
        ⟨_, inOrigin, _⟩ | ⟨own, _⟩
      · exact origin.fresh conflict inOrigin
      · simp only [Bool.not_eq_true', List.contains_eq_mem,
          decide_eq_false_iff_not] at notOwn
        exact absurd (List.mem_map_of_mem own) notOwn
  · refine List.nodup_append.mpr ⟨ledger.supersededNodup,
      ledger.conflicts_nodup scanned entry, ?_⟩
    intro old oldMember new newMember same
    obtain ⟨conflict, conflictMember, rfl⟩ := List.mem_map.mp newMember
    exact (ledger.conflict_cases scanned conflictMember).2.1 (same ▸ oldMember)

omit scanned in
theorem skip {entry : Entry} {rest : List Entry}
    (head : machine.remaining = entry :: rest) :
    MachineLedger casing candidates tombstones ctx origin entries
      { machine with remaining := rest } :=
  { facts := ledger.facts
    events := ledger.events
    grown := ledger.grown
    created := ledger.created
    remaining := fun other member =>
      ledger.remaining other (head ▸ List.mem_cons_of_mem _ member)
    pending := ledger.pending
    inBatch := ledger.inBatch
    inBatchNodup := ledger.inBatchNodup
    closable := ledger.closable
    closedIds := ledger.closedIds
    supersededNodup := ledger.supersededNodup }

theorem persist {entry : Entry} {oldFacts : List Fact}
    {rest : List (Entry × List Fact)} {fact : Fact} {store : FactStore}
    {inBatch : NameIdentity → List Fact}
    (head : machine.pending = (entry, oldFacts) :: rest)
    (alive : StartsBefore (some entry.validFrom) entry.validTo)
    (inserted : persistRow ctx machine.store entry = .ok (some fact, store))
    (tracked : inBatch = Function.update machine.inBatch (entry.nameIdentity casing)
        (machine.inBatch (entry.nameIdentity casing) ++ [fact]) ∨
      inBatch = machine.inBatch ∧ ∀ later ∈ machine.remaining,
        later.nameIdentity casing ≠ entry.nameIdentity casing) :
    MachineLedger casing candidates tombstones ctx origin entries
      (machine.persist entry oldFacts rest fact store inBatch) := by
  obtain ⟨rowEq, appended, sameEvents, nextId⟩ :=
    FactStore.insert_ok (persistRow_some inserted)
  have factId : fact.id = machine.store.nextId := by
    rw [rowEq]
  have fresh : fact.id ∉ machine.superseded := by
    intro found
    exact Nat.lt_irrefl _ (factId ▸ ledger.superseded_lt scanned found)
  have waiting := ledger.pending (entry, oldFacts) (head ▸ List.mem_cons_self)
  have identity := nameIdentityOfFact_inserted casing inserted
  refine
    { facts := ?_
      events := sameEvents.trans ledger.events
      grown := ?_
      created := ?_
      remaining := ledger.remaining
      pending := fun other member =>
        ledger.pending other (head ▸ List.mem_cons_of_mem _ member)
      inBatch := ?_
      inBatchNodup := ?_
      closable := ?_
      closedIds := ledger.closedIds
      supersededNodup := ledger.supersededNodup }
  · have unclosed : fact.closedAt machine.superseded ctx.now = fact := by
      rw [Fact.closedAt, if_neg fresh]
    simp only [Machine.persist]
    rw [appended, ledger.facts, ← List.append_assoc]
    simp [unclosed]
  · simp only [Machine.persist]
    rw [nextId]
    exact Nat.le_succ_of_le ledger.grown
  · intro row member
    simp only [Machine.persist] at member ⊢
    rw [nextId]
    rcases List.mem_append.mp member with old | new
    · obtain ⟨above, below, source⟩ := ledger.created row old
      exact ⟨above, Nat.lt_succ_of_lt below, source⟩
    · rw [List.mem_singleton.mp new]
      refine ⟨factId ▸ ledger.grown, factId ▸ Nat.lt_succ_self _, entry,
        waiting.1, waiting.2, alive, ?_⟩
      rw [RowOf, factId]
      exact rowEq
  · intro key row member
    have old : ∀ row ∈ machine.inBatch key,
        row ∈ machine.created ++ [fact] ∧ row.id ∉ machine.superseded ∧
          nameIdentityOfFact casing row = key := by
      intro row found
      obtain ⟨created, rest⟩ := ledger.inBatch key row found
      exact ⟨List.mem_append_left _ created, rest⟩
    rcases tracked with rfl | ⟨rfl, _⟩
    · by_cases same : key = entry.nameIdentity casing
      · subst key
        simp only [Machine.persist, Function.update_self] at member
        rcases List.mem_append.mp member with found | new
        · exact old row found
        · rw [List.mem_singleton.mp new]
          exact ⟨List.mem_append_right _ (List.mem_singleton_self _), fresh, identity⟩
      · simp only [Machine.persist, Function.update_of_ne same] at member
        exact old row member
    · exact old row member
  · intro key
    rcases tracked with rfl | ⟨rfl, _⟩
    · by_cases same : key = entry.nameIdentity casing
      · subst key
        simp only [Machine.persist, Function.update_self, List.map_append,
          List.map_singleton]
        refine List.nodup_append.mpr ⟨ledger.inBatchNodup _, by simp, ?_⟩
        intro old oldMember new newMember equal
        obtain ⟨row, rowMember, rfl⟩ := List.mem_map.mp oldMember
        have below := (ledger.created row (ledger.inBatch _ row rowMember).1).2.1
        rw [equal, List.mem_singleton.mp newMember, factId] at below
        exact Nat.lt_irrefl _ below
      · simp only [Machine.persist, Function.update_of_ne same]
        exact ledger.inBatchNodup key
    · exact ledger.inBatchNodup key
  · intro id member
    rcases ledger.closable id member with stored | ⟨row, created, same⟩
    · exact .inl stored
    · exact .inr ⟨row, List.mem_append_left _ created, same⟩

omit scanned in
theorem suppress {entry : Entry} {oldFacts : List Fact}
    {rest : List (Entry × List Fact)} {store : FactStore}
    (head : machine.pending = (entry, oldFacts) :: rest)
    (suppressed : persistRow ctx machine.store entry = .ok (none, store)) :
    MachineLedger casing candidates tombstones ctx origin entries
      { machine with store := store, pending := rest } := by
  obtain ⟨rfl, _⟩ := persistRow_none suppressed
  exact
    { facts := ledger.facts
      events := ledger.events
      grown := ledger.grown
      created := ledger.created
      remaining := ledger.remaining
      pending := fun other member =>
        ledger.pending other (head ▸ List.mem_cons_of_mem _ member)
      inBatch := ledger.inBatch
      inBatchNodup := ledger.inBatchNodup
      closable := ledger.closable
      closedIds := ledger.closedIds
      supersededNodup := ledger.supersededNodup }

theorem step {next : Machine}
    (taken : MachineStep casing candidates tombstones ctx machine next) :
    MachineLedger casing candidates tombstones ctx origin entries next := by
  cases taken with
  | skip head _ _ => exact ledger.skip head
  | supersede head _ live _ closed => exact ledger.supersede scanned head live closed
  | persist head alive inserted tracked =>
      exact ledger.persist scanned head alive inserted tracked
  | suppress head suppressed => exact ledger.suppress head suppressed

theorem run {final : Machine}
    (ran : MachineRun casing candidates tombstones ctx machine final) :
    MachineLedger casing candidates tombstones ctx origin entries final :=
  invariant_of_run (fun held taken => held.step scanned taken) ran ledger

end MachineLedger

/-- Where the closed rows of a run went: each is linked by a transition, waits
for its successor, or was lost with a suppressed row. -/
def Machine.Accounts (machine : Machine) (lost : List Uuid) : Prop :=
  machine.superseded.Perm
    (machine.events.map SupersessionEvent.oldFactId ++
      (machine.pending.flatMap fun waiting => waiting.2.map Fact.id) ++ lost)

namespace Machine.Accounts

variable {casing : Casing} {candidates tombstones : NameIdentity → List Fact}
  {ctx : BatchCtx} {machine : Machine} {lost : List Uuid}

theorem start (store : FactStore) (entries : List Entry) :
    (Machine.start store entries).Accounts [] := by
  simp [Machine.Accounts, Machine.start, Machine.of, BatchState.initial]

theorem supersede (accounts : machine.Accounts lost) (entry : Entry) (rest : List Entry)
    (store : FactStore) :
    (machine.supersede casing candidates entry rest store).Accounts lost := by
  simp only [Machine.Accounts, Machine.supersede, List.flatMap_append,
    List.flatMap_singleton]
  refine (accounts.append_right _).trans ?_
  simp only [List.append_assoc]
  exact (List.perm_append_comm.append_left _).append_left _

theorem persist (accounts : machine.Accounts lost) {entry : Entry} {oldFacts : List Fact}
    {rest : List (Entry × List Fact)} (head : machine.pending = (entry, oldFacts) :: rest)
    (fact : Fact) (store : FactStore) (inBatch : NameIdentity → List Fact) :
    (machine.persist entry oldFacts rest fact store inBatch).Accounts lost := by
  rw [Machine.Accounts, head, List.flatMap_cons] at accounts
  simpa [Machine.Accounts, Machine.persist, makeSupersessionEvent, Function.comp_def]
    using accounts

theorem suppress (accounts : machine.Accounts lost) {entry : Entry} {oldFacts : List Fact}
    {rest : List (Entry × List Fact)} (head : machine.pending = (entry, oldFacts) :: rest)
    (store : FactStore) :
    ({ machine with store := store, pending := rest } : Machine).Accounts
      (lost ++ oldFacts.map Fact.id) := by
  rw [Machine.Accounts, head, List.flatMap_cons] at accounts
  refine accounts.trans ?_
  simp only [List.append_assoc]
  apply List.Perm.append_left
  rw [← List.append_assoc (rest.flatMap _)]
  exact List.perm_append_comm

theorem run {final : Machine} (ran : MachineRun casing candidates tombstones ctx machine final)
    (accounts : machine.Accounts lost) : ∃ lost, final.Accounts lost := by
  refine @invariant_of_run _ _ (fun machine => ∃ lost, machine.Accounts lost) ?_ _ _ ran
    ⟨lost, accounts⟩
  rintro source target ⟨lost, accounts⟩ taken
  cases taken with
  | skip head dropped alone => exact ⟨lost, accounts⟩
  | supersede head differs live alone closed => exact ⟨lost, accounts.supersede _ _ _⟩
  | persist head alive inserted tracked => exact ⟨lost, accounts.persist head _ _ _⟩
  | suppress head suppressed => exact ⟨_, accounts.suppress head _⟩

/-- Once nothing waits, the closed rows are the linked and the lost ones. -/
theorem complete (accounts : machine.Accounts lost) (settled : machine.pending = []) :
    machine.superseded.Perm (machine.events.map SupersessionEvent.oldFactId ++ lost) := by
  simpa [Machine.Accounts, settled] using accounts

end Machine.Accounts

/-- The account of a call before its first assertion. -/
theorem machineLedger_start (casing : Casing) (call : IngestCall) (store : FactStore) :
    MachineLedger casing (call.candidates casing store) (call.tombstones casing store)
      call.ctx store (call.entries casing)
      (Machine.start store (scheduled casing (call.entries casing))) :=
  MachineLedger.start _ fun _ member => mem_scheduled member

theorem scanned_candidates (casing : Casing) (call : IngestCall) (store : FactStore) :
    Scanned casing store (call.candidates casing store) :=
  ⟨_, List.filter_sublist.subset, (List.filter_sublist.map _).nodup store.primaryKey, rfl⟩

/-- What a complete run and its lineage writes leave in the two tables. -/
theorem recordLineage_ledger {casing : Casing} {store store' : FactStore} {call : IngestCall}
    {candidates tombstones : NameIdentity → List Fact} {final : Machine}
    {episodes : Uuid → Option Uuid} (scanned : Scanned casing store candidates)
    (run : MachineRun casing candidates tombstones call.ctx
      (Machine.start store (scheduled casing (call.entries casing))) final)
    (lineage : recordLineage call.orgId call.projectId call.now episodes final.events
      final.store = .ok store') :
    MachineLedger casing candidates tombstones call.ctx store (call.entries casing) final ∧
      store'.facts = final.store.facts.map (Fact.withLineage · final.events) ∧
      store'.nextId = final.store.nextId ∧
      store'.events = store.events ++ final.events.filterMap fun transition =>
        transition.newFactId.map
          (lineageEvent call.orgId call.projectId call.now episodes transition) := by
  have ledger := (MachineLedger.start (scheduled casing (call.entries casing))
    fun _ member => mem_scheduled member).run scanned run
  obtain ⟨facts, nextId, recorded⟩ := recordLineage_ok lineage
  refine ⟨ledger, facts, nextId, ?_⟩
  rw [recorded, ledger.events]

/-- What a successful ingest leaves in the fact table: the rows there were and
the rows it created, closed and linked as the result reports. -/
theorem ingest_ledger {casing : Casing} {collaborators : Collaborators}
    {store : FactStore} {call : IngestCall} {outcome : IngestOutcome}
    (ingested : ingestWithSupersession casing collaborators store call = .ok outcome) :
    ∃ final : Machine,
      MachineRun casing (call.candidates casing store) (call.tombstones casing store)
        call.ctx (Machine.start store (scheduled casing (call.entries casing))) final ∧
      MachineLedger casing (call.candidates casing store)
        (call.tombstones casing store) call.ctx store (call.entries casing) final ∧
      final.remaining = [] ∧ final.pending = [] ∧
      outcome.result.created = final.created ∧
      outcome.result.superseded = final.superseded ∧
      outcome.events = final.events ∧
      outcome.store.facts =
        final.store.facts.map (Fact.withLineage · final.events) ∧
      ∃ episodes : Uuid → Option Uuid, outcome.store.events = store.events ++
        final.events.filterMap fun transition =>
          transition.newFactId.map
            (lineageEvent call.orgId call.projectId call.now episodes transition) := by
  obtain ⟨final, run, done, inserted, created, superseded, events, episodes, lineage⟩ :=
    ingest_run ingested
  obtain ⟨ledger, facts, _, recorded⟩ :=
    recordLineage_ledger (scanned_candidates casing call store) run lineage
  exact ⟨final, run, ledger, done, inserted, created, superseded, events, facts,
    episodes, recorded⟩

end OpenZync.Facts
