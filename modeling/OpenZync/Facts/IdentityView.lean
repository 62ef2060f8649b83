import OpenZync.Facts.MachineLedger

/-!
# One name identity at a time

What an ingest is for, stated without its two write paths: the entries of a
name identity are asserted one after the other against the rows of that
identity.  An assertion is dropped when the identical one stands or a
retraction wins; otherwise it closes every row it conflicts with and is
appended, unless the exclusion constraint keeps its row out.  The theorems
below show that every successful ingest refines this reading, whatever the
other identities of its batch are.
-/

namespace OpenZync.Facts

open OpenZync.Library

/-- A row without what differs between two executions that store the same. -/
def Fact.anonymous (fact : Fact) : Fact :=
  { fact with
    id := 0
    supersededByFactId := none }

/-- A row of one identity; a live slot is one the ingest may still close. -/
structure Slot where
  fact : Fact
  live : Bool
  deriving DecidableEq

namespace Slot

/-- The entry supersedes the row. -/
def hit (casing : Casing) (entry : Entry) (slot : Slot) : Bool :=
  slot.live && candidateConflicts casing entry slot.fact

def close (casing : Casing) (now : Time) (entry : Entry) (slot : Slot) : Slot :=
  if slot.hit casing entry then ⟨{ slot.fact with validTo := some now }, false⟩
  else slot

end Slot

section

variable (casing : Casing) (tombstones : List Fact) (ctx : BatchCtx)

/-- The identical assertion stands, or a retracted row wins. -/
def droppedIn (view : List Slot) (entry : Entry) : Bool :=
  (view.any fun slot =>
    slot.hit casing entry && decide (slot.fact.content = entry.content)) ||
    tombstones.any (candidateConflicts casing entry)

/-- The exclusion constraint keeps the row of the entry out. -/
def Obstructed (view : List Slot) (entry : Entry) : Prop :=
  ∃ slot ∈ view, slot.fact.Excludes (rowFor ctx entry)

instance (view : List Slot) (entry : Entry) : Decidable (Obstructed ctx view entry) :=
  inferInstanceAs (Decidable (∃ slot ∈ view, _))

/-- The rows of the identity once the conflicts of the entry are closed. -/
def closedFor (view : List Slot) (entry : Entry) : List Slot :=
  view.map (Slot.close casing ctx.now entry)

def assertEntry (view : List Slot) (entry : Entry) : List Slot :=
  if droppedIn casing tombstones view entry then view
  else if Obstructed ctx (closedFor casing ctx view entry) entry then
    closedFor casing ctx view entry
  else closedFor casing ctx view entry ++ [⟨rowFor ctx entry, true⟩]

/-- The entries of one identity, asserted in order. -/
abbrev assertEntries (view : List Slot) (entries : List Entry) : List Slot :=
  entries.foldl (assertEntry casing tombstones ctx) view

/-- `Condition` holds of every entry and the rows it is asserted against. -/
def AlongAssertions (Condition : List Slot → Entry → Prop) :
    List Slot → List Entry → Prop
  | _, [] => True
  | view, entry :: entries =>
      Condition view entry ∧
        AlongAssertions Condition (assertEntry casing tombstones ctx view entry) entries

instance alongAssertionsDecidable (Condition : List Slot → Entry → Prop)
    [∀ view entry, Decidable (Condition view entry)] :
    ∀ (view : List Slot) (entries : List Entry),
      Decidable (AlongAssertions casing tombstones ctx Condition view entries)
  | _, [] => isTrue trivial
  | view, entry :: entries =>
      have := alongAssertionsDecidable Condition
        (assertEntry casing tombstones ctx view entry) entries
      inferInstanceAs (Decidable (_ ∧ _))

theorem alongAssertions_append (Condition : List Slot → Entry → Prop) (view : List Slot)
    (first second : List Entry) :
    AlongAssertions casing tombstones ctx Condition view (first ++ second) ↔
      AlongAssertions casing tombstones ctx Condition view first ∧
        AlongAssertions casing tombstones ctx Condition
          (assertEntries casing tombstones ctx view first) second := by
  induction first generalizing view with
  | nil => simp [AlongAssertions]
  | cons entry entries induction =>
      simp only [List.cons_append, AlongAssertions, List.foldl_cons, induction]
      exact and_assoc.symm

end

/-- The entries of one name identity, in batch order. -/
def entriesOf (casing : Casing) (identity : NameIdentity) (entries : List Entry) :
    List Entry :=
  entries.filter fun entry => decide (entry.nameIdentity casing = identity)

/-- The rows of one identity as the scan of a call leaves them: live when the
scan returned them. -/
def IngestCall.view (casing : Casing) (call : IngestCall) (store : FactStore)
    (identity : NameIdentity) : List Slot :=
  (bucketByName casing store.facts identity).map fun fact =>
    { fact := fact.anonymous
      live := decide (fact.InScope call.orgId call.projectId) &&
        decide (fact.EffectiveAt call.now) &&
        (call.matchKeys casing).any fun key => key.matches casing fact }

/-- `Condition` holds of every assertion of the call, for every name identity
of its batch. -/
def IngestCall.EveryAssertion (casing : Casing) (call : IngestCall) (store : FactStore)
    (Condition : List Fact → List Slot → Entry → Prop) : Prop :=
  ∀ identity ∈ (call.entries casing).map (Entry.nameIdentity casing),
    AlongAssertions casing (call.tombstones casing store identity) call.ctx
      (Condition (call.tombstones casing store identity))
      (call.view casing store identity)
      (entriesOf casing identity (call.entries casing))

instance (casing : Casing) (call : IngestCall) (store : FactStore)
    (Condition : List Fact → List Slot → Entry → Prop)
    [∀ tombstones view entry, Decidable (Condition tombstones view entry)] :
    Decidable (call.EveryAssertion casing store Condition) :=
  inferInstanceAs (Decidable (∀ identity ∈ (call.entries casing).map _, _))

theorem IngestCall.EveryAssertion.forall {casing : Casing} {call : IngestCall}
    {store : FactStore} {Condition : List Fact → List Slot → Entry → Prop}
    (every : call.EveryAssertion casing store Condition) (identity : NameIdentity) :
    AlongAssertions casing (call.tombstones casing store identity) call.ctx
      (Condition (call.tombstones casing store identity))
      (call.view casing store identity)
      (entriesOf casing identity (call.entries casing)) := by
  by_cases occurs : identity ∈ (call.entries casing).map (Entry.nameIdentity casing)
  · exact every identity occurs
  · have none : entriesOf casing identity (call.entries casing) = [] := by
      rw [entriesOf, List.filter_eq_nil_iff]
      intro entry member same
      rw [← of_decide_eq_true same] at occurs
      exact occurs (List.mem_map_of_mem member)
    rw [none]
    trivial

section

variable (casing : Casing) (candidates : NameIdentity → List Fact)

/-- The machine may still close the row: the scan returned it and no entry
closed it, or this batch inserted it. -/
def Machine.isOpen (machine : Machine) (identity : NameIdentity) (fact : Fact) : Bool :=
  (((candidates identity).map Fact.id).contains fact.id &&
      !machine.closedIds.contains fact.id) ||
    ((machine.inBatch identity).map Fact.id).contains fact.id

/-- The rows of one identity at a point of the run. -/
def Machine.view (machine : Machine) (identity : NameIdentity) : List Slot :=
  (bucketByName casing machine.store.facts identity).map fun fact =>
    ⟨fact.anonymous, machine.isOpen candidates identity fact⟩

end

@[simp] theorem candidateConflicts_anonymous (casing : Casing) (entry : Entry)
    (fact : Fact) :
    candidateConflicts casing entry fact.anonymous = candidateConflicts casing entry fact :=
  rfl

@[simp] theorem nameIdentityOfFact_closedAt (casing : Casing) (fact : Fact)
    (ids : List Uuid) (now : Time) :
    nameIdentityOfFact casing (fact.closedAt ids now) = nameIdentityOfFact casing fact := by
  unfold Fact.closedAt
  split <;> rfl

theorem bucketByName_map (casing : Casing) (facts : List Fact) (identity : NameIdentity)
    (change : Fact → Fact)
    (keeps : ∀ fact, nameIdentityOfFact casing (change fact) =
      nameIdentityOfFact casing fact) :
    bucketByName casing (facts.map change) identity =
      (bucketByName casing facts identity).map change := by
  simp only [bucketByName, List.filter_map]
  congr 1
  apply List.filter_congr
  intro fact _member
  simp [keeps]

theorem mem_bucketByName {casing : Casing} {facts : List Fact} {identity : NameIdentity}
    {fact : Fact} :
    fact ∈ bucketByName casing facts identity ↔
      fact ∈ facts ∧ nameIdentityOfFact casing fact = identity := by
  simp [bucketByName]

/-- The constraint compares the raw triple, so it never reaches across
identities. -/
theorem Fact.Excludes.identity {left right : Fact} (casing : Casing)
    (excluded : left.Excludes right) :
    nameIdentityOfFact casing left = nameIdentityOfFact casing right := by
  obtain ⟨_, _, _, ⟨_, subject⟩, ⟨_, predicate⟩, ⟨_, object⟩, _⟩ := excluded
  simp [nameIdentityOfFact, subject, predicate, object]

namespace MachineLedger

variable {casing : Casing}
variable {candidates tombstones : NameIdentity → List Fact}
variable {ctx : BatchCtx} {origin : FactStore} {entries : List Entry}
variable {machine : Machine}
variable (ledger : MachineLedger casing candidates tombstones ctx origin entries machine)
variable (scanned : Scanned casing origin candidates)
include ledger scanned

theorem mem_conflicts {entry : Entry} {fact : Fact} :
    fact ∈ machine.conflicts casing candidates entry ↔
      fact ∈ bucketByName casing machine.store.facts (entry.nameIdentity casing) ∧
        machine.isOpen candidates (entry.nameIdentity casing) fact = true ∧
        candidateConflicts casing entry fact = true := by
  constructor
  · intro member
    obtain ⟨conflicting, notSuperseded, identity, source⟩ :=
      ledger.conflict_cases scanned member
    have accounted : fact ∈ origin.facts ++ machine.created := by
      rcases source with ⟨_, stored, _⟩ | ⟨_, created⟩
      · exact List.mem_append_left _ stored
      · exact List.mem_append_right _ created
    refine ⟨mem_bucketByName.mpr ⟨ledger.mem_store accounted notSuperseded, identity⟩,
      ?_, conflicting⟩
    rcases source with ⟨candidate, _, notClosed⟩ | ⟨own, _⟩
    · simp only [Machine.isOpen, List.contains_eq_mem, Bool.or_eq_true,
        Bool.and_eq_true, decide_eq_true_eq, Bool.not_eq_true',
        decide_eq_false_iff_not]
      exact .inl ⟨List.mem_map_of_mem candidate, notClosed⟩
    · simp only [Machine.isOpen, List.contains_eq_mem, Bool.or_eq_true,
        decide_eq_true_eq]
      exact .inr (List.mem_map_of_mem own)
  · rintro ⟨bucketed, opened, conflicting⟩
    have inStore := (mem_bucketByName.mp bucketed).1
    simp only [Machine.isOpen, List.contains_eq_mem, Bool.or_eq_true,
      Bool.and_eq_true, decide_eq_true_eq, Bool.not_eq_true',
      decide_eq_false_iff_not] at opened
    simp only [Machine.conflicts, matchingConflicts, List.mem_filter,
      List.mem_append, Bool.and_eq_true, Bool.not_eq_true', List.contains_eq_mem,
      decide_eq_false_iff_not]
    rcases opened with ⟨candidateId, notClosed⟩ | ownId
    · obtain ⟨candidate, member, same⟩ := List.mem_map.mp candidateId
      have notSuperseded : candidate.id ∉ machine.superseded := by
        intro found
        rcases ledger.closable _ found with ⟨closed, _⟩ | ⟨row, created, rowId⟩
        · exact notClosed (same ▸ closed)
        · have above := (ledger.created row created).1
          rw [rowId] at above
          exact Nat.not_le_of_gt (scanned.below member) above
      have standing := ledger.mem_store
        (List.mem_append_left _ (scanned.stored member)) notSuperseded
      have equal := FactStore.eq_of_id standing inStore same
      subst equal
      exact ⟨.inl member, notClosed, conflicting⟩
    · obtain ⟨own, member, same⟩ := List.mem_map.mp ownId
      obtain ⟨created, notSuperseded, _⟩ := ledger.inBatch _ own member
      have standing := ledger.mem_store
        (List.mem_append_right _ created) notSuperseded
      have equal := FactStore.eq_of_id standing inStore same
      subst equal
      refine ⟨.inr member, ?_, conflicting⟩
      intro closed
      exact Nat.not_le_of_gt (ledger.closedIds _ closed).2 (ledger.created own created).1

theorem dropped_eq (entry : Entry) :
    (hasIdenticalContent entry (machine.conflicts casing candidates entry) ||
        isTombstoned casing tombstones entry) =
      droppedIn casing (tombstones (entry.nameIdentity casing))
        (machine.view casing candidates (entry.nameIdentity casing)) entry := by
  unfold droppedIn isTombstoned
  congr 1
  rw [Bool.eq_iff_iff]
  simp only [hasIdenticalContent, Machine.view, List.any_eq_true, List.mem_map,
    decide_eq_true_eq, Slot.hit, Bool.and_eq_true]
  constructor
  · rintro ⟨conflict, member, content⟩
    obtain ⟨bucketed, opened, conflicting⟩ := (ledger.mem_conflicts scanned).mp member
    exact ⟨_, ⟨conflict, bucketed, rfl⟩, ⟨opened, conflicting⟩, content⟩
  · rintro ⟨_, ⟨conflict, bucketed, rfl⟩, ⟨opened, conflicting⟩, content⟩
    exact ⟨conflict, (ledger.mem_conflicts scanned).mpr ⟨bucketed, opened, conflicting⟩,
      content⟩

theorem conflicts_eq_nil (entry : Entry) :
    machine.conflicts casing candidates entry = [] ↔
      ∀ slot ∈ machine.view casing candidates (entry.nameIdentity casing),
        slot.hit casing entry = false := by
  simp only [List.eq_nil_iff_forall_not_mem, ledger.mem_conflicts scanned,
    Machine.view, List.mem_map, Slot.hit]
  constructor
  · rintro none _ ⟨fact, bucketed, rfl⟩
    rw [Bool.eq_false_iff]
    intro hit
    rw [Bool.and_eq_true] at hit
    exact none fact ⟨bucketed, hit.1, hit.2⟩
  · rintro none fact ⟨bucketed, opened, conflicting⟩
    have missed := none _ ⟨fact, bucketed, rfl⟩
    simp [opened, conflicting] at missed

theorem mem_conflict_ids {entry : Entry} {identity : NameIdentity} {fact : Fact}
    (bucketed : fact ∈ bucketByName casing machine.store.facts identity) :
    fact.id ∈ (machine.conflicts casing candidates entry).map Fact.id ↔
      identity = entry.nameIdentity casing ∧
        machine.isOpen candidates (entry.nameIdentity casing) fact = true ∧
        candidateConflicts casing entry fact = true := by
  constructor
  · intro found
    obtain ⟨conflict, member, same⟩ := List.mem_map.mp found
    obtain ⟨standing, opened, conflicting⟩ := (ledger.mem_conflicts scanned).mp member
    have equal := FactStore.eq_of_id (mem_bucketByName.mp standing).1
      (mem_bucketByName.mp bucketed).1 same
    subst equal
    exact ⟨(mem_bucketByName.mp bucketed).2.symm.trans (mem_bucketByName.mp standing).2,
      opened, conflicting⟩
  · rintro ⟨rfl, opened, conflicting⟩
    exact List.mem_map_of_mem
      ((ledger.mem_conflicts scanned).mpr ⟨bucketed, opened, conflicting⟩)

/-- An entry leaves a row open exactly when it does not close it. -/
theorem isOpen_supersede {entry : Entry} {rest : List Entry} {store : FactStore}
    {identity : NameIdentity} {fact : Fact}
    (bucketed : fact ∈ bucketByName casing machine.store.facts identity) :
    (machine.supersede casing candidates entry rest store).isOpen candidates identity
        fact =
      (machine.isOpen candidates identity fact &&
        !((machine.conflicts casing candidates entry).map Fact.id).contains fact.id) := by
  rw [Bool.eq_iff_iff]
  by_cases same : identity = entry.nameIdentity casing
  · subst same
    have disjoint : fact.id ∈ (candidates (entry.nameIdentity casing)).map Fact.id →
        fact.id ∉ (machine.inBatch (entry.nameIdentity casing)).map Fact.id := by
      intro candidateId ownId
      obtain ⟨candidate, member, candidateSame⟩ := List.mem_map.mp candidateId
      obtain ⟨own, ownMember, ownSame⟩ := List.mem_map.mp ownId
      have below := scanned.below member
      have above := (ledger.created own (ledger.inBatch _ own ownMember).1).1
      rw [candidateSame, ← ownSame] at below
      exact Nat.not_le_of_gt below above
    have own : fact.id ∈ ((machine.inBatch (entry.nameIdentity casing)).filter
          fun row => !((machine.conflicts casing candidates entry).map
            Fact.id).contains row.id).map Fact.id ↔
        fact.id ∈ (machine.inBatch (entry.nameIdentity casing)).map Fact.id ∧
          fact.id ∉ (machine.conflicts casing candidates entry).map Fact.id := by
      simp only [List.mem_map, List.mem_filter, Bool.not_eq_true',
        List.contains_eq_mem, decide_eq_false_iff_not]
      constructor
      · rintro ⟨row, ⟨member, untouched⟩, rowId⟩
        rw [rowId] at untouched
        exact ⟨⟨row, member, rowId⟩, untouched⟩
      · rintro ⟨⟨row, member, rowId⟩, untouched⟩
        rw [← rowId] at untouched
        exact ⟨row, ⟨member, untouched⟩, rowId⟩
    simp only [Machine.isOpen, Machine.supersede, Function.update_self,
      List.contains_eq_mem, Bool.or_eq_true, Bool.and_eq_true, decide_eq_true_eq,
      Bool.not_eq_true', decide_eq_false_iff_not, List.mem_append] at own ⊢
    rw [own, List.mem_filter]
    simp only [Bool.not_eq_true', decide_eq_false_iff_not]
    tauto
  · have missed : fact.id ∉ (machine.conflicts casing candidates entry).map Fact.id :=
      fun found => same ((ledger.mem_conflict_ids scanned bucketed).mp found).1
    simp only [Machine.isOpen, Machine.supersede, Function.update_of_ne same,
      List.contains_eq_mem, Bool.or_eq_true, Bool.and_eq_true, decide_eq_true_eq,
      Bool.not_eq_true', decide_eq_false_iff_not, List.mem_append, List.mem_filter]
    tauto

theorem view_supersede {entry : Entry} {rest : List Entry} {store : FactStore}
    (closed : closeConflicts ctx.now (machine.conflicts casing candidates entry)
      machine.store = .ok store) :
    (machine.supersede casing candidates entry rest store).view casing candidates
        (entry.nameIdentity casing) =
      closedFor casing ctx
        (machine.view casing candidates (entry.nameIdentity casing)) entry := by
  have facts : (machine.supersede casing candidates entry rest store).store.facts =
      machine.store.facts.map
        (Fact.closedAt · ((machine.conflicts casing candidates entry).map Fact.id)
          ctx.now) := (closeConflicts_ok closed).1
  rw [Machine.view, facts, bucketByName_map _ _ _ _
    fun fact => nameIdentityOfFact_closedAt casing fact _ _]
  simp only [closedFor, Machine.view, List.map_map]
  apply List.map_congr_left
  intro fact bucketed
  have sameOpen : ∀ other : Fact, other.id = fact.id →
      (machine.supersede casing candidates entry rest store).isOpen candidates
        (entry.nameIdentity casing) other =
      (machine.supersede casing candidates entry rest store).isOpen candidates
        (entry.nameIdentity casing) fact := by
    intro other same
    simp only [Machine.isOpen, same]
  have hit : Slot.hit casing entry
      ⟨fact.anonymous, machine.isOpen candidates (entry.nameIdentity casing) fact⟩ =
        decide (fact.id ∈ (machine.conflicts casing candidates entry).map Fact.id) := by
    rw [Bool.eq_iff_iff, decide_eq_true_iff, ledger.mem_conflict_ids scanned bucketed]
    simp [Slot.hit]
  simp only [Function.comp_apply, Slot.close, hit]
  rw [sameOpen _ (Fact.closedAt_id ..), ledger.isOpen_supersede scanned bucketed]
  by_cases found : fact.id ∈ (machine.conflicts casing candidates entry).map Fact.id
  · rw [if_pos (decide_eq_true found), Fact.closedAt, if_pos found]
    simp only [List.contains_eq_mem, found, decide_true, Bool.not_true, Bool.and_false]
    rfl
  · rw [if_neg (by simpa using found), Fact.closedAt, if_neg found]
    simp [found]

theorem view_supersede_other {entry : Entry} {rest : List Entry} {store : FactStore}
    (closed : closeConflicts ctx.now (machine.conflicts casing candidates entry)
      machine.store = .ok store) {identity : NameIdentity}
    (other : identity ≠ entry.nameIdentity casing) :
    (machine.supersede casing candidates entry rest store).view casing candidates
        identity = machine.view casing candidates identity := by
  have facts : (machine.supersede casing candidates entry rest store).store.facts =
      machine.store.facts.map
        (Fact.closedAt · ((machine.conflicts casing candidates entry).map Fact.id)
          ctx.now) := (closeConflicts_ok closed).1
  rw [Machine.view, facts, bucketByName_map _ _ _ _
    fun fact => nameIdentityOfFact_closedAt casing fact _ _]
  simp only [Machine.view, List.map_map]
  apply List.map_congr_left
  intro fact bucketed
  have missed : fact.id ∉ (machine.conflicts casing candidates entry).map Fact.id :=
    fun found => other ((ledger.mem_conflict_ids scanned bucketed).mp found).1
  simp only [Function.comp_apply, Fact.closedAt, if_neg missed]
  rw [ledger.isOpen_supersede scanned bucketed]
  simp [missed]

section Persisted

variable {entry : Entry} {oldFacts : List Fact} {rest : List (Entry × List Fact)} {fact : Fact}
  {store : FactStore} {inBatch : NameIdentity → List Fact}
  (inserted : persistRow ctx machine.store entry = .ok (some fact, store))
  (tracked : inBatch = Function.update machine.inBatch (entry.nameIdentity casing)
      (machine.inBatch (entry.nameIdentity casing) ++ [fact]) ∨
    inBatch = machine.inBatch ∧ ∀ later ∈ machine.remaining,
      later.nameIdentity casing ≠ entry.nameIdentity casing)

include inserted tracked

omit ledger scanned in
/-- An insert does not change what the machine may do with an older row. -/
theorem isOpen_persist {identity : NameIdentity} {row : Fact} (member : row ∈ machine.store.facts) :
    (machine.persist entry oldFacts rest fact store inBatch).isOpen candidates identity
        row = machine.isOpen candidates identity row := by
  have older : row.id ≠ fact.id := by
    rw [(FactStore.insert_ok (persistRow_some inserted)).1]
    exact Nat.ne_of_lt (machine.store.fresh row member)
  rcases tracked with rfl | ⟨rfl, _⟩
  · by_cases same : identity = entry.nameIdentity casing
    · subst same
      simp [Machine.isOpen, Machine.persist, older]
    · simp [Machine.isOpen, Machine.persist, Function.update_of_ne same]
  · rfl

omit ledger scanned in
theorem view_persist :
    ∃ live, (machine.persist entry oldFacts rest fact store inBatch).view casing
        candidates (entry.nameIdentity casing) =
      machine.view casing candidates (entry.nameIdentity casing) ++
        [⟨rowFor ctx entry, live⟩] ∧
      (live = true ∨ ∀ later ∈ machine.remaining,
        later.nameIdentity casing ≠ entry.nameIdentity casing) := by
  obtain ⟨rowEq, appended, _, _⟩ := FactStore.insert_ok (persistRow_some inserted)
  have named := nameIdentityOfFact_inserted casing inserted
  have facts : (machine.persist entry oldFacts rest fact store inBatch).store.facts =
      machine.store.facts ++ [fact] := appended
  have stripped : fact.anonymous = rowFor ctx entry := by
    rw [rowEq]
    rfl
  have newest : bucketByName casing [fact] (entry.nameIdentity casing) = [fact] :=
    bucketByName_cons_self [] named
  have older : ∀ row ∈ bucketByName casing machine.store.facts
      (entry.nameIdentity casing),
      (machine.persist entry oldFacts rest fact store inBatch).isOpen candidates
        (entry.nameIdentity casing) row =
      machine.isOpen candidates (entry.nameIdentity casing) row :=
    fun row bucketed =>
      isOpen_persist inserted tracked (mem_bucketByName.mp bucketed).1
  refine ⟨(machine.persist entry oldFacts rest fact store inBatch).isOpen candidates
    (entry.nameIdentity casing) fact, ?_, ?_⟩
  · rw [Machine.view, facts, bucketByName_append, List.map_append, newest, List.map_singleton,
      stripped]
    congr 1
    apply List.map_congr_left
    intro row bucketed
    rw [older row bucketed]
  · rcases tracked with rfl | ⟨_, later⟩
    · left
      simp [Machine.isOpen, Machine.persist]
    · exact .inr later

omit ledger scanned in
theorem view_persist_other {identity : NameIdentity}
    (other : identity ≠ entry.nameIdentity casing) :
    (machine.persist entry oldFacts rest fact store inBatch).view casing candidates
        identity = machine.view casing candidates identity := by
  obtain ⟨_, appended, _, _⟩ := FactStore.insert_ok (persistRow_some inserted)
  have facts : (machine.persist entry oldFacts rest fact store inBatch).store.facts =
      machine.store.facts ++ [fact] := appended
  have elsewhere : bucketByName casing [fact] identity = [] := by
    simp [bucketByName, nameIdentityOfFact_inserted casing inserted, Ne.symm other]
  rw [Machine.view, facts, bucketByName_append, elsewhere, List.append_nil]
  apply List.map_congr_left
  intro row bucketed
  rw [isOpen_persist inserted tracked (mem_bucketByName.mp bucketed).1]

end Persisted

end MachineLedger

end OpenZync.Facts
