import OpenZync.Facts.ConflictMatching
import OpenZync.Library.Execution

/-!
# Supersession writes

`FactPersistenceMixin`: the batch-safe path closes every conflict and inserts
all rows with one statement, the sequential path closes and inserts one entry
at a time and remembers its own rows in `inBatch`.  Both thread the store and
the accumulators of `_BatchState`.
-/

namespace OpenZync.Facts

open OpenZync.Library

inductive InsertMode where
  | batchCreate
  | batchCreateOrSkip
  deriving DecidableEq

/-- Immutable per-batch scope. -/
structure BatchCtx where
  orgId : Uuid
  projectId : Uuid
  userId : Uuid
  sourceEpisodeId : Option Uuid
  insertMode : InsertMode
  now : Time
  deriving DecidableEq

/-- Mutable accumulators.  `superseded` lists the identifiers passed to
`set_valid_to`; the counter `superseded_count` is its length. -/
structure BatchState where
  created : List Fact
  closedIds : List Uuid
  inBatch : NameIdentity → List Fact
  superseded : List Uuid
  skippedCount : Nat
  events : List SupersessionEvent
  sourceEpisodeByOldFact : Uuid → Option Uuid

def BatchState.initial : BatchState :=
  { created := []
    closedIds := []
    inBatch := fun _ => []
    superseded := []
    skippedCount := 0
    events := []
    sourceEpisodeByOldFact := fun _ => none }

def scanTombstones (casing : Casing) (store : FactStore) (orgId projectId : Uuid)
    (entries : List Entry) : NameIdentity → List Fact :=
  bucketByName casing
    (findRetractedByMatchKeys casing store orgId projectId
      (entries.flatMap Entry.matchKeys))

/-- Candidates in `scope` that the entry actually supersedes. -/
def matchingConflicts (casing : Casing) (entry : Entry) (scope : List Fact)
    (closedIds : List Uuid) : List Fact :=
  scope.filter fun candidate =>
    !closedIds.contains candidate.id && candidateConflicts casing entry candidate

/-- An identical assertion is already active: idempotent skip. -/
def hasIdenticalContent (entry : Entry) (conflicts : List Fact) : Bool :=
  conflicts.any fun candidate => decide (candidate.content = entry.content)

/-- A retracted row wins over the entry: no insert, no event. -/
def isTombstoned (casing : Casing) (tombstones : NameIdentity → List Fact)
    (entry : Entry) : Bool :=
  (tombstones (entry.nameIdentity casing)).any (candidateConflicts casing entry)

/-- `set_valid_to` on every conflict, in order. -/
def closeConflicts (now : Time) :
    List Fact → FactStore → Except FactError FactStore
  | [], store => .ok store
  | conflict :: conflicts, store => do
      let store ← store.setValidTo conflict.id now
      closeConflicts now conflicts store

/-- The born-dead guard of both batch inserts. -/
def bornDeadGuard : List Entry → Except FactError Unit
  | [] => .ok ()
  | entry :: entries =>
      match entry.validTo with
      | none => bornDeadGuard entries
      | some validTo =>
          if validTo ≤ entry.validFrom then
            .error (.bornDead entry.subject entry.predicate entry.object)
          else bornDeadGuard entries

/-- One row of `batch_create`: the constraint raises. -/
def createRow (ctx : BatchCtx) (store : FactStore) (entry : Entry) :
    Except FactError (Option Fact × FactStore) := do
  let (fact, store) ← store.insert
    (entry.toFact ctx.orgId ctx.projectId ctx.userId entry.sourceEpisodeId)
  .ok (some fact, store)

/-- One row of `batch_create_or_skip`: `ON CONFLICT DO NOTHING`. -/
def createOrSkipRow (ctx : BatchCtx) (store : FactStore) (entry : Entry) :
    Except FactError (Option Fact × FactStore) :=
  match store.insert
      (entry.toFact ctx.orgId ctx.projectId ctx.userId ctx.sourceEpisodeId) with
  | .ok (fact, store) => .ok (some fact, store)
  | .error .exclusionViolation => .ok (none, store)
  | .error error => .error error

/-- One row in the configured mode. -/
def persistRow (ctx : BatchCtx) (store : FactStore) (entry : Entry) :
    Except FactError (Option Fact × FactStore) :=
  match ctx.insertMode with
  | .batchCreate => createRow ctx store entry
  | .batchCreateOrSkip => createOrSkipRow ctx store entry

/-- The rows of one `INSERT` statement; only inserted rows are returned. -/
def persistRows (ctx : BatchCtx) :
    List Entry → FactStore → Except FactError (List Fact × FactStore)
  | [], store => .ok ([], store)
  | entry :: entries, store => do
      let (inserted, store) ← persistRow ctx store entry
      let (rest, store) ← persistRows ctx entries store
      .ok (inserted.toList ++ rest, store)

def insertRows (ctx : BatchCtx) (entries : List Entry) (store : FactStore) :
    Except FactError (List Fact × FactStore) := do
  bornDeadGuard entries
  persistRows ctx entries store

/-- Record the transitions of `oldFacts` to their successor. -/
def BatchState.recordTransitions (state : BatchState) (entry : Entry)
    (oldFacts : List Fact) (newFact : Fact) : BatchState :=
  { state with
    events := state.events ++
      oldFacts.map fun oldFact =>
        makeSupersessionEvent oldFact (some newFact) entry.triple
    sourceEpisodeByOldFact := fun id =>
      if id ∈ oldFacts.map Fact.id then entry.sourceEpisodeId
      else state.sourceEpisodeByOldFact id }

/-- `skipped_count += 1`. -/
def BatchState.skip (state : BatchState) : BatchState :=
  { state with skippedCount := state.skippedCount + 1 }

/-- Bookkeeping of the batch-safe path after its conflicts are closed. -/
def BatchState.closeStored (state : BatchState) (conflicts : List Fact) : BatchState :=
  { state with
    closedIds := state.closedIds ++ conflicts.map Fact.id
    superseded := state.superseded ++ conflicts.map Fact.id }

/-- Bookkeeping of the sequential path: a row of this batch leaves `inBatch`,
a stored one joins `closedIds`. -/
def BatchState.closeTracked (state : BatchState) (identity : NameIdentity)
    (conflicts : List Fact) : BatchState :=
  let own := (state.inBatch identity).map Fact.id
  { state with
    closedIds := state.closedIds ++
      (conflicts.map Fact.id).filter fun id => !own.contains id
    inBatch := Function.update state.inBatch identity
      ((state.inBatch identity).filter fun fact =>
        !(conflicts.map Fact.id).contains fact.id)
    superseded := state.superseded ++ conflicts.map Fact.id }

/-- Remember the inserted row of the sequential path. -/
def BatchState.track (state : BatchState) (identity : NameIdentity)
    (inserted : List Fact) : BatchState :=
  { state with
    created := state.created ++ inserted
    inBatch := Function.update state.inBatch identity
      (state.inBatch identity ++ inserted) }

section Loops

variable (casing : Casing)
variable (candidates tombstones : NameIdentity → List Fact)
variable (ctx : BatchCtx)

/-- First loop of `_supersede_batch_safe`: skip, or close the conflicts and
keep the entry for the bulk insert. -/
def batchSafeLoop :
    List Entry → FactStore → BatchState → List (Entry × List Fact) →
      Except FactError (FactStore × BatchState × List (Entry × List Fact))
  | [], store, state, kept => .ok (store, state, kept)
  | entry :: entries, store, state, kept =>
      let conflicts := matchingConflicts casing entry
        (candidates (entry.nameIdentity casing)) state.closedIds
      if hasIdenticalContent entry conflicts || isTombstoned casing tombstones entry then
        batchSafeLoop entries store state.skip kept
      else do
        let store ← closeConflicts ctx.now conflicts store
        batchSafeLoop entries store (state.closeStored conflicts)
          (kept ++ [(entry, conflicts)])

/-- Second loop of `_supersede_batch_safe`: pair every kept entry with the
first created row of its name identity. -/
def pairKept : List (Entry × List Fact) → BatchState → BatchState
  | [], state => state
  | (entry, oldFacts) :: kept, state =>
      match (bucketByName casing state.created (entry.nameIdentity casing)).head? with
      | none => pairKept kept state
      | some newFact =>
          pairKept kept (state.recordTransitions entry oldFacts newFact)

def supersedeBatchSafe (entries : List Entry) (store : FactStore)
    (state : BatchState) : Except FactError (FactStore × BatchState) := do
  let (store, state, kept) ←
    batchSafeLoop casing candidates tombstones ctx entries store state []
  let (inserted, store) ← insertRows ctx (kept.map Prod.fst) store
  let state := { state with created := state.created ++ inserted }
  .ok (store, pairKept casing kept state)

def supersedeSequential :
    List Entry → FactStore → BatchState → Except FactError (FactStore × BatchState)
  | [], store, state => .ok (store, state)
  | entry :: entries, store, state =>
      let identity := entry.nameIdentity casing
      let conflicts := matchingConflicts casing entry
        (candidates identity ++ state.inBatch identity) state.closedIds
      if hasIdenticalContent entry conflicts || isTombstoned casing tombstones entry then
        supersedeSequential entries store state.skip
      else do
        let store ← closeConflicts ctx.now conflicts store
        let (inserted, store) ← insertRows ctx [entry] store
        match inserted with
        | [] => supersedeSequential entries store (state.closeTracked identity conflicts)
        | newFact :: _ =>
            supersedeSequential entries store
              (((state.closeTracked identity conflicts).track identity inserted).recordTransitions
                entry conflicts newFact)

end Loops

/-- The `superseded` event of one transition. -/
def lineageEvent (orgId projectId : Uuid) (now : Time)
    (sourceEpisodeByOldFact : Uuid → Option Uuid) (transition : SupersessionEvent)
    (newFactId : Uuid) : InvalidationEvent :=
  { organizationId := orgId
    projectId := projectId
    oldFactId := transition.oldFactId
    newFactId := some newFactId
    kind := .superseded
    reason := none
    atTime := now
    sourceEpisodeId := sourceEpisodeByOldFact transition.oldFactId }

def recordLineage (orgId projectId : Uuid) (now : Time)
    (sourceEpisodeByOldFact : Uuid → Option Uuid) :
    List SupersessionEvent → FactStore → Except FactError FactStore
  | [], store => .ok store
  | transition :: transitions, store =>
      match transition.newFactId with
      | none => recordLineage orgId projectId now sourceEpisodeByOldFact transitions store
      | some newFactId => do
          let store ← store.setSupersededBy transition.oldFactId (some newFactId)
          recordLineage orgId projectId now sourceEpisodeByOldFact transitions
            (store.recordInvalidationEvent
              (lineageEvent orgId projectId now sourceEpisodeByOldFact transition
                newFactId))

/-- The row after `set_valid_to` ran on the listed identifiers. -/
def Fact.closedAt (fact : Fact) (ids : List Uuid) (now : Time) : Fact :=
  if fact.id ∈ ids then { fact with validTo := some now } else fact

@[simp] theorem Fact.closedAt_id (fact : Fact) (ids : List Uuid) (now : Time) :
    (fact.closedAt ids now).id = fact.id := by
  unfold Fact.closedAt
  split <;> rfl

theorem Fact.closedAt_closedAt (fact : Fact) (first second : List Uuid) (now : Time) :
    (fact.closedAt first now).closedAt second now =
      fact.closedAt (first ++ second) now := by
  by_cases inFirst : fact.id ∈ first <;> by_cases inSecond : fact.id ∈ second <;>
    simp [Fact.closedAt, inFirst, inSecond]

theorem Fact.closedAt_lineage (fact : Fact) (successor : Option Uuid) (ids : List Uuid)
    (now : Time) :
    ({ fact with supersededByFactId := successor } : Fact).closedAt ids now =
      { fact.closedAt ids now with supersededByFactId := successor } := by
  unfold Fact.closedAt
  split <;> rfl

/-- Closing writes `valid_to` on the listed rows and nothing else. -/
theorem closeConflicts_ok {now : Time} {conflicts : List Fact}
    {store store' : FactStore}
    (closed : closeConflicts now conflicts store = .ok store') :
    store'.facts = store.facts.map (Fact.closedAt · (conflicts.map Fact.id) now) ∧
      store'.events = store.events ∧ store'.nextId = store.nextId := by
  induction conflicts generalizing store with
  | nil =>
      cases closed
      exact ⟨by simp [Fact.closedAt], rfl, rfl⟩
  | cons conflict conflicts induction =>
      obtain ⟨between, first, rest⟩ := bind_eq_ok.mp closed
      obtain ⟨firstFacts, firstEvents, firstNext⟩ := FactStore.update_ok first
      obtain ⟨restFacts, restEvents, restNext⟩ := induction rest
      refine ⟨?_, restEvents.trans firstEvents, restNext.trans firstNext⟩
      rw [restFacts, firstFacts, FactStore.rewrite, List.map_map]
      apply List.map_congr_left
      intro fact _member
      have single : (if fact.id = conflict.id then { fact with validTo := some now }
          else fact) = fact.closedAt [conflict.id] now := by
        simp [Fact.closedAt]
      simp only [Function.comp_apply, single, Fact.closedAt_closedAt]
      rfl

/-- The lineage column of a row after the listed transitions. -/
def Fact.withLineage (fact : Fact) : List SupersessionEvent → Fact
  | [] => fact
  | transition :: transitions =>
      match transition.newFactId with
      | none => fact.withLineage transitions
      | some newFactId =>
          (if fact.id = transition.oldFactId then
            { fact with supersededByFactId := some newFactId } else fact).withLineage
              transitions

theorem Fact.withLineage_eq (fact : Fact) (transitions : List SupersessionEvent) :
    ∃ successor, fact.withLineage transitions =
      { fact with supersededByFactId := successor } := by
  induction transitions generalizing fact with
  | nil => exact ⟨fact.supersededByFactId, rfl⟩
  | cons transition transitions induction =>
      unfold Fact.withLineage
      split
      · exact induction fact
      · split
        · obtain ⟨successor, equality⟩ := induction
            { fact with supersededByFactId := some ‹Uuid› }
          exact ⟨successor, equality⟩
        · exact induction fact

theorem Fact.withLineage_of_not_mem {fact : Fact} {transitions : List SupersessionEvent}
    (untouched : fact.id ∉ transitions.map SupersessionEvent.oldFactId) :
    fact.withLineage transitions = fact := by
  induction transitions with
  | nil => rfl
  | cons transition transitions induction =>
      simp only [List.map_cons, List.mem_cons, not_or] at untouched
      unfold Fact.withLineage
      split
      · exact induction untouched.2
      · rw [if_neg untouched.1]
        exact induction untouched.2

/-- `_record_lineage` writes the lineage column and appends one `superseded`
event for every transition with a successor. -/
theorem recordLineage_ok {orgId projectId : Uuid} {now : Time}
    {episodes : Uuid → Option Uuid} {transitions : List SupersessionEvent}
    {store store' : FactStore}
    (recorded : recordLineage orgId projectId now episodes transitions store =
      .ok store') :
    store'.facts = store.facts.map (Fact.withLineage · transitions) ∧
      store'.nextId = store.nextId ∧
      store'.events = store.events ++ transitions.filterMap fun transition =>
        transition.newFactId.map (lineageEvent orgId projectId now episodes transition) := by
  induction transitions generalizing store with
  | nil =>
      cases recorded
      simp [Fact.withLineage]
  | cons transition transitions induction =>
      unfold recordLineage at recorded
      split at recorded
      · rename_i noSuccessor
        obtain ⟨facts, next, events⟩ := induction recorded
        refine ⟨?_, next, ?_⟩
        · simpa only [Fact.withLineage, noSuccessor] using facts
        · simpa [noSuccessor] using events
      · rename_i newFactId successor
        obtain ⟨between, updated, rest⟩ := bind_eq_ok.mp recorded
        obtain ⟨updatedFacts, updatedEvents, updatedNext⟩ :=
          FactStore.update_ok updated
        obtain ⟨facts, next, events⟩ := induction rest
        refine ⟨?_, next.trans updatedNext, ?_⟩
        · rw [facts]
          simp only [FactStore.recordInvalidationEvent, updatedFacts,
            FactStore.rewrite, List.map_map]
          apply List.map_congr_left
          intro fact _member
          simp only [Function.comp_apply, Fact.withLineage, successor]
        · rw [events]
          simp [FactStore.recordInvalidationEvent, updatedEvents, successor]

end OpenZync.Facts
