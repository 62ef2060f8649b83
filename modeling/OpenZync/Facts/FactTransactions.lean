import OpenZync.Facts.Runs
import OpenZync.Library.LockManager
import OpenZync.Library.Transactions

/-!
# Concurrent transactions of the fact service

The three operations as programs of transactions under READ COMMITTED.  An
ingest takes its advisory locks, scans, and locks the rows of the scan one by
one, testing each row again as it is committed by then.  A retraction and an
invalidation pass load their rows first; their updates lock the rows, but the
guards have seen the rows as they were loaded.

`ingest_with_supersession` and `apply_llm_invalidations` sort their key
strings and lock `hashtext(key)` for each, inside the transaction of the
caller.  The order that all transactions share is the order of the strings;
what they wait for are 32-bit hashes.
-/

namespace OpenZync.Facts

open OpenZync.Library

/-- Where a transaction stands. -/
inductive Phase where
  | begin
  /-- Advisory keys still to take, and the rows loaded before. -/
  | locking (keys : List Text) (loaded : Uuid → Option Fact)
  /-- Rows the conflict scan still has to lock, and those it returned. -/
  | scanning (ids : List Uuid) (found : List Fact)
  /-- What both scans of an ingest returned. -/
  | writing (found : List Fact) (tombstones : NameIdentity → List Fact)
  /-- Rows still to update, and the rows loaded before. -/
  | updating (ids : List Uuid) (loaded : Uuid → Option Fact)
  | ended

abbrev FactMove := Move FactStore Phase (BitVec 32) Uuid

abbrev FactDatabase (τ : Type) := Database FactStore Phase (BitVec 32) Uuid τ

/-- Commit the tables of an outcome; an exception rolls back. -/
def commitOr {ε α : Type} (store : α → FactStore) : Except ε α → FactMove
  | .ok outcome => .commit (store outcome)
  | .error _ => .abort

section Programs

variable (casing : Casing) (collaborators : Collaborators) (hashtext : Text → BitVec 32)

/-- The conflict scan of a call. -/
def IngestCall.scan (call : IngestCall) (store : FactStore) : List Fact :=
  findConflictingActiveForUpdate casing store call.orgId call.projectId
    (call.matchKeys casing) call.now

/-- `ingest_with_supersession`. -/
def ingestProgram (call : IngestCall) (store : FactStore) : Phase → FactMove
  | .begin =>
      if call.facts = [] then .commit store
      else .go (.locking (call.lockKeys casing) fun _ => none)
  | .locking (key :: keys) loaded => .lockAdvisory (hashtext key) (.locking keys loaded)
  | .locking [] _ => .go (.scanning ((call.scan casing store).map Fact.id) [])
  | .scanning (id :: ids) found =>
      .lockRow id (.scanning ids
        (found ++ (call.scan casing store).filter fun row => decide (row.id = id)))
  | .scanning [] found => .go (.writing found (call.tombstones casing store))
  | .writing found tombstones =>
      commitOr IngestOutcome.store
        (ingestScanned casing collaborators store call (bucketByName casing found)
          tombstones)
  | _ => .stay

/-- `retract_fact`. -/
def retractProgram (call : RetractCall) (store : FactStore) : Phase → FactMove
  | .begin =>
      match checkRetraction call (store.getById call.factId (some call.organizationId)) with
      | .error _ => .abort
      | .ok none => .commit store
      | .ok (some fact) =>
          .go (.locking
            [lockKeyForIdentity fact.organizationId fact.projectId
              (nameIdentityOfFact casing fact)]
            (Function.update (fun _ => none) fact.id (some fact)))
  | .locking (key :: keys) loaded => .lockAdvisory (hashtext key) (.locking keys loaded)
  | .locking [] loaded => .go (.updating [call.factId] loaded)
  | .updating (id :: ids) loaded => .lockRow id (.updating ids loaded)
  | .updating [] loaded =>
      match loaded call.factId with
      | none => .abort
      | some fact =>
          commitOr InvalidationOutcome.store
            (writeRetraction collaborators store call fact)
  | _ => .stay

/-- The facts an invalidation pass updates: named, and open as they were
loaded. -/
def LlmCall.targets (call : LlmCall) (loaded : Uuid → Option Fact) : List Uuid :=
  (call.invalidations.filterMap fun inv => inv.existingFactRef.bind call.refToFact).filter
    fun id => (loaded id).any fun row => !decide row.Closed

/-- `apply_llm_invalidations`, with the rows of `ref_to_fact` loaded in the
same transaction. -/
def invalidateProgram (call : LlmCall) (store : FactStore) : Phase → FactMove
  | .begin =>
      if call.invalidations = [] then .commit store
      else
        match checkReferences call call.invalidations with
        | .error _ => .abort
        | .ok _ => .go (.locking call.lockKeys (store.getById · none))
  | .locking (key :: keys) loaded => .lockAdvisory (hashtext key) (.locking keys loaded)
  | .locking [] loaded => .go (.updating (call.targets loaded) loaded)
  | .updating (id :: ids) loaded => .lockRow id (.updating ids loaded)
  | .updating [] loaded =>
      commitOr InvalidationOutcome.store
        (writeInvalidations collaborators store call loaded)
  | _ => .stay

/-- The program of an operation. -/
def FactOperation.program (store : FactStore) (phase : Phase) : FactOperation → FactMove
  | .ingest call => ingestProgram casing collaborators hashtext call store phase
  | .retract call => retractProgram casing collaborators hashtext call store phase
  | .invalidate call => invalidateProgram collaborators hashtext call store phase

end Programs

/-- One scheduling step of concurrent operations. -/
def performFacts {τ : Type} [DecidableEq τ] (casing : Casing)
    (collaborators : Collaborators) (hashtext : Text → BitVec 32)
    (operations : τ → FactOperation) :
    FactDatabase τ → Action τ → FactDatabase τ :=
  Database.perform (fun transaction store phase =>
    (operations transaction).program casing collaborators hashtext store phase) .ended

/-- A call that takes advisory locks. -/
inductive LockingCall where
  | ingest (call : IngestCall)
  | invalidate (call : LlmCall)

/-- The sorted keys one call passes to `lock_conflict_identities`. -/
def LockingCall.lockKeys (casing : Casing) : LockingCall → List Text
  | .ingest call => call.lockKeys casing
  | .invalidate call => call.lockKeys

/-- The hashes a transaction locks, call after call. -/
def lockRequests (casing : Casing) (hashtext : Text → BitVec 32)
    (calls : List LockingCall) : List (BitVec 32) :=
  calls.flatMap fun call => (call.lockKeys casing).map hashtext

/-- No reachable state has a cycle of transactions that wait for each other's
advisory locks, provided no hash is requested, through the transactions, after
itself. -/
theorem advisoryLocks_no_wait_cycle {τ : Type} [DecidableEq τ] (casing : Casing)
    (hashtext : Text → BitVec 32) (transactions : τ → List LockingCall)
    (cycleFree : CycleFree fun transaction =>
      lockRequests casing hashtext (transactions transaction))
    {state : LockState τ (BitVec 32)}
    (reached : LockState.Reachable
      (fun transaction => lockRequests casing hashtext (transactions transaction)) state)
    (transaction : τ) :
    ¬ Relation.TransGen state.WaitsFor transaction transaction :=
  LockState.no_wait_cycle cycleFree reached transaction

theorem LockingCall.lockKeys_sorted (casing : Casing) (call : LockingCall) :
    (call.lockKeys casing).Pairwise (· ≤ ·) := by
  cases call with
  | ingest call => exact List.pairwise_insertionSort _ _
  | invalidate call => exact List.pairwise_insertionSort _ _

/-- One sorted call per transaction and no collision among the keys in use:
the order of the strings is an order of the hashes. -/
theorem cycleFree_of_injOn {τ : Type} {casing : Casing} {hashtext : Text → BitVec 32}
    {call : τ → LockingCall}
    (injective : Set.InjOn hashtext
      { key | ∃ transaction, key ∈ (call transaction).lockKeys casing }) :
    CycleFree fun transaction => lockRequests casing hashtext [call transaction] := by
  let used : Set Text := { key | ∃ transaction, key ∈ (call transaction).lockKeys casing }
  have recovered : ∀ key ∈ used, Function.invFunOn hashtext used (hashtext key) = key :=
    fun key member => injective.leftInvOn_invFunOn member
  apply cycleFree_of_rank (Function.invFunOn hashtext used)
  rintro earlier later ⟨transaction, before, after, program, fresh, held⟩
  simp only [lockRequests, List.flatMap_cons, List.flatMap_nil, List.append_nil] at program
  obtain ⟨keysBefore, rest, split, mappedBefore, mappedRest⟩ :=
    List.map_eq_append_iff.mp program
  obtain ⟨key, keysAfter, restSplit, rfl, _⟩ := List.map_eq_cons_iff.mp mappedRest
  subst mappedBefore
  obtain ⟨earlierKey, earlierMember, rfl⟩ := List.mem_map.mp held
  have sorted := (call transaction).lockKeys_sorted casing
  rw [split, restSplit, List.pairwise_append] at sorted
  have ordered : earlierKey ≤ key :=
    sorted.2.2 earlierKey earlierMember key List.mem_cons_self
  have different : earlierKey ≠ key := by
    rintro rfl
    exact fresh (List.mem_map_of_mem earlierMember)
  have earlierUsed : earlierKey ∈ used := by
    refine ⟨transaction, ?_⟩
    rw [split]
    exact List.mem_append_left _ earlierMember
  have keyUsed : key ∈ used := by
    refine ⟨transaction, ?_⟩
    rw [split, restSplit]
    exact List.mem_append_right _ List.mem_cons_self
  rw [recovered earlierKey earlierUsed, recovered key keyUsed]
  exact lt_of_le_of_ne ordered different

/-- An ingest of the triples "`subject` q z" for the given subjects. -/
def subjectsCall (subjects : List String) : LockingCall :=
  .ingest (.ofForms 1 (subjects.map fun subject => .ofTriple subject "q" "z" "t") 10)

/-- Two ingests of the same two triples, written in opposite order. -/
def sharedCalls (transaction : Bool) : LockingCall :=
  subjectsCall (if transaction then ["b", "a"] else ["a", "b"])

/-- A hash that separates the keys of "a" and "b". -/
def separatingHash (key : Text) : BitVec 32 :=
  if 'a' ∈ key then 0 else 1

theorem sharedCalls_requests (transaction : Bool) :
    lockRequests Casing.ascii separatingHash [sharedCalls transaction] = [0, 1] := by
  cases transaction <;> decide +kernel

/-- The second transaction waits for the first, and nothing waits in a cycle. -/
theorem advisoryLocks_no_wait_cycle_shared :
    ∃ state : LockState Bool (BitVec 32),
      LockState.Reachable (fun transaction =>
          lockRequests Casing.ascii separatingHash [sharedCalls transaction]) state ∧
        state.WaitsFor true false ∧
        ∀ transaction, ¬ Relation.TransGen state.WaitsFor transaction transaction := by
  have cycleFree : CycleFree fun transaction =>
      lockRequests Casing.ascii separatingHash [sharedCalls transaction] := by
    apply cycleFree_of_injOn
    rintro first ⟨firstTransaction, firstMember⟩ second ⟨secondTransaction, secondMember⟩
    revert firstMember secondMember
    have distinct : ∀ left right : Bool,
        ∀ first ∈ (sharedCalls left).lockKeys Casing.ascii,
        ∀ second ∈ (sharedCalls right).lockKeys Casing.ascii,
          separatingHash first = separatingHash second → first = second := by
      decide +kernel
    exact fun firstMember secondMember =>
      distinct firstTransaction secondTransaction first firstMember second secondMember
  have reached : LockState.Reachable
      (fun transaction =>
        lockRequests Casing.ascii separatingHash [sharedCalls transaction])
      ((LockState.start fun transaction =>
        lockRequests Casing.ascii separatingHash [sharedCalls transaction]).grant
          false 0 [1]) := by
    apply Relation.ReflTransGen.single
    apply LockState.Step.grant
    · simpa [LockState.start] using sharedCalls_requests false
    · intro other _ held
      cases held
  refine ⟨_, reached, ⟨0, ⟨?_, [1], ?_⟩, ?_⟩,
    advisoryLocks_no_wait_cycle Casing.ascii separatingHash
      (fun transaction => [sharedCalls transaction]) cycleFree reached⟩
  · simp [LockState.grant, LockState.start]
  · simpa [LockState.grant, LockState.start] using sharedCalls_requests true
  · simp [LockState.grant, LockState.start]

/-- Ingests of "a", "b" and of "c", "d". -/
def crossingCalls (transaction : Bool) : LockingCall :=
  subjectsCall (if transaction then ["c", "d"] else ["a", "b"])

/-- A hash under which "a" collides with "d" and "b" with "c". -/
def collidingHash (key : Text) : BitVec 32 :=
  if 'a' ∈ key ∨ 'd' ∈ key then 0 else 1

theorem crossingCalls_requests (transaction : Bool) :
    lockRequests Casing.ascii collidingHash [crossingCalls transaction] =
      if transaction then [1, 0] else [0, 1] := by
  cases transaction <;> decide +kernel

/-- Collisions turn the sorted order around: the two ingests deadlock. -/
theorem collidingHashes_deadlock :
    ∃ state : LockState Bool (BitVec 32),
      LockState.Reachable (fun transaction =>
          lockRequests Casing.ascii collidingHash [crossingCalls transaction]) state ∧
        Relation.TransGen state.WaitsFor false false := by
  let start : LockState Bool (BitVec 32) := LockState.start fun transaction =>
    lockRequests Casing.ascii collidingHash [crossingCalls transaction]
  have first : LockState.Step start (start.grant false 0 [1]) := by
    apply LockState.Step.grant
    · simpa [start, LockState.start] using crossingCalls_requests false
    · intro other _ held
      cases held
  have second : LockState.Step (start.grant false 0 [1])
      ((start.grant false 0 [1]).grant true 1 [0]) := by
    apply LockState.Step.grant
    · simpa [LockState.grant, start, LockState.start] using crossingCalls_requests true
    · intro other different
      cases other with
      | false => simp [LockState.grant, start, LockState.start]
      | true => exact absurd rfl different
  refine ⟨_, (Relation.ReflTransGen.single first).tail second, ?_⟩
  apply Relation.TransGen.tail (b := true)
  · apply Relation.TransGen.single
    refine ⟨1, ⟨?_, [], ?_⟩, ?_⟩ <;> simp [LockState.grant, start, LockState.start]
  · refine ⟨0, ⟨?_, [], ?_⟩, ?_⟩ <;> simp [LockState.grant, start, LockState.start]

end OpenZync.Facts
