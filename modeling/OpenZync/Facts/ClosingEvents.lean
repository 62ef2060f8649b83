import OpenZync.Facts.FactTransactions

/-!
# Closing events of concurrent transactions

The log records why a fact was closed.  Row locks keep what a conflict scan
returned current until its transaction ends, so an ingest closes no fact that
another transaction closed before its own instant.  A retraction and an
invalidation pass decide on rows they loaded earlier: they close a fact once
only if the row is still open when they update it.
-/

namespace OpenZync.Facts

open OpenZync.Library

/-- The events that closed a fact. -/
def closingEvents (store : FactStore) (factId : Uuid) : List InvalidationEvent :=
  store.events.filter fun event =>
    decide (event.oldFactId = factId ∧ event.kind ≠ .timeExpired)

/-- No fact has two closing events. -/
def ClosedOnce (store : FactStore) : Prop :=
  ∀ factId, (closingEvents store factId).length ≤ 1

/-- The log and the rows agree: every event is the only one of its fact, and
the row ends or is retracted at the instant of the event. -/
structure ClosingLog (store : FactStore) : Prop where
  once : (store.events.map InvalidationEvent.oldFactId).Nodup
  known : ∀ event ∈ store.events, event.oldFactId < store.nextId
  recorded : ∀ event ∈ store.events, ∀ row ∈ store.facts, row.id = event.oldFactId →
    row.validTo = some event.atTime ∨ row.invalidAt = some event.atTime

theorem ClosingLog.closedOnce {store : FactStore} (log : ClosingLog store) :
    ClosedOnce store := by
  intro factId
  have counted := List.nodup_iff_count_le_one.mp log.once factId
  rw [List.count, List.countP_map, List.countP_eq_length_filter] at counted
  refine Nat.le_trans ?_ counted
  rw [closingEvents, ← List.countP_eq_length_filter, ← List.countP_eq_length_filter]
  apply List.countP_mono_left
  intro event _member closing
  simpa using (of_decide_eq_true closing).1

theorem ClosingLog.of_no_events {store : FactStore} (empty : store.events = []) :
    ClosingLog store := by
  refine ⟨?_, ?_, ?_⟩ <;> simp [empty]

theorem ClosingLog.no_event {store : FactStore} (log : ClosingLog store) {row : Fact}
    (member : row ∈ store.facts) (isOpen : ¬ row.Closed) {event : InvalidationEvent}
    (logged : event ∈ store.events) : event.oldFactId ≠ row.id := by
  intro same
  apply isOpen
  rcases log.recorded event logged row member same.symm with ended | retracted
  · exact .inl (by rw [ended]; rfl)
  · exact .inr (by rw [retracted]; rfl)

/-- A transition of the tables that closes some rows at one instant. -/
structure Closing (store store' : FactStore) (closed : List Uuid) (now : Time) : Prop where
  grown : store.nextId ≤ store'.nextId
  logged : ∃ events, store'.events = store.events ++ events ∧
    (events.map InvalidationEvent.oldFactId).Nodup ∧
    ∀ event ∈ events, event.oldFactId ∈ closed ∧ event.atTime = now
  known : ∀ id ∈ closed, id < store'.nextId
  ended : ∀ row ∈ store'.facts, row.id ∈ closed →
    row.validTo = some now ∨ row.invalidAt = some now
  kept : ∀ row ∈ store.facts, row.id ∉ closed → row ∈ store'.facts
  old : ∀ row ∈ store'.facts, row.id < store.nextId → row.id ∉ closed → row ∈ store.facts

theorem Closing.closingLog {store store' : FactStore} {closed : List Uuid} {now : Time}
    (closing : Closing store store' closed now) (log : ClosingLog store)
    (unlogged : ∀ event ∈ store.events, event.oldFactId ∉ closed) : ClosingLog store' := by
  obtain ⟨events, appended, distinct, described⟩ := closing.logged
  refine ⟨?_, ?_, ?_⟩
  · rw [appended, List.map_append, List.nodup_append]
    refine ⟨log.once, distinct, ?_⟩
    intro oldId oldMember newId newMember same
    obtain ⟨event, member, rfl⟩ := List.mem_map.mp oldMember
    obtain ⟨other, otherMember, rfl⟩ := List.mem_map.mp newMember
    apply unlogged event member
    rw [same]
    exact (described other otherMember).1
  · intro event member
    rw [appended] at member
    rcases List.mem_append.mp member with before | added
    · exact Nat.lt_of_lt_of_le (log.known event before) closing.grown
    · exact closing.known _ (described event added).1
  · intro event member row rowMember same
    rw [appended] at member
    rcases List.mem_append.mp member with before | added
    · have untouched : row.id ∉ closed := by
        rw [same]
        exact unlogged event before
      apply log.recorded event before row _ same
      apply closing.old row rowMember _ untouched
      rw [same]
      exact log.known event before
    · obtain ⟨isClosed, atNow⟩ := described event added
      rw [atNow]
      apply closing.ended row rowMember
      rw [same]
      exact isClosed

/-- The rows that a transaction does not hold are as they were. -/
def Undisturbed (held : Uuid → Prop) (store store' : FactStore) : Prop :=
  ∀ row ∈ store.facts, ¬ held row.id → row ∈ store'.facts

theorem Closing.undisturbed {store store' : FactStore} {closed : List Uuid} {now : Time}
    {held : Uuid → Prop} (closing : Closing store store' closed now)
    (locked : ∀ id ∈ closed, held id ∨ store.nextId ≤ id) : Undisturbed held store store' := by
  intro row member notHeld
  apply closing.kept row member
  intro isClosed
  rcases locked row.id isClosed with holds | above
  · exact notHeld holds
  · exact Nat.not_lt_of_le above (store.fresh row member)

theorem writeRetraction_closing {collaborators : Collaborators} {store : FactStore}
    {call : RetractCall} {fact : Fact} {outcome : InvalidationOutcome}
    (known : fact.id < store.nextId)
    (written : writeRetraction collaborators store call fact = .ok outcome) :
    Closing store outcome.store [fact.id] call.atTime := by
  obtain ⟨facts, nextId, event, events, oldId, atTime⟩ := writeRetraction_ok written
  refine ⟨Nat.le_of_eq nextId.symm, ⟨[event], events, by simp, ?_⟩, ?_, ?_, ?_, ?_⟩
  · intro other member
    rw [List.mem_singleton.mp member, oldId, atTime]
    exact ⟨List.mem_singleton_self _, rfl⟩
  · intro id member
    rw [List.mem_singleton.mp member, nextId]
    exact known
  · intro row member closed
    rw [facts, FactStore.rewrite] at member
    obtain ⟨original, _, rfl⟩ := List.mem_map.mp member
    split at closed
    · rename_i same
      rw [if_pos same]
      exact .inr rfl
    · rename_i different
      exact absurd (List.mem_singleton.mp closed) different
  · intro row member isOpen
    rw [facts, FactStore.rewrite]
    refine List.mem_map.mpr ⟨row, member, ?_⟩
    rw [if_neg]
    exact fun same => isOpen (List.mem_singleton.mpr same)
  · intro row member _ isOpen
    rw [facts, FactStore.rewrite] at member
    obtain ⟨original, originalMember, rfl⟩ := List.mem_map.mp member
    split at isOpen
    · rename_i same
      exact absurd (List.mem_singleton.mpr same) isOpen
    · rename_i different
      rw [if_neg different]
      exact originalMember

theorem writeInvalidations_closing {collaborators : Collaborators} {store : FactStore}
    {call : LlmCall} {loaded : Uuid → Option Fact} {outcome : InvalidationOutcome}
    (keyed : LoadedById loaded) (known : ∀ id ∈ call.targets loaded, id < store.nextId)
    (written : writeInvalidations collaborators store call loaded = .ok outcome) :
    ∃ closed ⊆ call.targets loaded, Closing store outcome.store closed call.now := by
  obtain ⟨⟨last, transitions, skipped⟩, loop, result⟩ := bind_eq_ok.mp written
  cases result
  obtain ⟨closed, lineage, events, facts, nextId, log, olds, times, distinct, untouched,
    closable⟩ := applyInvalidations_ok keyed loop
  have targeted : closed ⊆ call.targets loaded := by
    intro id member
    obtain ⟨⟨row, row_loaded, isOpen⟩, inv, invMember, named⟩ := closable id member
    refine List.mem_filter.mpr ⟨List.mem_filterMap.mpr ⟨inv, invMember, named⟩, ?_⟩
    rw [Option.mem_def.mp row_loaded]
    simpa using isOpen
  refine ⟨closed, targeted, Nat.le_of_eq nextId.symm, ⟨events, log, olds ▸ distinct, ?_⟩,
    ?_, ?_, ?_, ?_⟩
  · intro event member
    refine ⟨?_, times event member⟩
    rw [← olds]
    exact List.mem_map_of_mem member
  · intro id member
    rw [nextId]
    exact known id (targeted member)
  · intro row member isClosed
    rw [facts] at member
    obtain ⟨original, _, rfl⟩ := List.mem_map.mp member
    have inClosed : original.id ∈ closed := by
      simpa using isClosed
    left
    simp [Fact.closedAt, inClosed]
  · intro row member isOpen
    rw [facts]
    refine List.mem_map.mpr ⟨row, member, ?_⟩
    rw [untouched row isOpen, Fact.closedAt, if_neg isOpen]
  · intro row member _ isOpen
    rw [facts] at member
    obtain ⟨original, originalMember, rfl⟩ := List.mem_map.mp member
    have notClosed : original.id ∉ closed := by
      simpa using isOpen
    rw [untouched original notClosed, Fact.closedAt, if_neg notClosed]
    exact originalMember

theorem lineageEvents_oldFactIds (orgId projectId : Uuid) (now : Time)
    (episodes : Uuid → Option Uuid) (transitions : List SupersessionEvent) :
    ((transitions.filterMap fun transition => transition.newFactId.map
        (lineageEvent orgId projectId now episodes transition)).map
          InvalidationEvent.oldFactId).Sublist
      (transitions.map SupersessionEvent.oldFactId) := by
  induction transitions with
  | nil => exact .slnil
  | cons transition transitions induction =>
      cases successor : transition.newFactId with
      | none => simpa [successor] using induction.cons _
      | some newFactId =>
          simpa [successor, lineageEvent] using induction.cons_cons transition.oldFactId

theorem ingestScanned_closing {casing : Casing} {collaborators : Collaborators}
    {store : FactStore} {call : IngestCall} {found : List Fact}
    {tombstones : NameIdentity → List Fact} {outcome : IngestOutcome}
    (stored : found ⊆ store.facts) (distinct : (found.map Fact.id).Nodup)
    (ingested : ingestScanned casing collaborators store call (bucketByName casing found)
      tombstones = .ok outcome) :
    ∃ closed, (∀ id ∈ closed, id ∈ found.map Fact.id ∨ store.nextId ≤ id) ∧
      Closing store outcome.store closed call.now := by
  have scanned : Scanned casing store (bucketByName casing found) :=
    ⟨found, stored, distinct, rfl⟩
  obtain ⟨final, run, _, pending, _, _, _, episodes, lineage⟩ := ingestScanned_run ingested
  obtain ⟨ledger, facts, nextId, log⟩ := recordLineage_ledger scanned run lineage
  obtain ⟨lost, accounts⟩ := Machine.Accounts.run run (.start store _)
  have account := accounts.complete pending
  have transitions : (final.events.map SupersessionEvent.oldFactId).Nodup :=
    (List.nodup_append.mp (account.nodup ledger.supersededNodup)).1
  have linked : ∀ id ∈ final.events.map SupersessionEvent.oldFactId, id ∈ final.superseded :=
    fun id member => account.symm.subset (List.mem_append_left _ member)
  have unlinked : ∀ row : Fact, row.id ∉ final.superseded →
      (row.closedAt final.superseded call.now).withLineage final.events = row := by
    intro row isOpen
    rw [Fact.closedAt, if_neg isOpen]
    exact Fact.withLineage_of_not_mem fun member => isOpen (linked _ member)
  have sublist := lineageEvents_oldFactIds call.orgId call.projectId call.now episodes
    final.events
  have rows : outcome.store.facts = (store.facts ++ final.created).map fun row =>
      (row.closedAt final.superseded call.now).withLineage final.events := by
    rw [facts, ledger.facts, List.map_map]
    rfl
  refine ⟨final.superseded, ?_, ?_⟩
  · intro id member
    rcases ledger.closable id member with ⟨_, identity, row, candidate, rfl⟩ |
      ⟨row, created, rfl⟩
    · exact .inl (List.mem_map_of_mem (mem_bucketByName.mp candidate).1)
    · exact .inr (ledger.created row created).1
  · refine ⟨nextId ▸ ledger.grown, ⟨_, log, sublist.nodup transitions, ?_⟩, ?_, ?_, ?_, ?_⟩
    · intro event member
      refine ⟨linked _ (sublist.subset (List.mem_map_of_mem member)), ?_⟩
      obtain ⟨transition, _, recorded⟩ := List.mem_filterMap.mp member
      obtain ⟨newFactId, _, rfl⟩ := Option.map_eq_some_iff.mp recorded
      rfl
    · intro id member
      rw [nextId]
      exact ledger.superseded_lt scanned member
    · intro row member isClosed
      rw [rows] at member
      obtain ⟨original, _, rfl⟩ := List.mem_map.mp member
      obtain ⟨successor, shape⟩ :=
        (original.closedAt final.superseded call.now).withLineage_eq final.events
      rw [shape] at isClosed ⊢
      have inClosed : original.id ∈ final.superseded := by
        simpa using isClosed
      left
      simp [Fact.closedAt, inClosed]
    · intro row member isOpen
      rw [rows]
      exact List.mem_map.mpr ⟨row, List.mem_append_left _ member, unlinked row isOpen⟩
    · intro row member below isOpen
      rw [rows] at member
      obtain ⟨original, source, rfl⟩ := List.mem_map.mp member
      obtain ⟨successor, shape⟩ :=
        (original.closedAt final.superseded call.now).withLineage_eq final.events
      have sameId : ((original.closedAt final.superseded call.now).withLineage
          final.events).id = original.id := by
        rw [shape]
        exact original.closedAt_id _ _
      rw [sameId] at below isOpen
      rw [unlinked original isOpen]
      rcases List.mem_append.mp source with before | created
      · exact before
      · exact absurd below (Nat.not_lt_of_le (ledger.created original created).1)

/-- The rows are committed, effective at the instant of the call, and held. -/
def FoundHeld (call : IngestCall) (store : FactStore) (held : Uuid → Prop)
    (found : List Fact) : Prop :=
  ∀ row ∈ found, row ∈ store.facts ∧ row.EffectiveAt call.now ∧ held row.id

/-- What an operation has established in each phase. -/
def Prepared (store : FactStore) (held : Uuid → Prop) : FactOperation → Phase → Prop
  | .ingest call, .scanning ids found =>
      FoundHeld call store held found ∧ (found.map Fact.id ++ ids).Nodup
  | .ingest call, .writing found _ =>
      FoundHeld call store held found ∧ (found.map Fact.id).Nodup
  | .retract _, .locking _ loaded => LoadedById loaded
  | .retract call, .updating ids loaded =>
      LoadedById loaded ∧ (call.factId ∈ ids ∨ held call.factId)
  | .invalidate _, .locking _ loaded => LoadedById loaded
  | .invalidate call, .updating ids loaded =>
      LoadedById loaded ∧ ∀ id ∈ call.targets loaded, id ∈ ids ∨ held id
  | _, _ => True

/-- The condition under which an operation closes what it writes for the first
time.  An ingest is not earlier than an event of a row it found; the rows that
a retraction or an invalidation pass updates are still open. -/
def FactOperation.ClosesOpen (store : FactStore) : FactOperation → Phase → Prop
  | .ingest call, .writing found _ =>
      ∀ event ∈ store.events, ∀ row ∈ found, event.oldFactId = row.id →
        event.atTime ≤ call.now
  | .retract call, .updating [] _ =>
      ∃ row ∈ store.facts, row.id = call.factId ∧ ¬ row.Closed
  | .invalidate call, .updating [] loaded =>
      ∀ id ∈ call.targets loaded, ∃ row ∈ store.facts, row.id = id ∧ ¬ row.Closed
  | _, _ => True

instance (store : FactStore) (operation : FactOperation) :
    DecidablePred (operation.ClosesOpen store) :=
  fun phase =>
    match operation, phase with
    | .ingest call, .writing found _ =>
        inferInstanceAs (Decidable (∀ event ∈ store.events, ∀ row ∈ found,
          event.oldFactId = row.id → event.atTime ≤ call.now))
    | .retract call, .updating [] _ =>
        inferInstanceAs (Decidable (∃ row ∈ store.facts, row.id = call.factId ∧ ¬ row.Closed))
    | .invalidate call, .updating [] loaded =>
        inferInstanceAs (Decidable (∀ id ∈ call.targets loaded,
          ∃ row ∈ store.facts, row.id = id ∧ ¬ row.Closed))
    | .ingest _, .begin | .ingest _, .locking _ _ | .ingest _, .scanning _ _
    | .ingest _, .updating _ _ | .ingest _, .ended
    | .retract _, .begin | .retract _, .locking _ _ | .retract _, .scanning _ _
    | .retract _, .writing _ _ | .retract _, .updating (_ :: _) _ | .retract _, .ended
    | .invalidate _, .begin | .invalidate _, .locking _ _ | .invalidate _, .scanning _ _
    | .invalidate _, .writing _ _ | .invalidate _, .updating (_ :: _) _
    | .invalidate _, .ended => .isTrue trivial

section Moves

variable {casing : Casing} {collaborators : Collaborators} {hashtext : Text → BitVec 32}
  {store : FactStore} {held : Uuid → Prop} {phase : Phase}

/-- What the next move of an operation establishes. -/
abbrev SoundMove (store : FactStore) (held : Uuid → Prop) (operation : FactOperation)
    (move : FactMove) : Prop :=
  move.Sound ClosingLog Undisturbed
    (fun store held phase => Prepared store held operation phase) store held

/-- A transaction that commits what it read disturbs nothing. -/
theorem soundMove_unchanged {operation : FactOperation} (log : ClosingLog store) :
    SoundMove store held operation (.commit store) :=
  ⟨log, fun _ member _ => member⟩

theorem soundMove_commitOr {operation : FactOperation} {ε α : Type}
    {tables : α → FactStore} {result : Except ε α}
    (committed : ∀ outcome, result = .ok outcome →
      ClosingLog (tables outcome) ∧ Undisturbed held store (tables outcome)) :
    SoundMove store held operation (commitOr tables result) := by
  cases result with
  | error _ => trivial
  | ok outcome => exact committed outcome rfl

/-- A scan finds a row of the table at most once. -/
theorem scan_filter_sublist (casing : Casing) (call : IngestCall) (store : FactStore)
    (id : Uuid) :
    (((call.scan casing store).filter fun row => decide (row.id = id)).map
      Fact.id).Sublist [id] := by
  have distinct : (((call.scan casing store).filter fun row =>
      decide (row.id = id)).map Fact.id).Nodup :=
    ((List.filter_sublist.trans List.filter_sublist).map _).nodup store.primaryKey
  have same : ∀ other ∈ ((call.scan casing store).filter fun row =>
      decide (row.id = id)).map Fact.id, other = id := by
    intro other member
    obtain ⟨row, rowMember, rfl⟩ := List.mem_map.mp member
    exact of_decide_eq_true (List.mem_filter.mp rowMember).2
  rw [List.eq_replicate_of_mem same] at distinct ⊢
  exact List.replicate_sublist_replicate id |>.mpr (List.nodup_replicate.mp distinct)

theorem ingest_soundMove {call : IngestCall} (log : ClosingLog store)
    (prepared : Prepared store held (.ingest call) phase)
    (closesOpen : (FactOperation.ingest call).ClosesOpen store phase) :
    SoundMove store held (.ingest call)
      (ingestProgram casing collaborators hashtext call store phase) := by
  cases phase with
  | begin =>
      rw [ingestProgram]
      split
      · exact soundMove_unchanged log
      · trivial
  | locking keys loaded =>
      cases keys with
      | cons key keys => trivial
      | nil =>
          refine ⟨by simp [FoundHeld], ?_⟩
          rw [List.map_nil, List.nil_append]
          exact (List.filter_sublist.map _).nodup store.primaryKey
  | scanning ids found =>
      cases ids with
      | nil => exact ⟨prepared.1, by simpa using prepared.2⟩
      | cons id ids =>
          obtain ⟨current, distinct⟩ := prepared
          refine ⟨?_, ?_⟩
          · intro row member
            rcases List.mem_append.mp member with before | locked
            · obtain ⟨stored, effective, holds⟩ := current row before
              exact ⟨stored, effective, .inr holds⟩
            · obtain ⟨scanned, same⟩ := List.mem_filter.mp locked
              obtain ⟨stored, passed⟩ := List.mem_filter.mp scanned
              simp only [Bool.and_eq_true, decide_eq_true_eq] at passed
              exact ⟨stored, passed.1.2, .inl (of_decide_eq_true same)⟩
          · rw [List.map_append, List.append_assoc]
            apply List.Sublist.nodup _ distinct
            apply List.Sublist.append_left
            exact (scan_filter_sublist casing call store id).append_right ids
  | writing found tombstones =>
      obtain ⟨current, distinct⟩ := prepared
      apply soundMove_commitOr
      intro outcome ingested
      obtain ⟨closed, sources, closing⟩ :=
        ingestScanned_closing (fun row member => (current row member).1) distinct ingested
      refine ⟨closing.closingLog log ?_, closing.undisturbed ?_⟩
      · intro event logged isClosed
        rcases sources _ isClosed with scanned | above
        · obtain ⟨row, member, same⟩ := List.mem_map.mp scanned
          obtain ⟨stored, ⟨notRetracted, _, notEnded⟩, _⟩ := current row member
          have earlier := closesOpen event logged row member same.symm
          rcases log.recorded event logged row stored same with ended | retracted
          · exact absurd (notEnded _ ended) (not_lt_of_ge earlier)
          · exact absurd (notRetracted _ retracted) (not_lt_of_ge earlier)
        · exact Nat.not_lt_of_le above (log.known event logged)
      · intro id isClosed
        rcases sources id isClosed with scanned | above
        · obtain ⟨row, member, rfl⟩ := List.mem_map.mp scanned
          exact .inl (current row member).2.2
        · exact .inr above
  | updating ids loaded => trivial
  | ended => trivial

theorem retract_soundMove {call : RetractCall} (log : ClosingLog store)
    (prepared : Prepared store held (.retract call) phase)
    (closesOpen : (FactOperation.retract call).ClosesOpen store phase) :
    SoundMove store held (.retract call)
      (retractProgram casing collaborators hashtext call store phase) := by
  cases phase with
  | begin =>
      rw [retractProgram]
      split
      · trivial
      · exact soundMove_unchanged log
      · rename_i fact checked
        intro id row member
        by_cases same : id = fact.id
        · subst same
          rw [Function.update_self] at member
          cases member
          rfl
        · rw [Function.update_of_ne same] at member
          cases member
  | locking keys loaded =>
      cases keys with
      | cons key keys => exact prepared
      | nil => exact ⟨prepared, .inl (List.mem_singleton_self _)⟩
  | scanning ids found => trivial
  | writing found tombstones => trivial
  | updating ids loaded =>
      obtain ⟨keyed, locked⟩ := prepared
      cases ids with
      | cons id ids =>
          refine ⟨keyed, ?_⟩
          rcases locked with waiting | holds
          · rcases List.mem_cons.mp waiting with same | later
            · exact .inr (.inl same)
            · exact .inl later
          · exact .inr (.inr holds)
      | nil =>
          obtain ⟨row, stored, sameRow, isOpen⟩ := closesOpen
          have holds : held call.factId := locked.resolve_left (by simp)
          rw [retractProgram]
          split
          · trivial
          · rename_i fact found
            have sameFact : fact.id = call.factId := keyed _ fact found
            apply soundMove_commitOr
            intro outcome written
            have closing := writeRetraction_closing
              (by rw [sameFact, ← sameRow]; exact store.fresh row stored) written
            refine ⟨closing.closingLog log ?_, closing.undisturbed ?_⟩
            · intro event logged isClosed
              apply log.no_event stored isOpen logged
              rw [List.mem_singleton.mp isClosed, sameFact, sameRow]
            · intro id isClosed
              rw [List.mem_singleton.mp isClosed, sameFact]
              exact .inl holds
  | ended => trivial

theorem invalidate_soundMove {call : LlmCall} (log : ClosingLog store)
    (prepared : Prepared store held (.invalidate call) phase)
    (closesOpen : (FactOperation.invalidate call).ClosesOpen store phase) :
    SoundMove store held (.invalidate call)
      (invalidateProgram collaborators hashtext call store phase) := by
  cases phase with
  | begin =>
      rw [invalidateProgram]
      split
      · exact soundMove_unchanged log
      · split
        · trivial
        · exact store.loadedById_getById none
  | locking keys loaded =>
      cases keys with
      | cons key keys => exact prepared
      | nil => exact ⟨prepared, fun id member => .inl member⟩
  | scanning ids found => trivial
  | writing found tombstones => trivial
  | updating ids loaded =>
      obtain ⟨keyed, locked⟩ := prepared
      cases ids with
      | cons id ids =>
          refine ⟨keyed, ?_⟩
          intro target member
          rcases locked target member with waiting | holds
          · rcases List.mem_cons.mp waiting with same | later
            · exact .inr (.inl same)
            · exact .inl later
          · exact .inr (.inr holds)
      | nil =>
          apply soundMove_commitOr
          intro outcome written
          have known : ∀ id ∈ call.targets loaded, id < store.nextId := by
            intro id member
            obtain ⟨row, stored, rfl, _⟩ := closesOpen id member
            exact store.fresh row stored
          obtain ⟨closed, targeted, closing⟩ :=
            writeInvalidations_closing keyed known written
          refine ⟨closing.closingLog log ?_, closing.undisturbed ?_⟩
          · intro event logged isClosed
            obtain ⟨row, stored, sameRow, isOpen⟩ := closesOpen _ (targeted isClosed)
            exact log.no_event stored isOpen logged sameRow.symm
          · intro id isClosed
            exact .inl ((locked id (targeted isClosed)).resolve_left (by simp))
  | ended => trivial

/-- A transaction keeps what it has established when others commit. -/
theorem Prepared.framed {operation : FactOperation} {store' : FactStore}
    {own : Uuid → Prop} (disjoint : ∀ id, own id → ¬ held id)
    (undisturbed : Undisturbed held store store')
    (prepared : Prepared store own operation phase) :
    Prepared store' own operation phase := by
  have found_framed : ∀ (call : IngestCall) (found : List Fact),
      FoundHeld call store own found → FoundHeld call store' own found := by
    intro call found current row member
    obtain ⟨stored, effective, holds⟩ := current row member
    exact ⟨undisturbed row stored (disjoint _ holds), effective, holds⟩
  cases operation with
  | ingest call =>
      cases phase with
      | scanning ids found => exact ⟨found_framed call found prepared.1, prepared.2⟩
      | writing found tombstones => exact ⟨found_framed call found prepared.1, prepared.2⟩
      | _ => trivial
  | retract call => cases phase <;> exact prepared
  | invalidate call => cases phase <;> exact prepared

end Moves

/-- Every scheduled operation closes open rows only. -/
def ClosesOpenRows {τ : Type} (operations : τ → FactOperation)
    (database : FactDatabase τ) : Action τ → Prop
  | .advance transaction =>
      (operations transaction).ClosesOpen database.committed (database.phase transaction)
  | .abort _ => True

instance {τ : Type} (operations : τ → FactOperation) (database : FactDatabase τ) :
    DecidablePred (ClosesOpenRows operations database)
  | .advance transaction =>
      inferInstanceAs (Decidable ((operations transaction).ClosesOpen database.committed
        (database.phase transaction)))
  | .abort _ => .isTrue trivial

/-- However the transactions interleave, no fact gets two closing events, as
long as they close rows that are still open. -/
theorem concurrent_closedOnce {τ : Type} [DecidableEq τ] (casing : Casing)
    (collaborators : Collaborators) (hashtext : Text → BitVec 32)
    (operations : τ → FactOperation) {store : FactStore} (unlogged : store.events = [])
    {actions : List (Action τ)} {database : FactDatabase τ}
    (run : GuardedRun (performFacts casing collaborators hashtext operations)
      (ClosesOpenRows operations) (Database.start store .begin) actions database) :
    ClosedOnce database.committed := by
  have consistent : database.Consistent ClosingLog
      (fun transaction store held phase =>
        Prepared store held (operations transaction) phase) := by
    apply run.invariant
    · refine ⟨ClosingLog.of_no_events unlogged, ?_⟩
      intro transaction
      cases operation : operations transaction <;> simp [Database.start, Prepared]
    · intro database action consistent closesOpen
      apply consistent.perform Undisturbed
      · intro transaction store held
        cases operations transaction <;> trivial
      · rintro transaction rfl
        have prepared := consistent.transactions transaction
        have log := consistent.store
        simp only [ClosesOpenRows] at closesOpen
        cases operation : operations transaction with
        | ingest call =>
            rw [operation] at prepared closesOpen
            exact ingest_soundMove log prepared closesOpen
        | retract call =>
            rw [operation] at prepared closesOpen
            exact retract_soundMove log prepared closesOpen
        | invalidate call =>
            rw [operation] at prepared closesOpen
            exact invalidate_soundMove log prepared closesOpen
      · intro transaction store held own phase disjoint undisturbed prepared
        exact prepared.framed disjoint undisturbed
  exact consistent.store.closedOnce

/-- Two episodes restate the fact of `firstEpisodeLedger`. -/
def restatements (transaction : Bool) : FactOperation :=
  if transaction then .ingest (.ofForms 3 [.ofTriple "Acme" "uses" "Go" "third"] 30)
  else .ingest (.ofForms 2 [.ofTriple "Acme" "uses" "Go" "second"] 20)

/-- Both begin; the second waits for the advisory lock of the first. -/
def restatementSchedule : List (Action Bool) :=
  [false, true, false, true, false, false, false, false, true, true, true, true, true].map
    .advance

theorem concurrent_closedOnce_restatements :
    ∃ database : FactDatabase Bool,
      GuardedRun (performFacts Casing.ascii ⟨false, false, false⟩ (fun _ => 0) restatements)
        (ClosesOpenRows restatements) (Database.start firstEpisodeLedger.store .begin)
        restatementSchedule database ∧
      database.committed.events.map InvalidationEvent.oldFactId = [0, 1] ∧
      ClosedOnce database.committed := by
  have run : GuardedRun
      (performFacts Casing.ascii ⟨false, false, false⟩ (fun _ => 0) restatements)
      (ClosesOpenRows restatements) (Database.start firstEpisodeLedger.store .begin)
      restatementSchedule _ := .of_allowedAlong (by decide +kernel)
  exact ⟨_, run, by decide +kernel,
    concurrent_closedOnce Casing.ascii ⟨false, false, false⟩ (fun _ => 0) restatements rfl run⟩

/-- Two retractions of one fact. -/
def retractions (transaction : Bool) : FactOperation :=
  .retract ⟨0, 1, 1, none, if transaction then 21 else 20⟩

/-- Both load the open row before either takes its locks. -/
def retractionSchedule : List (Action Bool) :=
  [false, true, false, false, false, false, true, true, true, true].map .advance

/-- The second retraction waits for the first and then closes the fact
again. -/
theorem racingRetractions_closeTwice :
    ¬ ClosedOnce (retractionSchedule.foldl
      (performFacts Casing.ascii ⟨false, false, false⟩ (fun _ => 0) retractions)
      (Database.start firstEpisodeLedger.store .begin)).committed := by
  intro closedOnce
  exact absurd (closedOnce 0) (by decide +kernel)

end OpenZync.Facts
