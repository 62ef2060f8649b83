import OpenZync.Graph.EdgeExpiry

/-!
# Expired edges and the facts that carry them

An expiry command is computed from the transition of one fact and does not look
at other facts with the same edge.  An expired edge has no active fact as long
as the closed fact was the last that carried it, and no fact is created for an
edge that is expired or about to be.
-/

namespace OpenZync.Graph

open OpenZync.Facts OpenZync.Library

theorem OpenAt.earlier {fact : Fact} {now later : Time} (isOpen : OpenAt later fact)
    (before : now ≤ later) : OpenAt now fact := by
  refine ⟨?_, ?_⟩
  · intro instant retracted
    exact lt_of_le_of_lt before (isOpen.1 instant retracted)
  · intro instant ended
    exact lt_of_le_of_lt before (isOpen.2 instant ended)

theorem openAt_of_effectiveAt {fact : Fact} {now : Time} (effective : fact.EffectiveAt now) :
    OpenAt now fact :=
  ⟨effective.1, effective.2.2⟩

section Transactions

variable {casing : Casing} {collaborators : Collaborators} {store : FactStore}

theorem edgeLocation_closedAt (fact : Fact) (closed : List Uuid) (now : Time)
    (successor : Option Uuid) :
    edgeLocation { fact.closedAt closed now with supersededByFactId := successor } =
      edgeLocation fact := by
  unfold Fact.closedAt
  split <;> rfl

theorem openAt_of_closedAt {fact : Fact} {closed : List Uuid} {now : Time}
    {successor : Option Uuid}
    (isOpen : OpenAt now { fact.closedAt closed now with supersededByFactId := successor }) :
    OpenAt now fact := by
  unfold Fact.closedAt at isOpen
  split at isOpen
  · exact absurd (isOpen.2 now rfl) (lt_irrefl now)
  · exact isOpen

/-- A row that is open after a transaction was open before, or is new. -/
def OpenedBy (store after : FactStore) (now : Time) : Prop :=
  ∀ fact ∈ after.facts, OpenAt now fact →
    (∃ original ∈ store.facts, edgeLocation original = edgeLocation fact ∧
      OpenAt now original) ∨ store.nextId ≤ fact.id

theorem OpenedBy.same (now : Time) : OpenedBy store store now :=
  fun fact member isOpen => .inl ⟨fact, member, rfl, isOpen⟩

theorem ingest_openedBy {call : IngestCall} {outcome : IngestOutcome}
    (ingested : ingestWithSupersession casing collaborators store call = .ok outcome) :
    OpenedBy store outcome.store call.now := by
  intro fact member isOpen
  obtain ⟨original, successor, rfl, stored | ⟨_, above, _⟩⟩ := ingest_row ingested member
  · left
    exact ⟨original, stored, (edgeLocation_closedAt original _ _ successor).symm,
      openAt_of_closedAt isOpen⟩
  · right
    simpa using above

theorem retract_openedBy {call : RetractCall} {outcome : InvalidationOutcome}
    (retracted : retractFact collaborators store call = .ok outcome) :
    OpenedBy store outcome.store call.atTime := by
  obtain ⟨_, _, _, _, ⟨_, same, _⟩ | ⟨_, facts, _⟩⟩ := retractFact_ok retracted
  · rw [same]
    exact OpenedBy.same call.atTime
  · intro fact member isOpen
    rw [facts, FactStore.rewrite] at member
    obtain ⟨original, stored, rfl⟩ := List.mem_map.mp member
    split at isOpen
    · exact absurd (isOpen.1 call.atTime rfl) (lt_irrefl _)
    · rename_i different
      rw [if_neg different]
      exact .inl ⟨original, stored, rfl, isOpen⟩

theorem invalidate_openedBy {call : LlmCall} {outcome : InvalidationOutcome}
    (invalidated : applyLlmInvalidations collaborators store call = .ok outcome) :
    OpenedBy store outcome.store call.now := by
  unfold applyLlmInvalidations at invalidated
  split at invalidated
  · cases invalidated
    exact OpenedBy.same call.now
  · obtain ⟨_, _, written⟩ := bind_eq_ok.mp invalidated
    obtain ⟨⟨last, transitions, skipped⟩, loop, result⟩ := bind_eq_ok.mp written
    cases result
    obtain ⟨closed, lineage, _, facts, _⟩ :=
      applyInvalidations_ok (store.loadedById_getById none) loop
    intro fact member isOpen
    dsimp only at member
    rw [facts] at member
    obtain ⟨original, stored, rfl⟩ := List.mem_map.mp member
    exact .inl ⟨original, stored, (edgeLocation_closedAt original _ _ _).symm,
      openAt_of_closedAt isOpen⟩

theorem transact_openedBy {operation : FactOperation} {after : FactStore}
    {effects : List PostCommitEffect}
    (committed : transact casing collaborators store operation = .ok (after, effects)) :
    OpenedBy store after operation.now := by
  cases operation with
  | ingest call =>
      obtain ⟨outcome, ingested, same⟩ := map_eq_ok.mp committed
      cases same
      exact ingest_openedBy ingested
  | retract call =>
      obtain ⟨outcome, retracted, same⟩ := map_eq_ok.mp committed
      cases same
      exact retract_openedBy retracted
  | invalidate call =>
      obtain ⟨outcome, invalidated, same⟩ := map_eq_ok.mp committed
      cases same
      exact invalidate_openedBy invalidated

end Transactions

/-- No fact that carries the edge is open. -/
def NoCarrier (store : FactStore) (now : Time) (location : EdgeLocation) : Prop :=
  ∀ fact ∈ store.facts, edgeLocation fact = some location → ¬ OpenAt now fact

instance (store : FactStore) (now : Time) : DecidablePred (NoCarrier store now) :=
  fun location => inferInstanceAs (Decidable (∀ fact ∈ store.facts,
    edgeLocation fact = some location → ¬ OpenAt now fact))

theorem NoCarrier.later {store : FactStore} {now later : Time} {location : EdgeLocation}
    (free : NoCarrier store now location) (before : now ≤ later) :
    NoCarrier store later location :=
  fun fact member carries isOpen => free fact member carries (isOpen.earlier before)

theorem NoCarrier.transaction {store after : FactStore} {clock now : Time}
    {location : EdgeLocation} (free : NoCarrier store clock location) (before : clock ≤ now)
    (opened : OpenedBy store after now)
    (notNew : ∀ fact ∈ after.facts, store.nextId ≤ fact.id → OpenAt now fact →
      edgeLocation fact ≠ some location) :
    NoCarrier after now location := by
  intro fact member carries isOpen
  rcases opened fact member isOpen with ⟨original, stored, same, wasOpen⟩ | above
  · exact free.later before original stored (same.trans carries) wasOpen
  · exact notNew fact member above isOpen carries

section Edges

variable {backend : EdgeStore} {casing : Casing} {collaborators : Collaborators}

/-- A new fact has no command waiting for its edge; its edge is not expired,
unless the backend makes a new one for it. -/
def CreatesFresh (state : EdgeSystem backend) (after : FactStore) (now : Time)
    (upserted : List EdgeLocation) : Prop :=
  ∀ fact ∈ after.facts, state.store.nextId ≤ fact.id → OpenAt now fact →
    ∀ location ∈ edgeLocation fact,
      (∀ command ∈ state.queue, commandLocation command ≠ location) ∧
      (backend.expired (state.edges location) = true →
        backend.reopens = true ∧ location ∈ upserted)

instance (state : EdgeSystem backend) (after : FactStore) (now : Time)
    (upserted : List EdgeLocation) : Decidable (CreatesFresh state after now upserted) :=
  inferInstanceAs (Decidable (∀ fact ∈ after.facts, state.store.nextId ≤ fact.id →
    OpenAt now fact → ∀ location ∈ edgeLocation fact, _ ∧ (_ → _)))

/-- The facts that were closed without a successor on the same edge were the
last ones to carry it. -/
def ClosedLastCarrier (state : EdgeSystem backend) (sync : GraphSync) : Prop :=
  ∀ event ∈ sync.events, ∀ key ∈ event.oldEdgeKey,
    (event.newFactId.isSome && event.successorReasserts) = false →
      NoCarrier state.store state.clock ⟨sync.orgId, sync.projectId, key⟩

instance (state : EdgeSystem backend) (sync : GraphSync) :
    Decidable (ClosedLastCarrier state sync) :=
  inferInstanceAs (Decidable (∀ event ∈ sync.events, ∀ key ∈ event.oldEdgeKey, _ → _))

/-- An action that finds the edges of its facts to itself. -/
def Uncontested (casing : Casing) (collaborators : Collaborators)
    (state : EdgeSystem backend) : EdgeAction → Prop
  | .request operation =>
      state.clock ≤ operation.now ∧
        ∀ committed ∈ (transact casing collaborators state.store operation).toOption,
          CreatesFresh state committed.1 operation.now []
  | .extract extraction =>
      state.clock ≤ extraction.call.now ∧
        (extraction.commits = true →
          ∀ outcome ∈ (ingestWithSupersession casing collaborators state.store
              extraction.call).toOption,
            CreatesFresh state outcome.store extraction.call.now
              ((extraction.upserts outcome.result.created).map Prod.fst))
  | .sync index => ∀ sync ∈ state.syncs[index]?, ClosedLastCarrier state sync
  | .attempt _ => True
  | .complete _ => True

instance (state : EdgeSystem backend) (action : EdgeAction) :
    Decidable (Uncontested casing collaborators state action) :=
  match action with
  | .request _ => inferInstanceAs (Decidable (_ ∧ ∀ committed ∈ _, _))
  | .extract _ => inferInstanceAs (Decidable (_ ∧ (_ → ∀ outcome ∈ _, _)))
  | .sync _ => inferInstanceAs (Decidable (∀ sync ∈ _, _))
  | .attempt _ => .isTrue trivial
  | .complete _ => .isTrue trivial

/-- Edges that are expired, or will be, have no carrier. -/
structure Settled (state : EdgeSystem backend) : Prop where
  expired : ∀ location, backend.expired (state.edges location) = true →
    NoCarrier state.store state.clock location
  queued : ∀ command ∈ state.queue,
    NoCarrier state.store state.clock (commandLocation command)

theorem upsertAll_expired (edges : EdgeLocation → backend.Edges)
    (upserts : List (EdgeLocation × RelationshipInput)) {location : EdgeLocation}
    (expired : backend.expired (EdgeSystem.upsertAll edges upserts location) = true) :
    backend.expired (edges location) = true ∧
      ¬ (backend.reopens = true ∧ location ∈ upserts.map Prod.fst) := by
  induction upserts generalizing edges with
  | nil => exact ⟨expired, by simp⟩
  | cons upsert upserts ih =>
      obtain ⟨next, untouched⟩ := ih _ expired
      simp only [EdgeSystem.onEdge] at next
      by_cases same : location = upsert.1
      · subst location
        rw [Function.update_self, backend.create_expired, Bool.and_eq_true] at next
        refine ⟨next.1, ?_⟩
        rintro ⟨reopens, _⟩
        simp [reopens] at next
      · rw [Function.update_of_ne same] at next
        refine ⟨next, ?_⟩
        rintro ⟨reopens, member⟩
        rcases List.mem_cons.mp member with first | later
        · exact same first
        · exact untouched ⟨reopens, later⟩

namespace Settled

variable {state : EdgeSystem backend}

theorem initial (backend : EdgeStore) (clock : Time) :
    Settled (EdgeSystem.initial backend clock) where
  expired location expired := by
    rw [EdgeSystem.initial, backend.empty_expired] at expired
    cases expired
  queued command member := by
    cases member

theorem later (settled : Settled state) {now : Time} (before : state.clock ≤ now) :
    Settled { state with clock := now } where
  expired location expired := (settled.expired location expired).later before
  queued command member := (settled.queued command member).later before

theorem commit (settled : Settled state) {after : FactStore} {now : Time}
    {syncs : List GraphSync} (upserts : List (EdgeLocation × RelationshipInput))
    (before : state.clock ≤ now) (opened : OpenedBy state.store after now)
    (fresh : CreatesFresh state after now (upserts.map Prod.fst)) :
    Settled { state with
      store := after
      clock := now
      syncs := syncs
      edges := EdgeSystem.upsertAll state.edges upserts } where
  expired location expired := by
    obtain ⟨wasExpired, untouched⟩ := upsertAll_expired state.edges upserts expired
    apply (settled.expired location wasExpired).transaction before opened
    intro fact member above isOpen carries
    exact untouched ((fresh fact member above isOpen location carries).2 wasExpired)
  queued command member := by
    apply (settled.queued command member).transaction before opened
    intro fact factMember above isOpen carries
    exact (fresh fact factMember above isOpen _ carries).1 command member rfl

theorem upserted (settled : Settled state) {now : Time} (before : state.clock ≤ now)
    (upserts : List (EdgeLocation × RelationshipInput)) :
    Settled { state with
      clock := now
      edges := EdgeSystem.upsertAll state.edges upserts } where
  expired location expired :=
    (settled.expired location (upsertAll_expired state.edges upserts expired).1).later before
  queued command member := (settled.queued command member).later before

theorem expire (settled : Settled state) {command : EdgeExpiryCommand}
    (member : command ∈ state.queue) : Settled (state.expire command) where
  expired location expired := by
    by_cases same : location = commandLocation command
    · rw [same]
      exact settled.queued command member
    · apply settled.expired location
      simpa only [EdgeSystem.expire, EdgeSystem.onEdge, Function.update_of_ne same] using expired
  queued := settled.queued

theorem sync (settled : Settled state) {sync : GraphSync}
    (closed : ClosedLastCarrier state sync) (syncs : List GraphSync) :
    Settled { state with
      syncs := syncs
      queue := state.queue ++
        computeExpiryCommands sync.events sync.orgId sync.projectId sync.atTime } where
  expired := settled.expired
  queued command member := by
    rcases List.mem_append.mp member with before | added
    · exact settled.queued command before
    · obtain ⟨event, eventMember, computed⟩ := List.mem_filterMap.mp added
      unfold expiryCommand at computed
      split at computed
      · cases computed
      · rename_i key carried
        split at computed
        · cases computed
        · rename_i notKept
          cases computed
          apply closed event eventMember key carried
          simpa using notKept

theorem perform (settled : Settled state) {action : EdgeAction}
    (uncontested : Uncontested casing collaborators state action) :
    Settled (state.perform casing collaborators action) := by
  cases action with
  | request operation =>
      obtain ⟨before, fresh⟩ := uncontested
      simp only [EdgeSystem.perform, EdgeSystem.request]
      split
      · exact settled.later before
      · rename_i after effects committed
        rw [committed] at fresh
        exact settled.commit [] before (transact_openedBy committed)
          (fresh (after, effects) rfl)
  | extract extraction =>
      obtain ⟨before, fresh⟩ := uncontested
      simp only [EdgeSystem.perform, EdgeSystem.extract]
      split
      · exact settled.later before
      · rename_i outcome ingested
        rw [ingested] at fresh
        split
        · rename_i commits
          exact settled.commit _ before (ingest_openedBy ingested) (fresh commits outcome rfl)
        · split
          · exact settled.later before
          · exact settled.upserted before _
  | sync index =>
      simp only [EdgeSystem.perform]
      split
      · exact settled
      · rename_i sync found
        exact settled.sync (uncontested sync found) _
  | attempt index =>
      simp only [EdgeSystem.perform]
      split
      · exact settled
      · rename_i command found
        exact settled.expire (List.mem_of_getElem? found)
  | complete index =>
      simp only [EdgeSystem.perform]
      split
      · exact settled
      · rename_i command found
        have expired := settled.expire (List.mem_of_getElem? found)
        exact ⟨expired.expired, fun other member =>
          expired.queued other ((List.eraseIdx_sublist _ _).subset member)⟩

end Settled

end Edges

/-- In every run of uncontested actions, an expired edge has no active fact. -/
theorem expired_edge_uncarried (backend : EdgeStore) (casing : Casing)
    (collaborators : Collaborators) {clock : Time} {actions : List EdgeAction}
    {state : EdgeSystem backend}
    (run : GuardedRun (EdgeSystem.perform casing collaborators)
      (Uncontested casing collaborators) (EdgeSystem.initial backend clock) actions state)
    {location : EdgeLocation} (expired : backend.expired (state.edges location) = true) :
    ∀ fact ∈ state.store.facts, edgeLocation fact = some location →
      ∀ instant, state.clock ≤ instant → ¬ fact.EffectiveAt instant := by
  have settled := run.invariant Settled (Settled.initial backend clock)
    fun settled uncontested => settled.perform uncontested
  intro fact member carries instant later effective
  apply settled.expired location expired fact member carries
  exact (openAt_of_effectiveAt effective).earlier later

/-- A worker that states what the company with entity 11 uses, under the name
the company has. -/
def usesExtraction (episode : Uuid) (company : String) (now : Time) : FactExtraction :=
  { call := .ofForms episode
      [{ FactForm.ofTriple company "uses" "Go" company with
        subjectEntityId := some 11
        objectEntityId := some 12 }] now
    entityByName := fun name => if name = "Go".toList then some 12 else some 11
    draws := fun _ => some (episode, now)
    commits := true }

def usesGo : EdgeLocation :=
  ⟨1, 1, ⟨11, 12, "uses".toList⟩⟩

/-- One fact is retracted and its edge expired. -/
def retractionActions : List EdgeAction :=
  [.extract (usesExtraction 1 "Acme" 10), .request (.retract ⟨0, 1, 1, none, 20⟩), .sync 0,
    .complete 0]

def performEdges (backend : EdgeStore) (actions : List EdgeAction) : EdgeSystem backend :=
  actions.foldl (EdgeSystem.perform Casing.ascii ⟨false, false, true⟩)
    (EdgeSystem.initial backend 0)

theorem expired_edge_uncarried_retraction :
    FalkorDB.edgeStore.expired
        ((performEdges FalkorDB.edgeStore retractionActions).edges usesGo) = true ∧
      ∀ fact ∈ (performEdges FalkorDB.edgeStore retractionActions).store.facts,
        edgeLocation fact = some usesGo → ¬ fact.EffectiveAt 20 := by
  have expired : FalkorDB.edgeStore.expired
      ((performEdges FalkorDB.edgeStore retractionActions).edges usesGo) = true := by
    decide +kernel
  have allowed : AllowedAlong (EdgeSystem.perform Casing.ascii ⟨false, false, true⟩)
      (Uncontested Casing.ascii ⟨false, false, true⟩)
      (EdgeSystem.initial FalkorDB.edgeStore 0) retractionActions := by
    decide +kernel
  refine ⟨expired, ?_⟩
  intro fact member carries
  exact expired_edge_uncarried FalkorDB.edgeStore Casing.ascii ⟨false, false, true⟩
    (GuardedRun.of_allowedAlong allowed) expired fact member carries 20 (by decide +kernel)

def contradiction (now : Time) : LlmCall :=
  { orgId := 1
    projectId := 1
    invalidations := [⟨some "E1".toList, none, none⟩]
    refToFact := fun ref => if ref = "E1".toList then some 0 else none
    successorByRef := fun _ => none
    now := now }

/-- The company was renamed between two episodes, and the first fact is
retracted. -/
def renamedActions : List EdgeAction :=
  [.extract (usesExtraction 1 "Acme" 10), .extract (usesExtraction 2 "Acme Corp" 15),
    .request (.retract ⟨0, 1, 1, none, 20⟩), .sync 0, .complete 0]

/-- The fact is stated once more while the command for its edge waits. -/
def restatedActions : List EdgeAction :=
  [.extract (usesExtraction 1 "Acme" 10), .request (.invalidate (contradiction 20)), .sync 0,
    .extract (usesExtraction 2 "Acme" 30), .complete 0]

/-- Every effect and every command has run, and the edge is expired under an
active fact: one that shared it with the closed fact, or one that was created
while the command waited. -/
theorem expired_edge_with_activeFact :
    ((performEdges Postgres.edgeStore renamedActions).syncs = [] ∧
        (performEdges Postgres.edgeStore renamedActions).queue = [] ∧
        Postgres.edgeStore.expired
          ((performEdges Postgres.edgeStore renamedActions).edges usesGo) = true ∧
        ∃ fact ∈ (performEdges Postgres.edgeStore renamedActions).store.facts,
          edgeLocation fact = some usesGo ∧ fact.EffectiveAt 20) ∧
      (performEdges FalkorDB.edgeStore restatedActions).syncs = [] ∧
      (performEdges FalkorDB.edgeStore restatedActions).queue = [] ∧
      FalkorDB.edgeStore.expired
        ((performEdges FalkorDB.edgeStore restatedActions).edges usesGo) = true ∧
      ∃ fact ∈ (performEdges FalkorDB.edgeStore restatedActions).store.facts,
        edgeLocation fact = some usesGo ∧ fact.EffectiveAt 30 := by
  refine ⟨⟨?_, ?_, ?_, ?_⟩, ?_, ?_, ?_, ?_⟩ <;> decide +kernel

end OpenZync.Graph
