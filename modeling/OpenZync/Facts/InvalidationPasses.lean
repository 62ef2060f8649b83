import OpenZync.Facts.RetractionEffect

/-!
# Invalidation passes are all or nothing

An invalidation pass checks every reference before its first statement, and a
row that it has closed is skipped when it is named again.  A fact with an end
that is still to come is skipped as if it were closed, and the range of a fact
that has yet to start is refused by the database in the middle of the loop.
-/

namespace OpenZync.Facts

open OpenZync.Library

/-- The fact starts after the instant. -/
def Fact.StartsAfter (fact : Fact) (now : Time) : Prop :=
  ∃ start ∈ fact.validFrom, now < start

instance (fact : Fact) (now : Time) : Decidable (fact.StartsAfter now) :=
  inferInstanceAs (Decidable (∃ start ∈ fact.validFrom, now < start))

/-- The loaded row that an invalidation names. -/
def LlmCall.target (call : LlmCall) (loaded : Uuid → Option Fact) (inv : LlmInvalidation) :
    Option Fact :=
  (inv.existingFactRef.bind call.refToFact).bind loaded

/-- The open rows that the invalidations name, in their order. -/
def LlmCall.openTargets (call : LlmCall) (loaded : Uuid → Option Fact)
    (invs : List LlmInvalidation) : List Fact :=
  (invs.filterMap (call.target loaded)).filter fun row => decide (¬ row.Closed)

/-- `ref_to_fact` maps references to stored rows. -/
def LlmCall.Candidates (call : LlmCall) (store : FactStore) : Prop :=
  ∀ ref, ∀ id ∈ call.refToFact ref, ∃ row ∈ store.facts, row.id = id

/-- The successor row of an invalidation. -/
def LlmCall.successorRow (call : LlmCall) (store : FactStore) (inv : LlmInvalidation) :
    Option Fact :=
  (call.successorOf inv).bind (store.getById · none)

/-- The loaded rows after the loop has ended one of them. -/
def LlmCall.loadedAfter (call : LlmCall) (loaded : Uuid → Option Fact) (old : Fact) :
    Uuid → Option Fact :=
  Function.update loaded old.id (some { old with validTo := some call.now })

/-- The event row of one invalidation. -/
def LlmCall.eventFor (call : LlmCall) (store : FactStore) (old : Fact)
    (inv : LlmInvalidation) : InvalidationEvent :=
  llmEvent call old (call.successorRow store inv) (inv.reason.filter (· ≠ []))

/-- The tables as the loop of `apply_llm_invalidations` leaves them, at its end or
where a statement raises. -/
def invalidatedStore (call : LlmCall) :
    List LlmInvalidation → (Uuid → Option Fact) → FactStore → FactStore
  | [], _, store => store
  | inv :: invs, loaded, store =>
      match call.target loaded inv with
      | none => store
      | some old =>
          if old.Closed then invalidatedStore call invs loaded store
          else
            match store.setValidTo old.id call.now with
            | .error _ => store
            | .ok ended =>
                match ended.setSupersededBy old.id
                    ((call.successorRow store inv).map Fact.id) with
                | .error _ => ended
                | .ok linked =>
                    invalidatedStore call invs (call.loadedAfter loaded old)
                      (linked.recordInvalidationEvent (call.eventFor store old inv))

/-- The tables as a whole pass leaves them, whether it returns or raises. -/
def LlmCall.storeLeft (call : LlmCall) (store : FactStore) : FactStore :=
  match checkReferences call call.invalidations with
  | .error _ => store
  | .ok () => invalidatedStore call call.invalidations (store.getById · none) store

/-- The call ended the fact at its instant and recorded one event for it. -/
def ClosedByPass (call : LlmCall) (store store' : FactStore) (factId : Uuid) : Prop :=
  (∀ row ∈ store'.facts, row.id = factId → row.validTo = some call.now) ∧
    ((store'.events.drop store.events.length).countP fun event =>
      decide (event.kind = .llmInvalidated ∧ event.oldFactId = factId)) = 1

/-- A pass that raises has written nothing.  One that returns has closed every
effective fact that it names, none twice, and has counted every invalidation. -/
def AllOrNothing (collaborators : Collaborators) (store : FactStore) (call : LlmCall) : Prop :=
  match applyLlmInvalidations collaborators store call with
  | .error _ =>
      (call.storeLeft store).facts = store.facts ∧ (call.storeLeft store).events = store.events
  | .ok outcome =>
      (∀ fact ∈ store.facts, call.Names fact.id → fact.EffectiveAt call.now →
        ClosedByPass call store outcome.store fact.id) ∧
      ((outcome.store.events.drop store.events.length).map
        InvalidationEvent.oldFactId).Nodup ∧
      (outcome.store.events.drop store.events.length).length = outcome.closedCount ∧
      outcome.closedCount + outcome.skippedCount = call.invalidations.length

/-- Every reference is one the LLM was given. -/
def LlmCall.KnowsReferences (call : LlmCall) : Prop :=
  ∀ inv ∈ call.invalidations,
    (∃ id, inv.existingFactRef.bind call.refToFact = some id) ∧
    ∀ ref ∈ inv.successorFactRef, ∃ successor, call.successorByRef ref = some successor

/-- No invalidation is left half done: the first open fact that is named is
refused at once, or no open fact that is named starts after the pass and every
effective one is open. -/
def LlmCall.Feasible (call : LlmCall) (store : FactStore) : Prop :=
  (∃ first rest, call.openTargets (store.getById · none) call.invalidations = first :: rest ∧
    first.StartsAfter call.now) ∨
  (∀ row ∈ call.openTargets (store.getById · none) call.invalidations,
    ¬ row.StartsAfter call.now) ∧
  ∀ fact ∈ store.facts, call.Names fact.id → fact.EffectiveAt call.now → ¬ fact.Closed

variable {collaborators : Collaborators} {call : LlmCall} {store : FactStore} {fact : Fact}

/-- Two rows that differ in their lineage, and in an end that only one has. -/
structure Fact.Narrows (narrow wide : Fact) : Prop where
  validFrom : narrow.validFrom = wide.validFrom
  validTo : narrow.validTo = wide.validTo ∨ wide.validTo = none
  invalidAt : narrow.invalidAt = wide.invalidAt
  sourceEpisodeId : narrow.sourceEpisodeId = wide.sourceEpisodeId
  subject : narrow.subject = wide.subject
  predicate : narrow.predicate = wide.predicate
  object : narrow.object = wide.object

theorem Fact.Narrows.refl (fact : Fact) : fact.Narrows fact :=
  ⟨rfl, .inl rfl, rfl, rfl, rfl, rfl, rfl⟩

theorem StartsBefore.widen {lower upper wide : Option Time} (before : StartsBefore lower upper)
    (wider : upper = wide ∨ wide = none) : StartsBefore lower wide := by
  rcases wider with rfl | rfl
  · exact before
  · intro _ _ stop unbounded
    cases unbounded

/-- Rows that overlap did so before they were ended. -/
theorem Fact.Narrows.excludes {left right wideLeft wideRight : Fact}
    (leftNarrows : left.Narrows wideLeft) (rightNarrows : right.Narrows wideRight)
    (excludes : left.Excludes right) : wideLeft.Excludes wideRight := by
  obtain ⟨leftValid, rightValid, episode, subject, predicate, object, overlap⟩ := excludes
  rw [leftNarrows.sourceEpisodeId, rightNarrows.sourceEpisodeId] at episode
  rw [leftNarrows.subject, rightNarrows.subject] at subject
  rw [leftNarrows.predicate, rightNarrows.predicate] at predicate
  rw [leftNarrows.object, rightNarrows.object] at object
  obtain ⟨leftOwn, rightOwn, leftRight, rightLeft⟩ := overlap
  rw [leftNarrows.validFrom] at leftOwn leftRight
  rw [rightNarrows.validFrom] at rightOwn rightLeft
  exact ⟨leftNarrows.invalidAt ▸ leftValid, rightNarrows.invalidAt ▸ rightValid, episode,
    subject, predicate, object, leftOwn.widen leftNarrows.validTo,
    rightOwn.widen rightNarrows.validTo, leftRight.widen rightNarrows.validTo,
    rightLeft.widen leftNarrows.validTo⟩

theorem FactStore.update_exists_of_narrows {id : Uuid} {change : Fact → Fact}
    {keepsId : ∀ fact, (change fact).id = fact.id}
    (ordered : ∀ fact ∈ store.facts, fact.id = id → fact.invalidAt = none →
      (change fact).RangeOrdered)
    (narrows : ∀ fact ∈ store.facts, fact.id = id → (change fact).Narrows fact) :
    ∃ store', store.update id change keepsId = .ok store' := by
  have narrowed : ∀ fact ∈ store.facts,
      (if fact.id = id then change fact else fact).Narrows fact := by
    intro fact member
    split
    · rename_i target
      exact narrows fact member target
    · exact .refl fact
  apply FactStore.update_exists
  · intro row member valid
    obtain ⟨original, stored, rfl⟩ := List.mem_map.mp member
    have validBefore := (narrowed original stored).invalidAt.symm.trans valid
    split
    · rename_i target
      exact ordered original stored target validBefore
    · exact store.ranges original stored validBefore
  · rw [FactStore.rewrite, List.pairwise_map]
    apply List.Pairwise.imp_of_mem _ store.temporalExcl
    intro left right leftStored rightStored apart excludes
    exact apart ((narrowed left leftStored).excludes (narrowed right rightStored) excludes)

/-- The lineage of a row can always be rewritten. -/
theorem FactStore.setSupersededBy_total (store : FactStore) (id : Uuid)
    (successor : Option Uuid) : ∃ store', store.setSupersededBy id successor = .ok store' := by
  apply FactStore.update_exists_of_narrows
  · intro fact stored _ valid
    exact store.ranges fact stored valid
  · intro fact _ _
    exact ⟨rfl, .inl rfl, rfl, rfl, rfl, rfl, rfl⟩

theorem FactStore.setValidTo_isOk_iff {now : Time} (stored : fact ∈ store.facts)
    (isOpen : ¬ fact.Closed) :
    (∃ store', store.setValidTo fact.id now = .ok store') ↔ ¬ fact.StartsAfter now := by
  have unbounded : fact.validTo = none := by
    simpa using fun ended => isOpen (.inl ended)
  have valid : fact.invalidAt = none := by
    simpa using fun retracted => isOpen (.inr retracted)
  constructor
  · rintro ⟨store', ended⟩ ⟨start, starts, later⟩
    have endedFact : ({ fact with validTo := some now } : Fact) ∈ store'.facts := by
      rw [(FactStore.update_ok ended).1]
      exact List.mem_map.mpr ⟨fact, stored, if_pos rfl⟩
    have ordered := store'.ranges _ endedFact valid start starts now rfl
    exact Int.not_lt.mpr ordered later
  · intro started
    apply FactStore.update_exists_of_narrows
    · intro other otherStored same _
      obtain rfl := FactStore.eq_of_id otherStored stored same
      intro start starts stop stops
      cases stops
      exact Int.not_lt.mp fun later => started ⟨start, starts, later⟩
    · intro other otherStored same
      obtain rfl := FactStore.eq_of_id otherStored stored same
      exact ⟨rfl, .inr unbounded, rfl, rfl, rfl, rfl, rfl⟩

/-- Loaded rows have the bounds of the stored ones. -/
def LoadedAgrees (loaded : Uuid → Option Fact) (store : FactStore) : Prop :=
  ∀ id, ∀ row ∈ loaded id, ∃ stored ∈ store.facts, stored.id = id ∧
    stored.validFrom = row.validFrom ∧ stored.validTo = row.validTo ∧
    stored.invalidAt = row.invalidAt

theorem FactStore.loadedAgrees_getById (store : FactStore) :
    LoadedAgrees (store.getById · none) store := by
  intro id row found
  obtain ⟨stored, sameId, _⟩ := FactStore.getById_mem found
  exact ⟨row, stored, sameId, rfl, rfl, rfl⟩

section

variable {loaded : Uuid → Option Fact} {old : Fact} {inv : LlmInvalidation}
  {invs : List LlmInvalidation}

theorem LoadedAgrees.setValidTo_isOk_iff (agrees : LoadedAgrees loaded store)
    (found : old ∈ loaded old.id) (isOpen : ¬ old.Closed) (now : Time) :
    (∃ store', store.setValidTo old.id now = .ok store') ↔ ¬ old.StartsAfter now := by
  obtain ⟨stored, member, sameId, starts, ends, retracted⟩ := agrees old.id old found
  have storedOpen : ¬ stored.Closed := by
    rw [Fact.Closed, ends, retracted]
    exact isOpen
  rw [← sameId, FactStore.setValidTo_isOk_iff member storedOpen, Fact.StartsAfter, starts]
  rfl

theorem LoadedAgrees.ended (agrees : LoadedAgrees loaded store) {ended linked : FactStore}
    {now : Time} {successor : Option Uuid} (found : old ∈ loaded old.id)
    (end_ : store.setValidTo old.id now = .ok ended)
    (link : ended.setSupersededBy old.id successor = .ok linked) (event : InvalidationEvent) :
    LoadedAgrees (Function.update loaded old.id (some { old with validTo := some now }))
      (linked.recordInvalidationEvent event) := by
  obtain ⟨facts, _, _⟩ := FactStore.endAndLink_ok end_ link
  intro id row member
  have image (stored : Fact) (storedMember : stored ∈ store.facts) :
      ∃ after ∈ linked.facts, after.id = stored.id ∧ after.validFrom = stored.validFrom ∧
        after.invalidAt = stored.invalidAt ∧
        after.validTo = if stored.id = old.id then some now else stored.validTo := by
    refine ⟨_, facts ▸ List.mem_map_of_mem storedMember, ?_⟩
    by_cases same : stored.id = old.id <;> simp [Fact.closedAt, same]
  by_cases same : id = old.id
  · subst same
    rw [Function.update_self] at member
    cases member
    obtain ⟨stored, storedMember, sameId, starts, _, retracted⟩ := agrees old.id old found
    obtain ⟨after, afterMember, afterId, afterFrom, afterInvalid, afterTo⟩ :=
      image stored storedMember
    rw [if_pos sameId] at afterTo
    exact ⟨after, afterMember, afterId.trans sameId, afterFrom.trans starts, afterTo,
      afterInvalid.trans retracted⟩
  · rw [Function.update_of_ne same] at member
    obtain ⟨stored, storedMember, sameId, starts, ends, retracted⟩ := agrees id row member
    obtain ⟨after, afterMember, afterId, afterFrom, afterInvalid, afterTo⟩ :=
      image stored storedMember
    rw [if_neg (sameId ▸ same)] at afterTo
    exact ⟨after, afterMember, afterId.trans sameId, afterFrom.trans starts,
      afterTo.trans ends, afterInvalid.trans retracted⟩

theorem LlmCall.target_mem (keyed : LoadedById loaded) (found : call.target loaded inv = some old) :
    old ∈ loaded old.id := by
  obtain ⟨id, _, row⟩ := Option.bind_eq_some_iff.mp found
  rw [keyed id old row]
  exact row

theorem LlmCall.openTargets_closed (found : call.target loaded inv = some old)
    (closed : old.Closed) :
    call.openTargets loaded (inv :: invs) = call.openTargets loaded invs := by
  simp [LlmCall.openTargets, found, closed]

theorem LlmCall.openTargets_open (found : call.target loaded inv = some old)
    (isOpen : ¬ old.Closed) :
    call.openTargets loaded (inv :: invs) = old :: call.openTargets loaded invs := by
  simp [LlmCall.openTargets, found, isOpen]

/-- Rows that the invalidations name are loaded under their identifiers. -/
theorem LlmCall.loaded_of_openTargets (keyed : LoadedById loaded) {row : Fact}
    (member : row ∈ call.openTargets loaded invs) : row ∈ loaded row.id := by
  obtain ⟨inv, _, found⟩ := List.mem_filterMap.mp (List.mem_filter.mp member).1
  exact LlmCall.target_mem keyed found

theorem LlmCall.mem_openTargets_ended (keyed : LoadedById loaded) {row : Fact} :
    row ∈ call.openTargets (call.loadedAfter loaded old) invs ↔
      row ∈ call.openTargets loaded invs ∧ row.id ≠ old.id := by
  simp only [LlmCall.openTargets, LlmCall.loadedAfter, List.mem_filter, List.mem_filterMap,
    decide_eq_true_eq]
  constructor
  · rintro ⟨⟨inv, member, found⟩, isOpen⟩
    obtain ⟨id, named, lookup⟩ := Option.bind_eq_some_iff.mp found
    by_cases same : id = old.id
    · rw [same, Function.update_self] at lookup
      cases lookup
      exact absurd (.inl rfl) isOpen
    · rw [Function.update_of_ne same] at lookup
      refine ⟨⟨⟨inv, member, ?_⟩, isOpen⟩, ?_⟩
      · rw [LlmCall.target, named]
        exact lookup
      · rw [keyed id row lookup]
        exact same
  · rintro ⟨⟨⟨inv, member, found⟩, isOpen⟩, different⟩
    obtain ⟨id, named, lookup⟩ := Option.bind_eq_some_iff.mp found
    have sameId := keyed id row lookup
    refine ⟨⟨inv, member, ?_⟩, isOpen⟩
    rw [LlmCall.target, named, Option.bind_some,
      Function.update_of_ne (fun same => different (sameId.trans same))]
    exact lookup

/-- Every invalidation names a loaded row. -/
def LlmCall.Resolved (call : LlmCall) (loaded : Uuid → Option Fact)
    (invs : List LlmInvalidation) : Prop :=
  ∀ inv ∈ invs, ∃ row, call.target loaded inv = some row

theorem LlmCall.Resolved.ended (resolved : call.Resolved loaded (inv :: invs)) :
    call.Resolved (call.loadedAfter loaded old) invs := by
  intro other member
  obtain ⟨row, found⟩ := resolved other (List.mem_cons_of_mem _ member)
  obtain ⟨id, named, lookup⟩ := Option.bind_eq_some_iff.mp found
  rw [LlmCall.target, named, Option.bind_some, LlmCall.loadedAfter]
  by_cases same : id = old.id
  · rw [same, Function.update_self]
    exact ⟨_, rfl⟩
  · rw [Function.update_of_ne same]
    exact ⟨row, lookup⟩

variable {events events' : List (SupersessionEvent × Option Text)} {skipped skipped' : Nat}
  {store' : FactStore}

theorem applyInvalidations_closed (found : call.target loaded inv = some old)
    (closed : old.Closed) :
    applyInvalidations call (inv :: invs) loaded store events skipped =
      applyInvalidations call invs loaded store events (skipped + 1) := by
  rw [applyInvalidations, show (inv.existingFactRef.bind call.refToFact).bind loaded = some old
    from found]
  exact if_pos closed

theorem applyInvalidations_open {ended linked : FactStore}
    (found : call.target loaded inv = some old) (isOpen : ¬ old.Closed)
    (end_ : store.setValidTo old.id call.now = .ok ended)
    (link : ended.setSupersededBy old.id
      ((call.successorRow store inv).map Fact.id) = .ok linked) :
    applyInvalidations call (inv :: invs) loaded store events skipped =
      applyInvalidations call invs
        (call.loadedAfter loaded old)
        (linked.recordInvalidationEvent (call.eventFor store old inv))
        (events ++ [(makeSupersessionEvent old (call.successorRow store inv) old.triple,
          inv.reason.filter (· ≠ []))]) skipped := by
  rw [applyInvalidations, show (inv.existingFactRef.bind call.refToFact).bind loaded = some old
    from found]
  rw [LlmCall.successorRow] at link
  simp only [if_neg isOpen, end_, link, bind, Except.bind]
  rfl

/-- The range of a row that starts later is refused. -/
theorem applyInvalidations_refused {failure : FactError}
    (found : call.target loaded inv = some old) (isOpen : ¬ old.Closed)
    (refused : store.setValidTo old.id call.now = .error failure) :
    applyInvalidations call (inv :: invs) loaded store events skipped = .error failure := by
  rw [applyInvalidations, show (inv.existingFactRef.bind call.refToFact).bind loaded = some old
    from found]
  simp only [if_neg isOpen, refused, bind, Except.bind]

theorem invalidatedStore_closed (found : call.target loaded inv = some old)
    (closed : old.Closed) :
    invalidatedStore call (inv :: invs) loaded store =
      invalidatedStore call invs loaded store := by
  simp only [invalidatedStore, found, if_pos closed]

theorem invalidatedStore_open {ended linked : FactStore}
    (found : call.target loaded inv = some old) (isOpen : ¬ old.Closed)
    (end_ : store.setValidTo old.id call.now = .ok ended)
    (link : ended.setSupersededBy old.id
      ((call.successorRow store inv).map Fact.id) = .ok linked) :
    invalidatedStore call (inv :: invs) loaded store =
      invalidatedStore call invs
        (call.loadedAfter loaded old)
        (linked.recordInvalidationEvent (call.eventFor store old inv)) := by
  simp only [invalidatedStore, found, if_neg isOpen, end_, link]

theorem invalidatedStore_refused {failure : FactError}
    (found : call.target loaded inv = some old) (isOpen : ¬ old.Closed)
    (refused : store.setValidTo old.id call.now = .error failure) :
    invalidatedStore call (inv :: invs) loaded store = store := by
  simp only [invalidatedStore, found, if_neg isOpen, refused]

theorem recordInvalidationEvent_length {ended linked : FactStore} {now : Time}
    {successor : Option Uuid} {event : InvalidationEvent}
    (end_ : store.setValidTo old.id now = .ok ended)
    (link : ended.setSupersededBy old.id successor = .ok linked) :
    (linked.recordInvalidationEvent event).events.length = store.events.length + 1 := by
  simp [FactStore.recordInvalidationEvent, (FactStore.endAndLink_ok end_ link).2.1]

/-- What a loop on loaded rows meets, one arm for each way an invalidation goes. -/
theorem applyInvalidations_induction (call : LlmCall)
    {motive : List LlmInvalidation → (Uuid → Option Fact) → FactStore →
      List (SupersessionEvent × Option Text) → Nat → Prop}
    (done : ∀ loaded store events skipped, motive [] loaded store events skipped)
    (closed : ∀ inv invs loaded store events skipped old,
      call.target loaded inv = some old → old.Closed →
      motive invs loaded store events (skipped + 1) →
      motive (inv :: invs) loaded store events skipped)
    (opened : ∀ inv invs loaded store events skipped old ended linked,
      call.target loaded inv = some old → ¬ old.Closed → LoadedById loaded →
      ¬ old.StartsAfter call.now → store.setValidTo old.id call.now = .ok ended →
      ended.setSupersededBy old.id
        ((call.successorRow store inv).map Fact.id) = .ok linked →
      motive invs
        (call.loadedAfter loaded old)
        (linked.recordInvalidationEvent (call.eventFor store old inv))
        (events ++ [(makeSupersessionEvent old (call.successorRow store inv) old.triple,
          inv.reason.filter (· ≠ []))]) skipped →
      motive (inv :: invs) loaded store events skipped)
    (refused : ∀ inv invs loaded store events skipped old failure,
      call.target loaded inv = some old → ¬ old.Closed → old.StartsAfter call.now →
      store.setValidTo old.id call.now = .error failure →
      motive (inv :: invs) loaded store events skipped)
    (invs : List LlmInvalidation) (loaded : Uuid → Option Fact) (store : FactStore)
    (events : List (SupersessionEvent × Option Text)) (skipped : Nat)
    (keyed : LoadedById loaded) (agrees : LoadedAgrees loaded store)
    (resolved : call.Resolved loaded invs) : motive invs loaded store events skipped := by
  induction invs generalizing loaded store events skipped with
  | nil => exact done loaded store events skipped
  | cons inv invs induction =>
      obtain ⟨old, found⟩ := resolved inv List.mem_cons_self
      have member := LlmCall.target_mem keyed found
      by_cases isClosed : old.Closed
      · apply closed inv invs loaded store events skipped old found isClosed
        exact induction _ _ _ _ keyed agrees fun other later =>
          resolved other (List.mem_cons_of_mem _ later)
      · have feasible := agrees.setValidTo_isOk_iff member isClosed call.now
        cases end_ : store.setValidTo old.id call.now with
        | error failure =>
            apply refused inv invs loaded store events skipped old failure found isClosed _ end_
            by_contra started
            obtain ⟨store', ended⟩ := feasible.mpr started
            rw [end_] at ended
            cases ended
        | ok ended =>
            obtain ⟨linked, link⟩ := ended.setSupersededBy_total old.id
              ((call.successorRow store inv).map Fact.id)
            apply opened inv invs loaded store events skipped old ended linked found isClosed
              keyed (feasible.mp ⟨ended, end_⟩) end_ link
            exact induction _ _ _ _ (keyed.ended old call.now)
              (agrees.ended member end_ link _) resolved.ended

/-- The loop completes when no open row it meets starts later, and then it has
counted every invalidation and recorded one event for each row it closed;
otherwise it raises. -/
theorem applyInvalidations_outcome (events : List (SupersessionEvent × Option Text))
    (skipped : Nat) (keyed : LoadedById loaded) (agrees : LoadedAgrees loaded store)
    (resolved : call.Resolved loaded invs) :
    match applyInvalidations call invs loaded store events skipped with
    | .error _ => ∃ row ∈ call.openTargets loaded invs, row.StartsAfter call.now
    | .ok (store', events', skipped') =>
        (∀ row ∈ call.openTargets loaded invs, ¬ row.StartsAfter call.now) ∧
        events'.length + skipped' = events.length + skipped + invs.length ∧
        store'.events.length + events.length = store.events.length + events'.length := by
  apply applyInvalidations_induction call _ _ _ _ invs loaded store events skipped
    keyed agrees resolved
  · intro loaded store events skipped
    exact ⟨by simp [LlmCall.openTargets], rfl, rfl⟩
  · intro inv invs loaded store events skipped old found isClosed rest
    rw [applyInvalidations_closed found isClosed, LlmCall.openTargets_closed found isClosed]
    split at rest
    · exact rest
    · obtain ⟨started, counted, logged⟩ := rest
      refine ⟨started, ?_, logged⟩
      rw [counted, List.length_cons]
      omega
  · intro inv invs loaded store events skipped old ended linked found isOpen keyed started end_
      link rest
    rw [applyInvalidations_open found isOpen end_ link, LlmCall.openTargets_open found isOpen]
    split at rest
    · obtain ⟨row, member, late⟩ := rest
      have named := ((LlmCall.mem_openTargets_ended keyed).mp member).1
      exact ⟨row, List.mem_cons_of_mem _ named, late⟩
    · obtain ⟨others, counted, logged⟩ := rest
      refine ⟨?_, ?_, ?_⟩
      · intro row member
        rcases List.mem_cons.mp member with rfl | named
        · exact started
        · by_cases same : row.id = old.id
          · have loadedRow := LlmCall.loaded_of_openTargets keyed named
            rw [same, LlmCall.target_mem keyed found] at loadedRow
            cases loadedRow
            exact started
          · exact others row ((LlmCall.mem_openTargets_ended keyed).mpr ⟨named, same⟩)
      · rw [counted, List.length_append, List.length_singleton, List.length_cons]
        omega
      · rw [recordInvalidationEvent_length end_ link, List.length_append,
          List.length_singleton] at logged
        omega
  · intro inv invs loaded store events skipped old failure found isOpen late end_
    rw [applyInvalidations_refused found isOpen end_, LlmCall.openTargets_open found isOpen]
    exact ⟨old, List.mem_cons_self, late⟩

/-- A loop only appends to the log. -/
theorem invalidatedStore_events (call : LlmCall) (invs : List LlmInvalidation)
    (loaded : Uuid → Option Fact) (store : FactStore) :
    store.events <+: (invalidatedStore call invs loaded store).events := by
  induction invs generalizing loaded store with
  | nil => exact List.prefix_rfl
  | cons inv invs induction =>
      unfold invalidatedStore
      split
      · exact List.prefix_rfl
      · rename_i old _
        split
        · exact induction loaded store
        · split
          · exact List.prefix_rfl
          · rename_i ended end_
            have endedEvents := (FactStore.update_ok end_).2.1
            split
            · exact ⟨[], (List.append_nil _).trans endedEvents.symm⟩
            · rename_i linked link
              have linkedEvents := (FactStore.update_ok link).2.1
              have logged : linked.events <+:
                  (linked.recordInvalidationEvent (call.eventFor store old inv)).events :=
                List.prefix_append _ _
              rw [← endedEvents, ← linkedEvents]
              exact logged.trans (induction _ _)

/-- The first open row that is met decides whether anything is written. -/
theorem invalidatedStore_first (keyed : LoadedById loaded) (agrees : LoadedAgrees loaded store)
    (resolved : call.Resolved loaded invs) :
    ∀ first rest, call.openTargets loaded invs = first :: rest →
      (first.StartsAfter call.now → invalidatedStore call invs loaded store = store) ∧
      (¬ first.StartsAfter call.now →
        store.events.length < (invalidatedStore call invs loaded store).events.length) := by
  refine applyInvalidations_induction call
    (motive := fun invs loaded store _ _ => ∀ first rest,
      call.openTargets loaded invs = first :: rest →
      (first.StartsAfter call.now → invalidatedStore call invs loaded store = store) ∧
      (¬ first.StartsAfter call.now →
        store.events.length < (invalidatedStore call invs loaded store).events.length))
    ?_ ?_ ?_ ?_ invs loaded store [] 0 keyed agrees resolved
  · intro loaded store events skipped first rest none
    simp [LlmCall.openTargets] at none
  · intro inv invs loaded store events skipped old found isClosed induction first rest
    rw [invalidatedStore_closed found isClosed, LlmCall.openTargets_closed found isClosed]
    exact induction first rest
  · intro inv invs loaded store events skipped old ended linked found isOpen keyed started end_
      link _ first rest named
    rw [LlmCall.openTargets_open found isOpen] at named
    cases named
    refine ⟨fun late => absurd late started, fun _ => ?_⟩
    rw [invalidatedStore_open found isOpen end_ link]
    have grows := (invalidatedStore_events call invs (call.loadedAfter loaded old)
      (linked.recordInvalidationEvent (call.eventFor store old inv))).length_le
    rw [recordInvalidationEvent_length end_ link] at grows
    exact grows
  · intro inv invs loaded store events skipped old failure found isOpen late end_ first rest named
    rw [LlmCall.openTargets_open found isOpen] at named
    cases named
    exact ⟨fun _ => invalidatedStore_refused found isOpen end_, fun started => absurd late started⟩

end

theorem checkReferences_ok_iff (invs : List LlmInvalidation) :
    checkReferences call invs = .ok () ↔ ∀ inv ∈ invs,
      (∃ id, inv.existingFactRef.bind call.refToFact = some id) ∧
      ∀ ref ∈ inv.successorFactRef, ∃ successor, call.successorByRef ref = some successor := by
  induction invs with
  | nil => simp [checkReferences]
  | cons inv invs induction =>
      rw [List.forall_mem_cons, ← induction, checkReferences]
      cases existing : inv.existingFactRef.bind call.refToFact with
      | none => simp
      | some id =>
          cases successor : inv.successorFactRef with
          | none => simp
          | some ref =>
              cases known : call.successorByRef ref with
              | none => simp [known]
              | some row => simp [known]

theorem LlmCall.KnowsReferences.resolved (knows : call.KnowsReferences)
    (candidates : call.Candidates store) :
    call.Resolved (store.getById · none) call.invalidations := by
  intro inv member
  obtain ⟨id, named⟩ := (knows inv member).1
  obtain ⟨ref, _, given⟩ := Option.bind_eq_some_iff.mp named
  obtain ⟨row, stored, rfl⟩ := candidates ref id given
  refine ⟨row, ?_⟩
  rw [LlmCall.target, named, Option.bind_some]
  exact FactStore.getById_of_mem stored

theorem applyLlmInvalidations_of_known (knows : call.KnowsReferences) :
    applyLlmInvalidations collaborators store call =
      writeInvalidations collaborators store call (store.getById · none) := by
  unfold applyLlmInvalidations
  split
  · rename_i none
    simp [writeInvalidations, none, applyInvalidations, llmEffects, bind, Except.bind]
  · rw [(checkReferences_ok_iff call.invalidations).mpr knows]
    rfl

theorem allOrNothing_of_unknown (unknown : ¬ call.KnowsReferences) :
    AllOrNothing collaborators store call := by
  have refused := (checkReferences_ok_iff call.invalidations).not.mpr unknown
  have listed : call.invalidations ≠ [] := by
    intro none
    apply unknown
    intro inv member
    rw [none] at member
    cases member
  cases checked : checkReferences call call.invalidations with
  | ok value => exact absurd checked refused
  | error failure =>
      rw [AllOrNothing, applyLlmInvalidations, if_neg listed, checked]
      simp only [bind, Except.bind, LlmCall.storeLeft, checked, and_self]

/-- A pass that raises in its loop has written nothing when its first open row was
refused, and only then. -/
theorem allOrNothing_raised (knows : call.KnowsReferences) (candidates : call.Candidates store)
    {failure : FactError}
    (raised : applyInvalidations call call.invalidations (store.getById · none) store [] 0 =
      .error failure) :
    AllOrNothing collaborators store call ↔ call.Feasible store := by
  have keyed := store.loadedById_getById none
  have agrees := store.loadedAgrees_getById
  have resolved := knows.resolved candidates
  have left : call.storeLeft store =
      invalidatedStore call call.invalidations (store.getById · none) store := by
    rw [LlmCall.storeLeft, (checkReferences_ok_iff call.invalidations).mpr knows]
  obtain ⟨row, member, late⟩ : ∃ row ∈ call.openTargets (store.getById · none)
      call.invalidations, row.StartsAfter call.now := by
    have outcome := applyInvalidations_outcome [] 0 keyed agrees resolved
    rw [raised] at outcome
    exact outcome
  obtain ⟨first, rest, targets⟩ := List.exists_cons_of_ne_nil (List.ne_nil_of_mem member)
  obtain ⟨refused, written⟩ := invalidatedStore_first keyed agrees resolved first rest targets
  rw [AllOrNothing, applyLlmInvalidations_of_known knows, writeInvalidations, raised]
  simp only [bind, Except.bind, left]
  constructor
  · rintro ⟨_, unlogged⟩
    refine .inl ⟨first, rest, targets, ?_⟩
    by_contra started
    have grown := written started
    rw [unlogged] at grown
    exact Nat.lt_irrefl _ grown
  · rintro (⟨other, others, sameTargets, late⟩ | ⟨started, _⟩)
    · rw [targets] at sameTargets
      cases sameTargets
      rw [refused late]
      exact ⟨rfl, rfl⟩
    · exact absurd late (started row member)

theorem closedByPass_iff {events : List (SupersessionEvent × Option Text)} {skipped : Nat}
    {store' : FactStore}
    (returned : applyInvalidations call call.invalidations (store.getById · none) store [] 0 =
      .ok (store', events, skipped))
    (stored : fact ∈ store.facts) (named : call.Names fact.id) :
    ClosedByPass call store store' fact.id ↔ ¬ fact.Closed := by
  have keyed := store.loadedById_getById none
  obtain ⟨closed, lineage, recorded, facts, _, log, olds, _, distinct, _, closable⟩ :=
    applyInvalidations_ok keyed returned
  obtain ⟨others, sameLog, kinds, complete⟩ := applyInvalidations_events keyed returned
  obtain rfl : recorded = others := List.append_cancel_left (log.symm.trans sameLog)
  by_cases isClosed : fact.Closed
  · refine iff_of_false ?_ (fun isOpen => isOpen isClosed)
    rintro ⟨_, once⟩
    rw [log, List.drop_left] at once
    obtain ⟨event, member, isEvent⟩ := List.countP_pos_iff.mp (once ▸ Nat.one_pos)
    have inClosed : fact.id ∈ closed := by
      rw [← olds, ← (of_decide_eq_true isEvent).2]
      exact List.mem_map_of_mem member
    obtain ⟨⟨row, loaded, isOpen⟩, _⟩ := closable fact.id inClosed
    obtain ⟨rowMember, sameId, _⟩ := FactStore.getById_mem loaded
    obtain rfl : row = fact := FactStore.eq_of_id rowMember stored sameId
    exact isOpen isClosed
  · have ended : fact.id ∈ closed := by
      obtain ⟨inv, invMember, refers⟩ := named
      rw [← olds]
      apply complete inv invMember fact ?_ isClosed
      rw [refers, Option.bind_some]
      exact FactStore.getById_of_mem stored
    refine iff_of_true ⟨?_, ?_⟩ isClosed
    · intro row rowMember same
      rw [facts] at rowMember
      obtain ⟨original, _, rfl⟩ := List.mem_map.mp rowMember
      have sameId : original.id = fact.id := by simpa using same
      simp [Fact.closedAt, sameId, ended]
    · rw [log, List.drop_left]
      exact countP_events_eq_one kinds (olds ▸ distinct) (olds ▸ ended)

theorem allOrNothing_returned (knows : call.KnowsReferences) (candidates : call.Candidates store)
    {result : FactStore × List (SupersessionEvent × Option Text) × Nat}
    (returned : applyInvalidations call call.invalidations (store.getById · none) store [] 0 =
      .ok result) :
    AllOrNothing collaborators store call ↔ call.Feasible store := by
  obtain ⟨store', events, skipped⟩ := result
  have keyed := store.loadedById_getById none
  have outcome := applyInvalidations_outcome [] 0 keyed store.loadedAgrees_getById
    (knows.resolved candidates)
  rw [returned] at outcome
  obtain ⟨started, counted, logged⟩ := outcome
  obtain ⟨closed, _, recorded, _, _, log, olds, _, distinct, _, _⟩ :=
    applyInvalidations_ok keyed returned
  have ends (fact : Fact) (stored : fact ∈ store.facts) (named : call.Names fact.id) :=
    closedByPass_iff returned stored named
  have onePerEvent : recorded.length = events.length := by
    rw [log, List.length_append, List.length_nil] at logged
    omega
  have everyCounted : events.length + skipped = call.invalidations.length := by
    rw [counted, List.length_nil]
    omega
  rw [AllOrNothing, applyLlmInvalidations_of_known knows, writeInvalidations, returned]
  simp only [bind, Except.bind, log, List.drop_left]
  constructor
  · rintro ⟨closes, _⟩
    refine .inr ⟨started, ?_⟩
    intro fact stored named effective
    exact (ends fact stored named).mp (closes fact stored named effective)
  · rintro (⟨first, rest, targets, late⟩ | ⟨_, isOpen⟩)
    · have member : first ∈ call.openTargets (store.getById · none) call.invalidations := by
        rw [targets]
        exact List.mem_cons_self
      exact absurd late (started first member)
    · refine ⟨?_, olds ▸ distinct, onePerEvent, everyCounted⟩
      intro fact stored named effective
      exact (ends fact stored named).mpr (isOpen fact stored named effective)

/-- An invalidation pass is all or nothing exactly when a reference is unknown, or
its first open fact is refused, or no open fact it names starts later and no
effective one has an end. -/
theorem allOrNothing_iff (collaborators : Collaborators) (store : FactStore) (call : LlmCall)
    (candidates : call.Candidates store) :
    AllOrNothing collaborators store call ↔ (call.KnowsReferences → call.Feasible store) := by
  by_cases knows : call.KnowsReferences
  · rw [forall_prop_of_true knows]
    cases ran : applyInvalidations call call.invalidations (store.getById · none) store [] 0 with
    | error failure => exact allOrNothing_raised knows candidates ran
    | ok result => exact allOrNothing_returned knows candidates ran
  · exact iff_of_true (allOrNothing_of_unknown knows) fun known => absurd known knows

/-- The LLM names the fact twice. -/
def repeatedContradiction : LlmCall :=
  { contradiction with
    invalidations := [⟨some "F1".toList, none, none⟩, ⟨some "F1".toList, none, some []⟩] }

theorem contradiction_candidates {validTo : Option Time}
    {ordered : ∀ stop ∈ validTo, (10 : Time) ≤ stop} :
    contradiction.Candidates (statedStore validTo ordered) := by
  intro ref id given
  refine ⟨statedFact validTo, List.mem_cons_self, ?_⟩
  unfold contradiction at given
  dsimp only at given
  split at given
  · cases given
    rfl
  · cases given

/-- An open fact that is named twice is closed once. -/
theorem allOrNothing_repeated :
    AllOrNothing ⟨false, false, false⟩ openEnded repeatedContradiction :=
  (allOrNothing_iff ⟨false, false, false⟩ openEnded repeatedContradiction
    contradiction_candidates).mpr fun _ => .inr ⟨by decide, by
      intro fact stored _ _
      rw [List.mem_singleton.mp stored]
      decide⟩

/-- A fact that has yet to start. -/
def announcedFact : Fact :=
  { statedFact none with
    id := 1
    sourceEpisodeId := some 2
    validFrom := some 30 }

/-- The tables with an open fact and one that starts at 30. -/
def announcedStore : FactStore :=
  { facts := [statedFact none, announcedFact]
    events := []
    nextId := 2
    primaryKey := by decide
    fresh := by decide
    ranges := by decide
    temporalExcl := by decide }

/-- The LLM names both. -/
def bothContradicted : LlmCall :=
  { contradiction with
    invalidations := [⟨some "F1".toList, none, none⟩, ⟨some "F2".toList, none, none⟩]
    refToFact := fun ref =>
      if ref = "F1".toList then some 0 else if ref = "F2".toList then some 1 else none }

/-- A fact with an end that is still to come is named and not closed; a pass that
names a fact yet to start raises after it has closed the one before. -/
theorem invalidations_skipped_or_broken :
    (contradiction.Names 0 ∧ (statedFact (some 100)).EffectiveAt 20 ∧
      ∃ outcome, applyLlmInvalidations ⟨false, false, false⟩ endingAt100 contradiction =
        .ok outcome ∧ decide (outcome.closedCount = 0 ∧ outcome.store.events = []) = true) ∧
    ¬ AllOrNothing ⟨false, false, false⟩ endingAt100 contradiction ∧
    applyLlmInvalidations ⟨false, false, false⟩ announcedStore bothContradicted =
      .error .rangeBounds ∧
    (bothContradicted.storeLeft announcedStore).events.length = 1 ∧
    ¬ AllOrNothing ⟨false, false, false⟩ announcedStore bothContradicted := by
  have named : contradiction.Names 0 := ⟨_, List.mem_cons_self, rfl⟩
  have effective : (statedFact (some 100)).EffectiveAt 20 := by decide
  have raised : applyLlmInvalidations ⟨false, false, false⟩ announcedStore bothContradicted =
      .error .rangeBounds := by rfl
  have written : (bothContradicted.storeLeft announcedStore).events.length = 1 := by decide
  obtain ⟨outcome, returned, counts⟩ : ∃ outcome,
      applyLlmInvalidations ⟨false, false, false⟩ endingAt100 contradiction = .ok outcome ∧
        decide (outcome.closedCount = 0 ∧ outcome.store.events = []) = true :=
    exists_ok (by decide)
  refine ⟨⟨named, effective, outcome, returned, counts⟩, ?_, raised, written, ?_⟩
  · intro complete
    rw [AllOrNothing, returned] at complete
    have once := (complete.1 (statedFact (some 100)) List.mem_cons_self named effective).2
    rw [(of_decide_eq_true counts).2] at once
    simp at once
  · intro complete
    rw [AllOrNothing, raised] at complete
    have unlogged := congrArg List.length complete.2
    rw [written] at unlogged
    cases unlogged

end OpenZync.Facts
