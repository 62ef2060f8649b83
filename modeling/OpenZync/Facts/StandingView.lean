import OpenZync.Facts.Runs

/-!
# Assertions without instants

What undated assertions do to the rows of one name identity does not depend on
the instants they carry: a row is active or not, and it obstructs later rows
of its episode or not.  Reading a view this way turns an ingest into a fold
that is the same function for every call, so calls compose by appending their
entries.
-/

namespace OpenZync.Facts

open OpenZync.Library

/-- A row without identifier, lineage and validity bounds. -/
def Fact.undated (fact : Fact) : Fact :=
  { fact with
    id := 0
    supersededByFactId := none
    validFrom := none
    validTo := none }

/-- The range is not empty, reaches past `now` and the row is not retracted. -/
def Fact.ReachesPast (fact : Fact) (now : Time) : Prop :=
  fact.invalidAt = none ∧ StartsBefore fact.validFrom fact.validTo ∧
    ∀ stop ∈ fact.validTo, now < stop

instance (fact : Fact) (now : Time) : Decidable (fact.ReachesPast now) :=
  inferInstanceAs (Decidable (_ ∧ _ ∧ _))

/-- A row as later assertions meet it. -/
structure Standing where
  fact : Fact
  active : Bool
  obstructs : Bool
  deriving DecidableEq

def Fact.standing (now : Time) (fact : Fact) : Standing :=
  ⟨fact.undated, decide (fact.EffectiveAt now), decide (fact.ReachesPast now)⟩

/-- The columns the exclusion constraint compares for equality. -/
def Fact.SameEpisodeTriple (left right : Fact) : Prop :=
  SqlEq left.sourceEpisodeId right.sourceEpisodeId ∧ SqlEq left.subject right.subject ∧
    SqlEq left.predicate right.predicate ∧ SqlEq left.object right.object

instance (left right : Fact) : Decidable (left.SameEpisodeTriple right) :=
  inferInstanceAs (Decidable (_ ∧ _ ∧ _ ∧ _))

section

variable (casing : Casing) (ctx : BatchCtx)

namespace Standing

/-- The entry supersedes the row. -/
def hit (entry : Entry) (standing : Standing) : Bool :=
  standing.active && decide (standing.fact.InScope ctx.orgId ctx.projectId) &&
    candidateConflicts casing entry standing.fact

/-- The row is a retraction that settles the entry. -/
def settles (entry : Entry) (standing : Standing) : Bool :=
  standing.fact.invalidAt.isSome &&
    decide (standing.fact.InScope ctx.orgId ctx.projectId) &&
    candidateConflicts casing entry standing.fact

def close (entry : Entry) (standing : Standing) : Standing :=
  if standing.hit casing ctx entry then ⟨standing.fact, false, false⟩ else standing

end Standing

/-- The entry is dropped. -/
def droppedStanding (view : List Standing) (entry : Entry) : Bool :=
  (view.any fun standing =>
    standing.hit casing ctx entry &&
      decide (standing.fact.content = entry.content)) ||
    view.any (Standing.settles casing ctx entry)

/-- A row of the episode keeps the row of the entry out. -/
def ObstructedStanding (view : List Standing) (entry : Entry) : Prop :=
  ∃ standing ∈ view, standing.obstructs = true ∧
    standing.fact.SameEpisodeTriple (rowFor ctx entry)

instance (view : List Standing) (entry : Entry) :
    Decidable (ObstructedStanding ctx view entry) :=
  inferInstanceAs (Decidable (∃ standing ∈ view, _))

/-- One undated assertion. -/
def assertStanding (view : List Standing) (entry : Entry) : List Standing :=
  if droppedStanding casing ctx view entry then view
  else if ObstructedStanding ctx (view.map (Standing.close casing ctx entry)) entry then
    view.map (Standing.close casing ctx entry)
  else
    view.map (Standing.close casing ctx entry) ++
      [⟨(rowFor ctx entry).undated, true, true⟩]

end

section

variable {casing : Casing} {ctx : BatchCtx}

theorem excludes_undated {entry : Entry} (undated : entry.validTo = none) (fact : Fact) :
    fact.Excludes (rowFor ctx entry) ↔
      fact.ReachesPast entry.validFrom ∧
        fact.undated.SameEpisodeTriple (rowFor ctx entry) := by
  unfold Fact.Excludes Fact.RangesOverlap Fact.ReachesPast Fact.SameEpisodeTriple
    Fact.undated StartsBefore
  have noEnd : (rowFor ctx entry).validTo = none := undated
  have start : (rowFor ctx entry).validFrom = some entry.validFrom := rfl
  have valid : (rowFor ctx entry).invalidAt = none := rfl
  rw [noEnd, start, valid]
  simp only [Option.mem_def, reduceCtorEq, false_implies, implies_true, true_and,
    Option.some.injEq, forall_eq']
  tauto

theorem Standing.hit_close (entry : Entry) (standing : Standing) :
    (standing.close casing ctx entry).hit casing ctx entry = false := by
  unfold Standing.close
  split
  · rfl
  · rename_i missed
    exact Bool.eq_false_iff.mpr missed

theorem Standing.close_close (entry : Entry) (standing : Standing) :
    (standing.close casing ctx entry).close casing ctx entry =
      standing.close casing ctx entry := by
  have missed : ¬ (standing.close casing ctx entry).hit casing ctx entry = true :=
    Bool.eq_false_iff.mp (standing.hit_close entry)
  exact if_neg missed

theorem candidateConflicts_rowFor_self (casing : Casing) (ctx : BatchCtx) (entry : Entry) :
    candidateConflicts casing entry (rowFor ctx entry) = true := by
  unfold candidateConflicts identityOfFact rowFor Entry.toFact
  cases entry.subjectEntityId <;> cases entry.objectEntityId <;>
    simp [Entry.nameIdentity, nameIdentityOfFact]

/-- Repeating an assertion at once changes nothing. -/
theorem assertStanding_idempotent (view : List Standing) (entry : Entry) :
    assertStanding casing ctx (assertStanding casing ctx view entry) entry =
      assertStanding casing ctx view entry := by
  by_cases dropped : droppedStanding casing ctx view entry = true
  · have unchanged : assertStanding casing ctx view entry = view := if_pos dropped
    rw [unchanged, unchanged]
  · by_cases obstructed :
      ObstructedStanding ctx (view.map (Standing.close casing ctx entry)) entry
    · have result : assertStanding casing ctx view entry =
          view.map (Standing.close casing ctx entry) := by
        rw [assertStanding, if_neg dropped, if_pos obstructed]
      have again : (view.map (Standing.close casing ctx entry)).map
          (Standing.close casing ctx entry) = view.map (Standing.close casing ctx entry) := by
        rw [List.map_map]
        exact List.map_congr_left fun standing _ => standing.close_close entry
      rw [result, assertStanding]
      split
      · rfl
      · rw [again, if_pos obstructed]
    · have result : assertStanding casing ctx view entry =
          view.map (Standing.close casing ctx entry) ++
            [⟨(rowFor ctx entry).undated, true, true⟩] := by
        rw [assertStanding, if_neg dropped, if_neg obstructed]
      have identical : droppedStanding casing ctx (assertStanding casing ctx view entry)
          entry = true := by
        rw [result, droppedStanding, List.any_append, Bool.or_eq_true, Bool.or_eq_true]
        refine .inl (.inr ?_)
        have scope : (rowFor ctx entry).undated.InScope ctx.orgId ctx.projectId :=
          ⟨rfl, rfl⟩
        have conflict : candidateConflicts casing entry (rowFor ctx entry).undated = true :=
          candidateConflicts_rowFor_self casing ctx entry
        have content : (rowFor ctx entry).undated.content = entry.content := rfl
        simp [Standing.hit, scope, conflict, content]
      rw [assertStanding, if_pos identical]

/-- Assertions neither add nor remove retractions. -/
theorem settles_assertStanding (view : List Standing) (entry later : Entry) :
    (assertStanding casing ctx view entry).any (Standing.settles casing ctx later) =
      view.any (Standing.settles casing ctx later) := by
  have closed : (view.map (Standing.close casing ctx entry)).any
      (Standing.settles casing ctx later) = view.any (Standing.settles casing ctx later) := by
    rw [List.any_map]
    congr 1
    funext standing
    simp only [Function.comp_apply, Standing.close]
    split <;> rfl
  unfold assertStanding
  split
  · rfl
  · split
    · exact closed
    · rw [List.any_append, closed]
      have fresh : (rowFor ctx entry).undated.invalidAt = none := rfl
      simp [Standing.settles, fresh]

/-- The rows of a view, as later assertions meet them. -/
def standings (now : Time) (view : List Slot) : List Standing :=
  view.map fun slot => slot.fact.standing now

/-- The flags of a view and the tombstones of its call say what the rows
themselves say. -/
structure Aligned (casing : Casing) (ctx : BatchCtx) (tombstones : List Fact)
    (view : List Slot) : Prop where
  live : ∀ slot ∈ view, slot.live = (decide (slot.fact.EffectiveAt ctx.now) &&
    decide (slot.fact.InScope ctx.orgId ctx.projectId))
  settled : ∀ entry, tombstones.any (candidateConflicts casing entry) =
    (standings ctx.now view).any (Standing.settles casing ctx entry)

theorem Slot.hit_standing {slot : Slot} (entry : Entry)
    (live : slot.live = (decide (slot.fact.EffectiveAt ctx.now) &&
      decide (slot.fact.InScope ctx.orgId ctx.projectId))) :
    slot.hit casing entry = (slot.fact.standing ctx.now).hit casing ctx entry := by
  rw [Slot.hit, live]
  rfl

theorem Fact.standing_ended (fact : Fact) (now : Time) :
    ({ fact with validTo := some now } : Fact).standing now =
      ⟨fact.undated, false, false⟩ := by
  simp [Fact.standing, Fact.undated, Fact.EffectiveAt, Fact.ReachesPast]

theorem Slot.close_standing {slot : Slot} (entry : Entry)
    (live : slot.live = (decide (slot.fact.EffectiveAt ctx.now) &&
      decide (slot.fact.InScope ctx.orgId ctx.projectId))) :
    (slot.close casing ctx.now entry).fact.standing ctx.now =
      (slot.fact.standing ctx.now).close casing ctx entry := by
  unfold Slot.close Standing.close
  rw [slot.hit_standing entry live]
  split
  · exact slot.fact.standing_ended ctx.now
  · rfl

namespace Aligned

variable {tombstones : List Fact} {view : List Slot}
variable (aligned : Aligned casing ctx tombstones view)
include aligned

theorem closed (entry : Entry) :
    standings ctx.now (closedFor casing ctx view entry) =
      (standings ctx.now view).map (Standing.close casing ctx entry) := by
  simp only [standings, closedFor, List.map_map]
  apply List.map_congr_left
  intro slot member
  exact slot.close_standing entry (aligned.live slot member)

theorem dropped (entry : Entry) :
    droppedIn casing tombstones view entry =
      droppedStanding casing ctx (standings ctx.now view) entry := by
  unfold droppedIn droppedStanding
  rw [aligned.settled entry]
  congr 1
  rw [standings, List.any_map, Bool.eq_iff_iff, List.any_eq_true, List.any_eq_true]
  constructor
  · rintro ⟨slot, member, hit⟩
    rw [slot.hit_standing entry (aligned.live slot member)] at hit
    exact ⟨slot, member, hit⟩
  · rintro ⟨slot, member, hit⟩
    refine ⟨slot, member, ?_⟩
    rw [slot.hit_standing entry (aligned.live slot member)]
    exact hit

omit aligned in
theorem obstructed {entry : Entry} (undated : entry.validTo = none)
    (start : entry.validFrom = ctx.now) (view : List Slot) :
    Obstructed ctx view entry ↔
      ObstructedStanding ctx (standings ctx.now view) entry := by
  unfold Obstructed ObstructedStanding standings
  simp only [List.mem_map, exists_exists_and_eq_and]
  refine exists_congr fun slot => and_congr_right fun _ => ?_
  rw [excludes_undated undated, start]
  simp [Fact.standing]

omit aligned in
theorem standing_rowFor {entry : Entry} (undated : entry.validTo = none)
    (start : entry.validFrom = ctx.now) :
    (rowFor ctx entry).EffectiveAt ctx.now ∧ (rowFor ctx entry).ReachesPast ctx.now := by
  have noEnd : (rowFor ctx entry).validTo = none := undated
  have begins : (rowFor ctx entry).validFrom = some ctx.now := congrArg some start
  have valid : (rowFor ctx entry).invalidAt = none := rfl
  simp [Fact.EffectiveAt, Fact.ReachesPast, StartsBefore, noEnd, begins, valid]

theorem assert {entry : Entry} (undated : entry.validTo = none)
    (start : entry.validFrom = ctx.now) :
    standings ctx.now (assertEntry casing tombstones ctx view entry) =
        assertStanding casing ctx (standings ctx.now view) entry ∧
      Aligned casing ctx tombstones (assertEntry casing tombstones ctx view entry) := by
  obtain ⟨effective, reaches⟩ := standing_rowFor undated start
  have row : (rowFor ctx entry).standing ctx.now =
      ⟨(rowFor ctx entry).undated, true, true⟩ := by
    simp [Fact.standing, effective, reaches]
  have projected : standings ctx.now (assertEntry casing tombstones ctx view entry) =
      assertStanding casing ctx (standings ctx.now view) entry := by
    unfold assertEntry assertStanding
    rw [aligned.dropped entry, ← aligned.closed entry]
    split
    · rfl
    · rw [if_congr (obstructed undated start _) rfl rfl]
      split
      · rfl
      · simp [standings, row]
  have closedLive : ∀ slot ∈ closedFor casing ctx view entry,
      slot.live = (decide (slot.fact.EffectiveAt ctx.now) &&
        decide (slot.fact.InScope ctx.orgId ctx.projectId)) := by
    intro slot member
    obtain ⟨original, originalMember, rfl⟩ := List.mem_map.mp member
    unfold Slot.close
    split
    · simp [Fact.EffectiveAt]
    · exact aligned.live original originalMember
  refine ⟨projected, ?_, ?_⟩
  · unfold assertEntry
    split
    · exact aligned.live
    · split
      · exact closedLive
      · intro slot member
        rcases List.mem_append.mp member with old | new
        · exact closedLive slot old
        · rw [List.mem_singleton.mp new]
          have scope : (rowFor ctx entry).InScope ctx.orgId ctx.projectId := ⟨rfl, rfl⟩
          simp [effective, scope]
  · intro later
    rw [projected, settles_assertStanding]
    exact aligned.settled later

theorem assertAll {entries : List Entry}
    (undated : ∀ entry ∈ entries, entry.validTo = none ∧ entry.validFrom = ctx.now) :
    standings ctx.now (assertEntries casing tombstones ctx view entries) =
      entries.foldl (assertStanding casing ctx) (standings ctx.now view) := by
  induction entries generalizing view with
  | nil => rfl
  | cons entry entries induction =>
      obtain ⟨noEnd, start⟩ := undated entry List.mem_cons_self
      obtain ⟨projected, still⟩ := aligned.assert noEnd start
      rw [List.foldl_cons, ← projected]
      exact induction still fun later member =>
        undated later (List.mem_cons_of_mem _ member)

end Aligned

end

/-- The scans of a call reach every active and every retracted fact of its
project that shares the name identity of an entry. -/
def IngestCall.KeysReach (casing : Casing) (call : IngestCall) (store : FactStore) : Prop :=
  ∀ entry ∈ call.entries casing, ∀ fact ∈ store.facts,
    fact.InScope call.orgId call.projectId →
    (fact.EffectiveAt call.now ∨ fact.invalidAt.isSome = true) →
    nameIdentityOfFact casing fact = entry.nameIdentity casing →
    ∃ key ∈ call.matchKeys casing, key.matches casing fact = true

theorem aligned_view {casing : Casing} {call : IngestCall} {store : FactStore}
    (reach : call.KeysReach casing store) {entry : Entry}
    (member : entry ∈ call.entries casing) :
    Aligned casing call.ctx (call.tombstones casing store (entry.nameIdentity casing))
      (call.view casing store (entry.nameIdentity casing)) := by
  have found : ∀ fact ∈ bucketByName casing store.facts (entry.nameIdentity casing),
      fact.InScope call.orgId call.projectId →
      (fact.EffectiveAt call.now ∨ fact.invalidAt.isSome = true) →
      ((call.matchKeys casing).any fun key => key.matches casing fact) = true := by
    intro fact bucketed inScope standing
    obtain ⟨stored, named⟩ := mem_bucketByName.mp bucketed
    obtain ⟨key, keyMember, matched⟩ := reach entry member fact stored inScope standing named
    exact List.any_eq_true.mpr ⟨key, keyMember, matched⟩
  constructor
  · intro slot slotMember
    obtain ⟨fact, bucketed, rfl⟩ := List.mem_map.mp slotMember
    change (decide (fact.InScope call.orgId call.projectId) &&
        decide (fact.EffectiveAt call.now) &&
        (call.matchKeys casing).any fun key => key.matches casing fact) =
      (decide (fact.EffectiveAt call.now) &&
        decide (fact.InScope call.orgId call.projectId))
    by_cases inScope : fact.InScope call.orgId call.projectId
    · by_cases active : fact.EffectiveAt call.now
      · rw [found fact bucketed inScope (.inl active)]
        simp [inScope, active]
      · simp [active]
    · simp [inScope]
  · intro other
    rw [Bool.eq_iff_iff, List.any_eq_true, List.any_eq_true]
    constructor
    · rintro ⟨fact, tombstone, conflicting⟩
      obtain ⟨scanned, named⟩ := mem_bucketByName.mp tombstone
      obtain ⟨stored, passed⟩ := List.mem_filter.mp scanned
      simp only [Bool.and_eq_true, decide_eq_true_eq] at passed
      refine ⟨fact.standing call.now, ?_, ?_⟩
      · exact List.mem_map.mpr ⟨_,
          List.mem_map_of_mem (mem_bucketByName.mpr ⟨stored, named⟩), rfl⟩
      · have scope : fact.undated.InScope call.ctx.orgId call.ctx.projectId := passed.1.1
        have retracted : fact.undated.invalidAt.isSome = true := passed.1.2
        have conflict : candidateConflicts casing other fact.undated = true := conflicting
        simp [Standing.settles, Fact.standing, scope, retracted, conflict]
    · rintro ⟨_, standingMember, settles⟩
      obtain ⟨slot, slotMember, rfl⟩ := List.mem_map.mp standingMember
      obtain ⟨fact, bucketed, rfl⟩ := List.mem_map.mp slotMember
      simp only [Standing.settles, Bool.and_eq_true, decide_eq_true_eq] at settles
      obtain ⟨⟨retracted, inScope⟩, conflicting⟩ := settles
      have scope : fact.InScope call.orgId call.projectId := inScope
      have ended : fact.invalidAt.isSome = true := retracted
      obtain ⟨stored, named⟩ := mem_bucketByName.mp bucketed
      refine ⟨fact, mem_bucketByName.mpr ⟨List.mem_filter.mpr ⟨stored, ?_⟩, named⟩,
        conflicting⟩
      have scanned := found fact bucketed scope (.inr ended)
      simp only [IngestCall.matchKeys] at scanned
      simp [scope, ended, scanned]

/-- The rows of one identity, as later assertions meet them. -/
def FactStore.standings (casing : Casing) (now : Time) (store : FactStore)
    (identity : NameIdentity) : List Standing :=
  (bucketByName casing store.facts identity).map (Fact.standing now)

theorem ingest_standings {casing : Casing} {collaborators : Collaborators}
    {store : FactStore} {call : IngestCall} {outcome : IngestOutcome}
    (undated : call.Undated) (reach : call.KeysReach casing store)
    (ingested : ingestWithSupersession casing collaborators store call = .ok outcome)
    (identity : NameIdentity) :
    outcome.store.standings casing call.now identity =
      (entriesOf casing identity (call.entries casing)).foldl
        (assertStanding casing call.ctx) (store.standings casing call.now identity) := by
  have rows := congrArg (List.map (Fact.standing call.now))
    (ingest_refines ingested identity)
  have left : (outcome.store.rows casing identity).map (Fact.standing call.now) =
      outcome.store.standings casing call.now identity := by
    simp only [FactStore.rows, FactStore.standings, List.map_map]
    rfl
  have initial : standings call.now (call.view casing store identity) =
      store.standings casing call.now identity := by
    simp only [standings, IngestCall.view, FactStore.standings, List.map_map]
    rfl
  rw [left, List.map_map] at rows
  rw [rows]
  change standings call.now _ = _
  rw [← initial]
  cases listed : entriesOf casing identity (call.entries casing) with
  | nil => rfl
  | cons entry rest =>
      have first : entry ∈ entriesOf casing identity (call.entries casing) := by
        rw [listed]
        exact List.mem_cons_self
      obtain ⟨member, named⟩ := List.mem_filter.mp first
      rw [← of_decide_eq_true named] at listed ⊢
      rw [← listed]
      refine (aligned_view reach member).assertAll ?_
      intro other otherMember
      obtain ⟨start, noEnd⟩ := undated.entry (List.mem_filter.mp otherMember).1
      exact ⟨noEnd, start⟩

end OpenZync.Facts
