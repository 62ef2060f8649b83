import Mathlib.Data.List.Pairwise
import OpenZync.Facts.Runs

/-!
# At most one active fact per conflict identity

Two active facts of a project conflict by entity when both resolve both of
their entities, and by normalized name otherwise.  The conflict scan finds
stored facts by SQL keys and keeps only those of the entry's name identity, so
it may miss a fact the entry conflicts with.  Where it misses none, no run of
ingests leaves two conflicting facts active.
-/

namespace OpenZync.Facts

open OpenZync.Library

/-- `_candidate_conflicts` between two stored facts. -/
def Fact.ConflictsWith (casing : Casing) (left right : Fact) : Prop :=
  ((left.Resolved ∧ right.Resolved) ∧ left.subjectEntityId = right.subjectEntityId ∧
      left.predicate = right.predicate ∧ left.objectEntityId = right.objectEntityId) ∨
    (¬ (left.Resolved ∧ right.Resolved) ∧
      nameIdentityOfFact casing left = nameIdentityOfFact casing right)

instance (casing : Casing) (left right : Fact) :
    Decidable (left.ConflictsWith casing right) :=
  inferInstanceAs (Decidable (_ ∨ _))

/-- Two facts of one project, both active at `now`, that conflict. -/
def Fact.ClashesAt (casing : Casing) (now : Time) (left right : Fact) : Prop :=
  right.InScope left.organizationId left.projectId ∧ left.EffectiveAt now ∧
    right.EffectiveAt now ∧ left.ConflictsWith casing right

instance (casing : Casing) (now : Time) (left right : Fact) :
    Decidable (left.ClashesAt casing now right) :=
  inferInstanceAs (Decidable (_ ∧ _ ∧ _ ∧ _))

/-- No two distinct facts active at `now` conflict. -/
def ConflictFree (casing : Casing) (store : FactStore) (now : Time) : Prop :=
  ∀ left ∈ store.facts, ∀ right ∈ store.facts, left.id ≠ right.id →
    ¬ left.ClashesAt casing now right

instance (casing : Casing) (store : FactStore) (now : Time) :
    Decidable (ConflictFree casing store now) :=
  inferInstanceAs (Decidable (∀ left ∈ store.facts, ∀ right ∈ store.facts, _))

theorem Fact.ConflictsWith.symm {casing : Casing} {left right : Fact}
    (conflict : left.ConflictsWith casing right) : right.ConflictsWith casing left := by
  rcases conflict with ⟨resolved, subject, predicate, object⟩ | ⟨unresolved, named⟩
  · exact .inl ⟨resolved.symm, subject.symm, predicate.symm, object.symm⟩
  · exact .inr ⟨fun resolved => unresolved resolved.symm, named.symm⟩

theorem Fact.ClashesAt.symm {casing : Casing} {now : Time} {left right : Fact}
    (clash : left.ClashesAt casing now right) : right.ClashesAt casing now left := by
  obtain ⟨⟨sameOrg, sameProject⟩, leftActive, rightActive, conflict⟩ := clash
  exact ⟨⟨sameOrg.symm, sameProject.symm⟩, rightActive, leftActive, conflict.symm⟩

theorem candidateConflicts_iff (casing : Casing) (ctx : BatchCtx) (entry : Entry)
    (candidate : Fact) :
    candidateConflicts casing entry candidate = true ↔
      (rowFor ctx entry).ConflictsWith casing candidate := by
  have named : nameIdentityOfFact casing (rowFor ctx entry) = entry.nameIdentity casing :=
    rfl
  unfold candidateConflicts Fact.ConflictsWith identityOfFact Fact.Resolved
  rw [named]
  simp only [rowFor, Entry.toFact]
  cases entry.subjectEntityId <;> cases entry.objectEntityId <;>
    cases candidate.subjectEntityId <;> cases candidate.objectEntityId <;>
    simp [and_assoc]

section View

variable {casing : Casing} {tombstones : List Fact} {ctx : BatchCtx}

/-- No two rows of the identity clash. -/
def ViewFree (casing : Casing) (now : Time) (view : List Slot) : Prop :=
  view.Pairwise fun left right => ¬ left.fact.ClashesAt casing now right.fact

/-- Every row the entry would clash with can still be closed. -/
def Covered (casing : Casing) (ctx : BatchCtx) (view : List Slot) (entry : Entry) : Prop :=
  ∀ slot ∈ view, (rowFor ctx entry).ClashesAt casing ctx.now slot.fact → slot.live = true

theorem Slot.close_active {now : Time} {entry : Entry} {slot : Slot}
    (active : (slot.close casing now entry).fact.EffectiveAt now) :
    slot.hit casing entry = false ∧ slot.close casing now entry = slot := by
  unfold Slot.close at active ⊢
  split at active
  · exact absurd (active.2.2 now rfl) (lt_irrefl now)
  · rename_i missed
    exact ⟨Bool.eq_false_iff.mpr missed, if_neg missed⟩

theorem viewFree_closedFor {view : List Slot} {entry : Entry}
    (free : ViewFree casing ctx.now view) :
    ViewFree casing ctx.now (closedFor casing ctx view entry) := by
  unfold ViewFree closedFor
  rw [List.pairwise_map]
  refine free.imp ?_
  intro left right apart clash
  rw [(Slot.close_active clash.2.1).2, (Slot.close_active clash.2.2.1).2] at clash
  exact apart clash

theorem closedFor_apart {view : List Slot} {entry : Entry}
    (covered : Covered casing ctx view entry) :
    ∀ slot ∈ closedFor casing ctx view entry,
      ¬ slot.fact.ClashesAt casing ctx.now (rowFor ctx entry) := by
  intro slot member clash
  obtain ⟨original, originalMember, rfl⟩ := List.mem_map.mp member
  obtain ⟨missed, unchanged⟩ := Slot.close_active clash.2.1
  rw [unchanged] at clash
  have live := covered original originalMember clash.symm
  have conflicting := (candidateConflicts_iff casing ctx entry original.fact).mpr
    clash.symm.2.2.2
  rw [Slot.hit, live, conflicting] at missed
  cases missed

theorem viewFree_assertEntry {view : List Slot} {entry : Entry}
    (free : ViewFree casing ctx.now view)
    (covered : tombstones.any (candidateConflicts casing entry) = false →
      Covered casing ctx view entry) :
    ViewFree casing ctx.now (assertEntry casing tombstones ctx view entry) := by
  unfold assertEntry
  split
  · exact free
  · rename_i kept
    split
    · exact viewFree_closedFor free
    · have live : tombstones.any (candidateConflicts casing entry) = false :=
        (Bool.or_eq_false_iff.mp (Bool.eq_false_iff.mpr kept)).2
      refine List.pairwise_append.mpr
        ⟨viewFree_closedFor free, List.pairwise_singleton _ _, ?_⟩
      intro slot member row rowMember
      rw [List.mem_singleton.mp rowMember]
      exact closedFor_apart (covered live) slot member

theorem covered_assertEntry {view : List Slot} {entry later : Entry}
    (covered : Covered casing ctx view later) :
    Covered casing ctx (assertEntry casing tombstones ctx view entry) later := by
  have afterClose : Covered casing ctx (closedFor casing ctx view entry) later := by
    intro slot member clash
    obtain ⟨original, originalMember, rfl⟩ := List.mem_map.mp member
    have unchanged := (Slot.close_active clash.2.2.1).2
    rw [unchanged] at clash ⊢
    exact covered original originalMember clash
  unfold assertEntry
  split
  · exact covered
  · split
    · exact afterClose
    · intro slot member clash
      rcases List.mem_append.mp member with old | new
      · exact afterClose slot old clash
      · rw [List.mem_singleton.mp new]

/-- Asserting entries that see every row they clash with leaves no clash. -/
theorem viewFree_assertEntries {view : List Slot} {entries : List Entry}
    (free : ViewFree casing ctx.now view)
    (covered : ∀ entry ∈ entries,
      tombstones.any (candidateConflicts casing entry) = false →
        Covered casing ctx view entry) :
    ViewFree casing ctx.now (assertEntries casing tombstones ctx view entries) := by
  induction entries generalizing view with
  | nil => exact free
  | cons entry entries induction =>
      exact induction
        (viewFree_assertEntry free (covered entry List.mem_cons_self))
        fun later member live =>
          covered_assertEntry (covered later (List.mem_cons_of_mem _ member) live)

end View

/-- The scan reaches every active fact that an entry of the call conflicts
with and that no retraction settles, under the name identity of the entry; and
entries of the call that conflict share their name identity. -/
def IngestCall.ScanReachesConflicts (casing : Casing) (call : IngestCall)
    (store : FactStore) : Prop :=
  ∀ entry ∈ call.entries casing,
    isTombstoned casing (call.tombstones casing store) entry = false →
    (∀ fact ∈ store.facts, fact.InScope call.orgId call.projectId →
      fact.EffectiveAt call.now → candidateConflicts casing entry fact = true →
      nameIdentityOfFact casing fact = entry.nameIdentity casing ∧
        ∃ key ∈ call.matchKeys casing, key.matches casing fact = true) ∧
    ∀ other ∈ call.entries casing,
      candidateConflicts casing entry (rowFor call.ctx other) = true →
      other.nameIdentity casing = entry.nameIdentity casing

instance (casing : Casing) (call : IngestCall) (store : FactStore) :
    Decidable (call.ScanReachesConflicts casing store) :=
  inferInstanceAs (Decidable (∀ entry ∈ call.entries casing, _ → _ ∧ _))

theorem covered_view {casing : Casing} {call : IngestCall} {store : FactStore}
    (reaches : call.ScanReachesConflicts casing store) {entry : Entry}
    (member : entry ∈ call.entries casing)
    (live : isTombstoned casing (call.tombstones casing store) entry = false)
    (identity : NameIdentity) :
    Covered casing call.ctx (call.view casing store identity) entry := by
  intro slot slotMember clash
  obtain ⟨fact, bucketed, rfl⟩ := List.mem_map.mp slotMember
  obtain ⟨inScope, _, active, conflict⟩ := clash
  have conflicting := (candidateConflicts_iff casing call.ctx entry fact).mpr conflict
  obtain ⟨_, key, keyMember, matched⟩ := (reaches entry member live).1 fact
    (mem_bucketByName.mp bucketed).1 inScope active conflicting
  have tenant : fact.InScope call.orgId call.projectId := inScope
  have effective : fact.EffectiveAt call.now := active
  have found : ((call.matchKeys casing).any fun key => key.matches casing fact) = true :=
    List.any_eq_true.mpr ⟨key, keyMember, matched⟩
  simp [tenant, effective, found]

theorem ingest_active_row {casing : Casing} {collaborators : Collaborators}
    {store : FactStore} {call : IngestCall} {outcome : IngestOutcome}
    (ingested : ingestWithSupersession casing collaborators store call = .ok outcome)
    {fact : Fact} (member : fact ∈ outcome.store.facts)
    (active : fact.EffectiveAt call.now) :
    (∃ original ∈ store.facts, original.id = fact.id ∧
        fact.anonymous = original.anonymous) ∨
      ∃ entry ∈ call.entries casing,
        isTombstoned casing (call.tombstones casing store) entry = false ∧
        fact.anonymous = rowFor call.ctx entry := by
  obtain ⟨original, successor, rfl, source⟩ := ingest_row ingested member
  have untouched : original.closedAt outcome.result.superseded call.now = original := by
    unfold Fact.closedAt at active ⊢
    split
    · rename_i closed
      rw [if_pos closed] at active
      exact absurd (active.2.2 call.now rfl) (lt_irrefl call.now)
    · rfl
  rw [untouched]
  rcases source with stored | ⟨_, _, entry, entryMember, live, _, row⟩
  · exact .inl ⟨original, stored, rfl, rfl⟩
  · refine .inr ⟨entry, entryMember, live, ?_⟩
    rw [row]
    rfl

theorem ingest_identity_free {casing : Casing} {collaborators : Collaborators}
    {store : FactStore} {call : IngestCall} {outcome : IngestOutcome}
    (before : ConflictFree casing store call.now)
    (reaches : call.ScanReachesConflicts casing store)
    (ingested : ingestWithSupersession casing collaborators store call = .ok outcome)
    (identity : NameIdentity) :
    (bucketByName casing outcome.store.facts identity).Pairwise
      fun left right => ¬ left.ClashesAt casing call.now right := by
  have initial : ViewFree casing call.now (call.view casing store identity) := by
    unfold ViewFree IngestCall.view
    rw [List.pairwise_map]
    have distinct : (bucketByName casing store.facts identity).Pairwise
        fun left right => left.id ≠ right.id :=
      List.pairwise_map.mp ((List.filter_sublist.map _).nodup store.primaryKey)
    refine distinct.imp_of_mem ?_
    intro left right leftMember rightMember different
    exact before left (mem_bucketByName.mp leftMember).1 right
      (mem_bucketByName.mp rightMember).1 different
  have final : ViewFree casing call.now
      (assertEntries casing (call.tombstones casing store identity) call.ctx
        (call.view casing store identity)
        (entriesOf casing identity (call.entries casing))) := by
    refine @viewFree_assertEntries _ _ call.ctx _ _ initial ?_
    intro entry member live
    obtain ⟨entryMember, named⟩ := List.mem_filter.mp member
    refine covered_view reaches entryMember ?_ identity
    rw [isTombstoned, of_decide_eq_true named]
    exact live
  have rows := ingest_refines ingested identity
  have pairwise : (outcome.store.rows casing identity).Pairwise
      fun left right => ¬ left.ClashesAt casing call.now right := by
    rw [rows, List.pairwise_map]
    exact final
  exact List.pairwise_map.mp pairwise

theorem ingest_conflictFree {casing : Casing} {collaborators : Collaborators}
    {store : FactStore} {call : IngestCall} {outcome : IngestOutcome}
    (before : ConflictFree casing store call.now)
    (reaches : call.ScanReachesConflicts casing store)
    (ingested : ingestWithSupersession casing collaborators store call = .ok outcome) :
    ConflictFree casing outcome.store call.now := by
  intro left leftMember right rightMember different clash
  have symmetric : Std.Symm fun first second : Fact =>
      ¬ first.ClashesAt casing call.now second :=
    ⟨fun _ _ apart clash => apart clash.symm⟩
  by_cases same : nameIdentityOfFact casing left = nameIdentityOfFact casing right
  · exact (ingest_identity_free before reaches ingested
      (nameIdentityOfFact casing right)).forall
      (mem_bucketByName.mpr ⟨leftMember, same⟩)
      (mem_bucketByName.mpr ⟨rightMember, rfl⟩)
      (fun equal => different (congrArg Fact.id equal)) clash
  · have stripped : left.anonymous.ClashesAt casing call.now right.anonymous := clash
    have apart : nameIdentityOfFact casing left.anonymous ≠
        nameIdentityOfFact casing right.anonymous := same
    rcases ingest_active_row ingested leftMember clash.2.1 with
      ⟨leftOriginal, leftStored, leftId, leftRow⟩ | ⟨entry, entryMember, live, leftRow⟩ <;>
    rcases ingest_active_row ingested rightMember clash.2.2.1 with
      ⟨rightOriginal, rightStored, rightId, rightRow⟩ |
        ⟨other, otherMember, otherLive, rightRow⟩ <;>
    rw [leftRow, rightRow] at stripped apart
    · exact before leftOriginal leftStored rightOriginal rightStored
        (by rw [leftId, rightId]; exact different) stripped
    · obtain ⟨inScope, _, active, conflict⟩ := stripped.symm
      exact apart ((reaches other otherMember otherLive).1 leftOriginal leftStored inScope
        active ((candidateConflicts_iff casing call.ctx other leftOriginal).mpr conflict)).1
    · obtain ⟨inScope, _, active, conflict⟩ := stripped
      exact apart ((reaches entry entryMember live).1 rightOriginal rightStored inScope
        active
        ((candidateConflicts_iff casing call.ctx entry rightOriginal).mpr conflict)).1.symm
    · exact apart ((reaches entry entryMember live).2 other otherMember
        ((candidateConflicts_iff casing call.ctx entry _).mpr stripped.2.2.2)).symm

/-- Every row began by the instant of the last request. -/
def Ledger.Begun (ledger : Ledger) : Prop :=
  ∀ fact ∈ ledger.store.facts, ∃ start ≤ ledger.clock, fact.validFrom = some start

theorem Ledger.Begun.active_before {ledger : Ledger} (begun : ledger.Begun) {now : Time}
    (later : ledger.clock ≤ now) {fact : Fact} (member : fact ∈ ledger.store.facts)
    (active : fact.EffectiveAt now) : fact.EffectiveAt ledger.clock := by
  obtain ⟨start, started, validFrom⟩ := begun fact member
  refine ⟨?_, ?_, ?_⟩
  · exact fun instant found => lt_of_le_of_lt later (active.1 instant found)
  · intro bound found
    rw [validFrom] at found
    cases found
    exact started
  · exact fun stop found => lt_of_le_of_lt later (active.2.2 stop found)

theorem conflictFree_later {casing : Casing} {ledger : Ledger} (begun : ledger.Begun)
    (free : ConflictFree casing ledger.store ledger.clock) {now : Time}
    (later : ledger.clock ≤ now) : ConflictFree casing ledger.store now := by
  intro left leftMember right rightMember different clash
  obtain ⟨inScope, leftActive, rightActive, conflict⟩ := clash
  exact free left leftMember right rightMember different
    ⟨inScope, begun.active_before later leftMember leftActive,
      begun.active_before later rightMember rightActive, conflict⟩

/-- Undated ingests at non-decreasing instants. -/
def UndatedInOrder (ledger : Ledger) (call : IngestCall) : Prop :=
  call.Undated ∧ ledger.clock ≤ call.now

instance (ledger : Ledger) (call : IngestCall) : Decidable (UndatedInOrder ledger call) :=
  inferInstanceAs (Decidable (_ ∧ _))

theorem begun_ingest {casing : Casing} {collaborators : Collaborators} {ledger : Ledger}
    {call : IngestCall} (begun : ledger.Begun) (inOrder : UndatedInOrder ledger call) :
    (ledger.ingest casing collaborators call).Begun := by
  have earlier : ∀ fact ∈ ledger.store.facts,
      ∃ start ≤ call.now, fact.validFrom = some start := by
    intro fact member
    obtain ⟨start, started, validFrom⟩ := begun fact member
    exact ⟨start, le_trans started inOrder.2, validFrom⟩
  rcases ledger.ingest_cases casing collaborators call with
    ⟨outcome, ingested, stepped⟩ | unchanged
  · rw [stepped]
    intro fact member
    obtain ⟨original, successor, rfl, source⟩ := ingest_row ingested member
    have sameStart : (original.closedAt outcome.result.superseded call.now).validFrom =
        original.validFrom := by
      unfold Fact.closedAt
      split <;> rfl
    change ∃ start ≤ call.now,
      (original.closedAt outcome.result.superseded call.now).validFrom = some start
    rw [sameStart]
    rcases source with stored | ⟨_, _, entry, entryMember, _, _, row⟩
    · exact earlier original stored
    · refine ⟨call.now, le_refl _, ?_⟩
      rw [row, ← (inOrder.1.entry entryMember).1]
      rfl
  · rw [unchanged]
    exact earlier

/-- No run of undated ingests whose scans reach every conflict leaves two
conflicting facts active. -/
theorem run_conflictFree (casing : Casing) (collaborators : Collaborators) (clock : Time)
    {calls : List IngestCall} {ledger : Ledger}
    (run : GuardedRun (Ledger.ingest casing collaborators)
      (fun ledger call => UndatedInOrder ledger call ∧
        call.ScanReachesConflicts casing ledger.store)
      (Ledger.initial clock) calls ledger) :
    ConflictFree casing ledger.store ledger.clock := by
  have invariant : ledger.Begun ∧ ConflictFree casing ledger.store ledger.clock := by
    refine run.invariant (fun ledger =>
      ledger.Begun ∧ ConflictFree casing ledger.store ledger.clock) ?_ ?_
    · constructor
      · intro fact member
        cases member
      · intro left member
        cases member
    · rintro ledger call ⟨begun, free⟩ ⟨inOrder, reaches⟩
      refine ⟨begun_ingest begun inOrder, ?_⟩
      have before := conflictFree_later begun free inOrder.2
      rcases ledger.ingest_cases casing collaborators call with
        ⟨outcome, ingested, stepped⟩ | unchanged
      · rw [stepped]
        exact ingest_conflictFree before reaches ingested
      · rw [unchanged]
        exact before
  exact invariant.2

/-- A second spelling that the scan does reach closes the first. -/
theorem run_conflictFree_caseVariant :
    ∃ ledger : Ledger,
      GuardedRun (Ledger.ingest Casing.ascii ⟨false, false, false⟩)
        (fun ledger call => UndatedInOrder ledger call ∧
          call.ScanReachesConflicts Casing.ascii ledger.store)
        (Ledger.initial 0)
        [.ofForms 1 [.ofTriple "Acme" "uses" "Go" "first"] 10,
          .ofForms 2 [.ofTriple "ACME" "uses" "Go" "second"] 20] ledger ∧
        ledger.store.facts.length = 2 ∧
        ConflictFree Casing.ascii ledger.store ledger.clock := by
  refine ⟨_, .snoc (.snoc .nil (by decide)) (by decide), by decide, ?_⟩
  exact run_conflictFree Casing.ascii ⟨false, false, false⟩ 0
    (.snoc (.snoc .nil (by decide)) (by decide))

/-- A punctuation variant is not found by the scan: both spellings of one
name identity stay active. -/
theorem punctuationVariant_staysActive :
    ∃ ledger : Ledger,
      GuardedRun (Ledger.ingest Casing.ascii ⟨false, false, false⟩) UndatedInOrder
        (Ledger.initial 0)
        [.ofForms 1 [.ofTriple "Acme" "uses" "Go" "first"] 10,
          .ofForms 2 [.ofTriple "Acme!" "uses" "Go" "second"] 20] ledger ∧
        ¬ ConflictFree Casing.ascii ledger.store ledger.clock := by
  refine ⟨_, .snoc (.snoc .nil (by decide)) (by decide), ?_⟩
  decide

end OpenZync.Facts
