import OpenZync.Facts.StandingView

/-!
# Splitting a batch

One call for `xs ++ ys` against a call for `xs` followed by a later call for
`ys`.  Both fold the same assertions over the rows of every identity, except
that a single batch drops the forms of `ys` that repeat the identity and the
content of a form of `xs`.  Where the store is quiet between the instants and
spellings agree, the two leave the same active facts.
-/

namespace OpenZync.Facts

open OpenZync.Library

/-- The instant lies after the first call and not after the second. -/
def Between (first second instant : Time) : Prop :=
  first < instant ∧ instant ≤ second

/-- No bound and no retraction of the row takes effect between the calls. -/
def Fact.Quiet (first second : Time) (fact : Fact) : Prop :=
  (∀ instant ∈ fact.invalidAt, ¬ Between first second instant) ∧
    (∀ start ∈ fact.validFrom, ¬ Between first second start) ∧
    ∀ stop ∈ fact.validTo, ¬ Between first second stop

instance (first second : Time) (fact : Fact) : Decidable (fact.Quiet first second) :=
  have (instant : Time) : Decidable (Between first second instant) :=
    inferInstanceAs (Decidable (_ ∧ _))
  inferInstanceAs (Decidable ((∀ instant ∈ fact.invalidAt, _) ∧
    (∀ start ∈ fact.validFrom, _) ∧ ∀ stop ∈ fact.validTo, _))

def Quiet (first second : Time) (store : FactStore) : Prop :=
  ∀ fact ∈ store.facts, fact.Quiet first second

instance (first second : Time) (store : FactStore) : Decidable (Quiet first second store) :=
  inferInstanceAs (Decidable (∀ fact ∈ store.facts, _))

theorem not_between_lt {first second now instant : Time}
    (apart : ¬ Between first second instant) (after : first ≤ now) (before : now ≤ second) :
    now < instant ↔ second < instant := by
  constructor
  · intro later
    by_contra notAfter
    exact apart ⟨lt_of_le_of_lt after later, not_lt.mp notAfter⟩
  · exact lt_of_le_of_lt before

theorem Fact.Quiet.effective {first second now : Time} {fact : Fact}
    (quiet : fact.Quiet first second) (after : first ≤ now) (before : now ≤ second) :
    fact.EffectiveAt now ↔ fact.EffectiveAt second := by
  unfold Fact.EffectiveAt
  refine and_congr ?_ (and_congr ?_ ?_)
  · exact forall₂_congr fun instant found =>
      not_between_lt (quiet.1 instant found) after before
  · refine forall₂_congr fun start found => ?_
    rw [← not_lt, ← not_lt, not_between_lt (quiet.2.1 start found) after before]
  · exact forall₂_congr fun stop found =>
      not_between_lt (quiet.2.2 stop found) after before

theorem Fact.Quiet.standing {first second now : Time} {fact : Fact}
    (quiet : fact.Quiet first second) (after : first ≤ now) (before : now ≤ second) :
    fact.standing now = fact.standing second := by
  have reaches : fact.ReachesPast now ↔ fact.ReachesPast second := by
    unfold Fact.ReachesPast
    refine and_congr_right fun _ => and_congr_right fun _ => ?_
    exact forall₂_congr fun stop found =>
      not_between_lt (quiet.2.2 stop found) after before
  simp only [Fact.standing, decide_eq_decide.mpr (quiet.effective after before),
    decide_eq_decide.mpr reaches]

/-- Time between the calls changes no row. -/
theorem Quiet.standings {first second now : Time} {store : FactStore}
    (quiet : Quiet first second store) (after : first ≤ now) (before : now ≤ second)
    (casing : Casing) (identity : NameIdentity) :
    store.standings casing now identity = store.standings casing second identity := by
  apply List.map_congr_left
  intro fact bucketed
  exact (quiet fact (mem_bucketByName.mp bucketed).1).standing after before

theorem Quiet.ingest {casing : Casing} {collaborators : Collaborators}
    {store : FactStore} {call : IngestCall} {outcome : IngestOutcome}
    {first second : Time} (quiet : Quiet first second store) (after : first ≤ call.now)
    (undated : call.Undated)
    (ingested : ingestWithSupersession casing collaborators store call = .ok outcome) :
    Quiet call.now second outcome.store := by
  have later : ∀ instant, ¬ Between first second instant →
      ¬ Between call.now second instant := by
    intro instant apart between
    exact apart ⟨lt_of_le_of_lt after between.1, between.2⟩
  have itself : ¬ Between call.now second call.now := fun between =>
    lt_irrefl _ between.1
  intro fact member
  obtain ⟨original, successor, rfl, source⟩ := ingest_row ingested member
  have bounds : original.Quiet call.now second := by
    rcases source with stored | ⟨_, _, entry, entryMember, _, _, row⟩
    · obtain ⟨retracted, starts, stops⟩ := quiet original stored
      exact ⟨fun instant found => later instant (retracted instant found),
        fun start found => later start (starts start found),
        fun stop found => later stop (stops stop found)⟩
    · obtain ⟨start, noEnd⟩ := undated.entry entryMember
      rw [row]
      refine ⟨by simp [rowFor, Entry.toFact], ?_, ?_⟩
      · intro bound found
        have same : bound = entry.validFrom := (Option.some.inj found).symm
        rw [same, start]
        exact itself
      · simp [rowFor, Entry.toFact, noEnd]
  unfold Fact.closedAt
  split
  · refine ⟨bounds.1, bounds.2.1, ?_⟩
    intro stop found
    cases found
    exact itself
  · exact bounds

/-- The entry of an undated form, as another instant prepares it. -/
def Entry.startingAt (now : Time) (entry : Entry) : Entry :=
  { entry with validFrom := now }

namespace IngestCall

/-- The call for other forms at another instant. -/
def on (call : IngestCall) (facts : List FactForm) (now : Time) : IngestCall :=
  { call with
    facts := facts
    now := now }

/-- The entries `forms` would have in this call, on their own. -/
def entriesFor (casing : Casing) (call : IngestCall) (forms : List FactForm) : List Entry :=
  (call.on forms call.now).entries casing

/-- The `(name identity, content)` pairs the dedup of a batch records. -/
def pairsOf (casing : Casing) (call : IngestCall) (forms : List FactForm) :
    List (NameIdentity × Text) :=
  (call.on forms call.now).prepared.map fun entry =>
    (entry.nameIdentity casing, entry.content)

end IngestCall

theorem dedupEntries_startingAt (casing : Casing) (now : Time) (entries : List Entry)
    (seen : List (NameIdentity × Text)) :
    dedupEntries casing (entries.map (Entry.startingAt now)) seen =
      (dedupEntries casing entries seen).map (Entry.startingAt now) := by
  induction entries generalizing seen with
  | nil => rfl
  | cons entry entries induction =>
      have sameIdentity : (entry.startingAt now).nameIdentity casing =
        entry.nameIdentity casing := rfl
      have sameContent : (entry.startingAt now).content = entry.content := rfl
      simp only [List.map_cons, dedupEntries, sameIdentity, sameContent]
      split
      · exact induction seen
      · rw [induction]
        rfl

theorem IngestCall.entries_on {casing : Casing} {call : IngestCall}
    {forms : List FactForm} (undated : (call.on forms call.now).Undated) (now : Time) :
    (call.on forms now).entries casing =
      (call.entriesFor casing forms).map (Entry.startingAt now) := by
  have prepared : (call.on forms now).prepared =
      (call.on forms call.now).prepared.map (Entry.startingAt now) := by
    simp only [IngestCall.prepared, List.map_map]
    apply List.map_congr_left
    intro form member
    obtain ⟨noStart, _⟩ := undated form member
    simp [prepareEntry, noStart, Entry.startingAt, IngestCall.on]
  rw [IngestCall.entriesFor, IngestCall.entries, IngestCall.entries, prepared,
    dedupEntries_startingAt]

theorem foldl_assertStanding_on (casing : Casing) (call : IngestCall)
    (facts : List FactForm) (now start : Time) (entries : List Entry)
    (identity : NameIdentity) (view : List Standing) :
    (entriesOf casing identity (entries.map (Entry.startingAt start))).foldl
        (assertStanding casing (call.on facts now).ctx) view =
      (entriesOf casing identity entries).foldl (assertStanding casing call.ctx) view := by
  have filtered : entriesOf casing identity (entries.map (Entry.startingAt start)) =
      (entriesOf casing identity entries).map (Entry.startingAt start) := by
    simp only [entriesOf, List.filter_map]
    rfl
  rw [filtered, List.foldl_map]
  rfl

theorem dedupEntries_seen {casing : Casing} {entries : List Entry}
    {seen more extra : List (NameIdentity × Text)}
    (extended : ∀ pair, pair ∈ more ↔ pair ∈ seen ∨ pair ∈ extra) :
    dedupEntries casing entries more =
      (dedupEntries casing entries seen).filter fun entry =>
        decide ((entry.nameIdentity casing, entry.content) ∉ extra) := by
  induction entries generalizing seen more with
  | nil => rfl
  | cons entry entries induction =>
      unfold dedupEntries
      by_cases inSeen : (entry.nameIdentity casing, entry.content) ∈ seen
      · rw [if_pos inSeen, if_pos ((extended _).mpr (.inl inSeen))]
        exact induction extended
      · by_cases inExtra : (entry.nameIdentity casing, entry.content) ∈ extra
        · rw [if_neg inSeen, if_pos ((extended _).mpr (.inr inExtra)),
            List.filter_cons, if_neg (by simpa using inExtra)]
          refine induction fun pair => ?_
          rw [extended pair, List.mem_cons]
          constructor
          · rintro (old | new)
            · exact .inl (.inr old)
            · exact .inr new
          · rintro ((rfl | old) | new)
            · exact .inr inExtra
            · exact .inl old
            · exact .inr new
        · have fresh : (entry.nameIdentity casing, entry.content) ∉ more := by
            rw [extended]
            exact not_or.mpr ⟨inSeen, inExtra⟩
          rw [if_neg inSeen, if_neg fresh, List.filter_cons, if_pos (by simpa using inExtra)]
          congr 1
          refine induction fun pair => ?_
          rw [List.mem_cons, List.mem_cons, extended pair, or_assoc]

theorem dedupEntries_append {casing : Casing} {first second : List Entry}
    {seen : List (NameIdentity × Text)} :
    ∃ more, (∀ pair, pair ∈ more ↔ pair ∈ seen ∨
        pair ∈ first.map fun entry => (entry.nameIdentity casing, entry.content)) ∧
      dedupEntries casing (first ++ second) seen =
        dedupEntries casing first seen ++ dedupEntries casing second more := by
  induction first generalizing seen with
  | nil => exact ⟨seen, by simp, rfl⟩
  | cons entry entries induction =>
      by_cases inSeen : (entry.nameIdentity casing, entry.content) ∈ seen
      · obtain ⟨more, extended, split⟩ := @induction seen
        refine ⟨more, ?_, ?_⟩
        · intro pair
          rw [extended pair, List.map_cons, List.mem_cons]
          constructor
          · rintro (old | new)
            · exact .inl old
            · exact .inr (.inr new)
          · rintro (old | rfl | new)
            · exact .inl old
            · exact .inl inSeen
            · exact .inr new
        · rw [List.cons_append, dedupEntries, if_pos inSeen, dedupEntries, if_pos inSeen]
          exact split
      · obtain ⟨more, extended, split⟩ :=
          @induction ((entry.nameIdentity casing, entry.content) :: seen)
        refine ⟨more, ?_, ?_⟩
        · intro pair
          rw [extended pair, List.map_cons, List.mem_cons, List.mem_cons, or_assoc]
          exact or_left_comm
        · rw [List.cons_append, dedupEntries, if_neg inSeen, dedupEntries, if_neg inSeen,
            split]
          rfl

theorem dedupEntries_nodup {casing : Casing} {entries : List Entry}
    {seen : List (NameIdentity × Text)} :
    ((dedupEntries casing entries seen).map fun entry =>
        (entry.nameIdentity casing, entry.content)).Nodup ∧
      ∀ entry ∈ dedupEntries casing entries seen,
        (entry.nameIdentity casing, entry.content) ∉ seen := by
  induction entries generalizing seen with
  | nil => exact ⟨List.nodup_nil, by simp [dedupEntries]⟩
  | cons entry entries induction =>
      unfold dedupEntries
      split
      · exact induction
      · rename_i fresh
        obtain ⟨distinct, unseen⟩ :=
          @induction ((entry.nameIdentity casing, entry.content) :: seen)
        refine ⟨?_, ?_⟩
        · rw [List.map_cons, List.nodup_cons]
          refine ⟨?_, distinct⟩
          intro found
          obtain ⟨other, member, same⟩ := List.mem_map.mp found
          exact unseen other member (by rw [same]; exact List.mem_cons_self)
        · intro other member
          rcases List.mem_cons.mp member with rfl | later
          · exact fresh
          · exact fun found => unseen other later (List.mem_cons_of_mem _ found)

theorem IngestCall.entries_append {casing : Casing} {call : IngestCall}
    {first second : List FactForm} (batch : call.facts = first ++ second) :
    call.entries casing = call.entriesFor casing first ++
      (call.entriesFor casing second).filter fun entry =>
        decide ((entry.nameIdentity casing, entry.content) ∉ call.pairsOf casing first) := by
  have prepared : call.prepared = (call.on first call.now).prepared ++
      (call.on second call.now).prepared := by
    simp only [IngestCall.prepared, IngestCall.on, batch, List.map_append]
  obtain ⟨more, extended, split⟩ := @dedupEntries_append casing
    (call.on first call.now).prepared (call.on second call.now).prepared []
  rw [IngestCall.entries, prepared, split]
  congr 1
  exact dedupEntries_seen extended

/-- A form of `second` that repeats the name identity and the content of a
form of `first` is the first of its identity in `second`, and the same as the
last of its identity in `first`. -/
def IngestCall.RepeatsOnlyLast (casing : Casing) (call : IngestCall)
    (first second : List FactForm) : Prop :=
  ∀ entry ∈ call.entriesFor casing second,
    (entry.nameIdentity casing, entry.content) ∈ call.pairsOf casing first →
    (entriesOf casing (entry.nameIdentity casing)
        (call.entriesFor casing second)).head? = some entry ∧
      (entriesOf casing (entry.nameIdentity casing)
        (call.entriesFor casing first)).getLast? = some entry

instance (casing : Casing) (call : IngestCall) (first second : List FactForm) :
    Decidable (call.RepeatsOnlyLast casing first second) :=
  inferInstanceAs (Decidable (∀ entry ∈ call.entriesFor casing second, _ → _ ∧ _))

theorem foldl_repeats {casing : Casing} {ctx : BatchCtx} {first second : List Entry}
    {repeats : Entry → Bool} (distinct : second.Nodup)
    (only : ∀ entry ∈ second, repeats entry = true →
      second.head? = some entry ∧ first.getLast? = some entry) (view : List Standing) :
    (first ++ second.filter fun entry => !repeats entry).foldl
        (assertStanding casing ctx) view =
      (first ++ second).foldl (assertStanding casing ctx) view := by
  rw [List.foldl_append, List.foldl_append]
  cases second with
  | nil => rfl
  | cons entry rest =>
      rw [List.nodup_cons] at distinct
      have kept : (rest.filter fun entry => !repeats entry) = rest := by
        rw [List.filter_eq_self]
        intro other member
        rw [Bool.not_eq_true']
        by_contra repeated
        rw [Bool.not_eq_false] at repeated
        have head := (only other (List.mem_cons_of_mem _ member) repeated).1
        cases head
        exact distinct.1 member
      rw [List.filter_cons, kept]
      split
      · rfl
      · rename_i repeated
        have last := (only entry List.mem_cons_self (by simpa using repeated)).2
        obtain ⟨earlier, rfl⟩ := List.getLast?_eq_some_iff.mp last
        rw [List.foldl_cons, List.foldl_append, List.foldl_cons, List.foldl_nil,
          assertStanding_idempotent]

theorem IngestCall.foldl_entries {casing : Casing} {call : IngestCall}
    {first second : List FactForm} (batch : call.facts = first ++ second)
    (repeats : call.RepeatsOnlyLast casing first second) (identity : NameIdentity)
    (view : List Standing) :
    (entriesOf casing identity (call.entries casing)).foldl
        (assertStanding casing call.ctx) view =
      (entriesOf casing identity (call.entriesFor casing first) ++
        entriesOf casing identity (call.entriesFor casing second)).foldl
          (assertStanding casing call.ctx) view := by
  have parts : entriesOf casing identity (call.entries casing) =
      entriesOf casing identity (call.entriesFor casing first) ++
        (entriesOf casing identity (call.entriesFor casing second)).filter fun entry =>
          !decide ((entry.nameIdentity casing, entry.content) ∈
            call.pairsOf casing first) := by
    rw [IngestCall.entries_append batch]
    simp only [entriesOf, List.filter_append, decide_not]
    rw [List.filter_comm]
  rw [parts]
  refine foldl_repeats ?_ ?_ view
  · exact ((List.Nodup.of_map _ dedupEntries_nodup.1).sublist List.filter_sublist)
  · intro entry member repeated
    obtain ⟨entryMember, named⟩ := List.mem_filter.mp member
    have same := of_decide_eq_true named
    subst same
    exact repeats entry entryMember (of_decide_eq_true repeated)

/-- Every form of the batch finds, by its text, the active and the retracted
facts of the project and the other forms that share its name identity. -/
def IngestCall.SpellingsAgree (casing : Casing) (call : IngestCall) (store : FactStore) :
    Prop :=
  ∀ entry ∈ call.prepared,
    (∀ fact ∈ store.facts, fact.InScope call.orgId call.projectId →
      (fact.EffectiveAt call.now ∨ fact.invalidAt.isSome = true) →
      nameIdentityOfFact casing fact = entry.nameIdentity casing →
      entry.textKey.matches casing fact = true) ∧
    ∀ other ∈ call.prepared, other.nameIdentity casing = entry.nameIdentity casing →
      entry.textKey.matches casing (rowFor call.ctx other) = true

instance (casing : Casing) (call : IngestCall) (store : FactStore) :
    Decidable (call.SpellingsAgree casing store) :=
  inferInstanceAs (Decidable (∀ entry ∈ call.prepared,
    (∀ fact ∈ store.facts, _ → _ → _ → _) ∧ ∀ other ∈ call.prepared, _ → _))

theorem IngestCall.base_entry {casing : Casing} {call : IngestCall}
    {forms : List FactForm} {now : Time} (undated : call.Undated)
    (part : ∀ form ∈ forms, form ∈ call.facts) {entry : Entry}
    (member : entry ∈ (call.on forms now).entries casing) :
    ∃ base ∈ call.prepared, entry = base.startingAt now := by
  obtain ⟨form, formMember, rfl⟩ := (call.on forms now).entry_of_form member
  refine ⟨prepareEntry form call.sourceEpisodeId call.now,
    List.mem_map_of_mem (part form formMember), ?_⟩
  obtain ⟨noStart, _⟩ := undated form (part form formMember)
  simp [prepareEntry, noStart, Entry.startingAt, IngestCall.on]

theorem keysReach_of_text {casing : Casing} {call : IngestCall} {store : FactStore}
    (found : ∀ entry ∈ call.entries casing, ∀ fact ∈ store.facts,
      fact.InScope call.orgId call.projectId →
      (fact.EffectiveAt call.now ∨ fact.invalidAt.isSome = true) →
      nameIdentityOfFact casing fact = entry.nameIdentity casing →
      entry.textKey.matches casing fact = true) : call.KeysReach casing store := by
  intro entry member fact stored inScope standing named
  exact ⟨entry.textKey, List.mem_flatMap.mpr ⟨entry, member, entry.textKey_mem_matchKeys⟩,
    found entry member fact stored inScope standing named⟩

/-- What a fact says, and for whom. -/
structure AssertedFact where
  organizationId : Uuid
  projectId : Uuid
  subject : Option Text
  predicate : Option Text
  object : Option Text
  content : Text
  subjectEntityId : Option Uuid
  objectEntityId : Option Uuid
  deriving DecidableEq

def Fact.asserted (fact : Fact) : AssertedFact :=
  { organizationId := fact.organizationId
    projectId := fact.projectId
    subject := fact.subject
    predicate := fact.predicate
    object := fact.object
    content := fact.content
    subjectEntityId := fact.subjectEntityId
    objectEntityId := fact.objectEntityId }

/-- What is active in the store. -/
def activeFacts (store : FactStore) (now : Time) : Set AssertedFact :=
  { asserted | ∃ fact ∈ store.facts, fact.EffectiveAt now ∧ fact.asserted = asserted }

theorem mem_activeFacts {casing : Casing} {store : FactStore} {now : Time}
    {asserted : AssertedFact} :
    asserted ∈ activeFacts store now ↔
      ∃ identity, ∃ standing ∈ store.standings casing now identity,
        standing.active = true ∧ standing.fact.asserted = asserted := by
  constructor
  · rintro ⟨fact, member, active, rfl⟩
    exact ⟨nameIdentityOfFact casing fact, fact.standing now,
      List.mem_map_of_mem (mem_bucketByName.mpr ⟨member, rfl⟩), decide_eq_true active, rfl⟩
  · rintro ⟨identity, standing, member, active, rfl⟩
    obtain ⟨fact, bucketed, rfl⟩ := List.mem_map.mp member
    exact ⟨fact, (mem_bucketByName.mp bucketed).1, of_decide_eq_true active, rfl⟩

section Split

variable {casing : Casing} {collaborators : Collaborators} {store : FactStore}
  {call : IngestCall} {first second : Time}

theorem keysReach_first {forms : List FactForm} {now : Time}
    (undated : call.Undated) (part : ∀ form ∈ forms, form ∈ call.facts)
    (quiet : Quiet first second store) (after : first ≤ now) (before : now ≤ second)
    (callAfter : first ≤ call.now) (callBefore : call.now ≤ second)
    (agree : call.SpellingsAgree casing store) :
    (call.on forms now).KeysReach casing store := by
  refine keysReach_of_text ?_
  intro entry member fact stored inScope standing named
  obtain ⟨base, baseMember, rfl⟩ := IngestCall.base_entry undated part member
  refine (agree base baseMember).1 fact stored inScope ?_ named
  refine standing.imp_left fun active => ?_
  rw [(quiet fact stored).effective callAfter callBefore]
  rwa [← (quiet fact stored).effective after before]

theorem keysReach_second {firstForms secondForms : List FactForm}
    {outcome : IngestOutcome} (undated : call.Undated)
    (firstPart : ∀ form ∈ firstForms, form ∈ call.facts)
    (secondPart : ∀ form ∈ secondForms, form ∈ call.facts)
    (quiet : Quiet first second store) (after : first ≤ call.now)
    (before : call.now ≤ second) (agree : call.SpellingsAgree casing store)
    (ingested : ingestWithSupersession casing collaborators store
      (call.on firstForms first) = .ok outcome) :
    (call.on secondForms second).KeysReach casing outcome.store := by
  refine keysReach_of_text ?_
  intro entry member fact stored inScope standing named
  obtain ⟨base, baseMember, rfl⟩ := IngestCall.base_entry undated secondPart member
  obtain ⟨original, successor, rfl, source⟩ := ingest_row ingested stored
  have sameRow : ∀ key : MatchKey,
      key.matches casing
          { original.closedAt outcome.result.superseded first with
            supersededByFactId := successor } =
        key.matches casing original := by
    intro key
    unfold Fact.closedAt
    split <;> rfl
  have sameName : nameIdentityOfFact casing original = base.nameIdentity casing := by
    rw [← nameIdentityOfFact_closedAt casing original outcome.result.superseded first]
    exact named
  change base.textKey.matches casing _ = true
  rw [show (call.on firstForms first).now = first from rfl, sameRow]
  rcases source with kept | ⟨_, _, created, createdMember, _, _, row⟩
  · have scope : original.InScope call.orgId call.projectId := by
      unfold Fact.closedAt at inScope
      split at inScope <;> exact inScope
    refine (agree base baseMember).1 original kept scope ?_ sameName
    rcases standing with active | retracted
    · left
      rw [(quiet original kept).effective after before]
      unfold Fact.closedAt at active
      split at active
      · exact absurd (active.2.2 first rfl) (not_lt.mpr (le_trans after before))
      · exact active
    · right
      unfold Fact.closedAt at retracted
      split at retracted <;> exact retracted
  · obtain ⟨other, otherMember, rfl⟩ := IngestCall.base_entry undated firstPart createdMember
    rw [row] at sameName ⊢
    exact (agree base baseMember).2 other otherMember sameName

/-- Ingesting `xs ++ ys` in one call leaves the same active facts as ingesting
`xs` and, later, `ys`. -/
theorem split_sameActive {xs ys : List FactForm} {one two three : IngestOutcome}
    (batch : call.facts = xs ++ ys) (undated : call.Undated)
    (after : first ≤ call.now) (before : call.now ≤ second)
    (quiet : Quiet first second store) (agree : call.SpellingsAgree casing store)
    (repeats : call.RepeatsOnlyLast casing xs ys)
    (whole : ingestWithSupersession casing collaborators store call = .ok one)
    (begun : ingestWithSupersession casing collaborators store (call.on xs first) =
      .ok two)
    (finished : ingestWithSupersession casing collaborators two.store
      (call.on ys second) = .ok three) :
    activeFacts one.store second = activeFacts three.store second := by
  have xsPart : ∀ form ∈ xs, form ∈ call.facts := by
    intro form member
    rw [batch]
    exact List.mem_append_left _ member
  have ysPart : ∀ form ∈ ys, form ∈ call.facts := by
    intro form member
    rw [batch]
    exact List.mem_append_right _ member
  have xsUndated : ∀ now, (call.on xs now).Undated :=
    fun _ form member => undated form (xsPart form member)
  have ysUndated : ∀ now, (call.on ys now).Undated :=
    fun _ form member => undated form (ysPart form member)
  have wholeReach : call.KeysReach casing store :=
    keysReach_first undated (fun _ member => member) quiet after before after before agree
  have xsReach : (call.on xs first).KeysReach casing store :=
    keysReach_first undated xsPart quiet (le_refl _) (le_trans after before) after before
      agree
  have ysReach : (call.on ys second).KeysReach casing two.store :=
    keysReach_second undated xsPart ysPart quiet after before agree begun
  have same : ∀ identity, one.store.standings casing second identity =
      three.store.standings casing second identity := by
    intro identity
    have oneQuiet := quiet.ingest after undated whole
    have twoQuiet := quiet.ingest (le_refl first) (xsUndated first) begun
    have xsFold : two.store.standings casing second identity =
        (entriesOf casing identity (call.entriesFor casing xs)).foldl
          (assertStanding casing call.ctx) (store.standings casing second identity) := by
      rw [← twoQuiet.standings (le_refl _) (le_trans after before) casing identity,
        ← quiet.standings (le_refl _) (le_trans after before) casing identity,
        ← foldl_assertStanding_on casing call xs first first,
        ← IngestCall.entries_on (xsUndated _) first]
      exact ingest_standings (xsUndated first) xsReach begun identity
    have ysFold : three.store.standings casing second identity =
        (entriesOf casing identity (call.entriesFor casing ys)).foldl
          (assertStanding casing call.ctx)
          (two.store.standings casing second identity) := by
      rw [← foldl_assertStanding_on casing call ys second second,
        ← IngestCall.entries_on (ysUndated _) second]
      exact ingest_standings (ysUndated second) ysReach finished identity
    calc one.store.standings casing second identity
        = one.store.standings casing call.now identity :=
          (oneQuiet.standings (le_refl _) before casing identity).symm
      _ = (entriesOf casing identity (call.entries casing)).foldl
            (assertStanding casing call.ctx) (store.standings casing call.now identity) :=
          ingest_standings undated wholeReach whole identity
      _ = (entriesOf casing identity (call.entriesFor casing xs) ++
            entriesOf casing identity (call.entriesFor casing ys)).foldl
              (assertStanding casing call.ctx)
              (store.standings casing second identity) := by
          rw [quiet.standings after before casing identity]
          exact call.foldl_entries batch repeats identity _
      _ = three.store.standings casing second identity := by
          rw [List.foldl_append, ← xsFold, ← ysFold]
  ext asserted
  rw [@mem_activeFacts casing, @mem_activeFacts casing]
  simp only [same]

end Split

/-- A case variant and a new content, in one call or in two. -/
theorem split_sameActive_caseVariant :
    ∃ one two three,
      ingestWithSupersession Casing.ascii ⟨false, false, false⟩ firstEpisodeLedger.store
          (.ofForms 2 [.ofTriple "ACME" "uses" "Go" "second",
            .ofTriple "Acme" "uses" "Go" "third"] 20) = .ok one ∧
        ingestWithSupersession Casing.ascii ⟨false, false, false⟩ firstEpisodeLedger.store
          (.ofForms 2 [.ofTriple "ACME" "uses" "Go" "second"] 20) = .ok two ∧
        ingestWithSupersession Casing.ascii ⟨false, false, false⟩ two.store
          (.ofForms 2 [.ofTriple "Acme" "uses" "Go" "third"] 30) = .ok three ∧
        activeFacts one.store 30 = activeFacts three.store 30 := by
  let call : IngestCall := .ofForms 2 [.ofTriple "ACME" "uses" "Go" "second",
    .ofTriple "Acme" "uses" "Go" "third"] 20
  obtain ⟨one, whole, _⟩ : ∃ one,
      ingestWithSupersession Casing.ascii ⟨false, false, false⟩
        firstEpisodeLedger.store call = .ok one ∧ true = true :=
    exists_ok (by decide)
  obtain ⟨two, begun, continued⟩ : ∃ two,
      ingestWithSupersession Casing.ascii ⟨false, false, false⟩ firstEpisodeLedger.store
          (call.on [.ofTriple "ACME" "uses" "Go" "second"] 20) = .ok two ∧
        ((ingestWithSupersession Casing.ascii ⟨false, false, false⟩ two.store
          (call.on [.ofTriple "Acme" "uses" "Go" "third"] 30)).toOption.any
            fun _ => true) = true :=
    exists_ok (by decide)
  obtain ⟨three, finished, _⟩ := exists_ok continued
  exact ⟨one, two, three, whole, begun, finished,
    split_sameActive rfl (by decide) (by decide) (by decide) (by decide) (by decide)
      (by decide) whole begun finished⟩

/-- A form repeated after another content superseded it: one batch drops the
repetition, a second call asserts it. -/
theorem split_repeatedForm_differs :
    ∃ one two three,
      ingestWithSupersession Casing.ascii ⟨false, false, false⟩ FactStore.empty
          (.ofForms 1 [.ofTriple "Acme" "uses" "Go" "first",
            .ofTriple "Acme" "uses" "Go" "second",
            .ofTriple "Acme" "uses" "Go" "first"] 20) = .ok one ∧
        ingestWithSupersession Casing.ascii ⟨false, false, false⟩ FactStore.empty
          (.ofForms 1 [.ofTriple "Acme" "uses" "Go" "first",
            .ofTriple "Acme" "uses" "Go" "second"] 20) = .ok two ∧
        ingestWithSupersession Casing.ascii ⟨false, false, false⟩ two.store
          (.ofForms 1 [.ofTriple "Acme" "uses" "Go" "first"] 30) = .ok three ∧
        activeFacts one.store 30 ≠ activeFacts three.store 30 := by
  let asserted : AssertedFact := ⟨1, 1, some "Acme".toList, some "uses".toList,
    some "Go".toList, "first".toList, none, none⟩
  obtain ⟨one, whole, absent⟩ : ∃ one,
      ingestWithSupersession Casing.ascii ⟨false, false, false⟩ FactStore.empty
          (.ofForms 1 [.ofTriple "Acme" "uses" "Go" "first",
            .ofTriple "Acme" "uses" "Go" "second",
            .ofTriple "Acme" "uses" "Go" "first"] 20) = .ok one ∧
        decide (¬ ∃ fact ∈ one.store.facts, fact.EffectiveAt 30 ∧
          fact.asserted = asserted) = true :=
    exists_ok (by decide)
  obtain ⟨two, begun, continued⟩ : ∃ two,
      ingestWithSupersession Casing.ascii ⟨false, false, false⟩ FactStore.empty
          (.ofForms 1 [.ofTriple "Acme" "uses" "Go" "first",
            .ofTriple "Acme" "uses" "Go" "second"] 20) = .ok two ∧
        ((ingestWithSupersession Casing.ascii ⟨false, false, false⟩ two.store
          (.ofForms 1 [.ofTriple "Acme" "uses" "Go" "first"] 30)).toOption.any
            fun three => decide (∃ fact ∈ three.store.facts, fact.EffectiveAt 30 ∧
              fact.asserted = asserted)) = true :=
    exists_ok (by decide)
  obtain ⟨three, finished, present⟩ := exists_ok continued
  refine ⟨one, two, three, whole, begun, finished, ?_⟩
  intro same
  have stored : ∃ fact ∈ three.store.facts, fact.EffectiveAt 30 ∧
      fact.asserted = asserted := of_decide_eq_true present
  have inThree : asserted ∈ activeFacts three.store 30 := stored
  rw [← same] at inThree
  exact (of_decide_eq_true absent : ¬ ∃ fact ∈ one.store.facts, _) inThree

end OpenZync.Facts
