import OpenZync.Facts.DeadRows
import OpenZync.Facts.FactRequests
import OpenZync.Facts.Runs
import OpenZync.Library.Execution
import OpenZync.Memory.ProjectWipe

/-!
# A wiped project and a fresh one

After a wipe the tables differ from those of a project without history in dead
rows and in claims from before.  As long as no request meets one of them, the
same requests leave the same active facts and live episodes.
-/

namespace OpenZync.Memory

open OpenZync.Facts OpenZync.Library

/-- The two states differ in what was written by `since`: dead facts, deleted
episodes, values in Redis and dedup rows. -/
structure Alike (gone : List Uuid) (since : Time) (wiped fresh : ProjectMemory) : Prop where
  facts : Without gone since wiped.facts fresh.facts
  episodes : (fresh.episodes.filter fun episode => !episode.isDeleted) =
    wiped.episodes.filter fun episode => !episode.isDeleted
  redis : ∀ key, fresh.redis key =
    (wiped.redis key).filter fun stored => decide (since < stored.setAt)
  dedup : fresh.dedup = wiped.dedup.filter fun row => decide (since < row.createdAt)

/-- What Redis held under the key by `since` has expired. -/
def Forgotten (state : ProjectMemory) (since : Time) (key : Text) (now : Time) : Prop :=
  ∀ stored ∈ state.redis key, stored.setAt ≤ since → stored.setAt + dedupTtl ≤ now

/-- The request comes after the wipe and meets nothing from before it: no key
and no row that is still claimed, and no fact that stands in the way of one of
its triples. -/
def MeetsNoRemains (service : IdempotencyService) (casing : Casing) (gone : List Uuid)
    (since : Time) (state : ProjectMemory) : Ingest → Prop
  | .messages request =>
      since < request.batch.now ∧
        (∀ key bodyHash, request.idempotencyKey = some (key, bodyHash) →
          Forgotten state since
            (idempotencyCacheKey service request.batch.organizationId key) request.batch.now) ∧
        Forgotten state since (ProjectMemory.contentKey service request) request.batch.now ∧
        ∀ row ∈ state.dedup, row.key = ProjectMemory.dedupKey service request →
          row.createdAt ≤ since → row.createdAt < request.batch.now - dedupTtl
  | .facts request =>
      since < request.call.now ∧
        Forgotten state since (ProjectMemory.factsKey service request) request.call.now ∧
        NoneTombstoned casing gone state.facts request.call
  | .extraction extraction =>
      since < extraction.call.now ∧ NoneTombstoned casing gone state.facts extraction.call

namespace Alike

variable {gone : List Uuid} {since : Time} {wiped fresh : ProjectMemory}

theorem getValue_eq (alike : Alike gone since wiped fresh) {key : Text} {now : Time}
    (forgotten : Forgotten wiped since key now) :
    getValue fresh.redis key now = getValue wiped.redis key now := by
  unfold getValue
  rw [alike.redis]
  cases held : wiped.redis key with
  | none => rfl
  | some stored =>
      by_cases recent : since < stored.setAt
      · simp [Option.filter, recent]
      · have expired := forgotten stored (by rw [held]; rfl) (not_lt.mp recent)
        simp [Option.filter, recent, not_lt.mpr expired]

theorem setValue (alike : Alike gone since wiped fresh) (key value : Text) {now : Time}
    (later : since < now) : Alike gone since (wiped.setValue key value now)
      (fresh.setValue key value now) where
  facts := alike.facts
  episodes := alike.episodes
  redis other := by
    simp only [ProjectMemory.setValue]
    by_cases same : other = key
    · subst other
      simp [Option.filter, later]
    · simp only [Function.update_of_ne same]
      exact alike.redis other
  dedup := alike.dedup

theorem release (alike : Alike gone since wiped fresh) (key : Text) :
    Alike gone since (wiped.release key) (fresh.release key) where
  facts := alike.facts
  episodes := alike.episodes
  redis other := by
    simp only [ProjectMemory.release]
    by_cases same : other = key
    · subst other
      simp
    · simp only [Function.update_of_ne same]
      exact alike.redis other
  dedup := alike.dedup

theorem liveNumbers_eq (alike : Alike gone since wiped fresh) (sessionId : Uuid) :
    liveNumbers fresh.episodes sessionId = liveNumbers wiped.episodes sessionId := by
  have live : ∀ episodes : List Episode,
      (episodes.filter fun episode => episode.LiveIn sessionId) =
        (episodes.filter fun episode => !episode.isDeleted).filter
          fun episode => decide (episode.sessionId = sessionId) := by
    intro episodes
    rw [List.filter_filter]
    apply List.filter_congr
    intro episode _
    by_cases same : episode.sessionId = sessionId <;> simp [Episode.LiveIn, same]
  unfold liveNumbers
  rw [live, live, alike.episodes]

theorem append (alike : Alike gone since wiped fresh) (rows : List Episode) :
    Alike gone since { wiped with episodes := wiped.episodes ++ rows }
      { fresh with episodes := fresh.episodes ++ rows } where
  facts := alike.facts
  episodes := by
    simp only [List.filter_append, alike.episodes]
  redis := alike.redis
  dedup := alike.dedup

theorem withFacts (alike : Alike gone since wiped fresh) {larger smaller : FactStore}
    (without : Without gone since larger smaller) :
    Alike gone since { wiped with facts := larger } { fresh with facts := smaller } :=
  ⟨without, alike.episodes, alike.redis, alike.dedup⟩

theorem withDedup (alike : Alike gone since wiped fresh) {table table' : DedupTable}
    (tables : table' = table.filter fun row => decide (since < row.createdAt)) :
    Alike gone since { wiped with dedup := table } { fresh with dedup := table' } :=
  ⟨alike.facts, alike.episodes, alike.redis, tables⟩

theorem insertOrNone_alike (alike : Alike gone since wiped fresh) {key : DedupKey}
    (jobId : Uuid) {now : Time} (later : since < now)
    (forgotten : ∀ row ∈ wiped.dedup, row.key = key → row.createdAt ≤ since →
      row.createdAt < now - dedupTtl) :
    (insertOrNone fresh.dedup key jobId now).2 = (insertOrNone wiped.dedup key jobId now).2 ∧
      (insertOrNone fresh.dedup key jobId now).1 =
        (insertOrNone wiped.dedup key jobId now).1.filter
          fun row => decide (since < row.createdAt) := by
  have remaining : deleteExpired fresh.dedup key now =
      (deleteExpired wiped.dedup key now).filter fun row => decide (since < row.createdAt) := by
    unfold deleteExpired
    rw [alike.dedup, List.filter_filter, List.filter_filter]
    apply List.filter_congr
    intro row _
    exact Bool.and_comm _ _
  have found : ((deleteExpired fresh.dedup key now).any fun row => decide (row.key = key)) =
      (deleteExpired wiped.dedup key now).any fun row => decide (row.key = key) := by
    rw [remaining, List.any_filter]
    apply Bool.eq_iff_iff.mpr
    rw [List.any_eq_true, List.any_eq_true]
    constructor
    · rintro ⟨row, member, both⟩
      rw [Bool.and_eq_true] at both
      exact ⟨row, member, both.2⟩
    · rintro ⟨row, member, same⟩
      refine ⟨row, member, ?_⟩
      have sameKey : row.key = key := by simpa using same
      simp only [deleteExpired, List.mem_filter, Bool.not_eq_true', Bool.and_eq_false_iff,
        decide_eq_false_iff_not] at member
      have kept := member.2.resolve_left (fun different => different sameKey)
      have recent : since < row.createdAt := by
        by_contra old
        exact kept (forgotten row member.1 sameKey (not_lt.mp old))
      simp [recent, sameKey]
  unfold insertOrNone
  simp only [found]
  split
  · exact ⟨rfl, remaining⟩
  · refine ⟨rfl, ?_⟩
    simp only [remaining, List.filter_append]
    rw [List.filter_cons_of_pos (by simpa using later), List.filter_nil]

section Requests

variable {service : IdempotencyService} {casing : Casing}

theorem storeIdempotencyKey (alike : Alike gone since wiped fresh) (request : MessageIngest)
    (later : since < request.batch.now) :
    Alike gone since (wiped.storeIdempotencyKey service request)
      (fresh.storeIdempotencyKey service request) := by
  unfold ProjectMemory.storeIdempotencyKey
  split
  · exact alike
  · exact alike.setValue _ _ later

theorem insertEpisodes (alike : Alike gone since wiped fresh) (request : MessageIngest)
    (later : since < request.batch.now) {table table' : DedupTable}
    (tables : table' = table.filter fun row => decide (since < row.createdAt)) :
    Alike gone since (wiped.insertEpisodes service request table)
      (fresh.insertEpisodes service request table') := by
  have start : nextSequence fresh.episodes request.batch.sessionId =
      nextSequence wiped.episodes request.batch.sessionId := by
    unfold nextSequence
    rw [alike.liveNumbers_eq]
  have collide : ∀ rows, collides fresh.episodes rows request.batch.sessionId =
      collides wiped.episodes rows request.batch.sessionId := by
    intro rows
    unfold collides
    rw [alike.liveNumbers_eq]
  unfold ProjectMemory.insertEpisodes
  simp only [start, collide]
  by_cases refused : (!request.succeeds || collides wiped.episodes
      (request.batch.rows (nextSequence wiped.episodes request.batch.sessionId))
      request.batch.sessionId) = true
  · rw [if_pos refused, if_pos refused]
    exact alike.release _
  · rw [if_neg refused, if_neg refused]
    have appended := alike.append
      (request.batch.rows (nextSequence wiped.episodes request.batch.sessionId))
    exact ((appended.withDedup tables).setValue _ _ later).storeIdempotencyKey request later

theorem ingest (alike : Alike gone since wiped fresh) {request : MessageIngest}
    (meets : MeetsNoRemains service casing gone since wiped (.messages request)) :
    Alike gone since (wiped.ingest service request) (fresh.ingest service request) := by
  obtain ⟨later, keyForgotten, claimForgotten, rowForgotten⟩ := meets
  have newKey : fresh.isNewKey service request = wiped.isNewKey service request := by
    unfold ProjectMemory.isNewKey
    split
    · rfl
    · rename_i key bodyHash given
      rw [alike.getValue_eq (keyForgotten key bodyHash given)]
  obtain ⟨won, tables⟩ := alike.insertOrNone_alike request.jobId later rowForgotten
  unfold ProjectMemory.ingest
  rw [newKey, alike.getValue_eq claimForgotten]
  split
  · exact alike
  · split
    · exact alike
    · cases claimed : (insertOrNone wiped.dedup (ProjectMemory.dedupKey service request)
          request.jobId request.batch.now).2 with
      | true =>
          rw [claimed] at won
          simp only [claimed, won, if_true]
          exact alike.insertEpisodes request later tables
      | false =>
          rw [claimed] at won
          simp only [claimed, won, Bool.false_eq_true, if_false]
          exact (alike.withDedup tables).release _

theorem ingestFacts (alike : Alike gone since wiped fresh) {request : FactIngest}
    (meets : MeetsNoRemains service casing gone since wiped (.facts request)) :
    Alike gone since (wiped.ingestFacts service casing request)
      (fresh.ingestFacts service casing request) := by
  obtain ⟨later, claimForgotten, free⟩ := meets
  have agree := alike.facts.ingest request.collaborators later.le free
  unfold ProjectMemory.ingestFacts
  simp only [alike.getValue_eq claimForgotten]
  split
  · exact alike
  · split
    · exact alike
    · split
      · exact alike.release _
      · rcases agree.outcomes with ⟨_, wipedFails, freshFails⟩ |
          ⟨_, _, wipedDone, freshDone, without, _⟩
        · simp only [wipedFails, freshFails]
          exact alike.release _
        · simp only [wipedDone, freshDone]
          split
          · exact alike.release _
          · split
            · exact (alike.withFacts without).setValue _ _ later
            · exact alike.setValue _ _ later

theorem extractFacts (alike : Alike gone since wiped fresh) {extraction : Extraction}
    (later : since < extraction.call.now)
    (free : NoneTombstoned casing gone wiped.facts extraction.call) :
    Alike gone since (wiped.extractFacts casing extraction)
      (fresh.extractFacts casing extraction) := by
  have agree := alike.facts.ingest extraction.collaborators later.le free
  unfold ProjectMemory.extractFacts
  rcases agree.outcomes with ⟨_, wipedFails, freshFails⟩ |
    ⟨_, _, wipedDone, freshDone, without, _⟩
  · simp only [wipedFails, freshFails]
    exact alike
  · simp only [wipedDone, freshDone]
    split
    · exact alike.withFacts without
    · exact alike

/-- What one request preserves. -/
theorem perform (alike : Alike gone since wiped fresh) {ingest : Ingest}
    (meets : MeetsNoRemains service casing gone since wiped ingest) :
    Alike gone since (wiped.perform service casing ingest)
      (fresh.perform service casing ingest) := by
  cases ingest with
  | messages request => exact alike.ingest meets
  | facts request => exact alike.ingestFacts meets
  | extraction extraction => exact alike.extractFacts meets.1 meets.2

theorem run (alike : Alike gone since wiped fresh) {ingests : List Ingest}
    {state : ProjectMemory}
    (run : GuardedRun (ProjectMemory.perform service casing)
      (MeetsNoRemains service casing gone since) wiped ingests state) :
    Alike gone since state (ingests.foldl (ProjectMemory.perform service casing) fresh) := by
  induction run with
  | nil => exact alike
  | snoc _ meets ih =>
      rw [List.foldl_append]
      exact ih.perform meets

end Requests

theorem activeFacts_eq (alike : Alike gone since wiped fresh) (projectId organizationId : Uuid)
    {instant : Time} (later : since ≤ instant) :
    wiped.activeFacts projectId organizationId instant =
      fresh.activeFacts projectId organizationId instant := by
  unfold ProjectMemory.activeFacts
  rw [alike.facts.facts, List.filter_filter]
  apply List.filter_congr
  intro fact member
  by_cases isGone : fact.id ∈ gone
  · have inactive := not_effectiveAt_of_dead (alike.facts.dead fact member isGone) later
    simp [isGone, inactive]
  · simp [isGone]

theorem liveEpisodes_eq (alike : Alike gone since wiped fresh)
    (projectId organizationId : Uuid) :
    wiped.liveEpisodes projectId organizationId = fresh.liveEpisodes projectId organizationId := by
  have live : ∀ state : ProjectMemory, state.liveEpisodes projectId organizationId =
      (state.episodes.filter fun episode => !episode.isDeleted).filter fun episode =>
        decide (episode.projectId = projectId) &&
          decide (episode.organizationId = organizationId) := by
    intro state
    rw [List.filter_filter]
    rfl
  rw [live, live, alike.episodes]

end Alike

/-- The facts of a project, by their identifiers. -/
def factIds (state : ProjectMemory) (projectId organizationId : Uuid) : List Uuid :=
  (state.facts.facts.filter fun fact =>
    decide (fact.InScope organizationId projectId)).map Fact.id

/-- Nothing was written in the future. -/
def WrittenBy (state : ProjectMemory) (now : Time) : Prop :=
  (∀ fact ∈ state.facts.facts, ∀ instant ∈ fact.invalidAt, instant ≤ now) ∧
    (∀ key, ∀ stored ∈ state.redis key, stored.setAt ≤ now) ∧
    ∀ row ∈ state.dedup, row.createdAt ≤ now

def Ingest.now : Ingest → Time
  | .messages request => request.batch.now
  | .facts request => request.call.now
  | .extraction found => found.call.now

namespace WrittenBy

variable {state : ProjectMemory} {now : Time}

theorem setValue (written : WrittenBy state now) (key value : Text) {instant : Time}
    (earlier : instant ≤ now) : WrittenBy (state.setValue key value instant) now := by
  refine ⟨written.1, ?_, written.2.2⟩
  intro other stored held
  simp only [ProjectMemory.setValue] at held
  by_cases same : other = key
  · subst other
    rw [Function.update_self] at held
    cases held
    exact earlier
  · rw [Function.update_of_ne same] at held
    exact written.2.1 other stored held

theorem release (written : WrittenBy state now) (key : Text) :
    WrittenBy (state.release key) now := by
  refine ⟨written.1, ?_, written.2.2⟩
  intro other stored held
  simp only [ProjectMemory.release] at held
  by_cases same : other = key
  · subst other
    rw [Function.update_self] at held
    cases held
  · rw [Function.update_of_ne same] at held
    exact written.2.1 other stored held

theorem withEpisodes (written : WrittenBy state now) (episodes : List Episode) :
    WrittenBy { state with episodes := episodes } now :=
  written

theorem withDedup (written : WrittenBy state now) (key : DedupKey) (jobId : Uuid)
    {instant : Time} (earlier : instant ≤ now) :
    WrittenBy { state with dedup := (insertOrNone state.dedup key jobId instant).1 } now := by
  refine ⟨written.1, written.2.1, ?_⟩
  have remaining : ∀ row ∈ deleteExpired state.dedup key instant, row.createdAt ≤ now :=
    fun row member => written.2.2 row (List.mem_filter.mp member).1
  intro row member
  simp only [insertOrNone] at member
  split at member
  · exact remaining row member
  · rcases List.mem_append.mp member with old | new
    · exact remaining row old
    · rw [List.mem_singleton.mp new]
      exact earlier

/-- Ingest itself retracts nothing. -/
theorem withFacts (written : WrittenBy state now) {casing : Casing}
    {collaborators : Collaborators} {call : IngestCall} {outcome : IngestOutcome}
    (ingested : ingestWithSupersession casing collaborators state.facts call = .ok outcome) :
    WrittenBy { state with facts := outcome.store } now := by
  refine ⟨?_, written.2⟩
  intro fact member instant invalidated
  obtain ⟨original, successor, rfl, source⟩ := ingest_row ingested member
  have kept : (original.closedAt outcome.result.superseded call.now).invalidAt =
      original.invalidAt := by
    unfold Fact.closedAt
    split <;> rfl
  simp only [kept] at invalidated
  rcases source with stored | ⟨_, _, entry, _, _, _, row⟩
  · exact written.1 original stored instant invalidated
  · rw [row] at invalidated
    cases invalidated

theorem storeIdempotencyKey (written : WrittenBy state now) {service : IdempotencyService}
    {request : MessageIngest} (earlier : request.batch.now ≤ now) :
    WrittenBy (state.storeIdempotencyKey service request) now := by
  unfold ProjectMemory.storeIdempotencyKey
  split
  · exact written
  · exact written.setValue _ _ earlier

theorem ingest (written : WrittenBy state now) {service : IdempotencyService}
    {request : MessageIngest} (earlier : request.batch.now ≤ now) :
    WrittenBy (state.ingest service request) now := by
  have claimed := written.withDedup (ProjectMemory.dedupKey service request) request.jobId earlier
  unfold ProjectMemory.ingest
  split
  · exact written
  · split
    · exact written
    · dsimp only
      split
      · unfold ProjectMemory.insertEpisodes
        dsimp only
        split
        · exact written.release _
        · apply storeIdempotencyKey _ earlier
          apply setValue _ _ _ earlier
          exact claimed.withEpisodes _
      · exact claimed.release _

theorem ingestFacts (written : WrittenBy state now) {service : IdempotencyService}
    {casing : Casing} {request : FactIngest} (earlier : request.call.now ≤ now) :
    WrittenBy (state.ingestFacts service casing request) now := by
  unfold ProjectMemory.ingestFacts
  dsimp only
  split
  · exact written
  · split
    · exact written
    · split
      · exact written.release _
      · split
        · exact written.release _
        · rename_i outcome ingested
          split
          · exact written.release _
          · split
            · exact (written.withFacts ingested).setValue _ _ earlier
            · exact written.setValue _ _ earlier

theorem extractFacts (written : WrittenBy state now) {casing : Casing}
    (extraction : Extraction) : WrittenBy (state.extractFacts casing extraction) now := by
  unfold ProjectMemory.extractFacts
  split
  · exact written
  · rename_i outcome ingested
    split
    · exact written.withFacts ingested
    · exact written

theorem perform (written : WrittenBy state now) {service : IdempotencyService} {casing : Casing}
    {ingest : Ingest} (earlier : ingest.now ≤ now) :
    WrittenBy (state.perform service casing ingest) now := by
  cases ingest with
  | messages request => exact written.ingest earlier
  | facts request => exact written.ingestFacts earlier
  | extraction extraction => exact written.extractFacts extraction

/-- Requests up to an instant write nothing later than it. -/
theorem run (written : WrittenBy state now) (service : IdempotencyService) (casing : Casing)
    {ingests : List Ingest} (earlier : ∀ ingest ∈ ingests, ingest.now ≤ now) :
    WrittenBy (ingests.foldl (ProjectMemory.perform service casing) state) now := by
  induction ingests generalizing state with
  | nil => exact written
  | cons ingest rest ih =>
      rw [List.forall_mem_cons] at earlier
      exact ih (written.perform earlier.1) earlier.2

end WrittenBy

section Wipe

variable {projectId organizationId : Uuid} {now : Time} {before : ProjectMemory}

theorem mem_factIds {fact : Fact} (member : fact ∈ before.facts.facts) :
    fact.id ∈ factIds before projectId organizationId ↔
      fact.InScope organizationId projectId := by
  unfold factIds
  rw [List.mem_map]
  constructor
  · rintro ⟨other, otherMember, sameId⟩
    rw [List.mem_filter] at otherMember
    have same := before.facts.eq_of_id otherMember.1 member sameId
    subst other
    exact of_decide_eq_true otherMember.2
  · intro inScope
    exact ⟨fact, List.mem_filter.mpr ⟨member, decide_eq_true inScope⟩, rfl⟩

/-- The wipe leaves every fact of the project dead and the others alone. -/
theorem softDeleteFacts_without
    (past : ∀ fact ∈ before.facts.facts, ∀ instant ∈ fact.invalidAt, instant ≤ now) :
    Without (factIds before projectId organizationId) now
      (softDeleteFacts before.facts projectId organizationId now)
      (before.withoutHistory projectId organizationId).facts where
  facts := by
    show before.facts.facts.filter (fun fact => decide (¬ fact.InScope organizationId projectId)) =
      (before.facts.facts.map (invalidated projectId organizationId now)).filter
        fun fact => decide (fact.id ∉ factIds before projectId organizationId)
    rw [List.filter_map]
    have selected : before.facts.facts.filter
        ((fun fact => decide (fact.id ∉ factIds before projectId organizationId)) ∘
          invalidated projectId organizationId now) =
        before.facts.facts.filter
          fun fact => decide (¬ fact.InScope organizationId projectId) := by
      apply List.filter_congr
      intro fact member
      simp only [Function.comp_apply, invalidated_id]
      rw [decide_eq_decide, not_iff_not]
      exact mem_factIds member
    rw [selected]
    symm
    calc (before.facts.facts.filter fun fact =>
          decide (¬ fact.InScope organizationId projectId)).map
            (invalidated projectId organizationId now)
        = (before.facts.facts.filter fun fact =>
          decide (¬ fact.InScope organizationId projectId)).map id := by
          apply List.map_congr_left
          intro fact member
          have outside := of_decide_eq_true (List.mem_filter.mp member).2
          exact if_neg fun hit => outside hit.1
      _ = _ := List.map_id _
  nextId := rfl
  used := by
    intro id isGone
    obtain ⟨fact, member, rfl⟩ := List.mem_map.mp isGone
    exact before.facts.fresh fact (List.mem_filter.mp member).1
  dead := by
    intro fact member isGone
    obtain ⟨original, originalMember, rfl⟩ := List.mem_map.mp member
    rw [invalidated_id, mem_factIds originalMember] at isGone
    cases valid : original.invalidAt with
    | none =>
        refine ⟨now, ?_, le_refl _⟩
        simp [invalidated, isGone, valid]
    | some instant =>
        refine ⟨instant, ?_, past original originalMember instant (by rw [valid]; rfl)⟩
        simp [invalidated, valid]

theorem softDeleteEpisodes_live (episodes : List Episode) :
    (episodes.filter fun episode =>
        decide (¬ (episode.projectId = projectId ∧ episode.organizationId = organizationId))).filter
        (fun episode => !episode.isDeleted) =
      (softDeleteEpisodes episodes projectId organizationId).filter
        fun episode => !episode.isDeleted := by
  unfold softDeleteEpisodes
  induction episodes with
  | nil => rfl
  | cons episode rest ih =>
      rw [List.map_cons]
      by_cases ours : episode.projectId = projectId ∧ episode.organizationId = organizationId
      · rw [List.filter_cons_of_neg (by simp [ours]), List.filter_cons_of_neg, ih]
        cases deleted : episode.isDeleted with
        | false => simp [ours]
        | true => simp [deleted]
      · rw [List.filter_cons_of_pos (by simp only [ours]; decide), if_neg]
        · by_cases deleted : episode.isDeleted
          · rw [List.filter_cons_of_neg (by simp [deleted]),
              List.filter_cons_of_neg (by simp [deleted]), ih]
          · rw [List.filter_cons_of_pos (by simp [deleted]),
              List.filter_cons_of_pos (by simp [deleted]), ih]
        · rintro ⟨sameProject, sameOrganization, _⟩
          exact ours ⟨sameProject, sameOrganization⟩

theorem wipe_alike {confirm : Text} {projectFound : Bool} {wiped : ProjectMemory}
    (past : WrittenBy before now)
    (wipe : deleteProjectMemory projectId organizationId confirm projectFound now before =
      .ok wiped) :
    Alike (factIds before projectId organizationId) now wiped
      (before.withoutHistory projectId organizationId) := by
  obtain ⟨factsPast, redisPast, dedupPast⟩ := past
  unfold deleteProjectMemory at wipe
  split at wipe
  · cases wipe
  · split at wipe
    · cases wipe
    · cases wipe
      refine ⟨softDeleteFacts_without factsPast, softDeleteEpisodes_live _, ?_, ?_⟩
      · intro key
        cases held : before.redis key with
        | none => rfl
        | some stored =>
            have old := not_lt.mpr (redisPast key stored (by rw [held]; rfl))
            simp [ProjectMemory.withoutHistory, Option.filter, old]
      · symm
        apply List.filter_eq_nil_iff.mpr
        intro row member
        simpa using dedupPast row member

end Wipe

/-- After the wipe of a project, requests that meet nothing from before it leave
the active facts and the live episodes they leave in a project without
history. -/
theorem wiped_project_as_fresh (service : IdempotencyService) (casing : Casing)
    {projectId organizationId : Uuid} {confirm : Text} {projectFound : Bool} {now : Time}
    {before wiped state : ProjectMemory} {ingests : List Ingest}
    (past : WrittenBy before now)
    (wipe : deleteProjectMemory projectId organizationId confirm projectFound now before =
      .ok wiped)
    (run : GuardedRun (ProjectMemory.perform service casing)
      (MeetsNoRemains service casing (factIds before projectId organizationId) now)
      wiped ingests state) :
    (∀ instant, now ≤ instant →
        state.activeFacts projectId organizationId instant =
          (ingests.foldl (ProjectMemory.perform service casing)
            (before.withoutHistory projectId organizationId)).activeFacts
              projectId organizationId instant) ∧
      state.liveEpisodes projectId organizationId =
        (ingests.foldl (ProjectMemory.perform service casing)
          (before.withoutHistory projectId organizationId)).liveEpisodes
            projectId organizationId := by
  have alike := (wipe_alike past wipe).run run
  refine ⟨?_, alike.liveEpisodes_eq projectId organizationId⟩
  intro instant later
  exact alike.activeFacts_eq projectId organizationId later

def ProjectMemory.empty : ProjectMemory :=
  ⟨FactStore.empty, [], fun _ => none, []⟩

/-- A request that states what Acme uses. -/
def acmeUsesIngest (object : String) (now : Time) : FactIngest :=
  { sessionExternalId := "s".toList
    sessionFound := true
    dumped := [[("content".toList, .string object.toList)]]
    call :=
      { orgId := 1
        projectId := 1
        userId := 1
        facts := [.ofTriple "Acme" "uses" object object]
        sourceEpisodeId := none
        insertMode := .batchCreate
        now := now }
    collaborators := ⟨false, false, false⟩
    jobId := 7
    succeeds := true
    commits := true }

def helloIngest (now : Time) : MessageIngest :=
  { idempotencyKey := none
    sessionFound := true
    dumped :=
      [[("role".toList, .string "user".toList), ("content".toList, .string "hello".toList)]]
    batch :=
      { organizationId := 1
        projectId := 1
        sessionId := 1
        userId := 1
        messages := [⟨"user".toList, "hello".toList, [], none⟩]
        ids := fun index => index
        now := now }
    jobId := 8
    succeeds := true }

def performAll (state : ProjectMemory) (ingests : List Ingest) : ProjectMemory :=
  ingests.foldl (ProjectMemory.perform transparentService Casing.ascii) state

/-- Acme used Go and somebody said hello. -/
def acmeHistory : ProjectMemory :=
  performAll .empty [.facts (acmeUsesIngest "Go" 10), .messages (helloIngest 10)]

def acmeWiped : ProjectMemory :=
  { acmeHistory with
    episodes := softDeleteEpisodes acmeHistory.episodes 1 1
    facts := softDeleteFacts acmeHistory.facts 1 1 20 }

def threeDays : Time := 3 * 24 * 60 * 60 * 1000000

theorem acmeHistory_writtenBy : WrittenBy acmeHistory 20 := by
  apply WrittenBy.run
  · refine ⟨?_, ?_, ?_⟩ <;> intro _ <;> simp [ProjectMemory.empty, FactStore.empty]
  · decide

instance (state : ProjectMemory) (since : Time) (key : Text) (now : Time) :
    Decidable (Forgotten state since key now) :=
  inferInstanceAs (Decidable (∀ stored ∈ state.redis key, _))

instance (casing : Casing) (gone : List Uuid) (store : FactStore) (call : IngestCall) :
    Decidable (NoneTombstoned casing gone store call) :=
  inferInstanceAs (Decidable (∀ entry ∈ call.entries casing, ∀ fact ∈ _, _ → _))

/-- Acme uses Rust and says hello again. -/
def acmeLater : List Ingest :=
  [.facts (acmeUsesIngest "Rust" threeDays), .messages (helloIngest threeDays)]

theorem acmeLater_allowed :
    AllowedAlong (ProjectMemory.perform transparentService Casing.ascii)
      (MeetsNoRemains transparentService Casing.ascii (factIds acmeHistory 1 1) 20)
      acmeWiped acmeLater := by
  refine ⟨⟨by decide, ?_, ?_⟩, ⟨by decide, ?_, ?_, ?_⟩, trivial⟩
  · decide +kernel
  · decide +kernel
  · intro key bodyHash given
    cases given
  · decide +kernel
  · decide +kernel

theorem wiped_project_as_fresh_acme :
    ((performAll acmeWiped acmeLater).activeFacts 1 1 threeDays).map Fact.object =
        [some "Rust".toList] ∧
      (performAll acmeWiped acmeLater).liveEpisodes 1 1 =
        (performAll (acmeHistory.withoutHistory 1 1) acmeLater).liveEpisodes 1 1 := by
  have same := wiped_project_as_fresh transparentService Casing.ascii acmeHistory_writtenBy
    (show deleteProjectMemory 1 1 (Text.ofUuid 1) true 20 acmeHistory = .ok acmeWiped from rfl)
    (GuardedRun.of_allowedAlong acmeLater_allowed)
  refine ⟨?_, same.2⟩
  have active := same.1 threeDays (by decide)
  show (((acmeLater.foldl (ProjectMemory.perform transparentService Casing.ascii)
    acmeWiped).activeFacts 1 1 threeDays).map Fact.object) = _
  rw [active]
  decide +kernel

/-- What was wiped stays retracted, and what was said stays claimed. -/
theorem wiped_project_remembers :
    deleteProjectMemory 1 1 (Text.ofUuid 1) true 20 acmeHistory = .ok acmeWiped ∧
      (performAll acmeWiped [.facts (acmeUsesIngest "Go" threeDays)]).activeFacts 1 1 threeDays =
        [] ∧
      ((performAll (acmeHistory.withoutHistory 1 1)
        [.facts (acmeUsesIngest "Go" threeDays)]).activeFacts 1 1 threeDays).map Fact.object =
          [some "Go".toList] ∧
      (performAll acmeWiped [.messages (helloIngest 30)]).liveEpisodes 1 1 = [] ∧
      ((performAll (acmeHistory.withoutHistory 1 1)
        [.messages (helloIngest 30)]).liveEpisodes 1 1).map Episode.content =
          ["hello".toList] := by
  refine ⟨rfl, ?_, ?_, ?_, ?_⟩ <;> decide +kernel

end OpenZync.Memory
