import OpenZync.Workers.LinkEntities

/-!
# What the entity link bit says

With a backend the bit is committed only when every search and every link has
succeeded.  Without one it is committed at once, which is right where the config
in OpenBao turns the graph off, but not where that config could not be read and
the fallback takes an empty row for a graph that is turned off.
-/

namespace OpenZync.Workers.LinkEntities

open OpenZync.Config OpenZync.Library

section Loops

variable {world : LinkWorld}

theorem listNames_ok {pages : List EntityPage} {names : List (Option Text)}
    (listed : listNames pages = .ok names) : names = pages.flatMap EntityPage.names := by
  induction pages generalizing names with
  | nil =>
      cases listed
      rfl
  | cons page pages induction =>
      unfold listNames at listed
      split at listed
      · cases listed
      · cases rest : listNames pages with
        | error failure =>
            rw [rest] at listed
            cases listed
        | ok names =>
            rw [rest] at listed
            cases listed
            rw [List.flatMap_cons, induction rest]

theorem collectSearches_ok {firstError : FirstError} {matched matched' : List Uuid}
    {words : List Text}
    (searched : collectSearches world firstError matched words = .ok (none, matched')) :
    firstError = none ∧ matched ⊆ matched' ∧ ∀ word ∈ words, world.found word ⊆ matched' := by
  induction words generalizing firstError matched with
  | nil =>
      cases searched
      exact ⟨rfl, List.Subset.refl _, List.forall_mem_nil _⟩
  | cons word words induction =>
      unfold collectSearches at searched
      split at searched
      · obtain ⟨clean, grown, found⟩ := induction searched
        refine ⟨clean, fun id member => grown (List.mem_append_left _ member), ?_⟩
        exact List.forall_mem_cons.mpr
          ⟨fun id member => grown (List.mem_append_right _ member), found⟩
      · obtain ⟨clean, _⟩ := induction searched
        cases firstError <;> cases clean
      · cases searched

theorem linkEntityToEpisode_meets (outcome : LinkOutcome) (id : Uuid) (done : List Uuid)
    (Clean Searched : Prop) :
    Attempt.Meets
      (fun state => state.stamped = false ∧ (Clean → Searched ∧ done ⊆ state.linked))
      (linkEntityToEpisode outcome id)
      (fun _ state => state.stamped = false ∧ (Clean → Searched ∧ done ++ [id] ⊆ state.linked))
      (fun _ state => state.stamped = false) := by
  cases outcome with
  | linked =>
      apply Attempt.meets_change
      rintro state ⟨unstamped, kept⟩
      refine ⟨unstamped, ?_⟩
      intro clean
      refine ⟨(kept clean).1, ?_⟩
      intro other member
      rcases List.mem_append.mp member with old | new
      · exact List.mem_cons_of_mem _ ((kept clean).2 old)
      · rw [List.mem_singleton.mp new]
        exact List.mem_cons_self
  | refused failure => exact fun state start => start.1
  | lost failure => exact fun state start => start.1

theorem linkEntity_meets (firstError : FirstError) (target : Uuid × Nat) (done : List Uuid)
    (Searched : Prop) :
    Attempt.Meets
      (fun state => state.stamped = false ∧ (firstError = none → Searched ∧ done ⊆ state.linked))
      (linkEntity world firstError target)
      (fun after state => state.stamped = false ∧
        (after = none → Searched ∧ done ++ [target.1] ⊆ state.linked))
      (fun _ state => state.stamped = false) := by
  apply Attempt.Meets.handle
  · apply (linkEntityToEpisode_meets _ _ done (firstError = none) Searched).bind
    intro _
    exact Attempt.meets_pure _ fun _ start => start
  · intro failure
    apply Attempt.meets_ite
    · intro _
      apply Attempt.meets_pure
      intro state unstamped
      refine ⟨unstamped, ?_⟩
      intro clean
      cases firstError <;> cases clean
    · intro _
      exact Attempt.meets_fail _ fun _ unstamped => unstamped

theorem linkLoop_meets (firstError : FirstError) (matched : List Uuid) :
    Attempt.Meets (fun state => state.stamped = false)
      (Attempt.fold (linkEntity world) firstError matched.zipIdx)
      (fun after state => state.stamped = false ∧
        (after = none → firstError = none ∧ matched ⊆ state.linked))
      (fun _ state => state.stamped = false) := by
  have loop := @Attempt.Meets.fold _ _ _ _ (linkEntity world) matched.zipIdx
    (fun done after state => state.stamped = false ∧
      (after = none → firstError = none ∧ done.map Prod.fst ⊆ state.linked))
    (fun _ state => state.stamped = false) ?_ firstError
  · apply loop.weaken
    · intro state unstamped
      exact ⟨unstamped, fun clean => ⟨clean, List.nil_subset _⟩⟩
    · intro after state ended
      rwa [List.zipIdx_map_fst] at ended
    · intro failure state unstamped
      exact unstamped
  · intro done target rest _ current
    have turn := @linkEntity_meets world current target (done.map Prod.fst) (firstError = none)
    rw [List.map_append, List.map_singleton]
    exact turn

end Loops

section Attempts

variable {casing : Casing} {content : Option Text} {world : LinkWorld}

/-- Every entity that the searches for the words find is linked. -/
def AllLinked (casing : Casing) (linkText : Text) (world : LinkWorld) (linked : List Uuid) : Prop :=
  ∀ word ∈ matchedWords casing linkText world.names, world.found word ⊆ linked

/-- With a backend the branch ends without an error only when all is linked. -/
theorem linkMatches_meets (linkText : Text) :
    Attempt.Meets (fun state => state.stamped = false) (linkMatches casing linkText world)
      (fun _ state => state.stamped = false ∧ AllLinked casing linkText world state.linked)
      (fun _ state => state.stamped = false) := by
  unfold linkMatches
  apply Attempt.meets_ofExcept
  · intro names listed
    rw [listNames_ok listed]
    apply Attempt.meets_ofExcept
    · rintro ⟨firstError, matched⟩ searched
      apply (linkLoop_meets firstError matched).bind
      intro after
      cases after with
      | some failure => exact Attempt.meets_fail _ fun _ ended => ended.1
      | none =>
          apply Attempt.meets_pure
          rintro state ⟨unstamped, linked⟩
          obtain ⟨rfl, all⟩ := linked rfl
          refine ⟨unstamped, ?_⟩
          intro word member id found
          exact all ((collectSearches_ok searched).2.2 word member found)
    · intro failure _ state unstamped
      exact unstamped
  · intro failure _ state unstamped
    exact unstamped

/-- The text whose words are searched. -/
def linkText (content : Option Text) (world : LinkWorld) : Text :=
  content.getD (world.episode.toOption.getD [])

/-- OpenBao holds a config that sets `graph_backend` to `none`. -/
def GraphTurnedOff (world : LinkWorld) : Prop :=
  ∃ config, world.authoritative = some config ∧ config.graphBackend = .text "none".toList

/-- The attempt commits the bit only where the graph is turned off or all is linked. -/
def Truthful (casing : Casing) (content : Option Text) (world : LinkWorld)
    (before : LinkState) : Prop :=
  let after := (linkAttempt casing content world before).1
  after.stamped = true →
    GraphTurnedOff world ∨ AllLinked casing (linkText content world) world after.linked

/-- The cached config has no graph. -/
def CachedWithout (world : LinkWorld) : Prop :=
  ∃ config, world.redis = some (.valid config) ∧ disables config.graphBackend = true

/-- OpenBao cannot be read, or what it holds does not validate. -/
def OpenbaoUnusable (world : LinkWorld) : Prop :=
  world.openbaoFailure ≠ none ∨ ∃ config, world.authoritative = some config ∧
    (config.othersValid = false ∨ config.graphBackend = .other true)

/-- The row of the organisation holds nothing, or a config without a graph. -/
def RowWithout (world : LinkWorld) : Prop :=
  world.database = .ok none ∨ ∃ config, world.database = .ok (some config) ∧
    config.othersValid = true ∧ (config.graphBackend = .null ∨
      ∃ name, config.graphBackend = .text name ∧ disables (some name) = true)

/-- The graph is taken to be turned off by the cache or by the fallback. -/
def TakenAsOff (world : LinkWorld) : Prop :=
  CachedWithout world ∨
    (∀ config, world.redis ≠ some (.valid config)) ∧ OpenbaoUnusable world ∧ RowWithout world

/-- The attempt gets as far as the commit whenever the graph is taken to be off. -/
def Unhindered (world : LinkWorld) (before : LinkState) : Prop :=
  world.episode.isOk = true ∧ world.dispatcher ≠ none ∧ world.commit ≠ .refused ∧
    before.row.isDeleted = false

/-- What `get_org_config` makes of a stored config. -/
def withDefault (raw : StoredConfig) : StoredConfig :=
  if raw.graphBackend.truthy then raw else { raw with graphBackend := .text falkordb }

theorem withDefault_off {raw : StoredConfig} {config : OrgConfigBase}
    (read : orgConfigBase (withDefault raw) = some config)
    (off : disables config.graphBackend = true) : raw.graphBackend = .text "none".toList := by
  have falkordbOn : disables (some falkordb) = false := by decide
  obtain ⟨given, valid⟩ := raw
  cases valid with
  | false =>
      rw [orgConfigBase, withDefault] at read
      split at read <;> cases read
  | true =>
      have defaulted (raw : StoredConfig)
          (read : some { graphBackend := some falkordb } = some config) :
          raw.graphBackend = .text "none".toList := by
        cases read
        rw [falkordbOn] at off
        cases off
      cases given with
      | absent => exact defaulted _ read
      | null => exact defaulted _ read
      | other truthy =>
          cases truthy with
          | false => exact defaulted _ read
          | true => cases read
      | text name =>
          cases name with
          | nil => exact defaulted _ read
          | cons c rest =>
              cases read
              simpa [disables] using off

theorem withDefault_unusable {raw : StoredConfig} :
    orgConfigBase (withDefault raw) = none ↔
      raw.othersValid = false ∨ raw.graphBackend = .other true := by
  obtain ⟨given, valid⟩ := raw
  cases valid with
  | false =>
      rw [orgConfigBase, withDefault]
      split <;> simp
  | true =>
      cases given with
      | absent => simp [withDefault, orgConfigBase, GraphBackendValue.truthy]
      | null => simp [withDefault, orgConfigBase, GraphBackendValue.truthy]
      | text name => cases name <;> simp [withDefault, orgConfigBase, GraphBackendValue.truthy]
      | other truthy => cases truthy <;> simp [withDefault, orgConfigBase, GraphBackendValue.truthy]

theorem fetchOrgConfig_stored (raw : StoredConfig) :
    fetchOrgConfig (.ok (some raw)) =
      match orgConfigBase (withDefault raw) with
      | none => .error .validation
      | some config => .ok config :=
  rfl

theorem turnedOff_of_fetch {config : OrgConfigBase}
    (fetched : fetchOrgConfig world.openbao = .ok config)
    (off : disables config.graphBackend = true) : GraphTurnedOff world := by
  rw [LinkWorld.openbao] at fetched
  split at fetched
  · cases fetched
  · cases stored : world.authoritative with
    | none =>
        rw [stored] at fetched
        cases fetched
        cases off
    | some raw =>
        rw [stored, fetchOrgConfig_stored] at fetched
        split at fetched
        · cases fetched
        · rename_i config' read
          cases fetched
          exact ⟨raw, stored, withDefault_off read off⟩

theorem openbaoUnusable_iff :
    (∃ failure, fetchOrgConfig world.openbao = .error failure) ↔ OpenbaoUnusable world := by
  rw [OpenbaoUnusable, LinkWorld.openbao]
  cases world.openbaoFailure with
  | some failure => simp [fetchOrgConfig]
  | none =>
      cases world.authoritative with
      | none => simp [fetchOrgConfig]
      | some raw =>
          have unusable := @withDefault_unusable raw
          rw [fetchOrgConfig_stored]
          cases read : orgConfigBase (withDefault raw) with
          | none => simpa [read] using unusable.mp read
          | some config =>
              rw [read] at unusable
              simpa using unusable

theorem rowWithout_iff :
    RowWithout world ↔ world.database = .ok none ∨ ∃ raw, world.database = .ok (some raw) ∧
      ∃ config, orgConfigBase raw = some config ∧ disables config.graphBackend = true := by
  have falkordbOn : disables (some falkordb) = false := by decide
  have nullOff : disables none = true := rfl
  apply or_congr Iff.rfl
  apply exists_congr
  rintro ⟨given, valid⟩
  apply and_congr Iff.rfl
  cases valid <;> cases given <;> simp [orgConfigBase, falkordbOn, nullOff]

theorem getOrgConfig_uncached (uncached : ∀ config, world.redis ≠ some (.valid config)) :
    getOrgConfig world.redis world.openbao = fetchOrgConfig world.openbao := by
  rw [getOrgConfig]
  exact uncached

theorem resolveOrgConfig_off :
    (∃ config, resolveOrgConfig world.redis world.openbao world.database = .ok config ∧
      disables config.graphBackend = true) ↔
    TakenAsOff world ∨ (∀ config, world.redis ≠ some (.valid config)) ∧
      ∃ config, fetchOrgConfig world.openbao = .ok config ∧
        disables config.graphBackend = true := by
  rw [TakenAsOff, ← openbaoUnusable_iff, rowWithout_iff, CachedWithout]
  unfold resolveOrgConfig
  by_cases uncached : ∀ config, world.redis ≠ some (.valid config)
  · have noneCached : ¬∃ config, world.redis = some (.valid config) ∧
        disables config.graphBackend = true :=
      fun ⟨config, cached, _⟩ => uncached config cached
    rw [getOrgConfig_uncached uncached]
    simp only [eq_false noneCached, eq_true uncached, true_and, false_or]
    cases fetchOrgConfig world.openbao with
    | ok config => simp
    | error failure =>
        cases world.database with
        | error failure => simp
        | ok row =>
            cases row with
            | none => simp [disables]
            | some raw => cases read : orgConfigBase raw <;> simp [read]
  · obtain ⟨config, cached⟩ := not_forall_not.mp uncached
    simp [cached, getOrgConfig]

theorem resolveBackend_none_iff :
    resolveBackend world = .ok none ↔ world.dispatcher ≠ none ∧
      ∃ config, resolveOrgConfig world.redis world.openbao world.database = .ok config ∧
        disables config.graphBackend = true := by
  rw [resolveBackend]
  unfold resolveGraphBackend
  cases world.dispatcher with
  | none => simp
  | some clients =>
      cases resolveOrgConfig world.redis world.openbao world.database with
      | error failure => simp
      | ok config =>
          cases off : disables config.graphBackend with
          | true => simp [off]
          | false =>
              cases made : createBackend clients (config.graphBackend.getD []) with
              | ok backend => simp [off, made, Except.map]
              | error failure => cases failure; simp [off, made, Except.map]

theorem linkAttempt_without {before : LinkState} (found : world.episode.isOk = true)
    (off : resolveBackend world = .ok none) (carried : world.commit ≠ .refused) :
    (linkAttempt casing content world before).1 =
      LinkState.stamp { before with stamped := false } := by
  unfold linkAttempt linkEntitiesToEpisode
  cases episode : world.episode with
  | error failure =>
      rw [episode] at found
      cases found
  | ok text =>
      rw [off]
      cases fate : world.commit with
      | refused => exact absurd fate carried
      | answered => rfl
      | lost => rfl

/-- Without a backend the bit is committed by an attempt that nothing hinders. -/
theorem unhindered_of_stamped {before : LinkState} (off : resolveBackend world = .ok none)
    (stamped : (linkAttempt casing content world before).1.stamped = true) :
    Unhindered world before := by
  unfold linkAttempt linkEntitiesToEpisode at stamped
  cases episode : world.episode with
  | error failure =>
      rw [episode] at stamped
      cases stamped
  | ok text =>
      rw [episode, off] at stamped
      have undeleted : world.commit ≠ .refused ∧ before.row.isDeleted = false := by
        cases fate : world.commit with
        | refused =>
            rw [fate] at stamped
            cases stamped
        | answered =>
            rw [fate] at stamped
            have kept : (!before.row.isDeleted) = true := stamped
            exact ⟨nofun, by simpa using kept⟩
        | lost =>
            rw [fate] at stamped
            have kept : (!before.row.isDeleted) = true := stamped
            exact ⟨nofun, by simpa using kept⟩
      exact ⟨by rw [episode]; rfl, (resolveBackend_none_iff.mp off).1, undeleted⟩

theorem linkEntitiesToEpisode_meets (on : resolveBackend world ≠ .ok none) :
    Attempt.Meets (fun state => state.stamped = false)
      (linkEntitiesToEpisode casing content world)
      (fun _ state => state.stamped = true →
        AllLinked casing (linkText content world) world state.linked)
      (fun _ state => state.stamped = true →
        AllLinked casing (linkText content world) world state.linked) := by
  have stopped : ∀ state : LinkState, state.stamped = false → state.stamped = true →
      AllLinked casing (linkText content world) world state.linked := by
    intro state unstamped stamped
    rw [unstamped] at stamped
    cases stamped
  unfold linkEntitiesToEpisode
  apply Attempt.meets_ofExcept
  · intro text found
    have searched : linkText content world = content.getD text := by
      rw [linkText, found]
      rfl
    apply Attempt.meets_ofExcept
    · intro backend resolved
      cases backend with
      | none => exact absurd resolved on
      | some backend =>
          rw [searched] at stopped ⊢
          have linked := (@linkMatches_meets casing world (content.getD text)).weaken
            (fun _ start => start) (fun _ _ ended => ended) (fun _ => stopped)
          apply linked.bind
          intro _
          apply Attempt.meets_remote_bind
            (fun state => AllLinked casing (content.getD text) world state.linked)
          · exact fun _ state ended => ended.2
          · exact fun _ state ended _ => ended.2
          · exact fun _ state ended _ => ended.2
          · intro state ended
            cases world.enqueue <;> exact fun _ => ended
    · intro _ _
      exact stopped
  · intro _ _
    exact stopped

theorem truthful_iff (before : LinkState) :
    Truthful casing content world before ↔
      (Unhindered world before → TakenAsOff world →
        GraphTurnedOff world ∨
          AllLinked casing (linkText content world) world before.linked) := by
  constructor
  · rintro truthful ⟨found, dispatched, carried, undeleted⟩ taken
    have off : resolveBackend world = .ok none :=
      resolveBackend_none_iff.mpr ⟨dispatched, resolveOrgConfig_off.mpr (.inl taken)⟩
    have after := @linkAttempt_without casing content world before found off carried
    rw [Truthful, after] at truthful
    exact truthful (by simp [LinkState.stamp, undeleted])
  · intro right stamped
    by_cases off : resolveBackend world = .ok none
    · obtain ⟨_, resolved⟩ := resolveBackend_none_iff.mp off
      obtain ⟨found, _, carried, _⟩ := unhindered_of_stamped off stamped
      rcases resolveOrgConfig_off.mp resolved with taken | ⟨_, config, fetched, without⟩
      · rw [linkAttempt_without found off carried]
        exact right (unhindered_of_stamped off stamped) taken
      · exact .inl (turnedOff_of_fetch fetched without)
    · have outcome := @linkEntitiesToEpisode_meets casing content world off
        { before with stamped := false } rfl
      right
      unfold linkAttempt at stamped ⊢
      split at outcome
      · rename_i after value ran
        rw [ran] at stamped ⊢
        exact outcome stamped
      · rename_i after failure ran
        rw [ran] at stamped ⊢
        exact outcome stamped

/-- The bit is truthful in every attempt of a call exactly where no attempt that
nothing hinders takes the graph to be turned off and leaves an entity unlinked. -/
theorem linkBit_truthful_iff (casing : Casing) (content : Option Text) (worlds : List LinkWorld)
    (start : LinkState) :
    (∀ begun ∈ begunAttempts casing content (worlds.take maxRetries) start,
      Truthful casing content begun.1 begun.2) ↔
    ∀ begun ∈ begunAttempts casing content (worlds.take maxRetries) start,
      Unhindered begun.1 begun.2 → TakenAsOff begun.1 →
        GraphTurnedOff begun.1 ∨
          AllLinked casing (linkText content begun.1) begun.1 begun.2.linked :=
  forall₂_congr fun begun _ => truthful_iff begun.2

/-- OpenBao holds nothing for the organisation, which therefore has FalkorDB, and
cannot be read; its row is empty. -/
def unreadableOpenbao : LinkWorld :=
  { episode := .ok "Met Alice today".toList
    dispatcher := some
      { surrealPool := none
        falkordbClient := true
        create := fun _ => .ok (some ()) }
    redis := none
    authoritative := none
    openbaoFailure := some .openbaoConnection
    database := .ok none
    pages := [{ names := [some "Alice".toList], failure := none }]
    found := fun word => if word = "Alice".toList then [7] else []
    searchFailure := fun _ => none
    link := fun _ => .linked
    commit := .answered
    enqueue := .ok () }

/-- The bit is committed, and Alice is not linked. -/
theorem linkBit_unreadableOpenbao :
    ¬∀ begun ∈ begunAttempts .ascii none [unreadableOpenbao]
        { linked := [], row := { enrichmentStatus := 0#32, isDeleted := false }, stamped := false },
      Truthful .ascii none begun.1 begun.2 := by
  intro truthful
  have words : matchedWords .ascii "Met Alice today".toList unreadableOpenbao.names =
      ["Alice".toList] := by decide
  rcases truthful _ List.mem_cons_self rfl with ⟨config, stored, _⟩ | linked
  · cases stored
  · have missing := linked "Alice".toList (by
      change "Alice".toList ∈ matchedWords .ascii "Met Alice today".toList unreadableOpenbao.names
      rw [words]
      exact List.mem_cons_self)
    exact absurd (missing (a := 7) (by decide)) (by decide)

end Attempts

end OpenZync.Workers.LinkEntities
