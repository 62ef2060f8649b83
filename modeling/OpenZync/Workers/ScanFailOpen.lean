import OpenZync.Workers.ObservationScan

/-!
# A scan past a failed step

The handler of the co-occurrence step reports the failure, and every step
reports its count, through log calls that raise where their level is enabled.
The scan goes past a failed step only where it reports nothing.
-/

namespace OpenZync.Workers

open Library

/-- The co-occurrence step comes to the point at which it fails. -/
def CoOccurrencesRaise (world : ScanWorld) : Prop :=
  match world.fails with
  | none => False
  | some .episodeCount => True
  | some .pairs => world.totalEpisodes ≠ 0
  | some .evidence => world.totalEpisodes ≠ 0 ∧ world.pairRows.isEmpty = false
  | some (.upsert index) => world.totalEpisodes ≠ 0 ∧ index < 2 * world.pairRows.length

instance (world : ScanWorld) : Decidable (CoOccurrencesRaise world) := by
  unfold CoOccurrencesRaise
  split <;> infer_instance

/-- The scan returns; the temporal and behavioural patterns are upserted after
some co-occurrences, and each count is that of its upserts, or zero for a step
that failed. -/
def ScanCompletes (world : ScanWorld) (before : List ObservationUpsert) : Prop :=
  ∃ pairs count,
    runFullProjectScan world before =
      (before ++ pairs ++ world.temporalPatterns.map (temporalObservation world) ++
          world.behavioralPatterns.map (behavioralObservation world),
        .ok
          [(coOccurrence, count), (temporalPattern, world.temporalPatterns.length),
            (behavioralPattern, world.behavioralPatterns.length)]) ∧
      (CoOccurrencesRaise world → count = 0) ∧
        (¬ CoOccurrencesRaise world →
          count = pairs.length ∧
            pairs.length = if world.totalEpisodes = 0 then 0 else 2 * world.pairRows.length)

section Runs

variable {world : ScanWorld}

theorem logCall_of_disabled {level : Nat} (disabled : level < world.effectiveLevel)
    (keywords : List Text) (state : List ObservationUpsert) :
    logCall world level keywords state = (state, .ok ()) := by
  rw [logCall, if_neg (not_le.mpr disabled)]
  rfl

theorem logCall_of_enabled {level : Nat} (enabled : world.effectiveLevel ≤ level)
    (others : List Text) (state : List ObservationUpsert) :
    logCall world level ("project_id".toList :: others) state =
      (state, .error (.unexpectedKeyword "project_id".toList)) := by
  rw [logCall, if_pos enabled, List.find?_cons_of_pos (by decide)]
  rfl

theorem reach_of_ne {point : CoOccurrencePoint} (passes : world.fails ≠ some point)
    (state : List ObservationUpsert) : reach world point state = (state, .ok ()) := by
  rw [reach, if_neg passes]
  rfl

theorem reach_of_eq {point : CoOccurrencePoint} (fails : world.fails = some point)
    (state : List ObservationUpsert) :
    reach world point state = (state, .error .externalService) := by
  rw [reach, if_pos fails]
  rfl

theorem persistPatterns_run {α : Type} (observe : α → ObservationUpsert) (patterns : List α)
    (state : List ObservationUpsert) :
    persistPatterns observe patterns state =
      (state ++ patterns.map observe, .ok patterns.length) := by
  have general : ∀ (persisted : Nat) (state : List ObservationUpsert),
      Attempt.fold
          (fun persisted pattern => do
            upsertObservation (observe pattern)
            pure (persisted + 1))
          persisted patterns state =
        (state ++ patterns.map observe, .ok (persisted + patterns.length)) := by
    induction patterns with
    | nil =>
        intro persisted state
        simp only [Attempt.fold, List.map_nil, List.append_nil, List.length_nil, Nat.add_zero]
        rfl
    | cons pattern patterns induction =>
        intro persisted state
        have next := induction (persisted + 1) (state ++ [observe pattern])
        refine Eq.trans ?_ (next.trans ?_)
        · rfl
        · simp [Nat.add_comm, Nat.add_left_comm]
  rw [persistPatterns, general, Nat.zero_add]

/-- The body of the loop over the pairs. -/
def persistPair (world : ScanWorld) (persisted : Nat) (pair : CoOccurrencePattern) :
    Scan Nat := do
  reach world (.upsert persisted)
  upsertObservation (coOccurrenceObservation world pair)
  reach world (.upsert (persisted + 1))
  upsertObservation (coOccurrenceObservation world pair.swapped)
  pure (persisted + 2)

theorem persistPair_of_ne {persisted : Nat} (first : world.fails ≠ some (.upsert persisted))
    (second : world.fails ≠ some (.upsert (persisted + 1))) (pair : CoOccurrencePattern)
    (state : List ObservationUpsert) :
    persistPair world persisted pair state =
      (state ++ [coOccurrenceObservation world pair, coOccurrenceObservation world pair.swapped],
        .ok (persisted + 2)) := by
  refine (Attempt.bind_of_ok (reach_of_ne first state)).trans (Attempt.change_bind.trans ?_)
  refine (Attempt.bind_of_ok (reach_of_ne second _)).trans (Attempt.change_bind.trans ?_)
  rw [List.append_assoc]
  rfl

theorem persistPair_of_eq {persisted : Nat}
    (fails : world.fails = some (.upsert persisted) ∨
      world.fails = some (.upsert (persisted + 1)))
    (pair : CoOccurrencePattern) (state : List ObservationUpsert) :
    ∃ done, persistPair world persisted pair state =
      (state ++ done, .error .externalService) := by
  rcases fails with first | second
  · refine ⟨[], ?_⟩
    rw [List.append_nil]
    exact Attempt.bind_of_error (reach_of_eq first state)
  · have first : world.fails ≠ some (.upsert persisted) := by
      rw [second]
      simp
    refine ⟨[coOccurrenceObservation world pair], ?_⟩
    refine (Attempt.bind_of_ok (reach_of_ne first state)).trans (Attempt.change_bind.trans ?_)
    exact Attempt.bind_of_error (reach_of_eq second _)

/-- The loop over the pairs from a count on. -/
theorem fold_persistPair (world : ScanWorld) (patterns : List CoOccurrencePattern)
    (persisted : Nat) (state : List ObservationUpsert) :
    (∃ index, world.fails = some (.upsert index) ∧ persisted ≤ index ∧
        index < persisted + 2 * patterns.length ∧
        ∃ done, Attempt.fold (persistPair world) persisted patterns state =
          (state ++ done, .error .externalService)) ∨
      (∀ index, world.fails = some (.upsert index) → persisted ≤ index →
          persisted + 2 * patterns.length ≤ index) ∧
        ∃ done, done.length = 2 * patterns.length ∧
          Attempt.fold (persistPair world) persisted patterns state =
            (state ++ done, .ok (persisted + done.length)) := by
  induction patterns generalizing persisted state with
  | nil =>
      refine .inr ⟨fun _ _ later => later, [], rfl, ?_⟩
      rw [List.append_nil]
      rfl
  | cons pair patterns induction =>
      rw [Attempt.fold]
      by_cases fails : world.fails = some (.upsert persisted) ∨
          world.fails = some (.upsert (persisted + 1))
      · obtain ⟨done, failed⟩ := persistPair_of_eq fails pair state
        have here : ∃ index, world.fails = some (.upsert index) ∧ persisted ≤ index ∧
            index < persisted + 2 * (pair :: patterns).length := by
          rcases fails with first | second
          · exact ⟨persisted, first, le_rfl, by simp⟩
          · refine ⟨persisted + 1, second, by omega, ?_⟩
            rw [List.length_cons]
            omega
        obtain ⟨index, is, after, bound⟩ := here
        exact .inl ⟨index, is, after, bound, done, Attempt.bind_of_error failed⟩
      · rw [not_or] at fails
        have paired := persistPair_of_ne fails.1 fails.2 pair state
        rw [Attempt.bind_of_ok paired]
        rw [List.length_cons]
        rcases induction (persisted + 2) (state ++ [coOccurrenceObservation world pair,
            coOccurrenceObservation world pair.swapped]) with
          ⟨index, is, after, bound, done, failed⟩ | ⟨none, done, length, ran⟩
        · refine .inl ⟨index, is, by omega, by omega, coOccurrenceObservation world pair ::
            coOccurrenceObservation world pair.swapped :: done, ?_⟩
          rw [failed]
          simp
        · refine .inr ⟨?_, coOccurrenceObservation world pair ::
            coOccurrenceObservation world pair.swapped :: done, ?_, ?_⟩
          · intro index is after
            have first : index ≠ persisted := fun same => fails.1 (same ▸ is)
            have second : index ≠ persisted + 1 := fun same => fails.2 (same ▸ is)
            have later := none index is (by omega)
            omega
          · rw [List.length_cons, List.length_cons, length]
            omega
          · rw [ran]
            simp
            omega

/-- Detection comes to the call at which it fails. -/
def DetectionRaises (world : ScanWorld) : Prop :=
  world.fails = some .episodeCount ∨
    world.totalEpisodes ≠ 0 ∧ (world.fails = some .pairs ∨
      world.pairRows.isEmpty = false ∧ world.fails = some .evidence)

theorem detectCoOccurrences_of_raises (raises : DetectionRaises world)
    (state : List ObservationUpsert) :
    detectCoOccurrences world state = (state, .error .externalService) := by
  unfold detectCoOccurrences
  rcases raises with counting | ⟨counted, pairing | ⟨paired, collecting⟩⟩
  · exact Attempt.bind_of_error (reach_of_eq counting state)
  · refine (Attempt.bind_of_ok (reach_of_ne (by simp [pairing]) state)).trans ?_
    rw [if_neg counted]
    exact Attempt.bind_of_error (reach_of_eq pairing state)
  · refine (Attempt.bind_of_ok (reach_of_ne (by simp [collecting]) state)).trans ?_
    rw [if_neg counted]
    refine (Attempt.bind_of_ok (reach_of_ne (by simp [collecting]) state)).trans ?_
    rw [if_neg (by simp [paired])]
    exact Attempt.bind_of_error (reach_of_eq collecting state)

/-- The patterns that detection returns: a project without episodes has none. -/
def detected (world : ScanWorld) : List CoOccurrencePattern :=
  if world.totalEpisodes = 0 then [] else coOccurrencePatterns world

theorem detectCoOccurrences_of_not_raises (quiet : ¬ DetectionRaises world)
    (state : List ObservationUpsert) :
    detectCoOccurrences world state = (state, .ok (detected world)) := by
  rw [DetectionRaises, not_or] at quiet
  obtain ⟨counted, rest⟩ := quiet
  unfold detectCoOccurrences detected
  refine (Attempt.bind_of_ok (reach_of_ne counted state)).trans ?_
  by_cases none : world.totalEpisodes = 0
  · rw [if_pos none, if_pos none]
    rfl
  · have later : ¬ (world.fails = some .pairs ∨
        world.pairRows.isEmpty = false ∧ world.fails = some .evidence) :=
      fun raises => rest ⟨none, raises⟩
    rw [not_or, not_and] at later
    rw [if_neg none, if_neg none]
    refine (Attempt.bind_of_ok (reach_of_ne later.1 state)).trans ?_
    by_cases empty : world.pairRows.isEmpty = true
    · rw [if_pos empty, coOccurrencePatterns, List.isEmpty_iff.mp empty]
      rfl
    · rw [if_neg empty]
      exact Attempt.bind_of_ok (reach_of_ne (later.2 (by simpa using empty)) state)

/-- The step without its handler. -/
def detectAndPersist (world : ScanWorld) : Scan Nat := do
  let pairs ← detectCoOccurrences world
  persistCoOccurrences world pairs

theorem coOccurrencesRaise_iff :
    CoOccurrencesRaise world ↔ DetectionRaises world ∨
      ∃ index, world.fails = some (.upsert index) ∧ index < 2 * (detected world).length := by
  unfold CoOccurrencesRaise DetectionRaises detected coOccurrencePatterns
  by_cases none : world.totalEpisodes = 0
  · split <;> simp_all
  · split <;> simp_all

/-- The step returns the number of its upserts, or stops where it comes to the
point at which it fails. -/
theorem detectAndPersist_run (world : ScanWorld) (state : List ObservationUpsert) :
    ∃ done, detectAndPersist world state =
        (state ++ done,
          if CoOccurrencesRaise world then .error .externalService else .ok done.length) ∧
      (¬ CoOccurrencesRaise world → done.length = 2 * (detected world).length) := by
  by_cases raises : DetectionRaises world
  · have all : CoOccurrencesRaise world := coOccurrencesRaise_iff.mpr (.inl raises)
    refine ⟨[], ?_, fun quiet => absurd all quiet⟩
    rw [if_pos all, List.append_nil]
    exact Attempt.bind_of_error (detectCoOccurrences_of_raises raises state)
  · have detecting := detectCoOccurrences_of_not_raises raises state
    rcases fold_persistPair world (detected world) 0 state with
      ⟨index, is, _, bound, done, failed⟩ | ⟨later, done, length, ran⟩
    · have all : CoOccurrencesRaise world :=
        coOccurrencesRaise_iff.mpr (.inr ⟨index, is, by omega⟩)
      refine ⟨done, ?_, fun quiet => absurd all quiet⟩
      rw [if_pos all]
      exact (Attempt.bind_of_ok detecting).trans failed
    · have quiet : ¬ CoOccurrencesRaise world := by
        rw [coOccurrencesRaise_iff, not_or]
        refine ⟨raises, ?_⟩
        rintro ⟨index, is, bound⟩
        have after := later index is (Nat.zero_le index)
        omega
      refine ⟨done, ?_, fun _ => length⟩
      rw [if_neg quiet]
      refine (Attempt.bind_of_ok detecting).trans (ran.trans ?_)
      rw [Nat.zero_add]

theorem coOccurrenceStep_of_not_raises (quiet : ¬ CoOccurrencesRaise world)
    (state : List ObservationUpsert) :
    ∃ done, coOccurrenceStep world state = (state ++ done, .ok done.length) ∧
      done.length = 2 * (detected world).length := by
  obtain ⟨done, ran, length⟩ := detectAndPersist_run world state
  rw [if_neg quiet] at ran
  exact ⟨done, Attempt.handle_of_ok ran, length quiet⟩

/-- The handler returns zero where its report goes nowhere. -/
theorem coOccurrenceStep_of_raises (raises : CoOccurrencesRaise world)
    (state : List ObservationUpsert) :
    ∃ done, coOccurrenceStep world state =
      (state ++ done,
        if warningLevel < world.effectiveLevel then .ok 0
        else .error (.unexpectedKeyword "project_id".toList)) := by
  obtain ⟨done, ran, _⟩ := detectAndPersist_run world state
  rw [if_pos raises] at ran
  refine ⟨done, (Attempt.handle_of_error ran).trans ?_⟩
  split
  · rename_i disabled
    exact Attempt.bind_of_ok (logCall_of_disabled disabled _ _)
  · rename_i enabled
    exact Attempt.bind_of_error (logCall_of_enabled (not_lt.mp enabled) _ _)

/-- What follows a co-occurrence step that returns, where its report goes nowhere. -/
theorem runFullProjectScan_of_disabled (backend : world.hasBackend = true)
    (disabled : infoLevel < world.effectiveLevel) {state after : List ObservationUpsert}
    {count : Nat} (stepped : coOccurrenceStep world state = (after, .ok count)) :
    runFullProjectScan world state =
      (after ++ world.temporalPatterns.map (temporalObservation world) ++
          world.behavioralPatterns.map (behavioralObservation world),
        .ok
          [(coOccurrence, count), (temporalPattern, world.temporalPatterns.length),
            (behavioralPattern, world.behavioralPatterns.length)]) := by
  unfold runFullProjectScan
  rw [backend, if_neg (by simp)]
  refine (Attempt.bind_of_ok stepped).trans ?_
  refine (Attempt.bind_of_ok (logCall_of_disabled disabled _ _)).trans ?_
  refine (Attempt.bind_of_ok (persistPatterns_run _ _ _)).trans ?_
  refine (Attempt.bind_of_ok (logCall_of_disabled disabled _ _)).trans ?_
  refine (Attempt.bind_of_ok (persistPatterns_run _ _ _)).trans ?_
  exact Attempt.bind_of_ok (logCall_of_disabled disabled _ _)

theorem runFullProjectScan_of_enabled (enabled : world.effectiveLevel ≤ infoLevel)
    (state : List ObservationUpsert) :
    ∃ after failure, runFullProjectScan world state = (after, .error failure) := by
  unfold runFullProjectScan
  split
  · exact ⟨state, .graphBackendUnavailable, rfl⟩
  · rcases result : coOccurrenceStep world state with ⟨after, failure | count⟩
    · exact ⟨after, failure, Attempt.bind_of_error result⟩
    · exact ⟨after, .unexpectedKeyword "project_id".toList, (Attempt.bind_of_ok result).trans
        (Attempt.bind_of_error (logCall_of_enabled enabled _ _))⟩

theorem runFullProjectScan_of_failed {state after : List ObservationUpsert}
    {failure : ScanFailure} (failed : coOccurrenceStep world state = (after, .error failure)) :
    ∃ after failure, runFullProjectScan world state = (after, .error failure) := by
  unfold runFullProjectScan
  split
  · exact ⟨state, .graphBackendUnavailable, rfl⟩
  · exact ⟨after, failure, Attempt.bind_of_error failed⟩

theorem not_completes_of_error {state after : List ObservationUpsert} {failure : ScanFailure}
    (failed : runFullProjectScan world state = (after, .error failure)) :
    ¬ ScanCompletes world state := by
  rintro ⟨pairs, count, ran, _⟩
  have results := congrArg Prod.snd (failed.symm.trans ran)
  cases results

end Runs

/-- A scan completes if and only if it has a backend, the level of its counts is
not enabled, and a failed step is not reported either. -/
theorem scanCompletes_iff (world : ScanWorld) (before : List ObservationUpsert) :
    ScanCompletes world before ↔
      world.hasBackend = true ∧ infoLevel < world.effectiveLevel ∧
        (CoOccurrencesRaise world → warningLevel < world.effectiveLevel) := by
  constructor
  · intro completes
    refine ⟨?_, ?_, fun raises => ?_⟩
    · by_contra missing
      have failed : runFullProjectScan world before =
          (before, .error .graphBackendUnavailable) := by
        rw [runFullProjectScan, if_pos (by simpa using missing)]
        rfl
      exact not_completes_of_error failed completes
    · by_contra enabled
      obtain ⟨after, failure, failed⟩ := runFullProjectScan_of_enabled (not_lt.mp enabled) before
      exact not_completes_of_error failed completes
    · by_contra enabled
      obtain ⟨done, failed⟩ := coOccurrenceStep_of_raises raises before
      rw [if_neg enabled] at failed
      obtain ⟨after, failure, stopped⟩ := runFullProjectScan_of_failed failed
      exact not_completes_of_error stopped completes
  · rintro ⟨backend, disabled, silent⟩
    by_cases raises : CoOccurrencesRaise world
    · obtain ⟨done, stepped⟩ := coOccurrenceStep_of_raises raises before
      rw [if_pos (silent raises)] at stepped
      exact ⟨done, 0, runFullProjectScan_of_disabled backend disabled stepped, fun _ => rfl,
        fun quiet => absurd raises quiet⟩
    · obtain ⟨done, stepped, length⟩ := coOccurrenceStep_of_not_raises raises before
      refine ⟨done, done.length, runFullProjectScan_of_disabled backend disabled stepped,
        fun raised => absurd raised raises, fun _ => ⟨rfl, ?_⟩⟩
      rw [length, detected]
      split <;> simp [coOccurrencePatterns]

/-- A world in which nothing is detected and nothing fails. -/
def quietWorld (effectiveLevel : Nat) : ScanWorld :=
  { formats :=
      { percent := fun _ _ => []
        tenths := fun _ => []
        hundredths := id }
    hasBackend := true
    effectiveLevel := effectiveLevel
    fails := none
    totalEpisodes := 0
    pairRows := []
    evidence := fun _ => []
    temporalPatterns := []
    behavioralPatterns := []
    now := fun _ => 0 }

/-- At the default level the first report raises; at the level of warnings the
report of a failed step does. -/
theorem runFullProjectScan_not_completes :
    ¬ ScanCompletes (quietWorld infoLevel) [] ∧
      runFullProjectScan (quietWorld infoLevel) [] =
        ([], .error (.unexpectedKeyword "project_id".toList)) ∧
      ¬ ScanCompletes { quietWorld warningLevel with fails := some .episodeCount } [] ∧
      runFullProjectScan { quietWorld warningLevel with fails := some .episodeCount } [] =
        ([], .error (.unexpectedKeyword "project_id".toList)) := by
  have atInfo : runFullProjectScan (quietWorld infoLevel) [] =
      ([], .error (.unexpectedKeyword "project_id".toList)) := by
    rfl
  have atWarning : runFullProjectScan
      { quietWorld warningLevel with fails := some .episodeCount } [] =
        ([], .error (.unexpectedKeyword "project_id".toList)) := by
    rfl
  exact ⟨not_completes_of_error atInfo, atInfo, not_completes_of_error atWarning, atWarning⟩

end OpenZync.Workers
