import Mathlib.Algebra.Order.Ring.Unbundled.Rat
import OpenZync.Library.Attempts
import OpenZync.Text

/-!
# The observation scan of a project

`run_full_project_scan`: the detection of co-occurrences with its calls to the
graph backend, the three loops that persist what was detected, and the log
calls between them.  The logger of the module is one of the standard library,
whose methods check their keywords only at an enabled level.
-/

namespace OpenZync.Workers

open Library

/-- A row of `get_co_occurring_entity_pairs`. -/
structure PairRow where
  entityAId : Uuid
  entityAName : Text
  entityBId : Uuid
  entityBName : Text
  coCount : Nat

structure CoOccurrencePattern where
  entityAId : Uuid
  entityAName : Text
  entityBId : Uuid
  entityBName : Text
  coCount : Nat
  totalEpisodes : Nat
  relationshipIds : List Uuid

/-- What the description and the confidence read of a detected gap pattern. -/
structure TemporalGapPattern where
  entityId : Uuid
  entityName : Text
  appearanceCount : Nat
  patternType : Text
  meanGapHours : ℚ
  spanDays : ℚ

structure BehavioralPattern where
  entityId : Uuid
  entityName : Text
  frequentPredicates : List (Text × Nat)
  totalFacts : Nat

/-- The arguments of `upsert_observation` after the project. -/
structure ObservationUpsert where
  subjectEntityId : Uuid
  relatedEntityId : Option Uuid
  observationType : Text
  content : Text
  confidence : ℚ
  supportingRelationshipIds : Option (List Uuid)
  validFrom : Time

def coOccurrence : Text := "co_occurrence".toList

def temporalPattern : Text := "temporal_pattern".toList

def behavioralPattern : Text := "behavioral_pattern".toList

inductive ScanFailure where
  | graphBackendUnavailable
  | externalService
  /-- The `TypeError` of a log call with a keyword it does not take. -/
  | unexpectedKeyword (keyword : Text)
deriving DecidableEq

/-- Where the co-occurrence step can raise `ExternalServiceError`; the upserts
are counted from zero. -/
inductive CoOccurrencePoint where
  | episodeCount
  | pairs
  | evidence
  | upsert (index : Nat)
deriving DecidableEq

/-- How numbers are written and rounded. -/
structure NumberFormats where
  /-- `round(count / total * 100)` -/
  percent : Nat → Nat → Text
  /-- `:.1f` -/
  tenths : ℚ → Text
  /-- `round(value, 2)` -/
  hundredths : ℚ → ℚ

/-- What a scan meets. -/
structure ScanWorld where
  formats : NumberFormats
  hasBackend : Bool
  /-- The level from which on the logger of the module is enabled. -/
  effectiveLevel : Nat
  fails : Option CoOccurrencePoint
  totalEpisodes : Nat
  pairRows : List PairRow
  evidence : Uuid × Uuid → List Uuid
  temporalPatterns : List TemporalGapPattern
  behavioralPatterns : List BehavioralPattern
  now : Text → Time

/-- What has been upserted. -/
abbrev Scan := Attempt (List ObservationUpsert) ScanFailure

/-- `logging.WARNING` -/
def warningLevel : Nat := 30

/-- `logging.INFO` -/
def infoLevel : Nat := 20

/-- The keywords of the methods of a standard-library logger. -/
def loggerKeywords : List Text :=
  ["exc_info".toList, "stack_info".toList, "stacklevel".toList, "extra".toList]

/-- The default of `co_confidence_cap`, which the worker leaves. -/
def defaultCoConfidenceCap : ℚ := 20

section Descriptions

variable (formats : NumberFormats)

def quoted (name : Text) : Text :=
  '\'' :: name ++ ['\'']

def numberText (number : Nat) : Text :=
  (toString number).toList

/-- `build_co_occurrence_description` -/
def buildCoOccurrenceDescription (pattern : CoOccurrencePattern) : Text :=
  quoted pattern.entityAName ++ " appears alongside ".toList ++ quoted pattern.entityBName ++
    " in ".toList ++ numberText pattern.coCount ++ " out of ".toList ++
      numberText pattern.totalEpisodes ++ " episodes (".toList ++
        formats.percent pattern.coCount pattern.totalEpisodes ++ "% co-occurrence rate).".toList

/-- `pattern_labels`, and the type itself where it has no label. -/
def patternLabel (patternType : Text) : Text :=
  if patternType = "periodic".toList then "regular intervals".toList
  else if patternType = "widening".toList then "increasing gaps".toList
  else if patternType = "narrowing".toList then "decreasing gaps".toList
  else if patternType = "burst".toList then
    "clustered appearances with long gaps between".toList
  else if patternType = "irregular".toList then "irregular intervals".toList
  else patternType

/-- `build_temporal_description` -/
def buildTemporalDescription (pattern : TemporalGapPattern) : Text :=
  quoted pattern.entityName ++ " appears at ".toList ++ patternLabel pattern.patternType ++
    " (mean gap: ".toList ++ formats.tenths pattern.meanGapHours ++ "h, span: ".toList ++
      formats.tenths pattern.spanDays ++ "d, ".toList ++ numberText pattern.appearanceCount ++
        " appearances).".toList

def predicateText (predicate : Text × Nat) : Text :=
  predicate.1 ++ '(' :: numberText predicate.2 ++ [')']

/-- `build_behavioral_description` -/
def buildBehavioralDescription (pattern : BehavioralPattern) : Text :=
  match pattern.frequentPredicates with
  | [] =>
      quoted pattern.entityName ++ " has no notable behavior patterns detected (".toList ++
        numberText pattern.totalFacts ++ " facts analyzed).".toList
  | (predicate, count) :: others =>
      quoted pattern.entityName ++ " most frequently exhibits the predicate ".toList ++
        quoted predicate ++ " (".toList ++ numberText count ++ " out of ".toList ++
          numberText pattern.totalFacts ++ " facts). Additional predicates: ".toList ++
            List.intercalate ", ".toList ((others.take 3).map predicateText) ++ ".".toList

/-- `confidence_map` -/
def temporalConfidence (patternType : Text) : ℚ :=
  if patternType = "periodic".toList then 85 / 100
  else if patternType = "narrowing".toList then 75 / 100
  else if patternType = "widening".toList then 70 / 100
  else if patternType = "burst".toList then 65 / 100
  else if patternType = "irregular".toList then 40 / 100
  else 50 / 100

def behavioralConfidence (pattern : BehavioralPattern) : ℚ :=
  match pattern.frequentPredicates with
  | [] => 2 / 10
  | (_, count) :: _ => min (count / max pattern.totalFacts 1 * (3 / 2)) (95 / 100)

end Descriptions

section Observations

variable (world : ScanWorld)

/-- The observation of a pair in the direction of the pattern. -/
def coOccurrenceObservation (pattern : CoOccurrencePattern) : ObservationUpsert :=
  { subjectEntityId := pattern.entityAId
    relatedEntityId := some pattern.entityBId
    observationType := coOccurrence
    content := buildCoOccurrenceDescription world.formats pattern
    confidence := min (pattern.coCount / defaultCoConfidenceCap) 1
    supportingRelationshipIds :=
      if pattern.relationshipIds.isEmpty then none else some pattern.relationshipIds
    validFrom := world.now coOccurrence }

/-- `swapped_pair` -/
def CoOccurrencePattern.swapped (pattern : CoOccurrencePattern) : CoOccurrencePattern :=
  { pattern with
    entityAId := pattern.entityBId
    entityAName := pattern.entityBName
    entityBId := pattern.entityAId
    entityBName := pattern.entityAName }

def temporalObservation (pattern : TemporalGapPattern) : ObservationUpsert :=
  { subjectEntityId := pattern.entityId
    relatedEntityId := none
    observationType := temporalPattern
    content := buildTemporalDescription world.formats pattern
    confidence := temporalConfidence pattern.patternType
    supportingRelationshipIds := none
    validFrom := world.now temporalPattern }

def behavioralObservation (pattern : BehavioralPattern) : ObservationUpsert :=
  { subjectEntityId := pattern.entityId
    relatedEntityId := none
    observationType := behavioralPattern
    content := buildBehavioralDescription pattern
    confidence := world.formats.hundredths (behavioralConfidence pattern)
    supportingRelationshipIds := none
    validFrom := world.now behavioralPattern }

end Observations

section Steps

variable (world : ScanWorld)

/-- A log call at a level, with the keywords it is given. -/
def logCall (level : Nat) (keywords : List Text) : Scan Unit :=
  if world.effectiveLevel ≤ level then
    match keywords.find? fun keyword => !loggerKeywords.contains keyword with
    | some keyword => Attempt.fail (.unexpectedKeyword keyword)
    | none => pure ()
  else pure ()

/-- A point at which the backend may fail. -/
def reach (point : CoOccurrencePoint) : Scan Unit :=
  if world.fails = some point then Attempt.fail .externalService else pure ()

/-- The patterns of the rows. -/
def coOccurrencePatterns : List CoOccurrencePattern :=
  world.pairRows.map fun row =>
    { entityAId := row.entityAId
      entityAName := row.entityAName
      entityBId := row.entityBId
      entityBName := row.entityBName
      coCount := row.coCount
      totalEpisodes := world.totalEpisodes
      relationshipIds := world.evidence (row.entityAId, row.entityBId) }

/-- `detect_co_occurrences` -/
def detectCoOccurrences : Scan (List CoOccurrencePattern) := do
  reach world .episodeCount
  if world.totalEpisodes = 0 then pure []
  else do
    reach world .pairs
    if world.pairRows.isEmpty then pure []
    else do
      reach world .evidence
      pure (coOccurrencePatterns world)

/-- `upsert_observation` -/
def upsertObservation (observation : ObservationUpsert) : Scan Unit :=
  Attempt.change fun upserts => upserts ++ [observation]

/-- `_persist_co_occurrences` -/
def persistCoOccurrences (patterns : List CoOccurrencePattern) : Scan Nat :=
  Attempt.fold
    (fun persisted pair => do
      reach world (.upsert persisted)
      upsertObservation (coOccurrenceObservation world pair)
      reach world (.upsert (persisted + 1))
      upsertObservation (coOccurrenceObservation world pair.swapped)
      pure (persisted + 2))
    0 patterns

/-- `_persist_temporal_patterns` and `_persist_behavioral_patterns`: one
observation for each pattern. -/
def persistPatterns {α : Type} (observe : α → ObservationUpsert) (patterns : List α) : Scan Nat :=
  Attempt.fold
    (fun persisted pattern => do
      upsertObservation (observe pattern)
      pure (persisted + 1))
    0 patterns

/-- `_persist_temporal_patterns` -/
def persistTemporalPatterns (patterns : List TemporalGapPattern) : Scan Nat :=
  persistPatterns (temporalObservation world) patterns

/-- `_persist_behavioral_patterns` -/
def persistBehavioralPatterns (patterns : List BehavioralPattern) : Scan Nat :=
  persistPatterns (behavioralObservation world) patterns

/-- The first step with its `except ExternalServiceError`. -/
def coOccurrenceStep : Scan Nat :=
  Attempt.handle
    (do
      let pairs ← detectCoOccurrences world
      persistCoOccurrences world pairs)
    fun failure =>
      match failure with
      | .externalService => do
          logCall world warningLevel
            ["project_id".toList, "organization_id".toList, "min_co_count".toList,
              "error".toList]
          pure 0
      | other => Attempt.fail other

/-- The log call after each step. -/
def logDetected : Scan Unit :=
  logCall world infoLevel ["project_id".toList, "count".toList]

/-- `run_full_project_scan` -/
def runFullProjectScan : Scan (List (Text × Nat)) :=
  if !world.hasBackend then Attempt.fail .graphBackendUnavailable
  else do
    let coOccurrences ← coOccurrenceStep world
    logDetected world
    let temporal ← persistTemporalPatterns world world.temporalPatterns
    logDetected world
    let behavioral ← persistBehavioralPatterns world world.behavioralPatterns
    logDetected world
    pure
      [(coOccurrence, coOccurrences), (temporalPattern, temporal),
        (behavioralPattern, behavioral)]

end Steps

end OpenZync.Workers
