import OpenZync.Facts.TemporalQueries
import OpenZync.Library.Dicts
import OpenZync.Library.Rounding

/-!
# Temporal validation

`TemporalValidationService`, which only reports.  Both project checks read the
facts that are effective when they read them, and look for overlapping ranges,
for reversed ranges and for starts in the future among these.

Both checks see the facts that are effective when they scan.  Such a fact
neither ends before it starts nor starts in the future, and two facts that do
not overlap the instant of the scan are never compared, whatever the exclusion
constraint leaves to the check.
-/

namespace OpenZync.Facts

open OpenZync.Library

/-- `MAX_FUTURE_HOURS`. -/
def maxFutureHours : Nat := 24

/-- `timedelta(hours=hours)`. -/
def hours (count : Nat) : Time :=
  count * 3600000000

/-- `datetime.min` in UTC. -/
def datetimeMin : Time := -62135596800000000

/-- `datetime.max` in UTC. -/
def datetimeMax : Time := 253402300799999999

/-- The instants a `datetime` in UTC can stand for. -/
def IsDatetime (t : Time) : Prop :=
  datetimeMin ≤ t ∧ t ≤ datetimeMax

instance (t : Time) : Decidable (IsDatetime t) :=
  inferInstanceAs (Decidable (_ ∧ _))

/-- How values look in a message: `repr` of an optional text, `str` of an
instant. -/
structure Printing where
  repr : Option Text → Text
  str : Time → Text

/-- The `detail` of a warning.  Identifiers are kept as such. -/
inductive WarningDetail where
  | overlap (projectId : Uuid) (subject predicate object : Option Text)
      (factAId factBId : Uuid) (episodeAId episodeBId : Option Uuid)
      (rangeA rangeB : Text × Text)
  | invalidRange (factId projectId : Uuid) (validFrom validTo : Text)
      (subject predicate object : Option Text)
  | futureDate (factId projectId : Uuid) (validFrom : Text) (hoursAhead : ℚ)
      (subject predicate object : Option Text)
  deriving DecidableEq

structure TemporalWarning where
  code : Text
  message : Text
  detail : WarningDetail
  deriving DecidableEq

/-- `_ranges_overlap`. -/
def rangesOverlap (fromA toA fromB toB : Option Time) : Bool :=
  decide (fromA.getD datetimeMin < toB.getD datetimeMax) &&
    decide (fromB.getD datetimeMin < toA.getD datetimeMax)

/-- The positions `i < j` of a group. -/
def pairs {α : Type} : List α → List (α × α)
  | [] => []
  | first :: rest => rest.map (fun second => (first, second)) ++ pairs rest

/-- `(fact.subject, fact.predicate, fact.object)`. -/
def Fact.tripleKey (fact : Fact) : Option Text × Option Text × Option Text :=
  (fact.subject, fact.predicate, fact.object)

section

variable (printing : Printing) (projectId : Uuid)

/-- The range of a fact as a warning shows it. -/
def printedRange (fact : Fact) : Text × Text :=
  ((fact.validFrom.map printing.str).getD "-inf".toList,
    (fact.validTo.map printing.str).getD "inf".toList)

def overlapWarning (a b : Fact) : TemporalWarning :=
  { code := "overlap".toList
    message := "Cross-episode temporal overlap for triple (".toList ++
      printing.repr a.subject ++ ", ".toList ++ printing.repr a.predicate ++ ", ".toList ++
      printing.repr a.object ++ ")".toList
    detail := .overlap projectId a.subject a.predicate a.object a.id b.id a.sourceEpisodeId
      b.sourceEpisodeId (printedRange printing a) (printedRange printing b) }

/-- One pair of a group.  Facts of one episode are left to the constraint. -/
def checkPair (pair : Fact × Fact) : Option TemporalWarning :=
  if pair.1.sourceEpisodeId = pair.2.sourceEpisodeId then none
  else if rangesOverlap pair.1.validFrom pair.1.validTo pair.2.validFrom pair.2.validTo then
    some (overlapWarning printing projectId pair.1 pair.2)
  else none

def checkGroup (group : List Fact) : List TemporalWarning :=
  if group.length < 2 then [] else (pairs group).filterMap (checkPair printing projectId)

def checkProjectTemporalConsistency (facts : List Fact) (organizationId : Option Uuid)
    (now : Time) : List TemporalWarning :=
  (Library.Dict.grouped Fact.tripleKey
    (getAllActiveForProject facts projectId organizationId now)).items.flatMap fun item =>
      checkGroup printing projectId item.2

/-- `round((fact.valid_from - now).total_seconds() / 3600, 1)`. -/
def hoursAhead (now start : Time) : ℚ :=
  roundBinary 53
    (roundDecimal 1 (roundBinary 53 (roundBinary 53 ((start - now : ℤ) / 1000000) / 3600)))

/-- `valid_to < valid_from`. -/
def Fact.EndsBeforeStart (fact : Fact) : Prop :=
  ∃ start ∈ fact.validFrom, ∃ stop ∈ fact.validTo, stop < start

instance (fact : Fact) : Decidable fact.EndsBeforeStart :=
  inferInstanceAs (Decidable (∃ start ∈ fact.validFrom, ∃ stop ∈ fact.validTo, stop < start))

/-- `valid_from > now + timedelta(hours=MAX_FUTURE_HOURS)`. -/
def Fact.FutureDated (fact : Fact) (now : Time) : Prop :=
  ∃ start ∈ fact.validFrom, now + hours maxFutureHours < start

instance (fact : Fact) (now : Time) : Decidable (fact.FutureDated now) :=
  inferInstanceAs (Decidable (∃ start ∈ fact.validFrom, _))

def invalidRangeWarning (fact : Fact) (start stop : Time) : TemporalWarning :=
  { code := "invalid_range".toList
    message := "Fact ".toList ++ Text.ofUuid fact.id ++ " has valid_to (".toList ++
      printing.str stop ++ ") before valid_from (".toList ++ printing.str start ++ ")".toList
    detail := .invalidRange fact.id projectId (printing.str start) (printing.str stop)
      fact.subject fact.predicate fact.object }

def futureDateWarning (now : Time) (fact : Fact) (start : Time) : TemporalWarning :=
  { code := "future_date".toList
    message := "Fact ".toList ++ Text.ofUuid fact.id ++ " has valid_from (".toList ++
      printing.str start ++ ") more than 24h in the future".toList
    detail := .futureDate fact.id projectId (printing.str start) (hoursAhead now start)
      fact.subject fact.predicate fact.object }

/-- The warnings about one fact. -/
def checkFact (now : Time) (fact : Fact) : List TemporalWarning :=
  (match fact.validTo, fact.validFrom with
    | some stop, some start =>
        if stop < start then [invalidRangeWarning printing projectId fact start stop] else []
    | _, _ => []) ++
  (match fact.validFrom with
    | some start =>
        if now + hours maxFutureHours < start then
          [futureDateWarning printing projectId now fact start]
        else []
    | none => [])

/-- `check_fact_ranges`.  It reads the clock, and the scan reads it again. -/
def checkFactRanges (facts : List Fact) (organizationId : Option Uuid)
    (now scanned : Time) : List TemporalWarning :=
  (getAllActiveForProject facts projectId organizationId scanned).flatMap
    (checkFact printing projectId now)

end

/-- The fact that a warning of `check_fact_ranges` is about. -/
def WarningDetail.factId : WarningDetail → Option Uuid
  | .overlap .. => none
  | .invalidRange factId .. => some factId
  | .futureDate factId .. => some factId

/-- The facts that a warning of the overlap check is about. -/
def WarningDetail.factIds : WarningDetail → Option (Uuid × Uuid)
  | .overlap _ _ _ _ factAId factBId .. => some (factAId, factBId)
  | .invalidRange .. => none
  | .futureDate .. => none

def ReportsFact (report : List TemporalWarning) (fact : Fact) : Prop :=
  ∃ warning ∈ report, warning.detail.factId = some fact.id

def ReportsPair (report : List TemporalWarning) (a b : Fact) : Prop :=
  ∃ warning ∈ report, warning.detail.factIds = some (a.id, b.id) ∨
    warning.detail.factIds = some (b.id, a.id)

/-- What `check_fact_ranges` looks for. -/
def Fact.ViolatesRange (fact : Fact) (now : Time) : Prop :=
  fact.EndsBeforeStart ∨ fact.FutureDated now

instance (fact : Fact) (now : Time) : Decidable (fact.ViolatesRange now) :=
  inferInstanceAs (Decidable (_ ∨ _))

section

variable {printing : Printing} {projectId : Uuid} {organizationId : Option Uuid}
variable {facts : List Fact} {now scanned : Time}

theorem not_endsBeforeStart {fact : Fact} {t : Time} (effective : fact.EffectiveAt t) :
    ¬ fact.EndsBeforeStart := by
  rintro ⟨start, isStart, stop, isStop, reversed⟩
  have started := effective.2.1 start isStart
  have running := effective.2.2 stop isStop
  exact absurd (lt_of_le_of_lt started running) (not_lt_of_gt reversed)

@[simp] theorem invalidRangeWarning_factId (fact : Fact) (start stop : Time) :
    (invalidRangeWarning printing projectId fact start stop).detail.factId = some fact.id :=
  rfl

@[simp] theorem futureDateWarning_factId (fact : Fact) (start : Time) :
    (futureDateWarning printing projectId now fact start).detail.factId = some fact.id :=
  rfl

theorem mem_checkFact {fact : Fact} {id : Uuid} :
    (∃ warning ∈ checkFact printing projectId now fact, warning.detail.factId = some id) ↔
      fact.id = id ∧ fact.ViolatesRange now := by
  unfold checkFact Fact.ViolatesRange Fact.EndsBeforeStart Fact.FutureDated
  cases fact.validFrom with
  | none => cases fact.validTo <;> simp
  | some start =>
      cases fact.validTo with
      | none =>
          by_cases late : now + hours maxFutureHours < start <;> simp [late]
      | some stop =>
          by_cases reversed : stop < start <;>
            by_cases late : now + hours maxFutureHours < start <;> simp [late, reversed]

/-- Only a fact dated after `now` that has started by the time of the scan is
reported. -/
theorem reportsFact_iff (primaryKey : (facts.map Fact.id).Nodup) {fact : Fact}
    (member : fact ∈ facts) :
    ReportsFact (checkFactRanges printing projectId facts organizationId now scanned) fact ↔
      fact.InProject projectId organizationId ∧ fact.FutureDated now ∧
        fact.EffectiveAt scanned := by
  have reports : ReportsFact
      (checkFactRanges printing projectId facts organizationId now scanned) fact ↔
        ∃ other ∈ getAllActiveForProject facts projectId organizationId scanned,
          other.id = fact.id ∧ other.ViolatesRange now := by
    simp only [ReportsFact, checkFactRanges, List.mem_flatMap]
    constructor
    · rintro ⟨warning, ⟨other, active, about⟩, named⟩
      exact ⟨other, active, mem_checkFact.mp ⟨warning, about, named⟩⟩
    · rintro ⟨other, active, violates⟩
      obtain ⟨warning, about, named⟩ := mem_checkFact.mpr violates
      exact ⟨warning, ⟨other, active, about⟩, named⟩
  rw [reports]
  constructor
  · rintro ⟨other, active, same, violates⟩
    obtain ⟨found, inProject, effective⟩ := mem_getAllActiveForProject.mp active
    have equal := List.inj_on_of_nodup_map primaryKey found member same
    subst equal
    exact ⟨inProject, violates.resolve_left (not_endsBeforeStart effective), effective⟩
  · rintro ⟨inProject, late, effective⟩
    exact ⟨fact, mem_getAllActiveForProject.mpr ⟨member, inProject, effective⟩, rfl, .inr late⟩

/-- A fact more than a day ahead has not started within that day. -/
theorem Fact.FutureDated.not_effective {fact : Fact} (late : fact.FutureDated now)
    (soon : scanned ≤ now + hours maxFutureHours) : ¬ fact.EffectiveAt scanned := by
  obtain ⟨start, isStart, ahead⟩ := late
  intro effective
  have started := effective.2.1 start isStart
  exact absurd (lt_of_lt_of_le ahead started) (not_lt_of_ge soon)

end

theorem checkFactRanges_reports_iff (printing : Printing) (projectId : Uuid)
    (organizationId : Option Uuid) {facts : List Fact} {now : Time}
    (primaryKey : (facts.map Fact.id).Nodup) (scanned : Time) :
    (∀ fact ∈ facts,
      (ReportsFact (checkFactRanges printing projectId facts organizationId now scanned) fact ↔
        fact.InProject projectId organizationId ∧ fact.invalidAt = none ∧
          fact.ViolatesRange now)) ↔
      ∀ fact ∈ facts, fact.InProject projectId organizationId →
        (fact.invalidAt = none ∧ fact.ViolatesRange now ↔
          fact.FutureDated now ∧ fact.EffectiveAt scanned) := by
  apply forall_congr'
  intro fact
  apply imp_congr_right
  intro member
  rw [reportsFact_iff primaryKey member]
  constructor
  · intro same inProject
    rw [← and_iff_right_of_imp (a := fact.InProject projectId organizationId)
      (b := fact.invalidAt = none ∧ fact.ViolatesRange now) fun _ => inProject]
    exact same.symm.trans (and_iff_right inProject)
  · intro same
    exact (and_congr_right same).symm

/-- The report of `check_fact_ranges` is right for the facts that are due and
effective together; within the day after its first look at the clock, for no
other facts than those without violations. -/
theorem checkFactRanges_iff (printing : Printing) (projectId : Uuid)
    (organizationId : Option Uuid) (facts : List Fact) (now : Time)
    (primaryKey : (facts.map Fact.id).Nodup) :
    (∀ scanned, (∀ fact ∈ facts,
        (ReportsFact (checkFactRanges printing projectId facts organizationId now scanned)
            fact ↔
          fact.InProject projectId organizationId ∧ fact.invalidAt = none ∧
            fact.ViolatesRange now)) ↔
      ∀ fact ∈ facts, fact.InProject projectId organizationId →
        (fact.invalidAt = none ∧ fact.ViolatesRange now ↔
          fact.FutureDated now ∧ fact.EffectiveAt scanned)) ∧
    ∀ scanned ≤ now + hours maxFutureHours, (∀ fact ∈ facts,
        (ReportsFact (checkFactRanges printing projectId facts organizationId now scanned)
            fact ↔
          fact.InProject projectId organizationId ∧ fact.invalidAt = none ∧
            fact.ViolatesRange now)) ↔
      ∀ fact ∈ facts, fact.InProject projectId organizationId → fact.invalidAt = none →
        ¬ fact.ViolatesRange now := by
  have exactly := @checkFactRanges_reports_iff printing projectId organizationId facts now
    primaryKey
  refine ⟨exactly, ?_⟩
  intro scanned soon
  rw [exactly scanned]
  apply forall_congr'
  intro fact
  apply imp_congr_right
  intro _
  apply imp_congr_right
  intro _
  constructor
  · intro same unretracted violates
    obtain ⟨late, effective⟩ := same.mp ⟨unretracted, violates⟩
    exact late.not_effective soon effective
  · intro none_
    constructor
    · rintro ⟨unretracted, violates⟩
      exact absurd violates (none_ unretracted)
    · rintro ⟨late, effective⟩
      exact absurd effective (late.not_effective soon)

/-- `repr` and `str` of no consequence. -/
def Printing.blank : Printing :=
  { repr := fun _ => []
    str := fun _ => [] }

theorem checkFactRanges_iff_closed :
    ([Fact.dated 1 none (some 5) none].map Fact.id).Nodup ∧
      ∀ fact ∈ [Fact.dated 1 none (some 5) none], fact.InProject 1 none →
        fact.invalidAt = none → ¬ fact.ViolatesRange 0 :=
  ⟨by decide, ((checkFactRanges_iff Printing.blank 1 none [Fact.dated 1 none (some 5) none] 0
    (by decide)).2 0 (by decide)).mp (by
      intro fact member
      rw [reportsFact_iff (by decide) member]
      obtain rfl := List.mem_singleton.mp member
      decide)⟩

/-- A fact dated two days ahead is not reported. -/
theorem checkFactRanges_futureDated :
    ¬ ∀ (printing : Printing) (projectId : Uuid) (organizationId : Option Uuid)
        (facts : List Fact) (now : Time), (facts.map Fact.id).Nodup → ∀ fact ∈ facts,
      (ReportsFact (checkFactRanges printing projectId facts organizationId now now) fact ↔
        fact.InProject projectId organizationId ∧ fact.invalidAt = none ∧
          fact.ViolatesRange now) := by
  intro exactly
  have found := exactly Printing.blank 1 none [Fact.dated 1 (some (hours 48)) none none] 0
    (by decide) (Fact.dated 1 (some (hours 48)) none none) (List.mem_singleton.mpr rfl)
  rw [reportsFact_iff (by decide) (List.mem_singleton.mpr rfl)] at found
  exact absurd found (by decide)

end OpenZync.Facts
