import Mathlib.Tactic.IntervalCases
import OpenZync.Context.ContextKeys
import OpenZync.Library.FixedWidth

/-!
# The order of ISO timestamps

The text of a timestamp begins with fields of a fixed width, so two texts are
compared by their wall clocks, and by their offsets only where the clocks agree.
Offsets east of UTC are compared against the instants, all others with them.
-/

namespace OpenZync.Graph

open OpenZync.Library OpenZync.Repositories
open OpenZync.Context (UtcOffset isoformatAt)

section Calendar

def isLeap (year : Nat) : Bool :=
  year % 4 = 0 ∧ (year % 100 ≠ 0 ∨ year % 400 = 0)

/-- `_days_before_year` -/
def daysBeforeYear (year : Nat) : Nat :=
  (year - 1) * 365 + (year - 1) / 4 - (year - 1) / 100 + (year - 1) / 400

/-- `_DAYS_BEFORE_MONTH` -/
def daysBeforeMonthTable : List Nat :=
  [0, 0, 31, 59, 90, 120, 151, 181, 212, 243, 273, 304, 334]

/-- `_days_before_month` -/
def daysBeforeMonth (year month : Nat) : Nat :=
  daysBeforeMonthTable.getD month 0 + if 2 < month ∧ isLeap year then 1 else 0

/-- `date.toordinal` -/
def toordinal (fields : DatetimeFields) : Nat :=
  daysBeforeYear fields.year + daysBeforeMonth fields.year fields.month + fields.day

theorem daysBeforeMonth_step (year : Nat) {month : Nat} (positive : 1 ≤ month)
    (bound : month < 12) :
    daysBeforeMonth year (month + 1) = daysBeforeMonth year month + daysInMonth year month := by
  interval_cases month <;>
    simp only [daysBeforeMonth, daysBeforeMonthTable, daysInMonth, isLeap, List.getD_cons_succ,
      List.getD_cons_zero, decide_eq_true_eq, Nat.reduceLT, Nat.reduceAdd, true_and, false_and] <;>
    grind

theorem daysBeforeMonth_mono (year : Nat) {month month' : Nat} (positive : 1 ≤ month)
    (less : month < month') (bound : month' ≤ 12) :
    daysBeforeMonth year month + daysInMonth year month ≤ daysBeforeMonth year month' := by
  induction month', less using Nat.le_induction with
  | base => exact (daysBeforeMonth_step year positive (by omega)).ge
  | succ month' less induction =>
      rw [daysBeforeMonth_step year (by omega) (by omega)]
      exact (induction (by omega)).trans (Nat.le_add_right _ _)

theorem daysInYear (year : Nat) :
    daysBeforeMonth year 12 + daysInMonth year 12 = 365 + if isLeap year then 1 else 0 := by
  have december : daysBeforeMonth year 12 = 334 + if isLeap year then 1 else 0 := by
    simp [daysBeforeMonth, daysBeforeMonthTable]
  have days : daysInMonth year 12 = 31 := rfl
  rw [december, days]
  omega

theorem daysBeforeYear_step {year : Nat} (positive : 1 ≤ year) :
    daysBeforeYear (year + 1) = daysBeforeYear year + 365 + if isLeap year then 1 else 0 := by
  obtain ⟨before, rfl⟩ := Nat.exists_eq_add_of_le' positive
  have century : before / 100 ≤ before / 4 := Nat.div_le_div_left (by decide) (by decide)
  have hundredth : (before + 1) % 100 = 0 → (before + 1) % 4 = 0 := by omega
  have fourHundredth : (before + 1) % 400 = 0 → (before + 1) % 100 = 0 := by omega
  simp only [daysBeforeYear, isLeap, Nat.add_sub_cancel, decide_eq_true_eq, Nat.succ_div,
    Nat.dvd_iff_mod_eq_zero]
  generalize before / 4 = fourths, before / 100 = hundredths, before / 400 = fourHundredths at *
  split_ifs <;> omega

theorem daysBeforeYear_mono {year year' : Nat} (positive : 1 ≤ year) (less : year < year') :
    daysBeforeYear year + daysBeforeMonth year 12 + daysInMonth year 12 ≤
      daysBeforeYear year' := by
  rw [Nat.add_assoc, daysInYear, ← Nat.add_assoc, ← daysBeforeYear_step positive]
  induction year', less using Nat.le_induction with
  | base => exact le_rfl
  | succ year' less induction =>
      rw [daysBeforeYear_step (Nat.le_of_succ_le (Nat.le_trans (Nat.succ_le_succ positive) less))]
      omega

theorem compare_toordinal {fields fields' : DatetimeFields} (valid : fields.Valid)
    (valid' : fields'.Valid) :
    compare (toordinal fields) (toordinal fields') =
      ((compare fields.year fields'.year).then (compare fields.month fields'.month)).then
        (compare fields.day fields'.day) := by
  have earlier : ∀ {first second : DatetimeFields}, first.Valid → second.Valid →
      first.year < second.year ∨ first.year = second.year ∧ first.month < second.month →
      toordinal first < toordinal second := by
    intro first second valid valid' before
    obtain ⟨⟨positiveYear, _⟩, ⟨positive, bound⟩, ⟨_, day⟩, _⟩ := valid
    obtain ⟨_, ⟨positive', bound'⟩, ⟨positiveDay, _⟩, _⟩ := valid'
    simp only [toordinal]
    rcases before with less | ⟨same, less⟩
    · have years := daysBeforeYear_mono positiveYear less
      rcases Nat.lt_or_eq_of_le bound with inside | december
      · have months := daysBeforeMonth_mono first.year positive inside le_rfl
        omega
      · rw [december] at day ⊢
        omega
    · have months := daysBeforeMonth_mono first.year positive less bound'
      rw [same] at months day ⊢
      omega
  rcases Nat.lt_trichotomy fields.year fields'.year with less | same | greater
  · rw [Nat.compare_eq_lt.mpr less, Nat.compare_eq_lt.mpr (earlier valid valid' (.inl less))]
    rfl
  · rw [Nat.compare_eq_eq.mpr same, Ordering.eq_then]
    rcases Nat.lt_trichotomy fields.month fields'.month with less | sameMonth | greater
    · rw [Nat.compare_eq_lt.mpr less,
        Nat.compare_eq_lt.mpr (earlier valid valid' (.inr ⟨same, less⟩))]
      rfl
    · rw [Nat.compare_eq_eq.mpr sameMonth, Ordering.eq_then, toordinal, toordinal, same, sameMonth]
      exact compare_add_left ..
    · rw [Nat.compare_eq_gt.mpr greater,
        Nat.compare_eq_gt.mpr (earlier valid' valid (.inr ⟨same.symm, greater⟩))]
      rfl
  · rw [Nat.compare_eq_gt.mpr greater, Nat.compare_eq_gt.mpr (earlier valid' valid (.inl greater))]
    rfl

/-- The wall clock, in microseconds. -/
def wallClock (fields : DatetimeFields) : Nat :=
  (((toordinal fields * 24 + fields.hour) * 60 + fields.minute) * 60 + fields.second) * 1000000 +
    fields.microsecond

theorem compare_wallClock {fields fields' : DatetimeFields} (valid : fields.Valid)
    (valid' : fields'.Valid) :
    compare (wallClock fields) (wallClock fields') =
      ((((((compare fields.year fields'.year).then (compare fields.month fields'.month)).then
        (compare fields.day fields'.day)).then (compare fields.hour fields'.hour)).then
          (compare fields.minute fields'.minute)).then
            (compare fields.second fields'.second)).then
              (compare fields.microsecond fields'.microsecond) := by
  have dates := compare_toordinal valid valid'
  obtain ⟨_, _, _, hour, minute, second, microsecond⟩ := valid
  obtain ⟨_, _, _, hour', minute', second', microsecond'⟩ := valid'
  rw [wallClock, wallClock, compare_positional _ _ microsecond microsecond',
    compare_positional _ _ second second', compare_positional _ _ minute minute',
    compare_positional _ _ hour hour', dates]

end Calendar

section Texts

theorem length_decimalDigits (width value : Nat) : (decimalDigits width value).length = width := by
  induction width with
  | zero => rfl
  | succ width induction => rw [decimalDigits, List.length_cons, induction]

theorem decimalDigits_mod (width value : Nat) :
    decimalDigits width (value % 10 ^ width) = decimalDigits width value := by
  induction width generalizing value with
  | zero => rfl
  | succ width induction =>
      have low : value % 10 ^ (width + 1) % 10 ^ width = value % 10 ^ width :=
        Nat.mod_mod_of_dvd _ (Nat.pow_dvd_pow 10 (Nat.le_succ width))
      rw [decimalDigits, decimalDigits, ← induction, low, induction, Nat.pow_succ,
        Nat.mod_mul_right_div_self, Nat.mod_mod]

theorem compare_digitChar {digit digit' : Nat} (bound : digit < 10) (bound' : digit' < 10) :
    compare (Nat.digitChar digit) (Nat.digitChar digit') = compare digit digit' := by
  have digits : ∀ first < 10, ∀ second < 10,
      compare (Nat.digitChar first) (Nat.digitChar second) = compare first second := by decide
  exact digits digit bound digit' bound'

theorem compare_decimalDigits {width value value' : Nat} (bound : value < 10 ^ width)
    (bound' : value' < 10 ^ width) :
    compare (decimalDigits width value) (decimalDigits width value') = compare value value' := by
  induction width generalizing value value' with
  | zero =>
      obtain rfl : value = 0 := by omega
      obtain rfl : value' = 0 := by omega
      rfl
  | succ width induction =>
      have positive : 0 < 10 ^ width := Nat.pow_pos (by decide)
      have high : value / 10 ^ width < 10 := Nat.div_lt_of_lt_mul (by rwa [← Nat.pow_succ])
      have high' : value' / 10 ^ width < 10 := Nat.div_lt_of_lt_mul (by rwa [← Nat.pow_succ])
      have low := Nat.mod_lt value positive
      have low' := Nat.mod_lt value' positive
      rw [decimalDigits, decimalDigits, List.compare_cons_cons, Nat.mod_eq_of_lt high,
        Nat.mod_eq_of_lt high', compare_digitChar high high',
        ← decimalDigits_mod, ← decimalDigits_mod _ value', induction low low',
        ← compare_positional _ _ low low', Nat.div_add_mod', Nat.div_add_mod']

/-- A fraction that is left out compares as zero, as long as what follows comes
before the point. -/
theorem compare_fraction {micro micro' : Nat} (bound : micro < 1000000)
    (bound' : micro' < 1000000) {rest rest' : Text}
    (before : ∀ digits, compare rest ('.' :: digits) = .lt)
    (before' : ∀ digits, compare rest' ('.' :: digits) = .lt) :
    compare ((if micro = 0 then [] else '.' :: decimalDigits 6 micro) ++ rest)
        ((if micro' = 0 then [] else '.' :: decimalDigits 6 micro') ++ rest') =
      (compare micro micro').then (compare rest rest') := by
  have after' : ∀ digits, compare ('.' :: digits) rest' = .gt := by
    intro digits
    rw [@Std.OrientedCmp.eq_swap _ compare, before']
    rfl
  split
  · rename_i whole
    rw [whole]
    split
    · rename_i whole'
      rw [whole']
      rfl
    · rename_i part'
      rw [Nat.compare_eq_lt.mpr (Nat.pos_of_ne_zero part'), List.nil_append, List.cons_append,
        before]
      rfl
  · rename_i part
    split
    · rename_i whole'
      rw [whole', Nat.compare_eq_gt.mpr (Nat.pos_of_ne_zero part), List.nil_append,
        List.cons_append, after']
      rfl
    · rw [List.cons_append, List.cons_append, compare_cons_self,
        compare_append _ _ (by rw [length_decimalDigits, length_decimalDigits]),
        compare_decimalDigits bound bound']

theorem text_before_point (offset : UtcOffset) (digits : Text) :
    compare offset.text ('.' :: digits) = .lt := by
  rw [UtcOffset.text, List.cons_append, List.cons_append, List.compare_cons_cons]
  split <;> rfl

theorem compare_isoformatAt {fields fields' : DatetimeFields} (valid : fields.Valid)
    (valid' : fields'.Valid) (offset offset' : UtcOffset) :
    compare (isoformatAt fields offset) (isoformatAt fields' offset') =
      (compare (wallClock fields) (wallClock fields')).then
        (compare offset.text offset'.text) := by
  have sameLength (width value value' : Nat) :
      (decimalDigits width value).length = (decimalDigits width value').length := by
    rw [length_decimalDigits, length_decimalDigits]
  have clocks := compare_wallClock valid valid'
  have monthDays := Datetime.daysInMonth_le fields.year fields.month
  have monthDays' := Datetime.daysInMonth_le fields'.year fields'.month
  obtain ⟨⟨_, year⟩, ⟨_, month⟩, ⟨_, day⟩, hour, minute, second, microsecond⟩ := valid
  obtain ⟨⟨_, year'⟩, ⟨_, month'⟩, ⟨_, day'⟩, hour', minute', second', microsecond'⟩ := valid'
  have years := compare_decimalDigits (show fields.year < 10 ^ 4 by omega)
    (show fields'.year < 10 ^ 4 by omega)
  have months := compare_decimalDigits (show fields.month < 10 ^ 2 by omega)
    (show fields'.month < 10 ^ 2 by omega)
  have days := compare_decimalDigits (show fields.day < 10 ^ 2 by omega)
    (show fields'.day < 10 ^ 2 by omega)
  have hours := compare_decimalDigits (show fields.hour < 10 ^ 2 by omega)
    (show fields'.hour < 10 ^ 2 by omega)
  have minutes := compare_decimalDigits (show fields.minute < 10 ^ 2 by omega)
    (show fields'.minute < 10 ^ 2 by omega)
  have seconds := compare_decimalDigits (show fields.second < 10 ^ 2 by omega)
    (show fields'.second < 10 ^ 2 by omega)
  simp only [isoformatAt, List.append_assoc, List.cons_append]
  rw [clocks, compare_append _ _ (sameLength ..), compare_cons_self,
    compare_append _ _ (sameLength ..), compare_cons_self,
    compare_append _ _ (sameLength ..), compare_cons_self,
    compare_append _ _ (sameLength ..), compare_cons_self,
    compare_append _ _ (sameLength ..), compare_cons_self,
    compare_append _ _ (sameLength ..),
    compare_fraction microsecond microsecond' (text_before_point offset)
      (text_before_point offset'),
    years, months, days, hours, minutes, seconds]
  simp only [Ordering.then_assoc]

/-- The offset without its sign, in microseconds. -/
def offsetSize (offset : UtcOffset) : Nat :=
  ((offset.hours * 60 + offset.minutes) * 60 + offset.seconds) * 1000000 + offset.microseconds

/-- `utcoffset()`, in microseconds. -/
def utcoffset (offset : UtcOffset) : Int :=
  if offset.negative then -(offsetSize offset : Int) else offsetSize offset

/-- What `timezone` accepts; an offset of zero is written as a positive one. -/
def ValidOffset (offset : UtcOffset) : Prop :=
  offset.hours < 24 ∧ offset.minutes < 60 ∧ offset.seconds < 60 ∧
    offset.microseconds < 1000000 ∧ (offset.negative = true → 0 < offsetSize offset)

instance (offset : UtcOffset) : Decidable (ValidOffset offset) :=
  inferInstanceAs (Decidable (_ ∧ _))

theorem compare_sign (negative negative' : Bool) :
    compare (if negative then '-' else '+') (if negative' then '-' else '+') =
      compare negative negative' := by
  cases negative <;> cases negative' <;> rfl

theorem compare_seconds {seconds seconds' micro micro' : Nat} (bound : seconds < 60)
    (bound' : seconds' < 60) (microBound : micro < 1000000) (microBound' : micro' < 1000000) :
    compare
        (if seconds = 0 ∧ micro = 0 then [] else
          ':' :: decimalDigits 2 seconds ++
            (if micro = 0 then [] else '.' :: decimalDigits 6 micro))
        (if seconds' = 0 ∧ micro' = 0 then [] else
          ':' :: decimalDigits 2 seconds' ++
            (if micro' = 0 then [] else '.' :: decimalDigits 6 micro')) =
      (compare seconds seconds').then (compare micro micro') := by
  have zeroFirst : ∀ {first second : Nat}, ¬(first = 0 ∧ second = 0) →
      (compare 0 first).then (compare 0 second) = .lt := by
    intro first second positive
    rcases Nat.eq_zero_or_pos first with rfl | first
    · rw [Nat.compare_eq_eq.mpr rfl, Ordering.eq_then, Nat.compare_eq_lt]
      omega
    · rw [Nat.compare_eq_lt.mpr first]
      rfl
  by_cases whole : seconds = 0 ∧ micro = 0
  · rw [if_pos whole, whole.1, whole.2]
    by_cases whole' : seconds' = 0 ∧ micro' = 0
    · rw [if_pos whole', whole'.1, whole'.2]
      rfl
    · rw [if_neg whole', zeroFirst whole']
      rfl
  · rw [if_neg whole]
    by_cases whole' : seconds' = 0 ∧ micro' = 0
    · have swapped := congrArg Ordering.swap (zeroFirst whole)
      rw [Ordering.swap_then, Nat.compare_swap, Nat.compare_swap] at swapped
      rw [if_pos whole', whole'.1, whole'.2, swapped]
      rfl
    · have fraction := @compare_fraction _ _ microBound microBound' [] [] (fun _ => rfl)
        (fun _ => rfl)
      rw [List.append_nil, List.append_nil] at fraction
      rw [if_neg whole', List.cons_append, List.cons_append, compare_cons_self,
        compare_append _ _ (by rw [length_decimalDigits, length_decimalDigits]), fraction,
        compare_decimalDigits (show seconds < 10 ^ 2 by omega) (show seconds' < 10 ^ 2 by omega)]
      exact congrArg _ (Ordering.then_eq ..)

/-- Among the texts of one sign, the larger offset comes later. -/
theorem compare_offsetText {offset offset' : UtcOffset} (valid : ValidOffset offset)
    (valid' : ValidOffset offset') :
    compare offset.text offset'.text =
      (compare offset.negative offset'.negative).then
        (compare (offsetSize offset) (offsetSize offset')) := by
  have sameLength (width value value' : Nat) :
      (decimalDigits width value).length = (decimalDigits width value').length := by
    rw [length_decimalDigits, length_decimalDigits]
  obtain ⟨hour, minute, second, micro, _⟩ := valid
  obtain ⟨hour', minute', second', micro', _⟩ := valid'
  have hours := compare_decimalDigits (show offset.hours < 10 ^ 2 by omega)
    (show offset'.hours < 10 ^ 2 by omega)
  have minutes := compare_decimalDigits (show offset.minutes < 10 ^ 2 by omega)
    (show offset'.minutes < 10 ^ 2 by omega)
  simp only [UtcOffset.text, List.append_assoc, List.cons_append]
  rw [List.compare_cons_cons, compare_sign, compare_append _ _ (sameLength ..),
    compare_cons_self, compare_append _ _ (sameLength ..), hours, minutes, offsetSize, offsetSize,
    compare_positional _ _ micro micro', compare_positional _ _ second second',
    compare_positional _ _ minute minute']
  have rest := compare_seconds second second' micro micro'
  simp only [List.cons_append] at rest
  rw [rest]
  simp only [Ordering.then_assoc]

end Texts

/-- A timezone-aware `datetime`. -/
structure AwareDatetime where
  fields : DatetimeFields
  offset : UtcOffset
  fields_valid : fields.Valid
  offset_valid : ValidOffset offset

namespace AwareDatetime

def isoformat (datetime : AwareDatetime) : Text :=
  isoformatAt datetime.fields datetime.offset

/-- What the wall clock shows, in microseconds. -/
def clock (datetime : AwareDatetime) : Int :=
  wallClock datetime.fields

/-- How far the wall clock is ahead of UTC. -/
def ahead (datetime : AwareDatetime) : Int :=
  utcoffset datetime.offset

/-- The instant, which comparisons of aware datetimes compare. -/
def instant (datetime : AwareDatetime) : Time :=
  datetime.clock - datetime.ahead

/-- `first <= second` between the texts. -/
def TextLe (first second : AwareDatetime) : Prop :=
  (compare first.isoformat second.isoformat).isLE = true

instance (first second : AwareDatetime) : Decidable (first.TextLe second) :=
  inferInstanceAs (Decidable (_ = true))

/-- The offsets differ by no more than the clocks, and clocks that agree have one
offset or an offset west of UTC. -/
structure OffsetsKeepOrder (first second : AwareDatetime) : Prop where
  earlier : first.clock < second.clock →
    second.ahead - first.ahead ≤ second.clock - first.clock
  later : second.clock < first.clock →
    first.ahead - second.ahead < first.clock - second.clock
  together : first.clock = second.clock →
    first.ahead = second.ahead ∨ first.ahead < 0 ∨ second.ahead < 0

theorem OffsetsKeepOrder.of_same {first second : AwareDatetime}
    (same : first.ahead = second.ahead) : OffsetsKeepOrder first second :=
  { earlier := by omega
    later := by omega
    together := fun _ => .inl same }

theorem compare_isoformat (first second : AwareDatetime) :
    compare first.isoformat second.isoformat =
      (compare (wallClock first.fields) (wallClock second.fields)).then
        ((compare first.offset.negative second.offset.negative).then
          (compare (offsetSize first.offset) (offsetSize second.offset))) := by
  rw [isoformat, isoformat, compare_isoformatAt first.fields_valid second.fields_valid,
    compare_offsetText first.offset_valid second.offset_valid]

theorem textLe_iff (first second : AwareDatetime) :
    first.TextLe second ↔ first.clock < second.clock ∨ first.clock = second.clock ∧
      ((compare first.offset.negative second.offset.negative).then
        (compare (offsetSize first.offset) (offsetSize second.offset))).isLE = true := by
  rw [TextLe, compare_isoformat, clock, clock]
  rcases Nat.lt_trichotomy (wallClock first.fields) (wallClock second.fields) with
    less | same | greater
  · simp [Nat.compare_eq_lt.mpr less, less]
  · rw [Nat.compare_eq_eq.mpr same, Ordering.eq_then, same]
    simp
  · have notLess := Nat.lt_asymm greater
    simp [Nat.compare_eq_gt.mpr greater, notLess, Nat.ne_of_gt greater]

theorem ahead_neg_iff (datetime : AwareDatetime) :
    datetime.ahead < 0 ↔ datetime.offset.negative = true := by
  obtain ⟨_, _, _, _, positive⟩ := datetime.offset_valid
  rw [ahead, utcoffset]
  split
  · rename_i negative
    have := positive negative
    exact iff_of_true (by omega) negative
  · rename_i negative
    exact iff_of_false (by omega) negative

theorem offsets_le_iff (first second : AwareDatetime) :
    ((compare first.offset.negative second.offset.negative).then
        (compare (offsetSize first.offset) (offsetSize second.offset))).isLE = true ↔
      if first.ahead < 0 then second.ahead < 0 ∧ second.ahead ≤ first.ahead
      else second.ahead < 0 ∨ first.ahead ≤ second.ahead := by
  have sizes : (compare (offsetSize first.offset) (offsetSize second.offset)).isLE = true ↔
      offsetSize first.offset ≤ offsetSize second.offset := Nat.isLE_compare
  have sign := ahead_neg_iff first
  have sign' := ahead_neg_iff second
  have size : first.ahead = utcoffset first.offset := rfl
  have size' : second.ahead = utcoffset second.offset := rfl
  rw [utcoffset] at size size'
  cases negative : first.offset.negative <;> cases negative' : second.offset.negative
  · have same : compare false false = .eq := rfl
    rw [negative] at sign size
    rw [negative'] at sign' size'
    rw [same, Ordering.eq_then, sizes]
    simp only [Bool.false_eq_true, iff_false, if_false] at sign sign' size size'
    rw [if_neg sign]
    omega
  · have less : compare false true = .lt := rfl
    rw [negative] at sign
    rw [negative'] at sign'
    simp [less, sign, sign']
  · have greater : compare true false = .gt := rfl
    rw [negative] at sign
    rw [negative'] at sign'
    simp [greater, sign, sign']
  · have same : compare true true = .eq := rfl
    rw [negative] at sign size
    rw [negative'] at sign' size'
    rw [same, Ordering.eq_then, sizes]
    simp only [iff_true, if_true] at sign sign' size size'
    rw [if_pos sign]
    omega

theorem instant_le_iff (first second : AwareDatetime) :
    first.instant ≤ second.instant ↔
      first.clock - first.ahead ≤ second.clock - second.ahead :=
  Iff.rfl

theorem textLe_iff_instants (first second : AwareDatetime) :
    (first.TextLe second ↔ first.instant ≤ second.instant) ↔
      OffsetsKeepOrder first second := by
  rw [textLe_iff, offsets_le_iff, instant_le_iff]
  constructor
  · intro alike
    refine ⟨?_, ?_, ?_⟩
    · intro less
      have := alike.mp (.inl less)
      omega
    · intro greater
      by_contra within
      have := alike.mpr (by omega)
      omega
    · intro same
      split at alike <;> omega
  · rintro ⟨earlier, later, together⟩
    split <;> omega

end AwareDatetime

end OpenZync.Graph
