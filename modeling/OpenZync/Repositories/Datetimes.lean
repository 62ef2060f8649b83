import Mathlib.Tactic.Ring
import OpenZync.Library.KeysetOrder
import OpenZync.Text

/-!
# Timestamps and their ISO form

A timestamp column comes back from the database in UTC, by its fields.  Its ISO
form is read back as the same timestamp.
-/

namespace OpenZync.Repositories

open OpenZync.Library

def daysInMonth (year month : Nat) : Nat :=
  match month with
  | 2 => if year % 4 = 0 ∧ (year % 100 ≠ 0 ∨ year % 400 = 0) then 29 else 28
  | 4 => 30
  | 6 => 30
  | 9 => 30
  | 11 => 30
  | _ => 31

/-- The fields of a `datetime`. -/
structure DatetimeFields where
  year : Nat
  month : Nat
  day : Nat
  hour : Nat
  minute : Nat
  second : Nat
  microsecond : Nat
  deriving DecidableEq

/-- What the constructor of `datetime` checks. -/
def DatetimeFields.Valid (fields : DatetimeFields) : Prop :=
  (1 ≤ fields.year ∧ fields.year ≤ 9999) ∧ (1 ≤ fields.month ∧ fields.month ≤ 12) ∧
    (1 ≤ fields.day ∧ fields.day ≤ daysInMonth fields.year fields.month) ∧ fields.hour < 24 ∧
    fields.minute < 60 ∧ fields.second < 60 ∧ fields.microsecond < 1000000

instance (fields : DatetimeFields) : Decidable fields.Valid :=
  inferInstanceAs (Decidable (_ ∧ _))

/-- A `datetime` in UTC. -/
structure Datetime extends DatetimeFields where
  valid : toDatetimeFields.Valid

namespace Datetime

/-- The fields as one number, in the order of time. -/
def stamp (datetime : Datetime) : Nat :=
  (((((datetime.year * 13 + datetime.month) * 32 + datetime.day) * 24 + datetime.hour) * 60 +
    datetime.minute) * 60 + datetime.second) * 1000000 + datetime.microsecond

def order : SqlOrder Datetime :=
  { le := fun first second => decide (first.stamp ≤ second.stamp)
    total := by
      intro first second
      simp only [decide_eq_true_eq]
      exact Nat.le_total _ _
    trans := by
      intro first second third left right
      simp only [decide_eq_true_eq] at left right ⊢
      exact Nat.le_trans left right }

theorem daysInMonth_le (year month : Nat) : daysInMonth year month ≤ 31 := by
  rw [daysInMonth.eq_def]
  repeat' split
  all_goals decide

end Datetime

/-- The first timestamp there is. -/
def datetimeMin : Datetime :=
  { year := 1
    month := 1
    day := 1
    hour := 0
    minute := 0
    second := 0
    microsecond := 0
    valid := by decide }

/-- The `width` low decimal digits of a number. -/
def decimalDigits : Nat → Nat → Text
  | 0, _ => []
  | width + 1, value => Nat.digitChar (value / 10 ^ width % 10) :: decimalDigits width value

/-- Read decimal digits, after what was read before. -/
def readDecimal (read : Nat) : Nat → Text → Option (Nat × Text)
  | 0, text => some (read, text)
  | _ + 1, [] => none
  | width + 1, c :: text =>
      if '0' ≤ c ∧ c ≤ '9' then readDecimal (read * 10 + (c.toNat - '0'.toNat)) width text
      else none

theorem readDecimal_decimalDigits (read width value : Nat) (rest : Text) :
    readDecimal read width (decimalDigits width value ++ rest) =
      some (read * 10 ^ width + value % 10 ^ width, rest) := by
  induction width generalizing read with
  | zero => simp [decimalDigits, readDecimal, Nat.mod_one]
  | succ width induction =>
      have digits : ∀ digit < 10, ('0' ≤ Nat.digitChar digit ∧ Nat.digitChar digit ≤ '9') ∧
          (Nat.digitChar digit).toNat - '0'.toNat = digit := by decide
      obtain ⟨isDigit, same⟩ := digits (value / 10 ^ width % 10) (Nat.mod_lt _ (by decide))
      rw [decimalDigits, List.cons_append, readDecimal, if_pos isDigit, same, induction,
        Nat.pow_succ, Nat.mod_mul]
      congr 2
      ring

def readChar (expected : Char) : Text → Option Text
  | [] => none
  | c :: text => if c = expected then some text else none

/-- `datetime.isoformat` of a timestamp in UTC. -/
def isoformat (datetime : Datetime) : Text :=
  decimalDigits 4 datetime.year ++ '-' :: decimalDigits 2 datetime.month ++
    '-' :: decimalDigits 2 datetime.day ++ 'T' :: decimalDigits 2 datetime.hour ++
    ':' :: decimalDigits 2 datetime.minute ++ ':' :: decimalDigits 2 datetime.second ++
    (if datetime.microsecond = 0 then [] else '.' :: decimalDigits 6 datetime.microsecond) ++
    "+00:00".toList

def readMicrosecond : Text → Option (Nat × Text)
  | '.' :: text => readDecimal 0 6 text
  | text => some (0, text)

/-- What `datetime.fromisoformat` makes of the form that `isoformat` writes. -/
def fromisoformat (text : Text) : Option Datetime := do
  let (year, text) ← readDecimal 0 4 text
  let (month, text) ← readDecimal 0 2 (← readChar '-' text)
  let (day, text) ← readDecimal 0 2 (← readChar '-' text)
  let (hour, text) ← readDecimal 0 2 (← readChar 'T' text)
  let (minute, text) ← readDecimal 0 2 (← readChar ':' text)
  let (second, text) ← readDecimal 0 2 (← readChar ':' text)
  let (microsecond, text) ← readMicrosecond text
  let fields : DatetimeFields := ⟨year, month, day, hour, minute, second, microsecond⟩
  if valid : text = "+00:00".toList ∧ fields.Valid then some ⟨fields, valid.2⟩ else none

theorem readDecimal_field {width value : Nat} (bound : value < 10 ^ width) (rest : Text) :
    readDecimal 0 width (decimalDigits width value ++ rest) = some (value, rest) := by
  rw [readDecimal_decimalDigits, Nat.zero_mul, Nat.zero_add, Nat.mod_eq_of_lt bound]

@[simp] theorem readChar_cons (c : Char) (text : Text) : readChar c (c :: text) = some text :=
  if_pos rfl

theorem fromisoformat_isoformat (datetime : Datetime) :
    fromisoformat (isoformat datetime) = some datetime := by
  have days := Datetime.daysInMonth_le datetime.year datetime.month
  obtain ⟨⟨_, year⟩, ⟨_, month⟩, ⟨_, day⟩, hour, minute, second, micro⟩ := datetime.valid
  have readYear := readDecimal_field (show datetime.year < 10 ^ 4 by omega)
  have readMonth := readDecimal_field (show datetime.month < 10 ^ 2 by omega)
  have readDay := readDecimal_field (show datetime.day < 10 ^ 2 by omega)
  have readHour := readDecimal_field (show datetime.hour < 10 ^ 2 by omega)
  have readMinute := readDecimal_field (show datetime.minute < 10 ^ 2 by omega)
  have readSecond := readDecimal_field (show datetime.second < 10 ^ 2 by omega)
  have fraction : readMicrosecond
      ((if datetime.microsecond = 0 then [] else '.' :: decimalDigits 6 datetime.microsecond) ++
        "+00:00".toList) = some (datetime.microsecond, "+00:00".toList) := by
    split
    · rename_i whole
      rw [whole]
      rfl
    · exact readDecimal_field micro _
  simp only [isoformat, List.append_assoc, List.cons_append]
  apply Option.bind_eq_some_iff.mpr ⟨_, readYear _, ?_⟩
  apply Option.bind_eq_some_iff.mpr ⟨_, readChar_cons _ _, ?_⟩
  apply Option.bind_eq_some_iff.mpr ⟨_, readMonth _, ?_⟩
  apply Option.bind_eq_some_iff.mpr ⟨_, readChar_cons _ _, ?_⟩
  apply Option.bind_eq_some_iff.mpr ⟨_, readDay _, ?_⟩
  apply Option.bind_eq_some_iff.mpr ⟨_, readChar_cons _ _, ?_⟩
  apply Option.bind_eq_some_iff.mpr ⟨_, readHour _, ?_⟩
  apply Option.bind_eq_some_iff.mpr ⟨_, readChar_cons _ _, ?_⟩
  apply Option.bind_eq_some_iff.mpr ⟨_, readMinute _, ?_⟩
  apply Option.bind_eq_some_iff.mpr ⟨_, readChar_cons _ _, ?_⟩
  apply Option.bind_eq_some_iff.mpr ⟨_, readSecond _, ?_⟩
  apply Option.bind_eq_some_iff.mpr ⟨_, fraction, ?_⟩
  exact dif_pos ⟨rfl, datetime.valid⟩
end OpenZync.Repositories
