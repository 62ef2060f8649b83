import Mathlib.Algebra.Group.Nat.Defs
import Mathlib.Data.Char
import Mathlib.Data.List.DropRight
import Mathlib.Data.List.Lex
import Mathlib.Data.List.Sort

/-!
# Text, identifiers and instants

Python strings are lists of characters.  Lower-casing is the one primitive
the fact pipeline takes from two places that need not agree: `str.lower` of
the Python runtime and `lower()` of the database, whose result depends on the
locale of the deployment.  Both are fields of `Casing`, so every theorem below
holds for every pair of Unicode tables; the laws record the part of them that
both documentations fix.
-/

namespace OpenZync

/-- A Python `str`, as its code points. -/
abbrev Text := List Char

/-- A UUID, as the number it encodes. -/
abbrev Uuid := Nat

/-- A timezone-aware instant, in microseconds. -/
abbrev Time := Int

/-- The two lower-casing functions a fact meets on its way into the store. -/
structure Casing where
  /-- `str.lower` of the Python runtime. -/
  lower : Text → Text
  /-- `lower()` of the PostgreSQL deployment. -/
  sqlLower : Text → Text
  lower_ascii : ∀ text : Text, (∀ c ∈ text, c.toNat < 128) →
    lower text = text.map Char.toLower
  sqlLower_ascii : ∀ text : Text, (∀ c ∈ text, c.toNat < 128) →
    sqlLower text = text.map Char.toLower

/-- The casing of a deployment in the `C` locale reading ASCII input. -/
def Casing.ascii : Casing :=
  { lower := List.map Char.toLower
    sqlLower := List.map Char.toLower
    lower_ascii := fun _ _ => rfl
    sqlLower_ascii := fun _ _ => rfl }

namespace Text

/-- `str.isspace` of one character, which is also what `\s` matches. -/
def isSpace (c : Char) : Bool :=
  (0x09 ≤ c.toNat && c.toNat ≤ 0x0D) || (0x1C ≤ c.toNat && c.toNat ≤ 0x20) ||
    c.toNat == 0x85 || c.toNat == 0xA0 || c.toNat == 0x1680 ||
    (0x2000 ≤ c.toNat && c.toNat ≤ 0x200A) || c.toNat == 0x2028 ||
    c.toNat == 0x2029 || c.toNat == 0x202F || c.toNat == 0x205F ||
    c.toNat == 0x3000

/-- `str.strip` without arguments. -/
def strip (text : Text) : Text :=
  ((text.dropWhile isSpace).reverse.dropWhile isSpace).reverse

@[simp] theorem strip_strip (text : Text) : strip (strip text) = strip text := by
  have leading : (strip text).dropWhile isSpace = strip text := by
    rw [List.dropWhile_eq_self_iff]
    intro nonempty
    have kept : strip text <+: text.dropWhile isSpace := List.rdropWhile_prefix _ _
    rw [kept.getElem nonempty]
    exact List.dropWhile_get_zero_not isSpace text (nonempty.trans_le kept.length_le)
  calc strip (strip text) = ((strip text).dropWhile isSpace).rdropWhile isSpace := rfl
    _ = (strip text).rdropWhile isSpace := by rw [leading]
    _ = strip text := List.rdropWhile_idempotent _ _

theorem mem_of_mem_strip {text : Text} {c : Char} (member : c ∈ strip text) : c ∈ text := by
  rw [strip, List.mem_reverse] at member
  have inner := (List.dropWhile_suffix isSpace).subset member
  exact (List.dropWhile_suffix isSpace).subset (List.mem_reverse.mp inner)

theorem isSpace_toNat {c : Char} (space : isSpace c = true) :
    c.toNat ≤ 0x20 ∨ c.toNat = 0x85 ∨ c.toNat = 0xA0 ∨ 0x1680 ≤ c.toNat ∧ c.toNat ≤ 0x3000 := by
  simp only [isSpace, Bool.or_eq_true, Bool.and_eq_true, decide_eq_true_eq,
    beq_iff_eq] at space
  omega

theorem toLower_of_isSpace {c : Char} (space : isSpace c = true) : c.toLower = c := by
  have bounds := isSpace_toNat space
  unfold Char.toLower
  split
  · rename_i upper
    have low : 65 ≤ c.toNat := upper.1
    have high : c.toNat ≤ 90 := upper.2
    omega
  · rfl

/-- One lower-case hexadecimal digit. -/
def hexDigit (digit : Nat) : Char :=
  Nat.digitChar (digit % 16)

/-- The `width` low hexadecimal digits of a number, most significant first. -/
def hexDigits : Nat → Nat → Text
  | 0, _ => []
  | width + 1, value => hexDigit (value / 16 ^ width) :: hexDigits width value

/-- `str(uuid)`: 32 hexadecimal digits in groups of 8, 4, 4, 4 and 12. -/
def ofUuid (uuid : Uuid) : Text :=
  hexDigits 8 (uuid / 16 ^ 24) ++ '-' :: hexDigits 4 (uuid / 16 ^ 20) ++
    '-' :: hexDigits 4 (uuid / 16 ^ 16) ++ '-' :: hexDigits 4 (uuid / 16 ^ 12) ++
    '-' :: hexDigits 12 uuid

theorem hexDigit_inj {first second : Nat} (same : hexDigit first = hexDigit second) :
    first % 16 = second % 16 := by
  have distinct : ∀ left < 16, ∀ right < 16,
      Nat.digitChar left = Nat.digitChar right → left = right := by
    decide
  exact distinct _ (Nat.mod_lt _ (by decide)) _ (Nat.mod_lt _ (by decide)) same

@[simp] theorem length_hexDigits (width value : Nat) :
    (hexDigits width value).length = width := by
  induction width with
  | zero => rfl
  | succ width induction => rw [hexDigits, List.length_cons, induction]

theorem hexDigits_inj {width first second : Nat}
    (same : hexDigits width first = hexDigits width second) :
    first % 16 ^ width = second % 16 ^ width := by
  induction width with
  | zero => simp [Nat.mod_one]
  | succ width induction =>
      rw [hexDigits, hexDigits, List.cons.injEq] at same
      have high := hexDigit_inj same.1
      have low := induction same.2
      rw [Nat.pow_succ, Nat.mod_mul, Nat.mod_mul, high, low]

/-- Two UUIDs of 128 bits with one text are the same. -/
theorem ofUuid_inj {first second : Uuid} (firstBound : first < 2 ^ 128)
    (secondBound : second < 2 ^ 128) (same : ofUuid first = ofUuid second) :
    first = second := by
  simp only [ofUuid, List.append_assoc, List.cons_append] at same
  obtain ⟨group1, same⟩ := List.append_inj same (by simp)
  obtain ⟨group2, same⟩ := List.append_inj (List.cons.inj same).2 (by simp)
  obtain ⟨group3, same⟩ := List.append_inj (List.cons.inj same).2 (by simp)
  obtain ⟨group4, same⟩ := List.append_inj (List.cons.inj same).2 (by simp)
  have digits1 := hexDigits_inj group1
  have digits2 := hexDigits_inj group2
  have digits3 := hexDigits_inj group3
  have digits4 := hexDigits_inj group4
  have digits5 := hexDigits_inj (List.cons.inj same).2
  simp only [Uuid] at *
  omega

theorem hexDigit_ne_colon (digit : Nat) : hexDigit digit ≠ ':' := by
  have digits : ∀ low < 16, Nat.digitChar low ≠ ':' := by decide
  exact digits (digit % 16) (Nat.mod_lt _ (by decide))

theorem hexDigits_colonFree (width value : Nat) : ':' ∉ hexDigits width value := by
  induction width with
  | zero => simp [hexDigits]
  | succ width induction =>
      rw [hexDigits, List.mem_cons, not_or]
      exact ⟨(hexDigit_ne_colon _).symm, induction⟩

theorem ofUuid_colonFree (id : Uuid) : ':' ∉ ofUuid id := by
  simp [ofUuid, hexDigits_colonFree]

end Text

end OpenZync
