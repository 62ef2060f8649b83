import Mathlib.Tactic.Ring
import OpenZync.Text

/-!
# The text of a cursor

The string methods that take a cursor apart, and the hexadecimal form of an
identifier with its reader, which takes whatever `int` reads in base 16.
-/

namespace OpenZync.Text

/-- `str.partition` with one character: before, the separator, after. -/
def partition (separator : Char) (text : Text) : Text × Text × Text :=
  match text.dropWhile (· ≠ separator) with
  | [] => (text, [], [])
  | c :: rest => (text.takeWhile (· ≠ separator), [c], rest)

/-- `str.rpartition` with one character. -/
def rpartition (separator : Char) (text : Text) : Text × Text × Text :=
  match text.reverse.dropWhile (· ≠ separator) with
  | [] => ([], [], text)
  | c :: rest => (rest.reverse, [c], (text.reverse.takeWhile (· ≠ separator)).reverse)

/-- `str.rstrip` of one character. -/
def rstrip (c : Char) (text : Text) : Text :=
  (text.reverse.dropWhile (· = c)).reverse

/-- `text.replace(old, "")`, passing over the rest of an occurrence. -/
def removeFrom (old : Text) : Nat → Text → Text
  | _, [] => []
  | skip + 1, _ :: text => removeFrom old skip text
  | 0, c :: text =>
      if old.isPrefixOf (c :: text) then removeFrom old (old.length - 1) text
      else c :: removeFrom old 0 text

def remove (old text : Text) : Text :=
  removeFrom old 0 text

section Separators

variable {separator : Char} {before after : Text}

theorem dropWhile_separator (absent : separator ∉ before) :
    (before ++ separator :: after).dropWhile (· ≠ separator) = separator :: after := by
  rw [List.dropWhile_append_of_pos]
  · exact List.dropWhile_cons_of_neg (by simp)
  · intro c member
    exact decide_eq_true fun same => absent (same ▸ member)

theorem takeWhile_separator (absent : separator ∉ before) :
    (before ++ separator :: after).takeWhile (· ≠ separator) = before := by
  rw [List.takeWhile_append_of_pos, List.takeWhile_cons_of_neg (by simp), List.append_nil]
  intro c member
  exact decide_eq_true fun same => absent (same ▸ member)

theorem partition_append (absent : separator ∉ before) (after : Text) :
    partition separator (before ++ separator :: after) = (before, [separator], after) := by
  rw [partition, dropWhile_separator absent, takeWhile_separator absent]

theorem rpartition_append (absent : separator ∉ after) (before : Text) :
    rpartition separator (before ++ separator :: after) = (before, [separator], after) := by
  have reversed : (before ++ separator :: after).reverse =
      after.reverse ++ separator :: before.reverse := by simp
  have absent' : separator ∉ after.reverse := by simpa using absent
  rw [rpartition, reversed, dropWhile_separator absent', takeWhile_separator absent']
  simp only [List.reverse_reverse]

theorem remove_of_absent {old : Text} {text : Text} {c : Char} (needed : c ∈ old)
    (absent : c ∉ text) : remove old text = text := by
  induction text with
  | nil => rfl
  | cons d text induction =>
      rw [List.mem_cons, not_or] at absent
      have nowhere : ¬ old.isPrefixOf (d :: text) = true := by
        intro found
        have inside := (List.isPrefixOf_iff_prefix.mp found).subset needed
        rcases List.mem_cons.mp inside with same | later
        · exact absent.1 same
        · exact absent.2 later
      rw [remove, removeFrom, if_neg nowhere]
      exact congrArg (d :: ·) (induction absent.2)

end Separators

/-- The characters of a hexadecimal number. -/
theorem mem_hexDigits {width value : Nat} {c : Char} (member : c ∈ hexDigits width value) :
    ∃ digit < 16, c = Nat.digitChar digit := by
  induction width with
  | zero => cases member
  | succ width induction =>
      rw [hexDigits, List.mem_cons] at member
      rcases member with rfl | later
      · exact ⟨_, Nat.mod_lt _ (by decide), rfl⟩
      · exact induction later

theorem notMem_hexDigits {c : Char} (apart : ∀ digit < 16, c ≠ Nat.digitChar digit)
    (width value : Nat) : c ∉ hexDigits width value := by
  intro member
  obtain ⟨digit, small, same⟩ := mem_hexDigits member
  exact apart digit small same

theorem hexDigits_add (high low value : Nat) :
    hexDigits (high + low) value = hexDigits high (value / 16 ^ low) ++ hexDigits low value := by
  induction high with
  | zero => rw [Nat.zero_add]; rfl
  | succ high induction =>
      rw [Nat.succ_add, hexDigits, hexDigits, induction, List.cons_append, Nat.div_div_eq_div_mul,
        ← Nat.pow_add, Nat.add_comm low high]

/-- The zeros of the decimal digits of Unicode 14.0; the nine other digits of a
script stand behind its zero. -/
def decimalZeros : List Nat :=
  [0x30, 0x660, 0x6F0, 0x7C0, 0x966, 0x9E6, 0xA66, 0xAE6, 0xB66, 0xBE6, 0xC66, 0xCE6, 0xD66,
    0xDE6, 0xE50, 0xED0, 0xF20, 0x1040, 0x1090, 0x17E0, 0x1810, 0x1946, 0x19D0, 0x1A80, 0x1A90,
    0x1B50, 0x1BB0, 0x1C40, 0x1C50, 0xA620, 0xA8D0, 0xA900, 0xA9D0, 0xA9F0, 0xAA50, 0xABF0,
    0xFF10, 0x104A0, 0x10D30, 0x11066, 0x110F0, 0x11136, 0x111D0, 0x112F0, 0x11450, 0x114D0,
    0x11650, 0x116C0, 0x11730, 0x118E0, 0x11950, 0x11C50, 0x11D50, 0x11DA0, 0x16A60, 0x16AC0,
    0x16B50, 0x1D7CE, 0x1D7D8, 0x1D7E2, 0x1D7EC, 0x1D7F6, 0x1E140, 0x1E2F0, 0x1E950, 0x1FBF0]

/-- `unicodedata.decimal` -/
def decimal? (c : Char) : Option Nat :=
  (decimalZeros.find? fun first => first ≤ c.toNat && c.toNat < first + 10).map (c.toNat - ·)

/-- The ASCII character that `int` reads for a character: a blank for the white
space beyond ASCII, and the digit for the decimal digits of other scripts. -/
def asciiOf (c : Char) : Char :=
  if c.toNat < 127 then c
  else if isSpace c then ' '
  else
    match decimal? c with
    | some digit => Nat.digitChar digit
    | none => '?'

/-- The white space that `int` passes over, which leaves out the separators of
files, groups, records and units. -/
def isBlank (c : Char) : Bool :=
  (0x09 ≤ c.toNat && c.toNat ≤ 0x0D) || c.toNat == 0x20

/-- The value of a hexadecimal digit of either case. -/
def hexValue? (c : Char) : Option Nat :=
  if '0' ≤ c ∧ c ≤ '9' then some (c.toNat - '0'.toNat)
  else if 'a' ≤ c ∧ c ≤ 'f' then some (c.toNat - 'a'.toNat + 10)
  else if 'A' ≤ c ∧ c ≤ 'F' then some (c.toNat - 'A'.toNat + 10)
  else none

/-- The value of a digit that a base up to 16 has. -/
def digitValue? (base : Nat) (c : Char) : Option Nat :=
  (hexValue? c).filter (· < base)

/-- The digits behind a first one, with at most one underscore before each. -/
def readDigits (base read : Nat) : Text → Option Nat
  | [] => some read
  | '_' :: c :: text =>
      (digitValue? base c).bind fun digit => readDigits base (read * base + digit) text
  | c :: text =>
      (digitValue? base c).bind fun digit => readDigits base (read * base + digit) text

/-- A number begins with a digit. -/
def readNumber (base : Nat) : Text → Option Nat
  | [] => none
  | c :: text => (digitValue? base c).bind fun digit => readDigits base digit text

/-- The prefix that base 16 may have, and the underscore that may follow it. -/
def skipHexPrefix : Text → Text
  | '0' :: c :: text =>
      if c = 'x' ∨ c = 'X' then
        match text with
        | '_' :: text => text
        | text => text
      else '0' :: c :: text
  | text => text

/-- The digits of a number behind its sign. -/
def readUnsigned (base : Nat) (text : Text) : Option Nat :=
  readNumber base (if base = 16 then skipHexPrefix text else text)

/-- A sign and the digits behind it. -/
def readSigned (base : Nat) : Text → Option Int
  | '-' :: text => (readUnsigned base text).map fun value => -(value : Int)
  | '+' :: text => (readUnsigned base text).map Int.ofNat
  | text => (readUnsigned base text).map Int.ofNat

/-- `int(text, base)` for base 10 and base 16. -/
def readInteger (base : Nat) (text : Text) : Option Int :=
  readSigned base (((text.map asciiOf).dropWhile isBlank).rdropWhile isBlank)

theorem dropWhile_of_absent {p : Char → Bool} {text : Text} (absent : ∀ c ∈ text, p c = false) :
    text.dropWhile p = text := by
  cases text with
  | nil => rfl
  | cons c text =>
      exact List.dropWhile_cons_of_neg (by simp [absent c List.mem_cons_self])

theorem readInteger_of_visible {text : Text}
    (visible : ∀ c ∈ text, asciiOf c = c ∧ isBlank c = false) (base : Nat) :
    readInteger base text = readSigned base text := by
  have ascii : text.map asciiOf = text := by
    conv_rhs => rw [← List.map_id text]
    exact List.map_congr_left fun c member => (visible c member).1
  have first : text.dropWhile isBlank = text :=
    dropWhile_of_absent fun c member => (visible c member).2
  have last : text.rdropWhile isBlank = text := by
    rw [List.rdropWhile, dropWhile_of_absent, List.reverse_reverse]
    exact fun c member => (visible c (List.mem_reverse.mp member)).2
  rw [readInteger, ascii, first, last]

/-- Digits of a base, at least one, and nothing else. -/
def PlainDigits (base : Nat) (text : Text) : Prop :=
  text ≠ [] ∧ ∀ c ∈ text, ∃ digit < base, c = Nat.digitChar digit

theorem digitChar_visible : ∀ digit < 16,
    asciiOf (Nat.digitChar digit) = Nat.digitChar digit ∧
      isBlank (Nat.digitChar digit) = false := by
  decide

theorem digitChar_bare : ∀ digit < 16, Nat.digitChar digit ∉ ['-', '+', '_', 'x', 'X'] := by
  decide

theorem digitValue?_digitChar {base digit : Nat} (small : base ≤ 16) (below : digit < base) :
    digitValue? base (Nat.digitChar digit) = some digit := by
  have valued : ∀ digit < 16, hexValue? (Nat.digitChar digit) = some digit := by decide
  rw [digitValue?, valued digit (below.trans_le small), Option.filter_some,
    if_pos (decide_eq_true below)]

theorem readDigits_digitChar {base digit : Nat} (small : base ≤ 16) (below : digit < base)
    (read : Nat) (text : Text) :
    readDigits base read (Nat.digitChar digit :: text) =
      readDigits base (read * base + digit) text := by
  have valued := digitValue?_digitChar small below
  have bare := digitChar_bare digit (below.trans_le small)
  rw [readDigits.eq_def]
  split
  · rename_i same
    cases same
  · rename_i same
    rw [(List.cons.inj same).1] at bare
    exact absurd bare (by decide)
  · rename_i same
    obtain ⟨rfl, rfl⟩ := List.cons.inj same
    rw [valued, Option.bind_some]

section PlainDigits

variable {base : Nat} {text : Text}

theorem PlainDigits.visible (plain : PlainDigits base text) (small : base ≤ 16) :
    ∀ c ∈ text, asciiOf c = c ∧ isBlank c = false := by
  intro c member
  obtain ⟨digit, below, rfl⟩ := plain.2 c member
  exact digitChar_visible digit (below.trans_le small)

theorem PlainDigits.bare (plain : PlainDigits base text) (small : base ≤ 16) :
    ∀ c ∈ text, c ∉ ['-', '+', '_', 'x', 'X'] := by
  intro c member
  obtain ⟨digit, below, rfl⟩ := plain.2 c member
  exact digitChar_bare digit (below.trans_le small)

theorem PlainDigits.readUnsigned_eq (plain : PlainDigits base text) (small : base ≤ 16) :
    readUnsigned base text = readDigits base 0 text := by
  have bare := plain.bare small
  have unprefixed : skipHexPrefix text = text := by
    unfold skipHexPrefix
    split
    · rename_i c behind
      have bareSecond := bare c (by simp)
      rw [if_neg]
      rintro (rfl | rfl)
      · exact bareSecond (by decide)
      · exact bareSecond (by decide)
    · rfl
  rw [readUnsigned, unprefixed, ite_self]
  obtain ⟨present, digits⟩ := plain
  cases text with
  | nil => exact absurd rfl present
  | cons c text =>
      obtain ⟨digit, below, rfl⟩ := digits c List.mem_cons_self
      rw [readNumber, digitValue?_digitChar small below, readDigits_digitChar small below,
        Option.bind_some, Nat.zero_mul, Nat.zero_add]

theorem PlainDigits.readInteger_eq (plain : PlainDigits base text) (small : base ≤ 16) :
    readInteger base text = (readDigits base 0 text).map Int.ofNat := by
  have bare := plain.bare small
  rw [readInteger_of_visible (plain.visible small), ← plain.readUnsigned_eq small,
    readSigned.eq_def]
  split
  · exact absurd (bare '-' List.mem_cons_self) (by decide)
  · exact absurd (bare '+' List.mem_cons_self) (by decide)
  · rfl

theorem PlainDigits.readInteger_neg (plain : PlainDigits base text) (small : base ≤ 16) :
    readInteger base ('-' :: text) =
      (readDigits base 0 text).map fun value => -(value : Int) := by
  rw [readInteger_of_visible, readSigned, plain.readUnsigned_eq small]
  intro c member
  rcases List.mem_cons.mp member with rfl | inside
  · decide
  · exact plain.visible small c inside

end PlainDigits

theorem readDigits_hexDigits (read width value : Nat) :
    readDigits 16 read (hexDigits width value) =
      some (read * 16 ^ width + value % 16 ^ width) := by
  induction width generalizing read with
  | zero => simp [hexDigits, readDigits, Nat.mod_one]
  | succ width induction =>
      have below : value / 16 ^ width % 16 < 16 := Nat.mod_lt _ (by decide)
      rw [hexDigits, hexDigit, readDigits_digitChar (Nat.le_refl 16) below, induction,
        Nat.pow_succ, Nat.mod_mul]
      congr 1
      ring

theorem readInteger_hexDigits (width value : Nat) :
    readInteger 16 (hexDigits (width + 1) value) =
      some ((value % 16 ^ (width + 1) : Nat) : Int) := by
  have plain : PlainDigits 16 (hexDigits (width + 1) value) :=
    ⟨List.cons_ne_nil _ _, fun _ member => mem_hexDigits member⟩
  rw [plain.readInteger_eq (Nat.le_refl 16), readDigits_hexDigits, Nat.zero_mul, Nat.zero_add]
  rfl

theorem readDigits_decimal {text : Text} (digits : ∀ c ∈ text, ∃ digit < 10, c = Nat.digitChar digit)
    (read : Nat) : readDigits 10 read text = some (Nat.ofDigitChars 10 text read) := by
  induction text generalizing read with
  | nil => simp [readDigits]
  | cons c text induction =>
      obtain ⟨digit, below, rfl⟩ := digits c List.mem_cons_self
      rw [readDigits_digitChar (by decide) below,
        induction fun c member => digits c (List.mem_cons_of_mem _ member),
        Nat.ofDigitChars_cons_digitChar_of_lt_ten below, Nat.mul_comm]

theorem plainDigits_toDigits (value : Nat) : PlainDigits 10 (Nat.toDigits 10 value) := by
  refine ⟨Nat.toDigits_ne_nil, ?_⟩
  intro c member
  have isDigit := Nat.isDigit_of_mem_toDigits (by decide) (by decide) member
  obtain ⟨low, high⟩ := Char.isDigit_iff_toNat.mp isDigit
  have spelled : ∀ digit < 10, Char.ofNat ('0'.toNat + digit) = Nat.digitChar digit := by decide
  have bound : c.toNat - '0'.toNat < 10 := by
    change c.toNat ≤ 57 at high
    change c.toNat - 48 < 10
    omega
  refine ⟨c.toNat - '0'.toNat, bound, ?_⟩
  rw [← spelled _ bound, Nat.add_sub_cancel' low, Char.ofNat_toNat]

/-- `str` of a number is read back. -/
theorem readDigits_toDigits (value : Nat) :
    readDigits 10 0 (Nat.toDigits 10 value) = some value := by
  rw [readDigits_decimal (plainDigits_toDigits value).2, Nat.ofDigitChars_ten_toDigits]

/-- `UUID(hex=text)`: a URN, braces and hyphens are passed over, and what is left
is 32 characters that `int` reads in base 16. -/
def readUuid (text : Text) : Option Uuid :=
  let text := remove "uuid:".toList (remove "urn:".toList text)
  let isBrace : Char → Bool := fun c => c = '\x7b' ∨ c = '\x7d'
  let text := ((text.dropWhile isBrace).reverse.dropWhile isBrace).reverse
  let text := text.filter (· ≠ '-')
  if text.length = 32 then
    (readInteger 16 text).bind fun value =>
      if 0 ≤ value ∧ value < 2 ^ 128 then some value.toNat else none
  else none

theorem readUuid_of_filter {text : Text} {uuid : Uuid} (bound : uuid < 2 ^ 128)
    (digits : text.filter (· ≠ '-') = hexDigits 32 uuid) : readUuid text = some uuid := by
  have plain : ∀ c ∈ text, c = '-' ∨ ∃ digit < 16, c = Nat.digitChar digit := by
    intro c member
    by_cases hyphen : c = '-'
    · exact Or.inl hyphen
    · right
      apply mem_hexDigits
      rw [← digits]
      exact List.mem_filter.mpr ⟨member, decide_eq_true hyphen⟩
  have without : ∀ c, c ≠ '-' → (∀ digit < 16, c ≠ Nat.digitChar digit) → c ∉ text := by
    intro c hyphen apart member
    rcases plain c member with same | ⟨digit, small, same⟩
    · exact hyphen same
    · exact apart digit small same
  have colon : ':' ∉ text := without ':' (by decide) (by decide)
  have unbraced : ∀ c ∈ text, decide (c = '\x7b' ∨ c = '\x7d') = false := by
    intro c member
    rw [decide_eq_false_iff_not]
    rintro (rfl | rfl)
    · exact without _ (by decide) (by decide) member
    · exact without _ (by decide) (by decide) member
  have reversed : ∀ c ∈ text.reverse, decide (c = '\x7b' ∨ c = '\x7d') = false := by
    intro c member
    exact unbraced c (List.mem_reverse.mp member)
  simp only [readUuid]
  rw [remove_of_absent (by decide : ':' ∈ "urn:".toList) colon,
    remove_of_absent (by decide : ':' ∈ "uuid:".toList) colon, dropWhile_of_absent unbraced,
    dropWhile_of_absent reversed, List.reverse_reverse, digits, length_hexDigits, if_pos rfl,
    readInteger_hexDigits 31 uuid, Option.bind_some,
    Nat.mod_eq_of_lt (show uuid < 16 ^ 32 from bound), if_pos]
  · rfl
  · exact ⟨Int.natCast_nonneg uuid, by exact_mod_cast bound⟩

theorem readUuid_hexDigits {uuid : Uuid} (bound : uuid < 2 ^ 128) :
    readUuid (hexDigits 32 uuid) = some uuid := by
  have unhyphened : '-' ∉ hexDigits 32 uuid := notMem_hexDigits (by decide) 32 uuid
  apply readUuid_of_filter bound
  rw [List.filter_eq_self]
  intro c member
  exact decide_eq_true fun same => unhyphened (same ▸ member)

end OpenZync.Text
