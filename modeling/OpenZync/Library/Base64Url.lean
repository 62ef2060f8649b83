import Mathlib.Data.List.Basic
import Mathlib.Data.List.GetD

/-!
# Base64 with the URL-safe alphabet

Three bytes in four letters, padded at the end.  The reader skips what is no
letter, stops at a complete padding and keeps the bits that wait for the next
letter.
-/

namespace OpenZync.Library.Base64Url

def letters : List Char :=
  "ABCDEFGHIJKLMNOPQRSTUVWXYZabcdefghijklmnopqrstuvwxyz0123456789-_".toList

def letter (value : Nat) : Char :=
  letters.getD value 'A'

/-- The value of a letter; the letters of the standard alphabet are read too. -/
def value? (c : Char) : Option Nat :=
  if c = '+' then some 62
  else if c = '/' then some 63
  else letters.idxOf? c

/-- `base64.urlsafe_b64encode` -/
def encode : List UInt8 → List Char
  | [] => []
  | [first] => [letter (first.toNat / 4), letter (first.toNat % 4 * 16), '=', '=']
  | [first, second] =>
      [letter (first.toNat / 4), letter (first.toNat % 4 * 16 + second.toNat / 16),
        letter (second.toNat % 16 * 4), '=']
  | first :: second :: third :: bytes =>
      letter (first.toNat / 4) :: letter (first.toNat % 4 * 16 + second.toNat / 16) ::
        letter (second.toNat % 16 * 4 + third.toNat / 64) :: letter (third.toNat % 64) ::
          encode bytes

/-- How many letters of a group are read. -/
inductive Place where
  | start
  | one
  | two
  | three

/-- A padding character: the padding seen so far, or the end of the text. -/
def padStep : Place → Nat → Option Nat
  | .start, pads => some pads
  | .one, pads => some pads
  | .two, 0 => some 1
  | .two, _ + 1 => none
  | .three, _ => none

/-- A letter: the byte it completes, the next place and the bits left over. -/
def letterStep : Place → Nat → Nat → List UInt8 × Place × Nat
  | .start, _, value => ([], .one, value)
  | .one, left, value => ([UInt8.ofNat (left * 4 + value / 16)], .two, value % 16)
  | .two, left, value => ([UInt8.ofNat (left * 16 + value / 4)], .three, value % 4)
  | .three, left, value => ([UInt8.ofNat (left * 64 + value)], .start, 0)

/-- Reads on from a place in a group, with the bits that are left over and the
padding seen so far. -/
def decodeFrom (place : Place) (left pads : Nat) : List Char → Option (List UInt8)
  | [] =>
      match place with
      | .start => some []
      | _ => none
  | c :: text =>
      if c = '=' then
        match padStep place pads with
        | none => some []
        | some pads => decodeFrom place left pads text
      else
        match value? c with
        | none => decodeFrom place left pads text
        | some value =>
            let (bytes, place, left) := letterStep place left value
            (decodeFrom place left 0 text).map (bytes ++ ·)

/-- `base64.urlsafe_b64decode` -/
def decode (text : List Char) : Option (List UInt8) :=
  decodeFrom .start 0 0 text

theorem letter_mem (value : Nat) : letter value ∈ letters := by
  unfold letter
  by_cases inside : value < letters.length
  · rw [List.getD_eq_getElem _ _ inside]
    exact List.getElem_mem inside
  · rw [List.getD_eq_default _ _ (Nat.le_of_not_lt inside)]
    decide

theorem letter_ne_pad (value : Nat) : letter value ≠ '=' := by
  have pad : '=' ∉ letters := by decide
  exact fun same => pad (same ▸ letter_mem value)

theorem value?_letter {value : Nat} (small : value < 64) :
    value? (letter value) = some value := by
  have all : ∀ value < 64, value? (letter value) = some value := by decide +kernel
  exact all value small

theorem decodeFrom_letter {place : Place} {left pads value : Nat} {text : List Char}
    (small : value < 64) :
    decodeFrom place left pads (letter value :: text) =
      (decodeFrom (letterStep place left value).2.1 (letterStep place left value).2.2 0
        text).map ((letterStep place left value).1 ++ ·) := by
  rw [decodeFrom, if_neg (letter_ne_pad value), value?_letter small]

/-- A byte is put together from its parts. -/
theorem ofNat_eq {byte : UInt8} {number : Nat} (same : number = byte.toNat) :
    UInt8.ofNat number = byte := by
  rw [same, UInt8.ofNat_toNat]

/-- A group of four letters is read as its three bytes. -/
theorem decodeFrom_group (first second third : UInt8) (text : List Char) :
    decodeFrom .start 0 0 (letter (first.toNat / 4) ::
        letter (first.toNat % 4 * 16 + second.toNat / 16) ::
        letter (second.toNat % 16 * 4 + third.toNat / 64) :: letter (third.toNat % 64) :: text) =
      (decodeFrom .start 0 0 text).map ([first, second, third] ++ ·) := by
  have bound := first.toNat_lt
  have bound' := second.toNat_lt
  have bound'' := third.toNat_lt
  have one : UInt8.ofNat (first.toNat / 4 * 4 +
      (first.toNat % 4 * 16 + second.toNat / 16) / 16) = first := ofNat_eq (by omega)
  have two : UInt8.ofNat ((first.toNat % 4 * 16 + second.toNat / 16) % 16 * 16 +
      (second.toNat % 16 * 4 + third.toNat / 64) / 4) = second := ofNat_eq (by omega)
  have three : UInt8.ofNat ((second.toNat % 16 * 4 + third.toNat / 64) % 4 * 64 +
      third.toNat % 64) = third := ofNat_eq (by omega)
  rw [decodeFrom_letter (by omega), letterStep, decodeFrom_letter (by omega), letterStep,
    decodeFrom_letter (by omega), letterStep, decodeFrom_letter (by omega), letterStep]
  simp only [one, two, three, Option.map_map]
  rfl

theorem decodeFrom_encode (bytes : List UInt8) :
    decodeFrom .start 0 0 (encode bytes) = some bytes := by
  induction bytes using encode.induct with
  | case1 => rfl
  | case2 first =>
      have bound := first.toNat_lt
      have one : UInt8.ofNat (first.toNat / 4 * 4 + first.toNat % 4 * 16 / 16) = first :=
        ofNat_eq (by omega)
      rw [encode, decodeFrom_letter (by omega), letterStep, decodeFrom_letter (by omega),
        letterStep]
      simp only [one]
      rfl
  | case3 first second =>
      have bound := first.toNat_lt
      have bound' := second.toNat_lt
      have one : UInt8.ofNat (first.toNat / 4 * 4 +
          (first.toNat % 4 * 16 + second.toNat / 16) / 16) = first := ofNat_eq (by omega)
      have two : UInt8.ofNat ((first.toNat % 4 * 16 + second.toNat / 16) % 16 * 16 +
          second.toNat % 16 * 4 / 4) = second := ofNat_eq (by omega)
      rw [encode, decodeFrom_letter (by omega), letterStep, decodeFrom_letter (by omega),
        letterStep, decodeFrom_letter (by omega), letterStep]
      simp only [one, two]
      rfl
  | case4 first second third bytes induction =>
      rw [encode, decodeFrom_group, induction]
      rfl

theorem decode_encode (bytes : List UInt8) : decode (encode bytes) = some bytes :=
  decodeFrom_encode bytes

/-- The padding is what fills the last group of four. -/
theorem encode_padded (bytes : List UInt8) :
    ∃ body, encode bytes = body ++ List.replicate ((4 - body.length % 4) % 4) '=' ∧
      ∀ c ∈ body, c ≠ '=' := by
  induction bytes using encode.induct with
  | case1 => exact ⟨[], rfl, by simp⟩
  | case2 first =>
      refine ⟨[letter (first.toNat / 4), letter (first.toNat % 4 * 16)], rfl, ?_⟩
      simp only [List.forall_mem_cons, List.not_mem_nil, false_implies, implies_true, and_true]
      exact ⟨letter_ne_pad _, letter_ne_pad _⟩
  | case3 first second =>
      refine ⟨[letter (first.toNat / 4), letter (first.toNat % 4 * 16 + second.toNat / 16),
        letter (second.toNat % 16 * 4)], rfl, ?_⟩
      simp only [List.forall_mem_cons, List.not_mem_nil, false_implies, implies_true, and_true]
      exact ⟨letter_ne_pad _, letter_ne_pad _, letter_ne_pad _⟩
  | case4 first second third bytes induction =>
      obtain ⟨body, padded, clean⟩ := induction
      refine ⟨letter (first.toNat / 4) :: letter (first.toNat % 4 * 16 + second.toNat / 16) ::
        letter (second.toNat % 16 * 4 + third.toNat / 64) :: letter (third.toNat % 64) :: body,
        ?_, ?_⟩
      · rw [encode, padded]
        simp only [List.length_cons, List.cons_append]
        congr 7
        omega
      · simp only [List.forall_mem_cons]
        exact ⟨letter_ne_pad _, letter_ne_pad _, letter_ne_pad _, letter_ne_pad _, clean⟩

section Standard

/-- A letter of the URL-safe alphabet in the standard one. -/
def standard (c : Char) : Char :=
  if c = '-' then '+' else if c = '_' then '/' else c

/-- `base64.b64encode` -/
def encodeStandard (bytes : List UInt8) : List Char :=
  (encode bytes).map standard

/-- `base64.b64decode` of a text, which has to be ASCII; the two letters of the
URL-safe alphabet are skipped. -/
def decodeStandard (text : List Char) : Option (List UInt8) :=
  if text.all fun c => c.toNat < 128 then
    decode (text.filter fun c => c ≠ '-' ∧ c ≠ '_')
  else none

theorem value?_standard (c : Char) : value? (standard c) = value? c := by
  unfold standard
  split
  · rename_i same
    rw [same]
    decide +kernel
  · split
    · rename_i same
      rw [same]
      decide +kernel
    · rfl

theorem standard_eq_pad {c : Char} : standard c = '=' ↔ c = '=' := by
  unfold standard
  split
  · rename_i same
    rw [same]
    decide
  · split
    · rename_i same
      rw [same]
      decide
    · rfl

/-- The reader takes both alphabets. -/
theorem decodeFrom_standard (place : Place) (left pads : Nat) (text : List Char) :
    decodeFrom place left pads (text.map standard) = decodeFrom place left pads text := by
  induction text generalizing place left pads with
  | nil => rfl
  | cons c text induction =>
      rw [List.map_cons, decodeFrom, decodeFrom, value?_standard]
      simp only [standard_eq_pad, induction]

theorem mem_encode {bytes : List UInt8} {c : Char} (member : c ∈ encode bytes) :
    c ∈ '=' :: letters := by
  induction bytes using encode.induct with
  | case1 => cases member
  | case2 first =>
      simp only [encode, List.mem_cons, List.not_mem_nil, or_false] at member
      rcases member with rfl | rfl | rfl | rfl <;> simp [letter_mem]
  | case3 first second =>
      simp only [encode, List.mem_cons, List.not_mem_nil, or_false] at member
      rcases member with rfl | rfl | rfl | rfl <;> simp [letter_mem]
  | case4 first second third bytes induction =>
      simp only [encode, List.mem_cons] at member
      rcases member with rfl | rfl | rfl | rfl | later
      · simp [letter_mem]
      · simp [letter_mem]
      · simp [letter_mem]
      · simp [letter_mem]
      · exact induction later

/-- A letter of the standard alphabet, or the pad, is ASCII and not skipped. -/
theorem standard_plain {c : Char} (small : c.toNat < 128) :
    (standard c).toNat < 128 ∧ standard c ≠ '-' ∧ standard c ≠ '_' := by
  unfold standard
  split
  · decide
  · rename_i hyphen
    split
    · decide
    · rename_i underscore
      exact ⟨small, hyphen, underscore⟩

theorem decodeStandard_encodeStandard (bytes : List UInt8) :
    decodeStandard (encodeStandard bytes) = some bytes := by
  have small : ('=' :: letters).all (fun c => decide (c.toNat < 128)) = true := by decide +kernel
  have plain : ∀ c ∈ '=' :: letters, (standard c).toNat < 128 ∧ standard c ≠ '-' ∧
      standard c ≠ '_' := by
    intro c member
    exact standard_plain (of_decide_eq_true (List.all_eq_true.mp small c member))
  have all : ∀ c ∈ encodeStandard bytes, c.toNat < 128 ∧ c ≠ '-' ∧ c ≠ '_' := by
    intro c member
    obtain ⟨origin, written, rfl⟩ := List.mem_map.mp member
    exact plain origin (mem_encode written)
  have ascii : (encodeStandard bytes).all (fun c => c.toNat < 128) = true := by
    rw [List.all_eq_true]
    intro c member
    exact decide_eq_true (all c member).1
  have kept : (encodeStandard bytes).filter (fun c => c ≠ '-' ∧ c ≠ '_') =
      encodeStandard bytes := by
    rw [List.filter_eq_self]
    intro c member
    exact decide_eq_true (all c member).2
  rw [decodeStandard, if_pos ascii, kept, encodeStandard, decode, decodeFrom_standard]
  exact decode_encode bytes

theorem encodeStandard_ne_nil {bytes : List UInt8} (present : bytes ≠ []) :
    encodeStandard bytes ≠ [] := by
  intro empty
  have read := decodeStandard_encodeStandard bytes
  rw [empty] at read
  exact present (Option.some.inj read).symm

end Standard

end OpenZync.Library.Base64Url
