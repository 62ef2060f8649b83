import Mathlib.Data.Char
import Mathlib.Data.List.Lex
import Mathlib.Data.List.Sort

/-!
# Compact JSON

Values as a dumper sees them, and their compact rendering with sorted keys.
Numbers come from an arbitrary type with an arbitrary rendering.
-/

namespace OpenZync.Library

universe u

/-- A JSON value; an object keeps its members in insertion order. -/
inductive Json (ν : Type u) where
  | null
  | bool (value : Bool)
  | number (value : ν)
  | string (value : List Char)
  | array (items : List (Json ν))
  | object (members : List (List Char × Json ν))

namespace Json

variable {ν : Type u}

/-- One character inside a string: the two-character escapes, then `\u00XX`
for the other control characters. -/
def escapeChar (c : Char) : List Char :=
  if c = '"' then ['\\', '"']
  else if c = '\\' then ['\\', '\\']
  else if c = '\x08' then ['\\', 'b']
  else if c = '\t' then ['\\', 't']
  else if c = '\n' then ['\\', 'n']
  else if c = '\x0c' then ['\\', 'f']
  else if c = '\r' then ['\\', 'r']
  else if c.toNat < 32 then
    ['\\', 'u', '0', '0', Nat.digitChar (c.toNat / 16), Nat.digitChar (c.toNat % 16)]
  else [c]

/-- Read what follows a backslash back. -/
def unescapeTail : List Char → Option (Char × List Char)
  | '"' :: rest => some ('"', rest)
  | '\\' :: rest => some ('\\', rest)
  | 'b' :: rest => some ('\x08', rest)
  | 't' :: rest => some ('\t', rest)
  | 'n' :: rest => some ('\n', rest)
  | 'f' :: rest => some ('\x0c', rest)
  | 'r' :: rest => some ('\r', rest)
  | 'u' :: '0' :: '0' :: high :: low :: rest =>
      ((List.range 32).find? fun code =>
        Nat.digitChar (code / 16) = high ∧ Nat.digitChar (code % 16) = low).map
          fun code => (Char.ofNat code, rest)
  | _ => none

/-- Read one escaped character back. -/
def unescapeChar : List Char → Option (Char × List Char)
  | [] => none
  | c :: rest => if c = '\\' then unescapeTail rest else some (c, rest)

theorem unescapeChar_escapeChar (c : Char) (rest : List Char) :
    unescapeChar (escapeChar c ++ rest) = some (c, rest) := by
  rw [escapeChar]
  split_ifs with quote backslash backspace tab newline formFeed carriage control
  · rw [quote]; rfl
  · rw [backslash]; rfl
  · rw [backspace]; rfl
  · rw [tab]; rfl
  · rw [newline]; rfl
  · rw [formFeed]; rfl
  · rw [carriage]; rfl
  · have found : ∀ code < 32, (List.range 32).find? (fun other =>
        Nat.digitChar (other / 16) = Nat.digitChar (code / 16) ∧
          Nat.digitChar (other % 16) = Nat.digitChar (code % 16)) = some code := by
      decide
    simp only [List.cons_append, List.nil_append, unescapeChar, if_true, unescapeTail]
    rw [found c.toNat control, Option.map_some, Char.ofNat_toNat]
  · simp [unescapeChar, backslash]

theorem escapeChar_ne_quote (c : Char) (rest later : List Char) :
    escapeChar c ++ rest ≠ '"' :: later := by
  intro same
  have read := unescapeChar_escapeChar c rest
  rw [same] at read
  have quote : c = '"' := by simpa [unescapeChar, eq_comm] using congrArg (Option.map Prod.fst) read
  rw [quote] at same
  simp [escapeChar] at same

def renderString (value : List Char) : List Char :=
  '"' :: value.flatMap escapeChar ++ ['"']

mutual

/-- Compact rendering, members in the order they are kept. -/
def render (literal : ν → List Char) : Json ν → List Char
  | .null => "null".toList
  | .bool true => "true".toList
  | .bool false => "false".toList
  | .number value => literal value
  | .string value => renderString value
  | .array [] => "[]".toList
  | .array (item :: items) => '[' :: render literal item ++ renderItems literal items
  | .object [] => "\x7b\x7d".toList
  | .object ((key, value) :: members) =>
      '\x7b' :: renderString key ++ ':' :: render literal value ++
        renderMembers literal members

/-- What follows the first item of an array. -/
def renderItems (literal : ν → List Char) : List (Json ν) → List Char
  | [] => [']']
  | item :: items => ',' :: render literal item ++ renderItems literal items

/-- What follows the first member of an object. -/
def renderMembers (literal : ν → List Char) : List (List Char × Json ν) → List Char
  | [] => ['\x7d']
  | (key, value) :: members =>
      ',' :: renderString key ++ ':' :: render literal value ++ renderMembers literal members

end

/-- A value that holds no number. -/
inductive NumberFree : Json ν → Prop where
  | null : NumberFree .null
  | bool (value : Bool) : NumberFree (.bool value)
  | string (value : List Char) : NumberFree (.string value)
  | array {items : List (Json ν)} (free : ∀ item ∈ items, NumberFree item) :
      NumberFree (.array items)
  | object {members : List (List Char × Json ν)}
      (free : ∀ member ∈ members, NumberFree member.2) : NumberFree (.object members)

mutual

/-- Order the members of every object by their keys. -/
def sortKeys : Json ν → Json ν
  | .null => .null
  | .bool value => .bool value
  | .number value => .number value
  | .string value => .string value
  | .array items => .array (sortItems items)
  | .object members =>
      .object ((sortMembers members).insertionSort fun first second => first.1 ≤ second.1)

def sortItems : List (Json ν) → List (Json ν)
  | [] => []
  | item :: items => sortKeys item :: sortItems items

def sortMembers : List (List Char × Json ν) → List (List Char × Json ν)
  | [] => []
  | (key, value) :: members => (key, sortKeys value) :: sortMembers members

end

/-- Compact rendering with sorted keys. -/
def dumps (literal : ν → List Char) (value : Json ν) : List Char :=
  render literal (sortKeys value)

end Json

end OpenZync.Library
