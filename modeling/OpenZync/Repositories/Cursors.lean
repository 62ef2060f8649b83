import OpenZync.Library.Base64Url
import OpenZync.Library.KeysetOrder
import OpenZync.Repositories.CursorText

/-!
# Page cursors

A cursor is the sort key, the direction, the value and the identifier of a
page's last row in one text, in base64 without padding.  What is written is
read back, whatever separators the value holds.
-/

namespace OpenZync.Repositories

open OpenZync.Library

/-- `SortDir` -/
abbrev SortDir := Direction

def SortDir.text : SortDir → Text
  | .asc => "asc".toList
  | .desc => "desc".toList

def SortDir.ofText (text : Text) : Option SortDir :=
  if text = "asc".toList then some .asc
  else if text = "desc".toList then some .desc
  else none

/-- `str.encode` in UTF-8. -/
def utf8Bytes (text : Text) : List UInt8 :=
  text.flatMap String.utf8EncodeChar

/-- `bytes.decode` of UTF-8. -/
def utf8Text (bytes : List UInt8) : Option Text :=
  (ByteArray.mk bytes.toArray).utf8Decode?.map Array.toList

theorem utf8Text_utf8Bytes (text : Text) : utf8Text (utf8Bytes text) = some text := by
  have bytes : ByteArray.mk (utf8Bytes text).toArray = text.utf8Encode := by
    apply ByteArray.ext
    rw [List.utf8Encode, utf8Bytes, List.data_toByteArray]
  rw [utf8Text, bytes, List.utf8Decode?_utf8Encode]
  rfl

def encodeCursor (value : Text) : Text :=
  Text.rstrip '=' (Base64Url.encode (utf8Bytes value))

def decodeCursor (cursor : Text) : Option Text :=
  let padding := 4 - cursor.length % 4
  let cursor := if padding ≠ 4 then cursor ++ List.replicate padding '=' else cursor
  (Base64Url.decode cursor).bind utf8Text

theorem rstrip_append_replicate {c : Char} {body : Text} (clean : ∀ d ∈ body, d ≠ c)
    (count : Nat) : Text.rstrip c (body ++ List.replicate count c) = body := by
  rw [Text.rstrip, List.reverse_append, List.reverse_replicate,
    List.dropWhile_append_of_pos (by simp), Text.dropWhile_of_absent, List.reverse_reverse]
  intro d member
  exact decide_eq_false (clean d (List.mem_reverse.mp member))

theorem decodeCursor_encodeCursor (value : Text) :
    decodeCursor (encodeCursor value) = some value := by
  obtain ⟨body, padded, clean⟩ := Base64Url.encode_padded (utf8Bytes value)
  have stripped : encodeCursor value = body := by
    rw [encodeCursor, padded, rstrip_append_replicate clean]
  have restored : (if 4 - body.length % 4 ≠ 4 then
      body ++ List.replicate (4 - body.length % 4) '=' else body) =
        Base64Url.encode (utf8Bytes value) := by
    rw [padded]
    split
    · rename_i unfilled
      have fill : (4 - body.length % 4) % 4 = 4 - body.length % 4 :=
        Nat.mod_eq_of_lt (by omega)
      rw [fill]
    · rename_i whole
      rw [Decidable.not_not.mp whole]
      simp
  simp only [decodeCursor, stripped]
  rw [restored, Base64Url.decode_encode, Option.bind_some, utf8Text_utf8Bytes]

/-- `CURSOR_VERSION` -/
def cursorVersion : Text :=
  "v1".toList

def encodeVersionedCursor (payload : Text) : Text :=
  encodeCursor (cursorVersion ++ ':' :: payload)

def decodeVersionedCursor (cursor : Text) : Option Text :=
  (decodeCursor cursor).bind fun raw =>
    let (version, sep, payload) := Text.partition ':' raw
    if sep = [] ∨ version ≠ cursorVersion ∨ payload = [] then none else some payload

theorem decodeVersionedCursor_encodeVersionedCursor {payload : Text} (present : payload ≠ []) :
    decodeVersionedCursor (encodeVersionedCursor payload) = some payload := by
  rw [decodeVersionedCursor, encodeVersionedCursor, decodeCursor_encodeCursor, Option.bind_some,
    Text.partition_append (by decide)]
  simp [present]

/-- `sort_by:sort_dir:value|id`, before the encoding. -/
def sortPayload (sortBy : Text) (sortDir : SortDir) (value idText : Text) : Text :=
  sortBy ++ ':' :: sortDir.text ++ ':' :: value ++ '|' :: idText

/-- What the repositories take from the text of a cursor: the sort key, the
direction, the value and the text of the identifier. -/
def splitPayload (raw : Text) : Option (Text × Text × Text × Text) :=
  let (beforeId, _, idHex) := Text.rpartition '|' raw
  let (sortBy, _, rest) := Text.partition ':' beforeId
  let (sortDir, _, value) := Text.partition ':' rest
  if sortBy = [] ∨ sortDir = [] ∨ idHex = [] then none
  else some (sortBy, sortDir, value, idHex)

theorem splitPayload_sortPayload {sortBy value idText : Text} {sortDir : SortDir}
    (plain : ':' ∉ sortBy) (named : sortBy ≠ []) (identified : idText ≠ [])
    (unbarred : '|' ∉ idText) :
    splitPayload (sortPayload sortBy sortDir value idText) =
      some (sortBy, sortDir.text, value, idText) := by
  have direction : ':' ∉ sortDir.text ∧ sortDir.text ≠ [] := by
    cases sortDir with
    | asc => decide
    | desc => decide
  rw [splitPayload, sortPayload, Text.rpartition_append unbarred]
  simp only [List.append_assoc, List.cons_append]
  rw [Text.partition_append plain, Text.partition_append direction.1]
  simp [named, identified, direction.2]

/-- `SessionRepository._encode_sort_cursor`, and `UserRepository._encode_cursor`
without the version. -/
def encodeSortCursor (sortBy : Text) (sortDir : SortDir) (value : Text) (rowId : Uuid)
    (versioned : Bool) : Text :=
  let payload := sortPayload sortBy sortDir value (Text.hexDigits 32 rowId)
  if versioned then encodeVersionedCursor payload else encodeCursor payload

/-- `SessionRepository._decode_sort_cursor`; nothing is read from a malformed
cursor. -/
def decodeSortCursor (cursor : Text) (versioned : Bool) :
    Option (Text × SortDir × Text × Uuid) := do
  let raw ← bif versioned then decodeVersionedCursor cursor else decodeCursor cursor
  let (sortBy, sortDir, value, idHex) ← splitPayload raw
  let sortDir ← SortDir.ofText sortDir
  let rowId ← Text.readUuid idHex
  some (sortBy, sortDir, value, rowId)

theorem ofText_text (sortDir : SortDir) : SortDir.ofText sortDir.text = some sortDir := by
  cases sortDir with
  | asc => rfl
  | desc => rfl

theorem decodeSortCursor_encodeSortCursor {sortBy value : Text} {sortDir : SortDir} {rowId : Uuid}
    (plain : ':' ∉ sortBy) (named : sortBy ≠ []) (bound : rowId < 2 ^ 128) (versioned : Bool) :
    decodeSortCursor (encodeSortCursor sortBy sortDir value rowId versioned) versioned =
      some (sortBy, sortDir, value, rowId) := by
  have unbarred : '|' ∉ Text.hexDigits 32 rowId := Text.notMem_hexDigits (by decide) 32 rowId
  have identified : Text.hexDigits 32 rowId ≠ [] := List.ne_nil_of_length_eq_add_one
    (Text.length_hexDigits 32 rowId)
  have raw : (bif versioned then decodeVersionedCursor
        (encodeSortCursor sortBy sortDir value rowId versioned)
      else decodeCursor (encodeSortCursor sortBy sortDir value rowId versioned)) =
        some (sortPayload sortBy sortDir value (Text.hexDigits 32 rowId)) := by
    cases versioned with
    | false =>
        rw [cond_false, encodeSortCursor]
        exact decodeCursor_encodeCursor _
    | true =>
        apply decodeVersionedCursor_encodeVersionedCursor
        simp [sortPayload]
  rw [decodeSortCursor, raw]
  simp only [Option.bind_eq_bind, Option.bind_some,
    splitPayload_sortPayload plain named identified unbarred, ofText_text,
    Text.readUuid_hexDigits bound]

end OpenZync.Repositories
