import OpenZync.Repositories.Cursors

/-!
# Two readers of page cursors

`core.cursor.decode_page_cursor` and the `Cursor` value object read the same
cursors in two modules.  What the value object writes is read back by both, and
no text is read by one and refused or read otherwise by the other.
-/

namespace OpenZync.Repositories

open OpenZync.Library

/-- What a reader of cursors raises. -/
inductive CursorError where
  | validationError
  | valueError
  deriving DecidableEq

/-- `decode_page_cursor` -/
def decodePageCursor (cursor : Text) : Except CursorError (Text × Text × Text × Uuid) :=
  match decodeCursor cursor with
  | none => .error .validationError
  | some raw =>
      let (beforeId, _, idHex) := Text.rpartition '|' raw
      let (sortBy, _, rest) := Text.partition ':' beforeId
      let (sortDir, _, value) := Text.partition ':' rest
      if sortBy = [] ∨ ¬ (sortDir = "asc".toList ∨ sortDir = "desc".toList) ∨ idHex = [] then
        .error .validationError
      else
        match Text.readUuid idHex with
        | none => .error .validationError
        | some tiebreakId => .ok (sortBy, sortDir, value, tiebreakId)

namespace ValueObjects

/-- `Cursor` -/
structure Cursor where
  sortBy : Text
  sortDir : Text
  value : Text
  tiebreakId : Uuid
  deriving DecidableEq

namespace Cursor

/-- `f"{sort_by}:{sort_dir}:{value}|{tiebreak_id.hex}"`. -/
def raw (cursor : Cursor) : Text :=
  cursor.sortBy ++ ':' :: cursor.sortDir ++ ':' :: cursor.value ++
    '|' :: Text.hexDigits 32 cursor.tiebreakId

/-- `Cursor.encode` -/
def encode (cursor : Cursor) : Text :=
  Text.rstrip '=' (Base64Url.encode (utf8Bytes cursor.raw))

end Cursor

/-- `decode_cursor` of the value object. -/
def decodeCursor (raw : Text) : Except CursorError Cursor :=
  let padding := 4 - raw.length % 4
  let padded := if padding ≠ 4 then raw ++ List.replicate padding '=' else raw
  match (Base64Url.decode padded).bind utf8Text with
  | none => .error .valueError
  | some decoded =>
      let (beforeId, _, idHex) := Text.rpartition '|' decoded
      let (sortBy, _, rest) := Text.partition ':' beforeId
      let (sortDir, _, value) := Text.partition ':' rest
      if sortBy = [] ∨ ¬ (sortDir = "asc".toList ∨ sortDir = "desc".toList) ∨ idHex = [] then
        .error .valueError
      else
        match Text.readUuid idHex with
        | none => .error .valueError
        | some tiebreakId => .ok ⟨sortBy, sortDir, value, tiebreakId⟩

namespace Cursor

/-- The cursor as the tuple `decode_page_cursor` returns. -/
def toTuple (cursor : Cursor) : Text × Text × Text × Uuid :=
  (cursor.sortBy, cursor.sortDir, cursor.value, cursor.tiebreakId)

theorem toTuple_injective : Function.Injective toTuple := by
  rintro ⟨sortBy, sortDir, value, tiebreakId⟩ ⟨sortBy', sortDir', value', tiebreakId'⟩ same
  cases same
  rfl

/-- The sort key is not empty and holds no colon, and the direction is one of the
two. -/
def Readable (cursor : Cursor) : Prop :=
  cursor.sortBy ≠ [] ∧ ':' ∉ cursor.sortBy ∧
    (cursor.sortDir = "asc".toList ∨ cursor.sortDir = "desc".toList)

instance : DecidablePred Readable :=
  fun _ => inferInstanceAs (Decidable (_ ∧ _ ∧ _))

end Cursor

/-- Both readers refuse a text, or both read it as one cursor. -/
def Agree (text : Text) : Prop :=
  (decodePageCursor text = .error .validationError ∧ decodeCursor text = .error .valueError) ∨
    ∃ cursor : Cursor, decodePageCursor text = .ok cursor.toTuple ∧
      decodeCursor text = .ok cursor

theorem readers_agree (text : Text) : Agree text := by
  unfold Agree decodePageCursor decodeCursor Repositories.decodeCursor
  dsimp only
  split
  · exact .inl ⟨rfl, rfl⟩
  · split
    · exact .inl ⟨rfl, rfl⟩
    · split
      · exact .inl ⟨rfl, rfl⟩
      · exact .inr ⟨_, rfl, rfl⟩

/-- What stands before the first separator does not hold it. -/
theorem notMem_partition (separator : Char) (text : Text) :
    separator ∉ (Text.partition separator text).1 := by
  have before : separator ∉ text.takeWhile (· ≠ separator) := by
    intro member
    simpa using List.mem_takeWhile_imp member
  unfold Text.partition
  split
  · rename_i nothing
    have whole := @List.takeWhile_append_dropWhile _ (· ≠ separator) text
    rw [nothing, List.append_nil] at whole
    rw [whole] at before
    exact before
  · exact before

theorem readable_of_decode {text : Text} {cursor : Cursor}
    (read : decodeCursor text = .ok cursor) : cursor.Readable := by
  unfold decodeCursor at read
  dsimp only at read
  split at read
  · cases read
  · split at read
    · cases read
    · rename_i sound
      split at read
      · cases read
      · cases read
        push Not at sound
        exact ⟨sound.1, notMem_partition ':' _, sound.2.1⟩

theorem decodePageCursor_encode {cursor : Cursor} (readable : cursor.Readable)
    (bound : cursor.tiebreakId < 2 ^ 128) :
    decodePageCursor cursor.encode = .ok cursor.toTuple := by
  obtain ⟨named, plain, direction⟩ := readable
  have directionPlain : ':' ∉ cursor.sortDir := by
    rcases direction with ascending | descending
    · rw [ascending]
      decide
    · rw [descending]
      decide
  have unbarred : '|' ∉ Text.hexDigits 32 cursor.tiebreakId :=
    Text.notMem_hexDigits (by decide) 32 _
  have identified : Text.hexDigits 32 cursor.tiebreakId ≠ [] :=
    List.ne_nil_of_length_eq_add_one (Text.length_hexDigits 32 _)
  have decoded : Repositories.decodeCursor cursor.encode = some cursor.raw :=
    decodeCursor_encodeCursor cursor.raw
  have beforeId : Text.rpartition '|' cursor.raw =
      (cursor.sortBy ++ ':' :: (cursor.sortDir ++ ':' :: cursor.value), ['|'],
        Text.hexDigits 32 cursor.tiebreakId) := by
    rw [Cursor.raw, Text.rpartition_append unbarred]
    simp
  simp only [decodePageCursor, decoded, beforeId, Text.partition_append plain,
    Text.partition_append directionPlain, named, identified, direction, not_true_eq_false,
    or_self, if_false, Text.readUuid_hexDigits bound]
  rfl

/-- The value object reads it back as well. -/
theorem decodeCursor_encode {cursor : Cursor} (readable : cursor.Readable)
    (bound : cursor.tiebreakId < 2 ^ 128) : decodeCursor cursor.encode = .ok cursor := by
  have core := decodePageCursor_encode readable bound
  rcases readers_agree cursor.encode with ⟨refused, _⟩ | ⟨other, read, readToo⟩
  · rw [core] at refused
    cases refused
  · rw [core] at read
    rw [readToo, Cursor.toTuple_injective (Except.ok.inj read)]

/-- The sort keys that the routers accept. -/
def sortFields : List Text :=
  ["external_id".toList, "name".toList, "email".toList, "created_at".toList, "updated_at".toList,
    "pinned_at".toList, "role".toList, "confidence".toList, "subject".toList,
    "valid_from".toList, "at_time".toList, "action".toList, "status_code".toList,
    "actor_id".toList, "last_used_at".toList, "entity_type".toList, "predicate".toList,
    "member_count".toList, "sequence_number".toList, "type".toList, "status".toList,
    "duration_ms".toList, "model".toList, "total_tokens".toList]

theorem sortFields_plain {sortBy : Text} (listed : sortBy ∈ sortFields) :
    sortBy ≠ [] ∧ ':' ∉ sortBy := by
  have all : ∀ sortBy ∈ sortFields, sortBy ≠ [] ∧ ':' ∉ sortBy := by decide
  exact all sortBy listed

theorem text_listed (sortDir : SortDir) :
    sortDir.text = "asc".toList ∨ sortDir.text = "desc".toList := by
  cases sortDir with
  | asc => exact Or.inl rfl
  | desc => exact Or.inr rfl

/-- A cursor of any sort key, direction, value and identifier is read back by
both readers; of the cursors with other sorts, those that are readable are; and
the readers agree on every text. -/
theorem pageCursors_read_back :
    (∀ sortBy ∈ sortFields, ∀ (sortDir : SortDir) (value : Text), ∀ tiebreakId < 2 ^ 128,
      decodePageCursor (Cursor.encode ⟨sortBy, sortDir.text, value, tiebreakId⟩) =
          .ok (sortBy, sortDir.text, value, tiebreakId) ∧
        decodeCursor (Cursor.encode ⟨sortBy, sortDir.text, value, tiebreakId⟩) =
          .ok ⟨sortBy, sortDir.text, value, tiebreakId⟩) ∧
    (∀ cursor : Cursor, cursor.tiebreakId < 2 ^ 128 →
      (decodeCursor cursor.encode = .ok cursor ↔ cursor.Readable)) ∧
    ∀ text, Agree text := by
  refine ⟨?_, ?_, readers_agree⟩
  · intro sortBy listed sortDir value tiebreakId bound
    have readable : Cursor.Readable ⟨sortBy, sortDir.text, value, tiebreakId⟩ :=
      ⟨(sortFields_plain listed).1, (sortFields_plain listed).2, text_listed sortDir⟩
    exact ⟨decodePageCursor_encode readable bound, decodeCursor_encode readable bound⟩
  · intro cursor bound
    exact ⟨readable_of_decode, fun readable => decodeCursor_encode readable bound⟩

end ValueObjects

end OpenZync.Repositories
