import Mathlib.Data.List.DropRight
import OpenZync.Graph.BulkEdges
import OpenZync.Library.FirstOccurrence
import OpenZync.Library.Regex

/-!
# The edge type in two queries

`create_relationship` and `expire_relationships_matching` of the FalkorDB
backend with the texts they send.  `MERGE` has the edge type as a label, with
white space around it ignored; the other query has it between the quotes of a
string.  The server acts on what it reads in the text.
-/

namespace OpenZync.Graph.FalkorDB

open Library

/-- The characters of an identifier. -/
def isWord (c : Char) : Bool :=
  c.isAlphanum || c == '_'

/-- `_SAFE_EDGE_TYPE_RE` -/
def safeEdgeTypeRe : Regex Char :=
  .seq .start
    (.seq (.seq (.set fun c => c.isAlpha || c == '_') (.star (.set isWord))) .finish)

/-- `_sanitize_edge_type` -/
def sanitizeEdgeType (name : Text) : Except RelationshipFailure Text :=
  if safeEdgeTypeRe.isMatch '\n' name then .ok name else .error (.unsafeEdgeType name)

/-- Lines of a query, indented as in the source. -/
def queryText (lines : List String) : Text :=
  lines.flatMap fun line => '\n' :: (List.replicate 16 ' ' ++ line.toList)

/-- The query of `create_relationship` before the label. -/
def mergeHead : Text :=
  queryText
    ["MATCH (s:Entity \x7bid: $source_id\x7d), (t:Entity \x7bid: $target_id\x7d)",
      "MERGE (s)-"]

/-- The query of `create_relationship` after the label. -/
def mergeTail : Text :=
  "->(t)".toList ++
    queryText
      ["ON CREATE SET",
        "    r.id = $rel_id,",
        "    r.organization_id = $org_id,",
        "    r.project_id = $project_id,",
        "    r.source_id = $source_id,",
        "    r.target_id = $target_id,",
        "    r.properties = $properties,",
        "    r.fact = '',",
        "    r.confidence = $confidence,",
        "    r.valid_from = $valid_from,",
        "    r.valid_to = $valid_to,",
        "    r.created_at = $now,",
        "    r.updated_at = $now",
        "ON MATCH SET",
        "    r.properties = $properties,",
        "    r.confidence = CASE WHEN $confidence > r.confidence",
        "        THEN $confidence ELSE r.confidence END,",
        "    r.valid_from = CASE WHEN $valid_from IS NOT NULL",
        "        THEN $valid_from ELSE r.valid_from END,",
        "    r.valid_to = CASE WHEN $valid_to IS NOT NULL",
        "        THEN $valid_to ELSE r.valid_to END,",
        "    r.updated_at = $now",
        "RETURN r.id, r.source_id, r.target_id, type(r) AS rel_type,",
        "       r.properties, r.fact, r.confidence,",
        "       r.valid_from, r.valid_to, r.created_at",
        ""]

/-- The query of `create_relationship`. -/
def mergeQuery (safeType : Text) : Text :=
  mergeHead ++ (['[', 'r', ':'] ++ (safeType ++ ([']'] ++ mergeTail)))

/-- The query of `expire_relationships_matching` before the string. -/
def expireHead : Text :=
  queryText
    ["MATCH ()-[r]->()",
      "WHERE r.source_id = $source_id",
      "  AND r.target_id = $target_id",
      "  AND type(r) = "]

/-- The query of `expire_relationships_matching` after the string. -/
def expireTail : Text :=
  queryText
    ["  AND r.invalid_at IS NULL",
      "SET r.invalid_at = $at_time",
      "RETURN count(r) AS updated",
      ""]

/-- The query of `expire_relationships_matching`. -/
def expireQuery (safeType : Text) : Text :=
  expireHead ++ (['\''] ++ (safeType ++ (['\''] ++ expireTail)))

/-- The white space of Cypher. -/
structure CypherSpace where
  isSpace : Char → Bool
  isSpace_lineFeed : isSpace '\n' = true
  not_isSpace_of_isWord : ∀ c, isWord c = true → isSpace c = false

/-- The text without the white space around it. -/
def CypherSpace.trim (space : CypherSpace) (text : Text) : Text :=
  (text.dropWhile space.isSpace).rdropWhile space.isSpace

/-- What stands in its place in a query that is otherwise as it was written. -/
def inPlace (head tail : Text) : Option (Text × Text × Text) → Option Text
  | none => none
  | some (before, inner, after) => if before = head ∧ after = tail then some inner else none

@[simp] theorem inPlace_some (head inner tail : Text) :
    inPlace head tail (some (head, inner, tail)) = some inner :=
  if_pos ⟨rfl, rfl⟩

/-- The label in a query, with the text before and after it. -/
def readLabel (space : CypherSpace) (query : Text) : Option (Text × Text × Text) :=
  (splitBetween ['[', 'r', ':'] [']'] query).map fun parts =>
    (parts.1, space.trim parts.2.1, parts.2.2)

/-- The string in a query, with the text before and after it.  There are no
escapes in the strings that are sent. -/
def readString (query : Text) : Option (Text × Text × Text) :=
  splitBetween ['\''] ['\''] query

/-- The queries that were sent, and the edges. -/
structure Session where
  sent : List Text
  graph : EdgeGraph

/-- `SET r.invalid_at` on the active edges of a key. -/
def expireMatching (key : EdgeKey) (atTime : Time) (graph : EdgeGraph) : EdgeGraph :=
  Function.update graph key ((graph key).map (expire atTime))

/-- The active edges of a key, of which there is one at most. -/
def activeCount (key : EdgeKey) (graph : EdgeGraph) : Nat :=
  match graph key with
  | none => 0
  | some edge => if edge.invalidAt.isNone then 1 else 0

namespace Session

section Calls

variable (space : CypherSpace) (world : World)

/-- `graph.query`: the server acts on the type it reads in the text, and refuses
a text it does not read. -/
def query (index : Nat) (text : Text) (read : Option Text)
    (effect : Text → EdgeGraph → EdgeGraph) : Attempt Session RelationshipFailure Text := do
  Attempt.change fun session => { session with sent := session.sent ++ [text] }
  match read with
  | none => Attempt.fail .externalService
  | some relType => do
      Attempt.remote (world.fates index) .externalService fun session =>
        { session with graph := effect relType session.graph }
      pure relType

/-- `create_relationship` -/
def createRelationship (index : Nat) (source target : Uuid) (relationshipType : Text)
    (input : RelationshipInput) :
    Attempt Session RelationshipFailure (CreatedRelationship Edge) :=
  if !world.connected then Attempt.fail .notConnected
  else do
    let safeType ← Attempt.ofExcept (sanitizeEdgeType relationshipType)
    let text := mergeQuery safeType
    let relType ← query world index text (inPlace mergeHead mergeTail (readLabel space text))
      fun relType => merge world ⟨source, target, relType⟩ input
    let key : EdgeKey := ⟨source, target, relType⟩
    let rows ← Attempt.read fun session => if world.hasEnds key then session.graph key else none
    match rows with
    | none => Attempt.fail (.notFound source target)
    | some edge => pure { key := key, edge := edge }

/-- `expire_relationships_matching`, which returns how many edges it closed. -/
def expireRelationshipsMatching (index : Nat) (source target : Uuid) (relationshipType : Text)
    (atTime : Time) : Attempt Session RelationshipFailure Nat :=
  if !world.connected then Attempt.fail .notConnected
  else do
    let safeType ← Attempt.ofExcept (sanitizeEdgeType relationshipType)
    let text := expireQuery safeType
    let before ← Attempt.read Session.graph
    let relType ← query world index text (inPlace expireHead expireTail (readString text))
      fun relType => expireMatching ⟨source, target, relType⟩ atTime
    pure (activeCount ⟨source, target, relType⟩ before)

end Calls

end Session

/-! ### What is accepted -/

theorem isWord_of_isSafeEdgeType {name : Text} (safe : isSafeEdgeType name = true) :
    name.all isWord = true := by
  cases name with
  | nil => cases safe
  | cons first rest =>
      rw [isSafeEdgeType, Bool.and_eq_true] at safe
      rw [List.all_cons, Bool.and_eq_true]
      refine ⟨?_, safe.2⟩
      rcases (Bool.or_eq_true _ _).mp safe.1 with letter | underscore
      · exact (Bool.or_eq_true _ _).mpr (.inl (by rw [Char.isAlphanum, letter, Bool.true_or]))
      · exact (Bool.or_eq_true _ _).mpr (.inr underscore)

theorem not_isWord_lineFeed : isWord '\n' = false := by decide

theorem lineFeed_not_mem {name : Text} (safe : isSafeEdgeType name = true) : '\n' ∉ name := by
  intro member
  have word := List.all_eq_true.mp (isWord_of_isSafeEdgeType safe) '\n' member
  rw [not_isWord_lineFeed] at word
  cases word

theorem storedEdgeType_eq_some_iff {name stem : Text} :
    storedEdgeType name = some stem ↔
      isSafeEdgeType stem = true ∧ (name = stem ∨ name = stem ++ ['\n']) := by
  by_cases ends : name.getLast? = some '\n'
  · have whole : name = name.dropLast ++ ['\n'] := (List.dropLast_append_getLast? '\n' ends).symm
    simp only [storedEdgeType, if_pos ends, Option.ite_none_right_eq_some, Option.some.injEq]
    constructor
    · rintro ⟨safe, rfl⟩
      exact ⟨safe, .inr whole⟩
    · rintro ⟨safe, rfl | rfl⟩
      · exact absurd (List.mem_of_getLast? ends) (lineFeed_not_mem safe)
      · rw [List.dropLast_concat]
        exact ⟨safe, rfl⟩
  · simp only [storedEdgeType, if_neg ends, Option.ite_none_right_eq_some, Option.some.injEq]
    constructor
    · rintro ⟨safe, rfl⟩
      exact ⟨safe, .inl rfl⟩
    · rintro ⟨safe, rfl | rfl⟩
      · exact ⟨safe, rfl⟩
      · exact absurd List.getLast?_concat ends

/-- The part of the pattern between its anchors reads a safe name. -/
theorem reads_identifier_iff {text left rest : Text} :
    Regex.Reads '\n' text (.seq (.set fun c => c.isAlpha || c == '_') (.star (.set isWord)))
      left rest ↔ ∃ stem, isSafeEdgeType stem = true ∧ left = stem ++ rest := by
  constructor
  · rintro ⟨_, ⟨first, begins, rfl⟩, reads⟩
    obtain ⟨stretch, word, rfl⟩ := Regex.reads_star_set_iff.mp reads
    exact ⟨first :: stretch, (Bool.and_eq_true _ _).mpr ⟨begins, word⟩, rfl⟩
  · rintro ⟨stem, safe, rfl⟩
    cases stem with
    | nil => cases safe
    | cons first stretch =>
        obtain ⟨begins, word⟩ := (Bool.and_eq_true _ _).mp safe
        exact ⟨stretch ++ rest, ⟨first, begins, rfl⟩,
          Regex.reads_star_set_iff.mpr ⟨stretch, word, rfl⟩⟩

theorem safeEdgeTypeRe_isMatch_iff {name : Text} :
    safeEdgeTypeRe.isMatch '\n' name = true ↔ ∃ stem, storedEdgeType name = some stem := by
  rw [safeEdgeTypeRe, Regex.isMatch_anchored_iff, reads_identifier_iff, reads_identifier_iff,
    ← exists_or]
  apply exists_congr
  intro stem
  rw [storedEdgeType_eq_some_iff, List.append_nil, ← and_or_left]

example : safeEdgeTypeRe.isMatch '\n' "knows\n".toList = true ∧
    safeEdgeTypeRe.isMatch '\n' "knows \n".toList = false := by
  decide

theorem sanitizeEdgeType_eq_ok_iff {name safeType : Text} :
    sanitizeEdgeType name = .ok safeType ↔
      name = safeType ∧ ∃ stem, storedEdgeType name = some stem := by
  rw [← safeEdgeTypeRe_isMatch_iff, sanitizeEdgeType]
  split
  · rename_i accepted
    simp [accepted]
  · rename_i refused
    simp [refused]

theorem sanitizeEdgeType_of_stored {name stem : Text} (stored : storedEdgeType name = some stem) :
    sanitizeEdgeType name = .ok name :=
  sanitizeEdgeType_eq_ok_iff.mpr ⟨rfl, stem, stored⟩

theorem sanitizeEdgeType_of_none {name : Text} (unsafeName : storedEdgeType name = none) :
    sanitizeEdgeType name = .error (.unsafeEdgeType name) := by
  apply if_neg
  rw [safeEdgeTypeRe_isMatch_iff, unsafeName]
  rintro ⟨stem, stored⟩
  cases stored

/-! ### What is read -/

/-- An accepted name has nothing that would end a label or a string. -/
theorem not_mem_of_stored {name stem : Text} {c : Char}
    (stored : storedEdgeType name = some stem) (notWord : isWord c = false)
    (noLineFeed : c ≠ '\n') : c ∉ name := by
  obtain ⟨safe, same⟩ := storedEdgeType_eq_some_iff.mp stored
  have notInStem : c ∉ stem := by
    intro member
    have word := List.all_eq_true.mp (isWord_of_isSafeEdgeType safe) c member
    rw [notWord] at word
    cases word
  rcases same with rfl | rfl
  · exact notInStem
  · simp [notInStem, noLineFeed]

theorem trim_of_stored (space : CypherSpace) {name stem : Text}
    (stored : storedEdgeType name = some stem) : space.trim name = stem := by
  obtain ⟨safe, same⟩ := storedEdgeType_eq_some_iff.mp stored
  have word := List.all_eq_true.mp (isWord_of_isSafeEdgeType safe)
  have notSpace : ∀ c ∈ stem, ¬ space.isSpace c = true := by
    intro c member
    rw [space.not_isSpace_of_isWord c (word c member)]
    exact Bool.false_ne_true
  have begins : name.dropWhile space.isSpace = name := by
    cases stem with
    | nil => cases safe
    | cons first rest =>
        have kept := notSpace first List.mem_cons_self
        rcases same with rfl | rfl <;> exact List.dropWhile_cons_of_neg kept
  have ends : stem.rdropWhile space.isSpace = stem :=
    List.rdropWhile_eq_self_iff.mpr fun nonempty => notSpace _ (List.getLast_mem nonempty)
  rw [CypherSpace.trim, begins]
  rcases same with rfl | rfl
  · exact ends
  · rw [List.rdropWhile_concat_pos _ _ _ space.isSpace_lineFeed, ends]

theorem readLabel_mergeQuery (space : CypherSpace) {name stem : Text}
    (stored : storedEdgeType name = some stem) :
    readLabel space (mergeQuery name) = some (mergeHead, stem, mergeTail) := by
  have notBefore : '[' ∉ mergeHead := by decide
  have notInside : ']' ∉ name := not_mem_of_stored stored (by decide) (by decide)
  rw [readLabel, mergeQuery,
    splitBetween_of_absent ['r', ':'] [] notBefore notInside mergeTail, Option.map_some,
    trim_of_stored space stored]

theorem readString_expireQuery {name stem : Text} (stored : storedEdgeType name = some stem) :
    readString (expireQuery name) = some (expireHead, name, expireTail) := by
  have notBefore : '\'' ∉ expireHead := by decide
  have notInside : '\'' ∉ name := not_mem_of_stored stored (by decide) (by decide)
  exact splitBetween_of_absent [] [] notBefore notInside expireTail

end OpenZync.Graph.FalkorDB
