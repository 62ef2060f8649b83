import OpenZync.Context.ContextCache
import OpenZync.Library.Segments
import OpenZync.Repositories.Datetimes

/-!
# The text of a context key

A key joins its parts by colons, and an ISO timestamp among them has colons of
its own.  The parts around it have none, and it cannot be taken for a sort,
which is spelled with letters that no timestamp has.
-/

namespace OpenZync.Context

open OpenZync.Library OpenZync.Repositories

/-- A character of an ISO 8601 timestamp. -/
def isIsoChar (c : Char) : Bool :=
  c.isDigit || c ∈ ['-', '+', ':', '.', ',', 'T', 'W', 'Z']

/-- A lower-case hexadecimal digit. -/
def isHexChar (c : Char) : Bool :=
  c.isDigit || c ∈ ['a', 'b', 'c', 'd', 'e', 'f']

/-- What a request for context has its key from: identifiers of 128 bits, the digest
of its query in hexadecimal, an ISO timestamp or none, and one of the sorts and
formats. -/
structure ContextRequest where
  orgId : Uuid
  projectId : Uuid
  query : ContextQuery
  version : Nat
  orgId_lt : orgId < 2 ^ 128
  projectId_lt : projectId < 2 ^ 128
  hash : ∀ c ∈ query.queryHash.toList, isHexChar c = true
  asOf : ∀ text ∈ query.asOf, ∀ c ∈ text.toList, isIsoChar c = true
  sort : query.sort = "relevance" ∨ query.sort = "recent"
  format : query.format = "text" ∨ query.format = "json"

/-- `ctx:{org_id}:{project_id}` -/
def contextKeyHead (orgId projectId : Uuid) : Text :=
  "ctx:".toList ++ (Text.ofUuid orgId ++ ':' :: Text.ofUuid projectId)

/-- `":".join(parts)` -/
def ContextRequest.cacheKey (request : ContextRequest) : Text :=
  joinSegments ':' (contextKeyHead request.orgId request.projectId ::
    (buildContextCacheKey request.query request.version).map String.toList)

theorem repr_colonFree (number : Nat) : ':' ∉ (toString number).toList := by
  intro member
  have digit : ':' ∈ Nat.toDigits 10 number := by
    simpa using member
  have isDigit := Nat.isDigit_of_mem_toDigits (by decide) (by decide) digit
  cases isDigit

theorem toString_inj {number number' : Nat}
    (same : (toString number).toList = (toString number').toList) : number = number' := by
  have digits : Nat.toDigits 10 number = Nat.toDigits 10 number' := by
    simpa using same
  rw [← Nat.ofDigitChars_ten_toDigits (n := number), digits, Nat.ofDigitChars_ten_toDigits]

/-- The optional segments, between the version and the format. -/
def keyOptions (query : ContextQuery) : List Text :=
  query.asOf.toList.map String.toList ++
    if query.sort = "relevance" then [] else [query.sort.toList]

theorem cacheKey_eq (request : ContextRequest) :
    request.cacheKey =
      (("ctx:".toList ++ (Text.ofUuid request.orgId ++ ':' :: (Text.ofUuid request.projectId ++
          ':' :: joinSegments ':' (("v" ++ toString request.version).toList ::
            keyOptions request.query))) ++
        ':' :: request.query.format.toList) ++ ':' :: (toString request.query.limit).toList) ++
          ':' :: request.query.queryHash.toList := by
  have sorted : ((if request.query.sort = "relevance" then [] else [request.query.sort]).map
      String.toList) =
        if request.query.sort = "relevance" then [] else [request.query.sort.toList] := by
    split <;> rfl
  simp only [ContextRequest.cacheKey, joinSegments, contextKeyHead, buildContextCacheKey,
    keyOptions, List.map_append, List.map_cons, List.map_nil, List.flatMap_append,
    List.flatMap_cons, List.flatMap_nil, List.append_nil, List.append_assoc, List.cons_append,
    List.nil_append, sorted]

section

variable {request request' : ContextRequest}

theorem hash_colonFree (request : ContextRequest) : ':' ∉ request.query.queryHash.toList := by
  intro member
  have hex := request.hash ':' member
  cases hex

theorem format_colonFree (request : ContextRequest) : ':' ∉ request.query.format.toList := by
  rcases request.format with format | format
  · rw [format]
    decide
  · rw [format]
    decide

theorem version_colonFree (version : Nat) : ':' ∉ ("v" ++ toString version).toList := by
  rw [String.toList_append, List.mem_append, not_or]
  exact ⟨by decide, repr_colonFree version⟩

/-- No timestamp ends in the name of a sort. -/
theorem asOf_ne_recent (request : ContextRequest) (before : Text) :
    ((request.query.asOf.toList.map String.toList).flatMap fun segment => ':' :: segment) ≠
      before ++ ':' :: "recent".toList := by
  intro same
  have letter : 'r' ∈ before ++ ':' :: "recent".toList :=
    List.mem_append_right _ (List.mem_cons_of_mem _ (by decide))
  rw [← same] at letter
  obtain ⟨segment, member, inside⟩ := List.mem_flatMap.mp letter
  obtain ⟨text, asOf, rfl⟩ := List.mem_map.mp member
  rcases List.mem_cons.mp inside with colon | inText
  · cases colon
  · have iso := request.asOf text (by simpa using asOf) 'r' inText
    cases iso

theorem keyOptions_inj
    (same : ((keyOptions request.query).flatMap fun segment => ':' :: segment) =
      (keyOptions request'.query).flatMap fun segment => ':' :: segment) :
    request.query.asOf = request'.query.asOf ∧ request.query.sort = request'.query.sort := by
  have sameAsOf (sameSegments :
      ((request.query.asOf.toList.map String.toList).flatMap fun segment => ':' :: segment) =
        (request'.query.asOf.toList.map String.toList).flatMap fun segment => ':' :: segment) :
      request.query.asOf = request'.query.asOf := by
    cases first : request.query.asOf with
    | none =>
        cases second : request'.query.asOf with
        | none => rfl
        | some text => simp [first, second] at sameSegments
    | some text =>
        cases second : request'.query.asOf with
        | none => simp [first, second] at sameSegments
        | some text' =>
            have texts : text.toList = text'.toList := by
              simpa [first, second] using sameSegments
            rw [String.toList_inj.mp texts]
  have different : "recent" ≠ "relevance" := by decide
  rw [keyOptions, keyOptions, List.flatMap_append, List.flatMap_append] at same
  rcases request.sort with sort | sort
  · rcases request'.sort with sort' | sort'
    · rw [if_pos sort, if_pos sort'] at same
      exact ⟨sameAsOf (List.append_cancel_right same), sort.trans sort'.symm⟩
    · rw [if_pos sort, sort', if_neg different, List.flatMap_nil, List.append_nil,
        List.flatMap_singleton] at same
      exact (asOf_ne_recent request _ same).elim
  · rcases request'.sort with sort' | sort'
    · rw [if_pos sort', sort, if_neg different, List.flatMap_nil, List.append_nil,
        List.flatMap_singleton] at same
      exact (asOf_ne_recent request' _ same.symm).elim
    · rw [sort, sort', if_neg different] at same
      exact ⟨sameAsOf (List.append_cancel_right same), sort.trans sort'.symm⟩

end

theorem parts_of_cacheKey {request request' : ContextRequest}
    (same : request.cacheKey = request'.cacheKey) :
    request.orgId = request'.orgId ∧ request.projectId = request'.projectId ∧
      request.query = request'.query ∧ request.version = request'.version := by
  rw [cacheKey_eq, cacheKey_eq] at same
  obtain ⟨same, hash⟩ :=
    separator_append_inj (hash_colonFree request) (hash_colonFree request') same
  obtain ⟨same, limit⟩ := separator_append_inj (repr_colonFree _) (repr_colonFree _) same
  obtain ⟨same, format⟩ :=
    separator_append_inj (format_colonFree request) (format_colonFree request') same
  obtain ⟨orgId, same⟩ := append_separator_inj (Text.ofUuid_colonFree _) (Text.ofUuid_colonFree _)
    (List.append_cancel_left same)
  obtain ⟨projectId, same⟩ :=
    append_separator_inj (Text.ofUuid_colonFree _) (Text.ofUuid_colonFree _) same
  obtain ⟨version, same⟩ :=
    append_segments_inj (version_colonFree _) (version_colonFree _) same
  obtain ⟨asOf, sort⟩ := keyOptions_inj same
  refine ⟨Text.ofUuid_inj request.orgId_lt request'.orgId_lt orgId,
    Text.ofUuid_inj request.projectId_lt request'.projectId_lt projectId, ?_, ?_⟩
  · rw [ContextQuery.mk.injEq]
    exact ⟨String.toList_inj.mp hash, asOf, sort, String.toList_inj.mp format,
      toString_inj limit⟩
  · rw [String.toList_append, String.toList_append] at version
    exact toString_inj (List.append_cancel_left version)

/-- Two requests have one key exactly when they agree in everything that enters it. -/
theorem contextCacheKey_eq_iff (request request' : ContextRequest) :
    request.cacheKey = request'.cacheKey ↔
      request.orgId = request'.orgId ∧ request.projectId = request'.projectId ∧
        request.query = request'.query ∧ request.version = request'.version := by
  constructor
  · exact parts_of_cacheKey
  · rintro ⟨orgId, projectId, query, version⟩
    rw [ContextRequest.cacheKey, ContextRequest.cacheKey, orgId, projectId, query, version]

/-- The sorts and formats that the endpoint accepts. -/
inductive SearchSort where
  | relevance
  | recent
deriving DecidableEq

inductive OutputFormat where
  | text
  | json
deriving DecidableEq

def SearchSort.value : SearchSort → String
  | .relevance => "relevance"
  | .recent => "recent"

def OutputFormat.value : OutputFormat → String
  | .text => "text"
  | .json => "json"

/-- An offset from UTC. -/
structure UtcOffset where
  negative : Bool
  hours : Nat
  minutes : Nat
  seconds : Nat
  microseconds : Nat

/-- The offset at the end of an ISO timestamp, with its seconds where it has some. -/
def UtcOffset.text (offset : UtcOffset) : Text :=
  (if offset.negative then '-' else '+') :: decimalDigits 2 offset.hours ++
    ':' :: decimalDigits 2 offset.minutes ++
    (if offset.seconds = 0 ∧ offset.microseconds = 0 then []
      else ':' :: decimalDigits 2 offset.seconds ++
        (if offset.microseconds = 0 then []
          else '.' :: decimalDigits 6 offset.microseconds))

/-- `datetime.isoformat` with an offset. -/
def isoformatAt (fields : DatetimeFields) (offset : UtcOffset) : Text :=
  decimalDigits 4 fields.year ++ '-' :: decimalDigits 2 fields.month ++
    '-' :: decimalDigits 2 fields.day ++ 'T' :: decimalDigits 2 fields.hour ++
    ':' :: decimalDigits 2 fields.minute ++ ':' :: decimalDigits 2 fields.second ++
    (if fields.microsecond = 0 then [] else '.' :: decimalDigits 6 fields.microsecond) ++
    offset.text

theorem isoChar_decimalDigits {width value : Nat} :
    ∀ c ∈ decimalDigits width value, isIsoChar c = true := by
  have digits : ∀ digit < 10, isIsoChar (Nat.digitChar digit) = true := by decide
  induction width with
  | zero =>
      intro c member
      cases member
  | succ width induction =>
      intro c member
      rcases List.mem_cons.mp member with rfl | member
      · exact digits _ (Nat.mod_lt _ (by decide))
      · exact induction c member

theorem isoChar_isoformatAt (fields : DatetimeFields) (offset : UtcOffset) :
    ∀ c ∈ isoformatAt fields offset, isIsoChar c = true := by
  have digits (width value : Nat) := @isoChar_decimalDigits width value
  have fraction (microsecond : Nat) :
      ∀ c ∈ (if microsecond = 0 then [] else '.' :: decimalDigits 6 microsecond),
        isIsoChar c = true := by
    split
    · exact List.forall_mem_nil _
    · exact List.forall_mem_cons.mpr ⟨rfl, digits 6 _⟩
  have sign : isIsoChar (if offset.negative then '-' else '+') = true := by
    split <;> rfl
  have seconds :
      ∀ c ∈ (if offset.seconds = 0 ∧ offset.microseconds = 0 then []
        else ':' :: decimalDigits 2 offset.seconds ++
          (if offset.microseconds = 0 then [] else '.' :: decimalDigits 6 offset.microseconds)),
        isIsoChar c = true := by
    split
    · exact List.forall_mem_nil _
    · exact List.forall_mem_append.mpr
        ⟨List.forall_mem_cons.mpr ⟨rfl, digits 2 _⟩, fraction _⟩
  simp only [isoformatAt, UtcOffset.text, List.forall_mem_append, List.forall_mem_cons]
  exact ⟨⟨⟨⟨⟨⟨⟨digits 4 _, rfl, digits 2 _⟩, rfl, digits 2 _⟩, rfl, digits 2 _⟩, rfl, digits 2 _⟩,
    rfl, digits 2 _⟩, fraction _⟩, ⟨⟨sign, digits 2 _⟩, rfl, digits 2 _⟩, seconds⟩

/-- `hashlib.sha256(query.encode("utf-8")).hexdigest()` -/
structure QueryDigest where
  hexdigest : Text → Text
  hex : ∀ query, ∀ c ∈ hexdigest query, isHexChar c = true

/-- The arguments of `assemble`, in the project of an organisation, with the generation
of the project. -/
structure AssembleCall where
  orgId : Uuid
  projectId : Uuid
  query : Text
  asOf : Option (DatetimeFields × UtcOffset)
  sort : SearchSort
  format : OutputFormat
  limit : Nat
  version : Nat
  orgId_lt : orgId < 2 ^ 128
  projectId_lt : projectId < 2 ^ 128

/-- What `assemble` builds its key from. -/
def AssembleCall.request (digest : QueryDigest) (call : AssembleCall) : ContextRequest :=
  { orgId := call.orgId
    projectId := call.projectId
    query :=
      { queryHash := String.ofList ((digest.hexdigest call.query).take 16)
        asOf := call.asOf.map fun asOf => String.ofList (isoformatAt asOf.1 asOf.2)
        sort := call.sort.value
        format := call.format.value
        limit := call.limit }
    version := call.version
    orgId_lt := call.orgId_lt
    projectId_lt := call.projectId_lt
    hash := by
      intro c member
      rw [String.toList_ofList] at member
      exact digest.hex call.query c (List.mem_of_mem_take member)
    asOf := by
      intro text member c inside
      obtain ⟨asOf, _, rfl⟩ := Option.mem_map.mp member
      rw [String.toList_ofList] at inside
      exact isoChar_isoformatAt asOf.1 asOf.2 c inside
    sort := by cases call.sort <;> simp [SearchSort.value]
    format := by cases call.format <;> simp [OutputFormat.value] }

/-- A context is served only for the same organisation, project, digest, timestamp,
sort, format, limit and generation. -/
theorem assemble_parts_of_key {digest : QueryDigest} {call call' : AssembleCall}
    (same : (call.request digest).cacheKey = (call'.request digest).cacheKey) :
    call.orgId = call'.orgId ∧ call.projectId = call'.projectId ∧
      (call.request digest).query = (call'.request digest).query ∧
      call.version = call'.version :=
  parts_of_cacheKey same

/-- A digest that only looks at the length. -/
def lengthDigest : QueryDigest where
  hexdigest := fun query => List.replicate 64 (Nat.digitChar (query.length % 10))
  hex := by
    intro query c member
    have digits : ∀ digit < 10, isHexChar (Nat.digitChar digit) = true := by decide
    obtain ⟨-, rfl⟩ := List.mem_replicate.mp member
    exact digits _ (Nat.mod_lt _ (by decide))

theorem noonOrgId_lt : 1 < 2 ^ 128 := by
  decide

theorem noonProjectId_lt : 2 < 2 ^ 128 := by
  decide

/-- A call at noon, two hours ahead of UTC. -/
def noonCall (format : OutputFormat) : AssembleCall where
  orgId := 1
  projectId := 2
  query := "who works here?".toList
  asOf := some (⟨2024, 5, 6, 12, 0, 0, 0⟩, ⟨false, 2, 0, 0, 0⟩)
  sort := .relevance
  format := format
  limit := 10
  version := 3
  orgId_lt := noonOrgId_lt
  projectId_lt := noonProjectId_lt

example : ((noonCall .text).request lengthDigest).cacheKey ≠
    ((noonCall .json).request lengthDigest).cacheKey := by
  decide +kernel

end OpenZync.Context
