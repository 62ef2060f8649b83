import OpenZync.GraphEdgeSync

/-!
# Conflict matching

Identity normalization, the prepared batch entry and the two notions of "the
same triple" that the pipeline uses side by side: the Python rule
`candidateConflicts` over normalized names, and the SQL keys of the conflict
and tombstone scans.
-/

namespace OpenZync.Facts

/-- What `[^a-z0-9\s]` leaves in place. -/
def keptByEntityNameRe (c : Char) : Bool :=
  ('a' ≤ c && c ≤ 'z') || ('0' ≤ c && c ≤ '9') || Text.isSpace c

def normalizeIdentityTerm (casing : Casing) (term : Text) : Text :=
  if term = [] then []
  else Text.strip ((casing.lower term).filter keptByEntityNameRe)

/-- One input fact dict.  Absent keys are `none`; entity IDs and validity
bounds are given after the coercions `UUID(...)` and
`_parse_validity_bound`. -/
structure FactForm where
  subject : Option Text
  predicate : Option Text
  object : Option Text
  content : Option Text
  confidence : Option Rat
  subjectType : Option Text
  objectType : Option Text
  subjectEntityId : Option Uuid
  objectEntityId : Option Uuid
  validFrom : Option Time
  validTo : Option Time
  deriving DecidableEq

/-- The normalized `(subject, predicate, object)` of a triple. -/
structure NameIdentity where
  subject : Text
  predicate : Text
  object : Text
  deriving DecidableEq

/-- The form-sensitive identity of a stored row. -/
inductive IdentityKey where
  | entity (subjectId : Uuid) (predicate : Option Text) (objectId : Uuid)
  | name (identity : NameIdentity)
  deriving DecidableEq

/-- One component of a match key: an entity UUID or raw text. -/
inductive KeyTerm where
  | entity (id : Uuid)
  | text (raw : Text)
  deriving DecidableEq

structure MatchKey where
  subjectKey : KeyTerm
  predicate : Text
  objectKey : KeyTerm
  deriving DecidableEq

/-- A prepared batch entry.  The fields are the `row` of the entry; its
`triple`, `name_identity` and `match_keys` are functions of the row. -/
structure Entry where
  subject : Text
  predicate : Text
  object : Text
  content : Text
  confidence : Rat
  subjectType : Text
  objectType : Text
  subjectEntityId : Option Uuid
  objectEntityId : Option Uuid
  sourceEpisodeId : Option Uuid
  validFrom : Time
  validTo : Option Time
  deriving DecidableEq

/-- `value or default` on an optional string. -/
def orDefault (value : Option Text) (fallback : Text) : Text :=
  match value with
  | some (c :: cs) => c :: cs
  | _ => fallback

def prepareEntry (form : FactForm) (sourceEpisodeId : Option Uuid)
    (now : Time) : Entry :=
  let subject := Text.strip (form.subject.getD [])
  let predicate := Text.strip (form.predicate.getD [])
  let object := Text.strip (form.object.getD [])
  { subject := subject
    predicate := predicate
    object := object
    content := orDefault form.content
      (subject ++ ' ' :: predicate ++ ' ' :: object)
    confidence := form.confidence.getD 1
    subjectType := form.subjectType.getD "literal".toList
    objectType := form.objectType.getD "literal".toList
    subjectEntityId := form.subjectEntityId
    objectEntityId := form.objectEntityId
    sourceEpisodeId := sourceEpisodeId
    validFrom := form.validFrom.getD now
    validTo := form.validTo }

namespace Entry

def triple (entry : Entry) : Triple :=
  ⟨entry.subject, entry.predicate, entry.object⟩

def nameIdentity (casing : Casing) (entry : Entry) : NameIdentity :=
  { subject := normalizeIdentityTerm casing entry.subject
    predicate := normalizeIdentityTerm casing entry.predicate
    object := normalizeIdentityTerm casing entry.object }

/-- The key of an entry by its SPO text. -/
def textKey (entry : Entry) : MatchKey :=
  ⟨.text entry.subject, entry.predicate, .text entry.object⟩

/-- Entity-form entries scan by UUID first and by SPO text as well. -/
def matchKeys (entry : Entry) : List MatchKey :=
  match entry.subjectEntityId, entry.objectEntityId with
  | some subjectId, some objectId =>
      [⟨.entity subjectId, entry.predicate, .entity objectId⟩, entry.textKey]
  | _, _ => [entry.textKey]

theorem textKey_mem_matchKeys (entry : Entry) : entry.textKey ∈ entry.matchKeys := by
  unfold matchKeys
  split <;> simp

/-- The row as the repository inserts it, before it has an identifier. -/
def toFact (entry : Entry) (orgId projectId userId : Uuid)
    (sourceEpisodeId : Option Uuid) : Fact :=
  { id := 0
    organizationId := orgId
    projectId := projectId
    userId := userId
    content := entry.content
    subject := some entry.subject
    predicate := some entry.predicate
    object := some entry.object
    subjectType := entry.subjectType
    objectType := entry.objectType
    confidence := entry.confidence
    sourceEpisodeId := sourceEpisodeId
    subjectEntityId := entry.subjectEntityId
    objectEntityId := entry.objectEntityId
    validFrom := some entry.validFrom
    validTo := entry.validTo
    invalidAt := none
    supersededByFactId := none }

end Entry

/-- `f"sup:{org_id}:{project_id}:{subject}:{predicate}:{obj}"`. -/
def lockKeyForIdentity (orgId projectId : Uuid) (identity : NameIdentity) : Text :=
  "sup:".toList ++ Text.ofUuid orgId ++ ':' :: Text.ofUuid projectId ++
    ':' :: identity.subject ++ ':' :: identity.predicate ++ ':' :: identity.object

def nameIdentityOfFact (casing : Casing) (fact : Fact) : NameIdentity :=
  { subject := normalizeIdentityTerm casing (fact.subject.getD [])
    predicate := normalizeIdentityTerm casing (fact.predicate.getD [])
    object := normalizeIdentityTerm casing (fact.object.getD []) }

def identityOfFact (casing : Casing) (fact : Fact) : IdentityKey :=
  match fact.subjectEntityId, fact.objectEntityId with
  | some subjectId, some objectId => .entity subjectId fact.predicate objectId
  | _, _ => .name (nameIdentityOfFact casing fact)

/-- `_candidate_conflicts`: entity match once both sides resolve, name match
otherwise. -/
def candidateConflicts (casing : Casing) (entry : Entry) (candidate : Fact) : Bool :=
  let nameMatch := decide (entry.nameIdentity casing = nameIdentityOfFact casing candidate)
  match entry.subjectEntityId, entry.objectEntityId with
  | some subjectId, some objectId =>
      match identityOfFact casing candidate with
      | .entity candidateSubject candidatePredicate candidateObject =>
          decide (subjectId = candidateSubject) &&
            decide (some entry.predicate = candidatePredicate) &&
            decide (objectId = candidateObject)
      | .name _ => nameMatch
  | _, _ => nameMatch

/-- One column of a scan condition. -/
def KeyTerm.matches (casing : Casing) (term : KeyTerm)
    (entityId : Option Uuid) (column : Option Text) : Bool :=
  match term with
  | .entity id => decide (entityId = some id)
  | .text raw => decide (column.map casing.sqlLower = some (casing.lower raw))

/-- The `WHERE` condition of one match key. -/
def MatchKey.matches (casing : Casing) (key : MatchKey) (fact : Fact) : Bool :=
  key.subjectKey.matches casing fact.subjectEntityId fact.subject &&
    decide (fact.predicate = some key.predicate) &&
    key.objectKey.matches casing fact.objectEntityId fact.object

/-- The conflict scan: every fact effective at `now` that some key matches. -/
def findConflictingActiveForUpdate (casing : Casing) (store : FactStore)
    (orgId projectId : Uuid) (matchKeys : List MatchKey) (now : Time) :
    List Fact :=
  store.facts.filter fun fact =>
    decide (fact.InScope orgId projectId) && decide (fact.EffectiveAt now) &&
      matchKeys.any fun key => key.matches casing fact

/-- The tombstone scan: the same keys over hard-retracted rows. -/
def findRetractedByMatchKeys (casing : Casing) (store : FactStore)
    (orgId projectId : Uuid) (matchKeys : List MatchKey) : List Fact :=
  store.facts.filter fun fact =>
    decide (fact.InScope orgId projectId) && fact.invalidAt.isSome &&
      matchKeys.any fun key => key.matches casing fact

/-- Bucket rows by their name identity. -/
def bucketByName (casing : Casing) (facts : List Fact) (identity : NameIdentity) :
    List Fact :=
  facts.filter fun fact => decide (nameIdentityOfFact casing fact = identity)

theorem bucketByName_append (casing : Casing) (facts more : List Fact)
    (identity : NameIdentity) :
    bucketByName casing (facts ++ more) identity =
      bucketByName casing facts identity ++ bucketByName casing more identity :=
  List.filter_append ..

theorem bucketByName_eq_nil {casing : Casing} {facts : List Fact} {identity : NameIdentity}
    (elsewhere : ∀ fact ∈ facts, nameIdentityOfFact casing fact ≠ identity) :
    bucketByName casing facts identity = [] := by
  simp only [bucketByName, List.filter_eq_nil_iff, decide_eq_true_eq]
  exact elsewhere

theorem bucketByName_cons_self {casing : Casing} {fact : Fact} {identity : NameIdentity}
    (facts : List Fact) (same : nameIdentityOfFact casing fact = identity) :
    bucketByName casing (fact :: facts) identity =
      fact :: bucketByName casing facts identity := by
  rw [bucketByName, List.filter_cons, if_pos (by simpa using same)]
  rfl

end OpenZync.Facts
