import OpenZync.Idempotency

/-!
# Claim keys of fact requests

`FactService.ingest_facts` claims a batch of triples through the content hash
of the chat messages.  Of a triple only `content` reaches the hash, and the
project does not.
-/

namespace OpenZync.Facts

open OpenZync.Library

/-- `FactTriple`, with the bounds its fields declare. -/
@[ext]
structure FactTriple where
  subject : Text
  predicate : Text
  object : Text
  content : Option Text
  confidence : ℚ
  subject_length : 1 ≤ subject.length ∧ subject.length ≤ 500
  predicate_length : 1 ≤ predicate.length ∧ predicate.length ≤ 200
  object_length : 1 ≤ object.length ∧ object.length ≤ 500
  confidence_range : 0 ≤ confidence ∧ confidence ≤ 1

/-- The arguments of `ingest_facts` with a batch of a `FactBatchRequest`. -/
@[ext]
structure FactRequest where
  orgId : Uuid
  projectId : Uuid
  createdBy : Uuid
  sessionExternalId : Text
  facts : List FactTriple
  orgId_bound : orgId < 2 ^ 128
  projectId_bound : projectId < 2 ^ 128
  createdBy_bound : createdBy < 2 ^ 128
  facts_length : 1 ≤ facts.length ∧ facts.length ≤ 500

/-- An optional string, with `None` for an absent one. -/
def contentValue : Option Text → Json ℚ
  | some content => .string content
  | none => .null

/-- `FactTriple.model_dump()`. -/
def FactTriple.modelDump (fact : FactTriple) : Dict :=
  [("subject".toList, .string fact.subject),
    ("predicate".toList, .string fact.predicate),
    ("object".toList, .string fact.object),
    ("content".toList, contentValue fact.content),
    ("confidence".toList, .number fact.confidence)]

namespace FactRequest

/-- The Redis key that `ingest_facts` claims. -/
def claimKey (service : IdempotencyService) (request : FactRequest) : Text :=
  service.cacheKey (Text.ofUuid request.orgId) (Text.ofUuid request.createdBy)
    request.sessionExternalId (request.facts.map FactTriple.modelDump)

/-- Step 1 of `ingest_facts`. -/
def claim (service : IdempotencyService) (redis : Redis) (request : FactRequest)
    (jobId : Text) : ContentHashClaim × Redis :=
  service.claimContentHash redis (Text.ofUuid request.orgId)
    (Text.ofUuid request.createdBy) request.sessionExternalId
    (request.facts.map FactTriple.modelDump) jobId

/-- The later request is answered with the job of the earlier one, which was
the first to claim. -/
def AnsweredAsDuplicate (service : IdempotencyService) (earlier later : FactRequest) : Prop :=
  ∀ jobId jobId' : Text,
    (claim service (claim service (fun _ => none) earlier jobId).2 later jobId').1 =
      ⟨false, jobId⟩

end FactRequest

/-- What the hash keeps of a triple with this content, with sorted keys. -/
def hashedForm (content : Option Text) : Json ℚ :=
  .object
    [("content".toList, contentValue content),
      ("role".toList, .null)]

theorem hashedForm_injective : Function.Injective hashedForm := by
  intro first second same
  cases first <;> cases second <;> simp_all [hashedForm, contentValue]

theorem hashedForm_numberFree (content : Option Text) : (hashedForm content).NumberFree := by
  apply Json.NumberFree.object
  cases content with
  | none => simp [contentValue, Json.NumberFree.null]
  | some text => simp [contentValue, Json.NumberFree.null, Json.NumberFree.string]

theorem sortItems_canonical (facts : List FactTriple) :
    Json.sortItems ((facts.map FactTriple.modelDump).map
        IdempotencyService.canonicalMessage) =
      (facts.map FactTriple.content).map hashedForm := by
  induction facts with
  | nil => rfl
  | cons fact facts induction =>
      simp only [List.map_cons, Json.sortItems, induction]
      congr 1
      cases content : fact.content with
      | none => simp [FactTriple.modelDump, content, contentValue]; rfl
      | some text => simp [FactTriple.modelDump, content, contentValue]; rfl

namespace FactRequest

/-- The requests agree in everything the claim key keeps. -/
def HashedAlike (first second : FactRequest) : Prop :=
  first.orgId = second.orgId ∧ first.createdBy = second.createdBy ∧
    first.sessionExternalId = second.sessionExternalId ∧
    first.facts.map FactTriple.content = second.facts.map FactTriple.content

variable {service : IdempotencyService} (injective : Function.Injective service.sha256)
  (first second : FactRequest)

include injective in
theorem claimKey_eq_iff :
    first.claimKey service = second.claimKey service ↔ HashedAlike first second := by
  have free : ∀ request : FactRequest,
      ∀ item ∈ Json.sortItems
        ((request.facts.map FactTriple.modelDump).map IdempotencyService.canonicalMessage),
        item.NumberFree := by
    intro request item member
    rw [sortItems_canonical] at member
    obtain ⟨content, _, rfl⟩ := List.mem_map.mp member
    exact hashedForm_numberFree content
  rw [claimKey, claimKey,
    IdempotencyService.cacheKey_eq_iff injective (free first) (free second),
    sortItems_canonical, sortItems_canonical,
    (List.map_injective_iff.mpr hashedForm_injective).eq_iff, HashedAlike]
  constructor
  · rintro ⟨sameOrg, sameUser, rest⟩
    exact ⟨Text.ofUuid_inj first.orgId_bound second.orgId_bound sameOrg,
      Text.ofUuid_inj first.createdBy_bound second.createdBy_bound sameUser, rest⟩
  · rintro ⟨sameOrg, sameUser, rest⟩
    exact ⟨congrArg _ sameOrg, congrArg _ sameUser, rest⟩

theorem answeredAsDuplicate_iff :
    AnsweredAsDuplicate service first second ↔
      first.claimKey service = second.claimKey service := by
  constructor
  · intro answered
    exact (IdempotencyService.claimContentHash_replay_iff service [] []).mp (answered [] [])
  · intro sameKey jobId jobId'
    exact (IdempotencyService.claimContentHash_replay_iff service jobId jobId').mpr sameKey

end FactRequest

open FactRequest

/-- A claim key identifies the request, and a duplicate is answered only for an
identical request, exactly for two requests that differ in the organisation,
the user, the session or the contents if they differ at all. -/
theorem claimKey_identifies_iff {service : IdempotencyService}
    (injective : Function.Injective service.sha256) (first second : FactRequest) :
    ((first.claimKey service = second.claimKey service → first = second) ∧
        (AnsweredAsDuplicate service first second → first = second)) ↔
      (HashedAlike first second → first = second) := by
  rw [answeredAsDuplicate_iff, claimKey_eq_iff injective, and_self]

/-- "Acme uses `object`" without a content. -/
def acmeUses (object : Text) (bound : 1 ≤ object.length ∧ object.length ≤ 500) :
    FactTriple :=
  { subject := "Acme".toList
    predicate := "uses".toList
    object := object
    content := none
    confidence := 1
    subject_length := by decide
    predicate_length := by decide
    object_length := bound
    confidence_range := ⟨zero_le_one, le_refl 1⟩ }

/-- A request of one triple. -/
def singleRequest (session : Text) (fact : FactTriple) : FactRequest :=
  { orgId := 1
    projectId := 2
    createdBy := 3
    sessionExternalId := session
    facts := [fact]
    orgId_bound := by decide
    projectId_bound := by decide
    createdBy_bound := by decide
    facts_length := by simp }

/-- A service whose digest is the text itself. -/
def transparentService : IdempotencyService :=
  { environment := "test".toList
    sha256 := id
    literal := fun _ => [] }

theorem claimKey_identifies_otherSession :
    (singleRequest "s1".toList (acmeUses "Go".toList (by decide))).claimKey
        transparentService ≠
      (singleRequest "s2".toList (acmeUses "Go".toList (by decide))).claimKey
        transparentService := by
  intro sameKey
  have identified := (@claimKey_identifies_iff transparentService Function.injective_id
    (singleRequest "s1".toList (acmeUses "Go".toList (by decide)))
    (singleRequest "s2".toList (acmeUses "Go".toList (by decide)))).mpr
      (fun alike => absurd alike.2.2.1 (by decide))
  have sameSession := congrArg FactRequest.sessionExternalId (identified.1 sameKey)
  exact absurd sameSession (by decide)

/-- Two triples without a content share their key: the second is dropped as a
duplicate of the first. -/
theorem untitledTriples_shareKey :
    (singleRequest "s".toList (acmeUses "Go".toList (by decide))).claimKey
          transparentService =
        (singleRequest "s".toList (acmeUses "Rust".toList (by decide))).claimKey
          transparentService ∧
      AnsweredAsDuplicate transparentService
        (singleRequest "s".toList (acmeUses "Go".toList (by decide)))
        (singleRequest "s".toList (acmeUses "Rust".toList (by decide))) ∧
      singleRequest "s".toList (acmeUses "Go".toList (by decide)) ≠
        singleRequest "s".toList (acmeUses "Rust".toList (by decide)) := by
  have sameKey : (singleRequest "s".toList (acmeUses "Go".toList (by decide))).claimKey
        transparentService =
      (singleRequest "s".toList (acmeUses "Rust".toList (by decide))).claimKey
        transparentService := rfl
  refine ⟨sameKey, (answeredAsDuplicate_iff _ _).mpr sameKey, ?_⟩
  intro same
  have sameObjects := congrArg (fun request => request.facts.map FactTriple.object) same
  exact absurd sameObjects (by decide)

end OpenZync.Facts
