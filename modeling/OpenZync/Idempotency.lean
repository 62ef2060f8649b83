import Mathlib.Algebra.Order.Ring.Rat
import OpenZync.Library.JsonReading
import OpenZync.Text

/-!
# Content-level deduplication

`IdempotencyService` hashes a list of message dictionaries together with the
ids of the caller, and the first submission to claim the hash in Redis wins.
The SHA-256 digest and the float rendering of `orjson` are fields of the
service.
-/

namespace OpenZync

open OpenZync.Library

/-- A Python dictionary with string keys, in insertion order. -/
abbrev Dict := List (Text × Json ℚ)

/-- `IdempotencyService`, as far as content hashes go. -/
structure IdempotencyService where
  /-- `settings.ENVIRONMENT`. -/
  environment : Text
  /-- `hashlib.sha256(…).hexdigest()` of the UTF-8 encoding. -/
  sha256 : Text → Text
  /-- How `orjson` writes a float. -/
  literal : ℚ → Text

/-- The values Redis holds under its keys. -/
abbrev Redis := Text → Option Text

structure ContentHashClaim where
  won : Bool
  winner : Text
deriving DecidableEq

namespace IdempotencyService

/-- `**({field: m[field]} if field in m else {})`. -/
def presentField (field : Text) (message : Dict) : Dict :=
  match message.lookup field with
  | some value => [(field, value)]
  | none => []

/-- The canonical form of one message. -/
def canonicalMessage (message : Dict) : Json ℚ :=
  .object <|
    [("role".toList, (message.lookup "role".toList).getD .null),
      ("content".toList, (message.lookup "content".toList).getD .null)] ++
      presentField "metadata".toList message ++ presentField "blobs".toList message

/-- The dictionary that `compute_content_hash` serialises. -/
def canonicalRequest (orgId userId sessionId : Text) (messages : List Dict) : Json ℚ :=
  .object
    [("org_id".toList, .string orgId),
      ("user_id".toList, .string userId),
      ("session_id".toList, .string sessionId),
      ("messages".toList, .array (messages.map canonicalMessage))]

def computeContentHash (service : IdempotencyService) (orgId userId sessionId : Text)
    (messages : List Dict) : Text :=
  service.sha256
    (Json.dumps service.literal (canonicalRequest orgId userId sessionId messages))

/-- `f"OpenZync:{env}:contenthash:"`. -/
def contentPrefix (service : IdempotencyService) : Text :=
  "OpenZync:".toList ++ service.environment ++ ":contenthash:".toList

/-- The Redis key of a claim. -/
def cacheKey (service : IdempotencyService) (orgId userId sessionId : Text)
    (messages : List Dict) : Text :=
  service.contentPrefix ++ service.computeContentHash orgId userId sessionId messages

/-- `claim_content_hash`, whose script reads the key and else sets it. -/
def claimContentHash (service : IdempotencyService) (redis : Redis)
    (orgId userId sessionId : Text) (messages : List Dict) (payload : Text) :
    ContentHashClaim × Redis :=
  match redis (service.cacheKey orgId userId sessionId messages) with
  | some existing => (⟨false, existing⟩, redis)
  | none =>
      (⟨true, payload⟩,
        Function.update redis (service.cacheKey orgId userId sessionId messages)
          (some payload))

section Keys

variable {orgId orgId' userId userId' sessionId sessionId' : Text}
  {messages messages' : List Dict}

theorem sortKeys_canonicalRequest :
    Json.sortKeys (canonicalRequest orgId userId sessionId messages) =
      .object
        [("messages".toList, .array (Json.sortItems (messages.map canonicalMessage))),
          ("org_id".toList, .string orgId),
          ("session_id".toList, .string sessionId),
          ("user_id".toList, .string userId)] :=
  rfl

theorem numberFree_canonicalRequest
    (free : ∀ item ∈ Json.sortItems (messages.map canonicalMessage), item.NumberFree) :
    (Json.sortKeys (canonicalRequest orgId userId sessionId messages)).NumberFree := by
  rw [sortKeys_canonicalRequest]
  apply Json.NumberFree.object
  simp only [List.forall_mem_cons]
  exact ⟨.array free, .string orgId, .string sessionId, .string userId, by simp⟩

/-- A claim key determines the ids and the canonical messages, and nothing
else. -/
theorem cacheKey_eq_iff {service : IdempotencyService}
    (injective : Function.Injective service.sha256)
    (free : ∀ item ∈ Json.sortItems (messages.map canonicalMessage), item.NumberFree)
    (free' : ∀ item ∈ Json.sortItems (messages'.map canonicalMessage), item.NumberFree) :
    service.cacheKey orgId userId sessionId messages =
        service.cacheKey orgId' userId' sessionId' messages' ↔
      orgId = orgId' ∧ userId = userId' ∧ sessionId = sessionId' ∧
        Json.sortItems (messages.map canonicalMessage) =
          Json.sortItems (messages'.map canonicalMessage) := by
  constructor
  · intro sameKey
    have sameText := injective (List.append_cancel_left sameKey)
    have sameForm := (numberFree_canonicalRequest free).render_inj
      (numberFree_canonicalRequest free') sameText
    rw [sortKeys_canonicalRequest, sortKeys_canonicalRequest] at sameForm
    simp only [Json.object.injEq, List.cons.injEq, Prod.mk.injEq, Json.array.injEq,
      Json.string.injEq, true_and, and_true] at sameForm
    obtain ⟨sameMessages, sameOrg, sameSession, sameUser⟩ := sameForm
    exact ⟨sameOrg, sameUser, sameSession, sameMessages⟩
  · rintro ⟨rfl, rfl, rfl, sameMessages⟩
    rw [cacheKey, cacheKey, computeContentHash, computeContentHash, Json.dumps, Json.dumps,
      sortKeys_canonicalRequest, sortKeys_canonicalRequest, sameMessages]

/-- On an empty Redis the second of two submissions replays the first exactly
when the keys agree. -/
theorem claimContentHash_replay_iff (service : IdempotencyService)
    (payload payload' : Text) :
    (service.claimContentHash
        (service.claimContentHash (fun _ => none) orgId userId sessionId messages payload).2
        orgId' userId' sessionId' messages' payload').1 = ⟨false, payload⟩ ↔
      service.cacheKey orgId userId sessionId messages =
        service.cacheKey orgId' userId' sessionId' messages' := by
  simp only [claimContentHash]
  by_cases sameKey : service.cacheKey orgId' userId' sessionId' messages' =
      service.cacheKey orgId userId sessionId messages
  · simp [sameKey]
  · simpa [sameKey, Function.update_of_ne] using Ne.symm sameKey

end Keys

end IdempotencyService

end OpenZync
