import OpenZync.Idempotency
import OpenZync.Library.JsonReading
import OpenZync.Library.Leases
import OpenZync.Library.Segments
import OpenZync.Memory.BlobIngest

/-!
# Idempotency keys

A request may carry a key.  The response to the first request with a key is kept
for two days as JSON, under the organization and the key, and answers the later
ones with the same form field `data`; their files and their project are not
compared.  Between the look-up and the entry lies the whole ingest, during which
other requests with the key come and go; Redis may be unreachable or lose a key.
-/

namespace OpenZync

open OpenZync.Library

/-- The response to an ingest. -/
structure IngestMemoryResponse where
  jobId : Option Text
  episodeCount : Nat
  blobCount : Nat
  status : Text
  message : Text
deriving DecidableEq

namespace IngestMemoryResponse

/-- `model_dump()` -/
def modelDump (response : IngestMemoryResponse) : List (Text × Json Nat) :=
  [("job_id".toList, response.jobId.elim .null .string),
    ("episode_count".toList, .number response.episodeCount),
    ("blob_count".toList, .number response.blobCount),
    ("status".toList, .string response.status),
    ("message".toList, .string response.message)]

/-- A number field with its default; a value of another type is refused. -/
def numberField (value : Option (Json Nat)) : Option Nat :=
  match value with
  | none => some 0
  | some (.number count) => some count
  | some _ => none

/-- A text field with its default. -/
def textField (default : Text) (value : Option (Json Nat)) : Option Text :=
  match value with
  | none => some default
  | some (.string text) => some text
  | some _ => none

def jobIdField (value : Option (Json Nat)) : Option (Option Text) :=
  match value with
  | none => some none
  | some .null => some none
  | some (.string text) => some (some text)
  | some _ => none

/-- `IngestMemoryResponse(**data)` -/
def ofDict (data : List (Text × Json Nat)) : Option IngestMemoryResponse := do
  let jobId ← jobIdField (data.lookup "job_id".toList)
  let episodeCount ← numberField (data.lookup "episode_count".toList)
  let blobCount ← numberField (data.lookup "blob_count".toList)
  let status ← textField "accepted".toList (data.lookup "status".toList)
  let message ← textField "Messages accepted for processing".toList
    (data.lookup "message".toList)
  return ⟨jobId, episodeCount, blobCount, status, message⟩

theorem ofDict_modelDump (response : IngestMemoryResponse) :
    ofDict response.modelDump = some response := by
  obtain ⟨jobId, episodeCount, blobCount, status, message⟩ := response
  cases jobId <;> rfl

end IngestMemoryResponse

inductive IdempotencyStatus where
  | new
  | replay
  | conflict
deriving DecidableEq

structure IdempotencyResult where
  status : IdempotencyStatus
  responseData : Option (Json Nat)
  message : Text

/-- How a request with a key fails. -/
inductive IdempotencyError where
  /-- `ValueError`; the router answers 422 before. -/
  | keyTooLong
  /-- `ConflictError` -/
  | conflict
  /-- The entry is no dictionary. -/
  | attributeError
  /-- The kept response is none. -/
  | invalidResponse
  /-- Redis is not reachable. -/
  | redisError
deriving DecidableEq

namespace IdempotencyService

variable {τ : Type}

/-- `_max_key_length` -/
def maxKeyLength : Nat := 255

/-- `_idem_ttl`, 48 hours. -/
def idemTtl : Time := 172800 * 1000000

/-- `f"OpenZync:{env}:idempotency:"`. -/
def idemPrefix (service : IdempotencyService) : Text :=
  "OpenZync:".toList ++ service.environment ++ ":idempotency:".toList

/-- `f"{prefix}{org_id}:{key}"` -/
def idemCacheKey (service : IdempotencyService) (orgId : Uuid) (key : Text) : Text :=
  service.idemPrefix ++ (Text.ofUuid orgId ++ ':' :: key)

/-- `hash_request_body`, of a body whose numbers are given as `orjson` writes them. -/
def hashRequestBody (service : IdempotencyService) (body : Json Json.NumberText) : Text :=
  service.sha256 (Json.dumps Json.NumberText.text body)

/-- The entry of a key. -/
def idemEntry (bodyHash : Text) (response : IngestMemoryResponse) (createdAt : Text) : Json Nat :=
  .object
    [("response_body".toList, .object response.modelDump),
      ("request_body_hash".toList, .string bodyHash),
      ("created_at".toList, .string createdAt)]

/-- `stored_hash is not None and stored_hash != body_hash` -/
def otherBody (bodyHash : Text) (storedHash : Option (Json Nat)) : Bool :=
  match storedHash with
  | none => false
  | some .null => false
  | some (.string hash) => decide (hash ≠ bodyHash)
  | some _ => true

/-- What a parsed entry says about a request. -/
def judgeEntry (bodyHash : Text) (entry : List (Text × Json Nat)) : IdempotencyResult :=
  if otherBody bodyHash (entry.lookup "request_body_hash".toList) then
    { status := .conflict
      responseData := none
      message := ("Idempotency-Key already used with a different request body. " ++
        "Each Idempotency-Key must uniquely identify a single request.").toList }
  else
    { status := .replay
      responseData := entry.lookup "response_body".toList
      message := "Returning cached response from previous identical request.".toList }

/-- `check_idempotency_key` -/
def checkIdempotencyKey (service : IdempotencyService) (redis : Leases Text Text τ) (now : Time)
    (key bodyHash : Text) (orgId : Uuid) : Except IdempotencyError IdempotencyResult :=
  if maxKeyLength < key.length then .error .keyTooLong
  else
    match redis.held now (service.idemCacheKey orgId key) with
    | none => .ok ⟨.new, none, "Idempotency key is new — proceed with processing.".toList⟩
    | some cached =>
        match Json.loads Json.readNat cached.value with
        | none => .ok ⟨.new, none, "Cached entry was corrupt — treat as new.".toList⟩
        | some (.object entry) => .ok (judgeEntry bodyHash entry)
        | some _ => .error .attributeError

/-- `store_idempotency_key`; `createdAt` is the local clock's text. -/
def storeIdempotencyKey (service : IdempotencyService) (redis : Leases Text Text τ) (now : Time)
    (owner : τ) (key bodyHash : Text) (response : IngestMemoryResponse) (createdAt : Text)
    (orgId : Uuid) : Leases Text Text τ :=
  redis.set (service.idemCacheKey orgId key)
    { value := Json.render (Nat.toDigits 10) (idemEntry bodyHash response createdAt)
      owner := owner
      expiresAt := now + idemTtl }

/-- `MemoryService._check_idempotency_key`: the response to replay, if any. -/
def replayResponse (result : IdempotencyResult) :
    Except IdempotencyError (Option IngestMemoryResponse) :=
  match result.status, result.responseData with
  | .replay, some (.object data) =>
      match IngestMemoryResponse.ofDict data with
      | some response => .ok (some response)
      | none => .error .invalidResponse
  | .replay, some .null => .ok none
  | .replay, some _ => .error .invalidResponse
  | .conflict, _ => .error .conflict
  | _, _ => .ok none

section Entries

variable {service : IdempotencyService} {redis : Leases Text Text τ} {now : Time}
  {orgId orgId' : Uuid} {key key' hash storedHash createdAt : Text}
  {response : IngestMemoryResponse}

/-- A key in Redis belongs to one organization and one header. -/
theorem idemCacheKey_inj (bound : orgId < 2 ^ 128) (bound' : orgId' < 2 ^ 128)
    (same : service.idemCacheKey orgId key = service.idemCacheKey orgId' key') :
    orgId = orgId' ∧ key = key' := by
  have tail := List.append_cancel_left same
  obtain ⟨org, rest⟩ :=
    append_separator_inj (Text.ofUuid_colonFree _) (Text.ofUuid_colonFree _) tail
  exact ⟨Text.ofUuid_inj bound bound' org, rest⟩

/-- An entry answers the requests with its body, and no others. -/
theorem replayResponse_judgeEntry {entry : List (Text × Json Nat)}
    (written : idemEntry storedHash response createdAt = .object entry) :
    replayResponse (judgeEntry hash entry) =
      if storedHash = hash then .ok (some response) else .error .conflict := by
  cases written
  by_cases same : storedHash = hash
  · have data := response.ofDict_modelDump
    simp [judgeEntry, otherBody, List.lookup_cons, replayResponse, same, data]
  · simp [judgeEntry, otherBody, List.lookup_cons, replayResponse, same]

theorem check_of_entry {lease : Lease Text τ} (short : ¬ maxKeyLength < key.length)
    (held : redis.held now (service.idemCacheKey orgId key) = some lease)
    (written : lease.value =
      Json.render (Nat.toDigits 10) (idemEntry storedHash response createdAt)) :
    (service.checkIdempotencyKey redis now key hash orgId).bind replayResponse =
      if storedHash = hash then .ok (some response) else .error .conflict := by
  have read : Json.loads Json.readNat lease.value =
      some (idemEntry storedHash response createdAt) := by
    rw [written]
    exact Json.loads_render Json.readsNumbers_readNat _
  simp only [checkIdempotencyKey, if_neg short, held, read]
  exact replayResponse_judgeEntry rfl

theorem check_of_free (short : ¬ maxKeyLength < key.length)
    (free : redis.held now (service.idemCacheKey orgId key) = none) :
    (service.checkIdempotencyKey redis now key hash orgId).bind replayResponse = .ok none := by
  simp only [checkIdempotencyKey, if_neg short, free]
  rfl

end Entries

end IdempotencyService

/-- A request as the router gets it: the organization, the project of its path, the
header, the parsed form field `data` and the files beside it. -/
structure KeyedRequest where
  orgId : Uuid
  orgId_lt : orgId < 2 ^ 128
  projectId : Uuid
  idempotencyKey : Option Text
  data : Json Json.NumberText
  blobs : List Memory.UploadFile

/-- `body_hash or ""`, where the router hashes the body only for a key that is not
empty. -/
def KeyedRequest.bodyHash (service : IdempotencyService) (request : KeyedRequest) : Text :=
  match request.idempotencyKey with
  | none => []
  | some [] => []
  | some (_ :: _) => service.hashRequestBody request.data

theorem KeyedRequest.bodyHash_of_nonempty {service : IdempotencyService} {request : KeyedRequest}
    {key : Text} (sent : request.idempotencyKey = some key) (nonempty : key ≠ []) :
    request.bodyHash service = service.hashRequestBody request.data := by
  cases key with
  | nil => exact absurd rfl nonempty
  | cons c key => simp only [bodyHash, sent]

/-- Two requests of an organization with one key. -/
def KeyedRequest.SameKey (first second : KeyedRequest) : Prop :=
  first.orgId = second.orgId ∧ first.idempotencyKey = second.idempotencyKey

/-- Where a request stands. -/
inductive RequestPhase where
  | waiting
  /-- Let through: it has no key, or a new one. -/
  | admitted (since : Time)
  /-- Answered with a kept response. -/
  | replayed (answeredAt : Time) (response : IngestMemoryResponse)
  | refused (answeredAt : Time) (error : IdempotencyError)
  /-- The ingest has failed, or its content was there already: nothing is kept. -/
  | ended
  /-- Ingested; the response may have been kept. -/
  | accepted (since : Time) (response : IngestMemoryResponse) (keptAt : Option Time)
deriving DecidableEq

/-- The keys in Redis and the requests. -/
structure IdempotencyState (τ : Type) where
  redis : Leases Text Text τ
  phase : τ → RequestPhase
  clock : Time

inductive IdempotencyAction (τ : Type) where
  | wait (duration : Nat)
  /-- The request is looked up. -/
  | arrive (request : τ) (reachable : Bool)
  /-- The ingest raises or meets the content of another one. -/
  | giveUp (request : τ)
  /-- The ingest has committed; the response is kept if Redis executes the command. -/
  | accept (request : τ) (response : IngestMemoryResponse) (createdAt : Text) (executed : Bool)
  /-- Redis evicts or otherwise loses a key. -/
  | loseKey (key : Text)

namespace IdempotencyState

variable {τ : Type} [DecidableEq τ]

def start (clock : Time) : IdempotencyState τ :=
  { redis := fun _ => none
    phase := fun _ => .waiting
    clock := clock }

def setPhase (state : IdempotencyState τ) (request : τ) (phase : RequestPhase) :
    IdempotencyState τ :=
  { state with phase := Function.update state.phase request phase }

@[simp] theorem setPhase_self (state : IdempotencyState τ) (request : τ) (phase : RequestPhase) :
    (state.setPhase request phase).phase request = phase :=
  Function.update_self ..

@[simp] theorem setPhase_of_ne (state : IdempotencyState τ) {request other : τ}
    (different : other ≠ request) (phase : RequestPhase) :
    (state.setPhase request phase).phase other = state.phase other :=
  Function.update_of_ne different ..

/-- What the look-up of a request comes to. -/
def lookUp (service : IdempotencyService) (state : IdempotencyState τ) (request : KeyedRequest)
    (reachable : Bool) : RequestPhase :=
  match request.idempotencyKey with
  | none => .admitted state.clock
  | some key =>
      if IdempotencyService.maxKeyLength < key.length then .refused state.clock .keyTooLong
      else if !reachable then .refused state.clock .redisError
      else
        match (service.checkIdempotencyKey state.redis state.clock key
            (request.bodyHash service) request.orgId).bind
              IdempotencyService.replayResponse with
        | .ok none => .admitted state.clock
        | .ok (some response) => .replayed state.clock response
        | .error error => .refused state.clock error

/-- The end of `_finalize_ingest`, as far as the key goes. -/
def keep (service : IdempotencyService) (state : IdempotencyState τ) (owner : τ)
    (request : KeyedRequest) (since : Time) (response : IngestMemoryResponse) (createdAt : Text)
    (executed : Bool) : IdempotencyState τ :=
  match request.idempotencyKey, executed with
  | some key, true =>
      { state with
        redis := service.storeIdempotencyKey state.redis state.clock owner key
          (request.bodyHash service) response createdAt request.orgId }.setPhase owner
            (.accepted since response (some state.clock))
  | _, _ => state.setPhase owner (.accepted since response none)

/-- An action that the phase of the request does not allow does nothing. -/
def perform (service : IdempotencyService) (requests : τ → KeyedRequest)
    (state : IdempotencyState τ) : IdempotencyAction τ → IdempotencyState τ
  | .wait duration => { state with clock := state.clock + duration }
  | .arrive request reachable =>
      match state.phase request with
      | .waiting =>
          state.setPhase request (state.lookUp service (requests request) reachable)
      | _ => state
  | .giveUp request =>
      match state.phase request with
      | .admitted _ => state.setPhase request .ended
      | _ => state
  | .accept request response createdAt executed =>
      match state.phase request with
      | .admitted since =>
          state.keep service request (requests request) since response createdAt executed
      | _ => state
  | .loseKey key => { state with redis := state.redis.delete key }

section Soundness

variable {service : IdempotencyService} {requests : τ → KeyedRequest}
  {state later : IdempotencyState τ}

/-- The response of a request, and when it was kept. -/
def Kept (state : IdempotencyState τ) (request : τ) (response : IngestMemoryResponse)
    (keptAt : Time) : Prop :=
  ∃ since, state.phase request = .accepted since response (some keptAt)

/-- A lease holds the entry of the request that has set it. -/
structure EntryOf (service : IdempotencyService) (requests : τ → KeyedRequest)
    (state : IdempotencyState τ) (key : Text) (lease : Lease Text τ) (header : Text)
    (response : IngestMemoryResponse) (createdAt : Text) (keptAt : Time) : Prop where
  sent : (requests lease.owner).idempotencyKey = some header
  under : key = service.idemCacheKey (requests lease.owner).orgId header
  kept : state.Kept lease.owner response keptAt
  value : lease.value = Json.render (Nat.toDigits 10)
    (IdempotencyService.idemEntry ((requests lease.owner).bodyHash service) response createdAt)
  expires : lease.expiresAt = keptAt + IdempotencyService.idemTtl
  past : keptAt ≤ state.clock

/-- The response of a request with the same key was kept when the other one came. -/
def KeptFor (requests : τ → KeyedRequest) (state : IdempotencyState τ) (earlier request : τ)
    (response : IngestMemoryResponse) (answeredAt : Time) : Prop :=
  ∃ keptAt, state.Kept earlier response keptAt ∧
    (requests earlier).SameKey (requests request) ∧
    keptAt ≤ answeredAt ∧ answeredAt < keptAt + IdempotencyService.idemTtl

/-- The header is one that `check_idempotency_key` looks up. -/
def LooksUp (request : KeyedRequest) : Prop :=
  ∃ key, request.idempotencyKey = some key ∧ ¬ IdempotencyService.maxKeyLength < key.length

/-- The answer to a request follows from a response that was kept. -/
def Justified (service : IdempotencyService) (requests : τ → KeyedRequest)
    (state : IdempotencyState τ) (request : τ) : RequestPhase → Prop
  | .replayed answeredAt response =>
      LooksUp (requests request) ∧
        ∃ earlier, KeptFor requests state earlier request response answeredAt ∧
          (requests earlier).bodyHash service = (requests request).bodyHash service
  | .refused answeredAt .conflict =>
      ∃ earlier response, KeptFor requests state earlier request response answeredAt ∧
        (requests earlier).bodyHash service ≠ (requests request).bodyHash service
  | .refused _ .keyTooLong =>
      ∃ key, (requests request).idempotencyKey = some key ∧
        IdempotencyService.maxKeyLength < key.length
  | .refused _ .redisError => True
  | .refused _ _ => False
  | _ => True

/-- What Redis holds was kept by a request, and what a request was answered too. -/
structure Sound (service : IdempotencyService) (requests : τ → KeyedRequest)
    (state : IdempotencyState τ) : Prop where
  entries : ∀ key lease, state.redis key = some lease →
    ∃ header response createdAt keptAt,
      EntryOf service requests state key lease header response createdAt keptAt
  justified : ∀ request, Justified service requests state request (state.phase request)

/-- Later, nothing that was kept is forgotten by the requests. -/
structure Follows (state later : IdempotencyState τ) : Prop where
  kept : ∀ {request response keptAt}, state.Kept request response keptAt →
    later.Kept request response keptAt
  clock : state.clock ≤ later.clock

omit [DecidableEq τ] in
theorem EntryOf.follows {key : Text} {lease : Lease Text τ} {header createdAt : Text}
    {response : IngestMemoryResponse} {keptAt : Time}
    (entry : EntryOf service requests state key lease header response createdAt keptAt)
    (follows : Follows state later) :
    EntryOf service requests later key lease header response createdAt keptAt :=
  { entry with
    kept := follows.kept entry.kept
    past := Int.le_trans entry.past follows.clock }

omit [DecidableEq τ] in
theorem KeptFor.follows {earlier request : τ} {response : IngestMemoryResponse}
    {answeredAt : Time} (kept : KeptFor requests state earlier request response answeredAt)
    (follows : Follows state later) :
    KeptFor requests later earlier request response answeredAt := by
  obtain ⟨keptAt, held, rest⟩ := kept
  exact ⟨keptAt, follows.kept held, rest⟩

omit [DecidableEq τ] in
theorem Justified.follows {request : τ} {phase : RequestPhase}
    (justified : Justified service requests state request phase)
    (follows : Follows state later) : Justified service requests later request phase := by
  cases phase with
  | waiting => exact True.intro
  | admitted since => exact True.intro
  | ended => exact True.intro
  | accepted since response keptAt => exact True.intro
  | replayed answeredAt response =>
      obtain ⟨looksUp, earlier, kept, same⟩ := justified
      exact ⟨looksUp, earlier, kept.follows follows, same⟩
  | refused answeredAt error =>
      cases error with
      | keyTooLong => exact justified
      | redisError => exact True.intro
      | attributeError => exact justified
      | invalidResponse => exact justified
      | conflict =>
          obtain ⟨earlier, response, kept, other⟩ := justified
          exact ⟨earlier, response, kept.follows follows, other⟩

theorem follows_setPhase {request : τ} {phase : RequestPhase}
    (unaccepted : ∀ since response keptAt, state.phase request ≠ .accepted since response keptAt) :
    Follows state (state.setPhase request phase) := by
  refine ⟨?_, Int.le_refl _⟩
  rintro other response keptAt ⟨since, accepted⟩
  have different : other ≠ request := by
    rintro rfl
    exact unaccepted _ _ _ accepted
  exact ⟨since, by rw [setPhase_of_ne state different, accepted]⟩

theorem Sound.setPhase (sound : Sound service requests state) {request : τ}
    {phase : RequestPhase}
    (unaccepted : ∀ since response keptAt, state.phase request ≠ .accepted since response keptAt)
    (justified : Justified service requests state request phase) :
    Sound service requests (state.setPhase request phase) := by
  have follows : Follows state (state.setPhase request phase) := follows_setPhase unaccepted
  refine ⟨?_, ?_⟩
  · intro key lease held
    obtain ⟨header, response, createdAt, keptAt, entry⟩ := sound.entries key lease held
    exact ⟨header, response, createdAt, keptAt, entry.follows follows⟩
  · intro other
    by_cases same : other = request
    · subst same
      rw [setPhase_self]
      exact justified.follows follows
    · rw [setPhase_of_ne state same]
      exact (sound.justified other).follows follows

omit [DecidableEq τ] in
/-- The entry that a request finds is one with its own key. -/
theorem Sound.found (sound : Sound service requests state) {request : τ} {key : Text}
    (header : (requests request).idempotencyKey = some key) {lease : Lease Text τ}
    (held : state.redis.held state.clock
      (service.idemCacheKey (requests request).orgId key) = some lease) :
    ∃ response createdAt,
      KeptFor requests state lease.owner request response state.clock ∧
      lease.value = Json.render (Nat.toDigits 10)
        (IdempotencyService.idemEntry ((requests lease.owner).bodyHash service) response
          createdAt) := by
  obtain ⟨present, alive⟩ := Leases.held_eq_some.mp held
  obtain ⟨header', response, createdAt, keptAt, entry⟩ := sound.entries _ _ present
  obtain ⟨sameOrg, rfl⟩ := IdempotencyService.idemCacheKey_inj (requests request).orgId_lt
    (requests lease.owner).orgId_lt entry.under
  rw [entry.expires] at alive
  exact ⟨response, createdAt, ⟨keptAt, entry.kept,
    ⟨sameOrg.symm, by rw [entry.sent, header]⟩, entry.past, alive⟩, entry.value⟩

omit [DecidableEq τ] in
theorem Sound.lookUp (sound : Sound service requests state) (request : τ) (reachable : Bool) :
    Justified service requests state request
      (state.lookUp service (requests request) reachable) := by
  unfold IdempotencyState.lookUp
  split
  next none => exact True.intro
  next key header =>
      split
      next long => exact ⟨key, header, long⟩
      next short =>
          split
          next => exact True.intro
          next =>
              cases held : state.redis.held state.clock
                  (service.idemCacheKey (requests request).orgId key) with
              | none =>
                  rw [IdempotencyService.check_of_free short held]
                  exact True.intro
              | some lease =>
                  obtain ⟨response, createdAt, kept, written⟩ := sound.found header held
                  rw [IdempotencyService.check_of_entry short held written]
                  by_cases same : (requests lease.owner).bodyHash service =
                      (requests request).bodyHash service
                  · rw [if_pos same]
                    exact ⟨⟨key, header, short⟩, lease.owner, kept, same⟩
                  · rw [if_neg same]
                    exact ⟨lease.owner, response, kept, same⟩

theorem Sound.keep (sound : Sound service requests state) {request : τ} {since : Time}
    (admitted : state.phase request = .admitted since) (response : IngestMemoryResponse)
    (createdAt : Text) (executed : Bool) :
    Sound service requests
      (state.keep service request (requests request) since response createdAt executed) := by
  have unaccepted : ∀ since' response' keptAt,
      state.phase request ≠ .accepted since' response' keptAt := by
    intro since' response' keptAt accepted
    rw [admitted] at accepted
    cases accepted
  unfold IdempotencyState.keep
  split
  next header _ key sent =>
      have accepted : Sound service requests
          (state.setPhase request (.accepted since response (some state.clock))) :=
        sound.setPhase unaccepted True.intro
      let stored := service.storeIdempotencyKey state.redis state.clock request key
        ((requests request).bodyHash service) response createdAt (requests request).orgId
      have follows : Follows (state.setPhase request (.accepted since response (some state.clock)))
          ({ state with redis := stored }.setPhase request
            (.accepted since response (some state.clock))) := ⟨id, Int.le_refl _⟩
      refine ⟨?_, fun other => (accepted.justified other).follows follows⟩
      intro other lease held
      change state.redis.set _ _ other = some lease at held
      by_cases same : other = service.idemCacheKey (requests request).orgId key
      · subst same
        rw [Leases.set, Function.update_self] at held
        cases held
        exact ⟨key, response, createdAt, state.clock, sent, rfl,
          ⟨since, Function.update_self ..⟩, rfl, rfl, Int.le_refl _⟩
      · rw [Leases.set, Function.update_of_ne same] at held
        obtain ⟨header, response, createdAt, keptAt, entry⟩ := accepted.entries other lease held
        exact ⟨header, response, createdAt, keptAt, entry.follows follows⟩
  next => exact sound.setPhase unaccepted True.intro

theorem Sound.perform (sound : Sound service requests state) (action : IdempotencyAction τ) :
    Sound service requests (state.perform service requests action) := by
  cases action with
  | wait duration =>
      have follows : Follows state { state with clock := state.clock + duration } :=
        ⟨id, Int.le_add_of_nonneg_right (Int.natCast_nonneg duration)⟩
      refine ⟨?_, fun request => (sound.justified request).follows follows⟩
      intro key lease held
      obtain ⟨header, response, createdAt, keptAt, entry⟩ := sound.entries key lease held
      exact ⟨header, response, createdAt, keptAt, entry.follows follows⟩
  | arrive request reachable =>
      simp only [IdempotencyState.perform]
      split
      next waiting =>
          refine sound.setPhase ?_ (sound.lookUp request reachable)
          intro since response keptAt accepted
          rw [waiting] at accepted
          cases accepted
      next => exact sound
  | giveUp request =>
      simp only [IdempotencyState.perform]
      split
      next since admitted =>
          refine sound.setPhase ?_ True.intro
          intro since' response keptAt accepted
          rw [admitted] at accepted
          cases accepted
      next => exact sound
  | accept request response createdAt executed =>
      simp only [IdempotencyState.perform]
      split
      next since admitted => exact sound.keep admitted response createdAt executed
      next => exact sound
  | loseKey key =>
      have follows : Follows state { state with redis := state.redis.delete key } :=
        ⟨id, Int.le_refl _⟩
      refine ⟨?_, fun request => (sound.justified request).follows follows⟩
      intro other lease held
      by_cases same : other = key
      · subst same
        change Function.update state.redis other none other = some lease at held
        rw [Function.update_self] at held
        cases held
      · change Function.update state.redis key none other = some lease at held
        rw [Function.update_of_ne same] at held
        obtain ⟨header, response, createdAt, keptAt, entry⟩ := sound.entries other lease held
        exact ⟨header, response, createdAt, keptAt, entry.follows follows⟩

omit [DecidableEq τ] in
theorem sound_start (clock : Time) : Sound service requests (start clock) := by
  refine ⟨?_, fun _ => True.intro⟩
  intro key lease held
  cases held

end Soundness

section Overlaps

variable {service : IdempotencyService} {requests : τ → KeyedRequest}
  {state : IdempotencyState τ}

/-- When a request was let through that has not failed. -/
def admittedSince (state : IdempotencyState τ) (request : τ) : Option Time :=
  match state.phase request with
  | .admitted since => some since
  | .accepted since _ _ => some since
  | _ => none

/-- As long as a response is kept, nobody with its key is let through. -/
structure Covered (service : IdempotencyService) (requests : τ → KeyedRequest)
    (state : IdempotencyState τ) : Prop where
  admitted : ∀ {request since}, state.admittedSince request = some since → since ≤ state.clock
  kept : ∀ {request response keptAt}, state.Kept request response keptAt → keptAt ≤ state.clock
  current : ∀ {request response keptAt}, state.Kept request response keptAt →
    ∃ key lease, (requests request).idempotencyKey = some key ∧
      state.redis (service.idemCacheKey (requests request).orgId key) = some lease ∧
      keptAt + IdempotencyService.idemTtl ≤ lease.expiresAt
  apart : ∀ {earlier response keptAt request since}, state.Kept earlier response keptAt →
    state.admittedSince request = some since →
    (requests earlier).SameKey (requests request) →
    since ≤ keptAt ∨ keptAt + IdempotencyService.idemTtl ≤ since

omit [DecidableEq τ] in
theorem covered_start (clock : Time) : Covered service requests (start clock) := by
  refine ⟨?_, ?_, ?_, ?_⟩
  · intro request since admitted
    cases admitted
  · rintro request response keptAt ⟨since, accepted⟩
    cases accepted
  · rintro request response keptAt ⟨since, accepted⟩
    cases accepted
  · rintro earlier response keptAt request since ⟨since', accepted⟩
    cases accepted

omit [DecidableEq τ] in
/-- A request with a key is let through only where Redis holds nothing under it. -/
theorem Sound.free_of_admitted (sound : Sound service requests state) {request : τ}
    {reachable : Bool} {since : Time}
    (admitted : state.lookUp service (requests request) reachable = .admitted since) :
    since = state.clock ∧ ∀ key, (requests request).idempotencyKey = some key →
      state.redis.held state.clock
        (service.idemCacheKey (requests request).orgId key) = none := by
  unfold IdempotencyState.lookUp at admitted
  split at admitted
  next none =>
      cases admitted
      refine ⟨rfl, ?_⟩
      intro key header
      rw [none] at header
      cases header
  next key header =>
      split at admitted
      next => cases admitted
      next short =>
          split at admitted
          next => cases admitted
          next =>
              cases held : state.redis.held state.clock
                  (service.idemCacheKey (requests request).orgId key) with
              | none =>
                  rw [IdempotencyService.check_of_free short held] at admitted
                  cases admitted
                  refine ⟨rfl, ?_⟩
                  intro key' header'
                  rw [header] at header'
                  cases header'
                  exact held
              | some lease =>
                  obtain ⟨response, createdAt, kept, written⟩ := sound.found header held
                  rw [IdempotencyService.check_of_entry short held written] at admitted
                  split at admitted
                  next _ answer =>
                      split at answer <;> cases answer
                  next => cases admitted
                  next => cases admitted

section LookUps

variable {request : KeyedRequest} {key : Text}

omit [DecidableEq τ] in
theorem lookUp_of_free (sent : request.idempotencyKey = some key)
    (short : ¬ IdempotencyService.maxKeyLength < key.length)
    (free : state.redis.held state.clock (service.idemCacheKey request.orgId key) = none) :
    state.lookUp service request true = .admitted state.clock := by
  simp only [lookUp, sent, if_neg short, Bool.not_true, Bool.false_eq_true, if_false,
    IdempotencyService.check_of_free short free]

omit [DecidableEq τ] in
theorem lookUp_of_entry {lease : Lease Text τ} {storedHash createdAt : Text}
    {response : IngestMemoryResponse} (sent : request.idempotencyKey = some key)
    (short : ¬ IdempotencyService.maxKeyLength < key.length)
    (held : state.redis.held state.clock (service.idemCacheKey request.orgId key) = some lease)
    (written : lease.value = Json.render (Nat.toDigits 10)
      (IdempotencyService.idemEntry storedHash response createdAt)) :
    state.lookUp service request true =
      if storedHash = request.bodyHash service then .replayed state.clock response
      else .refused state.clock .conflict := by
  simp only [lookUp, sent, if_neg short, Bool.not_true, Bool.false_eq_true, if_false,
    IdempotencyService.check_of_entry short held written]
  by_cases same : storedHash = request.bodyHash service
  · rw [if_pos same, if_pos same]
  · rw [if_neg same, if_neg same]

end LookUps

omit [DecidableEq τ] in
theorem lookUp_ne_accepted {request : KeyedRequest} {reachable : Bool} {since : Time}
    {response : IngestMemoryResponse} {keptAt : Option Time} :
    state.lookUp service request reachable ≠ .accepted since response keptAt := by
  unfold IdempotencyState.lookUp
  split
  next => exact RequestPhase.noConfusion
  next =>
      split
      next => exact RequestPhase.noConfusion
      next =>
          split
          next => exact RequestPhase.noConfusion
          next => split <;> exact RequestPhase.noConfusion

/-- A request that was not let through takes another phase. -/
theorem Covered.setPhase (covered : Covered service requests state) {request : τ}
    {phase : RequestPhase}
    (unkept : ∀ since response keptAt, phase ≠ .accepted since response (some keptAt))
    (unaccepted : ∀ since response keptAt, state.phase request ≠ .accepted since response keptAt)
    (fresh : ∀ since, (state.setPhase request phase).admittedSince request = some since →
      since ≤ state.clock ∧
      ∀ {earlier response keptAt}, state.Kept earlier response keptAt →
        (requests earlier).SameKey (requests request) →
        since ≤ keptAt ∨ keptAt + IdempotencyService.idemTtl ≤ since) :
    Covered service requests (state.setPhase request phase) := by
  have before : ∀ {other response keptAt},
      (state.setPhase request phase).Kept other response keptAt →
        state.Kept other response keptAt := by
    rintro other response keptAt ⟨since, accepted⟩
    by_cases same : other = request
    · subst same
      rw [setPhase_self] at accepted
      exact absurd accepted (unkept _ _ _)
    · rw [setPhase_of_ne state same] at accepted
      exact ⟨since, accepted⟩
  have others : ∀ {other}, other ≠ request →
      (state.setPhase request phase).admittedSince other = state.admittedSince other := by
    intro other different
    simp only [admittedSince, setPhase_of_ne state different]
  refine ⟨?_, fun kept => covered.kept (before kept), fun kept => covered.current (before kept), ?_⟩
  · intro other since admitted
    by_cases same : other = request
    · subst same
      exact (fresh since admitted).1
    · rw [others same] at admitted
      exact covered.admitted admitted
  · intro earlier response keptAt other since kept admitted sameKey
    by_cases same : other = request
    · subst same
      exact (fresh since admitted).2 (before kept) sameKey
    · rw [others same] at admitted
      exact covered.apart (before kept) admitted sameKey

omit [DecidableEq τ] in
theorem admittedSince_of_admitted {request : τ} {since : Time}
    (admitted : state.phase request = .admitted since) :
    state.admittedSince request = some since := by
  simp only [admittedSince, admitted]

theorem Covered.keep (covered : Covered service requests state) {request : τ} {since : Time}
    (admitted : state.phase request = .admitted since) (response : IngestMemoryResponse)
    (createdAt : Text) (executed : Bool) :
    Covered service requests
      (state.keep service request (requests request) since response createdAt executed) := by
  have through := admittedSince_of_admitted admitted
  unfold IdempotencyState.keep
  split
  next header _ key sent =>
      let entry : Lease Text τ :=
        { value := Json.render (Nat.toDigits 10) (IdempotencyService.idemEntry
            ((requests request).bodyHash service) response createdAt)
          owner := request
          expiresAt := state.clock + IdempotencyService.idemTtl }
      let after := { state with
        redis := state.redis.set (service.idemCacheKey (requests request).orgId key) entry
        }.setPhase request (.accepted since response (some state.clock))
      change Covered service requests after
      have same : ∀ other, after.admittedSince other = state.admittedSince other := by
        intro other
        by_cases same : other = request
        · subst same
          rw [through]
          simp [after, admittedSince]
        · simp [after, admittedSince, setPhase_of_ne _ same]
      have before : ∀ {other response' keptAt}, after.Kept other response' keptAt →
          other = request ∧ keptAt = state.clock ∨ state.Kept other response' keptAt := by
        rintro other response' keptAt ⟨since', accepted⟩
        by_cases same : other = request
        · subst same
          simp only [after, setPhase_self, RequestPhase.accepted.injEq, Option.some.injEq]
            at accepted
          exact .inl ⟨rfl, accepted.2.2.symm⟩
        · simp only [after, setPhase_of_ne _ same] at accepted
          exact .inr ⟨since', accepted⟩
      refine ⟨?_, ?_, ?_, ?_⟩
      · intro other since' admitted'
        rw [same] at admitted'
        exact covered.admitted admitted'
      · intro other response' keptAt kept
        rcases before kept with ⟨-, rfl⟩ | kept
        · exact Int.le_refl _
        · exact covered.kept kept
      · intro other response' keptAt kept
        rcases before kept with ⟨rfl, rfl⟩ | kept
        · exact ⟨key, entry, sent, Function.update_self .., Int.le_refl _⟩
        · obtain ⟨key', lease, sent', held, long⟩ := covered.current kept
          by_cases sameKey : service.idemCacheKey (requests other).orgId key' =
              service.idemCacheKey (requests request).orgId key
          · refine ⟨key', entry, sent', ?_, Int.add_le_add_right (covered.kept kept) _⟩
            rw [sameKey]
            exact Function.update_self ..
          · exact ⟨key', lease, sent', (Function.update_of_ne sameKey ..).trans held, long⟩
      · intro earlier response' keptAt other since' kept admitted' sameKey
        rw [same] at admitted'
        rcases before kept with ⟨-, rfl⟩ | kept
        · exact .inl (covered.admitted admitted')
        · exact covered.apart kept admitted' sameKey
  next =>
      refine covered.setPhase ?_ ?_ ?_
      · intro since' response' keptAt same
        cases same
      · intro since' response' keptAt accepted
        rw [admitted] at accepted
        cases accepted
      · intro since' admitted'
        simp only [admittedSince, setPhase_self, Option.some.injEq] at admitted'
        subst admitted'
        exact ⟨covered.admitted through, fun kept sameKey => covered.apart kept through sameKey⟩

theorem Covered.perform (covered : Covered service requests state)
    (sound : Sound service requests state) {action : IdempotencyAction τ}
    (keeps : ∀ key, action ≠ .loseKey key) :
    Covered service requests (state.perform service requests action) := by
  cases action with
  | wait duration =>
      have later : state.clock ≤ state.clock + duration :=
        Int.le_add_of_nonneg_right (Int.natCast_nonneg duration)
      exact ⟨fun admitted => Int.le_trans (covered.admitted admitted) later,
        fun kept => Int.le_trans (covered.kept kept) later, covered.current, covered.apart⟩
  | arrive request reachable =>
      simp only [IdempotencyState.perform]
      split
      next waiting =>
          refine covered.setPhase ?_ ?_ ?_
          · intro since response keptAt
            exact lookUp_ne_accepted
          · intro since response keptAt accepted
            rw [waiting] at accepted
            cases accepted
          · intro since admitted
            simp only [admittedSince, setPhase_self] at admitted
            split at admitted
            next since' lookedUp =>
                cases admitted
                obtain ⟨rfl, free⟩ := sound.free_of_admitted lookedUp
                refine ⟨Int.le_refl _, ?_⟩
                intro earlier response keptAt kept sameKey
                obtain ⟨key, lease, sent, held, long⟩ := covered.current kept
                have none := free key (sameKey.2.symm.trans sent)
                rw [← sameKey.1] at none
                have expired : ¬ state.clock < lease.expiresAt := by
                  intro alive
                  rw [Leases.held_eq_some.mpr ⟨held, alive⟩] at none
                  cases none
                exact .inr (Int.le_trans long (Int.not_lt.mp expired))
            next _ _ _ lookedUp => exact absurd lookedUp lookUp_ne_accepted
            next => cases admitted
      next => exact covered
  | giveUp request =>
      simp only [IdempotencyState.perform]
      split
      next since admitted =>
          refine covered.setPhase ?_ ?_ ?_
          · intro since response keptAt accepted
            cases accepted
          · intro since response keptAt accepted
            rw [admitted] at accepted
            cases accepted
          · intro since' admitted'
            simp only [admittedSince, setPhase_self] at admitted'
            cases admitted'
      next => exact covered
  | accept request response createdAt executed =>
      simp only [IdempotencyState.perform]
      split
      next since admitted => exact covered.keep admitted response createdAt executed
      next => exact covered
  | loseKey key => exact absurd rfl (keeps key)

end Overlaps

section Runs

variable {service : IdempotencyService} {requests : τ → KeyedRequest}

/-- The state after the actions. -/
def after (service : IdempotencyService) (requests : τ → KeyedRequest) (clock : Time)
    (actions : List (IdempotencyAction τ)) : IdempotencyState τ :=
  actions.foldl (perform service requests) (start clock)

theorem sound_after (clock : Time) (actions : List (IdempotencyAction τ)) :
    Sound service requests (after service requests clock actions) :=
  List.foldlRecOn actions (perform service requests) (sound_start clock)
    fun _ sound action _ => sound.perform action

theorem covered_after (clock : Time) {actions : List (IdempotencyAction τ)}
    (keeps : ∀ key, .loseKey key ∉ actions) :
    Covered service requests (after service requests clock actions) := by
  have step : ∀ state : IdempotencyState τ,
      Sound service requests state ∧ Covered service requests state → ∀ action ∈ actions,
        Sound service requests (state.perform service requests action) ∧
          Covered service requests (state.perform service requests action) := by
    intro state invariant action member
    refine ⟨invariant.1.perform action, invariant.2.perform invariant.1 ?_⟩
    rintro key rfl
    exact keeps key member
  have both := List.foldlRecOn
    (motive := fun state => Sound service requests state ∧ Covered service requests state)
    actions (perform service requests) ⟨sound_start clock, covered_start clock⟩ step
  exact both.2

/-- Whatever happens to the keys in Redis, a request is answered with a kept response
only where an accepted request of the same organization with the same key and the same
hash kept it less than two days before; it is refused only for a long key, for a kept
response of a request with another hash, or because Redis is not reachable. -/
theorem answers_follow_keys (service : IdempotencyService) (requests : τ → KeyedRequest)
    (clock : Time) (actions : List (IdempotencyAction τ)) (request : τ) :
    (∀ answeredAt response,
      (after service requests clock actions).phase request = .replayed answeredAt response →
      ∃ earlier, KeptFor requests (after service requests clock actions) earlier request response
          answeredAt ∧
        (requests earlier).bodyHash service = (requests request).bodyHash service) ∧
    (∀ answeredAt error,
      (after service requests clock actions).phase request = .refused answeredAt error →
      error = .redisError ∨
      error = .keyTooLong ∧ (∃ key, (requests request).idempotencyKey = some key ∧
        IdempotencyService.maxKeyLength < key.length) ∨
      error = .conflict ∧ ∃ earlier response,
        KeptFor requests (after service requests clock actions) earlier request response
          answeredAt ∧
        (requests earlier).bodyHash service ≠ (requests request).bodyHash service) := by
  have justified : Justified service requests (after service requests clock actions) request _ :=
    (sound_after clock actions).justified request
  refine ⟨?_, ?_⟩
  · intro answeredAt response replayed
    rw [replayed] at justified
    exact justified.2
  · intro answeredAt error refused
    rw [refused] at justified
    cases error with
    | redisError => exact .inl rfl
    | keyTooLong => exact .inr (.inl ⟨rfl, justified⟩)
    | conflict => exact .inr (.inr ⟨rfl, justified⟩)
    | attributeError => exact justified.elim
    | invalidResponse => exact justified.elim

/-- Where Redis keeps its keys, a request is let through only before a response is kept
under its key or two days after: of two that are let through meanwhile, the second came
before the first was done. -/
theorem admitted_before_kept (service : IdempotencyService) (requests : τ → KeyedRequest)
    (clock : Time) {actions : List (IdempotencyAction τ)}
    (keeps : ∀ key, .loseKey key ∉ actions) {first second : τ}
    {response : IngestMemoryResponse} {keptAt since : Time}
    (kept : (after service requests clock actions).Kept first response keptAt)
    (admitted : (after service requests clock actions).admittedSince second = some since)
    (sameKey : (requests first).SameKey (requests second)) :
    since ≤ keptAt ∨ keptAt + IdempotencyService.idemTtl ≤ since :=
  (covered_after clock keeps).apart kept admitted sameKey

/-- A service whose digests are the texts themselves. -/
def plainService : IdempotencyService :=
  { environment := "test".toList
    sha256 := id
    literal := fun _ => [] }

def oneKey (_ : Bool) : KeyedRequest :=
  { orgId := 0
    orgId_lt := by decide
    projectId := 0
    idempotencyKey := some "key".toList
    data := .null
    blobs := [] }

/-- The second request comes before the response to the first one is kept. -/
def overlappingRun : List (IdempotencyAction Bool) :=
  [.arrive true true, .wait 3, .arrive false true, .wait 2,
    .accept true ⟨none, 1, 0, [], []⟩ [] true]

theorem admitted_before_kept_overlappingRun :
    (3 : Time) ≤ 5 ∨ 5 + IdempotencyService.idemTtl ≤ (3 : Time) := by
  have keeps : ∀ key, .loseKey key ∉ overlappingRun := by
    intro key
    simp [overlappingRun]
  have kept : (after plainService oneKey 0 overlappingRun).Kept true ⟨none, 1, 0, [], []⟩ 5 :=
    ⟨0, by decide +kernel⟩
  have admitted : (after plainService oneKey 0 overlappingRun).admittedSince false = some 3 := by
    decide +kernel
  exact admitted_before_kept plainService oneKey 0 keeps kept admitted ⟨rfl, rfl⟩

end Runs

section Replays

/-- One request after the other, both under one key. -/
def twiceRun : List (IdempotencyAction Bool) :=
  [.arrive true true, .accept true ⟨none, 1, 0, [], []⟩ [] true, .arrive false true]

/-- The second request is answered with the response to the first, where the hashes
are the same. -/
theorem replayed_twice (service : IdempotencyService) {requests : Bool → KeyedRequest} {key : Text}
    (sent : ∀ request, (requests request).idempotencyKey = some key)
    (short : ¬ IdempotencyService.maxKeyLength < key.length)
    (sameOrg : (requests true).orgId = (requests false).orgId)
    (sameHash : (requests true).bodyHash service = (requests false).bodyHash service) :
    (after service requests 0 twiceRun).phase false = .replayed 0 ⟨none, 1, 0, [], []⟩ := by
  have admitted : (start 0 : IdempotencyState Bool).lookUp service (requests true) true =
      .admitted 0 :=
    lookUp_of_free (sent true) short rfl
  have first : perform service requests (start 0) (.arrive true true) =
      (start 0).setPhase true (.admitted 0) := by
    change (start 0).setPhase true _ = _
    rw [admitted]
  let entry : Lease Text Bool :=
    { value := Json.render (Nat.toDigits 10) (IdempotencyService.idemEntry
        ((requests true).bodyHash service) ⟨none, 1, 0, [], []⟩ [])
      owner := true
      expiresAt := 0 + IdempotencyService.idemTtl }
  let kept : IdempotencyState Bool :=
    ({ start 0 with
        redis := (start 0).redis.set (service.idemCacheKey (requests true).orgId key) entry
      }.setPhase true (.admitted 0)).setPhase true (.accepted 0 ⟨none, 1, 0, [], []⟩ (some 0))
  have second : perform service requests ((start 0).setPhase true (.admitted 0))
      (.accept true ⟨none, 1, 0, [], []⟩ [] true) = kept := by
    simp only [perform, setPhase_self, keep, sent]
    rfl
  have held : kept.redis.held 0 (service.idemCacheKey (requests false).orgId key) =
      some entry := by
    rw [← sameOrg]
    exact Leases.held_set_self (show (0 : Time) < 0 + IdempotencyService.idemTtl by decide)
  have replayed : kept.lookUp service (requests false) true =
      .replayed 0 ⟨none, 1, 0, [], []⟩ :=
    (lookUp_of_entry (sent false) short held rfl).trans (if_pos sameHash)
  rw [after, twiceRun, List.foldl_cons, first, List.foldl_cons, second]
  change (kept.setPhase false (kept.lookUp service (requests false) true)).phase false = _
  rw [setPhase_self, replayed]

/-- In every run, who is answered with a kept response under the key has sent a request
like the one that kept it. -/
def ReplaysAlike (service : IdempotencyService) (key : Text)
    (alike : KeyedRequest → KeyedRequest → Prop) : Prop :=
  ∀ (τ : Type) [DecidableEq τ] (requests : τ → KeyedRequest) (clock : Time)
    (actions : List (IdempotencyAction τ)) (request : τ) (answeredAt : Time)
    (response : IngestMemoryResponse),
    (requests request).idempotencyKey = some key →
    (after service requests clock actions).phase request = .replayed answeredAt response →
    ∃ earlier, KeptFor requests (after service requests clock actions) earlier request response
        answeredAt ∧
      alike (requests earlier) (requests request)

/-- The second of two requests with one hash is answered like the first. -/
theorem ReplaysAlike.of_pair {service : IdempotencyService} {key : Text}
    {alike : KeyedRequest → KeyedRequest → Prop} (replays : ReplaysAlike service key alike)
    {requests : Bool → KeyedRequest}
    (sent : ∀ request, (requests request).idempotencyKey = some key)
    (short : ¬ IdempotencyService.maxKeyLength < key.length)
    (sameOrg : (requests true).orgId = (requests false).orgId)
    (sameHash : (requests true).bodyHash service = (requests false).bodyHash service) :
    alike (requests true) (requests false) := by
  have replayed := replayed_twice service sent short sameOrg sameHash
  obtain ⟨earlier, ⟨keptAt, ⟨since, accepted⟩, -⟩, same⟩ :=
    replays Bool requests 0 twiceRun false 0 _ (sent false) replayed
  cases earlier with
  | false =>
      rw [replayed] at accepted
      cases accepted
  | true => exact same

theorem replaysAlike_of_long {service : IdempotencyService} {key : Text}
    (long : IdempotencyService.maxKeyLength < key.length)
    (alike : KeyedRequest → KeyedRequest → Prop) : ReplaysAlike service key alike := by
  intro τ _ requests clock actions request answeredAt response sent replayed
  have justified : Justified service requests (after service requests clock actions) request _ :=
    (sound_after clock actions).justified request
  rw [replayed] at justified
  obtain ⟨⟨key', sent', short⟩, -⟩ := justified
  rw [sent] at sent'
  cases sent'
  exact absurd long short

/-- The form fields are the same JSON, up to the order of members. -/
def KeyedRequest.SameData (first second : KeyedRequest) : Prop :=
  Json.sortKeys first.data = Json.sortKeys second.data

def KeyedRequest.SameBlobs (first second : KeyedRequest) : Prop :=
  first.blobs = second.blobs

def KeyedRequest.SameProject (first second : KeyedRequest) : Prop :=
  first.projectId = second.projectId

/-- Two form fields under one key. -/
def otherData (key : Text) (first : Bool) : KeyedRequest :=
  { orgId := 0
    orgId_lt := by decide
    projectId := 0
    idempotencyKey := some key
    data := .string (if first then "a".toList else "b".toList)
    blobs := [] }

/-- One form field with a file for one project, and without it for another. -/
def otherBlobs (key : Text) (first : Bool) : KeyedRequest :=
  { orgId := 0
    orgId_lt := by decide
    projectId := if first then 0 else 1
    idempotencyKey := some key
    data := .null
    blobs := if first then [⟨some "note.txt".toList, []⟩] else [] }

/-- Requests that are answered with a kept response have the form field of the request
that kept it under every key but the empty one; their files and their project may be
others under every key that is looked up. -/
theorem replays_same_data_iff (service : IdempotencyService)
    (injective : Function.Injective service.sha256) (key : Text) :
    (ReplaysAlike service key KeyedRequest.SameData ↔ key ≠ []) ∧
      (ReplaysAlike service key KeyedRequest.SameBlobs ↔
        IdempotencyService.maxKeyLength < key.length) ∧
      (ReplaysAlike service key KeyedRequest.SameProject ↔
        IdempotencyService.maxKeyLength < key.length) := by
  refine ⟨⟨?_, ?_⟩, ⟨?_, fun long => replaysAlike_of_long long _⟩,
    ⟨?_, fun long => replaysAlike_of_long long _⟩⟩
  · rintro replays rfl
    have same := @ReplaysAlike.of_pair _ _ _ replays (otherData [])
      (fun _ => rfl) (Nat.not_lt_zero _) rfl rfl
    cases same
  · intro nonempty τ _ requests clock actions request answeredAt response sent replayed
    have justified : Justified service requests (after service requests clock actions) request _ :=
      (sound_after clock actions).justified request
    rw [replayed] at justified
    obtain ⟨-, earlier, kept, sameHash⟩ := justified
    refine ⟨earlier, kept, ?_⟩
    have sent' : (requests earlier).idempotencyKey = some key := by
      obtain ⟨keptAt, -, sameKey, -⟩ := kept
      rw [sameKey.2, sent]
    rw [KeyedRequest.bodyHash_of_nonempty sent' nonempty,
      KeyedRequest.bodyHash_of_nonempty sent nonempty] at sameHash
    exact Json.sortKeys_eq_of_dumps Json.readsNumbers_readNumberText (injective sameHash)
  · intro replays
    by_contra short
    have same := @ReplaysAlike.of_pair _ _ _ replays (otherBlobs key) (fun _ => rfl) short rfl rfl
    cases same
  · intro replays
    by_contra short
    have same := @ReplaysAlike.of_pair _ _ _ replays (otherBlobs key) (fun _ => rfl) short rfl rfl
    cases same

/-- Under the key `key` the file is left out of the comparison. -/
theorem replays_same_data_iff_plainService :
    ReplaysAlike plainService "key".toList KeyedRequest.SameData ∧
      ¬ ReplaysAlike plainService "key".toList KeyedRequest.SameBlobs := by
  have settled := replays_same_data_iff plainService Function.injective_id "key".toList
  exact ⟨settled.1.mpr (by decide), fun replays => absurd (settled.2.1.mp replays) (by decide)⟩

end Replays

end IdempotencyState

end OpenZync
