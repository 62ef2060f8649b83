import Mathlib.Data.List.Infix
import Mathlib.Data.Nat.Digits.Defs
import Mathlib.Logic.Function.Basic
import OpenZync.Library.Execution
import OpenZync.Library.JsonReading
import OpenZync.Library.ReadCommitted
import OpenZync.Text

/-!
# Webhook endpoints and their signing secrets

Every endpoint signs its deliveries with a secret of its own, which is stored as
Transit ciphertext and shown once.  The calls of `WebhookService` run in
transactions of their own; `emit` starts one coroutine for each endpoint, and these
are interrupted wherever they await.  Legacy rows have plaintext secrets, or none
until the first `emit` backfills one.
-/

namespace OpenZync.Webhooks

open OpenZync.Library

/-- What `WebhookService` reads and writes of a row of `webhook_endpoints`. -/
structure WebhookEndpoint where
  id : Uuid
  organizationId : Uuid
  name : Text
  url : Text
  /-- A JSON array of event types. -/
  events : Text
  isActive : Bool
  signingSecret : Option Text
deriving DecidableEq

/-- `_is_transit_ciphertext`. -/
def isTransitCiphertext (value : Text) : Bool :=
  "vault:v".toList.isPrefixOf value

/-- The key `webhook-secret` of OpenBao Transit, with the endpoint id as its context:
an encryption is never the same twice, and is decrypted with the same context. -/
structure TransitManager where
  encryptWebhookSecret : Nat → Uuid → Text → Text
  decryptWebhookSecret : Uuid → Text → Option Text
  versioned : ∀ nonce webhookId secret,
    isTransitCiphertext (encryptWebhookSecret nonce webhookId secret) = true
  decrypt_encrypt : ∀ nonce webhookId secret,
    decryptWebhookSecret webhookId (encryptWebhookSecret nonce webhookId secret) = some secret

/-- What the service is built with, and what it takes from the standard library and from
`orjson`. -/
structure WebhookService (ν : Type) where
  transit : Option TransitManager
  /-- The hex digest of HMAC-SHA256. -/
  hmacSha256 : Text → Text → Text
  literal : ν → Text
  readNumber : Text → Option (ν × Text)
  isZero : ν → Bool
  readsNumbers : Json.ReadsNumbers literal readNumber

/-- The job `deliver_webhook`. -/
structure DeliverWebhook where
  endpointId : Uuid
  endpointUrl : Text
  body : Text
  eventType : Text
  signature : Text
deriving DecidableEq

/-- `sign_payload` at the given second. -/
def signPayload (hmacSha256 : Text → Text → Text) (secret payload : Text) (timestamp : Nat) :
    Text :=
  "t=".toList ++ Nat.toDigits 10 timestamp ++ ",v1=".toList ++
    hmacSha256 secret (Nat.toDigits 10 timestamp ++ '.' :: payload)

namespace WebhookService

variable {ν : Type} (service : WebhookService ν)

/-- A value that is false in an `if`. -/
def falsy : Json ν → Bool
  | .null => true
  | .bool value => !value
  | .number value => service.isZero value
  | .string value => value.isEmpty
  | .array items => items.isEmpty
  | .object members => members.isEmpty

/-- `event_type in subscribed`, which is a `TypeError` for numbers and booleans. -/
def contains (eventType : Text) : Json ν → Except Unit Bool
  | .string value => .ok (decide (eventType <:+: value))
  | .array items => .ok (items.any fun
      | .string item => item = eventType
      | _ => false)
  | .object members => .ok (members.any fun member => member.1 = eventType)
  | _ => .error ()

/-- `_endpoint_subscribes_to`.  The column is read as compact JSON without blanks: nothing but
`orjson.dumps` writes it, where `orjson.loads` would take blanks as well. -/
def endpointSubscribesTo (endpoint : WebhookEndpoint) (eventType : Text) : Except Unit Bool :=
  match Json.loads service.readNumber endpoint.events with
  | none => .ok false
  | some subscribed =>
      if service.falsy subscribed then .ok true else contains eventType subscribed

/-- `get_active_endpoints_for_event` on the rows that the transaction sees. -/
def activeEndpointsFor (organizationId : Uuid) (eventType : Text) :
    List WebhookEndpoint → Except Unit (List WebhookEndpoint)
  | [] => .ok []
  | endpoint :: endpoints => do
      let others ← activeEndpointsFor organizationId eventType endpoints
      if endpoint.organizationId = organizationId ∧ endpoint.isActive then
        let subscribed ← service.endpointSubscribesTo endpoint eventType
        return if subscribed then endpoint :: others else others
      else return others

/-- The `events` column of the given event types. -/
def dumpsEvents (events : List Text) : Text :=
  Json.render service.literal (.array (events.map Json.string))

/-- The body of a delivery. -/
def deliveryBody (eventType : Text) (payload : Option (Json ν)) : Text :=
  Json.render service.literal
    (.object [("type".toList, .string eventType), ("payload".toList, payload.getD (.object []))])

/-- `_encrypt_secret`, where Transit answers or not; an error is an
`ExternalServiceError`. -/
def encryptSecret (answers : Bool) (nonce : Nat) (endpointId : Uuid) (secret : Text) :
    Option Text :=
  match service.transit with
  | none => none
  | some transit =>
      if answers then some (transit.encryptWebhookSecret nonce endpointId secret) else none

/-- The branches of `_decrypt_secret_value` after the empty value. -/
def plaintext (answers : Bool) (endpointId : Uuid) (raw : Text) : Option Text :=
  if isTransitCiphertext raw then
    match service.transit with
    | none => none
    | some transit => if answers then transit.decryptWebhookSecret endpointId raw else none
  else some raw

/-- `_decrypt_secret_value`. -/
def decryptSecretValue (answers : Bool) (endpointId : Uuid) (raw : Option Text) : Option Text :=
  match raw with
  | some (c :: text) => service.plaintext answers endpointId (c :: text)
  | _ => none

/-- The job that `_enqueue_one` enqueues. -/
def delivery (endpoint : WebhookEndpoint) (eventType : Text) (payload : Option (Json ν))
    (secret : Text) (timestamp : Nat) : DeliverWebhook :=
  { endpointId := endpoint.id
    endpointUrl := endpoint.url
    body := service.deliveryBody eventType payload
    eventType := eventType
    signature := signPayload service.hmacSha256 secret (service.deliveryBody eventType payload)
      timestamp }

end WebhookService

/-- The values that `update_endpoint` gets. -/
structure EndpointUpdates where
  name : Option Text
  url : Option Text
  events : Option (List Text)
  isActive : Option Bool
  signingSecret : Option Text

/-- The row after `update`, where the secret has been encrypted. -/
def WebhookService.updated {ν : Type} (service : WebhookService ν) (updates : EndpointUpdates)
    (ciphertext : Option Text) (row : WebhookEndpoint) : WebhookEndpoint :=
  { row with
    name := updates.name.getD row.name
    url := updates.url.getD row.url
    events := (updates.events.map service.dumpsEvents).getD row.events
    isActive := updates.isActive.getD row.isActive
    signingSecret := ciphertext.or row.signingSecret }

/-- `update` writes nothing when there are no values. -/
def EndpointUpdates.isEmpty (updates : EndpointUpdates) : Bool :=
  updates.name.isNone && updates.url.isNone && updates.events.isNone &&
    updates.isActive.isNone && updates.signingSecret.isNone

/-- The calls of the service.  `toggle_endpoint` is an update of `is_active`. -/
inductive WebhookCall (ν : Type) where
  | createEndpoint (organizationId : Uuid) (name url : Text) (events : Option (List Text))
  | rotateEndpointSecret (endpointId organizationId : Uuid)
  | updateEndpoint (endpointId organizationId : Uuid) (updates : EndpointUpdates)
  | deleteEndpoint (endpointId organizationId : Uuid)
  | emit (organizationId : Uuid) (eventType : Text) (payload : Option (Json ν))

/-- The endpoint that is looked up first, and the organization it must have. -/
def WebhookCall.target {ν : Type} : WebhookCall ν → Option (Uuid × Uuid)
  | .rotateEndpointSecret endpointId organizationId => some (endpointId, organizationId)
  | .updateEndpoint endpointId organizationId _ => some (endpointId, organizationId)
  | .deleteEndpoint endpointId organizationId => some (endpointId, organizationId)
  | .createEndpoint .. => none
  | .emit .. => none

/-- How `ARQPool.enqueue` ends.  ARQ may store nothing and answer with none, which is
logged; an error or a cancellation comes before or after the job is stored. -/
inductive EnqueueEnding where
  | stored
  | declined
  | refused
  | unanswered
deriving DecidableEq

/-- The job is in the queue. -/
def EnqueueEnding.stores : EnqueueEnding → Bool
  | .stored => true
  | .declined => false
  | .refused => false
  | .unanswered => true

/-- The coroutines of an `emit`. -/
structure Emission where
  /-- Those that have read nothing but their endpoint. -/
  begun : List WebhookEndpoint
  /-- Those that another call was ahead of, with the secrets they encrypted. -/
  lost : List (WebhookEndpoint × Text)
  /-- The endpoints that were logged and left out. -/
  skipped : List Uuid
  /-- The endpoints whose jobs are in the queue. -/
  stored : List Uuid
  /-- The endpoints whose jobs ARQ has not taken, which is logged. -/
  declined : List Uuid
  /-- The endpoints whose coroutines raised before a job was in the queue. -/
  failed : List Uuid
  /-- The endpoints whose coroutines raised with the job in the queue. -/
  unanswered : List Uuid
  /-- There was an error before the coroutines. -/
  aborted : Bool
deriving DecidableEq

/-- A coroutine has raised, or there was an error before. -/
def Emission.raised (emission : Emission) : Bool :=
  emission.aborted || !emission.failed.isEmpty || !emission.unanswered.isEmpty

/-- What `emit` returns: `gather` returns with the last coroutine or raises with the first
error.  Where the `emit` itself is cancelled it returns nothing. -/
def Emission.answer (emission : Emission) : Option Bool :=
  if emission.raised then some false
  else if emission.begun.isEmpty && emission.lost.isEmpty then some true
  else none

def Emission.ofEndpoints (endpoints : List WebhookEndpoint) : Emission :=
  { begun := endpoints
    lost := []
    skipped := []
    stored := []
    declined := []
    failed := []
    unanswered := []
    aborted := false }

def Emission.abort : Emission :=
  { Emission.ofEndpoints [] with aborted := true }

def Emission.skip (emission : Emission) (endpointId : Uuid) : Emission :=
  { emission with skipped := endpointId :: emission.skipped }

def Emission.fail (emission : Emission) (endpointId : Uuid) : Emission :=
  { emission with failed := endpointId :: emission.failed }

/-- A coroutine ends with its `enqueue`. -/
def Emission.settle (emission : Emission) (endpointId : Uuid) : EnqueueEnding → Emission
  | .stored => { emission with stored := endpointId :: emission.stored }
  | .declined => { emission with declined := endpointId :: emission.declined }
  | .refused => emission.fail endpointId
  | .unanswered => { emission with unanswered := endpointId :: emission.unanswered }

/-- The coroutine of an endpoint goes on. -/
def Emission.begin (emission : Emission) (endpoint : WebhookEndpoint) : Emission :=
  { emission with begun := emission.begun.erase endpoint }

/-- A call waits, has found the endpoint to be its organization's, runs its coroutines,
or has returned. -/
inductive CallPhase where
  | waiting
  | owner
  | emitting (emission : Emission)
  | returned
deriving DecidableEq

/-- The call has returned, or an `emit` returns or raises. -/
def CallPhase.mayCommit : CallPhase → Bool
  | .waiting => false
  | .owner => false
  | .emitting emission => emission.answer.isSome
  | .returned => true

/-- A secret in a response. -/
structure ShownSecret where
  organizationId : Uuid
  endpointId : Uuid
  secret : Text
deriving DecidableEq

/-- What there has been so far. -/
structure Ledger where
  /-- The ids of all rows, with their organizations. -/
  ids : List (Uuid × Uuid)
  /-- Generated, given and legacy secrets, with their endpoints. -/
  secrets : List (Uuid × Text)

/-- The rows, the calls and the jobs. -/
structure WebhookState (τ : Type) where
  ledger : Ledger
  table : Uuid → Cell τ (Option WebhookEndpoint)
  phase : τ → CallPhase
  jobs : List (τ × DeliverWebhook)
  shown : List ShownSecret

/-- What happens next.  A generated id and a generated token, and the answers of the
other services, are part of it. -/
inductive WebhookAction (τ : Type) where
  | create (call : τ) (endpointId : Uuid) (token : Text) (nonce : Nat) (encrypts : Bool)
  | check (call : τ)
  | change (call : τ) (token : Text) (nonce : Nat) (encrypts : Bool)
  | select (call : τ) (answers ready : Bool)
  | sign (call : τ) (endpoint : WebhookEndpoint) (timestamp : Nat) (decrypts : Bool)
      (enqueue : EnqueueEnding)
  | backfill (call : τ) (endpoint : WebhookEndpoint) (token : Text) (nonce timestamp : Nat)
      (encrypts : Bool) (enqueue : EnqueueEnding)
  | reread (call : τ) (endpoint : WebhookEndpoint) (ciphertext : Text) (fromDatabase : Bool)
      (timestamp : Nat) (decrypts : Bool) (enqueue : EnqueueEnding)
  | commit (call : τ)
  | rollBack (call : τ)

namespace WebhookState

variable {τ ν : Type}

/-- The table with its rows, and their secrets. -/
def start (service : WebhookService ν) (rows : List WebhookEndpoint) : WebhookState τ :=
  { ledger :=
      { ids := rows.map fun row => (row.id, row.organizationId)
        secrets := rows.filterMap fun row =>
          (service.decryptSecretValue true row.id row.signingSecret).map fun secret =>
            (row.id, secret) }
    table := fun id => .free (rows.find? fun row => row.id = id)
    phase := fun _ => .waiting
    jobs := []
    shown := [] }

def generate (state : WebhookState τ) (endpointId : Uuid) (secret : Text) : WebhookState τ :=
  { state with
    ledger := { state.ledger with secrets := (endpointId, secret) :: state.ledger.secrets } }

/-- The response with the secret of an endpoint. -/
def respond (state : WebhookState τ) (organizationId endpointId : Uuid) (secret : Text) :
    WebhookState τ :=
  { state with shown := ⟨organizationId, endpointId, secret⟩ :: state.shown }

variable [DecidableEq τ]

def setPhase (state : WebhookState τ) (call : τ) (phase : CallPhase) : WebhookState τ :=
  { state with phase := Function.update state.phase call phase }

/-- The rows that the transaction of the call sees. -/
def rows (state : WebhookState τ) (call : τ) : List WebhookEndpoint :=
  state.ledger.ids.filterMap fun entry => (state.table entry.1).read call

def insert (state : WebhookState τ) (call : τ) (row : WebhookEndpoint) : WebhookState τ :=
  { state with
    ledger := { state.ledger with ids := (row.id, row.organizationId) :: state.ledger.ids }
    table := Function.update state.table row.id ((state.table row.id).write call (some row)) }

/-- An UPDATE or a DELETE of the row, which does nothing where there is none. -/
def changeRow (state : WebhookState τ) (call : τ) (endpointId : Uuid)
    (change : WebhookEndpoint → Option WebhookEndpoint) : WebhookState τ :=
  match (state.table endpointId).read call with
  | none => state
  | some row =>
      { state with
        table := Function.update state.table endpointId
          ((state.table endpointId).write call (change row)) }

/-- The end of a coroutine, with the job it enqueues. -/
def deliver (state : WebhookState τ) (call : τ) (emission : Emission) (endpointId : Uuid)
    (job : Option DeliverWebhook) (enqueue : EnqueueEnding) : WebhookState τ :=
  match job with
  | none => state.setPhase call (.emitting (emission.skip endpointId))
  | some job =>
      { state with
        jobs := if enqueue.stores then (call, job) :: state.jobs else state.jobs }.setPhase call
          (.emitting (emission.settle endpointId enqueue))

/-- The rest of `rotate_endpoint_secret`, `update_endpoint` and `delete_endpoint` after the
check of the organization. -/
def change (service : WebhookService ν) (state : WebhookState τ) (call : τ)
    (request : WebhookCall ν) (token : Text) (nonce : Nat) (encrypts : Bool) : WebhookState τ :=
  match request with
  | .rotateEndpointSecret endpointId organizationId =>
      match service.encryptSecret encrypts nonce endpointId token with
      | none => state.setPhase call .returned
      | some ciphertext =>
          if (state.table endpointId).lockedFor call then state
          else
            (((state.generate endpointId token).changeRow call endpointId fun row =>
              some { row with signingSecret := some ciphertext }).respond organizationId endpointId
                token).setPhase call .returned
  | .updateEndpoint endpointId _ updates =>
      if updates.isEmpty then state.setPhase call .returned
      else
        match updates.signingSecret with
        | none =>
            if (state.table endpointId).lockedFor call then state
            else
              (state.changeRow call endpointId fun row =>
                some (service.updated updates none row)).setPhase call .returned
        | some secret =>
            match service.encryptSecret encrypts nonce endpointId secret with
            | none => state.setPhase call .returned
            | some ciphertext =>
                if (state.table endpointId).lockedFor call then state
                else
                  ((state.generate endpointId secret).changeRow call endpointId fun row =>
                    some (service.updated updates (some ciphertext) row)).setPhase call .returned
  | .deleteEndpoint endpointId _ =>
      if (state.table endpointId).lockedFor call then state
      else (state.changeRow call endpointId fun _ => none).setPhase call .returned
  | .createEndpoint .. => state
  | .emit .. => state

/-- An action that the phase of its call does not allow, or that waits for a lock, does
nothing. -/
def perform (service : WebhookService ν) (calls : τ → WebhookCall ν) (state : WebhookState τ) :
    WebhookAction τ → WebhookState τ
  | .create call endpointId token nonce encrypts =>
      match calls call, state.phase call with
      | .createEndpoint organizationId name url events, .waiting =>
          match service.encryptSecret encrypts nonce endpointId token with
          | none => state.setPhase call .returned
          | some ciphertext =>
              (((state.generate endpointId token).insert call
                { id := endpointId
                  organizationId := organizationId
                  name := name
                  url := url
                  events := service.dumpsEvents (events.getD [])
                  isActive := true
                  signingSecret := some ciphertext }).respond organizationId endpointId
                    token).setPhase call .returned
      | _, _ => state
  | .check call =>
      match (calls call).target, state.phase call with
      | some (endpointId, organizationId), .waiting =>
          if ((state.table endpointId).read call).any fun row =>
              row.organizationId = organizationId
          then state.setPhase call .owner
          else state.setPhase call .returned
      | _, _ => state
  | .change call token nonce encrypts =>
      if state.phase call = .owner then state.change service call (calls call) token nonce encrypts
      else state
  | .select call answers ready =>
      match calls call, state.phase call with
      | .emit organizationId eventType _, .waiting =>
          match service.activeEndpointsFor organizationId eventType (state.rows call) with
          | .ok endpoints =>
              if answers ∧ (ready ∨ endpoints = []) then
                state.setPhase call (.emitting (.ofEndpoints endpoints))
              else state.setPhase call (.emitting .abort)
          | .error _ => state.setPhase call (.emitting .abort)
      | _, _ => state
  | .sign call endpoint timestamp decrypts enqueue =>
      match calls call, state.phase call with
      | .emit _ eventType payload, .emitting emission =>
          if emission.begun.contains endpoint ∧ endpoint.signingSecret.any (· ≠ []) then
            state.deliver call (emission.begin endpoint) endpoint.id
              ((service.decryptSecretValue decrypts endpoint.id endpoint.signingSecret).map
                fun secret => service.delivery endpoint eventType payload secret timestamp)
              enqueue
          else state
      | _, _ => state
  | .backfill call endpoint token nonce timestamp encrypts enqueue =>
      match calls call, state.phase call with
      | .emit _ eventType payload, .emitting emission =>
          if emission.begun.contains endpoint ∧ ¬ endpoint.signingSecret.any (· ≠ []) then
            let rest := emission.begin endpoint
            if service.transit.isNone then
              state.setPhase call (.emitting (rest.skip endpoint.id))
            else
              match service.encryptSecret encrypts nonce endpoint.id token with
              | none => state.setPhase call (.emitting (rest.fail endpoint.id))
              | some ciphertext =>
                  if (state.table endpoint.id).lockedFor call then state
                  else if ((state.table endpoint.id).read call).any fun row =>
                      row.signingSecret.isNone
                  then
                    ((state.generate endpoint.id token).changeRow call endpoint.id fun row =>
                      some { row with signingSecret := some ciphertext }).deliver call rest
                        endpoint.id
                        (some (service.delivery endpoint eventType payload token timestamp))
                        enqueue
                  else
                    (state.generate endpoint.id token).setPhase call
                      (.emitting { rest with lost := (endpoint, ciphertext) :: rest.lost })
          else state
      | _, _ => state
  | .reread call endpoint ciphertext fromDatabase timestamp decrypts enqueue =>
      match calls call, state.phase call with
      | .emit _ eventType payload, .emitting emission =>
          if emission.lost.contains (endpoint, ciphertext) then
            -- the session may still hold the row as it has been written by the call itself
            let refreshed :=
              if fromDatabase then
                ((state.table endpoint.id).read call).bind WebhookEndpoint.signingSecret
              else some ciphertext
            state.deliver call { emission with lost := emission.lost.erase (endpoint, ciphertext) }
              endpoint.id
              ((service.decryptSecretValue decrypts endpoint.id refreshed).map fun secret =>
                service.delivery endpoint eventType payload secret timestamp)
              enqueue
          else state
      | _, _ => state
  | .commit call =>
      if (state.phase call).mayCommit then
        { state with table := fun id => (state.table id).commit call }
      else state
  | .rollBack call => { state with table := fun id => (state.table id).rollBack call }

/-- The state after the actions. -/
def run (service : WebhookService ν) (calls : τ → WebhookCall ν) (rows : List WebhookEndpoint)
    (actions : List (WebhookAction τ)) : WebhookState τ :=
  actions.foldl (perform service calls) (start service rows)

end WebhookState

section Secrets

variable {ν : Type} {service : WebhookService ν}

/-- Whenever the stored value of an endpoint is decrypted, its secret is known. -/
def Known (service : WebhookService ν) (ledger : Ledger) (endpointId : Uuid)
    (raw : Option Text) : Prop :=
  ∀ answers secret, service.decryptSecretValue answers endpointId raw = some secret →
    (endpointId, secret) ∈ ledger.secrets

theorem decryptSecretValue_answers {answers : Bool} {endpointId : Uuid} {raw : Option Text}
    {secret : Text} (decrypted : service.decryptSecretValue answers endpointId raw = some secret) :
    service.decryptSecretValue true endpointId raw = some secret := by
  cases answers with
  | true => exact decrypted
  | false =>
      unfold WebhookService.decryptSecretValue at decrypted ⊢
      split at decrypted
      · unfold WebhookService.plaintext at decrypted ⊢
        split at decrypted
        · split at decrypted
          · cases decrypted
          · cases decrypted
        · rename_i plain
          simpa [plain] using decrypted
      · cases decrypted

theorem decryptSecretValue_sealed {raw : Text} (sealed : isTransitCiphertext raw = true)
    (answers : Bool) (endpointId : Uuid) :
    service.decryptSecretValue answers endpointId (some raw) =
      service.plaintext answers endpointId raw := by
  cases raw with
  | nil => cases sealed
  | cons c text => rfl

theorem encryptSecret_spec {encrypts : Bool} {nonce : Nat} {endpointId : Uuid}
    {token ciphertext : Text}
    (encrypted : service.encryptSecret encrypts nonce endpointId token = some ciphertext) :
    isTransitCiphertext ciphertext = true ∧
      service.decryptSecretValue true endpointId (some ciphertext) = some token := by
  unfold WebhookService.encryptSecret at encrypted
  split at encrypted
  · cases encrypted
  · rename_i transit wired
    split at encrypted
    · cases encrypted
      have sealed := transit.versioned nonce endpointId token
      refine ⟨sealed, ?_⟩
      rw [decryptSecretValue_sealed sealed, WebhookService.plaintext, if_pos sealed, wired]
      exact transit.decrypt_encrypt nonce endpointId token
    · cases encrypted

theorem known_of_encryptSecret {encrypts : Bool} {nonce : Nat} {endpointId : Uuid}
    {token ciphertext : Text} {ledger : Ledger}
    (encrypted : service.encryptSecret encrypts nonce endpointId token = some ciphertext)
    (generated : (endpointId, token) ∈ ledger.secrets) :
    Known service ledger endpointId (some ciphertext) := by
  intro answers secret decrypted
  have same := decryptSecretValue_answers decrypted
  rw [(encryptSecret_spec encrypted).2] at same
  cases same
  exact generated

end Secrets

/-- The secret that an update brings with it. -/
def WebhookCall.givenSecret {ν : Type} : WebhookCall ν → Option Text
  | .updateEndpoint _ _ updates => updates.signingSecret
  | .createEndpoint .. => none
  | .rotateEndpointSecret .. => none
  | .deleteEndpoint .. => none
  | .emit .. => none

namespace WebhookState

section Soundness

variable {τ ν : Type} (service : WebhookService ν) (calls : τ → WebhookCall ν)
  (listed : τ → WebhookEndpoint → Prop) (ledger : Ledger)

/-- A row of the table is of the organization it was created for, and its secret is known. -/
structure Stored (endpointId : Uuid) (endpoint : WebhookEndpoint) : Prop where
  id : endpoint.id = endpointId
  owned : (endpointId, endpoint.organizationId) ∈ ledger.ids
  known : Known service ledger endpointId endpoint.signingSecret

/-- The endpoint is one that the call has listed, and delivers its event to. -/
structure Selected (call : τ) (endpoint : WebhookEndpoint) : Prop where
  stored : Stored service ledger endpoint.id endpoint
  listed : listed call endpoint
  isActive : endpoint.isActive = true
  subscribed : ∃ eventType payload,
    calls call = .emit endpoint.organizationId eventType payload ∧
      service.endpointSubscribesTo endpoint eventType = .ok true

/-- The job is of an endpoint that the call delivers to, and signed with a secret of it. -/
def Delivered (call : τ) (job : DeliverWebhook) : Prop :=
  ∃ endpoint eventType payload secret timestamp,
    calls call = .emit endpoint.organizationId eventType payload ∧
      Selected service calls listed ledger call endpoint ∧ (endpoint.id, secret) ∈ ledger.secrets ∧
      job = service.delivery endpoint eventType payload secret timestamp

/-- The coroutines of the call are of endpoints that it delivers to. -/
structure SoundEmission (call : τ) (emission : Emission) : Prop where
  begun : ∀ endpoint ∈ emission.begun, Selected service calls listed ledger call endpoint
  lost : ∀ lost ∈ emission.lost, Selected service calls listed ledger call lost.1 ∧
    Known service ledger lost.1.id (some lost.2)

/-- What holds however the calls interleave, as long as each generated id and each
generated token is new. -/
structure Sound (state : WebhookState τ) : Prop where
  keys : (state.ledger.ids.map Prod.fst).Nodup
  stored : ∀ endpointId, (state.table endpointId).Holds fun row =>
    ∀ endpoint ∈ row, Stored service state.ledger endpointId endpoint
  checked : ∀ call, state.phase call = .owner →
    ∀ target ∈ (calls call).target, target ∈ state.ledger.ids
  selected : ∀ call emission, state.phase call = .emitting emission →
    SoundEmission service calls listed state.ledger call emission
  delivered : ∀ entry ∈ state.jobs, Delivered service calls listed state.ledger entry.1 entry.2
  owner : ∀ shown ∈ state.shown, (shown.endpointId, shown.organizationId) ∈ state.ledger.ids
  generated : ∀ shown ∈ state.shown, (shown.endpointId, shown.secret) ∈ state.ledger.secrets
  apart : ∀ shown ∈ state.shown, ∀ endpointId,
    (endpointId, shown.secret) ∈ state.ledger.secrets → endpointId = shown.endpointId

end Soundness

/-- The ledger only grows. -/
structure Within (ledger more : Ledger) : Prop where
  ids : ledger.ids ⊆ more.ids
  secrets : ledger.secrets ⊆ more.secrets

section Growth

variable {τ ν : Type} {service : WebhookService ν} {calls : τ → WebhookCall ν}
  {listed : τ → WebhookEndpoint → Prop} {ledger more : Ledger}

theorem Stored.mono {endpointId : Uuid} {endpoint : WebhookEndpoint}
    (stored : Stored service ledger endpointId endpoint) (within : Within ledger more) :
    Stored service more endpointId endpoint :=
  ⟨stored.id, within.ids stored.owned,
    fun answers secret decrypted => within.secrets (stored.known answers secret decrypted)⟩

theorem Selected.mono {call : τ} {endpoint : WebhookEndpoint}
    (selected : Selected service calls listed ledger call endpoint) (within : Within ledger more) :
    Selected service calls listed more call endpoint :=
  ⟨selected.stored.mono within, selected.listed, selected.isActive, selected.subscribed⟩

theorem Delivered.mono {call : τ} {job : DeliverWebhook}
    (delivered : Delivered service calls listed ledger call job) (within : Within ledger more) :
    Delivered service calls listed more call job := by
  obtain ⟨endpoint, eventType, payload, secret, timestamp, emits, selected, known, same⟩ :=
    delivered
  exact ⟨endpoint, eventType, payload, secret, timestamp, emits, selected.mono within,
    within.secrets known, same⟩

theorem SoundEmission.mono {call : τ} {emission : Emission}
    (sound : SoundEmission service calls listed ledger call emission) (within : Within ledger more) :
    SoundEmission service calls listed more call emission :=
  ⟨fun endpoint member => (sound.begun endpoint member).mono within,
    fun lost member => ⟨(sound.lost lost member).1.mono within, fun answers secret decrypted =>
      within.secrets ((sound.lost lost member).2 answers secret decrypted)⟩⟩

theorem SoundEmission.settle {call : τ} {emission : Emission}
    (sound : SoundEmission service calls listed ledger call emission) (endpointId : Uuid)
    (enqueue : EnqueueEnding) :
    SoundEmission service calls listed ledger call (emission.settle endpointId enqueue) := by
  cases enqueue with
  | stored => exact ⟨sound.begun, sound.lost⟩
  | declined => exact ⟨sound.begun, sound.lost⟩
  | refused => exact ⟨sound.begun, sound.lost⟩
  | unanswered => exact ⟨sound.begun, sound.lost⟩

end Growth

/-- An `enqueue` adds at most its own job. -/
theorem mem_enqueued {τ : Type} {jobs : List (τ × DeliverWebhook)} {entry new : τ × DeliverWebhook}
    {enqueue : EnqueueEnding} (member : entry ∈ if enqueue.stores then new :: jobs else jobs) :
    entry = new ∨ entry ∈ jobs := by
  split at member
  · exact List.mem_cons.mp member
  · exact .inr member

namespace Sound

variable {τ ν : Type} {service : WebhookService ν} {calls : τ → WebhookCall ν}
  {listed : τ → WebhookEndpoint → Prop} {state : WebhookState τ}

theorem start {rows : List WebhookEndpoint} (unique : (rows.map WebhookEndpoint.id).Nodup) :
    Sound service calls listed (start service rows) := by
  refine ⟨?_, ?_, ?_, ?_, ?_, ?_, ?_, ?_⟩
  · have ids : ((rows.map fun row => (row.id, row.organizationId)).map Prod.fst) =
        rows.map WebhookEndpoint.id := by
      rw [List.map_map]
      rfl
    change ((rows.map fun row => (row.id, row.organizationId)).map Prod.fst).Nodup
    rw [ids]
    exact unique
  · intro endpointId
    apply Cell.Holds.free
    intro endpoint found
    have member : endpoint ∈ rows := List.mem_of_find?_eq_some found
    have same : endpoint.id = endpointId := by simpa using List.find?_some found
    subst same
    refine ⟨rfl, List.mem_map_of_mem member, ?_⟩
    intro answers secret decrypted
    apply List.mem_filterMap.mpr
    refine ⟨endpoint, member, ?_⟩
    rw [decryptSecretValue_answers decrypted]
    rfl
  · intro call owner
    cases owner
  · intro call emission emitting
    cases emitting
  · intro entry none
    cases none
  · intro shown none
    cases none
  · intro shown none
    cases none
  · intro shown none
    cases none

theorem generate (sound : Sound service calls listed state) (endpointId : Uuid) {token : Text}
    (fresh : token ∉ state.ledger.secrets.map Prod.snd) :
    Sound service calls listed (state.generate endpointId token) := by
  have within : Within state.ledger (state.generate endpointId token).ledger :=
    ⟨List.Subset.refl _, List.subset_cons_self _ _⟩
  refine ⟨sound.keys, ?_, sound.checked, ?_, ?_, sound.owner, ?_, ?_⟩
  · intro id
    apply (sound.stored id).mono
    intro row stored endpoint member
    exact (stored endpoint member).mono within
  · intro call emission emitting
    exact (sound.selected call emission emitting).mono within
  · intro entry member
    exact (sound.delivered entry member).mono within
  · intro shown member
    exact within.secrets (sound.generated shown member)
  · intro shown member id known
    rcases List.mem_cons.mp known with new | old
    · have same : shown.secret = token := congrArg Prod.snd new
      have used : shown.secret ∈ state.ledger.secrets.map Prod.snd :=
        List.mem_map_of_mem (sound.generated shown member)
      rw [same] at used
      exact absurd used fresh
    · exact sound.apart shown member id old

theorem respond (sound : Sound service calls listed state) {organizationId endpointId : Uuid}
    {secret : Text} (owned : (endpointId, organizationId) ∈ state.ledger.ids)
    (known : (endpointId, secret) ∈ state.ledger.secrets)
    (apart : ∀ id, (id, secret) ∈ state.ledger.secrets → id = endpointId) :
    Sound service calls listed (state.respond organizationId endpointId secret) := by
  refine ⟨sound.keys, sound.stored, sound.checked, sound.selected, sound.delivered, ?_, ?_, ?_⟩
  · intro shown member
    rcases List.mem_cons.mp member with rfl | old
    · exact owned
    · exact sound.owner shown old
  · intro shown member
    rcases List.mem_cons.mp member with rfl | old
    · exact known
    · exact sound.generated shown old
  · intro shown member
    rcases List.mem_cons.mp member with rfl | old
    · exact apart
    · exact sound.apart shown old

variable [DecidableEq τ]

theorem setPhase (sound : Sound service calls listed state) (call : τ) {phase : CallPhase}
    (owns : phase = .owner → ∀ target ∈ (calls call).target, target ∈ state.ledger.ids)
    (emits : ∀ emission, phase = .emitting emission →
      SoundEmission service calls listed state.ledger call emission) :
    Sound service calls listed (state.setPhase call phase) := by
  refine ⟨sound.keys, sound.stored, ?_, ?_, sound.delivered, sound.owner, sound.generated,
    sound.apart⟩
  · intro other owner
    change Function.update state.phase call phase other = .owner at owner
    by_cases same : other = call
    · subst same
      rw [Function.update_self] at owner
      exact owns owner
    · rw [Function.update_of_ne same] at owner
      exact sound.checked other owner
  · intro other emission emitting
    change Function.update state.phase call phase other = .emitting emission at emitting
    by_cases same : other = call
    · subst same
      rw [Function.update_self] at emitting
      exact emits emission emitting
    · rw [Function.update_of_ne same] at emitting
      exact sound.selected other emission emitting

theorem returned (sound : Sound service calls listed state) (call : τ) :
    Sound service calls listed (state.setPhase call .returned) := by
  apply sound.setPhase
  · intro owner
    cases owner
  · intro emission emitting
    cases emitting

theorem emitting (sound : Sound service calls listed state) {call : τ} {emission : Emission}
    (emits : SoundEmission service calls listed state.ledger call emission) :
    Sound service calls listed (state.setPhase call (.emitting emission)) := by
  apply sound.setPhase
  · intro owner
    cases owner
  · intro emission' same
    cases same
    exact emits

omit [DecidableEq τ] in
/-- The row of a new id. -/
theorem insert (sound : Sound service calls listed state) (call : τ) {row : WebhookEndpoint}
    (fresh : row.id ∉ state.ledger.ids.map Prod.fst)
    (known : Known service state.ledger row.id row.signingSecret) :
    Sound service calls listed (state.insert call row) := by
  have within : Within state.ledger (state.insert call row).ledger :=
    ⟨List.subset_cons_self _ _, List.Subset.refl _⟩
  have kept : ∀ id, (state.table id).Holds fun row' => ∀ endpoint ∈ row',
      Stored service (state.insert call row).ledger id endpoint := by
    intro id
    apply (sound.stored id).mono
    intro row' stored endpoint member
    exact (stored endpoint member).mono within
  refine ⟨List.nodup_cons.mpr ⟨fresh, sound.keys⟩, ?_, ?_, ?_, ?_, ?_, sound.generated,
    sound.apart⟩
  · intro id
    change (Function.update state.table row.id _ id).Holds _
    by_cases same : id = row.id
    · subst same
      rw [Function.update_self]
      apply (kept row.id).write
      intro endpoint new
      cases new
      exact ⟨rfl, List.mem_cons_self, known⟩
    · rw [Function.update_of_ne same]
      exact kept id
  · intro other owner target found
    exact within.ids (sound.checked other owner target found)
  · intro other emission emitting
    exact (sound.selected other emission emitting).mono within
  · intro entry member
    exact (sound.delivered entry member).mono within
  · intro shown member
    exact within.ids (sound.owner shown member)

theorem changeRow (sound : Sound service calls listed state) (call : τ) (endpointId : Uuid)
    {change : WebhookEndpoint → Option WebhookEndpoint}
    (keeps : ∀ row, Stored service state.ledger endpointId row →
      ∀ row' ∈ change row, Stored service state.ledger endpointId row') :
    Sound service calls listed (state.changeRow call endpointId change) := by
  unfold WebhookState.changeRow
  split
  · exact sound
  · rename_i row seen
    refine ⟨sound.keys, ?_, sound.checked, sound.selected, sound.delivered, sound.owner,
      sound.generated, sound.apart⟩
    intro id
    change (Function.update state.table endpointId _ id).Holds _
    by_cases same : id = endpointId
    · subst same
      rw [Function.update_self]
      apply (sound.stored id).write
      exact keeps row ((sound.stored id).read call row seen)
    · rw [Function.update_of_ne same]
      exact sound.stored id

theorem deliver (sound : Sound service calls listed state) {call : τ} {emission : Emission}
    (emits : SoundEmission service calls listed state.ledger call emission)
    {job : Option DeliverWebhook}
    (delivered : ∀ job' ∈ job, Delivered service calls listed state.ledger call job')
    (endpointId : Uuid) (enqueue : EnqueueEnding) :
    Sound service calls listed (state.deliver call emission endpointId job enqueue) := by
  unfold WebhookState.deliver
  split
  · exact sound.emitting ⟨emits.begun, emits.lost⟩
  · rename_i job
    apply Sound.emitting
    · refine ⟨sound.keys, sound.stored, sound.checked, sound.selected, ?_, sound.owner,
        sound.generated, sound.apart⟩
      intro entry member
      rcases mem_enqueued member with rfl | old
      · exact delivered job rfl
      · exact sound.delivered entry old
    · exact emits.settle endpointId enqueue

omit [DecidableEq τ] in
/-- The end of a transaction changes the table only. -/
theorem versions (sound : Sound service calls listed state)
    {table : Uuid → Cell τ (Option WebhookEndpoint)}
    (holds : ∀ endpointId, (table endpointId).Holds fun row =>
      ∀ endpoint ∈ row, Stored service state.ledger endpointId endpoint) :
    Sound service calls listed { state with table := table } :=
  ⟨sound.keys, holds, sound.checked, sound.selected, sound.delivered, sound.owner,
    sound.generated, sound.apart⟩

end Sound

end WebhookState

/-- The generated id and the generated token have not been there before. -/
def WebhookAction.Fresh {τ : Type} (ledger : Ledger) : WebhookAction τ → Prop
  | .create _ endpointId token _ _ =>
      endpointId ∉ ledger.ids.map Prod.fst ∧ token ∉ ledger.secrets.map Prod.snd
  | .change _ token _ _ => token ∉ ledger.secrets.map Prod.snd
  | .backfill _ _ token _ _ _ _ => token ∉ ledger.secrets.map Prod.snd
  | _ => True

instance {τ : Type} (ledger : Ledger) :
    (action : WebhookAction τ) → Decidable (action.Fresh ledger)
  | .create .. => inferInstanceAs (Decidable (_ ∧ _))
  | .change .. => inferInstanceAs (Decidable (¬ _))
  | .backfill .. => inferInstanceAs (Decidable (¬ _))
  | .check .. => .isTrue trivial
  | .select .. => .isTrue trivial
  | .sign .. => .isTrue trivial
  | .reread .. => .isTrue trivial
  | .commit .. => .isTrue trivial
  | .rollBack .. => .isTrue trivial

section Selection

variable {ν : Type} {service : WebhookService ν}

theorem mem_activeEndpointsFor {organizationId : Uuid} {eventType : Text}
    {rows endpoints : List WebhookEndpoint}
    (found : service.activeEndpointsFor organizationId eventType rows = .ok endpoints)
    (endpoint : WebhookEndpoint) :
    endpoint ∈ endpoints ↔
      endpoint ∈ rows ∧ endpoint.organizationId = organizationId ∧ endpoint.isActive = true ∧
        service.endpointSubscribesTo endpoint eventType = .ok true := by
  induction rows generalizing endpoints with
  | nil =>
      cases found
      simp
  | cons row rows induction =>
      obtain ⟨others, searched, rest⟩ := bind_eq_ok.mp found
      have later := induction searched
      rw [List.mem_cons]
      split at rest
      · rename_i own
        obtain ⟨subscribed, answer, kept⟩ := bind_eq_ok.mp rest
        cases kept
        cases subscribed with
        | true =>
            rw [if_pos rfl, List.mem_cons, later]
            constructor
            · rintro (rfl | ⟨member, selected⟩)
              · exact ⟨.inl rfl, own.1, own.2, answer⟩
              · exact ⟨.inr member, selected⟩
            · rintro ⟨rfl | member, selected⟩
              · exact .inl rfl
              · exact .inr ⟨member, selected⟩
        | false =>
            rw [if_neg Bool.false_ne_true, later]
            constructor
            · rintro ⟨member, selected⟩
              exact ⟨.inr member, selected⟩
            · rintro ⟨rfl | member, selected⟩
              · rw [answer] at selected
                cases selected.2.2
              · exact ⟨member, selected⟩
      · rename_i other
        cases rest
        rw [later]
        constructor
        · rintro ⟨member, selected⟩
          exact ⟨.inr member, selected⟩
        · rintro ⟨rfl | member, selected⟩
          · exact absurd ⟨selected.1, selected.2.1⟩ other
          · exact ⟨member, selected⟩

end Selection

namespace WebhookState

section Steps

variable {τ ν : Type} {service : WebhookService ν} {calls : τ → WebhookCall ν}
  {listed : τ → WebhookEndpoint → Prop} {state : WebhookState τ}

theorem eq_of_mem_generate {endpointId id : Uuid} {token : Text}
    (fresh : token ∉ state.ledger.secrets.map Prod.snd)
    (known : (id, token) ∈ (state.generate endpointId token).ledger.secrets) :
    id = endpointId := by
  rcases List.mem_cons.mp known with new | old
  · exact congrArg Prod.fst new
  · have used : token ∈ state.ledger.secrets.map Prod.snd := List.mem_map_of_mem old
    exact absurd used fresh

theorem SoundEmission.erase {call : τ} {emission : Emission} {ledger : Ledger}
    (sound : SoundEmission service calls listed ledger call emission) (endpoint : WebhookEndpoint) :
    SoundEmission service calls listed ledger call
      (emission.begin endpoint) :=
  ⟨fun other member => sound.begun other (List.mem_of_mem_erase member), sound.lost⟩

theorem Selected.delivered {call : τ} {endpoint : WebhookEndpoint} {ledger : Ledger}
    {organizationId : Uuid} {eventType : Text} {payload : Option (Json ν)}
    (selected : Selected service calls listed ledger call endpoint)
    (emits : calls call = .emit organizationId eventType payload) {secret : Text}
    (known : (endpoint.id, secret) ∈ ledger.secrets) (timestamp : Nat) :
    Delivered service calls listed ledger call
      (service.delivery endpoint eventType payload secret timestamp) := by
  obtain ⟨eventType', payload', emits', subscribes⟩ := selected.subscribed
  have own : calls call = .emit endpoint.organizationId eventType payload := by
    rw [emits] at emits'
    cases emits'
    exact emits
  exact ⟨endpoint, eventType, payload, secret, timestamp, own, selected, known, rfl⟩

theorem Selected.delivered_decrypted {call : τ} {endpoint : WebhookEndpoint} {ledger : Ledger}
    {organizationId : Uuid} {eventType : Text} {payload : Option (Json ν)}
    (selected : Selected service calls listed ledger call endpoint)
    (emits : calls call = .emit organizationId eventType payload) {raw : Option Text}
    (known : Known service ledger endpoint.id raw) (answers : Bool) (timestamp : Nat) :
    ∀ job ∈ (service.decryptSecretValue answers endpoint.id raw).map
      fun secret => service.delivery endpoint eventType payload secret timestamp,
      Delivered service calls listed ledger call job := by
  intro job enqueued
  obtain ⟨secret, decrypted, rfl⟩ := Option.map_eq_some_iff.mp enqueued
  exact selected.delivered emits (known answers secret decrypted) timestamp

variable [DecidableEq τ]

@[simp] theorem ledger_changeRow (state : WebhookState τ) (call : τ) (endpointId : Uuid)
    (change : WebhookEndpoint → Option WebhookEndpoint) :
    (state.changeRow call endpointId change).ledger = state.ledger := by
  unfold WebhookState.changeRow
  split
  · rfl
  · rfl

theorem Sound.change (sound : Sound service calls listed state) {call : τ}
    (owner : state.phase call = .owner) (chosen : (calls call).givenSecret = none)
    {token : Text} (fresh : token ∉ state.ledger.secrets.map Prod.snd) (nonce : Nat)
    (encrypts : Bool) :
    Sound service calls listed (state.change service call (calls call) token nonce encrypts) := by
  have owned := sound.checked call owner
  cases request : calls call with
  | rotateEndpointSecret endpointId organizationId =>
      rw [request] at owned
      dsimp only [WebhookState.change]
      split
      · exact sound.returned call
      · rename_i ciphertext encrypted
        split
        · exact sound
        · have known : (endpointId, token) ∈ (state.generate endpointId token).ledger.secrets :=
            List.mem_cons_self
          apply Sound.returned
          apply Sound.respond
          · apply (sound.generate endpointId fresh).changeRow
            intro row stored row' new
            cases new
            exact ⟨stored.id, stored.owned, known_of_encryptSecret encrypted known⟩
          · rw [ledger_changeRow]
            exact owned _ rfl
          · rw [ledger_changeRow]
            exact known
          · intro id found
            rw [ledger_changeRow] at found
            exact eq_of_mem_generate fresh found
  | updateEndpoint endpointId organizationId updates =>
      rw [request] at chosen
      dsimp only [WebhookState.change]
      split
      · exact sound.returned call
      · split
        · split
          · exact sound
          · apply Sound.returned
            apply sound.changeRow
            intro row stored row' new
            cases new
            exact ⟨stored.id, stored.owned, stored.known⟩
        · rename_i secret given
          rw [WebhookCall.givenSecret, given] at chosen
          cases chosen
  | deleteEndpoint endpointId organizationId =>
      dsimp only [WebhookState.change]
      split
      · exact sound
      · apply Sound.returned
        apply sound.changeRow
        intro row stored row' none
        cases none
  | createEndpoint organizationId name url events => exact sound
  | emit organizationId eventType payload => exact sound

theorem Sound.perform (sound : Sound service calls listed state)
    (chosen : ∀ call, (calls call).givenSecret = none) {action : WebhookAction τ}
    (fresh : action.Fresh state.ledger)
    (lists : ∀ call ready, action = .select call true ready → state.phase call = .waiting →
      ∀ endpoint ∈ state.rows call, listed call endpoint) :
    Sound service calls listed (state.perform service calls action) := by
  cases action with
  | create call endpointId token nonce encrypts =>
      simp only [WebhookState.perform]
      split
      · split
        · exact sound.returned call
        · rename_i ciphertext encrypted
          have known : (endpointId, token) ∈ (state.generate endpointId token).ledger.secrets :=
            List.mem_cons_self
          apply Sound.returned
          apply Sound.respond
          · apply (sound.generate endpointId fresh.2).insert
            · exact fresh.1
            · exact known_of_encryptSecret encrypted known
          · exact List.mem_cons_self
          · exact known
          · intro id found
            exact eq_of_mem_generate fresh.2 found
      · exact sound
  | check call =>
      simp only [WebhookState.perform]
      split
      · rename_i endpointId organizationId target waiting
        split
        · rename_i own
          apply sound.setPhase
          · intro _ target' found
            rw [target] at found
            cases found
            obtain ⟨row, seen, same⟩ := (Option.any_eq_true _ _).mp own
            have stored := (sound.stored endpointId).read call row seen
            rw [← of_decide_eq_true same]
            exact stored.owned
          · intro emission emitting
            cases emitting
        · exact sound.returned call
      · exact sound
  | change call token nonce encrypts =>
      simp only [WebhookState.perform]
      split
      · rename_i owner
        exact sound.change owner (chosen call) fresh nonce encrypts
      · exact sound
  | select call answers ready =>
      have none : SoundEmission service calls listed state.ledger call .abort :=
        ⟨fun _ member => absurd member List.not_mem_nil,
          fun _ member => absurd member List.not_mem_nil⟩
      simp only [WebhookState.perform]
      split
      · rename_i organizationId eventType payload emits waiting
        split
        · rename_i endpoints found
          split
          · rename_i answered
            apply sound.emitting
            refine ⟨?_, fun _ member => absurd member List.not_mem_nil⟩
            intro endpoint member
            obtain ⟨seen, own, active, subscribes⟩ :=
              (mem_activeEndpointsFor found endpoint).mp member
            have lists := lists call ready (by rw [answered.1]) waiting endpoint seen
            obtain ⟨entry, _, read⟩ := List.mem_filterMap.mp seen
            have stored := (sound.stored entry.1).read call endpoint read
            have same := stored.id
            subst own
            rw [← same] at stored
            exact ⟨stored, lists, active, eventType, payload, emits, subscribes⟩
          · exact sound.emitting none
        · exact sound.emitting none
      · exact sound
  | sign call endpoint timestamp decrypts enqueue =>
      simp only [WebhookState.perform]
      split
      · rename_i organizationId eventType payload emission emits running
        split
        · rename_i begins
          have emission := sound.selected call _ running
          have selected := emission.begun endpoint (by simpa using begins.1)
          apply sound.deliver (emission.erase endpoint)
          exact selected.delivered_decrypted emits selected.stored.known decrypts timestamp
        · exact sound
      · exact sound
  | backfill call endpoint token nonce timestamp encrypts enqueue =>
      simp only [WebhookState.perform]
      split
      · rename_i organizationId eventType payload emission emits running
        split
        · rename_i begins
          have runs := sound.selected call _ running
          have rest := runs.erase endpoint
          have selected := runs.begun endpoint (by simpa using begins.1)
          split
          · exact sound.emitting ⟨rest.begun, rest.lost⟩
          · split
            · exact sound.emitting ⟨rest.begun, rest.lost⟩
            · rename_i ciphertext encrypted
              have generated := sound.generate endpoint.id fresh
              have within : Within state.ledger (state.generate endpoint.id token).ledger :=
                ⟨List.Subset.refl _, List.subset_cons_self _ _⟩
              have known : (endpoint.id, token) ∈
                  (state.generate endpoint.id token).ledger.secrets := List.mem_cons_self
              have sealed := known_of_encryptSecret encrypted known
              split
              · exact sound
              · split
                · apply Sound.deliver
                  · apply generated.changeRow
                    intro row stored row' new
                    cases new
                    exact ⟨stored.id, stored.owned, sealed⟩
                  · rw [ledger_changeRow]
                    exact rest.mono within
                  · intro job enqueued
                    cases enqueued
                    rw [ledger_changeRow]
                    exact (selected.mono within).delivered emits known timestamp
                · apply generated.emitting
                  refine ⟨(rest.mono within).begun, ?_⟩
                  intro lost member
                  rcases List.mem_cons.mp member with rfl | old
                  · exact ⟨selected.mono within, sealed⟩
                  · exact (rest.mono within).lost lost old
        · exact sound
      · exact sound
  | reread call endpoint ciphertext fromDatabase timestamp decrypts enqueue =>
      simp only [WebhookState.perform]
      split
      · rename_i organizationId eventType payload emission emits running
        split
        · rename_i waits
          have runs := sound.selected call _ running
          obtain ⟨selected, own⟩ := runs.lost _ (List.contains_iff_mem.mp waits)
          apply sound.deliver
          · exact ⟨runs.begun, fun lost member => runs.lost lost (List.mem_of_mem_erase member)⟩
          · apply selected.delivered_decrypted emits
            cases fromDatabase with
            | false => exact own
            | true =>
                intro answers secret decrypted
                cases seen : (state.table endpoint.id).read call with
                | none =>
                    rw [if_pos rfl, seen] at decrypted
                    cases decrypted
                | some row =>
                    rw [if_pos rfl, seen] at decrypted
                    have stored := (sound.stored endpoint.id).read call row seen
                    exact stored.known answers secret decrypted
        · exact sound
      · exact sound
  | commit call =>
      simp only [WebhookState.perform]
      split
      · exact sound.versions fun endpointId => (sound.stored endpointId).commit call
      · exact sound
  | rollBack call =>
      exact sound.versions fun endpointId => (sound.stored endpointId).rollBack call

end Steps

end WebhookState

namespace WebhookState

section Isolation

variable {τ ν : Type} [DecidableEq τ] (service : WebhookService ν) (calls : τ → WebhookCall ν)

/-- Each id and each token that is generated along the way is new. -/
def GeneratesFresh (rows : List WebhookEndpoint) (actions : List (WebhookAction τ)) : Prop :=
  AllowedAlong (perform service calls) (fun state action => action.Fresh state.ledger)
    (start service rows) actions

instance (rows : List WebhookEndpoint) (actions : List (WebhookAction τ)) :
    Decidable (GeneratesFresh service calls rows actions) :=
  inferInstanceAs (Decidable (AllowedAlong ..))

/-- When the call selected its endpoints, its transaction saw this row. -/
def ListedBy (rows : List WebhookEndpoint) (actions : List (WebhookAction τ)) (call : τ)
    (endpoint : WebhookEndpoint) : Prop :=
  ∃ before ready after, actions = before ++ .select call true ready :: after ∧
    (run service calls rows before).phase call = .waiting ∧
    endpoint ∈ (run service calls rows before).rows call

/-- Each delivery goes to an active endpoint of the emitting organization that subscribes to the
event, as the `emit` has listed it, and is signed with a secret of this endpoint, which no
response has shown for another endpoint or to another organization. -/
def SignedApart (rows : List WebhookEndpoint) (actions : List (WebhookAction τ)) : Prop :=
  ∀ entry ∈ (run service calls rows actions).jobs,
    ∃ endpoint organizationId eventType payload secret timestamp,
      calls entry.1 = .emit organizationId eventType payload ∧
      ListedBy service calls rows actions entry.1 endpoint ∧
      endpoint.organizationId = organizationId ∧ endpoint.isActive = true ∧
      service.endpointSubscribesTo endpoint eventType = .ok true ∧
      entry.2 = service.delivery endpoint eventType payload secret timestamp ∧
      (endpoint.id, secret) ∈ (run service calls rows actions).ledger.secrets ∧
      ∀ shown ∈ (run service calls rows actions).shown, shown.secret = secret →
        shown.endpointId = endpoint.id ∧ shown.organizationId = organizationId

variable {service calls}

/-- The invariant holds at the end of the run, where the listed endpoints are those of its own
selections. -/
theorem Sound.run (chosen : ∀ call, (calls call).givenSecret = none) {rows : List WebhookEndpoint}
    (unique : (rows.map WebhookEndpoint.id).Nodup) {actions : List (WebhookAction τ)}
    (fresh : GeneratesFresh service calls rows actions) :
    Sound service calls (ListedBy service calls rows actions)
      (WebhookState.run service calls rows actions) := by
  apply AllowedAlong.invariant_at fresh (Sound.start unique)
  intro before action after split sound new
  apply sound.perform chosen new
  rintro call ready rfl waiting endpoint seen
  exact ⟨before, ready, after, split, waiting, seen⟩

variable (service calls)

/-- Deliveries are signed apart however the calls interleave, and whatever they fail in. -/
theorem deliveries_signed_apart (chosen : ∀ call, (calls call).givenSecret = none)
    {rows : List WebhookEndpoint} (unique : (rows.map WebhookEndpoint.id).Nodup)
    {actions : List (WebhookAction τ)} (fresh : GeneratesFresh service calls rows actions) :
    SignedApart service calls rows actions := by
  have sound := Sound.run chosen unique fresh
  intro entry member
  obtain ⟨endpoint, eventType, payload, secret, timestamp, emits, selected, known, same⟩ :=
    sound.delivered entry member
  obtain ⟨eventType', payload', emits', subscribes⟩ := selected.subscribed
  have event : eventType' = eventType := by
    rw [emits] at emits'
    cases emits'
    rfl
  refine ⟨endpoint, endpoint.organizationId, eventType, payload, secret, timestamp, emits,
    selected.listed, rfl, selected.isActive, event ▸ subscribes, same, known, ?_⟩
  intro shown showed sameSecret
  have own : endpoint.id = shown.endpointId :=
    sound.apart shown showed endpoint.id (by rw [sameSecret]; exact known)
  refine ⟨own.symm, ?_⟩
  have owner := sound.owner shown showed
  rw [← own] at owner
  exact congrArg Prod.snd (List.inj_on_of_nodup_map sound.keys owner selected.stored.owned rfl)

/-- A Transit that keeps the secrets readable. -/
def plainTransit : TransitManager :=
  { encryptWebhookSecret := fun _ _ secret => "vault:v1:".toList ++ secret
    decryptWebhookSecret := fun _ ciphertext => some (ciphertext.drop 9)
    versioned := fun _ _ _ => rfl
    decrypt_encrypt := fun _ _ _ => rfl }

def plainService : WebhookService Nat :=
  { transit := some plainTransit
    hmacSha256 := fun secret _ => secret
    literal := Nat.toDigits 10
    readNumber := Json.readNat
    isZero := fun value => value == 0
    readsNumbers := Json.readsNumbers_readNat }

/-- A row from before the endpoints had secrets. -/
def legacyRow : WebhookEndpoint :=
  { id := 7
    organizationId := 1
    name := "a".toList
    url := "https://a".toList
    events := "[]".toList
    isActive := true
    signingSecret := none }

/-- One organization emits an event, another one creates an endpoint. -/
def twoOrganizations : Bool → WebhookCall Nat
  | true => .emit 1 "session.created".toList none
  | false => .createEndpoint 2 "b".toList "https://b".toList none

def backfillingRun : List (WebhookAction Bool) :=
  [.create false 8 "key b".toList 0 true, .select true true true,
    .backfill true legacyRow "key a".toList 1 5 true .stored, .commit false, .commit true]

theorem deliveries_signed_apart_backfillingRun :
    SignedApart plainService twoOrganizations [legacyRow] backfillingRun := by
  have chosen : ∀ call, (twoOrganizations call).givenSecret = none := by decide
  have fresh : GeneratesFresh plainService twoOrganizations [legacyRow] backfillingRun := by
    decide +kernel
  exact deliveries_signed_apart plainService twoOrganizations chosen (by decide) fresh

/-- The run has a delivery, signed with the secret that has been backfilled. -/
example : (run plainService twoOrganizations [legacyRow] backfillingRun).jobs =
    [(true, plainService.delivery legacyRow "session.created".toList none "key a".toList 5)] := by
  decide +kernel

end Isolation

end WebhookState

namespace WebhookState

section AtRest

variable {τ ν : Type} [DecidableEq τ] (service : WebhookService ν)

/-- The stored value is a ciphertext that is decrypted for the endpoint. -/
def SealedFor (endpointId : Uuid) (stored : Text) : Prop :=
  isTransitCiphertext stored = true ∧
    ∃ secret, service.decryptSecretValue true endpointId (some stored) = some secret

/-- The secret of the row, where there is a row, is sealed. -/
def Sealed (endpointId : Uuid) (row : Option WebhookEndpoint) : Prop :=
  ∀ endpoint ∈ row, ∃ stored, endpoint.signingSecret = some stored ∧
    SealedFor service endpointId stored

/-- What an action does to a row of the table: a write leaves the secret as its transaction
sees it, or seals one. -/
inductive RowStep (endpointId : Uuid) (cell : Cell τ (Option WebhookEndpoint)) :
    Cell τ (Option WebhookEndpoint) → Prop where
  | same : RowStep endpointId cell cell
  | write (call : τ) (row : Option WebhookEndpoint)
      (seals : ∀ endpoint ∈ row,
        (∃ stored, endpoint.signingSecret = some stored ∧ SealedFor service endpointId stored) ∨
          ∃ seen ∈ cell.read call, endpoint.signingSecret = seen.signingSecret) :
      RowStep endpointId cell (cell.write call row)
  | commit (call : τ) : RowStep endpointId cell (cell.commit call)
  | rollBack (call : τ) : RowStep endpointId cell (cell.rollBack call)

variable {service} {calls : τ → WebhookCall ν} {state : WebhookState τ}

theorem sealedFor_of_encryptSecret {encrypts : Bool} {nonce : Nat} {endpointId : Uuid}
    {token ciphertext : Text}
    (encrypted : service.encryptSecret encrypts nonce endpointId token = some ciphertext) :
    SealedFor service endpointId ciphertext :=
  ⟨(encryptSecret_spec encrypted).1, token, (encryptSecret_spec encrypted).2⟩

@[simp] theorem table_deliver (state : WebhookState τ) (call : τ) (emission : Emission)
    (endpointId : Uuid) (job : Option DeliverWebhook) (enqueue : EnqueueEnding) :
    (state.deliver call emission endpointId job enqueue).table = state.table := by
  unfold WebhookState.deliver
  split
  · rfl
  · rfl

theorem rowStep_changeRow (state : WebhookState τ) (call : τ) (endpointId : Uuid)
    {change : WebhookEndpoint → Option WebhookEndpoint}
    (seals : ∀ row, ∀ endpoint ∈ change row,
      (∃ stored, endpoint.signingSecret = some stored ∧ SealedFor service endpointId stored) ∨
        endpoint.signingSecret = row.signingSecret) (id : Uuid) :
    RowStep service id (state.table id) ((state.changeRow call endpointId change).table id) := by
  unfold WebhookState.changeRow
  split
  · exact .same
  · rename_i row seen
    change RowStep service id (state.table id) (Function.update state.table endpointId _ id)
    by_cases same : id = endpointId
    · subst same
      rw [Function.update_self]
      apply RowStep.write
      intro endpoint new
      rcases seals row endpoint new with sealed | kept
      · exact .inl sealed
      · exact .inr ⟨row, seen, kept⟩
    · rw [Function.update_of_ne same]
      exact .same

theorem rowStep_change (call : τ) (request : WebhookCall ν) (token : Text) (nonce : Nat)
    (encrypts : Bool) (id : Uuid) :
    RowStep service id (state.table id)
      ((state.change service call request token nonce encrypts).table id) := by
  cases request with
  | rotateEndpointSecret endpointId organizationId =>
      dsimp only [WebhookState.change]
      split
      · exact .same
      · rename_i ciphertext encrypted
        split
        · exact .same
        · apply rowStep_changeRow (state.generate endpointId token)
          intro row endpoint new
          cases new
          exact .inl ⟨ciphertext, rfl, sealedFor_of_encryptSecret encrypted⟩
  | updateEndpoint endpointId organizationId updates =>
      dsimp only [WebhookState.change]
      split
      · exact .same
      · split
        · split
          · exact .same
          · apply rowStep_changeRow
            intro row endpoint new
            cases new
            exact .inr rfl
        · rename_i secret given
          split
          · exact .same
          · rename_i ciphertext encrypted
            split
            · exact .same
            · apply rowStep_changeRow (state.generate endpointId secret)
              intro row endpoint new
              cases new
              exact .inl ⟨ciphertext, rfl, sealedFor_of_encryptSecret encrypted⟩
  | deleteEndpoint endpointId organizationId =>
      dsimp only [WebhookState.change]
      split
      · exact .same
      · apply rowStep_changeRow
        intro row endpoint none
        cases none
  | createEndpoint organizationId name url events => exact .same
  | emit organizationId eventType payload => exact .same

/-- Whatever happens next, each row takes such a step. -/
theorem rowStep_perform (action : WebhookAction τ) (id : Uuid) :
    RowStep service id (state.table id) ((state.perform service calls action).table id) := by
  cases action with
  | create call endpointId token nonce encrypts =>
      simp only [WebhookState.perform]
      split
      · split
        · exact .same
        · rename_i ciphertext encrypted
          change RowStep service id (state.table id) (Function.update state.table endpointId _ id)
          by_cases same : id = endpointId
          · subst same
            rw [Function.update_self]
            apply RowStep.write
            intro endpoint new
            cases new
            exact .inl ⟨ciphertext, rfl, sealedFor_of_encryptSecret encrypted⟩
          · rw [Function.update_of_ne same]
            exact .same
      · exact .same
  | check call =>
      simp only [WebhookState.perform]
      split
      · split
        · exact .same
        · exact .same
      · exact .same
  | change call token nonce encrypts =>
      simp only [WebhookState.perform]
      split
      · exact rowStep_change call (calls call) token nonce encrypts id
      · exact .same
  | select call answers ready =>
      simp only [WebhookState.perform]
      split
      · split
        · split
          · exact .same
          · exact .same
        · exact .same
      · exact .same
  | sign call endpoint timestamp decrypts enqueue =>
      simp only [WebhookState.perform]
      split
      · split
        · rw [table_deliver]
          exact .same
        · exact .same
      · exact .same
  | backfill call endpoint token nonce timestamp encrypts enqueue =>
      simp only [WebhookState.perform]
      split
      · split
        · split
          · exact .same
          · split
            · exact .same
            · rename_i ciphertext encrypted
              split
              · exact .same
              · split
                · rw [table_deliver]
                  apply rowStep_changeRow (state.generate endpoint.id token)
                  intro row endpoint' new
                  cases new
                  exact .inl ⟨ciphertext, rfl, sealedFor_of_encryptSecret encrypted⟩
                · exact .same
        · exact .same
      · exact .same
  | reread call endpoint ciphertext fromDatabase timestamp decrypts enqueue =>
      simp only [WebhookState.perform]
      split
      · split
        · rw [table_deliver]
          exact .same
        · exact .same
      · exact .same
  | commit call =>
      simp only [WebhookState.perform]
      split
      · exact .commit call
      · exact .same
  | rollBack call => exact .rollBack call

theorem row_invariant {condition : Cell τ (Option WebhookEndpoint) → Prop} {id : Uuid}
    (keeps : ∀ {cell cell'}, condition cell → RowStep service id cell cell' → condition cell')
    (actions : List (WebhookAction τ)) (initial : condition (state.table id)) :
    condition ((actions.foldl (perform service calls) state).table id) :=
  List.foldlRecOn (motive := fun state => condition (state.table id)) actions
    (perform service calls) initial
    fun _ holds action _ => keeps holds (rowStep_perform action id)

theorem keepsSealed_step {id : Uuid} {cell cell' : Cell τ (Option WebhookEndpoint)}
    (keeps : cell.Keeps (Sealed service id)) (step : RowStep service id cell cell') :
    cell'.Keeps (Sealed service id) := by
  cases step with
  | same => exact keeps
  | write call row seals =>
      apply keeps.write
      intro sealed endpoint new
      rcases seals endpoint new with own | ⟨seen, read, same⟩
      · exact own
      · rw [same]
        exact sealed seen read
  | commit call => exact keeps.commit call
  | rollBack call => exact keeps.rollBack call

theorem sealed_step {id : Uuid} {cell cell' : Cell τ (Option WebhookEndpoint)}
    (keeps : cell.Keeps (Sealed service id)) (sealed : Sealed service id cell.committed)
    (step : RowStep service id cell cell') : Sealed service id cell'.committed := by
  cases step with
  | same => exact sealed
  | write call row seals => exact sealed
  | commit call => exact keeps.committed_commit sealed call
  | rollBack call =>
      rw [Cell.committed_rollBack]
      exact sealed

/-- Each secret that the row has is sealed, or a legacy one of the endpoint. -/
def SealedOrLegacy (service : WebhookService ν) (rows : List WebhookEndpoint) (id : Uuid)
    (row : Option WebhookEndpoint) : Prop :=
  ∀ endpoint ∈ row, ∀ stored ∈ endpoint.signingSecret, SealedFor service id stored ∨
    ∃ legacy ∈ rows, legacy.id = id ∧ legacy.signingSecret = some stored

theorem sealedOrLegacy_step {rows : List WebhookEndpoint} {id : Uuid}
    {cell cell' : Cell τ (Option WebhookEndpoint)}
    (holds : cell.Holds (SealedOrLegacy service rows id)) (step : RowStep service id cell cell') :
    cell'.Holds (SealedOrLegacy service rows id) := by
  cases step with
  | same => exact holds
  | write call row seals =>
      apply holds.write
      intro endpoint new stored has
      rcases seals endpoint new with ⟨stored', has', sealed⟩ | ⟨seen, read, same⟩
      · rw [Option.mem_def, has'] at has
        cases has
        exact .inl sealed
      · exact (holds.read call) seen read stored (by rw [← same]; exact has)
  | commit call => exact holds.commit call
  | rollBack call => exact holds.rollBack call

end AtRest

/-- No call stores a plaintext: a transaction only ever sees ciphertexts of the endpoint's own
and its legacy secret, and an endpoint whose secret is sealed stays so until it is deleted. -/
theorem secrets_sealed_at_rest {τ ν : Type} [DecidableEq τ] (service : WebhookService ν)
    (calls : τ → WebhookCall ν) (rows : List WebhookEndpoint) (actions : List (WebhookAction τ))
    (id : Uuid) :
    (∀ call, SealedOrLegacy service rows id
      (((run service calls rows actions).table id).read call)) ∧
    ∀ later, Sealed service id ((run service calls rows actions).table id).committed →
      Sealed service id ((run service calls rows (actions ++ later)).table id).committed := by
  have keeps : ((run service calls rows actions).table id).Keeps (Sealed service id) :=
    row_invariant keepsSealed_step actions (Cell.Keeps.free _)
  refine ⟨?_, ?_⟩
  · have holds : ((run service calls rows actions).table id).Holds
        (SealedOrLegacy service rows id) := by
      apply row_invariant sealedOrLegacy_step
      apply Cell.Holds.free
      intro endpoint found stored has
      refine .inr ⟨endpoint, List.mem_of_find?_eq_some found, ?_, has⟩
      simpa using List.find?_some found
    exact holds.read
  · intro later sealed
    rw [run, List.foldl_append]
    have step : ∀ {cell cell' : Cell τ (Option WebhookEndpoint)},
        cell.Keeps (Sealed service id) ∧ Sealed service id cell.committed →
        RowStep service id cell cell' →
        cell'.Keeps (Sealed service id) ∧ Sealed service id cell'.committed :=
      fun holds step => ⟨keepsSealed_step holds.1 step, sealed_step holds.1 holds.2 step⟩
    have both := @row_invariant τ ν _ service calls _ _ id step later ⟨keeps, sealed⟩
    exact both.2

end WebhookState

end OpenZync.Webhooks
