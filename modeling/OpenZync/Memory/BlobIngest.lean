import Mathlib.Data.List.Dedup
import Mathlib.Logic.Function.Basic
import OpenZync.Library.Attempts
import OpenZync.Memory.BlobKeys

/-!
# The blob step of a memory ingest

`ingest` from the moment its batch is claimed to its commit: the episodes are
written, the files that the messages refer to are read and uploaded, and a
failure rolls the transaction back and deletes the objects that were uploaded.
Every awaited step of a collaborator may raise or be cancelled.
-/

namespace OpenZync.Memory

open OpenZync.Library

/-- What ends an awaited step: an exception, or the cancellation of the request. -/
inductive Interruption where
  | raised
  | cancelled
deriving DecidableEq

/-- Why an attempt ends. -/
inductive IngestFailure where
  /-- `ValidationError`: `blob_id {blob_id} out of range: only {count} files uploaded`. -/
  | blobOutOfRange (blobId count : Nat)
  /-- `PayloadTooLargeError`: `Blob {file_name} exceeds limit of {max_bytes} bytes`. -/
  | tooLarge (fileName : Text) (maxBytes : Nat)
  /-- `ValidationError`: `Too many blobs: {count} exceeds limit of {limit}`. -/
  | tooManyBlobs (count limit : Nat)
  /-- `ValidationError`: `Unsupported MIME type {mime_type!r} for blob {file_name}`. -/
  | unsupportedMime (mimeType fileName : Text)
  /-- `ValidationError`: `messages reference blobs but no files were uploaded`. -/
  | blobsWithoutFiles
  /-- `del shared_bytes[bid]` of an identifier that is not there. -/
  | keyError (blobId : Nat)
  | interrupted (interruption : Interruption)
deriving DecidableEq

/-- `UploadFile`: its name and what its stream has to give. -/
structure UploadFile where
  filename : Option Text
  content : Bytes

/-- The bucket of an organisation and the cap on its blobs. -/
structure StorageConfig where
  endpointUrl : Text
  bucketName : Text
  maxBlobSizeMb : Nat
deriving DecidableEq

def StorageConfig.maxBlobBytes (config : StorageConfig) : Nat :=
  config.maxBlobSizeMb * 1024 * 1024

/-- An object of the store, by its place and key. -/
structure S3Object where
  endpointUrl : Text
  bucketName : Text
  key : Text
deriving DecidableEq

def StorageConfig.object (config : StorageConfig) (key : Text) : S3Object :=
  ⟨config.endpointUrl, config.bucketName, key⟩

/-- A row of `episode_blobs`. -/
structure EpisodeBlob where
  episodeId : Uuid
  storageKey : Text
  fileName : Text
  mimeType : Text
  fileSize : Nat
  contentHash : Text
  blobIndex : Nat
deriving DecidableEq

/-- The order in which a Python set of identifiers is iterated. -/
structure SetOrder where
  enumerate : List Nat → List Nat
  nodup : ∀ ids, (enumerate ids).Nodup
  mem : ∀ ids id, id ∈ enumerate ids ↔ id ∈ ids

/-- First occurrences first. -/
def SetOrder.dedup : SetOrder :=
  ⟨List.dedup, List.nodup_dedup, fun _ _ => List.mem_dedup⟩

/-- The libraries and settings of the step. -/
structure BlobServices where
  casing : Casing
  /-- `hashlib.sha256(data).hexdigest()` -/
  sha256 : Bytes → Text
  maxBlobsPerRequest : Nat
  setOrder : SetOrder

/-- One request: an episode for each message with its attachments, and the
uploaded files. -/
structure BlobRequest where
  orgId : Uuid
  projectId : Uuid
  messages : List (Uuid × List BlobMetadata)
  uploadedBlobs : List UploadFile

/-- What the collaborators do at each awaited step of the attempt; `none` is
success.  A put that fails may have stored the object nonetheless. -/
structure Environment where
  redact : Option Interruption
  lockAndInsert : Option Interruption
  storageConfig : Except Interruption StorageConfig
  /-- Reading the stream of a file. -/
  readFile : Nat → Option Interruption
  /-- `put_object` for one attachment of one episode. -/
  putObject : Nat → Nat → Option (Interruption × Bool)
  /-- `batch_create` for one episode. -/
  batchCreate : Nat → Option Interruption
  commit : Option Interruption
  rollback : Option Interruption
  /-- `_resolve_storage_config` of the compensation. -/
  storageConfigAgain : Except Interruption StorageConfig
  releaseContentHash : Option Interruption

/-- The cache of `_process_blobs`, and what is left of the streams; `reads` lists
the streams that were read. -/
structure UploadCache where
  streams : Nat → Bytes
  reads : List Nat
  sharedBytes : Nat → Option Bytes
  remaining : Nat → Int

/-- What an attempt leaves outside: the objects in the store, those it has put
itself, the slots that it handed to `upload_blobs` for each episode, and the
list `uploaded_keys`. -/
structure UploadEffects where
  objects : List S3Object
  uploaded : List S3Object
  handed : List (Uuid × List Bytes)
  uploadedKeys : List Text

structure BlobRun where
  cache : UploadCache
  effects : UploadEffects

def UploadCache.start (request : BlobRequest) : UploadCache :=
  { streams := fun id => (request.uploadedBlobs[id]?.map UploadFile.content).getD []
    reads := []
    sharedBytes := fun _ => none
    remaining := fun _ => 0 }

def BlobRun.start (request : BlobRequest) (objects : List S3Object) : BlobRun :=
  { cache := .start request
    effects := ⟨objects, [], [], []⟩ }

def BlobRun.changeCache (change : UploadCache → UploadCache) (run : BlobRun) : BlobRun :=
  { run with cache := change run.cache }

def BlobRun.changeEffects (change : UploadEffects → UploadEffects) (run : BlobRun) : BlobRun :=
  { run with effects := change run.effects }

/-- A program of the blob step. -/
abbrev BlobStep (α : Type) := Attempt BlobRun IngestFailure α

/-- An awaited step without effects here. -/
def awaited (outcome : Option Interruption) : BlobStep Unit :=
  match outcome with
  | none => pure ()
  | some interruption => Attempt.fail (.interrupted interruption)

/-- `_UPLOAD_CHUNK_BYTES`: 1 MiB. -/
def uploadChunkBytes : Nat := 1024 * 1024

/-- The loop of `read_upload_bounded` on a stream: what is left of the stream,
and the bytes unless the cap was exceeded. -/
def readChunks (maxBytes : Nat) (buffer stream : Bytes) : Bytes × Option Bytes :=
  if _empty : stream = [] then ([], some buffer)
  else
    let read := buffer ++ stream.take uploadChunkBytes
    if maxBytes < read.length then (stream.drop uploadChunkBytes, none)
    else readChunks maxBytes read (stream.drop uploadChunkBytes)
termination_by stream.length
decreasing_by
  have nonempty := List.length_pos_of_ne_nil _empty
  simp only [List.length_drop, uploadChunkBytes]
  omega

section

variable (services : BlobServices) (environment : Environment) (request : BlobRequest)

/-- The messages with attachments. -/
def BlobRequest.epBlobMetas (request : BlobRequest) : List (Uuid × List BlobMetadata) :=
  request.messages.filter fun message => !message.2.isEmpty

/-- How often the attachments of some episodes refer to a file. -/
def usesIn (episodes : List (Uuid × List BlobMetadata)) (blobId : Nat) : Nat :=
  (episodes.flatMap fun episode => episode.2.map BlobMetadata.blobId).count blobId

/-- `use_counts`. -/
def BlobRequest.useCounts (request : BlobRequest) (blobId : Nat) : Nat :=
  usesIn request.epBlobMetas blobId

/-- `bid in shared_ids` -/
def BlobRequest.Shared (request : BlobRequest) (blobId : Nat) : Prop :=
  1 < request.useCounts blobId

instance (blobId : Nat) : Decidable (request.Shared blobId) :=
  inferInstanceAs (Decidable (_ < _))

/-- `uploaded_blobs[bid].filename or "unnamed"` -/
def BlobRequest.displayName (request : BlobRequest) (blobId : Nat) : Text :=
  match (request.uploadedBlobs[blobId]?.bind UploadFile.filename) with
  | some (c :: name) => c :: name
  | _ => "unnamed".toList

/-- `read_upload_bounded` of an uploaded file. -/
def readUpload (config : StorageConfig) (blobId : Nat) : BlobStep Bytes := do
  Attempt.change (.changeCache fun cache => { cache with reads := cache.reads ++ [blobId] })
  awaited (environment.readFile blobId)
  let stream ← Attempt.read fun run => run.cache.streams blobId
  let result := readChunks config.maxBlobBytes [] stream
  Attempt.change (.changeCache fun cache =>
    { cache with streams := Function.update cache.streams blobId result.1 })
  match result.2 with
  | some data => pure data
  | none => Attempt.fail (.tooLarge (request.displayName blobId) config.maxBlobBytes)

/-- `if bid in shared_ids: shared_bytes[bid] = data` -/
def BlobRequest.keepShared (request : BlobRequest) (blobId : Nat) (data : Bytes)
    (cache : UploadCache) : UploadCache :=
  if request.Shared blobId then
    { cache with sharedBytes := Function.update cache.sharedBytes blobId (some data) }
  else cache

/-- The slot of one file that the episode refers to. -/
def needSlot (config : StorageConfig) (slots : List Bytes) (blobId : Nat) :
    BlobStep (List Bytes) :=
  if request.uploadedBlobs.length ≤ blobId then
    Attempt.fail (.blobOutOfRange blobId request.uploadedBlobs.length)
  else do
    let cached ← Attempt.read fun run => run.cache.sharedBytes blobId
    match cached with
    | some data => pure (slots.set blobId data)
    | none =>
        let data ← readUpload environment request config blobId
        Attempt.change (.changeCache (request.keepShared blobId data))
        pure (slots.set blobId data)

/-- The object is in the store, and the attempt has put it there. -/
def UploadEffects.store (object : S3Object) (effects : UploadEffects) : UploadEffects :=
  { effects with
    objects := object :: effects.objects
    uploaded := effects.uploaded ++ [object] }

/-- `storage.upload` -/
def upload (config : StorageConfig) (outcome : Option (Interruption × Bool)) (key : Text) :
    BlobStep Unit :=
  match outcome with
  | none => Attempt.change (.changeEffects (.store (config.object key)))
  | some (interruption, stored) => do
      Attempt.change (.changeEffects
        (if stored then .store (config.object key) else id))
      Attempt.fail (.interrupted interruption)

/-- The media type under which an attachment is stored. -/
def blobMime (metadata : BlobMetadata) : Text :=
  normalizeUploadMime services.casing
    (if metadata.mimeType = [] then "application/octet-stream".toList else metadata.mimeType)

/-- The name under which an attachment is stored. -/
def blobFileName (metadata : BlobMetadata) : Text :=
  if metadata.fileName = [] then "unnamed".toList else metadata.fileName

def blobKey (episodeId : Uuid) (metadata : BlobMetadata) : Text :=
  buildKey request.orgId request.projectId episodeId metadata.blobId (blobFileName metadata)

/-- One attachment of `upload_blobs`, on bytes that were read before. -/
def uploadOne (config : StorageConfig) (index : Nat) (episodeId : Uuid) (slots : List Bytes)
    (records : List EpisodeBlob) (item : BlobMetadata × Nat) : BlobStep (List EpisodeBlob) :=
  match slots[item.1.blobId]? with
  | none => Attempt.fail (.blobOutOfRange item.1.blobId slots.length)
  | some data =>
      if ¬ isAllowedUploadMime (blobMime services item.1) then
        Attempt.fail (.unsupportedMime (blobMime services item.1) (blobFileName item.1))
      else if config.maxBlobBytes < data.length then
        Attempt.fail (.tooLarge (blobFileName item.1) config.maxBlobBytes)
      else do
        upload config (environment.putObject index item.2) (blobKey request episodeId item.1)
        pure (records ++
          [{ episodeId := episodeId
             storageKey := blobKey request episodeId item.1
             fileName := blobFileName item.1
             mimeType := blobMime services item.1
             fileSize := data.length
             contentHash := services.sha256 data
             blobIndex := item.1.blobId }])

/-- `BlobStorageService.upload_blobs` with the client of the caller. -/
def uploadBlobs (config : StorageConfig) (index : Nat) (episodeId : Uuid)
    (metadatas : List BlobMetadata) (slots : List Bytes) : BlobStep (List EpisodeBlob) := do
  Attempt.change (.changeEffects fun effects =>
    { effects with handed := effects.handed ++ [(episodeId, slots)] })
  if services.maxBlobsPerRequest < metadatas.length then
    Attempt.fail (.tooManyBlobs metadatas.length services.maxBlobsPerRequest)
  else do
    let records ← Attempt.fold
      (uploadOne services environment request config index episodeId slots) [] metadatas.zipIdx
    if records = [] then pure []
    else do
      awaited (environment.batchCreate index)
      pure records

/-- `del shared_bytes[bid]` -/
def dropShared (blobId : Nat) : BlobStep Unit := do
  let cached ← Attempt.read fun run => run.cache.sharedBytes blobId
  match cached with
  | none => Attempt.fail (.keyError blobId)
  | some _ =>
      Attempt.change (.changeCache fun cache =>
        { cache with sharedBytes := Function.update cache.sharedBytes blobId none })

/-- `remaining[bid] -= 1` -/
def UploadCache.lowerCount (blobId : Nat) (cache : UploadCache) : UploadCache :=
  { cache with
    remaining := Function.update cache.remaining blobId (cache.remaining blobId - 1) }

/-- The release of one file after an episode. -/
def releaseShared (_ : Unit) (blobId : Nat) : BlobStep Unit :=
  if request.Shared blobId then do
    Attempt.change (.changeCache (.lowerCount blobId))
    let left ← Attempt.read fun run => run.cache.remaining blobId
    if left ≤ 0 then dropShared blobId else pure ()
  else pure ()

/-- The files that an episode refers to, in the order of the set. -/
def neededIds (episode : Uuid × List BlobMetadata) : List Nat :=
  services.setOrder.enumerate (episode.2.map BlobMetadata.blobId)

/-- One round of the loop of `_process_blobs`. -/
def processEpisode (config : StorageConfig) (records : List EpisodeBlob)
    (item : (Uuid × List BlobMetadata) × Nat) : BlobStep (List EpisodeBlob) := do
  let slots ← Attempt.fold (needSlot environment request config)
    (List.replicate request.uploadedBlobs.length []) (neededIds services item.1)
  let new ← uploadBlobs services environment request config item.2 item.1.1 item.1.2 slots
  Attempt.fold (releaseShared request) () (neededIds services item.1)
  pure (records ++ new)

/-- `_process_blobs` -/
def processBlobs : BlobStep (List EpisodeBlob) :=
  if request.epBlobMetas = [] then pure []
  else
    match environment.storageConfig with
    | .error interruption => Attempt.fail (.interrupted interruption)
    | .ok config => do
        Attempt.change (.changeCache fun cache =>
          { cache with
            sharedBytes := fun _ => none
            remaining := fun id => request.useCounts id })
        Attempt.fold (processEpisode services environment request config) []
          request.epBlobMetas.zipIdx

/-- `uploaded_keys = [b.storage_key for b in blob_records if b.storage_key]` -/
def UploadEffects.recordKeys (records : List EpisodeBlob) (effects : UploadEffects) :
    UploadEffects :=
  { effects with
    uploadedKeys := (records.map EpisodeBlob.storageKey).filter fun key => !key.isEmpty }

/-- The blobs of the request; `uploaded_keys` is set when `_process_blobs` has
returned. -/
def ingestBlobs : BlobStep Unit :=
  if request.uploadedBlobs ≠ [] then do
    let records ← processBlobs services environment request
    Attempt.change (.changeEffects (.recordKeys records))
  else if request.messages.any (fun message => !message.2.isEmpty) then
    Attempt.fail .blobsWithoutFiles
  else pure ()

/-- The attempt up to its commit. -/
def ingestBody : BlobStep Unit := do
  awaited environment.redact
  awaited environment.lockAndInsert
  ingestBlobs services environment request
  awaited environment.commit

/-- `_compensate_blob_uploads`: every failure but a cancellation is logged. -/
def compensateBlobUploads : BlobStep Unit := do
  let keys ← Attempt.read fun run => run.effects.uploadedKeys
  if keys = [] then pure ()
  else
    match environment.storageConfigAgain with
    | .error .raised => pure ()
    | .error .cancelled => Attempt.fail (.interrupted .cancelled)
    | .ok config =>
        Attempt.change (.changeEffects fun effects =>
          { effects with
            objects := effects.objects.filter fun object =>
              !(keys.map config.object).contains object })

/-- The two handlers of `ingest`, which do the same. -/
def handleFailure (failure : IngestFailure) : BlobStep Unit := do
  awaited environment.rollback
  compensateBlobUploads environment
  awaited environment.releaseContentHash
  Attempt.fail failure

/-- `ingest` from its won claim to its commit. -/
def ingest : BlobStep Unit :=
  Attempt.handle (ingestBody services environment request) (handleFailure environment)

end

end OpenZync.Memory
