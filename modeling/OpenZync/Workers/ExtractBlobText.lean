import OpenZync.Text
import OpenZync.Workers.EnrichEpisode

/-!
# The blob text task

`extract_blob_text` takes the text out of one attachment, redacts it, stores it
on the row of the blob and stamps bit 7 of the episode.  The status it stamps
is the one it has loaded, joined with the bit, and is written when the session
flushes.  The libraries that read the files, the object store and the PII
service are parameters.
-/

namespace OpenZync.Workers

open OpenZync.Library

abbrev Bytes := List UInt8

def enrichmentBlobText : EnrichmentStatus := 1#32 <<< 7

inductive ExtractError where
  /-- An extractor library is missing. -/
  | importError
  | externalService
  | piiUnavailable
  /-- Corrupt input, failed downloads, database errors. -/
  | other
deriving DecidableEq

/-- `_is_retryable` of the task. -/
def ExtractError.isRetryable : ExtractError → Bool
  | .importError => false
  | _ => true

inductive PiiError where
  /-- The service is in block mode and found something. -/
  | validation
  | piiUnavailable
  | other
deriving DecidableEq

/-- The PII fields of an organisation's config. -/
structure OrgPii where
  piiMode : Option Text
  piiSensitivity : Option Text
  piiEnabledTypes : Option (List Text)
  piiMinConfidence : Option Text

/-- What `PIIService` is built from. -/
structure PiiConfig where
  mode : Text
  sensitivity : Option Text
  enabledTypes : Option (List Text)
  minConfidence : Option Text

/-- The libraries the task calls. -/
structure Libraries where
  /-- `bytes.decode` with `errors="replace"`. -/
  decodeUtf8 : Bytes → Text
  /-- The texts of the pages of a PDF. -/
  pdfPages : Bytes → Except ExtractError (List Text)
  /-- The texts of the paragraphs of a DOCX file. -/
  docxParagraphs : Bytes → Except ExtractError (List Text)
  ocr : Bytes → Except ExtractError Text
  /-- `magic.from_buffer`. -/
  magic : Bytes → Except ExtractError Text
  /-- `PIIService(config).process_message`. -/
  processMessage : PiiConfig → Text → Except PiiError Text

/-- `result if result else None` -/
def nonempty (text : Text) : Option Text :=
  if text = [] then none else some text

def extractPdf (libraries : Libraries) (data : Bytes) : Except ExtractError (Option Text) :=
  (libraries.pdfPages data).map fun pages =>
    nonempty (Text.strip (['\n'].intercalate pages))

def extractDocx (libraries : Libraries) (data : Bytes) : Except ExtractError (Option Text) :=
  (libraries.docxParagraphs data).map fun paragraphs =>
    nonempty (Text.strip
      (['\n'].intercalate (paragraphs.filter fun text => !(Text.strip text).isEmpty)))

def extractTextPlain (libraries : Libraries) (data : Bytes) : Option Text :=
  nonempty (Text.strip (libraries.decodeUtf8 data))

def extractImageOcr (libraries : Libraries) (data : Bytes) :
    Except ExtractError (Option Text) :=
  (libraries.ocr data).map fun text => nonempty (Text.strip text)

/-- Claimed types that carry no signal. -/
def genericMimes : List Text :=
  ["application/octet-stream".toList, "binary/octet-stream".toList]

/-- The extractor of a type that is known by its name. -/
def extractAs (libraries : Libraries) (mimeType : Text) (data : Bytes) :
    Option (Except ExtractError (Option Text)) :=
  if "text/".toList.isPrefixOf mimeType then some (.ok (extractTextPlain libraries data))
  else if mimeType = "application/pdf".toList then some (extractPdf libraries data)
  else if mimeType =
        "application/vnd.openxmlformats-officedocument.wordprocessingml.document".toList ∨
      mimeType = "application/msword".toList then some (extractDocx libraries data)
  else if "image/".toList.isPrefixOf mimeType then some (extractImageOcr libraries data)
  else none

/-- `_dispatch_extraction` calls itself with the type that `magic` detects.
Detecting again gives the same type, which ends the recursion without a text. -/
def dispatchExtraction (libraries : Libraries) (mimeType : Text) (data : Bytes) :
    Except ExtractError (Option Text) :=
  if genericMimes.contains mimeType then
    match libraries.magic data with
    | .error .importError => .ok none
    | .error error => .error error
    | .ok detected =>
        if detected = [] ∨ genericMimes.contains detected ∨ detected = mimeType then .ok none
        else (extractAs libraries detected data).getD (.ok none)
  else
    match extractAs libraries mimeType data with
    | some result => result
    | none =>
        match libraries.magic data with
        | .error .importError => .ok none
        | .error error => .error error
        | .ok detected =>
            if detected = [] ∨ detected = mimeType then .ok none
            else
              -- the call is inside the `try`, so a missing extractor counts as no text
              match (extractAs libraries detected data).getD (.ok none) with
              | .error .importError => .ok none
              | result => result

def OrgPii.config (org : OrgPii) : PiiConfig :=
  match org.piiMode with
  | none =>
      { mode := "mask".toList
        sensitivity := none
        enabledTypes := none
        minConfidence := none }
  | some mode =>
      { mode := mode
        sensitivity := org.piiSensitivity
        enabledTypes := org.piiEnabledTypes
        minConfidence := org.piiMinConfidence }

/-- `_redact_extracted_text`: `none` stands for a config that could not be
fetched.  A blocked text is masked instead. -/
def redactExtractedText (libraries : Libraries) (org : Option OrgPii) (extractedText : Text) :
    Except ExtractError Text :=
  match org with
  | none => .error .piiUnavailable
  | some org =>
      let config := org.config
      if config.mode = "off".toList then .ok extractedText
      else
        match libraries.processMessage config extractedText with
        | .ok redacted => .ok redacted
        | .error .validation =>
            match libraries.processMessage { config with mode := "mask".toList }
                extractedText with
            | .ok redacted => .ok redacted
            | .error _ => .error .piiUnavailable
        | .error _ => .error .piiUnavailable

structure BlobRow where
  id : Uuid
  extractedText : Option Text
deriving DecidableEq

/-- An episode and its attachments. -/
structure EpisodeTables where
  episode : EpisodeRow
  blobs : List BlobRow
deriving DecidableEq

/-- The arguments of a job. -/
structure BlobJob where
  blobId : Uuid
  storageKey : Text
  mimeType : Text

/-- What an attempt meets outside the two tables. -/
structure BlobWorld where
  archived : Bool
  getOrgStorageConfig : Except ExtractError Unit
  download : Text → Except ExtractError Bytes
  orgPii : Option OrgPii
  /-- The two updates and the commit. -/
  persist : Except ExtractError Unit

/-- The status of the episode, for a job that has work to do. -/
def loadStatus (job : BlobJob) (archived : Bool) (tables : EpisodeTables) :
    Option EnrichmentStatus :=
  if tables.blobs.all fun blob => blob.id != job.blobId then none
  else if tables.episode.isDeleted then none
  else if tables.episode.enrichmentStatus &&& enrichmentBlobText ≠ 0#32 then none
  else if archived then none
  else some tables.episode.enrichmentStatus

/-- The redacted text of the blob. -/
def obtainText (libraries : Libraries) (world : BlobWorld) (job : BlobJob) :
    Except ExtractError (Option Text) := do
  world.getOrgStorageConfig
  let data ← world.download job.storageKey
  match ← dispatchExtraction libraries job.mimeType data with
  | none => return none
  | some extractedText =>
      let redacted ← redactExtractedText libraries world.orgPii extractedText
      return nonempty redacted

def updateExtractedText (blobs : List BlobRow) (blobId : Uuid) (extractedText : Text) :
    List BlobRow :=
  blobs.map fun blob =>
    if blob.id = blobId then { blob with extractedText := some extractedText } else blob

/-- The blob's text, and the flush of the status loaded before. -/
def EpisodeTables.storeText (tables : EpisodeTables) (job : BlobJob) (text : Text)
    (loaded : EnrichmentStatus) : EpisodeTables :=
  { episode := { tables.episode with enrichmentStatus := loaded ||| enrichmentBlobText }
    blobs := updateExtractedText tables.blobs job.blobId text }

/-- The body of `extract_blob_text`, with nothing else running. -/
def extractBlobText (libraries : Libraries) (world : BlobWorld) (job : BlobJob)
    (tables : EpisodeTables) : Except ExtractError EpisodeTables :=
  match loadStatus job world.archived tables with
  | none => .ok tables
  | some loaded => do
      match ← obtainText libraries world job with
      | none => return tables
      | some text =>
          world.persist
          return tables.storeText job text loaded

end OpenZync.Workers
