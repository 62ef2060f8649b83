import Mathlib.Data.List.Range
import OpenZync.Library.Attempts
import OpenZync.Memory.BlobKeys

/-!
# Streamed uploads

`upload_stream` and `_stream_upload_capped`: the chunks of a source pass through
a buffer that is sent in parts of 5 MiB, and a multipart upload puts the parts
together.  Every awaited step can raise.

The loops of `upload_stream` keep an invariant: the parts that the store took
are full and numbered from one, and with the buffer they are the bytes that were
read.  So an upload that nothing interrupts is completed with the chunks of its
source, and one that is interrupted is never completed.
-/

namespace OpenZync.Memory

open OpenZync.Library

/-- What an awaited step raises.  `CancelledError` is no `Exception`. -/
inductive Raised where
  | payloadTooLarge
  | s3Storage
  | exception
  | cancelled
deriving DecidableEq

/-- `except Exception` -/
def Raised.IsException (raised : Raised) : Prop :=
  raised ≠ .cancelled

instance (raised : Raised) : Decidable raised.IsException :=
  inferInstanceAs (Decidable (_ ≠ _))

/-- `_MIN_MULTIPART_PART_BYTES`: 5 MiB. -/
def minMultipartPartBytes : Nat := 5 * 1024 * 1024

/-- How the store answers the requests of one upload: what stops it before it has
its `UploadId`, and what the other requests raise. -/
structure S3Answers where
  createFails : Option Raised
  partFails : Nat → Option Raised
  completeFails : Option Raised
  abortFails : Option Raised
  eTag : Nat → Bytes → Text

/-- An async iterator of chunks, which ends by returning or by raising. -/
structure ChunkSource where
  chunks : List Bytes
  raises : Option Raised
deriving DecidableEq

def ChunkSource.bytes (source : ChunkSource) : Bytes :=
  source.chunks.flatten

/-- An entry of `MultipartUpload`: `ETag` and `PartNumber`. -/
abbrev PartEntry := Text × Nat

/-- What the store has seen of one upload: the parts that it took, the parts of
each request to complete it, and whether it was aborted. -/
structure MultipartUpload where
  uploads : List (Nat × Bytes)
  completions : List (List PartEntry)
  aborted : Bool
deriving DecidableEq

def MultipartUpload.fresh : MultipartUpload :=
  ⟨[], [], false⟩

/-- The bytes that the store took, in the order of the parts. -/
def MultipartUpload.bytes (upload : MultipartUpload) : Bytes :=
  (upload.uploads.map Prod.snd).flatten

abbrev UploadStep (α : Type) := Attempt MultipartUpload Raised α

/-- An awaited request: it raises, or it is carried out. -/
def s3Request (fails : Option Raised) (effect : MultipartUpload → MultipartUpload) :
    UploadStep Unit :=
  match fails with
  | some raised => Attempt.fail raised
  | none => Attempt.change effect

/-- The variables of the loop: `parts`, `part_number` and `pending`. -/
structure StreamProgress where
  parts : List PartEntry
  partNumber : Nat
  pending : Bytes
deriving DecidableEq

section

variable (answers : S3Answers)

/-- `upload_part`, and the entry that is appended to `parts`. -/
def uploadPart (partNumber : Nat) (body : Bytes) : UploadStep PartEntry := do
  s3Request (answers.partFails partNumber) fun upload =>
    { upload with uploads := upload.uploads ++ [(partNumber, body)] }
  pure (answers.eTag partNumber body, partNumber)

/-- `while len(pending) >= _MIN_MULTIPART_PART_BYTES` -/
def uploadFullParts (progress : StreamProgress) : UploadStep StreamProgress :=
  if _full : minMultipartPartBytes ≤ progress.pending.length then do
    let part ← uploadPart answers progress.partNumber
      (progress.pending.take minMultipartPartBytes)
    uploadFullParts
      { parts := progress.parts ++ [part]
        partNumber := progress.partNumber + 1
        pending := progress.pending.drop minMultipartPartBytes }
  else pure progress
termination_by progress.pending.length
decreasing_by
  simp only [List.length_drop, minMultipartPartBytes] at *
  omega

/-- One turn of `async for chunk in chunks`. -/
def streamChunk (progress : StreamProgress) (chunk : Bytes) : UploadStep StreamProgress :=
  uploadFullParts answers { progress with pending := progress.pending ++ chunk }

/-- `if pending or not parts` -/
def uploadLastPart (progress : StreamProgress) : UploadStep (List PartEntry) :=
  if progress.pending ≠ [] ∨ progress.parts = [] then do
    let part ← uploadPart answers progress.partNumber progress.pending
    pure (progress.parts ++ [part])
  else pure progress.parts

/-- The parts of the upload, up to the request that completes it. -/
def streamParts (source : ChunkSource) : UploadStep (List PartEntry) := do
  let progress ← Attempt.fold (streamChunk answers) ⟨[], 1, []⟩ source.chunks
  match source.raises with
  | some raised => Attempt.fail raised
  | none => uploadLastPart answers progress

/-- `complete_multipart_upload`: the request names the parts whether or not it
succeeds. -/
def completeMultipartUpload (parts : List PartEntry) : UploadStep Unit := do
  Attempt.change fun upload => { upload with completions := upload.completions ++ [parts] }
  s3Request answers.completeFails id

/-- `except Exception: await abort_multipart_upload(..); raise` -/
def abortMultipartUpload (raised : Raised) : UploadStep Unit :=
  if raised.IsException then do
    s3Request answers.abortFails fun upload => { upload with aborted := true }
    Attempt.fail raised
  else Attempt.fail raised

/-- The outer handlers: `S3StorageError` and `PayloadTooLargeError` pass, every
other `Exception` becomes an `S3StorageError`. -/
def wrapFailure (raised : Raised) : UploadStep Unit :=
  match raised with
  | .exception => Attempt.fail .s3Storage
  | .payloadTooLarge => Attempt.fail .payloadTooLarge
  | .s3Storage => Attempt.fail .s3Storage
  | .cancelled => Attempt.fail .cancelled

/-- The inner `try` of `upload_stream`. -/
def transferParts (source : ChunkSource) : UploadStep Unit :=
  Attempt.handle (do
    let parts ← streamParts answers source
    completeMultipartUpload answers parts) (abortMultipartUpload answers)

/-- `BlobStorage.upload_stream` -/
def uploadStream (source : ChunkSource) : UploadStep Unit :=
  Attempt.handle (do
    s3Request answers.createFails id
    transferParts answers source) wrapFailure

end

/-- The `UploadFile` of a request: what its reads of 1 MiB return, in order, and
what the read after them raises where it does not find the end. -/
structure UploadReads where
  reads : List Bytes
  raises : Option Raised
deriving DecidableEq

/-- The file: an empty read is its end. -/
def UploadReads.content (file : UploadReads) : Bytes :=
  (file.reads.takeWhile (· ≠ [])).flatten

/-- What the generator `_chunks` has yielded and kept when it ends. -/
structure CappedChunks where
  source : ChunkSource
  hashed : Bytes
  total : Nat
deriving DecidableEq

/-- `_chunks`, after `hashed` and `total`. -/
def cappedChunks (maxBytes : Nat) (raises : Option Raised) :
    Bytes → Nat → List Bytes → CappedChunks
  | hashed, total, [] => ⟨⟨[], raises⟩, hashed, total⟩
  | hashed, total, [] :: _ => ⟨⟨[], none⟩, hashed, total⟩
  | hashed, total, chunk :: reads =>
      if maxBytes < total + chunk.length then
        ⟨⟨[], some .payloadTooLarge⟩, hashed, total + chunk.length⟩
      else
        let rest := cappedChunks maxBytes raises (hashed ++ chunk) (total + chunk.length) reads
        { rest with source := { rest.source with chunks := chunk :: rest.source.chunks } }

def UploadReads.capped (file : UploadReads) (maxBytes : Nat) : CappedChunks :=
  cappedChunks maxBytes file.raises [] 0 file.reads

/-- `_stream_upload_capped`: the digest and the size.  Where the upload returns
the generator was read to its end. -/
def streamUploadCapped (answers : S3Answers) (sha256 : Bytes → Text) (maxBytes : Nat)
    (file : UploadReads) : UploadStep (Text × Nat) := do
  uploadStream answers (file.capped maxBytes).source
  pure (sha256 (file.capped maxBytes).hashed, (file.capped maxBytes).total)

variable {answers : S3Answers} {source : ChunkSource} {upload : MultipartUpload}
  {consumed : Bytes} {progress : StreamProgress}

/-- The entries of the parts that the store took. -/
def MultipartUpload.entries (answers : S3Answers) (upload : MultipartUpload) : List PartEntry :=
  upload.uploads.map fun part => (answers.eTag part.1 part.2, part.1)

/-- The store took another part. -/
def MultipartUpload.take (partNumber : Nat) (body : Bytes) (upload : MultipartUpload) :
    MultipartUpload :=
  { upload with uploads := upload.uploads ++ [(partNumber, body)] }

@[simp] theorem MultipartUpload.take_bytes (partNumber : Nat) (body : Bytes) :
    (upload.take partNumber body).bytes = upload.bytes ++ body := by
  simp [MultipartUpload.take, MultipartUpload.bytes]

@[simp] theorem MultipartUpload.take_entries (partNumber : Nat) (body : Bytes) :
    (upload.take partNumber body).entries answers =
      upload.entries answers ++ [(answers.eTag partNumber body, partNumber)] := by
  simp [MultipartUpload.take, MultipartUpload.entries]

/-- How many parts of a source are sent: the full ones before it raises, or all,
and at least one, of a source that ends. -/
def ChunkSource.partCount (source : ChunkSource) : Nat :=
  match source.raises with
  | some _ => source.bytes.length / minMultipartPartBytes
  | none =>
      max 1 ((source.bytes.length + (minMultipartPartBytes - 1)) / minMultipartPartBytes)

/-- What the first failing part raises, and else the source. -/
def interruption (answers : S3Answers) (source : ChunkSource) : Option Raised :=
  ((List.range source.partCount).findSome? fun index => answers.partFails (index + 1)).or
    source.raises

/-- The upload has been neither completed nor aborted. -/
def MultipartUpload.Pending (upload : MultipartUpload) : Prop :=
  upload.completions = [] ∧ upload.aborted = false

/-- The parts are numbered from one, full up to the last one, and together they
are the bytes. -/
structure InParts (upload : MultipartUpload) (bytes : Bytes) : Prop where
  numbered : upload.uploads.map Prod.fst = List.range' 1 upload.uploads.length
  nonempty : upload.uploads ≠ []
  whole : upload.bytes = bytes
  full : ∀ part ∈ upload.uploads.dropLast, part.2.length = minMultipartPartBytes

/-- The invariant of the loops. -/
structure Streaming (answers : S3Answers) (consumed : Bytes) (progress : StreamProgress)
    (upload : MultipartUpload) : Prop where
  numbered : upload.uploads.map Prod.fst = List.range' 1 upload.uploads.length
  full : ∀ part ∈ upload.uploads, part.2.length = minMultipartPartBytes
  whole : upload.bytes ++ progress.pending = consumed
  parts : progress.parts = upload.entries answers
  next : progress.partNumber = upload.uploads.length + 1
  taken : ∀ index < upload.uploads.length, answers.partFails (index + 1) = none
  pending : upload.Pending

/-- A part is the first that fails. -/
structure FailsAt (answers : S3Answers) (index : Nat) (raised : Raised) : Prop where
  before : ∀ earlier < index, answers.partFails (earlier + 1) = none
  fails : answers.partFails (index + 1) = some raised

theorem interruption_of_failsAt {index : Nat} {raised : Raised}
    (failsAt : FailsAt answers index raised) (sent : index < source.partCount) :
    interruption answers source = some raised := by
  have split : List.range source.partCount =
      List.range index ++ index :: List.range' (index + 1) (source.partCount - index - 1) := by
    have joined : List.range' 0 index ++ List.range' index (source.partCount - index) =
        List.range' 0 source.partCount := by
      have appended := @List.range'_append 0 index (source.partCount - index) 1
      rwa [Nat.zero_add, Nat.one_mul, Nat.add_sub_cancel' (Nat.le_of_lt sent)] at appended
    have later : source.partCount - index = source.partCount - index - 1 + 1 := by omega
    rw [later, List.range'_succ] at joined
    rw [List.range_eq_range', List.range_eq_range', ← joined]
  have earlier : ∀ other ∈ List.range index, answers.partFails (other + 1) = none :=
    fun other member => failsAt.before other (List.mem_range.mp member)
  have found : (List.range source.partCount).findSome?
      (fun index => answers.partFails (index + 1)) = some raised :=
    List.findSome?_eq_some_iff.mpr ⟨_, _, _, split, failsAt.fails, earlier⟩
  rw [interruption, found, Option.some_or]

theorem interruption_of_taken
    (taken : ∀ index < source.partCount, answers.partFails (index + 1) = none) :
    interruption answers source = source.raises := by
  have none_fails : (List.range source.partCount).findSome?
      (fun index => answers.partFails (index + 1)) = none := by
    rw [List.findSome?_eq_none_iff]
    intro index member
    exact taken index (List.mem_range.mp member)
  rw [interruption, none_fails, Option.none_or]

theorem Streaming.length_eq (streaming : Streaming answers consumed progress upload) :
    consumed.length =
      upload.uploads.length * minMultipartPartBytes + progress.pending.length := by
  have lengths : (upload.uploads.map Prod.snd).map List.length =
      List.replicate upload.uploads.length minMultipartPartBytes := by
    rw [List.map_map, List.eq_replicate_iff]
    refine ⟨by simp, ?_⟩
    intro length member
    obtain ⟨part, held, rfl⟩ := List.mem_map.mp member
    exact streaming.full part held
  rw [← streaming.whole, List.length_append, MultipartUpload.bytes, List.length_flatten, lengths,
    List.sum_replicate_nat]

/-- The numbers stay those from one on. -/
theorem Streaming.take_numbered (streaming : Streaming answers consumed progress upload)
    (body : Bytes) :
    (upload.take progress.partNumber body).uploads.map Prod.fst =
      List.range' 1 (upload.take progress.partNumber body).uploads.length := by
  simp only [MultipartUpload.take, List.map_append, List.map_cons, List.map_nil,
    List.length_append, List.length_cons, List.length_nil]
  rw [streaming.numbered, streaming.next, Nat.zero_add, List.range'_concat, Nat.one_mul,
    Nat.add_comm 1]

theorem Streaming.take_taken (streaming : Streaming answers consumed progress upload)
    (body : Bytes) (passes : answers.partFails progress.partNumber = none) :
    ∀ index < (upload.take progress.partNumber body).uploads.length,
      answers.partFails (index + 1) = none := by
  intro index below
  rw [MultipartUpload.take, List.length_append, List.length_singleton] at below
  rcases Nat.lt_succ_iff_lt_or_eq.mp below with earlier | rfl
  · exact streaming.taken index earlier
  · rw [← streaming.next]
    exact passes

/-- The store took a full part off the buffer. -/
theorem Streaming.step (streaming : Streaming answers consumed progress upload)
    (full : minMultipartPartBytes ≤ progress.pending.length)
    (passes : answers.partFails progress.partNumber = none) :
    let body := progress.pending.take minMultipartPartBytes
    Streaming answers consumed
      { parts := progress.parts ++ [(answers.eTag progress.partNumber body, progress.partNumber)]
        partNumber := progress.partNumber + 1
        pending := progress.pending.drop minMultipartPartBytes }
      (upload.take progress.partNumber body) where
  numbered := streaming.take_numbered _
  full := by
    intro part member
    rcases List.mem_append.mp member with earlier | last
    · exact streaming.full part earlier
    · rw [List.mem_singleton.mp last, List.length_take]
      exact Nat.min_eq_left full
  whole := by
    rw [MultipartUpload.take_bytes, List.append_assoc, List.take_append_drop]
    exact streaming.whole
  parts := by rw [MultipartUpload.take_entries, streaming.parts]
  next := by simp [MultipartUpload.take, streaming.next]
  taken := streaming.take_taken _ passes
  pending := streaming.pending

theorem Streaming.failsAt {raised : Raised}
    (streaming : Streaming answers consumed progress upload)
    (fails : answers.partFails progress.partNumber = some raised) :
    FailsAt answers upload.uploads.length raised where
  before := streaming.taken
  fails := by rw [← streaming.next]; exact fails

/-- A chunk is read into the buffer. -/
theorem Streaming.extend (streaming : Streaming answers consumed progress upload)
    (chunk : Bytes) :
    Streaming answers (consumed ++ chunk)
      { progress with pending := progress.pending ++ chunk } upload where
  numbered := streaming.numbered
  full := streaming.full
  whole := by rw [← List.append_assoc, streaming.whole]
  parts := streaming.parts
  next := streaming.next
  taken := streaming.taken
  pending := streaming.pending

theorem uploadPart_meets {before : MultipartUpload → Prop} {partNumber : Nat} {body : Bytes}
    {returned : PartEntry → MultipartUpload → Prop} {failed : Raised → MultipartUpload → Prop}
    (passes : ∀ upload, before upload → answers.partFails partNumber = none →
      returned (answers.eTag partNumber body, partNumber) (upload.take partNumber body))
    (fails : ∀ upload raised, before upload → answers.partFails partNumber = some raised →
      failed raised upload) :
    Attempt.Meets before (uploadPart answers partNumber body) returned failed := by
  rw [uploadPart]
  cases answer : answers.partFails partNumber with
  | some raised =>
      have stops : Attempt.Meets before
          (Attempt.fail raised : UploadStep Unit) (fun _ _ => False) failed :=
        Attempt.meets_fail raised fun upload start => fails upload raised start answer
      exact stops.bind fun _ _ impossible => impossible.elim
  | none =>
      refine Attempt.meets_change_bind (fun upload =>
        returned (answers.eTag partNumber body, partNumber) upload)
        (fun upload start => passes upload start answer) ?_
      exact Attempt.meets_pure _ fun _ reached => reached

/-- A part that is sent while the source is read fails. -/
def StoppedAtPart (answers : S3Answers) (bound : Nat) (raised : Raised)
    (upload : MultipartUpload) : Prop :=
  upload.Pending ∧ ∃ index, FailsAt answers index raised ∧ index < bound

theorem uploadFullParts_meets (progress : StreamProgress) :
    Attempt.Meets (Streaming answers consumed progress) (uploadFullParts answers progress)
      (fun after upload => Streaming answers consumed after upload ∧
        after.pending.length < minMultipartPartBytes)
      (StoppedAtPart answers (consumed.length / minMultipartPartBytes)) := by
  induction progress using uploadFullParts.induct with
  | case1 progress full induction =>
      rw [uploadFullParts, dif_pos full]
      have first : Attempt.Meets (Streaming answers consumed progress)
          (uploadPart answers progress.partNumber (progress.pending.take minMultipartPartBytes))
          (fun part upload => Streaming answers consumed
            { parts := progress.parts ++ [part]
              partNumber := progress.partNumber + 1
              pending := progress.pending.drop minMultipartPartBytes } upload)
          (StoppedAtPart answers (consumed.length / minMultipartPartBytes)) := by
        refine uploadPart_meets ?_ ?_
        · intro upload streaming passes
          exact streaming.step full passes
        · intro upload raised streaming fails
          refine ⟨streaming.pending, _, streaming.failsAt fails, ?_⟩
          rw [streaming.length_eq, Nat.mul_comm, Nat.mul_add_div (by decide)]
          exact Nat.lt_add_of_pos_right (Nat.div_pos full (by decide))
      exact first.bind induction
  | case2 progress drained =>
      rw [uploadFullParts, dif_neg drained]
      exact Attempt.meets_pure progress fun upload start => ⟨start, Nat.lt_of_not_le drained⟩

/-- The invariant between two chunks, with the buffer shorter than a part. -/
def BetweenChunks (answers : S3Answers) (done : List Bytes) (progress : StreamProgress)
    (upload : MultipartUpload) : Prop :=
  Streaming answers done.flatten progress upload ∧
    progress.pending.length < minMultipartPartBytes

theorem streamChunks_meets (chunks : List Bytes) :
    Attempt.Meets (BetweenChunks answers [] ⟨[], 1, []⟩)
      (Attempt.fold (streamChunk answers) ⟨[], 1, []⟩ chunks) (BetweenChunks answers chunks)
      (StoppedAtPart answers (chunks.flatten.length / minMultipartPartBytes)) := by
  refine Attempt.Meets.fold (BetweenChunks answers) _ ?_ _
  intro done chunk rest whole progress
  refine (uploadFullParts_meets _).weaken (fun upload start => start.1.extend chunk) ?_ ?_
  · intro after upload streaming
    simpa [BetweenChunks] using streaming
  · rintro raised upload ⟨pending, index, failsAt, below⟩
    refine ⟨pending, index, failsAt, Nat.lt_of_lt_of_le below (Nat.div_le_div_right ?_)⟩
    simp [whole]

theorem betweenChunks_fresh : BetweenChunks answers [] ⟨[], 1, []⟩ .fresh where
  left := ⟨rfl, by simp [MultipartUpload.fresh], rfl, rfl, rfl,
    by simp [MultipartUpload.fresh], rfl, rfl⟩
  right := by decide

theorem Streaming.count (streaming : Streaming answers consumed progress upload)
    (short : progress.pending.length < minMultipartPartBytes) :
    upload.uploads.length = consumed.length / minMultipartPartBytes := by
  rw [streaming.length_eq, Nat.mul_comm, Nat.mul_add_div (by decide), Nat.div_eq_of_lt short,
    Nat.add_zero]

theorem Streaming.partCount_of_last (streaming : Streaming answers source.bytes progress upload)
    (short : progress.pending.length < minMultipartPartBytes) (ends : source.raises = none)
    (last : progress.pending ≠ [] ∨ progress.parts = []) :
    source.partCount = upload.uploads.length + 1 := by
  have length := streaming.length_eq
  rw [ChunkSource.partCount, ends]
  simp only
  rw [length]
  simp only [minMultipartPartBytes] at *
  rcases last with left | noPart
  · have positive := List.length_pos_of_ne_nil left
    omega
  · rw [streaming.parts] at noPart
    have empty : upload.uploads.length = 0 := by
      simpa [MultipartUpload.entries] using noPart
    omega

theorem Streaming.partCount_of_exact (streaming : Streaming answers source.bytes progress upload)
    (ends : source.raises = none)
    (exact : ¬ (progress.pending ≠ [] ∨ progress.parts = [])) :
    source.partCount = upload.uploads.length := by
  have length := streaming.length_eq
  obtain ⟨drained, sent⟩ := not_or.mp exact
  rw [not_ne_iff.mp drained, List.length_nil] at length
  have positive : 0 < upload.uploads.length := by
    rw [List.length_pos_iff]
    intro noPart
    exact sent (by rw [streaming.parts, MultipartUpload.entries, noPart, List.map_nil])
  rw [ChunkSource.partCount, ends]
  simp only
  rw [length]
  simp only [minMultipartPartBytes] at *
  omega

/-- All parts of a source that ends were sent. -/
structure Sent (answers : S3Answers) (source : ChunkSource) (parts : List PartEntry)
    (upload : MultipartUpload) : Prop where
  inParts : InParts upload source.bytes
  parts : parts = upload.entries answers
  uninterrupted : interruption answers source = none
  pending : upload.Pending

/-- A failing part or the source stopped the upload. -/
def Interrupted (answers : S3Answers) (source : ChunkSource) (raised : Raised)
    (upload : MultipartUpload) : Prop :=
  upload.Pending ∧ interruption answers source = some raised

theorem Streaming.sent_last (streaming : Streaming answers source.bytes progress upload)
    (short : progress.pending.length < minMultipartPartBytes) (ends : source.raises = none)
    (last : progress.pending ≠ [] ∨ progress.parts = [])
    (passes : answers.partFails progress.partNumber = none) :
    Sent answers source
      (progress.parts ++
        [(answers.eTag progress.partNumber progress.pending, progress.partNumber)])
      (upload.take progress.partNumber progress.pending) where
  inParts :=
    { numbered := streaming.take_numbered _
      nonempty := by simp [MultipartUpload.take]
      whole := by rw [MultipartUpload.take_bytes, streaming.whole]
      full := by
        intro part member
        rw [MultipartUpload.take, List.dropLast_concat] at member
        exact streaming.full part member }
  parts := by rw [MultipartUpload.take_entries, streaming.parts]
  uninterrupted := by
    rw [← ends]
    refine interruption_of_taken fun index below => ?_
    rw [streaming.partCount_of_last short ends last] at below
    refine streaming.take_taken progress.pending passes index ?_
    simpa [MultipartUpload.take] using below
  pending := streaming.pending

theorem Streaming.sent_exact (streaming : Streaming answers source.bytes progress upload)
    (ends : source.raises = none)
    (exact : ¬ (progress.pending ≠ [] ∨ progress.parts = [])) :
    Sent answers source progress.parts upload where
  inParts :=
    { numbered := streaming.numbered
      nonempty := by
        intro noPart
        refine exact (.inr ?_)
        rw [streaming.parts, MultipartUpload.entries, noPart, List.map_nil]
      whole := by
        rw [← streaming.whole, not_ne_iff.mp (not_or.mp exact).1, List.append_nil]
      full := fun part member => streaming.full part (List.dropLast_subset _ member) }
  parts := streaming.parts
  uninterrupted := by
    rw [← ends]
    refine interruption_of_taken fun index below => ?_
    rw [streaming.partCount_of_exact ends exact] at below
    exact streaming.taken index below
  pending := streaming.pending

theorem uploadLastPart_meets (ends : source.raises = none) (progress : StreamProgress) :
    Attempt.Meets (BetweenChunks answers source.chunks progress)
      (uploadLastPart answers progress) (Sent answers source) (Interrupted answers source) := by
  refine Attempt.meets_ite ?_ ?_
  · intro last
    have uploaded : Attempt.Meets (BetweenChunks answers source.chunks progress)
        (uploadPart answers progress.partNumber progress.pending)
        (fun part => Sent answers source (progress.parts ++ [part]))
        (Interrupted answers source) := by
      refine uploadPart_meets ?_ ?_
      · intro upload start passes
        exact start.1.sent_last start.2 ends last passes
      · intro upload raised start fails
        refine ⟨start.1.pending, interruption_of_failsAt (start.1.failsAt fails) ?_⟩
        rw [start.1.partCount_of_last start.2 ends last]
        exact Nat.lt_succ_self _
    exact uploaded.bind fun part => Attempt.meets_pure _ fun _ sent => sent
  · intro exact
    exact Attempt.meets_pure _ fun upload start => start.1.sent_exact ends exact

/-- A part that fails while the source is read is one of those that are sent. -/
theorem ChunkSource.div_le_partCount (source : ChunkSource) :
    source.bytes.length / minMultipartPartBytes ≤ source.partCount := by
  rw [ChunkSource.partCount]
  cases source.raises with
  | none =>
      simp only [minMultipartPartBytes]
      omega
  | some raised => exact Nat.le_refl _

theorem streamParts_meets (answers : S3Answers) (source : ChunkSource) :
    Attempt.Meets (· = .fresh) (streamParts answers source) (Sent answers source)
      (Interrupted answers source) := by
  have streamed : Attempt.Meets (· = .fresh)
      (Attempt.fold (streamChunk answers) ⟨[], 1, []⟩ source.chunks)
      (BetweenChunks answers source.chunks) (Interrupted answers source) := by
    refine (streamChunks_meets source.chunks).weaken ?_ (fun _ _ done => done) ?_
    · rintro upload rfl
      exact betweenChunks_fresh
    · rintro raised upload ⟨pending, index, failsAt, below⟩
      exact ⟨pending, interruption_of_failsAt failsAt
        (Nat.lt_of_lt_of_le below source.div_le_partCount)⟩
  refine streamed.bind fun progress => ?_
  cases ends : source.raises with
  | none => exact uploadLastPart_meets ends progress
  | some raised =>
      refine Attempt.meets_fail raised fun upload start => ⟨start.1.pending, ?_⟩
      rw [← ends]
      refine interruption_of_taken fun index below => start.1.taken index ?_
      rw [start.1.count start.2]
      rw [ChunkSource.partCount, ends] at below
      exact below

end OpenZync.Memory
