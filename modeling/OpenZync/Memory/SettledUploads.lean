import OpenZync.Memory.MultipartUploads

/-!
# Streamed uploads are settled

The handlers of `upload_stream` around its parts.  An upload that nothing
interrupts is completed once; one that an `Exception` interrupts is aborted.  A
cancellation passes `except Exception`, and the upload stays open.  The generator
of `_stream_upload_capped` is a source that ends where the cap is exceeded.
-/

namespace OpenZync.Memory

open OpenZync.Library

variable {answers : S3Answers} {source : ChunkSource} {upload after : MultipartUpload}
  {raised : Raised}

/-- What a streamed upload leaves and how it ends: it is completed once with all
the parts, or it is aborted and was never completed. -/
structure Settled (answers : S3Answers) (source : ChunkSource) {α : Type}
    (outcome : MultipartUpload × Except Raised α) : Prop where
  inParts : interruption answers source = none → InParts outcome.1 source.bytes
  completed : interruption answers source = none →
    outcome.1.completions = [outcome.1.entries answers]
  returns : interruption answers source = none → answers.completeFails = none →
    outcome.1.aborted = false ∧ ∃ value, outcome.2 = .ok value
  aborted : interruption answers source ≠ none →
    outcome.1.completions = [] ∧ outcome.1.aborted = true

/-- Whatever interrupts the upload is an `Exception`, and the request to abort is
carried out. -/
def Aborts (answers : S3Answers) (source : ChunkSource) : Prop :=
  ∀ raised, interruption answers source = some raised →
    raised.IsException ∧ answers.abortFails = none

theorem wrapFailure_run (raised : Raised) (upload : MultipartUpload) :
    ∃ failure, wrapFailure raised upload = (upload, .error failure) := by
  cases raised <;> exact ⟨_, rfl⟩

theorem abortMultipartUpload_run (answers : S3Answers) (raised : Raised)
    (upload : MultipartUpload) :
    ∃ failure, abortMultipartUpload answers raised upload =
      (if raised.IsException ∧ answers.abortFails = none then { upload with aborted := true }
        else upload, .error failure) := by
  rw [abortMultipartUpload]
  by_cases caught : raised.IsException
  · cases fails : answers.abortFails with
    | none => exact ⟨raised, by simp [caught]; rfl⟩
    | some other => exact ⟨other, by simp [caught]; rfl⟩
  · exact ⟨raised, by simp [caught]; rfl⟩

theorem completeMultipartUpload_run (parts : List PartEntry) (upload : MultipartUpload) :
    completeMultipartUpload answers parts upload =
      ({ upload with completions := upload.completions ++ [parts] },
        match answers.completeFails with
        | none => .ok ()
        | some failure => .error failure) := by
  rw [completeMultipartUpload, Attempt.change_bind]
  cases answers.completeFails <;> rfl

/-- An interrupted upload ends in the handler. -/
theorem transferParts_of_interrupted
    (ran : streamParts answers source .fresh = (after, .error raised)) :
    ∃ failure, transferParts answers source .fresh =
      (if raised.IsException ∧ answers.abortFails = none then { after with aborted := true }
        else after, .error failure) := by
  obtain ⟨failure, aborting⟩ := abortMultipartUpload_run answers raised after
  refine ⟨failure, ?_⟩
  rw [← aborting]
  exact Attempt.handle_of_error (Attempt.bind_of_error ran)

theorem transferParts_of_sent {parts : List PartEntry}
    (ran : streamParts answers source .fresh = (after, .ok parts)) :
    ∃ aborted result, transferParts answers source .fresh =
      ({ after with completions := after.completions ++ [parts], aborted := aborted }, result) ∧
      (answers.completeFails = none → aborted = after.aborted ∧ result = .ok ()) := by
  have completing : (streamParts answers source >>= completeMultipartUpload answers) .fresh =
      completeMultipartUpload answers parts after :=
    Attempt.bind_of_ok ran
  rw [completeMultipartUpload_run] at completing
  cases fails : answers.completeFails with
  | none =>
      rw [fails] at completing
      exact ⟨after.aborted, .ok (), Attempt.handle_of_ok completing, fun _ => ⟨rfl, rfl⟩⟩
  | some failure =>
      rw [fails] at completing
      obtain ⟨wrapped, aborting⟩ := abortMultipartUpload_run answers failure
        { after with completions := after.completions ++ [parts] }
      have handled : transferParts answers source .fresh =
          abortMultipartUpload answers failure
            { after with completions := after.completions ++ [parts] } :=
        Attempt.handle_of_error completing
      rw [aborting] at handled
      by_cases caught : failure.IsException ∧ answers.abortFails = none
      · rw [if_pos caught] at handled
        exact ⟨true, .error wrapped, handled, fun none => by cases none⟩
      · rw [if_neg caught] at handled
        exact ⟨after.aborted, .error wrapped, handled, fun none => by cases none⟩

/-- The outer handlers leave the upload as it is. -/
theorem uploadStream_run (source : ChunkSource) (creates : answers.createFails = none) :
    (uploadStream answers source .fresh).1 = (transferParts answers source .fresh).1 ∧
      ((uploadStream answers source .fresh).2 = .ok () ↔
        (transferParts answers source .fresh).2 = .ok ()) := by
  have started : (s3Request answers.createFails id >>= fun _ => transferParts answers source)
      .fresh = transferParts answers source .fresh := by
    rw [creates]
    rfl
  rcases ran : transferParts answers source .fresh with ⟨after, failure | value⟩
  · obtain ⟨wrapped, wrapping⟩ := wrapFailure_run failure after
    have whole : uploadStream answers source .fresh = (after, .error wrapped) :=
      (Attempt.handle_of_error (started.trans ran)).trans wrapping
    rw [whole]
    exact ⟨rfl, by simp⟩
  · have whole : uploadStream answers source .fresh = (after, .ok value) :=
      Attempt.handle_of_ok (started.trans ran)
    rw [whole]
    exact ⟨rfl, Iff.rfl⟩

theorem uploadStream_of_uninterrupted (creates : answers.createFails = none)
    (uninterrupted : interruption answers source = none) :
    InParts (uploadStream answers source .fresh).1 source.bytes ∧
      (uploadStream answers source .fresh).1.completions =
        [(uploadStream answers source .fresh).1.entries answers] ∧
      (answers.completeFails = none → (uploadStream answers source .fresh).1.aborted = false ∧
        (uploadStream answers source .fresh).2 = .ok ()) := by
  obtain ⟨sameUpload, sameReturn⟩ := uploadStream_run source creates
  have met := streamParts_meets answers source .fresh rfl
  rcases ran : streamParts answers source .fresh with ⟨after, raised | parts⟩
  · rw [ran] at met
    exact absurd (uninterrupted.symm.trans met.2) nofun
  · rw [ran] at met
    have sent : Sent answers source parts after := met
    obtain ⟨aborted, result, transferred, succeeds⟩ := transferParts_of_sent ran
    rw [transferred] at sameUpload sameReturn
    rw [sameUpload]
    refine ⟨⟨sent.inParts.numbered, sent.inParts.nonempty, sent.inParts.whole,
      sent.inParts.full⟩, ?_, ?_⟩
    · rw [sent.pending.1, sent.parts]
      rfl
    · intro completes
      obtain ⟨kept, returned⟩ := succeeds completes
      exact ⟨kept.trans sent.pending.2, sameReturn.mpr returned⟩

theorem uploadStream_of_raised (creates : answers.createFails = none)
    (interrupted : interruption answers source = some raised) :
    (uploadStream answers source .fresh).1.completions = [] ∧
      ((uploadStream answers source .fresh).1.aborted = true ↔
        raised.IsException ∧ answers.abortFails = none) ∧
      (uploadStream answers source .fresh).2 ≠ .ok () := by
  obtain ⟨sameUpload, sameReturn⟩ := uploadStream_run source creates
  have met := streamParts_meets answers source .fresh rfl
  rcases ran : streamParts answers source .fresh with ⟨after, other | parts⟩
  · rw [ran] at met
    obtain ⟨⟨notCompleted, notAborted⟩, same⟩ : Interrupted answers source other after := met
    obtain rfl : other = raised := Option.some.inj (same.symm.trans interrupted)
    obtain ⟨failure, transferred⟩ := transferParts_of_interrupted ran
    rw [transferred] at sameUpload sameReturn
    rw [sameUpload, ne_eq, sameReturn]
    refine ⟨?_, ?_, nofun⟩
    · split <;> exact notCompleted
    · by_cases caught : other.IsException ∧ answers.abortFails = none
      · simp [caught]
      · simp [caught, notAborted]
  · rw [ran] at met
    have sent : Sent answers source parts after := met
    exact absurd (interrupted.symm.trans sent.uninterrupted) nofun

/-- An upload that got its `UploadId` is settled exactly when whatever interrupts
it is caught and the abort is carried out. -/
theorem settled_iff (creates : answers.createFails = none) :
    Settled answers source (uploadStream answers source .fresh) ↔ Aborts answers source := by
  constructor
  · intro settled raised interrupted
    have aborted := (settled.aborted (by rw [interrupted]; exact nofun)).2
    exact (uploadStream_of_raised creates interrupted).2.1.mp aborted
  · intro aborts
    cases interrupted : interruption answers source with
    | none =>
        obtain ⟨inParts, completed, returns⟩ := uploadStream_of_uninterrupted creates interrupted
        exact ⟨fun _ => inParts, fun _ => completed,
          fun _ completes => ⟨(returns completes).1, (), (returns completes).2⟩,
          fun interrupts => absurd interrupted interrupts⟩
    | some raised =>
        obtain ⟨notCompleted, aborted, _⟩ := uploadStream_of_raised creates interrupted
        have impossible : interruption answers source ≠ none := by
          rw [interrupted]
          exact nofun
        exact ⟨fun none => absurd none impossible, fun none => absurd none impossible,
          fun none => absurd none impossible,
          fun _ => ⟨notCompleted, aborted.mpr (aborts raised interrupted)⟩⟩

section Capped

variable {sha256 : Bytes → Text} {maxBytes : Nat} {file : UploadReads}

/-- The reads before the one that exceeds the cap. -/
def withinCap : Nat → List Bytes → List Bytes
  | _, [] => []
  | maxBytes, chunk :: reads =>
      if chunk.length ≤ maxBytes then chunk :: withinCap (maxBytes - chunk.length) reads else []

/-- The file as a source: its reads within the cap, and `PayloadTooLargeError`
where it is longer. -/
def UploadReads.bounded (file : UploadReads) (maxBytes : Nat) : ChunkSource where
  chunks := withinCap maxBytes (file.reads.takeWhile (· ≠ []))
  raises :=
    if maxBytes < file.content.length then some .payloadTooLarge
    else if file.reads.contains [] then none
    else file.raises

/-- A capped upload is settled, and aborted where the file exceeds the cap. -/
structure CappedSettled (answers : S3Answers) (maxBytes : Nat) (file : UploadReads)
    (outcome : MultipartUpload × Except Raised (Text × Nat)) : Prop where
  settled : Settled answers (file.bounded maxBytes) outcome
  tooLarge : maxBytes < file.content.length →
    outcome.1.completions = [] ∧ outcome.1.aborted = true

/-- What is returned is the hash and the size of the bytes that were uploaded. -/
def Digested (sha256 : Bytes → Text)
    (outcome : MultipartUpload × Except Raised (Text × Nat)) : Prop :=
  ∀ hash size, outcome.2 = .ok (hash, size) →
    hash = sha256 outcome.1.bytes ∧ size = outcome.1.bytes.length

theorem bounded_of_fits {chunk : Bytes} {reads : List Bytes} {raises : Option Raised}
    (nonempty : chunk ≠ []) (fits : chunk.length ≤ maxBytes) :
    UploadReads.bounded ⟨chunk :: reads, raises⟩ maxBytes =
      { UploadReads.bounded ⟨reads, raises⟩ (maxBytes - chunk.length) with
        chunks := chunk ::
          (UploadReads.bounded ⟨reads, raises⟩ (maxBytes - chunk.length)).chunks } := by
  have longer : maxBytes < (UploadReads.mk (chunk :: reads) raises).content.length ↔
      maxBytes - chunk.length < (UploadReads.mk reads raises).content.length := by
    simp only [UploadReads.content, List.takeWhile_cons, nonempty, ne_eq, not_false_eq_true,
      decide_true, if_true, List.flatten_cons, List.length_append]
    omega
  simp only [UploadReads.bounded, longer, List.takeWhile_cons, nonempty, ne_eq,
    not_false_eq_true, decide_true, if_true, withinCap, fits, List.contains_cons]
  simp [nonempty]

theorem bounded_of_exceeds {chunk : Bytes} {reads : List Bytes} {raises : Option Raised}
    (nonempty : chunk ≠ []) (exceeds : maxBytes < chunk.length) :
    UploadReads.bounded ⟨chunk :: reads, raises⟩ maxBytes = ⟨[], some .payloadTooLarge⟩ := by
  have longer : maxBytes < (UploadReads.mk (chunk :: reads) raises).content.length := by
    simp only [UploadReads.content, List.takeWhile_cons, nonempty, ne_eq, not_false_eq_true,
      decide_true, if_true, List.flatten_cons, List.length_append]
    omega
  simp [UploadReads.bounded, longer, nonempty, withinCap, Nat.not_le.mpr exceeds]

theorem cappedChunks_cons {chunk hashed : Bytes} {total : Nat} {reads : List Bytes}
    {raises : Option Raised} (nonempty : chunk ≠ []) :
    cappedChunks maxBytes raises hashed total (chunk :: reads) =
      if maxBytes < total + chunk.length then
        ⟨⟨[], some .payloadTooLarge⟩, hashed, total + chunk.length⟩
      else
        let rest := cappedChunks maxBytes raises (hashed ++ chunk) (total + chunk.length) reads
        { rest with source := { rest.source with chunks := chunk :: rest.source.chunks } } := by
  cases chunk with
  | nil => exact absurd rfl nonempty
  | cons byte chunk => rfl

/-- The generator is the source, and a generator that returns has hashed and
counted what it yielded. -/
theorem cappedChunks_eq (raises : Option Raised) (hashed : Bytes) {total : Nat}
    (within : total ≤ maxBytes) (reads : List Bytes) :
    (cappedChunks maxBytes raises hashed total reads).source =
        UploadReads.bounded ⟨reads, raises⟩ (maxBytes - total) ∧
      ((cappedChunks maxBytes raises hashed total reads).source.raises = none →
        (cappedChunks maxBytes raises hashed total reads).hashed =
            hashed ++ (cappedChunks maxBytes raises hashed total reads).source.bytes ∧
          (cappedChunks maxBytes raises hashed total reads).total =
            total + (cappedChunks maxBytes raises hashed total reads).source.bytes.length) := by
  induction reads generalizing hashed total with
  | nil =>
      simp [cappedChunks, UploadReads.bounded, UploadReads.content, withinCap, ChunkSource.bytes]
  | cons chunk reads induction =>
      cases chunk with
      | nil =>
          simp [cappedChunks, UploadReads.bounded, UploadReads.content, withinCap,
            ChunkSource.bytes]
      | cons byte chunk =>
          have nonempty : byte :: chunk ≠ [] := List.cons_ne_nil byte chunk
          by_cases exceeds : maxBytes < total + (byte :: chunk).length
          · rw [cappedChunks_cons nonempty, if_pos exceeds, bounded_of_exceeds nonempty (by omega)]
            exact ⟨rfl, nofun⟩
          · obtain ⟨same, counts⟩ := induction (hashed ++ byte :: chunk)
              (Nat.le_of_not_lt exceeds)
            rw [cappedChunks_cons nonempty, if_neg exceeds, bounded_of_fits nonempty (by omega)]
            rw [← Nat.sub_sub] at same
            simp only [same, true_and]
            intro returns
            rw [same] at counts
            obtain ⟨hashes, totals⟩ := counts returns
            rw [hashes, totals]
            simp only [ChunkSource.bytes, List.flatten_cons, List.length_append]
            exact ⟨List.append_assoc _ _ _, Nat.add_assoc _ _ _⟩

theorem UploadReads.capped_eq (file : UploadReads) (maxBytes : Nat) :
    (file.capped maxBytes).source = file.bounded maxBytes ∧
      ((file.bounded maxBytes).raises = none →
        (file.capped maxBytes).hashed = (file.bounded maxBytes).bytes ∧
          (file.capped maxBytes).total = (file.bounded maxBytes).bytes.length) := by
  obtain ⟨same, counts⟩ := cappedChunks_eq file.raises [] (Nat.zero_le maxBytes) file.reads
  rw [same] at counts
  refine ⟨same, fun returns => ?_⟩
  obtain ⟨hashes, totals⟩ := counts returns
  exact ⟨hashes, totals.trans (Nat.zero_add _)⟩

theorem streamUploadCapped_run :
    streamUploadCapped answers sha256 maxBytes file .fresh =
      ((uploadStream answers (file.bounded maxBytes) .fresh).1,
        (uploadStream answers (file.bounded maxBytes) .fresh).2.map fun _ =>
          (sha256 (file.capped maxBytes).hashed, (file.capped maxBytes).total)) := by
  rw [streamUploadCapped, (file.capped_eq maxBytes).1]
  rcases ran : uploadStream answers (file.bounded maxBytes) .fresh with ⟨after, failure | value⟩
  · exact Attempt.bind_of_error ran
  · exact Attempt.bind_of_ok ran

theorem Settled.map {α β : Type} {result : Except Raised α} {f : α → β}
    (settled : Settled answers source (upload, result)) :
    Settled answers source (upload, result.map f) where
  inParts := settled.inParts
  completed := settled.completed
  returns := by
    intro uninterrupted completes
    obtain ⟨open_, value, returned⟩ := settled.returns uninterrupted completes
    have mapped : result = .ok value := returned
    exact ⟨open_, f value, by rw [mapped]; rfl⟩
  aborted := settled.aborted

theorem tooLarge_interrupts (longer : maxBytes < file.content.length) :
    interruption answers (file.bounded maxBytes) ≠ none := by
  rw [interruption, UploadReads.bounded, if_pos longer]
  cases List.findSome? _ _ <;> simp

theorem cappedSettled_iff (creates : answers.createFails = none) :
    CappedSettled answers maxBytes file
        (streamUploadCapped answers sha256 maxBytes file .fresh) ↔
      Aborts answers (file.bounded maxBytes) := by
  rw [streamUploadCapped_run]
  constructor
  · intro capped raised interrupted
    have aborted := (capped.settled.aborted (by rw [interrupted]; exact nofun)).2
    exact (uploadStream_of_raised creates interrupted).2.1.mp aborted
  · intro aborts
    have settled := (settled_iff creates).mpr aborts
    exact ⟨settled.map, fun longer => settled.aborted (tooLarge_interrupts longer)⟩

theorem uploadStream_returned (returned : (uploadStream answers source .fresh).2 = .ok ()) :
    answers.createFails = none ∧ interruption answers source = none := by
  have creates : answers.createFails = none := by
    cases fails : answers.createFails with
    | none => rfl
    | some failure =>
        obtain ⟨wrapped, wrapping⟩ := wrapFailure_run failure .fresh
        have stopped : (s3Request answers.createFails id >>=
            fun _ => transferParts answers source) .fresh = (.fresh, .error failure) := by
          rw [fails]
          rfl
        have whole : uploadStream answers source .fresh = (.fresh, .error wrapped) :=
          (Attempt.handle_of_error stopped).trans wrapping
        rw [whole] at returned
        cases returned
  refine ⟨creates, ?_⟩
  cases interrupted : interruption answers source with
  | none => rfl
  | some raised => exact absurd returned (uploadStream_of_raised creates interrupted).2.2

theorem streamUploadCapped_digested :
    Digested sha256 (streamUploadCapped answers sha256 maxBytes file .fresh) := by
  intro hash size returned
  rw [streamUploadCapped_run] at returned ⊢
  have returns : (uploadStream answers (file.bounded maxBytes) .fresh).2 = .ok () := by
    cases result : (uploadStream answers (file.bounded maxBytes) .fresh).2 with
    | ok value => rfl
    | error failure =>
        rw [result] at returned
        cases returned
  obtain ⟨creates, uninterrupted⟩ := uploadStream_returned returns
  rw [returns] at returned
  obtain ⟨rfl, rfl⟩ := Prod.mk.inj (Except.ok.inj returned)
  have ended : (file.bounded maxBytes).raises = none := (Option.or_eq_none_iff.mp uninterrupted).2
  obtain ⟨hashes, totals⟩ := (file.capped_eq maxBytes).2 ended
  have whole := (uploadStream_of_uninterrupted creates uninterrupted).1.whole
  simp only [whole, hashes, totals, and_self]

end Capped

/-- Streamed uploads with a multipart upload are settled, capped ones too, exactly
when each interruption is caught and the abort carried out; what a capped upload
returns is always the digest of the uploaded bytes. -/
theorem streamedUploads_settled_iff (answers : S3Answers) (sha256 : Bytes → Text)
    (source : ChunkSource) (maxBytes : Nat) (file : UploadReads) :
    ((answers.createFails = none →
        Settled answers source (uploadStream answers source .fresh)) ↔
      (answers.createFails = none → Aborts answers source)) ∧
    ((answers.createFails = none → CappedSettled answers maxBytes file
        (streamUploadCapped answers sha256 maxBytes file .fresh)) ↔
      (answers.createFails = none → Aborts answers (file.bounded maxBytes))) ∧
    Digested sha256 (streamUploadCapped answers sha256 maxBytes file .fresh) :=
  ⟨imp_congr_right fun creates => settled_iff creates,
    imp_congr_right fun creates => cappedSettled_iff creates, streamUploadCapped_digested⟩

/-- A store that answers every request. -/
def S3Answers.allSucceed : S3Answers :=
  ⟨none, fun _ => none, none, none, fun _ _ => []⟩

/-- A client that goes away before the first chunk leaves the multipart upload
open. -/
theorem cancelledSource_notAborted :
    ¬ Settled .allSucceed ⟨[], some .cancelled⟩
      (uploadStream .allSucceed ⟨[], some .cancelled⟩ .fresh) := by
  rw [settled_iff rfl]
  intro aborts
  exact (aborts .cancelled (by decide)).1 rfl

end OpenZync.Memory
