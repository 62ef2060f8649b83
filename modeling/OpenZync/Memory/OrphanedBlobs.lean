import OpenZync.Memory.UploadEffects

/-!
# Uploads are read once

The loop of `_process_blobs` over its episodes.  However the messages share the
uploaded files, no stream is read a second time, and each episode is handed the
bytes of the files it refers to and empty slots for the others.  It gets through
all episodes exactly when every file can be read and every object and row be
stored.

`uploaded_keys` is set when `_process_blobs` has returned.  An attempt that fails
in the middle of it has objects in the store that its handler does not know
of; one that fails at its commit deletes what it has uploaded, if the rollback
and the second look at the storage configuration succeed.
-/

namespace OpenZync.Memory

open OpenZync.Library

variable {services : BlobServices} {environment : Environment} {request : BlobRequest}
  {config : StorageConfig}

theorem filling_start {cache : UploadCache} (streams : cache.streams = request.content)
    (unread : cache.reads = []) (uncached : cache.sharedBytes = fun _ => none)
    (counted : ∀ id, (usesIn request.epBlobMetas id : Int) ≤ cache.remaining id) :
    Filling environment request config request.epBlobMetas [] cache := by
  refine ⟨⟨?_, ?_, ?_, ?_⟩, ?_, ?_, ?_, counted⟩
  · rw [unread]
    exact List.nodup_nil
  · intro id _
    rw [streams]
  · intro id data cached
    rw [uncached] at cached
    cases cached
  · intro id member
    rw [unread] at member
    cases member
  · intro id member
    rw [unread] at member
    cases member
  · intro id member
    cases member
  · intro id member
    cases member

theorem epBlobMetas_nonempty (item : BlobEpisode × Nat)
    (member : item ∈ request.epBlobMetas.zipIdx) : item.1.2 ≠ [] := by
  have inside := List.fst_mem_of_mem_zipIdx member
  have passes := List.of_mem_filter inside
  simpa using passes

/-- `_process_blobs` stores every episode, or fails at one that is not stored. -/
theorem processBlobs_meets (resolved : environment.storageConfig = .ok config)
    (base : UploadEffects) :
    Attempt.Meets
      (fun run => run.cache = .start request ∧ run.effects = base)
      (processBlobs services environment request)
      (EpisodesStored services environment request config base request.epBlobMetas.zipIdx)
      (fun _ => EpisodesFailed services environment request config base
        request.epBlobMetas.zipIdx) := by
  apply Attempt.meets_ite
  · intro none
    apply Attempt.meets_pure
    rintro run ⟨sameCache, effects⟩
    have filling : Filling environment request config request.epBlobMetas [] run.cache := by
      rw [sameCache]
      apply filling_start
      · rfl
      · rfl
      · rfl
      · simp [none, usesIn, UploadCache.start]
    refine ⟨by rw [none] at filling ⊢; exact filling, ?_, ?_, ?_⟩
    · simp [none, effects, UploadEffects.hand_nil, UploadEffects.storeAll_nil]
    · simp [none]
    · simp [none]
  · intro _
    rw [resolved]
    apply Attempt.meets_change_bind
      (EpisodesStored services environment request config base [] [])
    · rintro run ⟨sameCache, effects⟩
      refine ⟨?_, ?_, by simp, rfl⟩
      · apply filling_start
        · change run.cache.streams = _
          rw [sameCache]
          rfl
        · change run.cache.reads = _
          rw [sameCache]
          rfl
        · rfl
        · intro id
          exact Int.le_refl _
      · change run.effects = _
        rw [effects]
        simp [UploadEffects.hand_nil, UploadEffects.storeAll_nil]
    · exact Attempt.Meets.fold
        (EpisodesStored services environment request config base)
        (fun _ => EpisodesFailed services environment request config base
          request.epBlobMetas.zipIdx)
        (fun _ _ _ whole records => processEpisode_step epBlobMetas_nonempty whole records) []

theorem map_zipIdx_handFor :
    (request.epBlobMetas.zipIdx.map fun item => request.handFor item.1) =
      request.epBlobMetas.map request.handFor := by
  conv_rhs => rw [← List.zipIdx_map_fst 0 request.epBlobMetas, List.map_map]
  rfl

/-- Every attachment is uploaded and every row written. -/
def EveryEpisodeStored (services : BlobServices) (environment : Environment)
    (request : BlobRequest) (config : StorageConfig) : Prop :=
  ∀ item ∈ request.epBlobMetas.zipIdx, EpisodeStored services environment request config item

/-- No message has an attachment, or the bucket is known, every attached file can
be read and is allowed, and every put and every row succeeds. -/
def AllAttachmentsStored (services : BlobServices) (environment : Environment)
    (request : BlobRequest) : Prop :=
  request.epBlobMetas = [] ∨ ∃ config, environment.storageConfig = .ok config ∧
    EveryEpisodeStored services environment request config

theorem allAttachmentsStored_iff (resolved : environment.storageConfig = .ok config) :
    AllAttachmentsStored services environment request ↔
      EveryEpisodeStored services environment request config := by
  constructor
  · rintro (none | ⟨other, same, all⟩)
    · intro item member
      rw [none] at member
      cases member
    · rw [resolved] at same
      cases same
      exact all
  · exact fun all => .inr ⟨config, resolved, all⟩

/-- What `_process_blobs` reads and hands to `upload_blobs`. -/
theorem processBlobs_hands (services : BlobServices) (environment : Environment) :
    Attempt.Meets
      (fun run => run.cache = .start request ∧ run.effects.handed = [])
      (processBlobs services environment request)
      (fun _ run => run.cache.reads.Nodup ∧
        run.effects.handed = request.epBlobMetas.map request.handFor ∧
        AllAttachmentsStored services environment request)
      (fun _ run => run.cache.reads.Nodup ∧
        run.effects.handed <+: request.epBlobMetas.map request.handFor ∧
        ¬ AllAttachmentsStored services environment request) := by
  rintro run ⟨sameCache, noneHanded⟩
  have unread : run.cache.reads.Nodup := by
    rw [sameCache]
    exact List.nodup_nil
  cases resolved : environment.storageConfig with
  | error interruption =>
      by_cases none : request.epBlobMetas = []
      · rw [processBlobs, if_pos none, none]
        exact ⟨unread, noneHanded, .inl none⟩
      · rw [processBlobs, if_neg none, resolved]
        refine ⟨unread, ?_, ?_⟩
        · rw [noneHanded]
          exact List.nil_prefix
        · rintro (nothing | ⟨config, found, _⟩)
          · exact none nothing
          · rw [resolved] at found
            cases found
  | ok config =>
      have meets : Attempt.Meets
          (fun start => start.cache = .start request ∧ start.effects = run.effects)
          (processBlobs services environment request)
          (fun _ run => run.cache.reads.Nodup ∧
            run.effects.handed = request.epBlobMetas.map request.handFor ∧
            AllAttachmentsStored services environment request)
          (fun _ run => run.cache.reads.Nodup ∧
            run.effects.handed <+: request.epBlobMetas.map request.handFor ∧
            ¬ AllAttachmentsStored services environment request) := by
        rw [allAttachmentsStored_iff resolved]
        apply (processBlobs_meets resolved run.effects).weaken
        · intro _ start
          exact start
        · rintro _ after ⟨filling, effects, stored, _⟩
          refine ⟨filling.nodup, ?_, stored⟩
          rw [effects, ← map_zipIdx_handFor]
          simp [UploadEffects.hand, UploadEffects.storeAll, noneHanded]
        · rintro _ after ⟨readOnce, ⟨item, member, fails⟩, handed, _, isPrefix, _, effects, _⟩
          refine ⟨readOnce, ?_, fun all => fails (all item member)⟩
          rw [effects, ← map_zipIdx_handFor]
          simpa [UploadEffects.hand, UploadEffects.storeAll, noneHanded] using isPrefix
      exact meets run ⟨sameCache, rfl⟩

/-- However the messages share the uploaded files, each stream is read at most once,
and every episode that is reached is handed exactly the bytes of the files that its
message refers to.  The step returns exactly when every attachment is stored, and
then it has reached every episode. -/
theorem uploads_readOnce (services : BlobServices) (environment : Environment)
    (request : BlobRequest) (objects : List S3Object) :
    let outcome := processBlobs services environment request (.start request objects)
    outcome.1.cache.reads.Nodup ∧
      outcome.1.effects.handed <+: request.epBlobMetas.map request.handFor ∧
      ((∃ records, outcome.2 = .ok records) ↔
        AllAttachmentsStored services environment request) ∧
      (AllAttachmentsStored services environment request →
        outcome.1.effects.handed = request.epBlobMetas.map request.handFor) := by
  have meets := processBlobs_hands services environment (.start request objects) ⟨rfl, rfl⟩
  intro outcome
  split at meets
  · rename_i after records ran
    have reached : outcome = (after, .ok records) := ran
    obtain ⟨readOnce, handed, all⟩ := meets
    rw [reached]
    exact ⟨readOnce, handed ▸ List.prefix_rfl, iff_of_true ⟨records, rfl⟩ all, fun _ => handed⟩
  · rename_i after failure ran
    have reached : outcome = (after, .error failure) := ran
    obtain ⟨readOnce, handed, fails⟩ := meets
    rw [reached]
    refine ⟨readOnce, handed, iff_of_false ?_ fails, fun all => absurd all fails⟩
    rintro ⟨records, returned⟩
    cases returned

/-- The libraries of a deployment that reads ASCII names. -/
def plainServices : BlobServices :=
  { casing := .ascii
    sha256 := fun _ => []
    maxBlobsPerRequest := 50
    setOrder := .dedup }

def sharedBucket : StorageConfig :=
  ⟨"http://minio:9000".toList, "openzync-blobs".toList, 50⟩

/-- A note that is sent as the file `blobId`. -/
def note (blobId : Nat) : BlobMetadata :=
  ⟨blobId, "text/plain".toList, "note.txt".toList⟩

/-- Two messages, each with a note of its own. -/
def twoNotes : BlobRequest :=
  { orgId := 1
    projectId := 2
    messages := [(3, [note 0]), (4, [note 1])]
    uploadedBlobs := [⟨some "note.txt".toList, [104]⟩, ⟨some "note.txt".toList, [105]⟩] }

/-- Every step succeeds. -/
def reliable : Environment :=
  { redact := none
    lockAndInsert := none
    storageConfig := .ok sharedBucket
    readFile := fun _ => none
    putObject := fun _ _ => none
    batchCreate := fun _ => none
    commit := none
    rollback := none
    storageConfigAgain := .ok sharedBucket
    releaseContentHash := none }

/-- The first file is sent with both messages and the second with the later one. -/
def sharedNote : BlobRequest :=
  { twoNotes with messages := [(3, [note 0]), (4, [note 0, note 1])] }

theorem note_allowed (blobId : Nat) :
    isAllowedUploadMime (blobMime plainServices (note blobId)) = true := by
  change isAllowedUploadMime (normalizeUploadMime Casing.ascii "text/plain".toList) = true
  decide +kernel

theorem twoNotes_content {blobId : Nat} (inside : blobId < 2) :
    (twoNotes.content blobId).length = 1 := by
  match blobId, inside with
  | 0, _ => rfl
  | 1, _ => rfl

theorem notes_readable (blobIds : List Nat) (inside : ∀ blobId ∈ blobIds, blobId < 2)
    (request : BlobRequest) (given : request.uploadedBlobs = twoNotes.uploadedBlobs)
    (environment : Environment) (read : ∀ blobId ∈ blobIds, environment.readFile blobId = none) :
    EpisodeReadable environment request sharedBucket (blobIds.map note) := by
  intro metadata member
  obtain ⟨blobId, inIds, rfl⟩ := List.mem_map.mp member
  have content : request.content blobId = twoNotes.content blobId := by
    rw [BlobRequest.content, given, BlobRequest.content]
  refine ⟨?_, read blobId inIds, ?_⟩
  · rw [given]
    exact inside blobId inIds
  · change (request.content blobId).length ≤ sharedBucket.maxBlobBytes
    rw [content, twoNotes_content (inside blobId inIds)]
    exact Nat.le_of_ble_eq_true rfl

theorem notes_upload (blobIds : List Nat) {index : Nat} {environment : Environment}
    (few : blobIds.length ≤ 50) (stores : ∀ item, environment.putObject index item = none)
    (written : environment.batchCreate index = none) :
    UploadsAll plainServices environment index (blobIds.map note) := by
  refine ⟨by rwa [List.length_map], ?_, written⟩
  intro item member
  obtain ⟨blobId, _, same⟩ := List.mem_map.mp (List.fst_mem_of_mem_zipIdx member)
  refine ⟨?_, stores item.2⟩
  rw [← same]
  exact note_allowed blobId

/-- The shared file reaches both episodes. -/
theorem uploads_readOnce_sharedNote :
    (processBlobs plainServices reliable sharedNote (.start sharedNote [])).1.effects.handed =
      [(3, [[104], []]), (4, [[104], [105]])] := by
  have stored : AllAttachmentsStored plainServices reliable sharedNote := by
    refine .inr ⟨sharedBucket, rfl, ?_⟩
    intro item member
    rcases List.mem_pair.mp member with rfl | rfl
    · exact ⟨notes_readable [0] (by decide) _ rfl _ fun _ _ => rfl,
        notes_upload [0] (by decide) (fun _ => rfl) rfl⟩
    · exact ⟨notes_readable [0, 1] (by decide) _ rfl _ fun _ _ => rfl,
        notes_upload [0, 1] (by decide) (fun _ => rfl) rfl⟩
  exact ((uploads_readOnce plainServices reliable sharedNote []).2.2.2 stored).trans rfl

variable {objects : List S3Object}

/-- An object under the key of an episode that is not one of the request's. -/
def OfAnotherAttempt (request : BlobRequest) (object : S3Object) : Prop :=
  ∃ orgId projectId episodeId index fileName,
    object.key = buildKey orgId projectId episodeId index fileName ∧ episodeId < 2 ^ 128 ∧
      ∀ message ∈ request.messages, message.1 ≠ episodeId

/-- When the attempt raises, what it has put into the store is gone again, and what
others have put there is not. -/
def LeavesNoBlob (services : BlobServices) (environment : Environment) (request : BlobRequest)
    (objects : List S3Object) : Prop :=
  let outcome := ingest services environment request (.start request objects)
  ∀ failure, outcome.2 = .error failure →
    (∀ object ∈ outcome.1.effects.uploaded, object ∉ outcome.1.effects.objects) ∧
    ∀ object ∈ objects, OfAnotherAttempt request object →
      object ∈ outcome.1.effects.objects

/-- The attempt gets to its first put, and the object reaches the store. -/
def FirstObjectStored (services : BlobServices) (environment : Environment)
    (request : BlobRequest) (config : StorageConfig) : Prop :=
  environment.redact = none ∧ environment.lockAndInsert = none ∧
    request.uploadedBlobs ≠ [] ∧ environment.storageConfig = .ok config ∧
    FirstBegun services environment request config request.epBlobMetas.zipIdx

/-- The handler gets to its deletes, in the bucket of the uploads. -/
def Compensates (environment : Environment) (config : StorageConfig) : Prop :=
  environment.rollback = none ∧ ∃ again, environment.storageConfigAgain = .ok again ∧
    again.endpointUrl = config.endpointUrl ∧ again.bucketName = config.bucketName

/-- `_compensate_blob_uploads` on the outside world. -/
def Environment.compensated (environment : Environment) (effects : UploadEffects) :
    UploadEffects :=
  match environment.rollback, environment.storageConfigAgain with
  | none, .ok config =>
      { effects with
        objects := effects.objects.filter fun object =>
          !(effects.uploadedKeys.map config.object).contains object }
  | _, _ => effects

/-- The handler always raises, and does nothing to the store but the deletes. -/
theorem handleFailure_run (failure : IngestFailure) (run : BlobRun) :
    ∃ raised, handleFailure environment failure run =
      ({ run with effects := environment.compensated run.effects }, .error raised) := by
  cases rolledBack : environment.rollback with
  | some interruption =>
      refine ⟨.interrupted interruption, ?_⟩
      simp [handleFailure, bind, awaited, Attempt.fail, rolledBack, Environment.compensated]
  | none =>
      obtain ⟨raised, cleaned⟩ : ∃ raised, compensateBlobUploads environment run =
          ({ run with effects := environment.compensated run.effects }, raised) := by
        by_cases unknown : run.effects.uploadedKeys = []
        · refine ⟨.ok (), ?_⟩
          have kept : environment.compensated run.effects = run.effects := by
            unfold Environment.compensated
            split
            · rw [unknown]
              simp only [List.map_nil, List.contains_nil, Bool.not_false, List.filter_true]
              rw [← unknown]
            · rfl
          simp [compensateBlobUploads, bind, Attempt.read, unknown, pure, kept]
        · cases again : environment.storageConfigAgain with
          | ok config =>
              refine ⟨.ok (), ?_⟩
              simp [compensateBlobUploads, bind, Attempt.read, unknown, again, Attempt.change,
                BlobRun.changeEffects, Environment.compensated, rolledBack]
          | error interruption =>
              have kept : environment.compensated run.effects = run.effects := by
                simp [Environment.compensated, rolledBack, again]
              cases interruption with
              | raised =>
                  refine ⟨.ok (), ?_⟩
                  simp [compensateBlobUploads, bind, Attempt.read, unknown, again, pure, kept]
              | cancelled =>
                  refine ⟨.error (.interrupted .cancelled), ?_⟩
                  simp [compensateBlobUploads, bind, Attempt.read, unknown, again, Attempt.fail,
                    kept]
      cases raised with
      | error raised =>
          refine ⟨raised, ?_⟩
          simp [handleFailure, bind, awaited, rolledBack, pure, cleaned]
      | ok value =>
          cases released : environment.releaseContentHash with
          | none =>
              refine ⟨failure, ?_⟩
              simp [handleFailure, bind, awaited, rolledBack, pure, cleaned, released,
                Attempt.fail]
          | some interruption =>
              refine ⟨.interrupted interruption, ?_⟩
              simp [handleFailure, bind, awaited, rolledBack, pure, cleaned, released,
                Attempt.fail]

/-- How the attempt fails before its commit: with nothing in the store, in the
middle of the uploads, or after all of them. -/
inductive BodyFailed (services : BlobServices) (environment : Environment)
    (request : BlobRequest) (objects : List S3Object) (effects : UploadEffects) : Prop where
  | before (nothing : effects.uploaded = []) (sameObjects : effects.objects = objects)
      (unknown : effects.uploadedKeys = [])
      (unstored : ∀ config, ¬ FirstObjectStored services environment request config)
  | midway (config : StorageConfig)
      (begun : FirstObjectStored services environment request config)
      (fails : ¬ EveryEpisodeStored services environment request config)
      (orphans : effects.uploaded ≠ [])
      (stored : effects.objects = effects.uploaded.reverse ++ objects)
      (unknown : effects.uploadedKeys = [])
  | after (config : StorageConfig)
      (begun : FirstObjectStored services environment request config)
      (all : EveryEpisodeStored services environment request config)
      (uncommitted : environment.commit ≠ none)
      (orphans : effects.uploaded ≠ [])
      (known : effects.uploaded = effects.uploadedKeys.map config.object)
      (own : ∀ key ∈ effects.uploadedKeys, ∃ message ∈ request.messages,
        ∃ metadata ∈ message.2, key = blobKey request message.1 metadata)
      (stored : effects.objects = effects.uploaded.reverse ++ objects)

/-- What a blob step that returns leaves to the commit. -/
inductive Uploaded (services : BlobServices) (environment : Environment)
    (request : BlobRequest) (objects : List S3Object) (effects : UploadEffects) : Prop where
  | none (nothing : effects.uploaded = []) (sameObjects : effects.objects = objects)
      (unknown : effects.uploadedKeys = [])
      (unstored : ∀ config, ¬ FirstObjectStored services environment request config)
  | all (config : StorageConfig)
      (begun : FirstObjectStored services environment request config)
      (all : EveryEpisodeStored services environment request config)
      (orphans : effects.uploaded ≠ [])
      (known : effects.uploaded = effects.uploadedKeys.map config.object)
      (own : ∀ key ∈ effects.uploadedKeys, ∃ message ∈ request.messages,
        ∃ metadata ∈ message.2, key = blobKey request message.1 metadata)
      (stored : effects.objects = effects.uploaded.reverse ++ objects)

theorem awaited_meets {before : BlobRun → Prop} (outcome : Option Interruption) :
    Attempt.Meets before (awaited outcome) (fun _ run => before run ∧ outcome = none)
      (fun _ run => before run ∧ outcome ≠ none) := by
  cases outcome with
  | none => exact Attempt.meets_pure () fun run start => ⟨start, rfl⟩
  | some interruption => exact Attempt.meets_fail _ fun run start => ⟨start, by simp⟩

theorem meets_awaited {before : BlobRun → Prop} {β : Type} {last : β → BlobRun → Prop}
    {failed : IngestFailure → BlobRun → Prop} {outcome : Option Interruption}
    {next : Unit → BlobStep β}
    (interrupted : outcome ≠ none → ∀ failure run, before run → failed failure run)
    (rest : outcome = none → Attempt.Meets before (next ()) last failed) :
    Attempt.Meets before (awaited outcome >>= next) last failed := by
  have step : Attempt.Meets before (awaited outcome)
      (fun _ run => before run ∧ outcome = none) failed := by
    apply (awaited_meets outcome).weaken
    · intro _ start
      exact start
    · intro _ _ done
      exact done
    · rintro failure run ⟨start, failing⟩
      exact interrupted failing failure run start
  apply step.bind
  rintro _ run ⟨start, done⟩
  exact rest done run start

theorem FirstObjectStored.config_eq {other : StorageConfig}
    (first : FirstObjectStored services environment request other)
    (resolved : environment.storageConfig = .ok config) : other = config := by
  have same := first.2.2.2.1.symm.trans resolved
  cases same
  rfl

theorem EpisodesFailed.body {run : BlobRun}
    (failed : EpisodesFailed services environment request config
      (BlobRun.start request objects).effects request.epBlobMetas.zipIdx run)
    (redacted : environment.redact = none) (inserted : environment.lockAndInsert = none)
    (given : request.uploadedBlobs ≠ []) (resolved : environment.storageConfig = .ok config) :
    BodyFailed services environment request objects run.effects := by
  obtain ⟨_, ⟨item, member, fails⟩, handed, new, _, _, effects, begun⟩ := failed
  by_cases nothing : new = []
  · rw [effects, nothing]
    refine .before rfl rfl rfl ?_
    intro other first
    obtain rfl := first.config_eq resolved
    exact begun.mp nothing first.2.2.2.2
  · have first : FirstBegun services environment request config request.epBlobMetas.zipIdx :=
      Classical.not_not.mp (begun.not.mp nothing)
    rw [effects]
    exact .midway config ⟨redacted, inserted, given, resolved, first⟩
      (fun all => fails (all item member)) nothing rfl rfl

theorem EpisodesStored.uploaded {run : BlobRun} {records : List EpisodeBlob}
    (stored : EpisodesStored services environment request config
      (BlobRun.start request objects).effects request.epBlobMetas.zipIdx records run)
    (redacted : environment.redact = none) (inserted : environment.lockAndInsert = none)
    (given : request.uploadedBlobs ≠ []) (resolved : environment.storageConfig = .ok config) :
    Uploaded services environment request objects
      (run.changeEffects (.recordKeys records)).effects := by
  obtain ⟨_, effects, all, keys⟩ := stored
  have named : (records.map EpisodeBlob.storageKey).filter (fun key => !key.isEmpty) =
      request.epBlobMetas.zipIdx.flatMap fun item =>
        item.1.2.map (blobKey request item.1.1) := by
    rw [keys, List.filter_eq_self]
    intro key member
    obtain ⟨item, _, inItem⟩ := List.mem_flatMap.mp member
    obtain ⟨metadata, _, rfl⟩ := List.mem_map.mp inItem
    have nonempty : blobKey request item.1.1 metadata ≠ [] := buildKey_ne_nil _ _ _ _ _
    simpa using nonempty
  change Uploaded services environment request objects (run.effects.recordKeys records)
  rw [UploadEffects.recordKeys, named, effects]
  by_cases none : request.epBlobMetas = []
  · rw [none]
    refine .none rfl rfl rfl ?_
    rintro other ⟨_, _, _, _, item, isFirst, _⟩
    rw [none] at isFirst
    cases isFirst
  · obtain ⟨episode, rest, episodes⟩ := List.exists_cons_of_ne_nil none
    have first : (episode, 0) ∈ request.epBlobMetas.zipIdx := by
      rw [episodes]
      exact List.mem_cons_self
    have attached := epBlobMetas_nonempty (episode, 0) first
    obtain ⟨readable, uploads⟩ := all (episode, 0) first
    have begun : FirstBegun services environment request config
        request.epBlobMetas.zipIdx := by
      refine ⟨(episode, 0), ?_, readable, uploadsFirst_of_all attached uploads⟩
      rw [episodes]
      rfl
    refine .all config ⟨redacted, inserted, given, resolved, begun⟩ all ?_ ?_ ?_ rfl
    · change [] ++ _ ≠ _
      rw [List.nil_append, episodes]
      simp [episodeObjects, attached]
    · change [] ++ _ = _
      rw [List.nil_append, List.map_flatMap]
      apply List.flatMap_congr
      intro item _
      simp [episodeObjects, blobObject]
    · intro key member
      obtain ⟨item, inItems, inItem⟩ := List.mem_flatMap.mp member
      obtain ⟨metadata, inMetadata, rfl⟩ := List.mem_map.mp inItem
      have inside := List.fst_mem_of_mem_zipIdx inItems
      exact ⟨item.1, List.mem_of_mem_filter inside, metadata, inMetadata, rfl⟩

theorem blobs_meets (redacted : environment.redact = none)
    (inserted : environment.lockAndInsert = none) :
    Attempt.Meets (fun run => run = .start request objects)
      (ingestBlobs services environment request)
      (fun _ run => Uploaded services environment request objects run.effects)
      (fun _ run => BodyFailed services environment request objects run.effects) := by
  apply Attempt.meets_ite
  · intro given
    cases resolved : environment.storageConfig with
    | error interruption =>
        have unstored (config : StorageConfig) :
            ¬ FirstObjectStored services environment request config := by
          rintro ⟨_, _, _, other, _⟩
          rw [resolved] at other
          cases other
        rintro run rfl
        by_cases none : request.epBlobMetas = []
        · rw [processBlobs, if_pos none]
          exact .none rfl rfl rfl unstored
        · rw [processBlobs, if_neg none, resolved]
          exact .before rfl rfl rfl unstored
    | ok config =>
        have process : Attempt.Meets (fun run => run = .start request objects)
            (processBlobs services environment request)
            (EpisodesStored services environment request config
              (BlobRun.start request objects).effects request.epBlobMetas.zipIdx)
            (fun _ run => BodyFailed services environment request objects run.effects) := by
          apply (processBlobs_meets resolved _).weaken
          · rintro run rfl
            exact ⟨rfl, rfl⟩
          · intro _ _ stored
            exact stored
          · intro _ run failed
            exact failed.body redacted inserted given resolved
        apply process.bind
        intro records
        apply Attempt.meets_change
        intro run stored
        exact stored.uploaded redacted inserted given resolved
  · intro noFiles
    rw [Classical.not_not] at noFiles
    have unstored (config : StorageConfig) :
        ¬ FirstObjectStored services environment request config :=
      fun first => first.2.2.1 noFiles
    apply Attempt.meets_ite
    · intro _
      apply Attempt.meets_fail
      rintro run rfl
      exact .before rfl rfl rfl unstored
    · intro _
      apply Attempt.meets_pure
      rintro run rfl
      exact .none rfl rfl rfl unstored

theorem ingestBody_meets (services : BlobServices) (environment : Environment)
    (request : BlobRequest) (objects : List S3Object) :
    Attempt.Meets (fun run => run = .start request objects)
      (ingestBody services environment request)
      (fun _ _ => ∀ config, FirstObjectStored services environment request config →
        EveryEpisodeStored services environment request config ∧ environment.commit = none)
      (fun _ run => BodyFailed services environment request objects run.effects) := by
  have unbegun (run : BlobRun) (start : run = .start request objects)
      (unstored : ∀ config, ¬ FirstObjectStored services environment request config) :
      BodyFailed services environment request objects run.effects := by
    rw [start]
    exact .before rfl rfl rfl unstored
  apply meets_awaited
  · intro interrupted _ run start
    exact unbegun run start fun config first => interrupted first.1
  intro redacted
  apply meets_awaited
  · intro interrupted _ run start
    exact unbegun run start fun config first => interrupted first.2.1
  intro inserted
  apply (blobs_meets redacted inserted).bind
  intro _
  apply (awaited_meets environment.commit).weaken (fun _ start => start)
  · rintro _ run ⟨uploads, committed⟩ config first
    cases uploads with
    | none _ _ _ unstored => exact absurd first (unstored config)
    | all other begun all _ _ _ _ =>
        have same : config = other := by
          have resolved := first.2.2.2.1.symm.trans begun.2.2.2.1
          cases resolved
          rfl
        exact ⟨same ▸ all, committed⟩
  · rintro _ run ⟨uploads, uncommitted⟩
    cases uploads with
    | none nothing sameObjects unknown unstored =>
        exact .before nothing sameObjects unknown unstored
    | all config begun all orphans known own stored =>
        exact .after config begun all uncommitted orphans known own stored

/-- The condition under which a failure leaves nothing behind. -/
def NothingOrphaned (services : BlobServices) (environment : Environment)
    (request : BlobRequest) : Prop :=
  ∀ config, FirstObjectStored services environment request config →
    EveryEpisodeStored services environment request config ∧
      (environment.commit = none ∨ Compensates environment config)

theorem compensated_uploaded (environment : Environment) (effects : UploadEffects) :
    (environment.compensated effects).uploaded = effects.uploaded := by
  unfold Environment.compensated
  split <;> rfl

/-- Without keys nothing is deleted. -/
theorem compensated_unknown {effects : UploadEffects} (unknown : effects.uploadedKeys = []) :
    (environment.compensated effects).objects = effects.objects := by
  unfold Environment.compensated
  split
  · simp [unknown]
  · rfl

/-- A handler that does not get to its deletes in the bucket leaves the objects
there. -/
theorem mem_compensated {effects : UploadEffects} (fails : ¬ Compensates environment config)
    {key : Text} (stored : config.object key ∈ effects.objects) :
    config.object key ∈ (environment.compensated effects).objects := by
  unfold Environment.compensated
  split
  · rename_i again rolledBack resolved
    rw [List.mem_filter]
    refine ⟨stored, ?_⟩
    have notDeleted : config.object key ∉ effects.uploadedKeys.map again.object := by
      intro deleted
      obtain ⟨other, _, same⟩ := List.mem_map.mp deleted
      rw [StorageConfig.object, StorageConfig.object, S3Object.mk.injEq] at same
      exact fails ⟨rolledBack, again, resolved, same.1, same.2.1⟩
    simpa using notDeleted
  · exact stored

/-- A handler that gets to its deletes removes the objects of its keys, and no
others. -/
theorem mem_compensated_iff {effects : UploadEffects}
    (compensates : Compensates environment config) (object : S3Object) :
    object ∈ (environment.compensated effects).objects ↔
      object ∈ effects.objects ∧ object ∉ effects.uploadedKeys.map config.object := by
  obtain ⟨rolledBack, again, resolved, sameEndpoint, sameBucket⟩ := compensates
  have sameObject : again.object = config.object := by
    funext key
    rw [StorageConfig.object, StorageConfig.object, sameEndpoint, sameBucket]
  simp [Environment.compensated, rolledBack, resolved, sameObject]

theorem OfAnotherAttempt.key_ne {object : S3Object} (other : OfAnotherAttempt request object)
    (uuids : ∀ message ∈ request.messages, message.1 < 2 ^ 128)
    {message : Uuid × List BlobMetadata} (member : message ∈ request.messages)
    (metadata : BlobMetadata) : object.key ≠ blobKey request message.1 metadata := by
  obtain ⟨orgId, projectId, episodeId, index, fileName, key, bound, distinct⟩ := other
  intro same
  exact distinct message member
    (buildKey_episode (uuids message member) bound (same.symm.trans key))

/-- What is left after the handler of each way to fail. -/
theorem BodyFailed.compensated_iff {effects : UploadEffects}
    (failed : BodyFailed services environment request objects effects)
    (uuids : ∀ message ∈ request.messages, message.1 < 2 ^ 128) :
    ((∀ object ∈ (environment.compensated effects).uploaded,
        object ∉ (environment.compensated effects).objects) ∧
      ∀ object ∈ objects, OfAnotherAttempt request object →
        object ∈ (environment.compensated effects).objects) ↔
      NothingOrphaned services environment request := by
  rw [compensated_uploaded]
  cases failed with
  | before nothing sameObjects unknown unstored =>
      rw [compensated_unknown unknown, nothing, sameObjects]
      refine iff_of_true ⟨by simp, fun _ stored _ => stored⟩ ?_
      intro config first
      exact absurd first (unstored config)
  | midway config begun fails orphans stored unknown =>
      rw [compensated_unknown unknown, stored]
      refine iff_of_false ?_ fun recovers => fails (recovers config begun).1
      rintro ⟨gone, _⟩
      obtain ⟨object, member⟩ := List.exists_mem_of_ne_nil _ orphans
      exact gone object member (List.mem_append_left _ (List.mem_reverse.mpr member))
  | after config begun all uncommitted orphans known own stored =>
      by_cases compensates : Compensates environment config
      · refine iff_of_true ⟨?_, ?_⟩ ?_
        · intro object member left
          rw [known] at member
          exact ((mem_compensated_iff compensates object).mp left).2 member
        · intro object member other
          rw [mem_compensated_iff compensates, stored]
          refine ⟨List.mem_append_right _ member, ?_⟩
          intro deleted
          obtain ⟨key, inKeys, rfl⟩ := List.mem_map.mp deleted
          obtain ⟨message, inMessages, metadata, _, same⟩ := own key inKeys
          exact other.key_ne uuids inMessages metadata same
        · intro other first
          obtain rfl := first.config_eq begun.2.2.2.1
          exact ⟨all, .inr compensates⟩
      · refine iff_of_false ?_ ?_
        · rintro ⟨gone, _⟩
          obtain ⟨object, member⟩ := List.exists_mem_of_ne_nil _ orphans
          apply gone object member
          have inStore : object ∈ effects.objects := by
            rw [stored]
            exact List.mem_append_left _ (List.mem_reverse.mpr member)
          rw [known] at member
          obtain ⟨key, _, rfl⟩ := List.mem_map.mp member
          exact mem_compensated compensates inStore
        · intro recovers
          rcases (recovers config begun).2 with committed | compensating
          · exact uncommitted committed
          · exact compensates compensating

/-- The handler runs where the attempt has failed, and only there. -/
theorem ingest_run (services : BlobServices) (environment : Environment) (request : BlobRequest)
    (objects : List S3Object) :
    let outcome := ingest services environment request (.start request objects)
    (∃ value, outcome.2 = .ok value ∧
      ∀ config, FirstObjectStored services environment request config →
        EveryEpisodeStored services environment request config ∧ environment.commit = none) ∨
    ∃ raised effects, outcome.2 = .error raised ∧
      outcome.1.effects = environment.compensated effects ∧
      BodyFailed services environment request objects effects := by
  have body := ingestBody_meets services environment request objects
    (.start request objects) rfl
  intro outcome
  split at body
  · rename_i after value ran
    have returned : outcome = (after, .ok value) := by
      change ingest services environment request (.start request objects) = _
      rw [ingest, Attempt.handle, ran]
    exact .inl ⟨value, by rw [returned], body⟩
  · rename_i after failure ran
    obtain ⟨raised, handled⟩ : ∃ raised, handleFailure environment failure after =
        ({ after with effects := environment.compensated after.effects }, .error raised) :=
      handleFailure_run failure after
    have failed : outcome =
        ({ after with effects := environment.compensated after.effects }, .error raised) := by
      change ingest services environment request (.start request objects) = _
      rw [ingest, Attempt.handle, ran]
      exact handled
    exact .inr ⟨raised, after.effects, by rw [failed], by rw [failed], body⟩

theorem LeavesNoBlob.nothingOrphaned
    (uuids : ∀ message ∈ request.messages, message.1 < 2 ^ 128)
    (leaves : LeavesNoBlob services environment request objects) :
    NothingOrphaned services environment request := by
  rcases ingest_run services environment request objects with
    ⟨_, _, stored⟩ | ⟨raised, effects, failed, left, body⟩
  · intro config first
    obtain ⟨all, committed⟩ := stored config first
    exact ⟨all, .inl committed⟩
  · have clean := leaves raised failed
    rw [left] at clean
    exact (body.compensated_iff uuids).mp clean

theorem NothingOrphaned.leavesNoBlob (objects : List S3Object)
    (uuids : ∀ message ∈ request.messages, message.1 < 2 ^ 128)
    (recovers : NothingOrphaned services environment request) :
    LeavesNoBlob services environment request objects := by
  intro failure raised
  rcases ingest_run services environment request objects with
    ⟨_, returned, _⟩ | ⟨_, effects, _, left, body⟩
  · rw [raised] at returned
    cases returned
  · rw [left]
    exact (body.compensated_iff uuids).mpr recovers

/-- A failed ingest leaves no blob exactly when it fails before its first object is
stored, or at the commit with a handler that gets to its deletes. -/
theorem leavesNoBlob_iff (services : BlobServices) (environment : Environment)
    (request : BlobRequest) (objects : List S3Object)
    (uuids : ∀ message ∈ request.messages, message.1 < 2 ^ 128) :
    LeavesNoBlob services environment request objects ↔
      NothingOrphaned services environment request :=
  ⟨LeavesNoBlob.nothingOrphaned uuids, NothingOrphaned.leavesNoBlob objects uuids⟩

/-- The store refuses the object of the second message. -/
def refusingSecond : Environment :=
  { reliable with
    putObject := fun index _ => if index = 1 then some (.raised, false) else none }

/-- The commit fails. -/
def refusingCommit : Environment :=
  { reliable with commit := some .raised }

theorem twoNotes_uuids : ∀ message ∈ twoNotes.messages, message.1 < 2 ^ 128 := by
  simp [twoNotes]

theorem twoNotes_episodes :
    twoNotes.epBlobMetas.zipIdx = [((3, [note 0]), 0), ((4, [note 1]), 1)] := rfl

/-- Both objects are deleted when the commit fails. -/
theorem twoNotes_compensated : LeavesNoBlob plainServices refusingCommit twoNotes [] := by
  apply (leavesNoBlob_iff plainServices refusingCommit twoNotes [] twoNotes_uuids).mpr
  rintro config ⟨_, _, _, resolved, _⟩
  cases resolved
  refine ⟨?_, .inr ⟨rfl, sharedBucket, rfl, rfl, rfl⟩⟩
  intro item member
  rw [twoNotes_episodes] at member
  rcases List.mem_pair.mp member with rfl | rfl
  · exact ⟨notes_readable [0] (by decide) _ rfl _ fun _ _ => rfl,
      notes_upload [0] (by decide) (fun _ => rfl) rfl⟩
  · exact ⟨notes_readable [1] (by decide) _ rfl _ fun _ _ => rfl,
      notes_upload [1] (by decide) (fun _ => rfl) rfl⟩

/-- The object of the first message stays when the second upload fails. -/
theorem twoNotes_orphaned : ¬ LeavesNoBlob plainServices refusingSecond twoNotes [] := by
  intro leaves
  have first : FirstObjectStored plainServices refusingSecond twoNotes sharedBucket := by
    refine ⟨rfl, rfl, List.cons_ne_nil _ _, rfl, ((3, [note 0]), 0), rfl, ?_, ?_⟩
    · exact notes_readable [0] (by decide) _ rfl _ fun _ _ => rfl
    · refine ⟨Nat.le_of_ble_eq_true rfl, (note 0, 0), rfl, note_allowed 0, ?_⟩
      intro interruption refused
      cases refused
  obtain ⟨all, _⟩ := leaves.nothingOrphaned twoNotes_uuids sharedBucket first
  have second := all ((4, [note 1]), 1) (by rw [twoNotes_episodes]; simp)
  obtain ⟨_, put⟩ := second.2.2.1 (note 1, 0) (List.mem_singleton.mpr rfl)
  cases put

end OpenZync.Memory
