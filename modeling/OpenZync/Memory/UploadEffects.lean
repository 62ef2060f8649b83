import OpenZync.Memory.UploadCache

/-!
# The uploads of an ingest

What `upload_blobs` and `_process_blobs` leave in the object store, for a
return and for a failure.  An episode is stored when its files can be read, its
types are allowed and no step fails; it has begun when its first object is in
the store.
-/

namespace OpenZync.Memory

open OpenZync.Library

variable {services : BlobServices} {environment : Environment} {request : BlobRequest}
  {config : StorageConfig}

/-- The objects are in the store, put there by the attempt. -/
def UploadEffects.storeAll (objects : List S3Object) (effects : UploadEffects) : UploadEffects :=
  { effects with
    objects := objects.reverse ++ effects.objects
    uploaded := effects.uploaded ++ objects }

/-- The slots were handed to `upload_blobs`. -/
def UploadEffects.hand (episodes : List (Uuid × List Bytes)) (effects : UploadEffects) :
    UploadEffects :=
  { effects with handed := effects.handed ++ episodes }

theorem UploadEffects.storeAll_nil (effects : UploadEffects) : effects.storeAll [] = effects := by
  simp [UploadEffects.storeAll]

theorem UploadEffects.store_storeAll (effects : UploadEffects) (objects : List S3Object)
    (object : S3Object) :
    (effects.storeAll objects).store object = effects.storeAll (objects ++ [object]) := by
  simp [UploadEffects.storeAll, UploadEffects.store]

theorem UploadEffects.storeAll_storeAll (effects : UploadEffects)
    (first second : List S3Object) :
    (effects.storeAll first).storeAll second = effects.storeAll (first ++ second) := by
  simp [UploadEffects.storeAll]

theorem UploadEffects.hand_storeAll (effects : UploadEffects) (objects : List S3Object)
    (episodes : List (Uuid × List Bytes)) :
    (effects.storeAll objects).hand episodes = (effects.hand episodes).storeAll objects := rfl

theorem UploadEffects.hand_hand (effects : UploadEffects)
    (first second : List (Uuid × List Bytes)) :
    (effects.hand first).hand second = effects.hand (first ++ second) := by
  simp [UploadEffects.hand]

theorem UploadEffects.hand_nil (effects : UploadEffects) : effects.hand [] = effects := by
  simp [UploadEffects.hand]

/-- The object is in the store after the put, whether or not it fails. -/
def PutStores (outcome : Option (Interruption × Bool)) : Prop :=
  ∀ interruption, outcome ≠ some (interruption, false)

/-- One attachment is uploaded. -/
def Uploads (services : BlobServices) (environment : Environment) (index : Nat)
    (item : BlobMetadata × Nat) : Prop :=
  isAllowedUploadMime (blobMime services item.1) = true ∧
    environment.putObject index item.2 = none

/-- The first attachment reaches the store. -/
def FirstReaches (services : BlobServices) (environment : Environment) (index : Nat)
    (items : List (BlobMetadata × Nat)) : Prop :=
  ∃ item ∈ items.head?, isAllowedUploadMime (blobMime services item.1) = true ∧
    PutStores (environment.putObject index item.2)

/-- `upload_blobs` returns. -/
def UploadsAll (services : BlobServices) (environment : Environment) (index : Nat)
    (metadatas : List BlobMetadata) : Prop :=
  metadatas.length ≤ services.maxBlobsPerRequest ∧
    (∀ item ∈ metadatas.zipIdx, Uploads services environment index item) ∧
    environment.batchCreate index = none

/-- `upload_blobs` puts an object into the store. -/
def UploadsFirst (services : BlobServices) (environment : Environment) (index : Nat)
    (metadatas : List BlobMetadata) : Prop :=
  metadatas.length ≤ services.maxBlobsPerRequest ∧
    FirstReaches services environment index metadatas.zipIdx

/-- The files of an episode can be read. -/
def EpisodeReadable (environment : Environment) (request : BlobRequest) (config : StorageConfig)
    (metadatas : List BlobMetadata) : Prop :=
  ∀ metadata ∈ metadatas, Readable environment request config metadata.blobId

/-- The object under which an attachment is stored. -/
def blobObject (request : BlobRequest) (config : StorageConfig) (episodeId : Uuid)
    (metadata : BlobMetadata) : S3Object :=
  config.object (blobKey request episodeId metadata)

theorem Uploads.reaches {index : Nat} {item : BlobMetadata × Nat}
    (uploads : Uploads services environment index item) :
    isAllowedUploadMime (blobMime services item.1) = true ∧
      PutStores (environment.putObject index item.2) := by
  refine ⟨uploads.1, ?_⟩
  intro interruption failed
  rw [uploads.2] at failed
  cases failed

theorem BlobRequest.slotsOf_get {ids : List Nat} {blobId : Nat} (needed : blobId ∈ ids)
    (inside : blobId < request.uploadedBlobs.length) :
    (request.slotsOf ids)[blobId]? = some (request.content blobId) := by
  simp [BlobRequest.slotsOf, inside, needed]

section

variable {base : UploadEffects} {cache : UploadCache} {index : Nat} {episodeId : Uuid}
  {slots : List Bytes}

theorem upload_meets (outcome : Option (Interruption × Bool)) (key : Text)
    (objects : List S3Object) :
    Attempt.Meets
      (fun run => run.cache = cache ∧ run.effects = base.storeAll objects)
      (upload config outcome key)
      (fun _ run => outcome = none ∧ run.cache = cache ∧
        run.effects = base.storeAll (objects ++ [config.object key]))
      (fun _ run => outcome ≠ none ∧ run.cache = cache ∧
        (PutStores outcome ∧ run.effects = base.storeAll (objects ++ [config.object key]) ∨
          ¬ PutStores outcome ∧ run.effects = base.storeAll objects)) := by
  cases outcome with
  | none =>
      apply Attempt.meets_change
      rintro run ⟨sameCache, stored⟩
      refine ⟨rfl, sameCache, ?_⟩
      rw [← base.store_storeAll, ← stored]
      rfl
  | some failure =>
      obtain ⟨interruption, stored⟩ := failure
      rintro run ⟨sameCache, effects⟩
      refine ⟨by simp, sameCache, ?_⟩
      cases stored with
      | true =>
          refine .inl ⟨by simp [PutStores], ?_⟩
          rw [← base.store_storeAll, ← effects]
          rfl
      | false =>
          refine .inr ⟨fun stores => stores interruption rfl, ?_⟩
          exact effects

theorem uploadOne_meets {item : BlobMetadata × Nat} {records : List EpisodeBlob} {data : Bytes}
    (slot : slots[item.1.blobId]? = some data) (fits : data.length ≤ config.maxBlobBytes)
    (objects : List S3Object) :
    Attempt.Meets
      (fun run => run.cache = cache ∧ run.effects = base.storeAll objects)
      (uploadOne services environment request config index episodeId slots records item)
      (fun records' run => run.cache = cache ∧ Uploads services environment index item ∧
        run.effects = base.storeAll (objects ++ [blobObject request config episodeId item.1]) ∧
        records'.map EpisodeBlob.storageKey =
          records.map EpisodeBlob.storageKey ++ [blobKey request episodeId item.1])
      (fun _ run => run.cache = cache ∧ ¬ Uploads services environment index item ∧
        (FirstReaches services environment index [item] ∧
            run.effects =
              base.storeAll (objects ++ [blobObject request config episodeId item.1]) ∨
          ¬ FirstReaches services environment index [item] ∧
            run.effects = base.storeAll objects)) := by
  unfold uploadOne
  rw [slot]
  apply Attempt.meets_ite
  · intro refused
    apply Attempt.meets_fail
    rintro run ⟨sameCache, effects⟩
    refine ⟨sameCache, fun uploads => refused uploads.1, .inr ⟨?_, effects⟩⟩
    rintro ⟨first, isFirst, allowed, _⟩
    cases isFirst
    exact refused allowed
  · intro allowed
    rw [Classical.not_not] at allowed
    rw [if_neg (Nat.not_lt_of_le fits)]
    have put : Attempt.Meets
        (fun run => run.cache = cache ∧ run.effects = base.storeAll objects)
        (upload config (environment.putObject index item.2) (blobKey request episodeId item.1))
        (fun _ run => environment.putObject index item.2 = none ∧ run.cache = cache ∧
          run.effects =
            base.storeAll (objects ++ [blobObject request config episodeId item.1]))
        (fun _ run => run.cache = cache ∧ ¬ Uploads services environment index item ∧
          (FirstReaches services environment index [item] ∧
              run.effects =
                base.storeAll (objects ++ [blobObject request config episodeId item.1]) ∨
            ¬ FirstReaches services environment index [item] ∧
              run.effects = base.storeAll objects)) := by
      apply (upload_meets _ _ objects).weaken
      · intro _ start
        exact start
      · intro _ _ stored
        exact stored
      · rintro _ run ⟨failed, sameCache, outcome⟩
        refine ⟨sameCache, fun uploads => failed uploads.2, ?_⟩
        rcases outcome with ⟨stores, effects⟩ | ⟨lost, effects⟩
        · exact .inl ⟨⟨item, rfl, allowed, stores⟩, effects⟩
        · refine .inr ⟨?_, effects⟩
          rintro ⟨first, isFirst, _, stores⟩
          cases isFirst
          exact lost stores
    apply put.bind
    intro _
    apply Attempt.meets_pure
    rintro run ⟨uninterrupted, sameCache, effects⟩
    exact ⟨sameCache, ⟨allowed, uninterrupted⟩, effects, by simp⟩

/-- The objects of some attachments. -/
def blobObjects (request : BlobRequest) (config : StorageConfig) (episodeId : Uuid)
    (items : List (BlobMetadata × Nat)) : List S3Object :=
  items.map fun item => blobObject request config episodeId item.1

/-- Every attachment has its bytes in its slot. -/
def SlotsFit (config : StorageConfig) (slots : List Bytes)
    (items : List (BlobMetadata × Nat)) : Prop :=
  ∀ item ∈ items, ∃ data, slots[item.1.blobId]? = some data ∧ data.length ≤ config.maxBlobBytes

/-- The attachments `done` are uploaded, and nothing else has happened. -/
structure ItemsStored (services : BlobServices) (environment : Environment)
    (request : BlobRequest) (config : StorageConfig) (index : Nat) (episodeId : Uuid)
    (cache : UploadCache) (base : UploadEffects) (done : List (BlobMetadata × Nat))
    (records : List EpisodeBlob) (run : BlobRun) : Prop where
  sameCache : run.cache = cache
  uploads : ∀ item ∈ done, Uploads services environment index item
  effects : run.effects = base.storeAll (blobObjects request config episodeId done)
  keys : records.map EpisodeBlob.storageKey =
    done.map fun item => blobKey request episodeId item.1

/-- One of the attachments is not uploaded, and some before it, or itself, may be in
the store. -/
structure ItemsFailed (services : BlobServices) (environment : Environment)
    (request : BlobRequest) (config : StorageConfig) (index : Nat) (episodeId : Uuid)
    (cache : UploadCache) (base : UploadEffects) (items : List (BlobMetadata × Nat))
    (run : BlobRun) : Prop where
  sameCache : run.cache = cache
  fails : ∃ item ∈ items, ¬ Uploads services environment index item
  effects : ∃ done, done <+: items ∧
    run.effects = base.storeAll (blobObjects request config episodeId done) ∧
    (done = [] ↔ ¬ FirstReaches services environment index items)

theorem firstReaches_cons (item : BlobMetadata × Nat) (items : List (BlobMetadata × Nat)) :
    FirstReaches services environment index (item :: items) ↔
      FirstReaches services environment index [item] := Iff.rfl

/-- One round of the loop of `upload_blobs`. -/
theorem uploadItems_step {items done later : List (BlobMetadata × Nat)}
    {item : BlobMetadata × Nat} (fit : SlotsFit config slots items)
    (whole : items = done ++ item :: later) (records : List EpisodeBlob) :
    Attempt.Meets
      (ItemsStored services environment request config index episodeId cache base done records)
      (uploadOne services environment request config index episodeId slots records item)
      (ItemsStored services environment request config index episodeId cache base
        (done ++ [item]))
      (fun _ => ItemsFailed services environment request config index episodeId cache base
        items) := by
  have member : item ∈ items := by
    rw [whole]
    exact List.mem_append_right _ List.mem_cons_self
  obtain ⟨data, slot, fits⟩ := fit item member
  rintro run ⟨sameCache, uploads, effects, keys⟩
  have meets : Attempt.Meets
      (fun run => run.cache = cache ∧
        run.effects = base.storeAll (blobObjects request config episodeId done))
      (uploadOne services environment request config index episodeId slots records item) _ _ :=
    uploadOne_meets slot fits (blobObjects request config episodeId done)
  have one := meets run ⟨sameCache, effects⟩
  split at one
  · rename_i after records' ran
    obtain ⟨kept, uploaded, stored, appended⟩ := one
    refine ⟨kept, ?_, ?_, ?_⟩
    · intro other inDone
      rcases List.mem_append.mp inDone with old | new
      · exact uploads other old
      · rw [List.mem_singleton.mp new]
        exact uploaded
    · rw [stored, blobObjects, blobObjects, List.map_append, List.map_singleton]
    · rw [appended, keys, List.map_append, List.map_singleton]
  · rename_i after failure ran
    obtain ⟨kept, failed, outcome⟩ := one
    refine ⟨kept, ⟨item, member, failed⟩, ?_⟩
    cases done with
    | nil =>
        rw [whole, List.nil_append, firstReaches_cons]
        rcases outcome with ⟨reaches, stored⟩ | ⟨lost, stored⟩
        · refine ⟨[item], List.prefix_append _ _, stored, ?_⟩
          simp [reaches]
        · exact ⟨[], List.nil_prefix, stored, by simp [lost]⟩
    | cons first others =>
        have begun : FirstReaches services environment index items := by
          rw [whole]
          exact ⟨first, rfl, (uploads first List.mem_cons_self).reaches⟩
        rcases outcome with ⟨_, stored⟩ | ⟨_, stored⟩
        · refine ⟨first :: others ++ [item], ⟨later, by rw [whole]; simp⟩, ?_, by simp [begun]⟩
          rw [stored, blobObjects, blobObjects, List.map_append, List.map_singleton]
        · exact ⟨first :: others, ⟨item :: later, whole.symm⟩, stored, by simp [begun]⟩

/-- The loop of `upload_blobs` on slots that hold the files. -/
theorem uploadItems_meets {items : List (BlobMetadata × Nat)}
    (fit : SlotsFit config slots items) :
    Attempt.Meets
      (fun run => run.cache = cache ∧ run.effects = base)
      (Attempt.fold (uploadOne services environment request config index episodeId slots) []
        items)
      (ItemsStored services environment request config index episodeId cache base items)
      (fun _ => ItemsFailed services environment request config index episodeId cache base
        items) := by
  have loop := Attempt.Meets.fold
    (ItemsStored services environment request config index episodeId cache base)
    (fun _ => ItemsFailed services environment request config index episodeId cache base items)
    (fun _ _ _ whole records => uploadItems_step fit whole records) []
  apply loop.weaken
  · rintro run ⟨sameCache, effects⟩
    exact ⟨sameCache, by simp, by rw [effects, blobObjects]; exact base.storeAll_nil.symm, rfl⟩
  · intro _ _ stored
    exact stored
  · intro _ _ failed
    exact failed

/-- What `upload_blobs` leaves when it returns. -/
structure EpisodeUploaded (services : BlobServices) (environment : Environment)
    (request : BlobRequest) (config : StorageConfig) (index : Nat) (episodeId : Uuid)
    (cache : UploadCache) (base : UploadEffects) (metadatas : List BlobMetadata)
    (records : List EpisodeBlob) (run : BlobRun) : Prop where
  sameCache : run.cache = cache
  uploads : UploadsAll services environment index metadatas
  effects : run.effects =
    base.storeAll (metadatas.map (blobObject request config episodeId))
  keys : records.map EpisodeBlob.storageKey = metadatas.map (blobKey request episodeId)

/-- What `upload_blobs` leaves when it fails. -/
structure EpisodeFailed (services : BlobServices) (environment : Environment)
    (request : BlobRequest) (config : StorageConfig) (index : Nat) (episodeId : Uuid)
    (cache : UploadCache) (base : UploadEffects) (metadatas : List BlobMetadata)
    (run : BlobRun) : Prop where
  sameCache : run.cache = cache
  fails : ¬ UploadsAll services environment index metadatas
  effects : ∃ done, done <+: metadatas ∧
    run.effects = base.storeAll (done.map (blobObject request config episodeId)) ∧
    (done = [] ↔ ¬ UploadsFirst services environment index metadatas)

theorem map_blobObjects (metadatas : List BlobMetadata) (start : Nat) :
    blobObjects request config episodeId (metadatas.zipIdx start) =
      metadatas.map (blobObject request config episodeId) := by
  conv_rhs => rw [← List.zipIdx_map_fst start metadatas, List.map_map]
  rfl

theorem uploadsFirst_of_all {metadatas : List BlobMetadata} (nonempty : metadatas ≠ [])
    (all : UploadsAll services environment index metadatas) :
    UploadsFirst services environment index metadatas := by
  obtain ⟨few, uploads, _⟩ := all
  obtain ⟨first, rest, rfl⟩ := List.exists_cons_of_ne_nil nonempty
  exact ⟨few, (first, 0), rfl, (uploads (first, 0) List.mem_cons_self).reaches⟩

/-- The loop of `upload_blobs` over the attachments of an episode. -/
theorem uploadEach_meets {metadatas : List BlobMetadata}
    (fit : SlotsFit config slots metadatas.zipIdx)
    (few : metadatas.length ≤ services.maxBlobsPerRequest) :
    Attempt.Meets
      (fun run => run.cache = cache ∧ run.effects = base)
      (Attempt.fold (uploadOne services environment request config index episodeId slots) []
        metadatas.zipIdx)
      (ItemsStored services environment request config index episodeId cache base metadatas.zipIdx)
      (fun _ => EpisodeFailed services environment request config index episodeId cache base
        metadatas) := by
  apply (uploadItems_meets fit).weaken
  · intro _ start
    exact start
  · intro _ _ stored
    exact stored
  · rintro _ run ⟨sameCache, ⟨item, member, fails⟩, done, isPrefix, effects, begun⟩
    refine ⟨sameCache, fun all => fails (all.2.1 item member), done.map Prod.fst, ?_, ?_, ?_⟩
    · have firsts := isPrefix.map Prod.fst
      rw [List.zipIdx_map_fst] at firsts
      exact firsts
    · rw [effects, blobObjects, List.map_map]
      rfl
    · rw [List.map_eq_nil_iff, begun, UploadsFirst]
      simp [few]

/-- `upload_blobs` on slots that hold the files. -/
theorem uploadBlobs_meets {metadatas : List BlobMetadata} (nonempty : metadatas ≠ [])
    (fit : SlotsFit config slots metadatas.zipIdx) :
    Attempt.Meets
      (fun run => run.cache = cache ∧ run.effects = base)
      (uploadBlobs services environment request config index episodeId metadatas slots)
      (EpisodeUploaded services environment request config index episodeId cache
        (base.hand [(episodeId, slots)]) metadatas)
      (fun _ => EpisodeFailed services environment request config index episodeId cache
        (base.hand [(episodeId, slots)]) metadatas) := by
  apply Attempt.meets_change_bind fun run =>
    run.cache = cache ∧ run.effects = base.hand [(episodeId, slots)]
  · rintro run ⟨sameCache, rfl⟩
    exact ⟨sameCache, rfl⟩
  apply Attempt.meets_ite
  · intro tooMany
    apply Attempt.meets_fail
    rintro run ⟨sameCache, effects⟩
    refine ⟨sameCache, fun all => Nat.not_lt_of_le all.1 tooMany, [], List.nil_prefix, ?_, ?_⟩
    · rw [effects, List.map_nil, UploadEffects.storeAll_nil]
    · exact iff_of_true rfl fun first => Nat.not_lt_of_le first.1 tooMany
  · intro notMany
    have few := Nat.le_of_not_lt notMany
    apply (uploadEach_meets fit few).bind
    intro records
    apply Attempt.meets_ite
    · rintro rfl run ⟨_, _, _, keys⟩
      rw [List.map_nil, eq_comm, List.map_eq_nil_iff, List.zipIdx_eq_nil_iff] at keys
      exact absurd keys nonempty
    · intro _
      cases written : environment.batchCreate index with
      | none =>
          apply Attempt.meets_pure
          rintro run ⟨sameCache, uploads, effects, keys⟩
          refine ⟨sameCache, ⟨few, uploads, written⟩, ?_, ?_⟩
          · rw [effects, map_blobObjects]
          · rw [keys]
            conv_rhs => rw [← List.zipIdx_map_fst 0 metadatas, List.map_map]
            rfl
      | some interruption =>
          rintro run ⟨sameCache, uploads, effects, _⟩
          refine ⟨sameCache, fun all => ?_, metadatas, List.prefix_rfl, ?_, ?_⟩
          · rw [all.2.2] at written
            cases written
          · rw [effects, map_blobObjects]
          · obtain ⟨first, rest, rfl⟩ := List.exists_cons_of_ne_nil nonempty
            refine iff_of_false nonempty (not_not.mpr ⟨few, (first, 0), rfl, ?_⟩)
            exact (uploads (first, 0) List.mem_cons_self).reaches

end

/-- An episode with attachments. -/
abbrev BlobEpisode := Uuid × List BlobMetadata

/-- The slots that `upload_blobs` should get for an episode. -/
def BlobRequest.handFor (request : BlobRequest) (episode : BlobEpisode) : Uuid × List Bytes :=
  (episode.1, request.slotsOf (episode.2.map BlobMetadata.blobId))

/-- The objects of an episode. -/
def episodeObjects (request : BlobRequest) (config : StorageConfig) (episode : BlobEpisode) :
    List S3Object :=
  episode.2.map (blobObject request config episode.1)

/-- The whole round of an episode succeeds. -/
def EpisodeStored (services : BlobServices) (environment : Environment) (request : BlobRequest)
    (config : StorageConfig) (item : BlobEpisode × Nat) : Prop :=
  EpisodeReadable environment request config item.1.2 ∧
    UploadsAll services environment item.2 item.1.2

/-- The round of an episode puts an object into the store. -/
def EpisodeBegun (services : BlobServices) (environment : Environment) (request : BlobRequest)
    (config : StorageConfig) (item : BlobEpisode × Nat) : Prop :=
  EpisodeReadable environment request config item.1.2 ∧
    UploadsFirst services environment item.2 item.1.2

/-- The first episode puts an object into the store. -/
def FirstBegun (services : BlobServices) (environment : Environment) (request : BlobRequest)
    (config : StorageConfig) (items : List (BlobEpisode × Nat)) : Prop :=
  ∃ item ∈ items.head?, EpisodeBegun services environment request config item

/-- The episodes `done` are stored, and nothing else has happened. -/
structure EpisodesStored (services : BlobServices) (environment : Environment)
    (request : BlobRequest) (config : StorageConfig) (base : UploadEffects)
    (done : List (BlobEpisode × Nat)) (records : List EpisodeBlob) (run : BlobRun) : Prop where
  filling : Filling environment request config (request.epBlobMetas.drop done.length) []
    run.cache
  effects : run.effects =
    (base.hand (done.map fun item => request.handFor item.1)).storeAll
      (done.flatMap fun item => episodeObjects request config item.1)
  stored : ∀ item ∈ done, EpisodeStored services environment request config item
  keys : records.map EpisodeBlob.storageKey =
    done.flatMap fun item => item.1.2.map (blobKey request item.1.1)

/-- One of the episodes is not stored; some objects of the episodes may be in the
store. -/
structure EpisodesFailed (services : BlobServices) (environment : Environment)
    (request : BlobRequest) (config : StorageConfig) (base : UploadEffects)
    (items : List (BlobEpisode × Nat)) (run : BlobRun) : Prop where
  readOnce : run.cache.reads.Nodup
  fails : ∃ item ∈ items, ¬ EpisodeStored services environment request config item
  effects : ∃ handed objects, handed <+: items.map (fun item => request.handFor item.1) ∧
    objects <+: items.flatMap (fun item => episodeObjects request config item.1) ∧
    run.effects = (base.hand handed).storeAll objects ∧
    (objects = [] ↔ ¬ FirstBegun services environment request config items)

section

variable {base : UploadEffects} {items done later : List (BlobEpisode × Nat)}
  {item : BlobEpisode × Nat}

theorem slotsFit {metadatas : List BlobMetadata}
    (readable : EpisodeReadable environment request config metadatas) {ids : List Nat}
    (same : ∀ id, id ∈ ids ↔ id ∈ metadatas.map BlobMetadata.blobId) :
    SlotsFit config (request.slotsOf ids) metadatas.zipIdx := by
  intro item member
  have inside := List.fst_mem_of_mem_zipIdx member
  obtain ⟨bound, _, fits⟩ := readable item.1 inside
  refine ⟨request.content item.1.blobId, request.slotsOf_get ?_ bound, fits⟩
  rw [same]
  exact List.mem_map_of_mem inside

theorem episodesFailed_of {run : BlobRun} (whole : items = done ++ item :: later)
    (nonempty : ∀ item ∈ items, item.1.2 ≠ []) (readOnce : run.cache.reads.Nodup)
    (stored : ∀ item ∈ done, EpisodeStored services environment request config item)
    (fails : ¬ EpisodeStored services environment request config item)
    {handed : List (Uuid × List Bytes)} (hands : handed <+: [request.handFor item.1])
    {own : List BlobMetadata} (isPrefix : own <+: item.1.2)
    (begun : own = [] ↔ ¬ EpisodeBegun services environment request config item)
    (effects : run.effects =
      (base.hand ((done.map fun item => request.handFor item.1) ++ handed)).storeAll
        ((done.flatMap fun item => episodeObjects request config item.1) ++
          own.map (blobObject request config item.1.1))) :
    EpisodesFailed services environment request config base items run := by
  have member : item ∈ items := by
    rw [whole]
    exact List.mem_append_right _ List.mem_cons_self
  refine ⟨readOnce, ⟨item, member, fails⟩, _, _, ?_, ?_, effects, ?_⟩
  · rw [whole, List.map_append, List.map_cons]
    apply (List.prefix_append_right_inj _).mpr
    exact hands.trans (List.prefix_append [request.handFor item.1] _)
  · rw [whole, List.flatMap_append, List.flatMap_cons]
    apply (List.prefix_append_right_inj _).mpr
    exact (isPrefix.map _).trans (List.prefix_append _ _)
  · cases done with
    | nil =>
        rw [whole]
        simpa [FirstBegun] using begun
    | cons first others =>
        have firstMember : first ∈ items := by
          rw [whole]
          exact List.mem_cons_self
        have firstBegun : FirstBegun services environment request config items := by
          obtain ⟨readable, all⟩ := stored first List.mem_cons_self
          rw [whole]
          exact ⟨first, rfl, readable, uploadsFirst_of_all (nonempty first firstMember) all⟩
        have someObject : episodeObjects request config first.1 ≠ [] := by
          rw [episodeObjects, Ne, List.map_eq_nil_iff]
          exact nonempty first firstMember
        simp [firstBegun, someObject]

/-- The items that are left after some episodes. -/
theorem drop_epBlobMetas (whole : request.epBlobMetas.zipIdx = done ++ item :: later) :
    request.epBlobMetas.drop done.length = item.1 :: later.map Prod.fst ∧
      request.epBlobMetas.drop (done ++ [item]).length = later.map Prod.fst := by
  have episodes : request.epBlobMetas = done.map Prod.fst ++ item.1 :: later.map Prod.fst := by
    have firsts := congrArg (List.map Prod.fst) whole
    rw [List.zipIdx_map_fst, List.map_append, List.map_cons] at firsts
    exact firsts
  constructor
  · rw [episodes]
    simp
  · rw [episodes]
    simp [List.drop_append]

/-- What lies outside when some episodes are stored. -/
def effectsWith (request : BlobRequest) (config : StorageConfig) (base : UploadEffects)
    (done : List (BlobEpisode × Nat)) : UploadEffects :=
  (base.hand (done.map fun item => request.handFor item.1)).storeAll
    (done.flatMap fun item => episodeObjects request config item.1)

theorem effectsWith_hand (objects : List S3Object) :
    ((effectsWith request config base done).hand [request.handFor item.1]).storeAll objects =
      (base.hand ((done.map fun item => request.handFor item.1) ++
        [request.handFor item.1])).storeAll
          ((done.flatMap fun item => episodeObjects request config item.1) ++ objects) := by
  rw [effectsWith, UploadEffects.hand_storeAll, UploadEffects.hand_hand,
    UploadEffects.storeAll_storeAll]

section

variable (nonempty : ∀ item ∈ request.epBlobMetas.zipIdx, item.1.2 ≠ [])
  (whole : request.epBlobMetas.zipIdx = done ++ item :: later)
  (stored : ∀ item ∈ done, EpisodeStored services environment request config item)
include nonempty whole stored

theorem fillEpisode_meets :
    Attempt.Meets
      (fun run => run.effects = effectsWith request config base done ∧
        Filling environment request config (item.1 :: later.map Prod.fst) [] run.cache)
      (Attempt.fold (needSlot environment request config)
        (List.replicate request.uploadedBlobs.length []) (neededIds services item.1))
      (fun slots run => run.effects = effectsWith request config base done ∧
        Filling environment request config (item.1 :: later.map Prod.fst)
          (neededIds services item.1) run.cache ∧
        slots = request.slotsOf (neededIds services item.1))
      (fun _ => EpisodesFailed services environment request config base
        request.epBlobMetas.zipIdx) := by
  apply fillSlots_meets.weaken
  · intro _ start
    exact start
  · intro _ _ filled
    exact filled
  · rintro _ run ⟨kept, once, id, needed, unreadable⟩
    obtain ⟨metadata, inEpisode, rfl⟩ := List.mem_map.mp (mem_neededIds.mp needed)
    have notReadable : ¬ EpisodeReadable environment request config item.1.2 :=
      fun readable => unreadable (readable metadata inEpisode)
    apply episodesFailed_of whole nonempty once stored (fun all => notReadable all.1)
      List.nil_prefix List.nil_prefix (iff_of_true rfl fun begun => notReadable begun.1)
    rw [kept, effectsWith, List.append_nil, List.map_nil, List.append_nil]

theorem uploadEpisode_meets {cache : UploadCache} (readOnce : cache.reads.Nodup)
    (readable : EpisodeReadable environment request config item.1.2) :
    Attempt.Meets
      (fun run => run.cache = cache ∧ run.effects = effectsWith request config base done)
      (uploadBlobs services environment request config item.2 item.1.1 item.1.2
        (request.slotsOf (neededIds services item.1)))
      (EpisodeUploaded services environment request config item.2 item.1.1 cache
        ((effectsWith request config base done).hand [request.handFor item.1]) item.1.2)
      (fun _ => EpisodesFailed services environment request config base
        request.epBlobMetas.zipIdx) := by
  have member : item ∈ request.epBlobMetas.zipIdx := by
    rw [whole]
    exact List.mem_append_right _ List.mem_cons_self
  have sameIds (id : Nat) : id ∈ neededIds services item.1 ↔
      id ∈ item.1.2.map BlobMetadata.blobId := mem_neededIds
  have slotsFor : (item.1.1, request.slotsOf (neededIds services item.1)) =
      request.handFor item.1 := by
    rw [BlobRequest.handFor, request.slotsOf_congr sameIds]
  rw [← slotsFor]
  apply (uploadBlobs_meets (nonempty item member) (slotsFit readable sameIds)).weaken
  · intro _ start
    exact start
  · intro _ _ uploaded
    exact uploaded
  · rintro _ after ⟨sameCache, fails, own, isPrefix, stores, begun⟩
    apply episodesFailed_of whole nonempty (sameCache ▸ readOnce) stored
      (fun all => fails all.2) List.prefix_rfl isPrefix
    · rw [begun, EpisodeBegun]
      simp [readable]
    · rw [stores, slotsFor, effectsWith_hand]

end

theorem releaseEpisode_meets {records new : List EpisodeBlob} {effects : UploadEffects}
    (whole : request.epBlobMetas.zipIdx = done ++ item :: later)
    (stored : ∀ item ∈ done, EpisodeStored services environment request config item)
    (this : EpisodeStored services environment request config item)
    (stores : effects = ((effectsWith request config base done).hand
      [request.handFor item.1]).storeAll (episodeObjects request config item.1))
    (keys : records.map EpisodeBlob.storageKey =
      done.flatMap fun item => item.1.2.map (blobKey request item.1.1))
    (newKeys : new.map EpisodeBlob.storageKey = item.1.2.map (blobKey request item.1.1))
    {failed : IngestFailure → BlobRun → Prop} :
    Attempt.Meets
      (fun run => run.effects = effects ∧
        Releasing environment request config (later.map Prod.fst)
          (neededIds services item.1) [] run.cache)
      (Attempt.fold (releaseShared request) () (neededIds services item.1) >>= fun _ =>
        pure (records ++ new))
      (EpisodesStored services environment request config base (done ++ [item])) failed := by
  apply ((releaseAll_meets services).weaken (fun _ start => start)
    (fun _ _ released => released) fun _ _ failed => failed.elim).bind
  intro _
  apply Attempt.meets_pure
  rintro last ⟨kept, refilling⟩
  refine ⟨by rw [(drop_epBlobMetas whole).2]; exact refilling, ?_, ?_, ?_⟩
  · rw [kept, stores, effectsWith_hand]
    simp
  · intro other inDone
    rcases List.mem_append.mp inDone with old | isNew
    · exact stored other old
    · rw [List.mem_singleton.mp isNew]
      exact this
  · rw [List.map_append, keys, newKeys]
    simp

/-- One round of the loop over the episodes. -/
theorem processEpisode_step (nonempty : ∀ item ∈ request.epBlobMetas.zipIdx, item.1.2 ≠ [])
    (whole : request.epBlobMetas.zipIdx = done ++ item :: later) (records : List EpisodeBlob) :
    Attempt.Meets
      (EpisodesStored services environment request config base done records)
      (processEpisode services environment request config records item)
      (EpisodesStored services environment request config base (done ++ [item]))
      (fun _ => EpisodesFailed services environment request config base
        request.epBlobMetas.zipIdx) := by
  rintro start ⟨filling, effects, stored, keys⟩
  obtain ⟨here, _⟩ := drop_epBlobMetas whole
  rw [here] at filling
  have splits : request.epBlobMetas =
      request.epBlobMetas.take done.length ++ item.1 :: later.map Prod.fst := by
    rw [← here, List.take_append_drop]
  refine Attempt.Meets.bind (fillEpisode_meets nonempty whole stored) ?_ start ⟨effects, filling⟩
  rintro slots run ⟨kept, filled, rfl⟩
  have readable : EpisodeReadable environment request config item.1.2 := by
    intro metadata inEpisode
    exact filled.served metadata.blobId
      (mem_neededIds.mpr (List.mem_map_of_mem inEpisode))
  refine Attempt.Meets.bind
    (uploadEpisode_meets nonempty whole stored filled.nodup readable) ?_ run ⟨rfl, kept⟩
  rintro new after ⟨sameCache, all, stores, newKeys⟩
  apply releaseEpisode_meets whole stored ⟨readable, all⟩ stores keys newKeys after
  refine ⟨rfl, ?_⟩
  rw [sameCache]
  exact filled.releasing splits

end

end OpenZync.Memory
