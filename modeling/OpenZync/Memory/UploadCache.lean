import OpenZync.Memory.BlobIngest

/-!
# The cache of shared uploads

A stream can be read once, so a file that several attachments refer to is kept
until its last episode.  The counts of the cache never fall below the uses that
are left, so a file that is still needed is still there, and no release meets
an empty slot.
-/

namespace OpenZync.Memory

open OpenZync.Library

variable {services : BlobServices} {environment : Environment} {request : BlobRequest}
  {config : StorageConfig}

theorem readChunks_data (maxBytes : Nat) (buffer stream : Bytes)
    (fits : buffer.length ≤ maxBytes) :
    (readChunks maxBytes buffer stream).2 =
      if (buffer ++ stream).length ≤ maxBytes then some (buffer ++ stream) else none := by
  fun_induction readChunks with
  | case1 buffer => simp [fits]
  | case2 buffer stream nonempty read exceeded =>
      have longer : maxBytes < (buffer ++ stream).length := by
        apply exceeded.trans_le
        simp only [read, List.length_append, List.length_take]
        omega
      rw [if_neg (Nat.not_le_of_gt longer)]
  | case3 buffer stream nonempty read within induction =>
      have whole : read ++ stream.drop uploadChunkBytes = buffer ++ stream := by
        simp only [read, List.append_assoc, List.take_append_drop]
      rw [induction (Nat.le_of_not_lt within), whole]

/-- The bytes of an uploaded file. -/
def BlobRequest.content (request : BlobRequest) (blobId : Nat) : Bytes :=
  (request.uploadedBlobs[blobId]?.map UploadFile.content).getD []

/-- The identifier refers to a file that can be read and fits under the cap. -/
def Readable (environment : Environment) (request : BlobRequest) (config : StorageConfig)
    (blobId : Nat) : Prop :=
  blobId < request.uploadedBlobs.length ∧ environment.readFile blobId = none ∧
    (request.content blobId).length ≤ config.maxBlobBytes

/-- The slots of an episode that refers to the given files. -/
def BlobRequest.slotsOf (request : BlobRequest) (ids : List Nat) : List Bytes :=
  (List.range request.uploadedBlobs.length).map fun id =>
    if id ∈ ids then request.content id else []

theorem BlobRequest.slotsOf_nil (request : BlobRequest) :
    request.slotsOf [] = List.replicate request.uploadedBlobs.length [] := by
  simp [BlobRequest.slotsOf]

/-- The slots depend on the set of the identifiers alone. -/
theorem BlobRequest.slotsOf_congr {ids ids' : List Nat} (same : ∀ id, id ∈ ids ↔ id ∈ ids') :
    request.slotsOf ids = request.slotsOf ids' := by
  simp only [BlobRequest.slotsOf, same]

theorem BlobRequest.slotsOf_set (ids : List Nat) (blobId : Nat) :
    (request.slotsOf ids).set blobId (request.content blobId) =
      request.slotsOf (ids ++ [blobId]) := by
  apply List.ext_getElem
  · simp [BlobRequest.slotsOf]
  · intro index _ inside
    rw [List.getElem_set]
    by_cases same : blobId = index
    · simp [BlobRequest.slotsOf, same]
    · simp [BlobRequest.slotsOf, same, Ne.symm same]

theorem usesIn_cons (episode : Uuid × List BlobMetadata)
    (rest : List (Uuid × List BlobMetadata)) (blobId : Nat) :
    usesIn (episode :: rest) blobId =
      (episode.2.map BlobMetadata.blobId).count blobId + usesIn rest blobId := by
  simp [usesIn, List.count_append]

theorem mem_neededIds {episode : Uuid × List BlobMetadata} {blobId : Nat} :
    blobId ∈ neededIds services episode ↔ blobId ∈ episode.2.map BlobMetadata.blobId :=
  services.setOrder.mem _ _

theorem usesIn_needed {episode : Uuid × List BlobMetadata}
    {rest : List (Uuid × List BlobMetadata)} {blobId : Nat}
    (needed : blobId ∈ neededIds services episode) :
    usesIn rest blobId + 1 ≤ usesIn (episode :: rest) blobId := by
  have counted := List.count_pos_iff.mpr (mem_neededIds.mp needed)
  rw [usesIn_cons]
  omega

theorem usesIn_le_useCounts {done left : List (Uuid × List BlobMetadata)}
    (whole : request.epBlobMetas = done ++ left) (blobId : Nat) :
    usesIn left blobId ≤ request.useCounts blobId := by
  rw [BlobRequest.useCounts, whole, usesIn, usesIn, List.flatMap_append, List.count_append]
  exact Nat.le_add_left _ _

/-- What every cache of a run meets: each stream was read at most once, unread
streams are whole, and what is cached is what was uploaded. -/
structure ReadOnce (environment : Environment) (request : BlobRequest) (config : StorageConfig)
    (cache : UploadCache) : Prop where
  nodup : cache.reads.Nodup
  whole : ∀ id, id ∉ cache.reads → cache.streams id = request.content id
  original : ∀ id, ∀ data ∈ cache.sharedBytes id, data = request.content id ∧ id ∈ cache.reads
  readable : ∀ id ∈ cache.reads, Readable environment request config id

/-- The cache while the slots of an episode are filled: `left` are this episode
and the ones after, `done` the identifiers whose slots are filled. -/
structure Filling (environment : Environment) (request : BlobRequest) (config : StorageConfig)
    (left : List (Uuid × List BlobMetadata)) (done : List Nat) (cache : UploadCache) : Prop
    extends ReadOnce environment request config cache where
  kept : ∀ id ∈ cache.reads, id ∉ done → 0 < usesIn left id → cache.sharedBytes id ≠ none
  filled : ∀ id ∈ done, request.Shared id → cache.sharedBytes id ≠ none
  served : ∀ id ∈ done, Readable environment request config id
  counted : ∀ id, (usesIn left id : Int) ≤ cache.remaining id

/-- The cache while the files of an episode are released; `rest` are the episodes
after it. -/
structure Releasing (environment : Environment) (request : BlobRequest) (config : StorageConfig)
    (rest : List (Uuid × List BlobMetadata)) (needed released : List Nat) (cache : UploadCache) :
    Prop extends ReadOnce environment request config cache where
  kept : ∀ id ∈ cache.reads, 0 < usesIn rest id → cache.sharedBytes id ≠ none
  filled : ∀ id ∈ needed, id ∉ released → request.Shared id → cache.sharedBytes id ≠ none
  counted : ∀ id, (usesIn rest id : Int) ≤ cache.remaining id
  due : ∀ id ∈ needed, id ∉ released → (usesIn rest id : Int) + 1 ≤ cache.remaining id

theorem readUpload_returned {run : BlobRun} {blobId : Nat}
    (whole : run.cache.streams blobId = request.content blobId)
    (readable : Readable environment request config blobId) :
    ∃ stream, readUpload environment request config blobId run =
      (run.changeCache fun cache =>
        { cache with
          reads := cache.reads ++ [blobId]
          streams := Function.update cache.streams blobId stream },
        .ok (request.content blobId)) := by
  obtain ⟨_, uninterrupted, fits⟩ := readable
  have data := readChunks_data config.maxBlobBytes [] (request.content blobId) (Nat.zero_le _)
  rw [List.nil_append, if_pos fits] at data
  refine ⟨(readChunks config.maxBlobBytes [] (request.content blobId)).1, ?_⟩
  simp only [readUpload, bind, Attempt.change, awaited, uninterrupted, pure, Attempt.read,
    BlobRun.changeCache, whole, data]

theorem readUpload_failed {run : BlobRun} {blobId : Nat}
    (whole : run.cache.streams blobId = request.content blobId)
    (refused : ¬ (environment.readFile blobId = none ∧
      (request.content blobId).length ≤ config.maxBlobBytes)) :
    ∃ cache failure, readUpload environment request config blobId run =
      ({ run with cache := cache }, .error failure) ∧
      cache.reads = run.cache.reads ++ [blobId] := by
  cases interrupted : environment.readFile blobId with
  | some interruption =>
      refine ⟨{ run.cache with reads := run.cache.reads ++ [blobId] },
        .interrupted interruption, ?_, rfl⟩
      simp only [readUpload, bind, Attempt.change, awaited, interrupted, Attempt.fail,
        BlobRun.changeCache]
  | none =>
      have tooLong : ¬ (request.content blobId).length ≤ config.maxBlobBytes :=
        fun fits => refused ⟨interrupted, fits⟩
      have data := readChunks_data config.maxBlobBytes [] (request.content blobId)
        (Nat.zero_le _)
      rw [List.nil_append, if_neg tooLong] at data
      let stream := (readChunks config.maxBlobBytes [] (request.content blobId)).1
      refine ⟨{ run.cache with
          reads := run.cache.reads ++ [blobId]
          streams := Function.update run.cache.streams blobId stream },
        .tooLarge (request.displayName blobId) config.maxBlobBytes, ?_, rfl⟩
      simp only [readUpload, bind, Attempt.change, awaited, interrupted, pure, Attempt.read,
        BlobRun.changeCache, whole, data, Attempt.fail, stream]

variable {effects : UploadEffects} {left : List (Uuid × List BlobMetadata)} {done : List Nat}

theorem Filling.hit {cache : UploadCache}
    (filling : Filling environment request config left done cache) {blobId : Nat} {data : Bytes}
    (cached : cache.sharedBytes blobId = some data) :
    Filling environment request config left (done ++ [blobId]) cache := by
  have wasRead := (filling.original blobId data cached).2
  refine ⟨filling.toReadOnce, ?_, ?_, ?_, filling.counted⟩
  · intro id member notDone
    rw [List.mem_append, not_or] at notDone
    exact filling.kept id member notDone.1
  · intro id member shared
    rcases List.mem_append.mp member with old | new
    · exact filling.filled id old shared
    · rw [List.mem_singleton.mp new, cached]
      exact Option.some_ne_none data
  · intro id member
    rcases List.mem_append.mp member with old | new
    · exact filling.served id old
    · rw [List.mem_singleton.mp new]
      exact filling.readable blobId wasRead

section

variable {cache : UploadCache} {blobId : Nat} {stream : Bytes} {shared : Nat → Option Bytes}
  (others : ∀ id, id ≠ blobId → shared id = cache.sharedBytes id)
  (kept : request.Shared blobId → shared blobId = some (request.content blobId))
include others kept

theorem ReadOnce.read (once : ReadOnce environment request config cache)
    (unread : blobId ∉ cache.reads) (readable : Readable environment request config blobId)
    (dropped : ¬ request.Shared blobId → shared blobId = none) :
    ReadOnce environment request config
      { cache with
        reads := cache.reads ++ [blobId]
        streams := Function.update cache.streams blobId stream
        sharedBytes := shared } := by
  constructor
  · rw [List.nodup_append]
    refine ⟨once.nodup, List.nodup_singleton _, ?_⟩
    intro id member other isNew same
    rw [same, List.mem_singleton.mp isNew] at member
    exact unread member
  · intro id notRead
    rw [List.mem_append, not_or] at notRead
    have different : id ≠ blobId := fun same => notRead.2 (List.mem_singleton.mpr same)
    change Function.update cache.streams blobId stream id = _
    rw [Function.update_of_ne different]
    exact once.whole id notRead.1
  · intro id data cached
    change shared id = some data at cached
    by_cases same : id = blobId
    · subst same
      by_cases isShared : request.Shared id
      · rw [kept isShared] at cached
        cases cached
        exact ⟨rfl, List.mem_append_right _ List.mem_cons_self⟩
      · rw [dropped isShared] at cached
        cases cached
    · rw [others id same] at cached
      obtain ⟨whole, member⟩ := once.original id data cached
      exact ⟨whole, List.mem_append_left _ member⟩
  · intro id member
    rcases List.mem_append.mp member with old | new
    · exact once.readable id old
    · rw [List.mem_singleton.mp new]
      exact readable

/-- A slot that is filled from the stream. -/
theorem Filling.miss (filling : Filling environment request config left done cache)
    (unread : blobId ∉ cache.reads) (readable : Readable environment request config blobId)
    (dropped : ¬ request.Shared blobId → shared blobId = none) :
    Filling environment request config left (done ++ [blobId])
      { cache with
        reads := cache.reads ++ [blobId]
        streams := Function.update cache.streams blobId stream
        sharedBytes := shared } := by
  refine ⟨filling.toReadOnce.read others kept unread readable dropped, ?_, ?_, ?_,
    filling.counted⟩
  · intro id member notDone
    rw [List.mem_append, not_or] at notDone
    have different : id ≠ blobId := fun same => notDone.2 (List.mem_singleton.mpr same)
    rcases List.mem_append.mp member with old | new
    · change _ → shared id ≠ none
      rw [others id different]
      exact filling.kept id old notDone.1
    · exact absurd (List.mem_singleton.mp new) different
  · intro id member isShared
    change shared id ≠ none
    by_cases same : id = blobId
    · subst same
      rw [kept isShared]
      exact Option.some_ne_none _
    · rw [others id same]
      rcases List.mem_append.mp member with old | new
      · exact filling.filled id old isShared
      · exact absurd (List.mem_singleton.mp new) same
  · intro id member
    rcases List.mem_append.mp member with old | new
    · exact filling.served id old
    · rw [List.mem_singleton.mp new]
      exact readable

end

theorem needSlot_meets {blobId : Nat} (new : blobId ∉ done) (needed : 0 < usesIn left blobId)
    (slots : List Bytes) :
    Attempt.Meets
      (fun run => run.effects = effects ∧
        Filling environment request config left done run.cache ∧
        slots = request.slotsOf done)
      (needSlot environment request config slots blobId)
      (fun slots run => run.effects = effects ∧
        Filling environment request config left (done ++ [blobId]) run.cache ∧
        slots = request.slotsOf (done ++ [blobId]))
      (fun _ run => run.effects = effects ∧ run.cache.reads.Nodup ∧
        ¬ Readable environment request config blobId) := by
  rintro run ⟨rfl, filling, rfl⟩
  unfold needSlot
  by_cases outside : request.uploadedBlobs.length ≤ blobId
  · rw [if_pos outside]
    exact ⟨rfl, filling.nodup, fun readable => absurd readable.1 (Nat.not_lt_of_le outside)⟩
  · rw [if_neg outside]
    cases cached : run.cache.sharedBytes blobId with
    | some data =>
        obtain ⟨rfl, _⟩ := filling.original blobId data cached
        simp only [bind, Attempt.read, cached, pure, true_and]
        exact ⟨filling.hit cached, request.slotsOf_set done blobId⟩
    | none =>
        have unread : blobId ∉ run.cache.reads :=
          fun member => filling.kept blobId member new needed cached
        have whole := filling.whole blobId unread
        by_cases readable : Readable environment request config blobId
        · obtain ⟨stream, returned⟩ := readUpload_returned whole readable
          simp only [bind, Attempt.read, cached, returned, Attempt.change, pure,
            BlobRun.changeCache, true_and]
          refine ⟨?_, request.slotsOf_set done blobId⟩
          unfold BlobRequest.keepShared
          split
          · rename_i shared
            refine Filling.miss ?_ ?_ filling unread readable ?_
            · intro id different
              exact Function.update_of_ne different _ _
            · intro _
              exact Function.update_self _ _ _
            · intro unshared
              exact absurd shared unshared
          · rename_i unshared
            refine Filling.miss ?_ ?_ filling unread readable ?_
            · intro id _
              rfl
            · intro shared
              exact absurd shared unshared
            · intro _
              exact cached
        · have refused : ¬ (environment.readFile blobId = none ∧
              (request.content blobId).length ≤ config.maxBlobBytes) :=
            fun fine => readable ⟨Nat.lt_of_not_le outside, fine⟩
          obtain ⟨cache, failure, failed, reads⟩ := readUpload_failed whole refused
          simp only [bind, Attempt.read, cached, failed, true_and]
          refine ⟨?_, readable⟩
          rw [reads, List.nodup_append]
          refine ⟨filling.nodup, List.nodup_singleton _, ?_⟩
          intro id member other isNew same
          rw [same, List.mem_singleton.mp isNew] at member
          exact unread member

section

variable {before rest : List (Uuid × List BlobMetadata)} {episode : Uuid × List BlobMetadata}

/-- One round of the loop over the files of an episode. -/
theorem needSlots_step (services : BlobServices) (done : List Nat) (id : Nat) (later : List Nat)
    (whole : neededIds services episode = done ++ id :: later) (slots : List Bytes) :
    Attempt.Meets
      (fun run => run.effects = effects ∧
        Filling environment request config (episode :: rest) done run.cache ∧
        slots = request.slotsOf done)
      (needSlot environment request config slots id)
      (fun slots run => run.effects = effects ∧
        Filling environment request config (episode :: rest) (done ++ [id]) run.cache ∧
        slots = request.slotsOf (done ++ [id]))
      (fun _ run => run.effects = effects ∧ run.cache.reads.Nodup ∧
        ∃ id ∈ neededIds services episode, ¬ Readable environment request config id) := by
  have member : id ∈ neededIds services episode := by
    rw [whole]
    exact List.mem_append_right _ List.mem_cons_self
  have distinct : (done ++ id :: later).Nodup := whole ▸ services.setOrder.nodup _
  have new : id ∉ done := fun inDone =>
    (List.nodup_append.mp distinct).2.2 id inDone id List.mem_cons_self rfl
  have needed : 0 < usesIn (episode :: rest) id :=
    Nat.lt_of_lt_of_le (Nat.succ_pos _) (usesIn_needed member)
  apply (needSlot_meets new needed slots).weaken
  · intro _ start
    exact start
  · intro _ _ filled
    exact filled
  · rintro _ _ ⟨kept, once, refused⟩
    exact ⟨kept, once, id, member, refused⟩

theorem fillSlots_meets :
    Attempt.Meets
      (fun run => run.effects = effects ∧
        Filling environment request config (episode :: rest) [] run.cache)
      (Attempt.fold (needSlot environment request config)
        (List.replicate request.uploadedBlobs.length []) (neededIds services episode))
      (fun slots run => run.effects = effects ∧
        Filling environment request config (episode :: rest) (neededIds services episode)
          run.cache ∧
        slots = request.slotsOf (neededIds services episode))
      (fun _ run => run.effects = effects ∧ run.cache.reads.Nodup ∧
        ∃ id ∈ neededIds services episode, ¬ Readable environment request config id) := by
  rw [← request.slotsOf_nil]
  have loop := Attempt.Meets.fold
    (fun done slots (run : BlobRun) => run.effects = effects ∧
      Filling environment request config (episode :: rest) done run.cache ∧
      slots = request.slotsOf done)
    (fun _ (run : BlobRun) => run.effects = effects ∧ run.cache.reads.Nodup ∧
      ∃ id ∈ neededIds services episode, ¬ Readable environment request config id)
    (needSlots_step services) (request.slotsOf [])
  exact loop.weaken (fun _ start => ⟨start.1, start.2, rfl⟩) (fun _ _ done => done)
    fun _ _ failure => failure

theorem Filling.releasing {cache : UploadCache}
    (whole : request.epBlobMetas = before ++ episode :: rest)
    (filling : Filling environment request config (episode :: rest)
      (neededIds services episode) cache) :
    Releasing environment request config rest (neededIds services episode) [] cache := by
  have fewer (id : Nat) : usesIn rest id ≤ usesIn (episode :: rest) id := by
    rw [usesIn_cons]
    exact Nat.le_add_left _ _
  refine ⟨filling.toReadOnce, ?_, ?_, ?_, ?_⟩
  · intro id member later
    by_cases needed : id ∈ neededIds services episode
    · have shared : request.Shared id :=
        calc 1 < usesIn rest id + 1 := Nat.succ_lt_succ later
          _ ≤ usesIn (episode :: rest) id := usesIn_needed needed
          _ ≤ request.useCounts id := usesIn_le_useCounts whole id
      exact filling.filled id needed shared
    · exact filling.kept id member needed (later.trans_le (fewer id))
  · intro id needed _ shared
    exact filling.filled id needed shared
  · intro id
    exact (Int.ofNat_le.mpr (fewer id)).trans (filling.counted id)
  · intro id needed _
    exact (Int.ofNat_le.mpr (usesIn_needed needed)).trans (filling.counted id)

theorem Releasing.filling {cache : UploadCache}
    (releasing : Releasing environment request config rest (neededIds services episode)
      (neededIds services episode) cache) :
    Filling environment request config rest [] cache := by
  refine ⟨releasing.toReadOnce, ?_, ?_, ?_, releasing.counted⟩
  · intro id member _ later
    exact releasing.kept id member later
  · intro id member
    cases member
  · intro id member
    cases member

variable {needed released : List Nat}

theorem Releasing.decrement {cache : UploadCache}
    (releasing : Releasing environment request config rest needed released cache) {blobId : Nat}
    (member : blobId ∈ needed) (new : blobId ∉ released) :
    Releasing environment request config rest needed (released ++ [blobId])
      (cache.lowerCount blobId) := by
  refine ⟨⟨releasing.nodup, releasing.whole, releasing.original, releasing.readable⟩,
    releasing.kept, ?_, ?_, ?_⟩
  · intro id inNeeded notReleased
    rw [List.mem_append, not_or] at notReleased
    exact releasing.filled id inNeeded notReleased.1
  · intro id
    change _ ≤ Function.update cache.remaining blobId (cache.remaining blobId - 1) id
    by_cases same : id = blobId
    · subst same
      rw [Function.update_self]
      exact Int.le_sub_one_of_lt (releasing.due id member new)
    · rw [Function.update_of_ne same]
      exact releasing.counted id
  · intro id inNeeded notReleased
    rw [List.mem_append, not_or] at notReleased
    have different : id ≠ blobId := fun same => notReleased.2 (List.mem_singleton.mpr same)
    change _ ≤ Function.update cache.remaining blobId (cache.remaining blobId - 1) id
    rw [Function.update_of_ne different]
    exact releasing.due id inNeeded notReleased.1

theorem Releasing.drop {cache : UploadCache} {blobId : Nat}
    (releasing : Releasing environment request config rest needed (released ++ [blobId]) cache)
    (unused : usesIn rest blobId = 0) :
    Releasing environment request config rest needed (released ++ [blobId])
      { cache with sharedBytes := Function.update cache.sharedBytes blobId none } := by
  refine ⟨⟨releasing.nodup, releasing.whole, ?_, releasing.readable⟩, ?_, ?_,
    releasing.counted, releasing.due⟩
  · intro id data cached
    change Function.update cache.sharedBytes blobId none id = some data at cached
    by_cases same : id = blobId
    · rw [same, Function.update_self] at cached
      cases cached
    · rw [Function.update_of_ne same] at cached
      exact releasing.original id data cached
  · intro id member later
    have different : id ≠ blobId := fun same => Nat.ne_of_gt later (same ▸ unused)
    change Function.update cache.sharedBytes blobId none id ≠ none
    rw [Function.update_of_ne different]
    exact releasing.kept id member later
  · intro id inNeeded notReleased shared
    have different : id ≠ blobId := fun same =>
      notReleased (List.mem_append_right _ (List.mem_singleton.mpr same))
    change Function.update cache.sharedBytes blobId none id ≠ none
    rw [Function.update_of_ne different]
    exact releasing.filled id inNeeded notReleased shared

theorem dropShared_meets {blobId : Nat} (unused : usesIn rest blobId = 0) :
    Attempt.Meets
      (fun run => run.effects = effects ∧
        Releasing environment request config rest needed (released ++ [blobId]) run.cache ∧
        run.cache.sharedBytes blobId ≠ none)
      (dropShared blobId)
      (fun _ run => run.effects = effects ∧
        Releasing environment request config rest needed (released ++ [blobId]) run.cache)
      (fun _ _ => False) := by
  apply Attempt.meets_read
  intro cached
  cases cached with
  | none =>
      apply Attempt.meets_fail
      rintro run ⟨⟨_, _, present⟩, absent⟩
      exact present absent
  | some data =>
      apply Attempt.meets_change
      rintro run ⟨⟨kept, releasing, _⟩, _⟩
      exact ⟨kept, releasing.drop unused⟩

/-- The release of one file never meets an empty slot. -/
theorem releaseShared_meets {blobId : Nat} (member : blobId ∈ needed)
    (new : blobId ∉ released) (value : Unit) :
    Attempt.Meets
      (fun run => run.effects = effects ∧
        Releasing environment request config rest needed released run.cache)
      (releaseShared request value blobId)
      (fun _ run => run.effects = effects ∧
        Releasing environment request config rest needed (released ++ [blobId]) run.cache)
      (fun _ _ => False) := by
  apply Attempt.meets_ite
  · intro shared
    have lowers : Attempt.Meets
        (fun (run : BlobRun) => run.effects = effects ∧
          Releasing environment request config rest needed released run.cache)
        (Attempt.change (.changeCache (.lowerCount blobId)))
        (fun _ (run : BlobRun) => run.effects = effects ∧
          Releasing environment request config rest needed (released ++ [blobId]) run.cache ∧
          run.cache.sharedBytes blobId ≠ none)
        (fun (_ : IngestFailure) _ => False) := by
      apply Attempt.meets_change
      rintro run ⟨kept, releasing⟩
      exact ⟨kept, releasing.decrement member new, releasing.filled blobId member new shared⟩
    apply lowers.bind
    intro _
    apply Attempt.meets_read
    intro left
    apply Attempt.meets_ite
    · intro exhausted
      rintro run ⟨holds, remains⟩
      have counted := holds.2.1.counted blobId
      have unused : usesIn rest blobId = 0 := by omega
      exact dropShared_meets unused run holds
    · intro _
      apply Attempt.meets_pure
      rintro run ⟨⟨kept, releasing, _⟩, _⟩
      exact ⟨kept, releasing⟩
  · intro unshared
    apply Attempt.meets_pure
    rintro run ⟨kept, releasing⟩
    refine ⟨kept, releasing.toReadOnce, releasing.kept, ?_, releasing.counted, ?_⟩
    · intro id inNeeded notReleased
      rw [List.mem_append, not_or] at notReleased
      exact releasing.filled id inNeeded notReleased.1
    · intro id inNeeded notReleased
      rw [List.mem_append, not_or] at notReleased
      exact releasing.due id inNeeded notReleased.1

theorem releaseAll_meets (services : BlobServices) :
    Attempt.Meets
      (fun run => run.effects = effects ∧
        Releasing environment request config rest (neededIds services episode) [] run.cache)
      (Attempt.fold (releaseShared request) () (neededIds services episode))
      (fun _ run => run.effects = effects ∧
        Filling environment request config rest [] run.cache)
      (fun _ _ => False) := by
  have loop := Attempt.Meets.fold
    (fun released _ (run : BlobRun) => run.effects = effects ∧
      Releasing environment request config rest (neededIds services episode) released run.cache)
    (fun _ _ => False)
    (by
      intro released id later (whole : neededIds services episode = _) value
      have member : id ∈ neededIds services episode := by
        rw [whole]
        exact List.mem_append_right _ List.mem_cons_self
      have distinct : (released ++ id :: later).Nodup := whole ▸ services.setOrder.nodup _
      have new : id ∉ released := fun inDone =>
        (List.nodup_append.mp distinct).2.2 id inDone id List.mem_cons_self rfl
      exact releaseShared_meets member new value)
    ()
  exact loop.weaken (fun _ start => start) (fun _ _ done => ⟨done.1, done.2.filling⟩)
    fun _ _ failure => failure

end

end OpenZync.Memory
