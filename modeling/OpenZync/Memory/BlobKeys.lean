import OpenZync.Text

/-!
# Attachments and their keys

The metadata of an attachment, the media types that uploads may have, and the
key under which the object store keeps the bytes.  The key names the episode,
and the keys of two episodes are different.
-/

namespace OpenZync.Memory

abbrev Bytes := List UInt8

/-- `BlobMetadata` of a request: the index of a file and what the client says about
it. -/
structure BlobMetadata where
  blobId : Nat
  mimeType : Text
  fileName : Text
deriving DecidableEq

/-- `_ALLOWED_UPLOAD_MIME_TYPES`. -/
def allowedUploadMimeTypes : List Text :=
  ["application/pdf".toList, "application/msword".toList,
    "application/vnd.openxmlformats-officedocument.wordprocessingml.document".toList,
    "application/octet-stream".toList]

/-- `mime_type.split(";")[0].strip().lower()` -/
def normalizeUploadMime (casing : Casing) (mimeType : Text) : Text :=
  casing.lower (Text.strip (mimeType.takeWhile (· ≠ ';')))

def isAllowedUploadMime (mimeType : Text) : Bool :=
  allowedUploadMimeTypes.contains mimeType || "text/".toList.isPrefixOf mimeType ||
    "image/".toList.isPrefixOf mimeType

/-- `str.replace(pattern, "")`; `skip` characters still belong to the last match. -/
def removeAll (pattern : Text) : Nat → Text → Text
  | _, [] => []
  | skip + 1, _ :: rest => removeAll pattern skip rest
  | 0, c :: rest =>
      if pattern.isPrefixOf (c :: rest) then removeAll pattern (pattern.length - 1) rest
      else c :: removeAll pattern 0 rest

/-- `_MAX_SAFE_FILE_NAME_CHARS`. -/
def maxSafeFileNameChars : Nat := 128

/-- A character of `[a-zA-Z0-9._-]`. -/
def isSafeChar (c : Char) : Bool :=
  c.isAlphanum || c == '.' || c == '_' || c == '-'

/-- `BlobStorage.sanitize_file_name`. -/
def sanitizeFileName (fileName : Text) : Text :=
  let cleaned := removeAll "%00".toList 0 (fileName.filter (· ≠ Char.ofNat 0))
  let base := Text.strip (cleaned.rtakeWhile fun c => c ≠ '/' ∧ c ≠ Char.ofNat 92)
  let safe := (base.map fun c => if isSafeChar c then c else '_').take maxSafeFileNameChars
  let stripped := (safe.dropWhile fun c => c == '.' || c == '_').rdropWhile fun c =>
    c == '.' || c == '_'
  if stripped = [] then "unnamed".toList else stripped

/-- `{org_id}/{project_id}/{episode_id}/{name}` -/
def blobPath (orgId projectId episodeId : Uuid) (name : Text) : Text :=
  Text.ofUuid orgId ++ '/' :: (Text.ofUuid projectId ++ '/' ::
    (Text.ofUuid episodeId ++ '/' :: name))

/-- `BlobStorage.build_key`:
`blobs/{org_id}/{project_id}/{episode_id}/{blob_index}_{sanitized_name}`. -/
def buildKey (orgId projectId episodeId : Uuid) (blobIndex : Nat) (fileName : Text) : Text :=
  "blobs/".toList ++ blobPath orgId projectId episodeId
    ((toString blobIndex).toList ++ '_' :: sanitizeFileName fileName)

theorem length_ofUuid (uuid : Uuid) : (Text.ofUuid uuid).length = 36 := by
  simp [Text.ofUuid]

theorem blobPath_episode {orgId projectId episodeId orgId' projectId' episodeId' : Uuid}
    {name name' : Text} (bound : episodeId < 2 ^ 128) (bound' : episodeId' < 2 ^ 128)
    (same : blobPath orgId projectId episodeId name =
      blobPath orgId' projectId' episodeId' name') : episodeId = episodeId' := by
  unfold blobPath at same
  obtain ⟨_, same⟩ := List.append_inj same (by rw [length_ofUuid, length_ofUuid])
  obtain ⟨_, same⟩ :=
    List.append_inj (List.cons.inj same).2 (by rw [length_ofUuid, length_ofUuid])
  obtain ⟨sameEpisode, _⟩ :=
    List.append_inj (List.cons.inj same).2 (by rw [length_ofUuid, length_ofUuid])
  exact Text.ofUuid_inj bound bound' sameEpisode

theorem buildKey_episode {orgId projectId episodeId orgId' projectId' episodeId' : Uuid}
    {index index' : Nat} {fileName fileName' : Text} (bound : episodeId < 2 ^ 128)
    (bound' : episodeId' < 2 ^ 128)
    (same : buildKey orgId projectId episodeId index fileName =
      buildKey orgId' projectId' episodeId' index' fileName') : episodeId = episodeId' :=
  blobPath_episode bound bound' (List.append_cancel_left same)

theorem buildKey_ne_nil (orgId projectId episodeId : Uuid) (index : Nat) (fileName : Text) :
    buildKey orgId projectId episodeId index fileName ≠ [] := by
  apply List.append_ne_nil_of_right_ne_nil
  simp [blobPath]

end OpenZync.Memory
