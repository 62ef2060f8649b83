import Mathlib.Data.List.Sort
import OpenZync.Memory.BlobIngest

/-!
# The clean-up of orphaned blobs

`cleanup_orphan_blobs` for one organisation and for all of them.  The rows of a
pass are deleted after their objects, in the bucket that the configuration of the
organisation names, or in the default one where it cannot be read.
-/

namespace OpenZync.Workers.CleanupOrphanBlobs

open OpenZync.Library
open OpenZync.Memory (Interruption S3Object)

/-- The dictionary `storage_config`. -/
structure StorageSettings where
  backend : Text
  endpointUrl : Text
  region : Text
  accessKeyId : Text
  secretAccessKey : Text
  bucketName : Text
  maxBlobSizeMb : Nat
deriving DecidableEq

/-- What `storage_config` starts as. -/
def defaultStorage : StorageSettings where
  backend := "s3".toList
  endpointUrl := "http://minio:9000".toList
  region := "auto".toList
  accessKeyId := []
  secretAccessKey := []
  bucketName := "openzync-blobs".toList
  maxBlobSizeMb := 50

/-- The blob storage of an organisation as it is stored; `to_blob_storage_config`
has an entry for each field that is set. -/
structure OrgStorage where
  blobStorageBackend : Option Text
  s3EndpointUrl : Option Text
  s3Region : Option Text
  s3AccessKeyId : Option Text
  s3SecretAccessKey : Option Text
  s3BucketName : Option Text
  maxBlobSizeMb : Option Nat

def OrgStorage.unset : OrgStorage :=
  ⟨none, none, none, none, none, none, none⟩

/-- `storage_config.update(org_cfg.to_blob_storage_config())` -/
def StorageSettings.update (settings : StorageSettings) (org : OrgStorage) : StorageSettings where
  backend := org.blobStorageBackend.getD settings.backend
  endpointUrl := org.s3EndpointUrl.getD settings.endpointUrl
  region := org.s3Region.getD settings.region
  accessKeyId := org.s3AccessKeyId.getD settings.accessKeyId
  secretAccessKey := org.s3SecretAccessKey.getD settings.secretAccessKey
  bucketName := org.s3BucketName.getD settings.bucketName
  maxBlobSizeMb := org.maxBlobSizeMb.getD settings.maxBlobSizeMb

/-- Where a client with these settings looks for a key. -/
def StorageSettings.object (settings : StorageSettings) (key : Text) : S3Object :=
  ⟨settings.endpointUrl, settings.bucketName, key⟩

/-- The columns of `episode_blobs` that the clean-up reads. -/
structure BlobRow where
  id : Uuid
  organizationId : Uuid
  episodeId : Uuid
  storageKey : Text
  blobIndex : Nat
deriving DecidableEq

/-- The columns of `episodes` that the clean-up reads. -/
structure EpisodeRow where
  id : Uuid
  isDeleted : Bool
deriving DecidableEq

/-- The table `episode_blobs`, with its primary key, and the objects in the
buckets. -/
structure Store where
  rows : List BlobRow
  objects : List S3Object
  unique : (rows.map BlobRow.id).Nodup

/-- How the awaited steps of the pass for one organisation end: the statements,
the read of the configuration, each `delete_object` and what `gather` raises when
one is not answered, and the commit. -/
structure Outcomes where
  setContext : Option Interruption
  select : Option Interruption
  config : Option Interruption
  deleteObject : Uuid → Attempt.Fate
  gatherRaises : Interruption
  deleteRows : Option Interruption
  commit : Attempt.Fate
  rollback : Option Interruption

/-- Every step succeeds. -/
def Outcomes.allSucceed : Outcomes :=
  ⟨none, none, none, fun _ => .answered, .raised, none, .answered, none⟩

/-- The order in which a query without `ORDER BY` returns its rows. -/
structure RowOrder where
  arrange : List BlobRow → List BlobRow
  perm : ∀ rows, (arrange rows).Perm rows

/-- What a call of the task finds: its argument `episode_id`, the episodes and
organisations, the stored configurations and how the steps end. -/
structure World where
  episodeId : Option Uuid
  batchSize : Nat
  episodes : List EpisodeRow
  organizations : List Uuid
  stored : Uuid → OrgStorage
  order : RowOrder
  outcomes : Uuid → Outcomes
  discover : Option Interruption

variable (world : World)

/-- `Episode.is_deleted` of the row's episode. -/
def World.SoftDeleted (row : BlobRow) : Prop :=
  ∃ episode ∈ world.episodes, episode.id = row.episodeId ∧ episode.isDeleted = true

instance (row : BlobRow) : Decidable (world.SoftDeleted row) :=
  inferInstanceAs (Decidable (∃ episode ∈ world.episodes, _ ∧ _))

/-- `get_by_episode`, in the rows that the tenant may see. -/
def getByEpisode (org episodeId : Uuid) (rows : List BlobRow) : List BlobRow :=
  (rows.filter fun row => row.organizationId = org ∧ row.episodeId = episodeId).insertionSort
    fun first second => first.blobIndex ≤ second.blobIndex

/-- `get_orphaned_blobs` -/
def getOrphanedBlobs (org : Uuid) (rows : List BlobRow) : List BlobRow :=
  (world.order.arrange (rows.filter fun row =>
    row.organizationId = org ∧ world.SoftDeleted row)).take world.batchSize

/-- The blobs of a pass, in either mode. -/
def selectBlobs (org : Uuid) (rows : List BlobRow) : List BlobRow :=
  match world.episodeId with
  | some episodeId => getByEpisode org episodeId rows
  | none => getOrphanedBlobs world org rows

abbrev CleanupStep (α : Type) := Attempt Store Interruption α

/-- An awaited step without effects here. -/
def awaited (outcome : Option Interruption) : CleanupStep Unit :=
  match outcome with
  | none => pure ()
  | some interruption => Attempt.fail interruption

/-- The stored configuration over the defaults, and the defaults where reading it
raises; the failure is only logged. -/
def resolveStorage (org : Uuid) : CleanupStep StorageSettings :=
  match (world.outcomes org).config with
  | none => pure (defaultStorage.update (world.stored org))
  | some .raised => pure defaultStorage
  | some .cancelled => Attempt.fail .cancelled

/-- The objects whose deletes are carried out, answered or not. -/
def removedObjects (outcomes : Outcomes) (settings : StorageSettings) (blobs : List BlobRow) :
    List S3Object :=
  (blobs.filter fun blob => outcomes.deleteObject blob.id ≠ .refused).map fun blob =>
    settings.object blob.storageKey

def Store.removeObjects (removed : List S3Object) (store : Store) : Store :=
  { store with objects := store.objects.filter fun object => !removed.contains object }

/-- `delete_blobs`: all deletes are started, and a failing one is raised. -/
def deleteBlobs (outcomes : Outcomes) (settings : StorageSettings) (blobs : List BlobRow) :
    CleanupStep Unit := do
  Attempt.change (Store.removeObjects (removedObjects outcomes settings blobs))
  if blobs.all fun blob => outcomes.deleteObject blob.id = .answered then pure ()
  else Attempt.fail outcomes.gatherRaises

/-- `delete_by_ids`, in the rows that the tenant may see. -/
def Store.deleteByIds (org : Uuid) (ids : List Uuid) (store : Store) : Store where
  rows := store.rows.filter fun row => !(row.organizationId == org && ids.contains row.id)
  objects := store.objects
  unique := store.unique.sublist (List.filter_sublist.map _)

/-- `delete_by_ids` and the commit that makes it visible; the number of rows that
it returns. -/
def deleteRows (outcomes : Outcomes) (org : Uuid) (blobs : List BlobRow) : CleanupStep Nat := do
  let ids := blobs.map BlobRow.id
  awaited outcomes.deleteRows
  let deleted ← Attempt.read fun store =>
    store.rows.filter fun row => row.organizationId == org && ids.contains row.id
  Attempt.remote outcomes.commit .raised (Store.deleteByIds org ids)
  pure deleted.length

/-- What stands inside the `try` of `_cleanup_for_org`. -/
def cleanOrphans (org : Uuid) : CleanupStep Nat := do
  awaited (world.outcomes org).select
  let blobs ← Attempt.read fun store => selectBlobs world org store.rows
  if blobs = [] then pure 0
  else do
    let settings ← resolveStorage world org
    deleteBlobs (world.outcomes org) settings blobs
    deleteRows (world.outcomes org) org blobs

/-- `except Exception: await db.rollback(); raise` -/
def rollBack (outcomes : Outcomes) (interruption : Interruption) : CleanupStep Nat :=
  match interruption with
  | .cancelled => Attempt.fail .cancelled
  | .raised => do
      awaited outcomes.rollback
      Attempt.fail .raised

/-- `_cleanup_for_org` -/
def cleanupForOrg (org : Uuid) : CleanupStep Nat := do
  awaited (world.outcomes org).setContext
  (cleanOrphans world org).handle (rollBack (world.outcomes org))

inductive Status where
  | completed
  | partially
  | skipped
deriving DecidableEq

/-- The summary of the scheduled mode. -/
structure Summary where
  status : Status
  orgsProcessed : Nat
  orgsFailed : Nat
  blobsCleaned : Nat
deriving DecidableEq

/-- One turn of the loop over the organisations, with `total_cleaned` and
`org_errors`. -/
def cleanupNext (progress : Nat × List Uuid) (org : Uuid) : CleanupStep (Nat × List Uuid) :=
  Attempt.handle (do
    let cleaned ← cleanupForOrg world org
    pure (progress.1 + cleaned, progress.2)) fun interruption =>
      match interruption with
      | .raised => pure (progress.1, progress.2 ++ [org])
      | .cancelled => Attempt.fail .cancelled

/-- The scheduled mode. -/
def cleanupAll : CleanupStep Summary := do
  awaited world.discover
  if world.organizations = [] then pure ⟨.skipped, 0, 0, 0⟩
  else do
    let progress ← Attempt.fold (cleanupNext world) (0, []) world.organizations
    if progress.2 ≠ [] ∧ progress.2.length = world.organizations.length then
      Attempt.fail .raised
    else
      pure
        { status := if progress.2 = [] then .completed else .partially
          orgsProcessed := world.organizations.length
          orgsFailed := progress.2.length
          blobsCleaned := progress.1 }

/-- `cleanup_orphan_blobs`: the number of blobs for one organisation, and the
summary for all of them. -/
def cleanupOrphanBlobs (orgId : Option Uuid) : CleanupStep (Nat ⊕ Summary) :=
  match orgId with
  | some org => do
      let cleaned ← cleanupForOrg world org
      pure (.inl cleaned)
  | none => do
      let summary ← cleanupAll world
      pure (.inr summary)

end OpenZync.Workers.CleanupOrphanBlobs
