import OpenZync.Workers.CleanupOrphanBlobs

/-!
# Which rows the clean-up deletes

A pass deletes the rows that it has selected once all deletes of objects have
been answered and its commit is carried out.  The objects are gone from the
bucket where the deletes went, which is the organisation's own one if its
configuration could be read.
-/

namespace OpenZync.Workers.CleanupOrphanBlobs

open OpenZync.Library
open OpenZync.Memory (Interruption S3Object)

variable {world : World} {org : Uuid} {before after : Store}

/-- The object under the key of a row in the bucket of the stored configuration of
its organisation. -/
def World.storedObject (world : World) (row : BlobRow) : S3Object :=
  (defaultStorage.update (world.stored row.organizationId)).object row.storageKey

/-- A pass deletes a row only if its episode is soft-deleted and its object is
gone. -/
def Remembers (world : World) (org : Uuid) (before : Store) : Prop :=
  ∀ row ∈ before.rows, row ∉ (cleanupForOrg world org before).1.rows →
    world.SoftDeleted row ∧
      world.storedObject row ∉ (cleanupForOrg world org before).1.objects

/-- Every step of the pass is carried out. -/
structure Completes (world : World) (org : Uuid) (before : Store) : Prop where
  setContext : (world.outcomes org).setContext = none
  select : (world.outcomes org).select = none
  config : (world.outcomes org).config ≠ some .cancelled
  deletes : ∀ blob ∈ selectBlobs world org before.rows,
    (world.outcomes org).deleteObject blob.id = .answered
  deleteRows : (world.outcomes org).deleteRows = none
  commit : (world.outcomes org).commit ≠ .refused

/-- The settings of the pass. -/
def usedStorage (world : World) (org : Uuid) : StorageSettings :=
  match (world.outcomes org).config with
  | none => defaultStorage.update (world.stored org)
  | some _ => defaultStorage

/-- The deletes of the pass go to the place that the stored configuration names. -/
def InPlace (world : World) (org : Uuid) : Prop :=
  (world.outcomes org).config = none ∨
    (defaultStorage.endpointUrl, defaultStorage.bucketName) =
      ((defaultStorage.update (world.stored org)).endpointUrl,
        (defaultStorage.update (world.stored org)).bucketName)

/-- The pass does not get to its commit, or the episodes of its blobs are
soft-deleted and the deletes go to the right place or had nothing to delete
there. -/
def Careful (world : World) (org : Uuid) (before : Store) : Prop :=
  Completes world org before → ∀ blob ∈ selectBlobs world org before.rows,
    world.SoftDeleted blob ∧
      (InPlace world org ∨ world.storedObject blob ∉ before.objects)

/-- What a pass leaves that gets to its commit. -/
def cleaned (world : World) (org : Uuid) (before : Store) : Store :=
  (before.removeObjects (removedObjects (world.outcomes org) (usedStorage world org)
    (selectBlobs world org before.rows))).deleteByIds org
      ((selectBlobs world org before.rows).map BlobRow.id)

/-- What a pass leaves. -/
inductive PassLeaves (world : World) (org : Uuid) (before after : Store) : Prop where
  | incomplete (stops : ¬ Completes world org before) (rows : after.rows = before.rows)
      (objects : after.objects ⊆ before.objects)
  | complete (completes : Completes world org before) (same : after = cleaned world org before)

theorem meets_awaited {α : Type} {start : Store → Prop} {outcome : Option Interruption}
    {next : Unit → CleanupStep α} {last : α → Store → Prop}
    {failed : Interruption → Store → Prop}
    (passes : outcome = none → Attempt.Meets start (next ()) last failed)
    (stops : ∀ interruption, outcome = some interruption → ∀ store, start store →
      failed interruption store) :
    Attempt.Meets start (awaited outcome >>= next) last failed := by
  intro store begun
  cases known : outcome with
  | none => exact passes known store begun
  | some interruption => exact stops interruption known store begun

theorem mem_selectBlobs {row : BlobRow} {rows : List BlobRow}
    (selected : row ∈ selectBlobs world org rows) : row ∈ rows ∧ row.organizationId = org := by
  rw [selectBlobs] at selected
  split at selected
  · have stored := (List.perm_insertionSort _ _).mem_iff.mp selected
    obtain ⟨member, meets⟩ := List.mem_filter.mp stored
    exact ⟨member, (of_decide_eq_true meets).1⟩
  · have stored := (world.order.perm _).mem_iff.mp (List.mem_of_mem_take selected)
    obtain ⟨member, meets⟩ := List.mem_filter.mp stored
    exact ⟨member, (of_decide_eq_true meets).1⟩

theorem mem_cleaned_rows {row : BlobRow} (stored : row ∈ before.rows) :
    row ∈ (cleaned world org before).rows ↔ row ∉ selectBlobs world org before.rows := by
  have shape : row ∈ (cleaned world org before).rows ↔ row ∈ before.rows ∧
      ¬ (row.organizationId = org ∧
        row.id ∈ (selectBlobs world org before.rows).map BlobRow.id) := by
    simp [cleaned, Store.deleteByIds, Store.removeObjects, imp_iff_not_or]
  rw [shape]
  constructor
  · rintro ⟨_, kept⟩ selected
    exact kept ⟨(mem_selectBlobs selected).2, List.mem_map_of_mem selected⟩
  · intro unselected
    refine ⟨stored, ?_⟩
    rintro ⟨_, member⟩
    obtain ⟨other, selected, same⟩ := List.mem_map.mp member
    have equal := List.inj_on_of_nodup_map before.unique (mem_selectBlobs selected).1 stored same
    exact unselected (equal ▸ selected)

theorem cleaned_of_empty (empty : selectBlobs world org before.rows = []) :
    cleaned world org before = before := by
  simp [cleaned, empty, removedObjects, Store.removeObjects, Store.deleteByIds]

theorem resolveStorage_eq (read : (world.outcomes org).config ≠ some .cancelled) :
    resolveStorage world org = pure (usedStorage world org) := by
  rw [resolveStorage, usedStorage]
  cases outcome : (world.outcomes org).config with
  | none => rfl
  | some interruption =>
      cases interruption with
      | raised => rfl
      | cancelled => exact absurd outcome read

section Pass

variable {outcomes : Outcomes} {settings : StorageSettings} {blobs : List BlobRow}

theorem deleteBlobs_meets :
    Attempt.Meets (· = before) (deleteBlobs outcomes settings blobs)
      (fun _ store => (∀ blob ∈ blobs, outcomes.deleteObject blob.id = .answered) ∧
        store = before.removeObjects (removedObjects outcomes settings blobs))
      (fun _ store => (¬ ∀ blob ∈ blobs, outcomes.deleteObject blob.id = .answered) ∧
        store = before.removeObjects (removedObjects outcomes settings blobs)) := by
  refine Attempt.meets_change_bind
    (fun store => store = before.removeObjects (removedObjects outcomes settings blobs)) ?_ ?_
  · rintro store rfl
    rfl
  · refine Attempt.meets_ite ?_ ?_
    · intro answered
      refine Attempt.meets_pure () fun store same => ⟨?_, same⟩
      simpa using answered
    · intro unanswered
      refine Attempt.meets_fail _ fun store same => ⟨?_, same⟩
      simpa using unanswered

theorem deleteRows_meets :
    Attempt.Meets (· = before) (deleteRows outcomes org blobs)
      (fun _ store => (outcomes.deleteRows = none ∧ outcomes.commit ≠ .refused) ∧
        store = before.deleteByIds org (blobs.map BlobRow.id))
      (fun _ store =>
        (outcomes.deleteRows = none ∧ outcomes.commit ≠ .refused) ∧
          store = before.deleteByIds org (blobs.map BlobRow.id) ∨
        ¬ (outcomes.deleteRows = none ∧ outcomes.commit ≠ .refused) ∧ store = before) := by
  refine meets_awaited ?_ ?_
  · intro executed
    refine Attempt.meets_read fun deleted => ?_
    refine Attempt.meets_remote_bind (fun store =>
      (outcomes.deleteRows = none ∧ outcomes.commit ≠ .refused) ∧
        store = before.deleteByIds org (blobs.map BlobRow.id)) ?_ ?_ ?_ ?_
    · rintro answered store ⟨rfl, _⟩
      exact ⟨⟨executed, by rw [answered]; nofun⟩, rfl⟩
    · rintro refused store ⟨rfl, _⟩
      exact .inr ⟨fun committed => committed.2 refused, rfl⟩
    · rintro lost store ⟨rfl, _⟩
      exact .inl ⟨⟨executed, by rw [lost]; nofun⟩, rfl⟩
    · exact Attempt.meets_pure _ fun store deleted => deleted
  · rintro interruption raised store rfl
    refine .inr ⟨fun committed => ?_, rfl⟩
    rw [raised] at committed
    cases committed.1

theorem removeObjects_subset (removed : List S3Object) :
    (before.removeObjects removed).objects ⊆ before.objects :=
  fun _ member => (List.mem_filter.mp member).1

theorem cleanSelected_meets (context : (world.outcomes org).setContext = none)
    (selects : (world.outcomes org).select = none)
    (read : (world.outcomes org).config ≠ some .cancelled) :
    Attempt.Meets (· = before)
      (do
        deleteBlobs (world.outcomes org) (usedStorage world org)
          (selectBlobs world org before.rows)
        deleteRows (world.outcomes org) org (selectBlobs world org before.rows))
      (fun _ => PassLeaves world org before) (fun _ => PassLeaves world org before) := by
  refine Attempt.Meets.bind (deleteBlobs_meets.weaken (fun _ start => start)
    (fun _ _ removed => removed) ?_) ?_
  · rintro interruption store ⟨unanswered, rfl⟩
    exact .incomplete (fun completes => unanswered completes.deletes) rfl
      (removeObjects_subset _)
  · rintro value store ⟨answered, rfl⟩
    have complete : ∀ committed : (world.outcomes org).deleteRows = none ∧
        (world.outcomes org).commit ≠ .refused, Completes world org before :=
      fun committed => ⟨context, selects, read, answered, committed.1, committed.2⟩
    refine (deleteRows_meets.weaken (fun _ start => start) ?_ ?_) _ rfl
    · rintro _ store ⟨committed, rfl⟩
      exact .complete (complete committed) rfl
    · rintro interruption store (⟨committed, rfl⟩ | ⟨uncommitted, rfl⟩)
      · exact .complete (complete committed) rfl
      · exact .incomplete (fun completes => uncommitted ⟨completes.deleteRows, completes.commit⟩)
          rfl (removeObjects_subset _)

/-- The objects are removed before the rows. -/
theorem cleanOrphans_meets (context : (world.outcomes org).setContext = none) :
    Attempt.Meets (· = before) (cleanOrphans world org)
      (fun _ => PassLeaves world org before) (fun _ => PassLeaves world org before) := by
  refine meets_awaited ?_ ?_
  · intro selects
    refine Attempt.meets_read fun blobs => ?_
    refine Attempt.meets_ite ?_ ?_
    · intro empty
      refine Attempt.meets_pure 0 ?_
      rintro store ⟨rfl, rfl⟩
      by_cases completes : Completes world org store
      · exact .complete completes (cleaned_of_empty empty).symm
      · exact .incomplete completes rfl (List.Subset.refl _)
    · intro _
      by_cases read : (world.outcomes org).config = some .cancelled
      · have stops : ¬ Completes world org before := fun completes => completes.config read
        rw [resolveStorage, read]
        have cancels : Attempt.Meets (fun store => store = before ∧
            selectBlobs world org store.rows = blobs)
            (Attempt.fail .cancelled : CleanupStep StorageSettings) (fun _ _ => False)
            (fun _ => PassLeaves world org before) := by
          refine Attempt.meets_fail _ ?_
          rintro store ⟨rfl, _⟩
          exact .incomplete stops rfl (List.Subset.refl _)
        exact cancels.bind fun _ _ impossible => impossible.elim
      · rw [resolveStorage_eq read]
        rintro store ⟨rfl, rfl⟩
        exact cleanSelected_meets context selects read store rfl
  · rintro interruption raised store rfl
    refine .incomplete (fun completes => ?_) rfl (List.Subset.refl _)
    rw [completes.select] at raised
    cases raised

theorem rollBack_meets (interruption : Interruption) :
    Attempt.Meets (PassLeaves world org before) (rollBack outcomes interruption)
      (fun _ => PassLeaves world org before) (fun _ => PassLeaves world org before) := by
  cases interruption with
  | cancelled => exact Attempt.meets_fail _ fun _ left => left
  | raised =>
      refine meets_awaited ?_ fun _ _ _ left => left
      exact fun _ => Attempt.meets_fail _ fun _ left => left

theorem cleanupForOrg_leaves (world : World) (org : Uuid) (before : Store) :
    PassLeaves world org before (cleanupForOrg world org before).1 := by
  have whole : Attempt.Meets (· = before) (cleanupForOrg world org)
      (fun _ => PassLeaves world org before) (fun _ => PassLeaves world org before) := by
    refine meets_awaited ?_ ?_
    · exact fun context => (cleanOrphans_meets context).handle fun interruption =>
        rollBack_meets interruption
    · rintro interruption raised store rfl
      refine .incomplete (fun completes => ?_) rfl (List.Subset.refl _)
      rw [completes.setContext] at raised
      cases raised
  have left := whole before rfl
  split at left
  · rename_i ran
    rw [ran]
    exact left
  · rename_i ran
    rw [ran]
    exact left

end Pass

theorem StorageSettings.object_eq_iff {first second : StorageSettings} {key key' : Text} :
    first.object key = second.object key' ↔
      (first.endpointUrl, first.bucketName) = (second.endpointUrl, second.bucketName) ∧
        key = key' := by
  simp [StorageSettings.object, and_assoc]

theorem storedObject_removed (completes : Completes world org before)
    (inPlace : InPlace world org) {blob : BlobRow}
    (selected : blob ∈ selectBlobs world org before.rows) :
    world.storedObject blob ∈ removedObjects (world.outcomes org) (usedStorage world org)
      (selectBlobs world org before.rows) := by
  have answered : (world.outcomes org).deleteObject blob.id ≠ .refused := by
    rw [completes.deletes blob selected]
    nofun
  have same : (usedStorage world org).object blob.storageKey = world.storedObject blob := by
    rw [World.storedObject, (mem_selectBlobs selected).2, StorageSettings.object_eq_iff]
    refine ⟨?_, rfl⟩
    rw [usedStorage]
    rcases inPlace with read | default
    · rw [read]
    · cases (world.outcomes org).config with
      | none => rfl
      | some interruption => exact default
  rw [← same]
  exact List.mem_map_of_mem (List.mem_filter.mpr ⟨selected, by simpa using answered⟩)

/-- Elsewhere they are not. -/
theorem storedObject_kept (misplaced : ¬ InPlace world org) {blob : BlobRow}
    (owned : blob.organizationId = org) (blobs : List BlobRow) :
    world.storedObject blob ∉
      removedObjects (world.outcomes org) (usedStorage world org) blobs := by
  intro removed
  obtain ⟨other, _, same⟩ := List.mem_map.mp removed
  obtain ⟨unread, elsewhere⟩ := not_or.mp misplaced
  rw [World.storedObject, owned, StorageSettings.object_eq_iff, usedStorage] at same
  cases config : (world.outcomes org).config with
  | none => exact unread config
  | some interruption =>
      rw [config] at same
      exact elsewhere same.1

theorem storedObject_gone_iff (completes : Completes world org before) {blob : BlobRow}
    (selected : blob ∈ selectBlobs world org before.rows) :
    world.storedObject blob ∉ (cleaned world org before).objects ↔
      InPlace world org ∨ world.storedObject blob ∉ before.objects := by
  have left : world.storedObject blob ∈ (cleaned world org before).objects ↔
      world.storedObject blob ∈ before.objects ∧
        world.storedObject blob ∉ removedObjects (world.outcomes org) (usedStorage world org)
          (selectBlobs world org before.rows) := by
    simp [cleaned, Store.deleteByIds, Store.removeObjects]
  rw [left]
  by_cases inPlace : InPlace world org
  · simp [inPlace, storedObject_removed completes inPlace selected]
  · simp [inPlace, storedObject_kept inPlace (mem_selectBlobs selected).2]

/-- One pass. -/
theorem remembers_iff (world : World) (org : Uuid) (before : Store) :
    Remembers world org before ↔ Careful world org before := by
  rw [Remembers, Careful]
  cases cleanupForOrg_leaves world org before with
  | incomplete stops rows _ =>
      rw [rows]
      exact ⟨fun _ completes => absurd completes stops,
        fun _ row stored deleted => absurd stored deleted⟩
  | complete completes same =>
      rw [same]
      constructor
      · intro remembers _ blob selected
        have stored := (mem_selectBlobs selected).1
        have deleted : blob ∉ (cleaned world org before).rows := by
          rw [mem_cleaned_rows stored, not_not]
          exact selected
        obtain ⟨softDeleted, gone⟩ := remembers blob stored deleted
        exact ⟨softDeleted, (storedObject_gone_iff completes selected).mp gone⟩
      · intro careful row stored deleted
        rw [mem_cleaned_rows stored, not_not] at deleted
        obtain ⟨softDeleted, gone⟩ := careful completes row deleted
        exact ⟨softDeleted, (storedObject_gone_iff completes deleted).mpr gone⟩

section Calls

/-- The passes of the loop over some organisations, with what each of them finds; a
cancellation ends the loop. -/
def passesOver (world : World) : List Uuid → Store → List (Uuid × Store)
  | [], _ => []
  | org :: orgs, store =>
      (org, store) ::
        match cleanupForOrg world org store with
        | (_, .error .cancelled) => []
        | (after, _) => passesOver world orgs after

/-- The passes of a call. -/
def passes (world : World) (orgId : Option Uuid) (store : Store) : List (Uuid × Store) :=
  match orgId with
  | some org => [(org, store)]
  | none =>
      match world.discover with
      | none => passesOver world world.organizations store
      | some _ => []

/-- What a call has deleted when it ends, one of its passes has deleted, and no
object is back. -/
def Accounted (world : World) (passes : List (Uuid × Store)) (before after : Store) : Prop :=
  (∀ row ∈ before.rows, row ∉ after.rows → ∃ pass ∈ passes, row ∈ pass.2.rows ∧
    row ∉ (cleanupForOrg world pass.1 pass.2).1.rows ∧
      after.objects ⊆ (cleanupForOrg world pass.1 pass.2).1.objects) ∧
    after.objects ⊆ before.objects

theorem PassLeaves.objects_subset (left : PassLeaves world org before after) :
    after.objects ⊆ before.objects := by
  cases left with
  | incomplete _ _ objects => exact objects
  | complete _ same =>
      rw [same]
      exact removeObjects_subset _

theorem accounted_refl (passes : List (Uuid × Store)) (store : Store) :
    Accounted world passes store store :=
  ⟨fun _ stored deleted => absurd stored deleted, List.Subset.refl _⟩

/-- One pass before the others. -/
theorem Accounted.cons {rest : List (Uuid × Store)}
    (accounted : Accounted world rest (cleanupForOrg world org before).1 after) :
    Accounted world ((org, before) :: rest) before after := by
  refine ⟨?_, List.Subset.trans accounted.2
    (cleanupForOrg_leaves world org before).objects_subset⟩
  intro row stored deleted
  by_cases kept : row ∈ (cleanupForOrg world org before).1.rows
  · obtain ⟨pass, member, accounts⟩ := accounted.1 row kept deleted
    exact ⟨pass, List.mem_cons_of_mem _ member, accounts⟩
  · exact ⟨(org, before), List.mem_cons_self, stored, kept, accounted.2⟩

theorem accounted_pass (world : World) (org : Uuid) (before : Store) :
    Accounted world [(org, before)] before (cleanupForOrg world org before).1 :=
  Accounted.cons (accounted_refl [] _)

/-- The loop, over the organisations that are left. -/
theorem fold_accounted (world : World) (orgs : List Uuid) (progress : Nat × List Uuid)
    (store : Store) :
    Accounted world (passesOver world orgs store) store
      (Attempt.fold (cleanupNext world) progress orgs store).1 := by
  induction orgs generalizing progress store with
  | nil => exact accounted_refl [] store
  | cons org orgs induction =>
      rw [passesOver]
      rcases ran : cleanupForOrg world org store with ⟨middle, failure | cleaned⟩
      · cases failure with
        | raised =>
            have next : cleanupNext world progress org store =
                (middle, .ok (progress.1, progress.2 ++ [org])) :=
              Attempt.handle_of_error (Attempt.bind_of_error ran)
            rw [Attempt.fold, Attempt.bind_of_ok next]
            have later := induction (progress.1, progress.2 ++ [org]) middle
            exact Accounted.cons (by rw [ran]; exact later)
        | cancelled =>
            have next : cleanupNext world progress org store = (middle, .error .cancelled) :=
              Attempt.handle_of_error (Attempt.bind_of_error ran)
            rw [Attempt.fold, Attempt.bind_of_error next]
            exact Accounted.cons (by rw [ran]; exact accounted_refl [] middle)
      · have next : cleanupNext world progress org store =
            (middle, .ok (progress.1 + cleaned, progress.2)) :=
          Attempt.handle_of_ok (Attempt.bind_of_ok ran)
        rw [Attempt.fold, Attempt.bind_of_ok next]
        have later := induction (progress.1 + cleaned, progress.2) middle
        exact Accounted.cons (by rw [ran]; exact later)

/-- What follows the loop leaves the store. -/
theorem cleanupAll_accounted (world : World) (store : Store) :
    Accounted world (passes world none store) store (cleanupAll world store).1 := by
  rw [passes, cleanupAll]
  cases discovered : world.discover with
  | some interruption => exact accounted_refl [] store
  | none =>
      have found : ∀ next : Unit → CleanupStep Summary,
          (awaited none >>= next) store = next () store := fun _ => rfl
      rw [found]
      by_cases empty : world.organizations = []
      · rw [if_pos empty]
        exact accounted_refl _ store
      · rw [if_neg empty]
        have looped := fold_accounted world world.organizations (0, []) store
        rcases ran : Attempt.fold (cleanupNext world) (0, []) world.organizations store with
          ⟨after, failure | progress⟩
        · rw [Attempt.bind_of_error ran]
          rw [ran] at looped
          exact looped
        · rw [Attempt.bind_of_ok ran]
          rw [ran] at looped
          by_cases failed : progress.2 ≠ [] ∧
              progress.2.length = world.organizations.length
          · rw [if_pos failed]
            exact looped
          · rw [if_neg failed]
            exact looped

theorem cleanupOrphanBlobs_accounted (world : World) (orgId : Option Uuid) (store : Store) :
    Accounted world (passes world orgId store) store
      (cleanupOrphanBlobs world orgId store).1 := by
  cases orgId with
  | some org =>
      have pass := accounted_pass world org store
      rw [passes, cleanupOrphanBlobs]
      rcases ran : cleanupForOrg world org store with ⟨after, failure | cleaned⟩
      · rw [Attempt.bind_of_error ran]
        rw [ran] at pass
        exact pass
      · rw [Attempt.bind_of_ok ran]
        rw [ran] at pass
        exact pass
  | none =>
      have all := cleanupAll_accounted world store
      rw [cleanupOrphanBlobs]
      rcases ran : cleanupAll world store with ⟨after, failure | summary⟩
      · rw [Attempt.bind_of_error ran]
        rw [ran] at all
        exact all
      · rw [Attempt.bind_of_ok ran]
        rw [ran] at all
        exact all

end Calls

/-- No pass of a call forgets bytes that still exist exactly when every pass is
careful, and then the call has not forgotten any when it ends. -/
theorem cleanup_remembers_iff (world : World) (orgId : Option Uuid) (store : Store) :
    ((∀ pass ∈ passes world orgId store, Remembers world pass.1 pass.2) ↔
      ∀ pass ∈ passes world orgId store, Careful world pass.1 pass.2) ∧
    ((∀ pass ∈ passes world orgId store, Careful world pass.1 pass.2) →
      ∀ row ∈ store.rows, row ∉ (cleanupOrphanBlobs world orgId store).1.rows →
        world.SoftDeleted row ∧
          world.storedObject row ∉ (cleanupOrphanBlobs world orgId store).1.objects) := by
  refine ⟨forall₂_congr fun pass _ => remembers_iff world pass.1 pass.2, ?_⟩
  intro careful row stored deleted
  obtain ⟨pass, member, found, forgotten, gone⟩ :=
    (cleanupOrphanBlobs_accounted world orgId store).1 row stored deleted
  obtain ⟨softDeleted, absent⟩ :=
    (remembers_iff world pass.1 pass.2).mpr (careful pass member) row found forgotten
  exact ⟨softDeleted, fun left => absent (gone left)⟩

/-- One organisation with a bucket of its own, and a configuration that cannot be
read. -/
def unreadConfig : World where
  episodeId := none
  batchSize := 100
  episodes := [⟨7, true⟩]
  organizations := [1]
  stored := fun _ => { OrgStorage.unset with s3BucketName := some "acme".toList }
  order := ⟨id, fun _ => .refl _⟩
  outcomes := fun _ => { Outcomes.allSucceed with config := some .raised }
  discover := none

def acmeBlob : BlobRow :=
  ⟨3, 1, 7, "key".toList, 0⟩

/-- The blob of a deleted episode, in the bucket of its organisation. -/
def acmeStore : Store where
  rows := [acmeBlob]
  objects := [unreadConfig.storedObject acmeBlob]
  unique := List.nodup_singleton _

/-- The row is deleted and its object stays. -/
theorem unreadConfig_forgets :
    ¬ ∀ pass ∈ passes unreadConfig none acmeStore, Remembers unreadConfig pass.1 pass.2 := by
  intro remembers
  have careful := (remembers_iff unreadConfig 1 acmeStore).mp
    (remembers (1, acmeStore) List.mem_cons_self)
  have completes : Completes unreadConfig 1 acmeStore :=
    ⟨rfl, rfl, by decide, fun _ _ => rfl, rfl, by decide⟩
  obtain ⟨_, inPlace | gone⟩ := careful completes acmeBlob (by decide)
  · exact absurd inPlace (by unfold InPlace; decide)
  · exact gone List.mem_cons_self

end OpenZync.Workers.CleanupOrphanBlobs
