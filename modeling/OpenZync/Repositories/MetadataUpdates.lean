import Mathlib.Logic.Function.Basic
import OpenZync.Library.JsonMerge
import OpenZync.Text

/-!
# Metadata updates of users and sessions

Both repositories apply a patch to the stored metadata in a loop over its
members, with a special case for an object that meets an object.

The loop merges one level below the top.  It leaves what the recursive merge
leaves exactly when there is nothing to remove and nothing to merge further
down.
-/

namespace OpenZync.Repositories

open OpenZync.Library

variable {ν : Type}

/-- A JSON object of any depth, as a metadata column holds it. -/
structure Metadata (ν : Type) where
  members : Json.Members ν
  formed : (Json.object members).WellFormed

namespace Metadata

def value (metadata : Metadata ν) : Json ν :=
  .object metadata.members

def empty : Metadata ν :=
  { members := []
    formed := .object List.nodup_nil (by simp) }

/-- What the loop sets at a key: `{**existing[k], **v}` for an object that
meets an object. -/
def mergedItem : Option (Json ν) → Json ν → Json ν
  | some (.object existing), .object v => .object (Json.spread existing v)
  | _, v => v

theorem keeps_mergedItem : Json.Keeps (mergedItem : Option (Json ν) → Json ν → Json ν) := by
  intro old value held formed
  rw [mergedItem.eq_def]
  split
  · exact (held _ rfl).spread formed
  · exact formed

/-- The loop over the members of a patch. -/
def applyPatch (stored : Option (Metadata ν)) (patch : Metadata ν) : Metadata ν :=
  let existing := stored.getD .empty
  { members := Json.patchMembers mergedItem existing.members patch.members
    formed := existing.formed.patchMembers keeps_mergedItem patch.formed }

end Metadata

structure UserRow (ν : Type) where
  id : Uuid
  organizationId : Uuid
  name : Option Text
  email : Option Text
  role : Text
  permissions : List Text
  metadata : Option (Metadata ν)

/-- `update_fields`: a key that is present may hold `None`. -/
structure UserUpdateFields (ν : Type) where
  name : Option (Option Text)
  email : Option (Option Text)
  role : Option Text
  permissions : Option (List Text)
  metadata : Option (Option (Metadata ν))

/-- The fields that are present, set on the row. -/
def UserRow.apply (user : UserRow ν) (updateFields : UserUpdateFields ν) : UserRow ν :=
  { user with
    name := updateFields.name.getD user.name
    email := updateFields.email.getD user.email
    role := updateFields.role.getD user.role
    permissions := updateFields.permissions.getD user.permissions
    metadata :=
      match updateFields.metadata with
      | none => user.metadata
      | some newMeta => some (.applyPatch user.metadata (newMeta.getD .empty)) }

/-- `UserRepository.update`, with the table it leaves. -/
def updateUser (users : Uuid → Option (UserRow ν)) (organizationId userId : Uuid)
    (updateFields : UserUpdateFields ν) : Option (UserRow ν) × (Uuid → Option (UserRow ν)) :=
  match (users userId).filter fun user => user.organizationId = organizationId with
  | none => (none, users)
  | some user =>
      let user := user.apply updateFields
      (some user, Function.update users userId user)

structure SessionRow (ν : Type) where
  id : Uuid
  projectId : Uuid
  isDeleted : Bool
  metadata : Option (Metadata ν)

/-- `SessionRepository.update_metadata`, with the table it leaves; a project is
known by its organization. -/
def updateMetadata (projects : Uuid → Option Uuid) (sessions : Uuid → Option (SessionRow ν))
    (orgId sessionId : Uuid) (metadata : Metadata ν) :
    Option (SessionRow ν) × (Uuid → Option (SessionRow ν)) :=
  match (sessions sessionId).filter fun session =>
      projects session.projectId = some orgId ∧ session.isDeleted = false with
  | none => (none, sessions)
  | some session =>
      let session := { session with metadata := some (.applyPatch session.metadata metadata) }
      (some session, Function.update sessions sessionId session)

namespace Metadata

/-- The recursive merge of a patch onto stored metadata. -/
def deepMerge (stored : Option (Metadata ν)) (patch : Metadata ν) : Json ν :=
  .object (Json.mergeMembers (stored.getD .empty).members patch.members)

/-- Where an object of the patch meets a stored object, it holds no null, and
its own objects absorb the stored ones they meet. -/
def OneLevel (stored : Option (Metadata ν)) (patch : Metadata ν) : Prop :=
  ∀ key existing v,
    Dict.getItems key (stored.getD .empty).members = some (.object existing) →
    Dict.getItems key patch.members = some (.object v) →
    ∀ inner, Dict.getItems inner v ≠ some .null ∧
      ∀ old new, Dict.getItems inner existing = some (.object old) →
        Dict.getItems inner v = some (.object new) → Json.Absorbs old new

/-- Two ways to combine agree on a key when they agree on a value to set. -/
theorem rel_patched_iff {combine combine' : Option (Json ν) → Json ν → Json ν}
    {old patch : Option (Json ν)} :
    Option.Rel Json.Same (Json.patched combine old patch) (Json.patched combine' old patch) ↔
      ∀ value, patch = some value → value ≠ .null →
        Json.Same (combine old value) (combine' old value) := by
  cases patch with
  | none =>
      refine iff_of_true ?_ (by simp)
      cases old with
      | none => exact .none
      | some value => exact .some (.refl value)
  | some value =>
      by_cases null : value = .null
      · subst null
        exact iff_of_true .none (by simp)
      · rw [Json.patched_some _ _ null, Json.patched_some _ _ null, Option.rel_some_some]
        constructor
        · rintro same _ ⟨rfl⟩ _
          exact same
        · intro same
          exact same value rfl null

theorem same_spread_iff {existing v : Json.Members ν} (formed : (Json.object v).WellFormed) :
    Json.Same (.object (Json.spread existing v)) (.object (Json.mergeMembers existing v)) ↔
      ∀ inner, Dict.getItems inner v ≠ some .null ∧
        ∀ old new, Dict.getItems inner existing = some (.object old) →
          Dict.getItems inner v = some (.object new) → Json.Absorbs old new := by
  rw [Json.same_object_iff]
  apply forall_congr'
  intro inner
  rw [Json.getItems_spread formed.distinct, Json.getItems_mergeMembers formed.distinct]
  cases held : Dict.getItems inner v with
  | none =>
      refine iff_of_true ?_ (by simp)
      cases Dict.getItems inner existing with
      | none => exact .none
      | some value => exact .some (.refl value)
  | some value =>
      have inside := formed.getItems held
      by_cases null : value = .null
      · subst null
        refine iff_of_false ?_ (by simp)
        intro related
        cases related
      · rw [Json.patched_some _ _ null, Option.some_or, Option.rel_some_some,
          Json.same_mergeValue_iff inside]
        simp [null]

theorem same_mergedItem_iff {old : Option (Json ν)} {value : Json ν}
    (formed : value.WellFormed) :
    Json.Same (mergedItem old value) (Json.mergeValue old value) ↔
      ∀ existing v, old = some (.object existing) → value = .object v →
        ∀ inner, Dict.getItems inner v ≠ some .null ∧
          ∀ old new, Dict.getItems inner existing = some (.object old) →
            Dict.getItems inner v = some (.object new) → Json.Absorbs old new := by
  by_cases both : ∃ existing v, old = some (.object existing) ∧ value = .object v
  · obtain ⟨existing, v, rfl, rfl⟩ := both
    rw [mergedItem, Json.mergeValue_object, same_spread_iff formed]
    constructor
    · rintro inside _ _ ⟨rfl⟩ ⟨rfl⟩
      exact inside
    · intro inside
      exact inside existing v rfl rfl
  · have apart : ∀ existing v, old = some (.object existing) → value ≠ .object v :=
      fun existing v held object => both ⟨existing, v, held, object⟩
    have item : mergedItem old value = value := by
      rw [mergedItem.eq_def]
      split
      · exact absurd rfl (apart _ _ rfl)
      · rfl
    rw [item, Json.mergeValue_eq_self apart]
    exact iff_of_true (.refl value) fun existing v held object =>
      absurd object (apart existing v held)

theorem same_applyPatch_iff (stored : Option (Metadata ν)) (patch : Metadata ν) :
    Json.Same (applyPatch stored patch).value (deepMerge stored patch) ↔
      OneLevel stored patch := by
  have distinct := patch.formed.distinct
  simp only [value, deepMerge, applyPatch]
  rw [Json.same_object_iff]
  constructor
  · intro same key existing v held object
    have here := same key
    rw [Json.getItems_patchMembers distinct, Json.getItems_mergeMembers distinct,
      rel_patched_iff] at here
    have formed := patch.formed.getItems object
    exact (same_mergedItem_iff formed).mp (here _ object (by simp)) existing v held rfl
  · intro oneLevel key
    rw [Json.getItems_patchMembers distinct, Json.getItems_mergeMembers distinct,
      rel_patched_iff]
    intro value object _
    rw [same_mergedItem_iff (patch.formed.getItems object)]
    rintro existing v held rfl
    exact oneLevel key existing v held object

end Metadata

theorem updateUser_some {users users' : Uuid → Option (UserRow ν)}
    {organizationId userId : Uuid} {updateFields : UserUpdateFields ν} {updated : UserRow ν}
    (done : updateUser users organizationId userId updateFields = (some updated, users')) :
    ∃ user, users userId = some user ∧ updated = user.apply updateFields ∧
      users' userId = some updated := by
  rw [updateUser] at done
  split at done
  · cases done
  · rename_i user found
    obtain ⟨⟨rfl⟩, rfl⟩ := Prod.mk.inj done
    exact ⟨user, (Option.filter_eq_some_iff.mp found).1, rfl, Function.update_self userId _ users⟩

theorem updateMetadata_some {projects : Uuid → Option Uuid}
    {sessions sessions' : Uuid → Option (SessionRow ν)} {orgId sessionId : Uuid}
    {metadata : Metadata ν} {updated : SessionRow ν}
    (done : updateMetadata projects sessions orgId sessionId metadata =
      (some updated, sessions')) :
    ∃ session, sessions sessionId = some session ∧
      updated.metadata = some (.applyPatch session.metadata metadata) ∧
      sessions' sessionId = some updated := by
  rw [updateMetadata] at done
  split at done
  · cases done
  · rename_i session found
    obtain ⟨⟨rfl⟩, rfl⟩ := Prod.mk.inj done
    exact ⟨session, (Option.filter_eq_some_iff.mp found).1, rfl,
      Function.update_self sessionId _ sessions⟩

/-- Both updates store the recursive merge exactly when one level is all that
there is to merge. -/
theorem metadata_update_iff :
    (∀ (users users' : Uuid → Option (UserRow ν)) organizationId userId updateFields newMeta
        updated, updateFields.metadata = some newMeta →
      updateUser users organizationId userId updateFields = (some updated, users') →
      ∃ user stored, users userId = some user ∧ users' userId = some updated ∧
        updated.metadata = some stored ∧
        (Json.Same stored.value (Metadata.deepMerge user.metadata (newMeta.getD .empty)) ↔
          Metadata.OneLevel user.metadata (newMeta.getD .empty))) ∧
    ∀ projects (sessions sessions' : Uuid → Option (SessionRow ν)) orgId sessionId metadata
        updated,
      updateMetadata projects sessions orgId sessionId metadata = (some updated, sessions') →
      ∃ session stored, sessions sessionId = some session ∧
        sessions' sessionId = some updated ∧ updated.metadata = some stored ∧
        (Json.Same stored.value (Metadata.deepMerge session.metadata metadata) ↔
          Metadata.OneLevel session.metadata metadata) := by
  constructor
  · intro users users' organizationId userId updateFields newMeta updated present done
    obtain ⟨user, found, rfl, kept⟩ := updateUser_some done
    refine ⟨user, .applyPatch user.metadata (newMeta.getD .empty), found, kept, ?_,
      Metadata.same_applyPatch_iff _ _⟩
    simp only [UserRow.apply, present]
  · intro projects sessions sessions' orgId sessionId metadata updated done
    obtain ⟨session, found, stored, kept⟩ := updateMetadata_some done
    exact ⟨session, _, found, kept, stored, Metadata.same_applyPatch_iff _ _⟩

/-- `{"a": {"b": 1}}` -/
def oneNested : Metadata Nat :=
  { members := [("a".toList, .object [("b".toList, .number 1)])]
    formed := .object (by decide) (by
      simpa using .object (by simp) (by simpa using .number 1)) }

/-- `{"a": {"b": null}}` -/
def nestedNull : Metadata Nat :=
  { members := [("a".toList, .object [("b".toList, .null)])]
    formed := .object (by decide) (by
      simpa using .object (by simp) (by simpa using .null)) }

/-- The tables with one user, and with one session of one project. -/
def oneUser : UserRow Nat :=
  { id := 1
    organizationId := 7
    name := none
    email := none
    role := "member".toList
    permissions := []
    metadata := some oneNested }

def oneSession : SessionRow Nat :=
  { id := 1
    projectId := 3
    isDeleted := false
    metadata := some oneNested }

def onlyMetadata (metadata : Metadata Nat) : UserUpdateFields Nat :=
  { name := none
    email := none
    role := none
    permissions := none
    metadata := some (some metadata) }

theorem metadata_update_nestedNull :
    (∃ user stored, some oneUser = some user ∧
      (updateUser (fun _ => some oneUser) 7 1 (onlyMetadata nestedNull)).2 1 =
        some (oneUser.apply (onlyMetadata nestedNull)) ∧
      (oneUser.apply (onlyMetadata nestedNull)).metadata = some stored ∧
      (Json.Same stored.value (Metadata.deepMerge user.metadata nestedNull) ↔
        Metadata.OneLevel user.metadata nestedNull)) ∧
    ∃ session stored, some oneSession = some session ∧
      (updateMetadata (fun _ => some 7) (fun _ => some oneSession) 7 1 nestedNull).2 1 =
        some { oneSession with
          metadata := some (Metadata.applyPatch (some oneNested) nestedNull) } ∧
      some (Metadata.applyPatch (some oneNested) nestedNull) = some stored ∧
      (Json.Same stored.value (Metadata.deepMerge session.metadata nestedNull) ↔
        Metadata.OneLevel session.metadata nestedNull) :=
  ⟨metadata_update_iff.1 (fun _ => some oneUser) _ 7 1 (onlyMetadata nestedNull)
      (some nestedNull) _ rfl rfl,
    metadata_update_iff.2 (fun _ => some 7) (fun _ => some oneSession) _ 7 1 nestedNull _ rfl⟩

/-- A null below the top level is stored: the recursive merge removes the key. -/
theorem nestedNull_stored :
    (updateUser (fun _ => some oneUser) 7 1 (onlyMetadata nestedNull)).1.bind
        (fun user => user.metadata.bind fun stored =>
          stored.value.find ["a".toList, "b".toList]) = some .null ∧
      (updateMetadata (fun _ => some 7) (fun _ => some oneSession) 7 1 nestedNull).1.bind
        (fun session => session.metadata.bind fun stored =>
          stored.value.find ["a".toList, "b".toList]) = some .null ∧
      (Metadata.deepMerge (some oneNested) nestedNull).find ["a".toList, "b".toList] = none := by
  refine ⟨rfl, rfl, rfl⟩

end OpenZync.Repositories
