import Mathlib.Data.List.Nodup
import OpenZync.Library.FirstItems
import OpenZync.Library.Transactions
import OpenZync.Text

/-!
# Project pins

The rows of `project_pins` and the four operations of the project service that
touch them, each as the program of a transaction under READ COMMITTED.  A pin
is checked statement by statement, the last two under an advisory lock of the
user; archiving deletes the pins of a project without that lock.
-/

namespace OpenZync.Projects

open OpenZync.Library

structure ProjectRow where
  id : Uuid
  organizationId : Uuid
  isArchived : Bool
  deriving DecidableEq

structure ProjectPin where
  id : Uuid
  organizationId : Uuid
  userId : Uuid
  projectId : Uuid
  deriving DecidableEq

/-- The columns of `uq_project_pins_user_project`. -/
def ProjectPin.key (pin : ProjectPin) : Uuid × Uuid :=
  (pin.userId, pin.projectId)

/-- `projects` and `project_pins` with their unique keys.  The identifiers of
new pins are handed out in order, so none is used twice. -/
structure PinStore where
  projects : List ProjectRow
  pins : List ProjectPin
  nextId : Uuid
  projectIds : (projects.map ProjectRow.id).Nodup
  bounded : ∀ pin ∈ pins, pin.id < nextId
  ids : (pins.map ProjectPin.id).Nodup
  users : (pins.map ProjectPin.key).Nodup

/-- `MAX_PINS`. -/
def maxPins : Nat := 3

namespace PinStore

/-- `get_by_id`, which skips archived projects. -/
def getById (store : PinStore) (organizationId projectId : Uuid) : Option ProjectRow :=
  store.projects.find? fun row => decide (row.id = projectId ∧
    row.organizationId = organizationId ∧ row.isArchived = false)

/-- The `SELECT` of `unarchive`. -/
def getAny (store : PinStore) (organizationId projectId : Uuid) : Option ProjectRow :=
  store.projects.find? fun row => decide (row.id = projectId ∧
    row.organizationId = organizationId)

def getPin (store : PinStore) (organizationId userId projectId : Uuid) : Option ProjectPin :=
  store.pins.find? fun pin => decide (pin.organizationId = organizationId ∧
    pin.userId = userId ∧ pin.projectId = projectId)

def isPinned (store : PinStore) (organizationId userId projectId : Uuid) : Bool :=
  (store.getPin organizationId userId projectId).isSome

def countForUser (store : PinStore) (organizationId userId : Uuid) : Nat :=
  store.pins.countP fun pin => decide (pin.organizationId = organizationId ∧ pin.userId = userId)

/-- The pins that the `DELETE` of `delete_for_project` finds. -/
def pinsOf (store : PinStore) (projectId : Uuid) : List Uuid :=
  (store.pins.filter fun pin => decide (pin.projectId = projectId)).map ProjectPin.id

def keyTaken (store : PinStore) (userId projectId : Uuid) : Bool :=
  store.pins.any fun pin => decide (pin.key = (userId, projectId))

theorem keyTaken_iff {store : PinStore} {userId projectId : Uuid} :
    store.keyTaken userId projectId = true ↔
      (userId, projectId) ∈ store.pins.map ProjectPin.key := by
  rw [keyTaken, List.any_eq_true, List.mem_map]
  simp only [decide_eq_true_eq]

/-- `INSERT`, which the unique key refuses for a project the user has pinned. -/
def insert (store : PinStore) (organizationId userId projectId : Uuid) : Option PinStore :=
  if taken : store.keyTaken userId projectId = true then none
  else
    some
      { projects := store.projects
        pins := ⟨store.nextId, organizationId, userId, projectId⟩ :: store.pins
        nextId := store.nextId + 1
        projectIds := store.projectIds
        bounded := by
          intro pin member
          rcases List.mem_cons.mp member with rfl | member
          · exact Nat.lt_succ_self _
          · exact Nat.lt_succ_of_lt (store.bounded pin member)
        ids := by
          refine List.nodup_cons.mpr ⟨?_, store.ids⟩
          intro used
          obtain ⟨pin, member, same⟩ := List.mem_map.mp used
          exact absurd same (Nat.ne_of_lt (store.bounded pin member))
        users := List.nodup_cons.mpr ⟨fun held => taken (keyTaken_iff.mpr held), store.users⟩ }

def delete (store : PinStore) (ids : List Uuid) : PinStore :=
  { projects := store.projects
    pins := store.pins.filter fun pin => decide (pin.id ∉ ids)
    nextId := store.nextId
    projectIds := store.projectIds
    bounded := fun pin member => store.bounded pin (List.mem_of_mem_filter member)
    ids := store.ids.sublist (List.filter_sublist.map _)
    users := store.users.sublist (List.filter_sublist.map _) }

/-- The row that an `UPDATE … SET is_archived = :archived WHERE id = :id`
leaves. -/
def archiveRow (projectId : Uuid) (archived : Bool) (row : ProjectRow) : ProjectRow :=
  if row.id = projectId then { row with isArchived := archived } else row

theorem archiveRow_id (projectId : Uuid) (archived : Bool) (row : ProjectRow) :
    (archiveRow projectId archived row).id = row.id := by
  rw [archiveRow]
  split
  · rfl
  · rfl

def setArchived (store : PinStore) (projectId : Uuid) (archived : Bool) : PinStore :=
  { store with
    projects := store.projects.map (archiveRow projectId archived)
    projectIds := by
      have same : ProjectRow.id ∘ archiveRow projectId archived = ProjectRow.id :=
        funext (archiveRow_id projectId archived)
      rw [List.map_map, same]
      exact store.projectIds }

end PinStore

/-- The failures that the service reports. -/
inductive PinError where
  | projectNotFound (projectId : Uuid)
  | membershipNotFound (userId : Uuid)
  | limitReached
  deriving DecidableEq

def PinError.message : PinError → Text
  | .projectNotFound projectId =>
      "Project ".toList ++ Text.ofUuid projectId ++ " not found".toList
  | .membershipNotFound userId => "Membership not found for user ".toList ++ Text.ofUuid userId
  | .limitReached => "Pin limit reached (max 3 pinned projects)".toList

/-- `pin_project` comes with what `get_member` finds. -/
inductive PinOperation where
  | pinProject (organizationId userId projectId : Uuid) (isMember : Bool)
  | unpinProject (organizationId userId projectId : Uuid)
  | archiveProject (organizationId projectId : Uuid)
  | unarchiveProject (organizationId projectId : Uuid)
  deriving DecidableEq

/-- Where a transaction stands. -/
inductive PinPhase where
  | begin
  | checkingMember
  | checkingPinned
  | locking
  /-- The advisory lock is taken; `pinned` says whether the pin was there. -/
  | counting (pinned : Bool)
  /-- The count is under the limit. -/
  | inserting
  /-- The unique key is locked. -/
  | inserted
  /-- The unique key was taken. -/
  | conflicting
  | refused (error : PinError) (pinned : Bool)
  /-- The row of the project is locked and written. -/
  | archiving
  | unarchiving
  /-- The pins of a `DELETE`, with those still to be locked. -/
  | deleting (ids todo : List Uuid)
  | ended
  deriving DecidableEq

/-- What an `INSERT`, a `DELETE` and an `UPDATE` lock. -/
inductive PinRow where
  | key (userId projectId : Uuid)
  | pin (id : Uuid)
  | project (id : Uuid)
  deriving DecidableEq

abbrev PinMove := Move PinStore PinPhase (BitVec 32) PinRow

abbrev PinDatabase (τ : Type) := Database PinStore PinPhase (BitVec 32) PinRow τ

/-- The text of the advisory lock of `pin_if_under_limit`. -/
def pinLockKey (organizationId userId : Uuid) : Text :=
  "project_pins:".toList ++ Text.ofUuid organizationId ++ ':' :: Text.ofUuid userId

section Programs

variable (hashtext : Text → BitVec 32)

/-- `pin_project`, one statement for each move.  The counted `INSERT` is two: it
counts in its snapshot, and then waits for the unique key. -/
def pinProgram (organizationId userId projectId : Uuid) (isMember : Bool) (store : PinStore) :
    PinPhase → PinMove
  | .begin =>
      match store.getById organizationId projectId with
      | none => .go (.refused (.projectNotFound projectId) false)
      | some row =>
          if row.isArchived then .go (.refused (.projectNotFound projectId) false)
          else .go .checkingMember
  | .checkingMember =>
      if isMember then .go .checkingPinned
      else .go (.refused (.membershipNotFound userId) false)
  | .checkingPinned =>
      if store.isPinned organizationId userId projectId then .commit store else .go .locking
  | .locking =>
      .lockAdvisory (hashtext (pinLockKey organizationId userId))
        (.counting (store.isPinned organizationId userId projectId))
  | .counting pinned =>
      if store.countForUser organizationId userId < maxPins then .go .inserting
      else .go (.refused .limitReached pinned)
  | .inserting =>
      if store.keyTaken userId projectId then .go .conflicting
      else .lockRow (.key userId projectId) .inserted
  | .inserted =>
      match store.insert organizationId userId projectId with
      | none => .go .conflicting
      | some store' => .commit store'
  | .conflicting =>
      match store.getPin organizationId userId projectId with
      | none => .abort
      | some _ => .commit store
  | .refused _ _ => .abort
  | _ => .stay

/-- The rest of a `DELETE`: its rows are locked one by one, those that are gone
are skipped. -/
def PinStore.lockNext (store : PinStore) (id : Uuid) (next : PinPhase) : PinMove :=
  if id ∈ store.pins.map ProjectPin.id then .lockRow (.pin id) next else .go next

def unpinProgram (organizationId userId projectId : Uuid) (store : PinStore) :
    PinPhase → PinMove
  | .begin =>
      match store.getPin organizationId userId projectId with
      | none => .commit store
      | some pin => .go (.deleting [pin.id] [pin.id])
  | .deleting ids (id :: todo) => store.lockNext id (.deleting ids todo)
  | .deleting ids [] => .commit (store.delete ids)
  | _ => .stay

def archiveProgram (organizationId projectId : Uuid) (store : PinStore) : PinPhase → PinMove
  | .begin =>
      match store.getById organizationId projectId with
      | none => .go (.refused (.projectNotFound projectId) false)
      | some _ => .lockRow (.project projectId) .archiving
  | .archiving => .go (.deleting (store.pinsOf projectId) (store.pinsOf projectId))
  | .deleting ids (id :: todo) => store.lockNext id (.deleting ids todo)
  | .deleting ids [] => .commit ((store.setArchived projectId true).delete ids)
  | .refused _ _ => .abort
  | _ => .stay

/-- A project that is not archived is not written. -/
def unarchiveProgram (organizationId projectId : Uuid) (store : PinStore) : PinPhase → PinMove
  | .begin =>
      match store.getAny organizationId projectId with
      | none => .go (.refused (.projectNotFound projectId) false)
      | some row =>
          if row.isArchived then .lockRow (.project projectId) .unarchiving else .commit store
  | .unarchiving => .commit (store.setArchived projectId false)
  | .refused _ _ => .abort
  | _ => .stay

def PinOperation.program (store : PinStore) (phase : PinPhase) : PinOperation → PinMove
  | .pinProject organizationId userId projectId isMember =>
      pinProgram hashtext organizationId userId projectId isMember store phase
  | .unpinProject organizationId userId projectId =>
      unpinProgram organizationId userId projectId store phase
  | .archiveProject organizationId projectId =>
      archiveProgram organizationId projectId store phase
  | .unarchiveProject organizationId projectId =>
      unarchiveProgram organizationId projectId store phase

/-- One scheduling step of concurrent operations. -/
def performPins {τ : Type} [DecidableEq τ] (operations : τ → PinOperation) :
    PinDatabase τ → Action τ → PinDatabase τ :=
  Database.perform (fun transaction store phase =>
    (operations transaction).program hashtext store phase) .ended

end Programs

end OpenZync.Projects
