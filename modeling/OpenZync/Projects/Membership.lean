import Mathlib.Data.List.Nodup
import OpenZync.Library.Transactions
import OpenZync.Text

/-!
# Project membership

The rows of `project_members` and the three operations of the project service
that change them, each as the program of a transaction under READ COMMITTED.
The last-owner guard counts the members in one statement; the row is deleted
or updated in a later one.  In between the session keeps the instance that it
loaded: a row that is read again keeps the role it was loaded with.
-/

namespace OpenZync.Projects

open OpenZync.Library

/-- `ck_project_members_role`. -/
inductive MemberRole where
  | owner
  | member
  deriving DecidableEq

structure ProjectMember where
  id : Uuid
  projectId : Uuid
  userId : Uuid
  role : MemberRole
  deriving DecidableEq

/-- The columns of `uq_project_members_project_user`. -/
def ProjectMember.key (row : ProjectMember) : Uuid × Uuid :=
  (row.projectId, row.userId)

/-- `project_members` with its two unique keys.  The identifiers of new rows
are handed out in order, so none is used twice. -/
structure MemberTable where
  rows : List ProjectMember
  nextId : Uuid
  bounded : ∀ row ∈ rows, row.id < nextId
  ids : (rows.map ProjectMember.id).Nodup
  users : (rows.map ProjectMember.key).Nodup

namespace MemberTable

def getMember (table : MemberTable) (projectId userId : Uuid) : Option ProjectMember :=
  table.rows.find? fun row => decide (row.key = (projectId, userId))

def listMembers (table : MemberTable) (projectId : Uuid) : List ProjectMember :=
  table.rows.filter fun row => decide (row.projectId = projectId)

/-- `INSERT`, which the unique key refuses for a user who is a member. -/
def insert (table : MemberTable) (projectId userId : Uuid) (role : MemberRole) :
    Option MemberTable :=
  if taken : (projectId, userId) ∈ table.rows.map ProjectMember.key then none
  else
    some
      { rows := ⟨table.nextId, projectId, userId, role⟩ :: table.rows
        nextId := table.nextId + 1
        bounded := by
          intro row member
          rcases List.mem_cons.mp member with rfl | member
          · exact Nat.lt_succ_self _
          · exact Nat.lt_succ_of_lt (table.bounded row member)
        ids := by
          refine List.nodup_cons.mpr ⟨?_, table.ids⟩
          intro used
          obtain ⟨row, member, same⟩ := List.mem_map.mp used
          exact absurd same (Nat.ne_of_lt (table.bounded row member))
        users := List.nodup_cons.mpr ⟨taken, table.users⟩ }

/-- `DELETE … WHERE id = :id`. -/
def delete (table : MemberTable) (id : Uuid) : MemberTable :=
  { rows := table.rows.filter fun row => decide (row.id ≠ id)
    nextId := table.nextId
    bounded := fun row member => table.bounded row (List.mem_of_mem_filter member)
    ids := table.ids.sublist (List.filter_sublist.map _)
    users := table.users.sublist (List.filter_sublist.map _) }

/-- The row that an `UPDATE … SET role = :role WHERE id = :id` leaves. -/
def assign (id : Uuid) (role : MemberRole) (row : ProjectMember) : ProjectMember :=
  if row.id = id then { row with role := role } else row

@[simp] theorem assign_id (id : Uuid) (role : MemberRole) (row : ProjectMember) :
    (assign id role row).id = row.id := by
  rw [assign]
  split <;> rfl

@[simp] theorem assign_key (id : Uuid) (role : MemberRole) (row : ProjectMember) :
    (assign id role row).key = row.key := by
  rw [assign]
  split <;> rfl

def setRole (table : MemberTable) (id : Uuid) (role : MemberRole) : MemberTable :=
  { rows := table.rows.map (assign id role)
    nextId := table.nextId
    bounded := by
      intro row member
      obtain ⟨old, oldMember, rfl⟩ := List.mem_map.mp member
      rw [assign_id]
      exact table.bounded old oldMember
    ids := by
      rw [List.map_map, show ProjectMember.id ∘ assign id role = ProjectMember.id from
        funext fun row => assign_id id role row]
      exact table.ids
    users := by
      rw [List.map_map, show ProjectMember.key ∘ assign id role = ProjectMember.key from
        funext fun row => assign_key id role row]
      exact table.users }

end MemberTable

/-- The failures that the service reports. -/
inductive MembershipError where
  | alreadyMember (userId : Uuid)
  | notFoundInProject (userId projectId : Uuid)
  | notFound (userId : Uuid)
  | removesLastOwner (projectId : Uuid)
  | downgradesLastOwner (projectId : Uuid)

def MembershipError.message : MembershipError → Text
  | .alreadyMember userId =>
      "User ".toList ++ Text.ofUuid userId ++ " is already a member of this project".toList
  | .notFoundInProject userId projectId =>
      "Membership not found for user ".toList ++ Text.ofUuid userId ++ " in project ".toList ++
        Text.ofUuid projectId
  | .notFound userId => "Membership not found for user ".toList ++ Text.ofUuid userId
  | .removesLastOwner _ => "Cannot remove the last owner from the project".toList
  | .downgradesLastOwner _ => "Cannot downgrade the last owner of the project".toList

inductive MemberOperation where
  | addMember (projectId userId : Uuid) (role : MemberRole)
  | removeMember (projectId userId : Uuid)
  | updateMemberRole (projectId userId : Uuid) (role : MemberRole)
  deriving DecidableEq

namespace MemberOperation

def projectId : MemberOperation → Uuid
  | .addMember project _ _ => project
  | .removeMember project _ => project
  | .updateMemberRole project _ _ => project

def userId : MemberOperation → Uuid
  | .addMember _ user _ => user
  | .removeMember _ user => user
  | .updateMemberRole _ user _ => user

/-- The operation can take ownership away. -/
def Removes : MemberOperation → Bool
  | .addMember _ _ _ => false
  | .removeMember _ _ => true
  | .updateMemberRole _ _ role => decide (role ≠ .owner)

/-- What `get_member` has to return for the operation to go on. -/
def checkMember (operation : MemberOperation) (member : Option ProjectMember) :
    Except MembershipError (Option ProjectMember) :=
  match operation, member with
  | .addMember _ _ _, none => .ok none
  | .addMember _ user _, some _ => .error (.alreadyMember user)
  | .removeMember project user, none => .error (.notFoundInProject user project)
  | .updateMemberRole _ user _, none => .error (.notFound user)
  | _, some member => .ok (some member)

/-- The failure of the last-owner guard. -/
def lastOwner : MemberOperation → MembershipError
  | .updateMemberRole project _ _ => .downgradesLastOwner project
  | operation => .removesLastOwner operation.projectId

end MemberOperation

/-- The instance a session has for a row: the one it loaded before, with the
attributes it had then. -/
def identityMapped (loaded row : ProjectMember) : ProjectMember :=
  if row.id = loaded.id then loaded else row

/-- `_count_owners`. -/
def countOwners (table : MemberTable) (projectId : Uuid) (loaded : ProjectMember) : Nat :=
  (table.listMembers projectId).countP fun row =>
    decide ((identityMapped loaded row).role = .owner)

def checkOwners (operation : MemberOperation) (count : Nat) : Except MembershipError Unit :=
  if count ≤ 1 then .error operation.lastOwner else .ok ()

/-- Where a transaction stands. -/
inductive MemberPhase where
  | begin
  /-- The owners are still to be counted. -/
  | counting (loaded : ProjectMember)
  /-- The guard is passed; the repository selects the row again. -/
  | selecting (loaded : ProjectMember)
  /-- The instance to delete or to update. -/
  | flushing (member : ProjectMember)
  /-- The row is locked and written. -/
  | written (member : ProjectMember)
  | adding
  /-- The unique key is locked. -/
  | inserted
  | ended
  deriving DecidableEq

abbrev MemberMove := Move MemberTable MemberPhase Unit (Uuid × Uuid)

abbrev MemberDatabase (τ : Type) := Database MemberTable MemberPhase Unit (Uuid × Uuid) τ

def goOrAbort {ε α : Type} (next : α → MemberMove) : Except ε α → MemberMove
  | .ok value => next value
  | .error _ => .abort

namespace MemberOperation

/-- `add_member`, `remove_member` and `update_member_role`, one statement for
each move.  `UPDATE` of a row that is gone fails; `DELETE` of one does not. -/
def program (operation : MemberOperation) (table : MemberTable) : MemberPhase → MemberMove
  | .begin =>
      goOrAbort
        (fun
          | none => .go .adding
          | some member =>
              if member.role = .owner ∧ operation.Removes = true then .go (.counting member)
              else .go (.selecting member))
        (operation.checkMember (table.getMember operation.projectId operation.userId))
  | .counting loaded =>
      goOrAbort (fun _ => .go (.selecting loaded))
        (checkOwners operation (countOwners table operation.projectId loaded))
  | .selecting loaded =>
      match table.getMember operation.projectId operation.userId with
      | none => .abort
      | some row => .go (.flushing (identityMapped loaded row))
  | .flushing member =>
      match operation with
      | .updateMemberRole _ _ role =>
          if member.role = role then .commit table
          else if member.id ∈ table.rows.map ProjectMember.id then
            .lockRow (operation.projectId, operation.userId) (.written member)
          else .abort
      | .removeMember _ _ =>
          if member.id ∈ table.rows.map ProjectMember.id then
            .lockRow (operation.projectId, operation.userId) (.written member)
          else .commit table
      | .addMember _ _ _ => .abort
  | .written member =>
      match operation with
      | .updateMemberRole _ _ role => .commit (table.setRole member.id role)
      | .removeMember _ _ => .commit (table.delete member.id)
      | .addMember _ _ _ => .abort
  | .adding => .lockRow (operation.projectId, operation.userId) .inserted
  | .inserted =>
      match operation with
      | .addMember project user role =>
          match table.insert project user role with
          | none => .abort
          | some table' => .commit table'
      | _ => .abort
  | .ended => .stay

end MemberOperation

/-- One scheduling step of concurrent operations. -/
def performMemberships {τ : Type} [DecidableEq τ] (operations : τ → MemberOperation) :
    MemberDatabase τ → Action τ → MemberDatabase τ :=
  Database.perform (fun transaction table phase =>
    (operations transaction).program table phase) .ended

end OpenZync.Projects
