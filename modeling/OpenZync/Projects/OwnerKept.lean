import OpenZync.Library.FirstItems
import OpenZync.Projects.Membership

/-!
# A project keeps an owner

A transaction that has passed the last-owner guard relies on an owner other
than the one it takes away.  Additions and promotions keep that owner; another
removal need not.  The guard on a run says where it does.
-/

namespace OpenZync.Projects

open OpenZync.Library

namespace MemberTable

/-- The user of the key is an owner of the project of the key. -/
def Owns (table : MemberTable) (key : Uuid × Uuid) : Prop :=
  ∃ row ∈ table.rows, row.key = key ∧ row.role = .owner

def HasOwner (table : MemberTable) (projectId : Uuid) : Prop :=
  ∃ row ∈ table.rows, row.projectId = projectId ∧ row.role = .owner

instance (table : MemberTable) (projectId : Uuid) : Decidable (table.HasOwner projectId) :=
  inferInstanceAs (Decidable (∃ row ∈ table.rows, _))

/-- An owner besides the users of a list. -/
def OwnerBesides (table : MemberTable) (projectId : Uuid) (users : List Uuid) : Prop :=
  ∃ row ∈ table.rows, row.projectId = projectId ∧ row.role = .owner ∧ row.userId ∉ users

instance (table : MemberTable) (projectId : Uuid) (users : List Uuid) :
    Decidable (table.OwnerBesides projectId users) :=
  inferInstanceAs (Decidable (∃ row ∈ table.rows, _))

theorem hasOwner_iff {table : MemberTable} {projectId : Uuid} :
    table.HasOwner projectId ↔ ∃ user, table.Owns (projectId, user) := by
  constructor
  · rintro ⟨row, member, rfl, owner⟩
    exact ⟨row.userId, row, member, rfl, owner⟩
  · rintro ⟨user, row, member, same, owner⟩
    exact ⟨row, member, congrArg Prod.fst same, owner⟩

theorem ownerBesides_iff {table : MemberTable} {projectId : Uuid} {users : List Uuid} :
    table.OwnerBesides projectId users ↔
      ∃ user, user ∉ users ∧ table.Owns (projectId, user) := by
  constructor
  · rintro ⟨row, member, rfl, owner, besides⟩
    exact ⟨row.userId, besides, row, member, rfl, owner⟩
  · rintro ⟨user, besides, row, member, same, owner⟩
    have sameUser : row.userId = user := congrArg Prod.snd same
    exact ⟨row, member, congrArg Prod.fst same, owner, sameUser ▸ besides⟩

theorem eq_of_key {table : MemberTable} {first second : ProjectMember}
    (firstMember : first ∈ table.rows) (secondMember : second ∈ table.rows)
    (same : first.key = second.key) : first = second :=
  List.inj_on_of_nodup_map table.users firstMember secondMember same

theorem getMember_some {table : MemberTable} {projectId userId : Uuid} {row : ProjectMember}
    (found : table.getMember projectId userId = some row) :
    row ∈ table.rows ∧ row.key = (projectId, userId) :=
  lookup_some found

theorem insert_rows {table table' : MemberTable} {projectId userId : Uuid} {role : MemberRole}
    (inserted : table.insert projectId userId role = some table') :
    table'.rows = ⟨table.nextId, projectId, userId, role⟩ :: table.rows ∧
      table'.nextId = table.nextId + 1 := by
  rw [insert] at inserted
  split at inserted
  · cases inserted
  · cases inserted
    exact ⟨rfl, rfl⟩

theorem Owns.insert {table table' : MemberTable} {key : Uuid × Uuid} (owns : table.Owns key)
    {projectId userId : Uuid} {role : MemberRole}
    (inserted : table.insert projectId userId role = some table') : table'.Owns key := by
  obtain ⟨row, member, sameKey, owner⟩ := owns
  refine ⟨row, ?_, sameKey, owner⟩
  rw [(insert_rows inserted).1]
  exact List.mem_cons_of_mem _ member

theorem Owns.delete {table : MemberTable} {key : Uuid × Uuid} (owns : table.Owns key) {id : Uuid}
    (other : ∀ row ∈ table.rows, row.id = id → row.key ≠ key) : (table.delete id).Owns key := by
  obtain ⟨row, member, sameKey, owner⟩ := owns
  refine ⟨row, ?_, sameKey, owner⟩
  apply List.mem_filter.mpr
  refine ⟨member, decide_eq_true ?_⟩
  intro sameId
  exact other row member sameId sameKey

/-- An update takes ownership away only from the row it names, and only when
it makes it an ordinary member. -/
theorem Owns.setRole {table : MemberTable} {key : Uuid × Uuid} (owns : table.Owns key) {id : Uuid}
    {role : MemberRole}
    (other : role = .owner ∨ ∀ row ∈ table.rows, row.id = id → row.key ≠ key) :
    (table.setRole id role).Owns key := by
  obtain ⟨row, member, sameKey, owner⟩ := owns
  refine ⟨assign id role row, List.mem_map_of_mem member, (assign_key id role row).trans sameKey,
    ?_⟩
  rw [assign]
  split
  · rename_i sameId
    rcases other with promoted | other
    · exact promoted
    · exact absurd sameKey (other row member sameId)
  · exact owner

/-- The row of an instance belongs to the user of a key, if it still exists. -/
def Names (table : MemberTable) (member : ProjectMember) (key : Uuid × Uuid) : Prop :=
  member.id < table.nextId ∧ ∀ row ∈ table.rows, row.id = member.id → row.key = key

theorem Names.of_mem {table : MemberTable} {member : ProjectMember}
    (stored : member ∈ table.rows) : table.Names member member.key := by
  refine ⟨table.bounded member stored, ?_⟩
  intro row rowStored same
  rw [List.inj_on_of_nodup_map table.ids rowStored stored same]

theorem Names.insert {table table' : MemberTable} {member : ProjectMember} {key : Uuid × Uuid}
    (names : table.Names member key) {projectId userId : Uuid} {role : MemberRole}
    (inserted : table.insert projectId userId role = some table') :
    table'.Names member key := by
  obtain ⟨rows, nextId⟩ := insert_rows inserted
  refine ⟨?_, ?_⟩
  · rw [nextId]
    exact Nat.lt_succ_of_lt names.1
  · intro row stored same
    rw [rows] at stored
    rcases List.mem_cons.mp stored with rfl | stored
    · exact absurd same.symm (Nat.ne_of_lt names.1)
    · exact names.2 row stored same

theorem Names.delete {table : MemberTable} {member : ProjectMember} {key : Uuid × Uuid}
    (names : table.Names member key) (id : Uuid) : (table.delete id).Names member key :=
  ⟨names.1, fun row stored => names.2 row (List.mem_of_mem_filter stored)⟩

theorem Names.setRole {table : MemberTable} {member : ProjectMember} {key : Uuid × Uuid}
    (names : table.Names member key) (id : Uuid) (role : MemberRole) :
    (table.setRole id role).Names member key := by
  refine ⟨names.1, ?_⟩
  intro row stored same
  obtain ⟨old, oldStored, rfl⟩ := List.mem_map.mp stored
  rw [assign_key]
  rw [assign_id] at same
  exact names.2 old oldStored same

end MemberTable

theorem identityMapped_names {table : MemberTable} {loaded row : ProjectMember}
    (stored : row ∈ table.rows) (names : table.Names loaded row.key) :
    table.Names (identityMapped loaded row) row.key := by
  rw [identityMapped]
  split
  · exact names
  · exact MemberTable.Names.of_mem stored

/-- Two counted owners are two users, and one of them is not the one whose
instance the session keeps. -/
theorem ownerBesides_of_count {table : MemberTable} {projectId userId : Uuid}
    {loaded : ProjectMember} (names : table.Names loaded (projectId, userId))
    (counted : 1 < countOwners table projectId loaded) :
    table.OwnerBesides projectId [userId] := by
  rw [countOwners, List.countP_eq_length_filter] at counted
  match filtered : (table.listMembers projectId).filter fun row =>
      decide ((identityMapped loaded row).role = .owner), counted with
  | first :: second :: rest, _ =>
      have listed : ∀ row ∈ first :: second :: rest, row ∈ table.rows ∧
          row.projectId = projectId ∧ (identityMapped loaded row).role = .owner := by
        intro row member
        rw [← filtered, List.mem_filter, MemberTable.listMembers, List.mem_filter] at member
        exact ⟨member.1.1, of_decide_eq_true member.1.2, of_decide_eq_true member.2⟩
      have owner : ∀ row ∈ first :: second :: rest, row.userId ≠ userId →
          table.OwnerBesides projectId [userId] := by
        intro row member besides
        obtain ⟨stored, inProject, owned⟩ := listed row member
        have different : row.id ≠ loaded.id := by
          intro same
          exact besides (congrArg Prod.snd (names.2 row stored same))
        rw [identityMapped, if_neg different] at owned
        exact ⟨row, stored, inProject, owned, by simpa using besides⟩
      by_cases besides : first.userId = userId
      · apply owner second (by simp)
        intro same
        have firstListed := listed first (by simp)
        have secondListed := listed second (by simp)
        have distinct : (first :: second :: rest).Nodup := by
          rw [← filtered]
          exact ((table.users.of_map _).filter _).filter _
        have equal : first = second := by
          apply MemberTable.eq_of_key firstListed.1 secondListed.1
          rw [ProjectMember.key, ProjectMember.key, firstListed.2.1, secondListed.2.1, besides,
            same]
        rw [equal] at distinct
        simp at distinct
      · exact owner first (by simp) besides

/-- The transaction has passed the guard and has not ended. -/
def MemberPhase.Checked : MemberPhase → Bool
  | .selecting _ => true
  | .flushing _ => true
  | .written _ => true
  | _ => false

def MemberPhase.IsWritten : MemberPhase → Bool
  | .written _ => true
  | _ => false

namespace MemberOperation

/-- The operation takes ownership away in the project. -/
def RemovesFrom (operation : MemberOperation) (projectId : Uuid) : Prop :=
  operation.Removes = true ∧ operation.projectId = projectId

instance (operation : MemberOperation) (projectId : Uuid) :
    Decidable (operation.RemovesFrom projectId) :=
  inferInstanceAs (Decidable (_ ∧ _))

def key (operation : MemberOperation) : Uuid × Uuid :=
  (operation.projectId, operation.userId)

/-- What a transaction in progress relies on. -/
structure Relies (projectId : Uuid) (operation : MemberOperation) (table : MemberTable)
    (phase : MemberPhase) : Prop where
  names : ∀ member, phase = .counting member ∨ phase = .selecting member ∨
    phase = .flushing member ∨ phase = .written member → table.Names member operation.key
  besides : phase.Checked = true → operation.RemovesFrom projectId →
    table.OwnerBesides projectId [operation.userId]

end MemberOperation

/-- When a removal commits while another one has passed its guard, an owner is
left who is the target of neither. -/
def LeavesOwner {τ : Type} (operations : τ → MemberOperation) (projectId : Uuid)
    (database : MemberDatabase τ) (action : Action τ) : Prop :=
  ∀ transaction, action = .advance transaction →
    (operations transaction).RemovesFrom projectId →
    (database.phase transaction).IsWritten = true →
    ∀ other, other ≠ transaction → (operations other).RemovesFrom projectId →
      (database.phase other).Checked = true →
      database.committed.OwnerBesides projectId
        [(operations transaction).userId, (operations other).userId]

namespace MemberOperation

variable {operation : MemberOperation} {table table' : MemberTable} {phase : MemberPhase}

theorem program_commit (committed : operation.program table phase = .commit table') :
    table' = table ∨
    (∃ project user role, table.insert project user role = some table') ∨
    (∃ member role, phase = .written member ∧ table' = table.setRole member.id role ∧
      (operation.Removes = false → role = .owner)) ∨
    (∃ member, phase = .written member ∧ table' = table.delete member.id ∧
      operation.Removes = true) := by
  cases phase with
  | begin =>
      simp only [program] at committed
      cases checked : operation.checkMember
          (table.getMember operation.projectId operation.userId) with
      | error failure =>
          rw [checked] at committed
          cases committed
      | ok found =>
          rw [checked] at committed
          cases found with
          | none => cases committed
          | some member =>
              simp only [goOrAbort] at committed
              split at committed <;> cases committed
  | counting loaded =>
      simp only [program] at committed
      cases checked : checkOwners operation (countOwners table operation.projectId loaded) with
      | error failure =>
          rw [checked] at committed
          cases committed
      | ok passed =>
          rw [checked] at committed
          cases committed
  | selecting loaded =>
      simp only [program] at committed
      split at committed <;> cases committed
  | flushing member =>
      cases operation with
      | addMember project user role => cases committed
      | removeMember project user =>
          simp only [program] at committed
          split at committed
          · cases committed
          · cases committed
            exact .inl rfl
      | updateMemberRole project user role =>
          simp only [program] at committed
          split at committed
          · cases committed
            exact .inl rfl
          · split at committed <;> cases committed
  | written member =>
      cases operation with
      | addMember project user role => cases committed
      | removeMember project user =>
          cases committed
          exact .inr (.inr (.inr ⟨member, rfl, rfl, rfl⟩))
      | updateMemberRole project user role =>
          cases committed
          refine .inr (.inr (.inl ⟨member, role, rfl, rfl, ?_⟩))
          intro keeps
          simpa [Removes] using keeps
  | adding => cases committed
  | inserted =>
      cases operation with
      | removeMember project user => cases committed
      | updateMemberRole project user role => cases committed
      | addMember project user role =>
          simp only [program] at committed
          split at committed
          · cases committed
          · rename_i inserted
            cases committed
            exact .inr (.inl ⟨project, user, role, inserted⟩)
  | ended => cases committed

/-- A commit keeps every ownership but that of its own target, and that too
unless it takes ownership away. -/
theorem owns_of_commit {projectId : Uuid} (relies : operation.Relies projectId table phase)
    (committed : operation.program table phase = .commit table') {key : Uuid × Uuid}
    (owns : table.Owns key) (other : operation.Removes = false ∨ key ≠ operation.key) :
    table'.Owns key := by
  have target : ∀ member, phase = .written member → key ≠ operation.key →
      ∀ row ∈ table.rows, row.id = member.id → row.key ≠ key := by
    intro member written different row stored same
    rw [(relies.names member (.inr (.inr (.inr written)))).2 row stored same]
    exact different.symm
  rcases program_commit committed with rfl | ⟨_, _, _, inserted⟩ |
    ⟨member, role, written, rfl, promotes⟩ | ⟨member, written, rfl, removes⟩
  · exact owns
  · exact owns.insert inserted
  · apply owns.setRole
    rcases other with keeps | different
    · exact .inl (promotes keeps)
    · exact .inr (target member written different)
  · rcases other with keeps | different
    · rw [removes] at keeps
      cases keeps
    · exact owns.delete (target member written different)

theorem names_of_commit (committed : operation.program table phase = .commit table')
    {member : ProjectMember} {key : Uuid × Uuid} (names : table.Names member key) :
    table'.Names member key := by
  rcases program_commit committed with rfl | ⟨_, _, _, inserted⟩ |
    ⟨written, role, _, rfl, _⟩ | ⟨written, _, rfl, _⟩
  · exact names
  · exact names.insert inserted
  · exact names.setRole written.id role
  · exact names.delete written.id

theorem Relies.of_commit {projectId : Uuid} {other : MemberOperation} {otherPhase : MemberPhase}
    (relies : other.Relies projectId table otherPhase)
    (committed : operation.program table phase = .commit table')
    (besides : otherPhase.Checked = true → other.RemovesFrom projectId →
      table'.OwnerBesides projectId [other.userId]) :
    other.Relies projectId table' otherPhase :=
  ⟨fun member named => names_of_commit committed (relies.names member named), besides⟩

theorem Relies.of_idle {projectId : Uuid}
    (idle : phase = .begin ∨ phase = .adding ∨ phase = .inserted ∨ phase = .ended) :
    operation.Relies projectId table phase := by
  rcases idle with rfl | rfl | rfl | rfl
  · exact ⟨by simp, by simp [MemberPhase.Checked]⟩
  · exact ⟨by simp, by simp [MemberPhase.Checked]⟩
  · exact ⟨by simp, by simp [MemberPhase.Checked]⟩
  · exact ⟨by simp, by simp [MemberPhase.Checked]⟩

theorem Relies.checked {projectId : Uuid} {member : ProjectMember}
    (named : phase = .selecting member ∨ phase = .flushing member ∨ phase = .written member)
    (names : table.Names member operation.key)
    (besides : operation.RemovesFrom projectId →
      table.OwnerBesides projectId [operation.userId]) :
    operation.Relies projectId table phase := by
  refine ⟨?_, fun _ => besides⟩
  intro other same
  have equal : member = other := by
    rcases named with rfl | rfl | rfl <;> simpa using same
  rw [← equal]
  exact names

theorem besides_of_member {projectId : Uuid} {member : ProjectMember}
    (found : table.getMember operation.projectId operation.userId = some member)
    (unguarded : ¬ (member.role = .owner ∧ operation.Removes = true))
    (owned : table.HasOwner projectId) (removes : operation.RemovesFrom projectId) :
    table.OwnerBesides projectId [operation.userId] := by
  obtain ⟨stored, sameKey⟩ := MemberTable.getMember_some found
  obtain ⟨row, rowStored, inProject, owner⟩ := owned
  refine ⟨row, rowStored, inProject, owner, ?_⟩
  intro sameUser
  have equal : row = member := by
    apply MemberTable.eq_of_key rowStored stored
    rw [sameKey, ProjectMember.key, inProject, removes.2, List.mem_singleton.mp sameUser]
  rw [equal] at owner
  exact unguarded ⟨owner, removes.1⟩

theorem loaded_keeps {projectId : Uuid} (owned : table.HasOwner projectId)
    (Others : MemberTable → Prop) (held : Uuid × Uuid → Prop) {member : ProjectMember}
    (found : table.getMember operation.projectId operation.userId = some member) :
    (if member.role = .owner ∧ operation.Removes = true then
      (.go (.counting member) : MemberMove) else .go (.selecting member)).Keeps
      (fun table => table.HasOwner projectId) Others
      (fun table _ phase => operation.Relies projectId table phase) table held := by
  have names : table.Names member operation.key := by
    obtain ⟨stored, sameKey⟩ := MemberTable.getMember_some found
    rw [key, ← sameKey]
    exact MemberTable.Names.of_mem stored
  split
  · refine ⟨?_, by simp [MemberPhase.Checked]⟩
    intro other same
    have equal : other = member := by simpa [eq_comm] using same
    rw [equal]
    exact names
  · rename_i unguarded
    exact Relies.checked (.inl rfl) names (besides_of_member found unguarded owned)

theorem program_keeps {projectId : Uuid} (relies : operation.Relies projectId table phase)
    (owned : table.HasOwner projectId) (Others : MemberTable → Prop) (held : Uuid × Uuid → Prop)
    (commits : ∀ table', operation.program table phase = .commit table' →
      table'.HasOwner projectId ∧ Others table') :
    (operation.program table phase).Keeps (fun table => table.HasOwner projectId) Others
      (fun table _ phase => operation.Relies projectId table phase) table held := by
  cases phase with
  | begin =>
      simp only [program]
      cases found : table.getMember operation.projectId operation.userId with
      | none =>
          cases operation with
          | addMember project user role => exact Relies.of_idle (by simp)
          | removeMember project user => trivial
          | updateMemberRole project user role => trivial
      | some member =>
          cases operation with
          | addMember project user role => trivial
          | removeMember project user => exact loaded_keeps owned Others held found
          | updateMemberRole project user role => exact loaded_keeps owned Others held found
  | counting loaded =>
      have names := relies.names loaded (.inl rfl)
      simp only [program, checkOwners]
      split
      · trivial
      · rename_i counted
        apply Relies.checked (.inl rfl) names
        intro removes
        rw [← removes.2]
        exact ownerBesides_of_count names (by omega)
  | selecting loaded =>
      simp only [program]
      split
      · trivial
      · rename_i row found
        obtain ⟨stored, sameKey⟩ := MemberTable.getMember_some found
        have names := relies.names loaded (.inr (.inl rfl))
        apply Relies.checked (.inr (.inl rfl)) ?_ (relies.besides rfl)
        rw [key, ← sameKey] at names ⊢
        exact identityMapped_names stored names
  | flushing member =>
      have next : operation.Relies projectId table (.written member) :=
        Relies.checked (.inr (.inr rfl)) (relies.names member (.inr (.inr (.inl rfl))))
          (relies.besides rfl)
      cases operation with
      | addMember project user role => trivial
      | removeMember project user =>
          simp only [program] at commits ⊢
          split
          · exact next
          · rename_i absent
            exact commits table (if_neg absent)
      | updateMemberRole project user role =>
          simp only [program] at commits ⊢
          split
          · rename_i same
            exact commits table (if_pos same)
          · split
            · exact next
            · trivial
  | written member =>
      cases operation with
      | addMember project user role => trivial
      | removeMember project user => exact commits _ rfl
      | updateMemberRole project user role => exact commits _ rfl
  | adding => exact Relies.of_idle (by simp)
  | inserted =>
      cases operation with
      | removeMember project user => trivial
      | updateMemberRole project user role => trivial
      | addMember project user role =>
          simp only [program] at commits ⊢
          split
          · trivial
          · rename_i table' inserted
            apply commits table'
            rw [inserted]
  | ended => trivial

end MemberOperation

section Runs

variable {τ : Type} [DecidableEq τ] {operations : τ → MemberOperation} {projectId : Uuid}

/-- The project has an owner, and every transaction in progress what it relies
on. -/
def Kept (operations : τ → MemberOperation) (projectId : Uuid) (database : MemberDatabase τ) :
    Prop :=
  database.Consistent (fun table => table.HasOwner projectId)
    fun transaction table _ phase => (operations transaction).Relies projectId table phase

theorem Kept.perform {database : MemberDatabase τ} (kept : Kept operations projectId database)
    {action : Action τ} (leaves : LeavesOwner operations projectId database action) :
    Kept operations projectId (performMemberships operations database action) := by
  apply Database.Consistent.step kept action
  · intro transaction table held
    exact MemberOperation.Relies.of_idle (by simp)
  · intro transaction scheduled
    have own := kept.transactions transaction
    apply MemberOperation.program_keeps own kept.store
    intro table' committed
    have owns : ∀ key, database.committed.Owns key → (operations transaction).Removes = false ∨
        key ≠ (operations transaction).key → table'.Owns key :=
      fun key owner other => MemberOperation.owns_of_commit own committed owner other
    by_cases removal : (operations transaction).RemovesFrom projectId ∧
        (database.phase transaction).IsWritten = true
    · obtain ⟨removes, written⟩ := removal
      have remains : ∀ users, database.committed.OwnerBesides projectId
          ((operations transaction).userId :: users) → table'.OwnerBesides projectId users := by
        intro users besides
        obtain ⟨user, notListed, owner⟩ := MemberTable.ownerBesides_iff.mp besides
        rw [List.mem_cons, not_or] at notListed
        refine MemberTable.ownerBesides_iff.mpr ⟨user, notListed.2, owns _ owner (.inr ?_)⟩
        intro same
        exact notListed.1 (congrArg Prod.snd same)
      have checked : (database.phase transaction).Checked = true := by
        cases phase : database.phase transaction <;>
          simp_all [MemberPhase.IsWritten, MemberPhase.Checked]
      refine ⟨?_, ?_⟩
      · obtain ⟨row, stored, inProject, owner, _⟩ := remains [] (own.besides checked removes)
        exact ⟨row, stored, inProject, owner⟩
      · intro other different
        apply (kept.transactions other).of_commit committed
        intro otherChecked otherRemoves
        exact remains _ (leaves transaction scheduled removes written other different
          otherRemoves otherChecked)
    · have keeps : ∀ key : Uuid × Uuid, key.1 = projectId → database.committed.Owns key →
          table'.Owns key := by
        intro key inProject owner
        rcases MemberOperation.program_commit committed with rfl | ⟨_, _, _, inserted⟩ |
          ⟨member, role, written, _⟩ | ⟨member, written, _⟩
        · exact owner
        · exact owner.insert inserted
        all_goals
          apply owns key owner
          by_cases removes : (operations transaction).Removes = true
          · right
            intro same
            apply removal
            rw [written]
            exact ⟨⟨removes, by rw [← inProject, same]; rfl⟩, rfl⟩
          · left
            simpa using removes
      refine ⟨?_, ?_⟩
      · obtain ⟨user, owner⟩ := MemberTable.hasOwner_iff.mp kept.store
        exact MemberTable.hasOwner_iff.mpr ⟨user, keeps _ rfl owner⟩
      · intro other different
        have relies := kept.transactions other
        apply relies.of_commit committed
        intro otherChecked otherRemoves
        obtain ⟨user, besides, owner⟩ :=
          MemberTable.ownerBesides_iff.mp (relies.besides otherChecked otherRemoves)
        exact MemberTable.ownerBesides_iff.mpr ⟨user, besides, keeps _ rfl owner⟩

/-- A project that has an owner has one after every commit of concurrent
additions, removals and role changes, as long as two removals that overlap
leave an owner who is the target of neither. -/
theorem project_keeps_owner {table : MemberTable} (owned : table.HasOwner projectId)
    {actions : List (Action τ)} {database : MemberDatabase τ}
    (run : GuardedRun (performMemberships operations) (LeavesOwner operations projectId)
      (Database.start table .begin) actions database) :
    database.committed.HasOwner projectId := by
  have kept := run.invariant (Kept operations projectId)
    ⟨owned, fun _ => MemberOperation.Relies.of_idle (.inl rfl)⟩
    (fun kept leaves => kept.perform leaves)
  exact kept.store

/-- Three owners, two of whom are removed at the same time. -/
def threeOwners : MemberTable :=
  { rows := [⟨0, 7, 1, .owner⟩, ⟨1, 7, 2, .owner⟩, ⟨2, 7, 3, .owner⟩]
    nextId := 3
    bounded := by decide
    ids := by decide
    users := by decide }

/-- Each of two owners is removed by a request of its own. -/
def removals : Bool → MemberOperation
  | false => .removeMember 7 1
  | true => .removeMember 7 2

/-- Both requests count the owners before either deletes a row. -/
def overlapping : List (Action Bool) :=
  [.advance false, .advance true, .advance false, .advance true, .advance false, .advance false,
    .advance true, .advance true, .advance false, .advance true]

instance leavesOwnerDecidable (operations : Bool → MemberOperation) (projectId : Uuid)
    (database : MemberDatabase Bool) (action : Action Bool) :
    Decidable (LeavesOwner operations projectId database action) :=
  inferInstanceAs (Decidable (∀ _, _))

theorem project_keeps_owner_of_three :
    (overlapping.foldl (performMemberships removals)
      (Database.start threeOwners .begin)).committed.HasOwner 7 :=
  project_keeps_owner (by decide) (GuardedRun.of_allowedAlong (by decide +kernel))

/-- The table of a project with two owners. -/
def twoOwners : MemberTable :=
  { rows := [⟨0, 7, 1, .owner⟩, ⟨1, 7, 2, .owner⟩]
    nextId := 2
    bounded := by decide
    ids := by decide
    users := by decide }

/-- Two requests that each remove one of two owners both pass the guard and
leave none. -/
theorem two_removals_leave_no_owner :
    twoOwners.HasOwner 7 ∧
      ¬ (overlapping.foldl (performMemberships removals)
        (Database.start twoOwners .begin)).committed.HasOwner 7 := by
  decide +kernel

end Runs

end OpenZync.Projects
