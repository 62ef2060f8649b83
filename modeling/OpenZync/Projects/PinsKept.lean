import OpenZync.Projects.Pins

/-!
# Pins within their limits

Two pins of one user never count at the same time, so the limit holds in every
run.  That no pin outlives the archiving of its project, and that a pinned
project is not refused, needs that archiving and pinning do not overlap.
-/

namespace OpenZync.Projects

open OpenZync.Library

namespace PinStore

/-- `MAX_PINS` for each user in each organization. -/
def WithinLimit (store : PinStore) : Prop :=
  ∀ organizationId userId, store.countForUser organizationId userId ≤ maxPins

def ArchivedUnpinned (store : PinStore) : Prop :=
  ∀ pin ∈ store.pins, ∀ project ∈ store.projects, project.id = pin.projectId →
    project.isArchived = false

instance (store : PinStore) : Decidable store.ArchivedUnpinned :=
  inferInstanceAs (Decidable (∀ pin ∈ store.pins, _))

/-- The project exists and is not archived. -/
def Live (store : PinStore) (organizationId projectId : Uuid) : Prop :=
  ∃ row ∈ store.projects, row.id = projectId ∧ row.organizationId = organizationId ∧
    row.isArchived = false

variable {store store' : PinStore} {organizationId userId projectId : Uuid}

theorem live_of_getById {row : ProjectRow}
    (found : store.getById organizationId projectId = some row) :
    store.Live organizationId projectId := by
  obtain ⟨stored, meets⟩ := lookup_some found
  exact ⟨row, stored, meets⟩

theorem insert_some (inserted : store.insert organizationId userId projectId = some store') :
    store'.projects = store.projects ∧
      store'.pins = ⟨store.nextId, organizationId, userId, projectId⟩ :: store.pins := by
  rw [insert] at inserted
  split at inserted
  · cases inserted
  · cases inserted
    exact ⟨rfl, rfl⟩

theorem countForUser_insert
    (inserted : store.insert organizationId userId projectId = some store')
    (otherOrg otherUser : Uuid) :
    store'.countForUser otherOrg otherUser = store.countForUser otherOrg otherUser +
      if organizationId = otherOrg ∧ userId = otherUser then 1 else 0 := by
  rw [countForUser, (insert_some inserted).2, List.countP_cons, countForUser]
  simp only [decide_eq_true_eq]

theorem countForUser_delete_le (ids : List Uuid) :
    (store.delete ids).countForUser organizationId userId ≤
      store.countForUser organizationId userId :=
  List.filter_sublist.countP_le

theorem live_setArchived_of_ne {other : Uuid} (different : other ≠ projectId) (archived : Bool)
    (live : store.Live organizationId other) :
    (store.setArchived projectId archived).Live organizationId other := by
  obtain ⟨row, stored, same, inOrg, active⟩ := live
  refine ⟨row, ?_, same, inOrg, active⟩
  refine List.mem_map.mpr ⟨row, stored, ?_⟩
  rw [archiveRow, if_neg]
  rw [same]
  exact different

theorem live_unarchive {other : Uuid} (live : store.Live organizationId other) :
    (store.setArchived projectId false).Live organizationId other := by
  obtain ⟨row, stored, same, inOrg, active⟩ := live
  refine ⟨archiveRow projectId false row, List.mem_map_of_mem stored, ?_⟩
  rw [archiveRow]
  split
  · exact ⟨same, inOrg, rfl⟩
  · exact ⟨same, inOrg, active⟩

theorem ArchivedUnpinned.insert (unpinned : store.ArchivedUnpinned)
    (live : store.Live organizationId projectId)
    (inserted : store.insert organizationId userId projectId = some store') :
    store'.ArchivedUnpinned := by
  obtain ⟨projects, pins⟩ := insert_some inserted
  intro pin member project stored same
  rw [pins] at member
  rw [projects] at stored
  rcases List.mem_cons.mp member with rfl | member
  · obtain ⟨row, rowStored, sameId, _, active⟩ := live
    have equal : project = row :=
      List.inj_on_of_nodup_map store.projectIds stored rowStored (same.trans sameId.symm)
    rw [equal]
    exact active
  · exact unpinned pin member project stored same

theorem ArchivedUnpinned.delete (unpinned : store.ArchivedUnpinned) (ids : List Uuid) :
    (store.delete ids).ArchivedUnpinned := by
  intro pin member project stored same
  exact unpinned pin (List.mem_of_mem_filter member) project stored same

theorem ArchivedUnpinned.unarchive (unpinned : store.ArchivedUnpinned) :
    (store.setArchived projectId false).ArchivedUnpinned := by
  intro pin member project stored same
  obtain ⟨row, rowStored, rfl⟩ := List.mem_map.mp stored
  rw [archiveRow_id] at same
  rw [archiveRow]
  split
  · rfl
  · exact unpinned pin member row rowStored same

theorem ArchivedUnpinned.archive (unpinned : store.ArchivedUnpinned) {ids : List Uuid}
    (all : ∀ pin ∈ store.pins, pin.projectId = projectId → pin.id ∈ ids) :
    ((store.setArchived projectId true).delete ids).ArchivedUnpinned := by
  intro pin member project stored same
  obtain ⟨row, rowStored, rfl⟩ := List.mem_map.mp stored
  obtain ⟨pinStored, kept⟩ := List.mem_filter.mp member
  rw [archiveRow_id] at same
  rw [archiveRow, if_neg]
  · exact unpinned pin pinStored row rowStored same
  · intro archived
    exact of_decide_eq_true kept (all pin pinStored (same.symm.trans archived))

end PinStore

/-- The call has found its project and has not ended. -/
def PinPhase.Checked : PinPhase → Bool
  | .checkingMember => true
  | .checkingPinned => true
  | .locking => true
  | .counting _ => true
  | .inserting => true
  | .inserted => true
  | _ => false

/-- The call has taken the advisory lock and may insert. -/
def PinPhase.Locked : PinPhase → Bool
  | .counting _ => true
  | .inserting => true
  | .inserted => true
  | _ => false

/-- The organization, the user and the project of a pin. -/
def PinOperation.pins : PinOperation → Option (Uuid × Uuid × Uuid)
  | .pinProject organizationId userId projectId _ => some (organizationId, userId, projectId)
  | _ => none

/-- The project that is archived. -/
def PinOperation.archives : PinOperation → Option Uuid
  | .archiveProject _ projectId => some projectId
  | _ => none

/-- The rows of a `DELETE` that has locked them all. -/
def PinPhase.deletes : PinPhase → Option (List Uuid)
  | .deleting ids [] => some ids
  | _ => none

section Condition

variable (hashtext : Text → BitVec 32)

/-- What the locked part of `pin_if_under_limit` needs. -/
def PinOperation.lockNeeded (operation : PinOperation) (phase : PinPhase) :
    Option (BitVec 32) :=
  if phase.Locked = true then
    operation.pins.map fun target => hashtext (pinLockKey target.1 target.2.1)
  else none

/-- When a project is archived, nobody is about to pin it and its committed pins
are deleted; and who takes the lock for a project that is pinned has room for
another pin. -/
def PinsSettled {τ : Type} (operations : τ → PinOperation) (database : PinDatabase τ) :
    Action τ → Prop
  | .advance transaction =>
      (∀ projectId ∈ (operations transaction).archives,
        ∀ ids ∈ (database.phase transaction).deletes,
          (∀ pin ∈ database.committed.pins, pin.projectId = projectId → pin.id ∈ ids) ∧
          ∀ other, (operations other).pins.map (fun target => target.2.2) = some projectId →
            (database.phase other).Checked = false) ∧
      ∀ target ∈ (operations transaction).pins, database.phase transaction = .locking →
        (database.advisory (hashtext (pinLockKey target.1 target.2.1)) = none ∨
          database.advisory (hashtext (pinLockKey target.1 target.2.1)) = some transaction) →
        database.committed.isPinned target.1 target.2.1 target.2.2 = true →
        database.committed.countForUser target.1 target.2.1 < maxPins
  | .abort _ => True

end Condition

/-- What a transaction in progress relies on. -/
structure PinOperation.Relies (operation : PinOperation) (store : PinStore) (phase : PinPhase) :
    Prop where
  live : ∀ target ∈ operation.pins, phase.Checked = true → store.Live target.1 target.2.2
  room : ∀ target ∈ operation.pins,
    phase = .counting true ∨ phase = .inserting ∨ phase = .inserted →
      store.countForUser target.1 target.2.1 < maxPins
  refused : ∀ error, phase ≠ .refused error true

namespace PinOperation

variable {hashtext : Text → BitVec 32} {operation : PinOperation} {store store' : PinStore}
  {phase : PinPhase}

theorem Relies.of_unchecked (unchecked : phase.Checked = false)
    (refused : ∀ error, phase ≠ .refused error true) : operation.Relies store phase := by
  refine ⟨?_, ?_, refused⟩
  · intro target _ checked
    rw [unchecked] at checked
    cases checked
  · intro target _ locked
    rcases locked with rfl | rfl | rfl
    · cases unchecked
    · cases unchecked
    · cases unchecked

theorem Relies.of_no_pins (none : operation.pins = none)
    (refused : ∀ error, phase ≠ .refused error true) : operation.Relies store phase := by
  refine ⟨?_, ?_, refused⟩
  · intro target pins
    rw [none] at pins
    cases pins
  · intro target pins
    rw [none] at pins
    cases pins

/-- A commit of another transaction that leaves the project as it is and gives
no new pin to the user. -/
theorem Relies.later (relies : operation.Relies store phase)
    (live : ∀ target ∈ operation.pins, phase.Checked = true →
      store.Live target.1 target.2.2 → store'.Live target.1 target.2.2)
    (counts : ∀ target ∈ operation.pins, phase.Locked = true →
      store'.countForUser target.1 target.2.1 ≤ store.countForUser target.1 target.2.1) :
    operation.Relies store' phase := by
  refine ⟨?_, ?_, relies.refused⟩
  · intro target pins checked
    exact live target pins checked (relies.live target pins checked)
  · intro target pins locked
    have counted : phase.Locked = true := by
      rcases locked with rfl | rfl | rfl
      · rfl
      · rfl
      · rfl
    exact Nat.lt_of_le_of_lt (counts target pins counted) (relies.room target pins locked)

theorem acquires_of_no_pins (none : operation.pins = none) (move : PinMove) :
    move.Acquires (operation.lockNeeded hashtext) phase := by
  have free : ∀ phase, operation.lockNeeded hashtext phase = Option.none := by
    intro phase
    rw [lockNeeded, none]
    split
    · rfl
    · rfl
  cases move with
  | go next =>
      intro key needed
      rw [free] at needed
      cases needed
  | lockRow row next =>
      intro key needed
      rw [free] at needed
      cases needed
  | lockAdvisory taken next =>
      intro key needed
      rw [free] at needed
      cases needed
  | stay => trivial
  | commit store => trivial
  | abort => trivial

theorem pinProgram_acquires {organizationId userId projectId : Uuid} {isMember : Bool} :
    (pinProgram hashtext organizationId userId projectId isMember store phase).Acquires
      ((pinProject organizationId userId projectId isMember).lockNeeded hashtext) phase := by
  cases phase with
  | begin =>
      simp only [pinProgram]
      split
      · intro key needed
        cases needed
      · split
        · intro key needed
          cases needed
        · intro key needed
          cases needed
  | checkingMember =>
      simp only [pinProgram]
      split
      · intro key needed
        cases needed
      · intro key needed
        cases needed
  | checkingPinned =>
      simp only [pinProgram]
      split
      · trivial
      · intro key needed
        cases needed
  | locking =>
      intro key needed
      cases needed
      exact .inl rfl
  | counting pinned =>
      simp only [pinProgram]
      split
      · intro key needed
        exact needed
      · intro key needed
        cases needed
  | inserting =>
      simp only [pinProgram]
      split
      · intro key needed
        cases needed
      · intro key needed
        exact needed
  | inserted =>
      simp only [pinProgram]
      split
      · intro key needed
        cases needed
      · trivial
  | conflicting =>
      simp only [pinProgram]
      split
      · trivial
      · trivial
  | refused error pinned => trivial
  | archiving => trivial
  | unarchiving => trivial
  | deleting ids todo => trivial
  | ended => trivial

theorem program_locking {target : Uuid × Uuid × Uuid} (pins : operation.pins = some target) :
    operation.program hashtext store .locking =
      .lockAdvisory (hashtext (pinLockKey target.1 target.2.1))
        (.counting (store.isPinned target.1 target.2.1 target.2.2)) := by
  cases operation with
  | pinProject organizationId userId projectId isMember =>
      cases pins
      rfl
  | unpinProject organizationId userId projectId => cases pins
  | archiveProject organizationId projectId => cases pins
  | unarchiveProject organizationId projectId => cases pins

theorem program_acquires (operation : PinOperation) (store : PinStore) (phase : PinPhase) :
    (operation.program hashtext store phase).Acquires (operation.lockNeeded hashtext) phase := by
  cases operation with
  | pinProject organizationId userId projectId isMember => exact pinProgram_acquires
  | unpinProject organizationId userId projectId => exact acquires_of_no_pins rfl _
  | archiveProject organizationId projectId => exact acquires_of_no_pins rfl _
  | unarchiveProject organizationId projectId => exact acquires_of_no_pins rfl _

/-- What a commit can leave: the store as it was, a new pin, or the store
without some pins, whose project is then archived, or with a project restored. -/
inductive Commit (operation : PinOperation) (store : PinStore) (phase : PinPhase) :
    PinStore → Prop where
  | same : Commit operation store phase store
  | pin {organizationId userId projectId : Uuid} {store' : PinStore}
      (target : operation.pins = some (organizationId, userId, projectId))
      (locked : phase = .inserted)
      (inserted : store.insert organizationId userId projectId = some store') :
      Commit operation store phase store'
  | unpin (ids : List Uuid) : Commit operation store phase (store.delete ids)
  | archive (organizationId projectId : Uuid) (ids : List Uuid)
      (archives : operation = .archiveProject organizationId projectId)
      (locked : phase = .deleting ids []) :
      Commit operation store phase ((store.setArchived projectId true).delete ids)
  | unarchive (projectId : Uuid) : Commit operation store phase (store.setArchived projectId false)

theorem pinProgram_commit {organizationId userId projectId : Uuid} {isMember : Bool}
    (committed : pinProgram hashtext organizationId userId projectId isMember store phase =
      .commit store') :
    (pinProject organizationId userId projectId isMember).Commit store phase store' := by
  cases phase with
  | begin =>
      simp only [pinProgram] at committed
      split at committed
      · cases committed
      · split at committed
        · cases committed
        · cases committed
  | checkingMember =>
      simp only [pinProgram] at committed
      split at committed
      · cases committed
      · cases committed
  | checkingPinned =>
      simp only [pinProgram] at committed
      split at committed
      · cases committed
        exact .same
      · cases committed
  | locking => cases committed
  | counting pinned =>
      simp only [pinProgram] at committed
      split at committed
      · cases committed
      · cases committed
  | inserting =>
      simp only [pinProgram] at committed
      split at committed
      · cases committed
      · cases committed
  | inserted =>
      simp only [pinProgram] at committed
      split at committed
      · cases committed
      · rename_i later inserted
        cases committed
        exact .pin rfl rfl inserted
  | conflicting =>
      simp only [pinProgram] at committed
      split at committed
      · cases committed
      · cases committed
        exact .same
  | refused error pinned => cases committed
  | archiving => cases committed
  | unarchiving => cases committed
  | deleting ids todo => cases committed
  | ended => cases committed

theorem unpinProgram_commit {organizationId userId projectId : Uuid}
    (committed : unpinProgram organizationId userId projectId store phase =
      .commit store') :
    (unpinProject organizationId userId projectId).Commit store phase store' := by
  simp only [unpinProgram] at committed
  split at committed
  · split at committed
    · cases committed
      exact .same
    · cases committed
  · rw [PinStore.lockNext] at committed
    split at committed
    · cases committed
    · cases committed
  · cases committed
    exact .unpin _
  · cases committed

theorem archiveProgram_commit {organizationId projectId : Uuid}
    (committed : archiveProgram organizationId projectId store phase =
      .commit store') :
    (archiveProject organizationId projectId).Commit store phase store' := by
  simp only [archiveProgram] at committed
  split at committed
  · split at committed
    · cases committed
    · cases committed
  · cases committed
  · rw [PinStore.lockNext] at committed
    split at committed
    · cases committed
    · cases committed
  · cases committed
    exact .archive organizationId projectId _ rfl rfl
  · cases committed
  · cases committed

theorem unarchiveProgram_commit {organizationId projectId : Uuid}
    (committed : unarchiveProgram organizationId projectId store phase =
      .commit store') :
    (unarchiveProject organizationId projectId).Commit store phase store' := by
  simp only [unarchiveProgram] at committed
  split at committed
  · split at committed
    · cases committed
    · split at committed
      · cases committed
      · cases committed
        exact .same
  · cases committed
    exact .unarchive projectId
  · cases committed
  · cases committed

theorem program_commit (committed : operation.program hashtext store phase = .commit store') :
    operation.Commit store phase store' := by
  cases operation with
  | pinProject organizationId userId projectId isMember => exact pinProgram_commit committed
  | unpinProject organizationId userId projectId => exact unpinProgram_commit committed
  | archiveProject organizationId projectId => exact archiveProgram_commit committed
  | unarchiveProject organizationId projectId => exact unarchiveProgram_commit committed

theorem pinProgram_keeps {organizationId userId projectId : Uuid} {isMember : Bool}
    (relies : (pinProject organizationId userId projectId isMember).Relies store phase)
    (room : phase = .locking → store.isPinned organizationId userId projectId = true →
      store.countForUser organizationId userId < maxPins)
    {Store Others : PinStore → Prop} {held : PinRow → Prop}
    (commits : ∀ store',
      pinProgram hashtext organizationId userId projectId isMember store phase = .commit store' →
        Store store' ∧ Others store') :
    (pinProgram hashtext organizationId userId projectId isMember store phase).Keeps Store Others
      (fun store _ phase =>
        (pinProject organizationId userId projectId isMember).Relies store phase) store held := by
  have checked : ∀ next : PinPhase, phase.Checked = true →
      (next = .counting true ∨ next = .inserting ∨ next = .inserted →
        store.countForUser organizationId userId < maxPins) →
      (∀ error, next ≠ .refused error true) →
      (pinProject organizationId userId projectId isMember).Relies store next := by
    intro next before counted refused
    refine ⟨?_, ?_, refused⟩
    · intro target pins _
      exact relies.live target pins before
    · intro target pins locked
      cases pins
      exact counted locked
  cases phase with
  | begin =>
      simp only [pinProgram]
      split
      · exact Relies.of_unchecked rfl (by simp)
      · rename_i row found
        split
        · exact Relies.of_unchecked rfl (by simp)
        · refine ⟨?_, ?_, by simp⟩
          · intro target pins _
            cases pins
            exact PinStore.live_of_getById found
          · intro target _ locked
            simp at locked
  | checkingMember =>
      simp only [pinProgram]
      split
      · exact checked _ rfl (by simp) (by simp)
      · exact Relies.of_unchecked rfl (by simp)
  | checkingPinned =>
      simp only [pinProgram] at commits ⊢
      split
      · rename_i pinned
        exact commits store (if_pos pinned)
      · exact checked _ rfl (by simp) (by simp)
  | locking =>
      apply checked _ rfl
      · intro counted
        apply room rfl
        simpa using counted
      · simp
  | counting pinned =>
      simp only [pinProgram]
      split
      · rename_i under
        exact checked _ rfl (fun _ => under) (by simp)
      · rename_i full
        apply Relies.of_unchecked rfl
        intro error same
        cases same
        exact full (relies.room _ rfl (.inl rfl))
  | inserting =>
      simp only [pinProgram]
      split
      · exact Relies.of_unchecked rfl (by simp)
      · exact checked _ rfl (fun _ => relies.room _ rfl (.inr (.inl rfl))) (by simp)
  | inserted =>
      simp only [pinProgram] at commits ⊢
      split
      · exact Relies.of_unchecked rfl (by simp)
      · rename_i later inserted
        apply commits later
        rw [inserted]
  | conflicting =>
      simp only [pinProgram] at commits ⊢
      split
      · trivial
      · rename_i pin found
        apply commits store
        rw [found]
  | refused error pinned => trivial
  | archiving => trivial
  | unarchiving => trivial
  | deleting ids todo => trivial
  | ended => trivial

theorem lockNext_keeps {id : Uuid} {ids todo : List Uuid} {Store Others : PinStore → Prop}
    {held : PinRow → Prop} (none : operation.pins = none) :
    (store.lockNext id (.deleting ids todo)).Keeps Store Others
      (fun store _ phase => operation.Relies store phase) store held := by
  rw [PinStore.lockNext]
  split
  · exact Relies.of_no_pins none (by simp)
  · exact Relies.of_no_pins none (by simp)

theorem program_keeps (relies : operation.Relies store phase)
    (room : ∀ target ∈ operation.pins, phase = .locking →
      store.isPinned target.1 target.2.1 target.2.2 = true →
        store.countForUser target.1 target.2.1 < maxPins)
    {Store Others : PinStore → Prop} {held : PinRow → Prop}
    (commits : ∀ store', operation.program hashtext store phase = .commit store' →
      Store store' ∧ Others store') :
    (operation.program hashtext store phase).Keeps Store Others
      (fun store _ phase => operation.Relies store phase) store held := by
  cases operation with
  | pinProject organizationId userId projectId isMember =>
      exact pinProgram_keeps relies (room _ rfl) commits
  | unpinProject organizationId userId projectId =>
      simp only [program] at commits ⊢
      cases phase with
      | begin =>
          simp only [unpinProgram] at commits ⊢
          split
          · rename_i absent
            apply commits store
            rw [absent]
          · exact Relies.of_no_pins rfl (by simp)
      | deleting ids todo =>
          cases todo with
          | nil => exact commits _ rfl
          | cons id todo => exact lockNext_keeps rfl
      | _ => trivial
  | archiveProject organizationId projectId =>
      simp only [program] at commits ⊢
      cases phase with
      | begin =>
          simp only [archiveProgram]
          split
          · exact Relies.of_no_pins rfl (by simp)
          · exact Relies.of_no_pins rfl (by simp)
      | archiving => exact Relies.of_no_pins rfl (by simp)
      | deleting ids todo =>
          cases todo with
          | nil => exact commits _ rfl
          | cons id todo => exact lockNext_keeps rfl
      | _ => trivial
  | unarchiveProject organizationId projectId =>
      simp only [program] at commits ⊢
      cases phase with
      | begin =>
          simp only [unarchiveProgram] at commits ⊢
          split
          · exact Relies.of_no_pins rfl (by simp)
          · rename_i row found
            split
            · exact Relies.of_no_pins rfl (by simp)
            · rename_i active
              apply commits store
              rw [found]
              exact if_neg active
      | unarchiving => exact commits _ rfl
      | _ => trivial

end PinOperation

section Runs

variable {τ : Type} [DecidableEq τ] {hashtext : Text → BitVec 32} {operations : τ → PinOperation}

/-- The limits hold and every transaction in progress has what it relies on. -/
def PinsKept (operations : τ → PinOperation) (database : PinDatabase τ) : Prop :=
  database.Consistent (fun store => store.WithinLimit ∧ store.ArchivedUnpinned)
    fun transaction store _ phase => (operations transaction).Relies store phase

/-- Every call in the locked part holds the lock of its user. -/
def PinLocksHeld (hashtext : Text → BitVec 32) (operations : τ → PinOperation)
    (database : PinDatabase τ) : Prop :=
  database.HoldsNeeded fun transaction => (operations transaction).lockNeeded hashtext

theorem PinLocksHeld.perform {database : PinDatabase τ}
    (holds : PinLocksHeld hashtext operations database) (action : Action τ) :
    PinLocksHeld hashtext operations (performPins hashtext operations database action) := by
  apply Database.HoldsNeeded.perform holds action
  · intro transaction
    rfl
  · intro transaction store phase
    exact (operations transaction).program_acquires store phase

omit [DecidableEq τ] in
/-- Two calls for one user are not both in the locked part. -/
theorem PinLocksHeld.unique {database : PinDatabase τ}
    (holds : PinLocksHeld hashtext operations database) {first second : τ}
    {organizationId userId firstProject secondProject : Uuid}
    (firstPins : (operations first).pins = some (organizationId, userId, firstProject))
    (secondPins : (operations second).pins = some (organizationId, userId, secondProject))
    (firstLocked : (database.phase first).Locked = true)
    (secondLocked : (database.phase second).Locked = true) : first = second := by
  have firstNeeds : (operations first).lockNeeded hashtext (database.phase first) =
      some (hashtext (pinLockKey organizationId userId)) := by
    simp only [PinOperation.lockNeeded, if_pos firstLocked, firstPins, Option.map_some]
  have secondNeeds : (operations second).lockNeeded hashtext (database.phase second) =
      some (hashtext (pinLockKey organizationId userId)) := by
    simp only [PinOperation.lockNeeded, if_pos secondLocked, secondPins, Option.map_some]
  exact Database.HoldsNeeded.unique holds firstNeeds secondNeeds

omit [DecidableEq τ] in
theorem PinsKept.commit {database : PinDatabase τ} (kept : PinsKept operations database)
    (holds : PinLocksHeld hashtext operations database) {transaction : τ}
    (settled : PinsSettled hashtext operations database (.advance transaction))
    {store' : PinStore}
    (commit : (operations transaction).Commit database.committed (database.phase transaction)
      store') :
    (store'.WithinLimit ∧ store'.ArchivedUnpinned) ∧ ∀ other, other ≠ transaction →
      (operations other).Relies store' (database.phase other) := by
  obtain ⟨within, unpinned⟩ := kept.store
  cases commit with
  | same => exact ⟨⟨within, unpinned⟩, fun other _ => kept.transactions other⟩
  | pin target locked inserted =>
      rename_i organizationId userId projectId
      have relies := kept.transactions transaction
      have live := relies.live _ target (by rw [locked]; rfl)
      have room := relies.room _ target (.inr (.inr locked))
      refine ⟨⟨?_, unpinned.insert live inserted⟩, ?_⟩
      · intro otherOrg otherUser
        rw [PinStore.countForUser_insert inserted]
        split
        · rename_i same
          rw [← same.1, ← same.2]
          exact room
        · exact within otherOrg otherUser
      · intro other different
        apply (kept.transactions other).later
        · intro otherTarget _ _ live
          rw [PinStore.Live, (PinStore.insert_some inserted).1]
          exact live
        · intro otherTarget otherPins otherLocked
          rw [PinStore.countForUser_insert inserted, if_neg]
          · exact Nat.le_refl _
          · intro same
            obtain ⟨otherOrg, otherUser, otherProject⟩ := otherTarget
            obtain ⟨rfl, rfl⟩ := same
            exact different (holds.unique otherPins target otherLocked (by rw [locked]; rfl))
  | unpin ids =>
      refine ⟨⟨?_, unpinned.delete ids⟩, ?_⟩
      · intro organizationId userId
        exact (PinStore.countForUser_delete_le ids).trans (within organizationId userId)
      · intro other _
        exact (kept.transactions other).later (fun _ _ _ live => live)
          fun _ _ _ => PinStore.countForUser_delete_le ids
  | archive organizationId projectId ids archives locked =>
      obtain ⟨all, nobody⟩ := settled.1 projectId (by rw [archives]; rfl) ids
        (by rw [locked]; rfl)
      refine ⟨⟨?_, unpinned.archive all⟩, ?_⟩
      · intro organizationId userId
        exact (PinStore.countForUser_delete_le ids).trans (within organizationId userId)
      · intro other _
        apply (kept.transactions other).later
        · intro target pins checked live
          apply PinStore.live_setArchived_of_ne ?_ true live
          intro same
          have unchecked := nobody other (by rw [pins, Option.map_some, same])
          rw [unchecked] at checked
          cases checked
        · intro target _ _
          exact PinStore.countForUser_delete_le ids
  | unarchive projectId =>
      refine ⟨⟨within, unpinned.unarchive⟩, ?_⟩
      intro other _
      exact (kept.transactions other).later (fun _ _ _ live => PinStore.live_unarchive live)
        fun _ _ _ => Nat.le_refl _

theorem PinsKept.perform {database : PinDatabase τ} (kept : PinsKept operations database)
    (holds : PinLocksHeld hashtext operations database) {action : Action τ}
    (settled : PinsSettled hashtext operations database action) :
    PinsKept operations (performPins hashtext operations database action) := by
  have ended : ∀ (transaction : τ) (store : PinStore),
      (operations transaction).Relies store .ended :=
    fun transaction store => PinOperation.Relies.of_unchecked rfl (by simp)
  cases action with
  | abort transaction =>
      apply Database.Consistent.step kept
      · exact fun transaction store _ => ended transaction store
      · intro other scheduled
        cases scheduled
  | advance transaction =>
      have moves : (∀ target ∈ (operations transaction).pins,
          database.phase transaction = .locking →
          database.committed.isPinned target.1 target.2.1 target.2.2 = true →
          database.committed.countForUser target.1 target.2.1 < maxPins) →
          PinsKept operations
            (performPins hashtext operations database (.advance transaction)) := by
        intro room
        apply Database.Consistent.step kept
        · exact fun transaction store _ => ended transaction store
        · intro other scheduled
          cases scheduled
          apply PinOperation.program_keeps (kept.transactions transaction) room
          intro store' committed
          exact kept.commit holds settled (PinOperation.program_commit committed)
      by_cases locking : database.phase transaction = .locking
      · cases pins : (operations transaction).pins with
        | none =>
            apply moves
            intro target pins'
            rw [pins] at pins'
            cases pins'
        | some target =>
            by_cases free :
                database.advisory (hashtext (pinLockKey target.1 target.2.1)) = none ∨
                  database.advisory (hashtext (pinLockKey target.1 target.2.1)) = some transaction
            · apply moves
              intro other pins' _ pinned
              have room := settled.2 other pins' locking
              rw [pins] at pins'
              cases pins'
              exact room free pinned
            · have next : (operations transaction).program hashtext database.committed
                  (database.phase transaction) =
                  .lockAdvisory (hashtext (pinLockKey target.1 target.2.1))
                    (.counting (database.committed.isPinned target.1 target.2.1 target.2.2)) := by
                rw [locking]
                exact PinOperation.program_locking pins
              have waits : performPins hashtext operations database (.advance transaction) =
                  database := by
                rw [performPins, Database.perform]
                exact Database.advance_of_blocked next free
              rw [waits]
              exact kept
      · exact moves fun _ _ same => absurd same locking

/-- In every run of concurrent pins, unpins, archivings and restorings no user
has more than `maxPins` pins in an organization, no archived project is pinned
and nobody is refused a project that was pinned when the lock was taken, as long
as a project is archived with all its pins and nobody about to pin it, and who
takes the lock for a pinned project is under the limit. -/
theorem pins_kept {store : PinStore} (within : store.WithinLimit)
    (unpinned : store.ArchivedUnpinned) {actions : List (Action τ)} {database : PinDatabase τ}
    (run : GuardedRun (performPins hashtext operations) (PinsSettled hashtext operations)
      (Database.start store .begin) actions database) :
    database.committed.WithinLimit ∧ database.committed.ArchivedUnpinned ∧
      ∀ transaction, database.phase transaction ≠ .refused .limitReached true := by
  have invariant : PinsKept operations database ∧ PinLocksHeld hashtext operations database := by
    apply run.invariant fun database =>
      PinsKept operations database ∧ PinLocksHeld hashtext operations database
    · refine ⟨⟨⟨within, unpinned⟩, ?_⟩, ?_⟩
      · intro transaction
        exact PinOperation.Relies.of_unchecked rfl (by simp [Database.start])
      · intro transaction key needed
        cases needed
    · intro source action both settled
      exact ⟨both.1.perform both.2 settled, both.2.perform action⟩
  obtain ⟨kept, _⟩ := invariant
  exact ⟨kept.store.1, kept.store.2, fun transaction =>
    (kept.transactions transaction).refused .limitReached⟩

end Runs

theorem PinStore.withinLimit_of_length {store : PinStore} (few : store.pins.length ≤ maxPins) :
    store.WithinLimit := by
  intro organizationId userId
  exact List.countP_le_length.trans few

/-- User 1 has pinned two of three projects. -/
def twoPins : PinStore :=
  { projects := [⟨5, 9, false⟩, ⟨6, 9, false⟩, ⟨7, 9, false⟩]
    pins := [⟨0, 9, 1, 6⟩, ⟨1, 9, 1, 7⟩]
    nextId := 2
    projectIds := by decide
    bounded := by decide
    ids := by decide
    users := by decide }

/-- A pin beside the archiving of a project that the user has pinned before. -/
def pinAndArchive : Bool → PinOperation
  | false => .pinProject 9 1 5 true
  | true => .archiveProject 9 6

instance PinsSettled.decidable (operations : Bool → PinOperation)
    (database : PinDatabase Bool) :
    ∀ action, Decidable (PinsSettled (fun _ => 0) operations database action)
  | .advance _ => inferInstanceAs (Decidable ((∀ projectId ∈ _, ∀ ids ∈ _, _ ∧ ∀ _other, _) ∧
      ∀ target ∈ _, _ → _ → _ → _))
  | .abort _ => .isTrue trivial

/-- The two requests take turns. -/
def inTurns : List (Action Bool) :=
  [.advance false, .advance true, .advance false, .advance true, .advance false, .advance true,
    .advance false, .advance true, .advance false, .advance false, .advance false]

theorem pins_kept_of_archiving :
    (inTurns.foldl (performPins (fun _ => 0) pinAndArchive)
      (Database.start twoPins .begin)).committed.WithinLimit ∧
    (inTurns.foldl (performPins (fun _ => 0) pinAndArchive)
      (Database.start twoPins .begin)).committed.ArchivedUnpinned ∧
    (∀ transaction, (inTurns.foldl (performPins (fun _ => 0) pinAndArchive)
      (Database.start twoPins .begin)).phase transaction ≠ .refused .limitReached true) ∧
    (inTurns.foldl (performPins (fun _ => 0) pinAndArchive)
      (Database.start twoPins .begin)).committed.pins.map ProjectPin.projectId = [5, 7] := by
  have kept := pins_kept (PinStore.withinLimit_of_length (by decide)) (by decide)
    (GuardedRun.of_allowedAlong (by decide +kernel) : GuardedRun (performPins (fun _ => 0)
      pinAndArchive) (PinsSettled (fun _ => 0) pinAndArchive) (Database.start twoPins .begin)
      inTurns _)
  exact ⟨kept.1, kept.2.1, kept.2.2, by decide +kernel⟩

/-- A pin of a project beside its archiving. -/
def pinAndArchiveSame : Bool → PinOperation
  | false => .pinProject 9 1 5 true
  | true => .archiveProject 9 5

/-- The project is checked, then archived, then pinned. -/
def archivedMeanwhile : List (Action Bool) :=
  [.advance false, .advance true, .advance true, .advance true, .advance false, .advance false,
    .advance false, .advance false, .advance false, .advance false]

/-- One user pins a project twice. -/
def pinTwice : Bool → PinOperation :=
  fun _ => .pinProject 9 1 5 true

/-- Both requests find the project unpinned, and the first takes the last pin
of the user. -/
def pinnedMeanwhile : List (Action Bool) :=
  [.advance false, .advance false, .advance false, .advance true, .advance true, .advance true,
    .advance false, .advance false, .advance false, .advance false, .advance true, .advance true]

/-- An archived project is pinned, and a call for a project that is pinned when
the call takes the lock fails with the limit error. -/
theorem pins_not_kept :
    twoPins.ArchivedUnpinned ∧
    ¬ (archivedMeanwhile.foldl (performPins (fun _ => 0) pinAndArchiveSame)
      (Database.start twoPins .begin)).committed.ArchivedUnpinned ∧
    (pinnedMeanwhile.foldl (performPins (fun _ => 0) pinTwice)
      (Database.start twoPins .begin)).phase true = .refused .limitReached true := by
  refine ⟨by decide, ?_, ?_⟩
  · decide +kernel
  · decide +kernel

end OpenZync.Projects
