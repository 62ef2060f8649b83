import OpenZync.Auth.Accounts
import OpenZync.Library.Transactions

/-!
# Approving and rejecting organizations

`approve_org` and `reject_org` as programs of transactions under READ
COMMITTED.  The approval flips the status in one conditional `UPDATE`; the
rejection tests the status it has loaded and then updates the row by its
primary key alone.
-/

namespace OpenZync.Auth

open OpenZync.Library

/-- The committed rows, and the requests that committed, in their order. -/
structure OrgStore where
  organizations : List Organization
  users : List User
  committed : List (Uuid × OrgStatus)

namespace OrgStore

def status (store : OrgStore) (orgId : Uuid) : Option OrgStatus :=
  Organizations.status store.organizations orgId

/-- What the requests on an organization that committed have set it to. -/
def decisions (store : OrgStore) (orgId : Uuid) : List OrgStatus :=
  (store.committed.filter fun entry => decide (entry.1 = orgId)).map Prod.snd

/-- The invite tokens of the users of an organization. -/
def invites (store : OrgStore) (orgId : Uuid) : List (Uuid × Option Text) :=
  (store.users.filter fun user => decide (user.organizationId = orgId)).map fun user =>
    (user.id, user.inviteTokenHash)

end OrgStore

inductive ApprovalError where
  | notFound (orgId : Uuid)
  | notPending (orgId : Uuid) (status : OrgStatus)
  | noPendingAdmin (orgId : Uuid)
  | noEmail (orgId : Uuid)
  | emailNotConfigured

def OrgStatus.text : OrgStatus → Text
  | .pending => "pending".toList
  | .approved => "approved".toList
  | .rejected => "rejected".toList

def ApprovalError.message : ApprovalError → Text
  | .notFound orgId => "Organization ".toList ++ Text.ofUuid orgId ++ " not found.".toList
  | .notPending orgId status =>
      "Organization ".toList ++ Text.ofUuid orgId ++ " is not pending (status='".toList ++
        status.text ++ "').".toList
  | .noPendingAdmin orgId =>
      "Organization ".toList ++ Text.ofUuid orgId ++
        " has no pending admin user to approve.".toList
  | .noEmail orgId =>
      "Organization ".toList ++ Text.ofUuid orgId ++ "'s pending admin has no email.".toList
  | .emailNotConfigured =>
      "Email service is not configured — cannot send the approval invite.".toList

/-- A request of the platform superadmin.  An approval brings the hash of the
invite token it has drawn. -/
inductive OrgRequest where
  | approve (orgId : Uuid) (tokenHash : Text) (now : Time) (emailService : Bool)
  | reject (orgId : Uuid)
  deriving DecidableEq

def OrgRequest.orgId : OrgRequest → Uuid
  | .approve orgId _ _ _ => orgId
  | .reject orgId => orgId

inductive OrgPhase where
  | begin
  /-- The approval has seen the organization pending. -/
  | claiming
  /-- The conditional `UPDATE` has matched the row. -/
  | claimed
  | inviting (admin : User)
  | minted (admin : User)
  /-- The rejection has seen the organization pending. -/
  | rejecting
  /-- The row is updated. -/
  | rejected
  | ended
  deriving DecidableEq

inductive OrgRow where
  | organization (id : Uuid)
  | user (id : Uuid)
  deriving DecidableEq

abbrev OrgMove := Move OrgStore OrgPhase Unit OrgRow

abbrev OrgDatabase (τ : Type) := Database OrgStore OrgPhase Unit OrgRow τ

/-- The first check of both requests. -/
def checkPending (store : OrgStore) (orgId : Uuid) : Except ApprovalError Unit :=
  match store.status orgId with
  | none => .error (.notFound orgId)
  | some status => if status = .pending then .ok () else .error (.notPending orgId status)

/-- The pending admin and that there is an address to invite. -/
def checkPendingAdmin (store : OrgStore) (orgId : Uuid) : Except ApprovalError User :=
  match Users.findPendingAdminByOrg store.users orgId with
  | none => .error (.noPendingAdmin orgId)
  | some admin => if admin.email = none then .error (.noEmail orgId) else .ok admin

def orAbort {ε α : Type} (next : α → OrgMove) : Except ε α → OrgMove
  | .ok value => next value
  | .error _ => .abort

/-- What an approval commits. -/
def OrgStore.approve (store : OrgStore) (orgId : Uuid) (admin : User) (tokenHash : Text)
    (now : Time) : OrgStore :=
  { organizations := Organizations.setStatus store.organizations orgId .approved
    users := Users.setInviteToken store.users orgId admin.id tokenHash now
    committed := store.committed ++ [(orgId, .approved)] }

/-- What a rejection commits. -/
def OrgStore.reject (store : OrgStore) (orgId : Uuid) : OrgStore :=
  { store with
    organizations := Organizations.setStatus store.organizations orgId .rejected
    committed := store.committed ++ [(orgId, .rejected)] }

/-- `approve_org`.  A failure of the vault or of the mail server aborts. -/
def approveProgram (orgId : Uuid) (tokenHash : Text) (now : Time) (emailService : Bool)
    (store : OrgStore) : OrgPhase → OrgMove
  | .begin => orAbort (fun _ => .go .claiming) (checkPending store orgId)
  | .claiming =>
      if store.status orgId = some .pending then .lockRow (.organization orgId) .claimed
      else .abort
  | .claimed => orAbort (fun admin => .go (.inviting admin)) (checkPendingAdmin store orgId)
  | .inviting admin =>
      match Users.getByUuid store.users orgId admin.id with
      | none => .abort
      | some _ => .lockRow (.user admin.id) (.minted admin)
  | .minted admin =>
      if emailService = true then .commit (store.approve orgId admin tokenHash now)
      else .abort
  | _ => .stay

/-- `reject_org`. -/
def rejectProgram (orgId : Uuid) (store : OrgStore) : OrgPhase → OrgMove
  | .begin => orAbort (fun _ => .go .rejecting) (checkPending store orgId)
  | .rejecting =>
      match store.status orgId with
      | none => .abort
      | some _ => .lockRow (.organization orgId) .rejected
  | .rejected => .commit (store.reject orgId)
  | _ => .stay

def OrgRequest.program (store : OrgStore) (phase : OrgPhase) : OrgRequest → OrgMove
  | .approve orgId tokenHash now emailService =>
      approveProgram orgId tokenHash now emailService store phase
  | .reject orgId => rejectProgram orgId store phase

/-- One scheduling step of concurrent requests. -/
def performApprovals {τ : Type} [DecidableEq τ] (requests : τ → OrgRequest) :
    OrgDatabase τ → Action τ → OrgDatabase τ :=
  Database.perform (fun transaction store phase =>
    (requests transaction).program store phase) .ended

namespace OrgStore

/-- The part of the store that belongs to one organization. -/
def view (store : OrgStore) (orgId : Uuid) :
    Option OrgStatus × List OrgStatus × List (Uuid × Option Text) :=
  (store.status orgId, store.decisions orgId, store.invites orgId)

theorem decisions_approve (store : OrgStore) (orgId other : Uuid) (admin : User)
    (tokenHash : Text) (now : Time) :
    (store.approve orgId admin tokenHash now).decisions other =
      store.decisions other ++ if orgId = other then [.approved] else [] := by
  simp only [decisions, approve, List.filter_append, List.map_append]
  by_cases same : orgId = other
  · simp [same]
  · simp [same]

theorem decisions_reject (store : OrgStore) (orgId other : Uuid) :
    (store.reject orgId).decisions other =
      store.decisions other ++ if orgId = other then [.rejected] else [] := by
  simp only [decisions, reject, List.filter_append, List.map_append]
  by_cases same : orgId = other
  · simp [same]
  · simp [same]

theorem invites_approve_of_ne {store : OrgStore} {orgId other : Uuid} (different : other ≠ orgId)
    (admin : User) (tokenHash : Text) (now : Time) :
    (store.approve orgId admin tokenHash now).invites other = store.invites other := by
  simp only [invites, approve, Users.setInviteToken]
  induction store.users with
  | nil => rfl
  | cons user users induction =>
      rw [List.map_cons]
      by_cases belongs : user.organizationId = other
      · have unchanged : ¬ (user.id = admin.id ∧ user.organizationId = orgId) := by
          rintro ⟨_, inOrg⟩
          exact different (belongs.symm.trans inOrg)
        rw [if_neg unchanged, List.filter_cons_of_pos (by simpa using belongs),
          List.filter_cons_of_pos (by simpa using belongs), List.map_cons, List.map_cons,
          induction]
      · have kept : ¬ (if user.id = admin.id ∧ user.organizationId = orgId then
            { user with inviteTokenHash := some tokenHash, createdAt := now }
            else user).organizationId = other := by
          split <;> exact belongs
        rw [List.filter_cons_of_neg (by simpa using kept), induction,
          List.filter_cons_of_neg (by simpa using belongs)]

theorem view_approve_of_ne {store : OrgStore} {orgId other : Uuid} (different : other ≠ orgId)
    (admin : User) (tokenHash : Text) (now : Time) :
    (store.approve orgId admin tokenHash now).view other = store.view other := by
  rw [view, view, decisions_approve, if_neg (Ne.symm different), List.append_nil,
    invites_approve_of_ne different, status, status, approve,
    Organizations.status_setStatus_of_ne different]

theorem view_reject_of_ne {store : OrgStore} {orgId other : Uuid} (different : other ≠ orgId) :
    (store.reject orgId).view other = store.view other := by
  rw [view, view, decisions_reject, if_neg (Ne.symm different), List.append_nil, status, status,
    reject, Organizations.status_setStatus_of_ne different]
  rfl

theorem view_approve {store : OrgStore} {orgId : Uuid} {initial : List (Uuid × Option Text)}
    (undecided : store.view orgId = (some .pending, [], initial)) (admin : User)
    (tokenHash : Text) (now : Time) :
    (store.approve orgId admin tokenHash now).view orgId =
      (some .approved, [.approved], (store.approve orgId admin tokenHash now).invites orgId) := by
  have status : store.status orgId = some .pending := congrArg Prod.fst undecided
  have none : store.decisions orgId = [] := congrArg (·.2.1) undecided
  refine Prod.ext (Organizations.status_setStatus status .approved) (Prod.ext ?_ rfl)
  show (store.approve orgId admin tokenHash now).decisions orgId = [.approved]
  rw [decisions_approve, none, if_pos rfl, List.nil_append]

/-- A rejection is the only decision of an undecided organization, and leaves the invites. -/
theorem view_reject {store : OrgStore} {orgId : Uuid} {initial : List (Uuid × Option Text)}
    (undecided : store.view orgId = (some .pending, [], initial)) :
    (store.reject orgId).view orgId = (some .rejected, [.rejected], initial) := by
  have status : store.status orgId = some .pending := congrArg Prod.fst undecided
  have none : store.decisions orgId = [] := congrArg (·.2.1) undecided
  have kept : store.invites orgId = initial := congrArg (·.2.2) undecided
  refine Prod.ext (Organizations.status_setStatus status .rejected) (Prod.ext ?_ kept)
  show (store.reject orgId).decisions orgId = [.rejected]
  rw [decisions_reject, none, if_pos rfl, List.nil_append]

end OrgStore

/-- The organization has been decided at most once, and only an approval has
touched the invites. -/
inductive Decided (initial : List (Uuid × Option Text)) :
    Option OrgStatus × List OrgStatus × List (Uuid × Option Text) → Prop where
  | undecided : Decided initial (some .pending, [], initial)
  | approved (invites : List (Uuid × Option Text)) :
      Decided initial (some .approved, [.approved], invites)
  | rejected : Decided initial (some .rejected, [.rejected], initial)

/-- The transaction has written the row of the organization. -/
def OrgPhase.Claims : OrgPhase → Bool
  | .claimed => true
  | .inviting _ => true
  | .minted _ => true
  | .rejected => true
  | _ => false

/-- A transaction that has written the row holds it, and has found the
organization undecided. -/
def HoldsUndecided (orgId : Uuid) (initial : List (Uuid × Option Text)) (request : OrgRequest)
    (store : OrgStore) (held : OrgRow → Prop) (phase : OrgPhase) : Prop :=
  request.orgId = orgId → phase.Claims = true →
    held (.organization orgId) ∧ store.view orgId = (some .pending, [], initial)

theorem HoldsUndecided.of_unclaimed {orgId : Uuid} {initial : List (Uuid × Option Text)}
    {request : OrgRequest} {store : OrgStore} {held : OrgRow → Prop} {phase : OrgPhase}
    (unclaimed : phase.Claims = false) :
    HoldsUndecided orgId initial request store held phase := by
  intro _ claims
  rw [unclaimed] at claims
  cases claims

/-- An organization is disturbed only by who holds its row. -/
def Untouched (orgId : Uuid) (held : OrgRow → Prop) (store store' : OrgStore) : Prop :=
  ¬ held (.organization orgId) → store'.view orgId = store.view orgId

/-- When the `UPDATE` of a rejection is executed, the organization is still
pending. -/
def StillPending {τ : Type} (requests : τ → OrgRequest) (orgId : Uuid)
    (database : OrgDatabase τ) (action : Action τ) : Prop :=
  ∀ transaction, action = .advance transaction → requests transaction = .reject orgId →
    database.phase transaction = .rejecting → database.committed.status orgId = some .pending

theorem Decided.eq_of_pending {orgId : Uuid} {initial : List (Uuid × Option Text)}
    {store : OrgStore} (decided : Decided initial (store.view orgId))
    (pending : store.status orgId = some .pending) :
    store.view orgId = (some .pending, [], initial) := by
  have status : (store.view orgId).1 = some .pending := pending
  generalize store.view orgId = view at decided status
  cases decided with
  | undecided => rfl
  | approved invites => cases status
  | rejected => cases status

section Programs

variable {orgId : Uuid} {initial : List (Uuid × Option Text)} {store : OrgStore}
  {held : OrgRow → Prop} {phase : OrgPhase}

theorem approveProgram_sound {target : Uuid} {tokenHash : Text} {now : Time}
    {emailService : Bool}
    (holds : HoldsUndecided orgId initial (.approve target tokenHash now emailService) store held
      phase)
    (decided : Decided initial (store.view orgId)) :
    (approveProgram target tokenHash now emailService store phase).Sound
      (fun store => Decided initial (store.view orgId)) (Untouched orgId)
      (HoldsUndecided orgId initial (.approve target tokenHash now emailService)) store held := by
  cases phase with
  | begin =>
      simp only [approveProgram]
      cases checkPending store target with
      | error failure => trivial
      | ok passed => exact HoldsUndecided.of_unclaimed rfl
  | claiming =>
      simp only [approveProgram]
      split
      · rename_i pending
        intro same _
        cases same
        exact ⟨.inl rfl, decided.eq_of_pending pending⟩
      · trivial
  | claimed =>
      simp only [approveProgram]
      cases checkPendingAdmin store target with
      | error failure => trivial
      | ok admin =>
          intro same _
          exact holds same rfl
  | inviting admin =>
      simp only [approveProgram]
      split
      · trivial
      · intro same _
        exact ⟨.inr (holds same rfl).1, (holds same rfl).2⟩
  | minted admin =>
      simp only [approveProgram]
      split
      · by_cases same : target = orgId
        · subst same
          obtain ⟨own, undecided⟩ := holds rfl rfl
          refine ⟨?_, fun free => absurd own free⟩
          show Decided initial (OrgStore.view _ target)
          rw [store.view_approve undecided]
          exact .approved _
        · have unchanged := store.view_approve_of_ne (Ne.symm same) admin tokenHash now
          refine ⟨?_, fun _ => unchanged⟩
          show Decided initial (OrgStore.view _ orgId)
          rw [unchanged]
          exact decided
      · trivial
  | rejecting => trivial
  | rejected => trivial
  | ended => trivial

theorem rejectProgram_sound {target : Uuid}
    (holds : HoldsUndecided orgId initial (.reject target) store held phase)
    (decided : Decided initial (store.view orgId))
    (pending : target = orgId → phase = .rejecting → store.status orgId = some .pending) :
    (rejectProgram target store phase).Sound
      (fun store => Decided initial (store.view orgId)) (Untouched orgId)
      (HoldsUndecided orgId initial (.reject target)) store held := by
  cases phase with
  | begin =>
      simp only [rejectProgram]
      cases checkPending store target with
      | error failure => trivial
      | ok passed => exact HoldsUndecided.of_unclaimed rfl
  | rejecting =>
      simp only [rejectProgram]
      split
      · trivial
      · intro same _
        exact ⟨.inl (congrArg OrgRow.organization same.symm),
          decided.eq_of_pending (pending same rfl)⟩
  | rejected =>
      by_cases same : target = orgId
      · subst same
        obtain ⟨own, undecided⟩ := holds rfl rfl
        refine ⟨?_, fun free => absurd own free⟩
        show Decided initial (OrgStore.view _ target)
        rw [store.view_reject undecided]
        exact .rejected
      · have unchanged : (store.reject target).view orgId = store.view orgId :=
          store.view_reject_of_ne (Ne.symm same)
        refine ⟨?_, fun _ => unchanged⟩
        show Decided initial (OrgStore.view _ orgId)
        rw [unchanged]
        exact decided
  | claiming => trivial
  | claimed => trivial
  | inviting admin => trivial
  | minted admin => trivial
  | ended => trivial

end Programs

section Runs

variable {τ : Type} [DecidableEq τ] {requests : τ → OrgRequest} {orgId : Uuid}

/-- A pending organization is decided by at most one of any concurrent
approvals and rejections, and ends rejected only with no invite minted, as long
as it is still pending whenever a rejection updates it. -/
theorem org_decided_once {store : OrgStore} (pending : store.status orgId = some .pending)
    (open_ : store.decisions orgId = []) {actions : List (Action τ)} {database : OrgDatabase τ}
    (run : GuardedRun (performApprovals requests) (StillPending requests orgId)
      (Database.start store .begin) actions database) :
    (database.committed.decisions orgId).length ≤ 1 ∧
      (database.committed.status orgId = some .rejected →
        database.committed.invites orgId = store.invites orgId) := by
  have consistent := run.invariant
    (fun database => database.Consistent
      (fun committed => Decided (store.invites orgId) (committed.view orgId))
      fun transaction => HoldsUndecided orgId (store.invites orgId) (requests transaction))
    ⟨by
      have view : store.view orgId = (some .pending, [], store.invites orgId) :=
        Prod.ext pending (Prod.ext open_ rfl)
      show Decided _ (store.view orgId)
      rw [view]
      exact .undecided,
      fun _ => HoldsUndecided.of_unclaimed rfl⟩ ?_
  · have decided := consistent.store
    rw [OrgStore.view] at decided
    generalize database.committed.status orgId = status at decided ⊢
    generalize database.committed.decisions orgId = decisions at decided ⊢
    generalize database.committed.invites orgId = invites at decided ⊢
    cases decided with
    | undecided => simp
    | approved invites => simp
    | rejected => simp
  · intro database action consistent still
    apply consistent.perform (Untouched orgId) action
    · intro transaction store held
      exact HoldsUndecided.of_unclaimed rfl
    · intro transaction scheduled
      have holds := consistent.transactions transaction
      cases request : requests transaction with
      | approve target tokenHash now emailService =>
          rw [request] at holds
          exact approveProgram_sound holds consistent.store
      | reject target =>
          rw [request] at holds
          apply rejectProgram_sound holds consistent.store
          intro same phase
          rw [same] at request
          exact still transaction scheduled request phase
    · intro transaction store held own phase apart undisturbed holds same claims
      obtain ⟨owned, undecided⟩ := holds same claims
      exact ⟨owned, (undisturbed (apart _ owned)).trans undecided⟩

end Runs

/-- An organization with its designated admin. -/
def pendingStore : OrgStore :=
  { organizations := [⟨1, "Acme".toList, .pending, true, "CODE".toList, true⟩]
    users := [{ id := 5, organizationId := 1, externalId := "a@acme.io".toList, name := none,
                email := some "a@acme.io".toList, role := .admin, permissions := [],
                passwordHash := none, isActive := true, isDeleted := false,
                isEmailVerified := false, mfaEnabled := false, mustChangePassword := false,
                inviteTokenHash := none, createdAt := 0 }]
    committed := [] }

/-- One superadmin approves the organization, another one rejects it. -/
def approveAndReject : Bool → OrgRequest
  | false => .approve 1 "hash".toList 100 true
  | true => .reject 1

instance stillPendingDecidable (requests : Bool → OrgRequest) (orgId : Uuid)
    (database : OrgDatabase Bool) (action : Action Bool) :
    Decidable (StillPending requests orgId database action) :=
  inferInstanceAs (Decidable (∀ _, _))

/-- The rejection commits while the approval has only looked. -/
def rejectedFirst : OrgDatabase Bool :=
  [.advance false, .advance true, .advance true, .advance true, .advance false].foldl
    (performApprovals approveAndReject) (Database.start pendingStore .begin)

theorem org_decided_once_rejected :
    rejectedFirst.committed.status 1 = some .rejected ∧
      (rejectedFirst.committed.decisions 1).length ≤ 1 ∧
      (rejectedFirst.committed.status 1 = some .rejected →
        rejectedFirst.committed.invites 1 = pendingStore.invites 1) :=
  ⟨by decide +kernel, org_decided_once (by decide) (by decide)
    (GuardedRun.of_allowedAlong (by decide +kernel))⟩

/-- The rejection looks first and updates after the approval has committed. -/
def approvedBetween : OrgDatabase Bool :=
  [.advance true, .advance false, .advance false, .advance false, .advance false,
    .advance false, .advance true, .advance true].foldl
    (performApprovals approveAndReject) (Database.start pendingStore .begin)

/-- Both requests commit, and the rejected organization has a live invite. -/
theorem approval_is_overwritten :
    approvedBetween.committed.decisions 1 = [.approved, .rejected] ∧
      approvedBetween.committed.status 1 = some .rejected ∧
      approvedBetween.committed.invites 1 = [(5, some "hash".toList)] := by
  decide +kernel

end OpenZync.Auth
