import Mathlib.Data.Fin.VecNotation
import Mathlib.Data.Fintype.Basic
import OpenZync.Auth.Entitlement
import OpenZync.Library.CacheAside

/-!
# Tokens for entitled users

A flow checks its user once and issues tokens for what it has seen then; the
session of an MFA login keeps that for minutes.  Tokens go only to entitled
users as long as nobody who has been let through loses the entitlement, and
nobody is let through without it.
-/

namespace OpenZync.Auth

open OpenZync.Library

namespace AuthSystem

variable {τ : Type}

/-- Whenever `issue_tokens` was called, the user was entitled to what the access
token says. -/
def TokensEntitled (system : AuthSystem τ) : Prop :=
  ∀ call ∈ system.calls, call.store.Entitled call.claims.toIdentity

instance (system : AuthSystem τ) : Decidable system.TokensEntitled :=
  inferInstanceAs (Decidable (∀ call ∈ system.calls, _))

/-- Whom the flows are on their way to issue tokens for. -/
def identities (system : AuthSystem τ) (request : τ) : Option Identity :=
  (system.phases request).identity

/-- Whom the stored MFA logins are for. -/
def pending (system : AuthSystem τ) (login : τ) : Option Identity :=
  (system.sessions login).map PendingLogin.identity

/-- The user whom the checks of the next step let through. -/
def admitted (requests : τ → AuthRequest τ) (system : AuthSystem τ) (request : τ)
    (passed : Bool) : Option User :=
  match system.phases request with
  | .started =>
      match (requests request).flow with
      | .acceptInvite tokenHash _ cutoff => system.store.findInvite tokenHash cutoff
      | .login email =>
          (checkLogin passed (Users.findByEmail system.store.users email)).toOption
      | .code flow email =>
          (flow.checkUser (Users.findByEmail system.store.users email)).toOption
      | .changePassword userId _ =>
          (checkPasswordChange passed (Users.getById system.store.users userId)).toOption
      | _ => none
  | .claimed token =>
      (system.store.tokens.getByHash token.tokenHash).bind fun stored =>
        (checkRefreshUser (Users.getById system.store.users stored.userId)).toOption
  | _ => none

/-- Nobody who has been let through is concerned. -/
def Unattended (system : AuthSystem τ) (Concerned : Identity → Prop) : Prop :=
  NobodyHolds Concerned system.identities ∧ NobodyHolds Concerned system.pending

end AuthSystem

/-- A user whom a flow lets through is active in an approved organization, and
nobody who has been let through and has no tokens yet is deactivated, deleted
or given another role, nor is the organization rejected. -/
def StatusSettled {τ : Type} (requests : τ → AuthRequest τ) (system : AuthSystem τ) :
    AuthAction τ → Prop
  | .advance request passed =>
      (∀ user ∈ system.admitted requests request passed,
        user.isActive = true ∧ system.store.approved user.organizationId) ∧
      ∀ orgId ∈ (system.phases request).rejects,
        system.Unattended fun identity => identity.organizationId = orgId
  | .setStatus userId _ =>
      system.rows (.user userId) = none →
        system.Unattended fun identity => identity.userId = userId
  | .hardDelete userId =>
      system.rows (.user userId) = none →
        system.Unattended fun identity => identity.userId = userId
  | _ => True

namespace AuthSystem

variable {τ : Type} {requests : τ → AuthRequest τ} {system : AuthSystem τ}

/-- Whoever has been let through is entitled still. -/
structure Consistent (system : AuthSystem τ) : Prop where
  tokens : system.store.TokensKnown
  identities : HeldValid system.store.Entitled system.identities
  pending : HeldValid system.store.Entitled system.pending
  issued : ∀ request identity writes, system.phases request = .issued identity writes →
    system.store.Belongs identity
  calls : system.TokensEntitled

theorem start_consistent : (start : AuthSystem τ).Consistent := by
  constructor
  · intro token member
    cases member
  · exact HeldValid.none
  · exact HeldValid.none
  · intro request identity writes issued
    cases issued
  · intro call member
    cases member

theorem Unattended.never (system : AuthSystem τ) : system.Unattended fun _ => False :=
  ⟨fun _ _ _ => id, fun _ _ _ => id⟩

theorem Consistent.changeStore (consistent : system.Consistent) {later : AuthStore}
    {Concerned : Identity → Prop} (unattended : system.Unattended Concerned)
    (change : system.store.Changes later Concerned) :
    { system with store := later }.Consistent :=
  { tokens := change.tokens consistent.tokens
    identities := consistent.identities.change unattended.1 change.entitled
    pending := consistent.pending.change unattended.2 change.entitled
    issued := fun request identity writes issued =>
      change.everyone _ (consistent.issued request identity writes issued)
    calls := consistent.calls }

theorem Consistent.grow (consistent : system.Consistent) {later : AuthStore}
    (grows : system.store.Grows later) : { system with store := later }.Consistent :=
  consistent.changeStore (.never system) grows

theorem Consistent.setRows (consistent : system.Consistent) (rows : TokenRow → Option τ) :
    { system with rows := rows }.Consistent :=
  { tokens := consistent.tokens
    identities := consistent.identities
    pending := consistent.pending
    issued := consistent.issued
    calls := consistent.calls }

theorem Consistent.writeUser (consistent : system.Consistent) {userId : Uuid}
    {later : AuthStore} {Concerned : Identity → Prop}
    (unattended : system.rows (.user userId) = none → system.Unattended Concerned)
    (change : system.store.Changes later Concerned) :
    (system.writeUser userId later).Consistent := by
  rw [AuthSystem.writeUser]
  split
  · rename_i free
    exact consistent.changeStore (unattended free) change
  · exact consistent

variable [DecidableEq τ] {request : τ}

theorem identities_setPhase (phase : AuthPhase τ) :
    (system.setPhase request phase).identities =
      Function.update system.identities request phase.identity := by
  funext other
  by_cases same : other = request
  · subst same
    simp [identities, setPhase]
  · simp [identities, setPhase, same]

theorem Unattended.setPhase {Concerned : Identity → Prop} {phase : AuthPhase τ}
    (unattended : system.Unattended Concerned) (nobody : phase.identity = none) :
    (system.setPhase request phase).Unattended Concerned := by
  refine ⟨?_, unattended.2⟩
  rw [identities_setPhase, nobody]
  intro other identity member
  by_cases same : other = request
  · subst same
    rw [Function.update_self] at member
    cases member
  · rw [Function.update_of_ne same] at member
    exact unattended.1 other identity member

/-- A flow goes on, for a user who is entitled. -/
theorem Consistent.setPhase (consistent : system.Consistent) {phase : AuthPhase τ}
    (entitled : ∀ identity ∈ phase.identity, system.store.Entitled identity)
    (belongs : ∀ identity writes, phase = .issued identity writes →
      system.store.Belongs identity) :
    (system.setPhase request phase).Consistent := by
  refine ⟨consistent.tokens, ?_, consistent.pending, ?_, consistent.calls⟩
  · rw [identities_setPhase]
    exact consistent.identities.hold request entitled
  · intro other identity writes issued
    by_cases same : other = request
    · subst same
      simp only [AuthSystem.setPhase, Function.update_self] at issued
      exact belongs identity writes issued
    · simp only [AuthSystem.setPhase, Function.update_of_ne same] at issued
      exact consistent.issued other identity writes issued

/-- A flow that lets nobody through goes on. -/
theorem Consistent.moveOn (consistent : system.Consistent) {phase : AuthPhase τ}
    (nobody : phase.identity = none)
    (unissued : ∀ identity writes, phase ≠ .issued identity writes) :
    (system.setPhase request phase).Consistent := by
  apply consistent.setPhase
  · intro identity held
    rw [nobody] at held
    cases held
  · intro identity writes issued
    exact absurd issued (unissued identity writes)

theorem Consistent.lock (consistent : system.Consistent) {row : TokenRow}
    {phase : AuthPhase τ}
    (entitled : ∀ identity ∈ phase.identity, system.store.Entitled identity)
    (belongs : ∀ identity writes, phase = .issued identity writes →
      system.store.Belongs identity) :
    (system.lock request row phase).Consistent := by
  rw [AuthSystem.lock]
  split
  · exact (consistent.setPhase entitled belongs).setRows _
  · exact consistent

theorem Consistent.refuse (consistent : system.Consistent) (error : AuthError) :
    (system.refuse request error).Consistent := by
  have moved : (system.setPhase request (.refused error)).Consistent :=
    consistent.moveOn rfl (by simp)
  exact moved.setRows _

theorem Consistent.finish (consistent : system.Consistent) {later : AuthStore}
    {Concerned : Identity → Prop} (unattended : system.Unattended Concerned)
    (change : system.store.Changes later Concerned) :
    (system.finish request .ended later).Consistent := by
  have moved : (system.setPhase request .ended).Consistent :=
    consistent.moveOn rfl (by simp)
  exact (moved.changeStore (unattended.setPhase rfl) change).setRows _

theorem Consistent.proceed {α : Type} (consistent : system.Consistent)
    {checked : Except AuthError α} {next : α → AuthSystem τ}
    (kept : ∀ value, checked = .ok value → (next value).Consistent) :
    (system.proceed request next checked).Consistent := by
  cases checked with
  | error error => exact consistent.refuse error
  | ok value => exact kept value rfl

/-- A flow goes on with a user who has just been let through. -/
theorem Consistent.admit (consistent : system.Consistent) {phase : AuthPhase τ}
    {identity : Identity} (holds : phase.identity = some identity)
    (entitled : system.store.Entitled identity) :
    (system.setPhase request phase).Consistent := by
  apply consistent.setPhase
  · intro held member
    rw [holds] at member
    cases member
    exact entitled
  · rintro held writes rfl
    cases holds

omit [DecidableEq τ] in
/-- The condition makes whoever is let through entitled. -/
theorem entitled_of_admitted {passed : Bool} {user : User}
    (settled : StatusSettled requests system (.advance request passed))
    (admitted : system.admitted requests request passed = some user)
    (stored : user ∈ system.store.users) (kept : user.isDeleted = false) :
    system.store.Entitled user.identity := by
  obtain ⟨active, approved⟩ := settled.1 user admitted
  exact ⟨⟨user, stored, rfl, active, kept⟩, approved⟩

section Steps

variable {passed : Bool}

theorem Consistent.loggedIn (consistent : system.Consistent) {email : Text} {user : User}
    (entitled : system.store.Entitled user.identity) :
    (system.loggedIn request email user).Consistent := by
  rw [AuthSystem.loggedIn]
  split
  · exact consistent.admit rfl entitled
  · exact consistent.admit rfl entitled

theorem Consistent.approveOrg (consistent : system.Consistent) (orgId : Uuid)
    (tokenHash : Text) (now : Time) :
    (system.approveOrg request orgId tokenHash now).Consistent := by
  rw [AuthSystem.approveOrg]
  split
  · exact consistent.refuse _
  · exact consistent.refuse _
  · rename_i admin _ _
    split
    · exact consistent.finish (.never system)
        (system.store.grows_approve orgId admin tokenHash now)
    · exact consistent

theorem Consistent.enter (consistent : system.Consistent)
    (started : system.phases request = .started)
    (settled : StatusSettled requests system (.advance request passed)) :
    (system.enter requests request passed).Consistent := by
  have lookedUp : ∀ user, system.admitted requests request passed = some user →
      user ∈ system.store.users → user.isDeleted = false →
      system.store.Entitled user.identity :=
    fun user => entitled_of_admitted settled
  rw [admitted, started] at lookedUp
  rw [AuthSystem.enter]
  cases flow : (requests request).flow with
  | signup config payload =>
      apply consistent.proceed
      intro later signedUp
      exact consistent.finish (.never system) (AuthStore.grows_signup signedUp)
  | joinOrganization config payload =>
      apply consistent.proceed
      intro later joined
      exact consistent.finish (.never system) (AuthStore.grows_joinOrganization joined)
  | approveOrg orgId tokenHash now => exact consistent.approveOrg orgId tokenHash now
  | rejectOrg orgId =>
      simp only
      split
      · exact consistent.refuse _
      · exact consistent.moveOn rfl (by simp)
  | acceptInvite tokenHash passwordHash cutoff =>
      simp only [flow] at lookedUp ⊢
      split
      · exact consistent.refuse _
      · rename_i user found
        obtain ⟨stored, kept⟩ := AuthStore.findInvite_some found
        apply consistent.lock
        · intro identity held
          cases held
          exact lookedUp user found stored kept
        · intro identity writes issued
          cases issued
  | login email =>
      simp only [flow] at lookedUp ⊢
      apply consistent.proceed
      intro user checked
      obtain ⟨found, _⟩ := checkLogin_ok checked
      obtain ⟨stored, kept⟩ := Users.findByEmail_some found
      exact consistent.loggedIn (lookedUp user (by rw [checked]; rfl) stored kept)
  | mfaVerify login =>
      simp only
      split
      · exact consistent.refuse _
      · rename_i pending found
        apply consistent.admit rfl
        apply consistent.pending login
        rw [AuthSystem.pending, found]
        rfl
  | code kind email =>
      simp only [flow] at lookedUp ⊢
      apply consistent.proceed
      intro user checked
      obtain ⟨found, _⟩ := CodeFlow.checkUser_ok checked
      obtain ⟨stored, kept⟩ := Users.findByEmail_some found
      exact consistent.admit rfl (lookedUp user (by rw [checked]; rfl) stored kept)
  | refresh tokenHash now =>
      simp only
      split
      · exact consistent.refuse _
      · apply consistent.lock
        · intro identity held
          cases held
        · intro identity writes issued
          cases issued
  | changePassword userId passwordHash =>
      simp only [flow] at lookedUp ⊢
      apply consistent.proceed
      intro user checked
      obtain ⟨stored, _, kept⟩ := Users.getById_some (checkPasswordChange_ok checked)
      exact consistent.admit rfl (lookedUp user (by rw [checked]; rfl) stored kept)

theorem Consistent.refreshUser (consistent : system.Consistent) {token : RefreshToken}
    (claimed : system.phases request = .claimed token)
    (settled : StatusSettled requests system (.advance request passed)) :
    (system.refreshUser request token).Consistent := by
  rw [AuthSystem.refreshUser]
  split
  · exact consistent.refuse _
  · rename_i row found
    split
    · exact consistent.refuse _
    · rename_i user checked
      obtain ⟨stored, same, kept⟩ := Users.getById_some (checkRefreshUser_ok checked)
      have admitted : system.admitted requests request passed = some user := by
        rw [AuthSystem.admitted, claimed]
        simp only [found, Option.bind_some, checked]
        rfl
      have entitled := entitled_of_admitted settled admitted stored kept
      have known := consistent.tokens row (TokenTable.getByHash_some found)
      have owner := system.store.known user stored
      rw [same] at owner
      have identity : user.identity =
          { userId := row.userId, organizationId := row.organizationId, role := user.role } := by
        rw [User.identity, same, AuthStore.org_of_drawn owner known]
      rw [identity] at entitled
      exact consistent.admit rfl entitled

theorem Consistent.confirm (consistent : system.Consistent) {flow : CodeFlow} {user : User}
    (confirming : system.phases request = .confirming flow user) :
    (system.confirm request flow user passed).Consistent := by
  have entitled : system.store.Entitled user.identity := by
    apply consistent.identities request
    rw [AuthSystem.identities, confirming]
    rfl
  rw [AuthSystem.confirm]
  split
  · exact consistent.refuse _
  · split
    · exact consistent.admit rfl entitled
    · exact consistent.admit rfl entitled

theorem Consistent.issueTokens (consistent : system.Consistent) {identity : Identity}
    {writes : Writes} (authorised : system.phases request = .authorised identity writes) :
    (system.issueTokens request identity writes).Consistent := by
  have entitled : system.store.Entitled identity := by
    apply consistent.identities request
    rw [AuthSystem.identities, authorised]
    rfl
  have moved : (system.setPhase request (.issued identity writes)).Consistent := by
    apply consistent.setPhase
    · intro other held
      cases held
    · intro other others issued
      cases issued
      exact entitled.belongs
  refine ⟨moved.tokens, moved.identities, moved.pending, moved.issued, ?_⟩
  intro call member
  rcases List.mem_cons.mp member with rfl | before
  · exact entitled
  · exact consistent.calls call before

theorem Consistent.setSession (consistent : system.Consistent) (login : τ)
    {pending : Option PendingLogin}
    (entitled : ∀ stored ∈ pending, system.store.Entitled stored.identity) :
    { system with sessions := Function.update system.sessions login pending }.Consistent := by
  refine ⟨consistent.tokens, consistent.identities, ?_, consistent.issued, consistent.calls⟩
  intro other identity member
  have member : identity ∈ (Function.update system.sessions login pending other).map
      PendingLogin.identity := member
  by_cases same : other = login
  · subst same
    rw [Function.update_self] at member
    obtain ⟨stored, found, rfl⟩ := Option.map_eq_some_iff.mp member
    exact entitled stored found
  · rw [Function.update_of_ne same] at member
    exact consistent.pending other identity member

theorem Consistent.advance (consistent : system.Consistent)
    (settled : StatusSettled requests system (.advance request passed)) :
    (system.advance requests request passed).Consistent := by
  have held : ∀ identity, (system.phases request).identity = some identity →
      system.store.Entitled identity := consistent.identities request
  rw [AuthSystem.advance]
  split
  · rename_i started
    exact consistent.enter started settled
  · rename_i login challenging
    rw [challenging] at held
    have moved : (system.setPhase request .ended).Consistent :=
      consistent.moveOn rfl (by simp)
    apply moved.setSession
    intro stored login
    cases login
    exact held _ rfl
  · rename_i stored login closing
    rw [closing] at held
    have moved : (system.setPhase request (if login.email = [] then .refused mfaSessionInvalid
        else .verifying login.identity)).Consistent := by
      split
      · exact (consistent.refuse mfaSessionInvalid).setRows system.rows
      · exact consistent.admit rfl (held login.identity rfl)
    apply moved.setSession
    intro other none
    cases none
  · rename_i identity verifying
    rw [verifying] at held
    split
    · exact consistent.admit rfl (held identity rfl)
    · exact consistent.refuse _
  · rename_i flow user confirming
    exact consistent.confirm confirming
  · rename_i identity edit loading
    rw [loading] at held
    split
    · exact consistent.refuse _
    · exact consistent.admit rfl (held identity rfl)
  · rename_i identity edit updating
    rw [updating] at held
    split
    · exact consistent.refuse _
    · rename_i user found
      obtain ⟨stored, same⟩ := AuthStore.row_some found
      apply consistent.lock
      · intro other locked
        cases locked
        rw [(held identity rfl).identity_eq stored same]
        exact held identity rfl
      · intro other writes issued
        cases issued
  · rename_i identity edit updated
    rw [updated] at held
    exact consistent.admit rfl (held identity rfl)
  · rename_i token claimed
    exact consistent.refreshUser claimed settled
  · rename_i orgId reviewed
    have rejects := settled.2 orgId
    rw [reviewed] at rejects
    exact consistent.finish (rejects rfl) (system.store.changes_reject orgId)
  · rename_i identity writes authorised
    exact consistent.issueTokens authorised
  · rename_i identity writes issued
    have belongs := consistent.issued request identity writes issued
    exact consistent.finish (.never system) (AuthStore.grows_commit belongs writes _)
  · exact consistent
  · exact consistent

theorem Consistent.perform (consistent : system.Consistent) (action : AuthAction τ)
    (settled : StatusSettled requests system action) :
    (system.perform requests action).Consistent := by
  cases action with
  | advance request passed => exact consistent.advance settled
  | abort request =>
      rw [AuthSystem.perform]
      split
      · exact consistent
      · exact consistent.refuse _
  | expireSession login =>
      apply consistent.setSession
      intro stored none
      cases none
  | setStatus userId edit =>
      exact consistent.writeUser settled (system.store.changes_setStatus userId edit)
  | setCredential userId edit =>
      exact consistent.writeUser (fun _ => .never system) (system.store.grows_edit userId edit)
  | hardDelete userId =>
      exact consistent.writeUser settled (system.store.changes_hardDelete userId)
  | insertUser user =>
      rw [AuthSystem.perform]
      cases inserted : system.store.insertUser user with
      | error error => exact consistent
      | ok later => exact consistent.grow (AuthStore.grows_insertUser inserted)
  | insertOrganization org =>
      rw [AuthSystem.perform]
      cases inserted : system.store.insertOrganization org with
      | error error => exact consistent
      | ok later => exact consistent.grow (AuthStore.grows_insertOrganization inserted)
  | revokeTokens ids =>
      apply consistent.grow
      refine ⟨fun _ _ entitled => entitled, fun _ member => member, ?_⟩
      intro known token member
      exact known.owner (TokenTable.Owner.of_revokeIds ⟨token, member, rfl, rfl⟩)

end Steps

end AuthSystem

/-- Every call of `issue_tokens` is for an active user of an approved
organization and puts the role of the user into the access token, as long as
whoever is let through is entitled and keeps the entitlement until the call. -/
theorem tokens_for_entitled_users {τ : Type} [DecidableEq τ] (requests : τ → AuthRequest τ)
    {actions : List (AuthAction τ)} {system : AuthSystem τ}
    (run : GuardedRun (AuthSystem.perform requests) (StatusSettled requests)
      AuthSystem.start actions system) : system.TokensEntitled :=
  (run.invariant AuthSystem.Consistent AuthSystem.start_consistent
    fun consistent settled => consistent.perform _ settled).calls

instance AuthSystem.Unattended.decidable {τ : Type} [Fintype τ] (system : AuthSystem τ)
    (Concerned : Identity → Prop) [DecidablePred Concerned] :
    Decidable (system.Unattended Concerned) :=
  inferInstanceAs (Decidable ((∀ _, ∀ value ∈ _, ¬ _) ∧ ∀ _, ∀ value ∈ _, ¬ _))

instance StatusSettled.decidable {τ : Type} [Fintype τ] (requests : τ → AuthRequest τ)
    (system : AuthSystem τ) : ∀ action, Decidable (StatusSettled requests system action)
  | .advance _ _ => inferInstanceAs (Decidable ((∀ user ∈ _, _ ∧ _) ∧ ∀ orgId ∈ _, _))
  | .setStatus _ _ => inferInstanceAs (Decidable (_ = none → _))
  | .hardDelete _ => inferInstanceAs (Decidable (_ = none → _))
  | .abort _ => .isTrue trivial
  | .expireSession _ => .isTrue trivial
  | .setCredential _ _ => .isTrue trivial
  | .insertUser _ => .isTrue trivial
  | .insertOrganization _ => .isTrue trivial
  | .revokeTokens _ => .isTrue trivial

/-- The address and the identifiers of a signup, for examples. -/
def founder : Signup :=
  { email := "a@acme.io".toList
    passwordHash := "bcrypt".toList
    organizationName := "Acme".toList
    organizationId := 9
    orgCode := "K7M2Q9X4".toList
    userId := 1
    now := 0 }

/-- A signup, the verification of the address, a login and its MFA code. -/
def founding (policy : OrgCreationPolicy) (flow : CodeFlow) : Fin 4 → AuthRequest (Fin 4) :=
  ![{ flow := .signup { orgCreationPolicy := policy, approvalScope := .both } founder
      expiresAt := 0 },
    { flow := .code flow founder.email
      expiresAt := 1000 },
    { flow := .login founder.email
      expiresAt := 1000 },
    { flow := .mfaVerify 2
      expiresAt := 1000 }]

/-- The admin verifies the address and turns MFA on. -/
def verified : List (AuthAction (Fin 4)) :=
  [.advance 0 true] ++ List.replicate 7 (.advance 1 true) ++
    [.setCredential 1 (.setMfaEnabled true)]

/-- The password is right and the session stored. -/
def challenged : List (AuthAction (Fin 4)) :=
  verified ++ List.replicate 2 (.advance 2 true)

/-- The code is right. -/
def answered : List (AuthAction (Fin 4)) :=
  List.replicate 4 (.advance 3 true)

def runAuth (policy : OrgCreationPolicy) (flow : CodeFlow)
    (actions : List (AuthAction (Fin 4))) : AuthSystem (Fin 4) :=
  actions.foldl (AuthSystem.perform (founding policy flow)) .start

/-- A role change before the login. -/
theorem tokens_for_entitled_users_after_demotion :
    (runAuth .allowAll .verifyEmail (verified ++ [.setStatus 1 (.setRole .member)] ++
        List.replicate 2 (.advance 2 true) ++ answered)).TokensEntitled ∧
      (runAuth .allowAll .verifyEmail (verified ++ [.setStatus 1 (.setRole .member)] ++
        List.replicate 2 (.advance 2 true) ++ answered)).calls.map
          (fun call => call.claims.role) = [.member, .admin] := by
  constructor
  · apply tokens_for_entitled_users
    exact GuardedRun.of_allowedAlong (by decide +kernel)
  · decide +kernel

/-- The admin of an organization that waits for approval logs in with a code,
and a user who is deactivated between the password and the code gets tokens. -/
theorem tokens_for_unentitled_users :
    ¬ (runAuth .approvals .passwordlessLogin
        ([.advance 0 true] ++ List.replicate 6 (.advance 1 true))).TokensEntitled ∧
      ¬ (runAuth .allowAll .verifyEmail
        (challenged ++ [.setStatus 1 (.setActive false)] ++ answered)).TokensEntitled := by
  decide +kernel

end OpenZync.Auth
