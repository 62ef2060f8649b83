import OpenZync.Auth.TokenIssuance

/-!
# Entitlement

Who may get tokens, and what becomes of it when the rows change.
-/

namespace OpenZync.Auth

open OpenZync.Library

namespace AuthStore

def approved (store : AuthStore) (orgId : Uuid) : Prop :=
  Organizations.status store.organizations orgId = some .approved

instance (store : AuthStore) (orgId : Uuid) : Decidable (store.approved orgId) :=
  inferInstanceAs (Decidable (_ = _))

/-- The user is active and not deleted, the organization approved, and the role
is the one of the user. -/
def Entitled (store : AuthStore) (identity : Identity) : Prop :=
  (∃ user ∈ store.users, user.identity = identity ∧ user.Live) ∧
    store.approved identity.organizationId

instance (store : AuthStore) (identity : Identity) : Decidable (store.Entitled identity) :=
  inferInstanceAs (Decidable ((∃ user ∈ store.users, _) ∧ _))

/-- The organization is the one of the user. -/
def Belongs (store : AuthStore) (identity : Identity) : Prop :=
  (identity.userId, identity.organizationId) ∈ store.everyone

end AuthStore

namespace Users

theorem findByEmail_some {users : List User} {email : Text} {user : User}
    (found : findByEmail users email = some user) : user ∈ users ∧ user.isDeleted = false := by
  rw [findByEmail] at found
  obtain ⟨stored, _, kept⟩ := lookup_some found
  exact ⟨stored, kept⟩

theorem getById_some {users : List User} {userId : Uuid} {user : User}
    (found : getById users userId = some user) :
    user ∈ users ∧ user.id = userId ∧ user.isDeleted = false :=
  lookup_some found

end Users

namespace AuthStore

variable {store : AuthStore} {identity : Identity}

theorem eq_of_id {first second : User} (firstStored : first ∈ store.users)
    (secondStored : second ∈ store.users) (same : first.id = second.id) : first = second :=
  List.inj_on_of_nodup_map store.ids firstStored secondStored same

/-- An identifier has always belonged to one organization. -/
theorem org_of_drawn {userId first second : Uuid} (one : (userId, first) ∈ store.everyone)
    (other : (userId, second) ∈ store.everyone) : first = second :=
  congrArg Prod.snd (List.inj_on_of_nodup_map store.drawn one other rfl)

theorem row_some {userId : Uuid} {user : User} (found : store.row userId = some user) :
    user ∈ store.users ∧ user.id = userId :=
  lookup_some found

theorem findInvite_some {tokenHash : Text} {cutoff : Time} {user : User}
    (found : store.findInvite tokenHash cutoff = some user) :
    user ∈ store.users ∧ user.isDeleted = false := by
  rw [findInvite] at found
  obtain ⟨stored, _, _, kept, _⟩ := lookup_some found
  exact ⟨stored, kept⟩

theorem Entitled.belongs (entitled : store.Entitled identity) : store.Belongs identity := by
  obtain ⟨⟨user, stored, rfl, _⟩, _⟩ := entitled
  exact store.known user stored

/-- The row that an identity was read from. -/
theorem Entitled.identity_eq (entitled : store.Entitled identity) {user : User}
    (stored : user ∈ store.users) (same : user.id = identity.userId) :
    user.identity = identity := by
  obtain ⟨⟨owner, ownerStored, rfl, _⟩, _⟩ := entitled
  rw [store.eq_of_id stored ownerStored same]

theorem Entitled.modify (entitled : store.Entitled identity) {userId : Uuid}
    {change : User → User} (sameId : ∀ user, (change user).id = user.id)
    (sameOrg : ∀ user, (change user).organizationId = user.organizationId)
    (harmless : identity.userId = userId →
      ∀ user, (change user).identity = user.identity ∧ ((change user).Live ↔ user.Live)) :
    (store.modify userId change sameId sameOrg).Entitled identity := by
  obtain ⟨⟨user, stored, rfl, live⟩, approved⟩ := entitled
  refine ⟨⟨if user.id = userId then change user else user,
    List.mem_map_of_mem stored, ?_⟩, approved⟩
  split
  · rename_i same
    obtain ⟨unchanged, alive⟩ := harmless same user
    exact ⟨unchanged, alive.mpr live⟩
  · exact ⟨rfl, live⟩

theorem Entitled.edit (entitled : store.Entitled identity) (userId : Uuid)
    (edit : CredentialEdit) : (store.edit userId edit).Entitled identity := by
  apply entitled.modify
  intro _ user
  cases edit <;> exact ⟨rfl, Iff.rfl⟩

theorem Entitled.setStatus (entitled : store.Entitled identity) {userId : Uuid}
    (other : ¬ identity.userId = userId) (edit : StatusEdit) :
    (store.setStatus userId edit).Entitled identity := by
  apply entitled.modify
  intro same
  exact absurd same other

theorem Entitled.hardDelete (entitled : store.Entitled identity) {userId : Uuid}
    (other : ¬ identity.userId = userId) : (store.hardDelete userId).Entitled identity := by
  obtain ⟨⟨user, stored, rfl, live⟩, approved⟩ := entitled
  refine ⟨⟨user, ?_, rfl, live⟩, approved⟩
  apply List.mem_filter.mpr
  refine ⟨stored, decide_eq_true ?_⟩
  rintro ⟨same, _⟩
  exact other same

theorem Entitled.insertUser (entitled : store.Entitled identity) {user : User}
    {later : AuthStore} (inserted : store.insertUser user = .ok later) :
    later.Entitled identity := by
  rw [AuthStore.insertUser] at inserted
  split at inserted
  · cases inserted
    obtain ⟨⟨owner, stored, same, live⟩, approved⟩ := entitled
    exact ⟨⟨owner, List.mem_cons_of_mem _ stored, same, live⟩, approved⟩
  · cases inserted

theorem Entitled.insertOrganization (entitled : store.Entitled identity) {org : Organization}
    {later : AuthStore} (inserted : store.insertOrganization org = .ok later) :
    later.Entitled identity := by
  rw [AuthStore.insertOrganization] at inserted
  split at inserted
  · rename_i fresh
    cases inserted
    refine ⟨entitled.1, ?_⟩
    have approved := entitled.2
    rw [AuthStore.approved, Organizations.status] at approved ⊢
    have different : org.id ≠ identity.organizationId := by
      intro same
      rw [← same, fresh] at approved
      cases approved
    rw [← approved, Organizations.getById, Organizations.getById,
      List.find?_cons_of_neg (by simpa using different)]
  · cases inserted

theorem approved_setStatus {orgId other : Uuid} (approved : store.approved other)
    (kept : other ≠ orgId ∨ status = .approved) :
    Organizations.status (Organizations.setStatus store.organizations orgId status) other =
      some .approved := by
  by_cases same : other = orgId
  · subst same
    rcases kept with different | rfl
    · exact absurd rfl different
    · exact Organizations.status_setStatus approved .approved
  · rw [Organizations.status_setStatus_of_ne same]
    exact approved

theorem Entitled.approve (entitled : store.Entitled identity) (orgId : Uuid) (admin : User)
    (tokenHash : Text) (now : Time) :
    (store.approve orgId admin tokenHash now).Entitled identity :=
  ⟨(entitled.edit admin.id (.setInviteToken tokenHash now)).1,
    approved_setStatus entitled.2 (.inr rfl)⟩

theorem Entitled.reject (entitled : store.Entitled identity) {orgId : Uuid}
    (other : ¬ identity.organizationId = orgId) : (store.reject orgId).Entitled identity :=
  ⟨entitled.1, approved_setStatus entitled.2 (.inl other)⟩

theorem Entitled.commit (entitled : store.Entitled identity) (issued : Identity)
    (writes : Writes) (expiresAt : Time) :
    (store.commit issued writes expiresAt).Entitled identity := by
  rw [AuthStore.commit]
  cases writes.edit with
  | none => exact entitled
  | some edit => exact entitled.edit issued.userId edit

end AuthStore

namespace AuthStore

/-- Every refresh token is of a user and of the organization of that user. -/
def TokensKnown (store : AuthStore) : Prop :=
  ∀ token ∈ store.tokens.rows, (token.userId, token.organizationId) ∈ store.everyone

/-- A later store, in which only users who are concerned have lost their
entitlement. -/
structure Changes (store later : AuthStore) (Concerned : Identity → Prop) : Prop where
  entitled : ∀ identity, ¬ Concerned identity → store.Entitled identity →
    later.Entitled identity
  everyone : ∀ pair ∈ store.everyone, pair ∈ later.everyone
  tokens : store.TokensKnown → later.TokensKnown

variable {store later : AuthStore} {identity : Identity}

/-- Nothing is lost. -/
abbrev Grows (store later : AuthStore) : Prop :=
  store.Changes later fun _ => False

theorem Changes.refl : store.Grows store :=
  { entitled := fun _ _ entitled => entitled
    everyone := fun _ member => member
    tokens := id }

theorem Changes.trans {last : AuthStore} (first : store.Grows later)
    (second : later.Grows last) : store.Grows last :=
  { entitled := fun identity free entitled =>
      second.entitled identity free (first.entitled identity free entitled)
    everyone := fun pair member => second.everyone pair (first.everyone pair member)
    tokens := fun known => second.tokens (first.tokens known) }

theorem grows_edit (store : AuthStore) (userId : Uuid) (edit : CredentialEdit) :
    store.Grows (store.edit userId edit) :=
  { entitled := fun _ _ entitled => entitled.edit userId edit
    everyone := fun _ member => member
    tokens := id }

theorem grows_insertUser {user : User} (inserted : store.insertUser user = .ok later) :
    store.Grows later := by
  refine ⟨fun _ _ entitled => entitled.insertUser inserted, ?_, ?_⟩
  · rw [insertUser] at inserted
    split at inserted
    · cases inserted
      intro pair member
      exact List.mem_cons_of_mem _ member
    · cases inserted
  · rw [insertUser] at inserted
    split at inserted
    · cases inserted
      intro known token member
      exact List.mem_cons_of_mem _ (known token member)
    · cases inserted

theorem grows_insertOrganization {org : Organization}
    (inserted : store.insertOrganization org = .ok later) : store.Grows later := by
  refine ⟨fun _ _ entitled => entitled.insertOrganization inserted, ?_, ?_⟩
  · rw [insertOrganization] at inserted
    split at inserted
    · cases inserted
      exact fun _ member => member
    · cases inserted
  · rw [insertOrganization] at inserted
    split at inserted
    · cases inserted
      exact id
    · cases inserted

theorem grows_create {payload : Signup} {status : OrgStatus} {passwordHash : Option Text}
    (created : payload.create status passwordHash store = .ok later) : store.Grows later := by
  obtain ⟨between, organization, user⟩ := bind_eq_ok.mp created
  exact (grows_insertOrganization organization).trans (grows_insertUser user)

theorem grows_signup {config : SystemConfig} {payload : Signup}
    (signedUp : signup config payload store = .ok later) : store.Grows later := by
  rw [signup] at signedUp
  split at signedUp
  · cases signedUp
  · split at signedUp
    · cases signedUp
    · split at signedUp
      · cases signedUp
        exact .refl
      · exact grows_create signedUp
  · split at signedUp
    · cases signedUp
      exact .refl
    · exact grows_create signedUp

theorem grows_joinOrganization {config : SystemConfig} {payload : Join}
    (joined : joinOrganization config payload store = .ok later) : store.Grows later := by
  rw [joinOrganization] at joined
  split at joined
  · cases joined
  · split at joined
    · cases joined
    · split at joined
      · cases joined
      · split at joined
        · cases joined
          exact .refl
        · exact grows_insertUser joined

theorem grows_approve (store : AuthStore) (orgId : Uuid) (admin : User) (tokenHash : Text)
    (now : Time) : store.Grows (store.approve orgId admin tokenHash now) :=
  { entitled := fun _ _ entitled => entitled.approve orgId admin tokenHash now
    everyone := fun _ member => member
    tokens := id }

theorem changes_reject (store : AuthStore) (orgId : Uuid) :
    store.Changes (store.reject orgId) fun identity => identity.organizationId = orgId :=
  { entitled := fun _ other entitled => entitled.reject other
    everyone := fun _ member => member
    tokens := id }

theorem changes_setStatus (store : AuthStore) (userId : Uuid) (edit : StatusEdit) :
    store.Changes (store.setStatus userId edit) fun identity => identity.userId = userId :=
  { entitled := fun _ other entitled => entitled.setStatus other edit
    everyone := fun _ member => member
    tokens := id }

theorem changes_hardDelete (store : AuthStore) (userId : Uuid) :
    store.Changes (store.hardDelete userId) fun identity => identity.userId = userId :=
  { entitled := fun _ other entitled => entitled.hardDelete other
    everyone := fun _ member => member
    tokens := id }

end AuthStore

namespace TokenTable

/-- A user together with the organization that a token of theirs is for. -/
def Owner (table : TokenTable) (userId organizationId : Uuid) : Prop :=
  ∃ token ∈ table.rows, token.userId = userId ∧ token.organizationId = organizationId

variable {table : TokenTable} {userId organizationId : Uuid}

theorem Owner.of_revokeIds {ids : List Uuid}
    (owner : (table.revokeIds ids).Owner userId organizationId) :
    table.Owner userId organizationId := by
  obtain ⟨token, member, rfl, rfl⟩ := owner
  obtain ⟨old, stored, rfl⟩ := List.mem_map.mp member
  refine ⟨old, stored, (revokeRow_userId ids old).symm, ?_⟩
  rw [revokeRow]
  split <;> rfl

theorem Owner.of_issue {issuedTo issuedFor : Uuid} {expiresAt : Time}
    (owner : (table.issue issuedTo issuedFor expiresAt).Owner userId organizationId) :
    (userId = issuedTo ∧ organizationId = issuedFor) ∨ table.Owner userId organizationId := by
  obtain ⟨token, member, rfl, rfl⟩ := owner
  rcases List.mem_cons.mp member with rfl | stored
  · exact .inl ⟨rfl, rfl⟩
  · exact .inr ⟨token, stored, rfl, rfl⟩

theorem Owner.of_rotate {row : RefreshToken} {stored : row ∈ table.rows} {expiresAt : Time}
    (owner : (table.rotate row stored expiresAt).Owner userId organizationId) :
    table.Owner userId organizationId := by
  obtain ⟨token, member, rfl, rfl⟩ := owner
  obtain ⟨old, oldStored, rfl⟩ := List.mem_map.mp member
  have same : (rotateRow row.id table.nextId old).organizationId = old.organizationId := by
    rw [rotateRow]
    split <;> rfl
  rw [rotateRow_userId, same]
  rcases Owner.of_issue ⟨old, oldStored, rfl, rfl⟩ with ⟨toUser, forOrg⟩ | owner
  · exact ⟨row, stored, toUser.symm, forOrg.symm⟩
  · exact owner

end TokenTable

namespace AuthStore

variable {store : AuthStore} {identity : Identity}

theorem TokensKnown.owner (known : store.TokensKnown) {userId organizationId : Uuid}
    (owner : store.tokens.Owner userId organizationId) :
    (userId, organizationId) ∈ store.everyone := by
  obtain ⟨token, stored, rfl, rfl⟩ := owner
  exact known token stored

theorem owner_of_commit {issued : Identity} {writes : Writes} {expiresAt : Time}
    {table : TokenTable} {userId organizationId : Uuid}
    (owner : (writes.tokens issued expiresAt table).Owner userId organizationId) :
    (userId = issued.userId ∧ organizationId = issued.organizationId) ∨
      table.Owner userId organizationId := by
  rw [Writes.tokens] at owner
  split at owner
  · rcases owner.of_issue with new | old
    · exact .inl new
    · exact .inr old.of_revokeIds
  · split at owner
    · exact .inr owner
    · exact .inr owner.of_rotate

theorem grows_commit (belongs : store.Belongs identity) (writes : Writes) (expiresAt : Time) :
    store.Grows (store.commit identity writes expiresAt) := by
  have known : ∀ edited : AuthStore, edited.tokens = store.tokens →
      edited.everyone = store.everyone → store.TokensKnown →
      ({ edited with tokens := writes.tokens identity expiresAt edited.tokens } :
        AuthStore).TokensKnown := by
    intro edited tokens everyone known token member
    have owner : (writes.tokens identity expiresAt store.tokens).Owner token.userId
        token.organizationId := ⟨token, tokens ▸ member, rfl, rfl⟩
    show (token.userId, token.organizationId) ∈ edited.everyone
    rw [everyone]
    rcases owner_of_commit owner with ⟨toUser, forOrg⟩ | old
    · rw [toUser, forOrg]
      exact belongs
    · exact known.owner old
  refine ⟨fun _ _ entitled => entitled.commit identity writes expiresAt, ?_, ?_⟩
  · rw [AuthStore.commit]
    cases writes.edit with
    | none => exact fun _ member => member
    | some edit => exact fun _ member => member
  · rw [AuthStore.commit]
    cases writes.edit with
    | none => exact known store rfl rfl
    | some edit => exact known (store.edit identity.userId edit) rfl rfl

end AuthStore

theorem checkLogin_ok {passed : Bool} {found : Option User} {user : User}
    (checked : checkLogin passed found = .ok user) : found = some user ∧ user.Live := by
  cases found with
  | none => cases checked
  | some other =>
      simp only [checkLogin] at checked
      split at checked
      · cases checked
      · split at checked
        · cases checked
        · split at checked
          · cases checked
          · rename_i live
            split at checked
            · cases checked
            · cases checked
              exact ⟨rfl, not_not.mp live⟩

theorem CodeFlow.checkUser_ok {flow : CodeFlow} {found : Option User} {user : User}
    (checked : flow.checkUser found = .ok user) : found = some user ∧ user.Live := by
  cases found with
  | none => cases checked
  | some other =>
      simp only [CodeFlow.checkUser] at checked
      split at checked
      · rename_i live
        cases checked
        exact ⟨rfl, live⟩
      · cases checked

theorem checkPasswordChange_ok {passed : Bool} {found : Option User} {user : User}
    (checked : checkPasswordChange passed found = .ok user) : found = some user := by
  cases found with
  | none => cases checked
  | some other =>
      simp only [checkPasswordChange] at checked
      split at checked
      · cases checked
      · split at checked
        · cases checked
        · cases checked
          rfl

theorem checkRefreshUser_ok {found : Option User} {user : User}
    (checked : checkRefreshUser found = .ok user) : found = some user := by
  cases found with
  | none => cases checked
  | some other =>
      simp only [checkRefreshUser] at checked
      split at checked
      · cases checked
        rfl
      · cases checked

end OpenZync.Auth
