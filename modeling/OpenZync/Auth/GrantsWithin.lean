import OpenZync.Auth.Grants

/-!
# Grants within the actor's permissions

Every call of a principal without a wildcard role leaves the principal's own
permissions as they are, and passes on only these and what comes with the roles
it gives.
-/

namespace OpenZync.Auth

open OpenZync.Library

/-- What an `update_user` call writes: no role and no permissions for the actor,
and only permissions that the actor has. -/
structure UpdateGrants (fields : UpdateFields) (userId actor : Uuid)
    (own : Option (List Permission)) (changes : UserChanges) : Prop where
  role : ∀ role ∈ changes.role, userId ≠ actor ∧
    ∃ newRole, fields.role = some (some newRole) ∧ role = newRole.toRole
  permissions : ∀ permissions ∈ changes.permissions, userId ≠ actor ∧
    ∀ actorOwn, own = some actorOwn → ∀ permission ∈ permissions, permission ∈ actorOwn
  kept : changes.isDeleted = none

theorem createUser_ok {users later : List User} {organizationId : Uuid} {externalId : Text}
    {name email : Option Text} {role : Role} {id : Uuid} {now : Time}
    (created : createUser users organizationId externalId name email role id now = .ok later) :
    (Users.existsByExternalId users organizationId externalId = false ∧
        Users.emailTaken users id email = false) ∧
      ∃ user, later = user :: users ∧ user.role = role ∧
        user.permissions = permissionsForRole role := by
  rw [createUser] at created
  split at created
  · cases created
  · rename_i unknown
    split at created
    · cases created
    · rename_i free
      cases created
      exact ⟨⟨by simpa using unknown, by simpa using free⟩, _, rfl, rfl, rfl⟩

theorem grantPermissions_ok {userId actor : Uuid} {own : Option (List Permission)}
    {fields granted : UpdateFields}
    (capping : grantPermissions userId actor own fields = .ok granted) :
    granted.role = fields.role ∧ (granted.permissions.isSome = true → userId ≠ actor) ∧
      ∀ permissions, granted.permissions = some (some permissions) →
        ∀ actorOwn, own = some actorOwn → ∀ permission ∈ permissions, permission ∈ actorOwn := by
  rw [grantPermissions] at capping
  split at capping
  · rename_i none
    cases capping
    refine ⟨rfl, ?_, ?_⟩
    · intro some
      rw [none] at some
      cases some
    · intro permissions some
      rw [none] at some
      cases some
  · split at capping
    · cases capping
    · rename_i different
      split at capping
      · cases capping
        exact ⟨rfl, fun _ => different, fun _ _ _ isNone => by cases isNone⟩
      · cases capping
        refine ⟨rfl, fun _ => different, ?_⟩
        rintro permissions ⟨⟩ actorOwn ⟨⟩ permission member
        exact (mem_capped.mp member).2

theorem checkRole_ok {users : List User} {organizationId userId actor : Uuid}
    {newRole : Option DashboardRole}
    (checked : checkRole users organizationId userId actor (some newRole) = .ok ()) :
    userId ≠ actor := by
  obtain ⟨target, loaded, _⟩ := bind_eq_ok.mp checked
  intro same
  cases found : Users.getByUuid users organizationId userId with
  | none =>
      rw [found] at loaded
      cases loaded
  | some user =>
      rw [found, checkRoleChange, if_pos same] at loaded
      cases loaded

theorem updateUser_ok {users later : List User} {organizationId userId actor : Uuid}
    {fields : UpdateFields} {own : Option (List Permission)}
    (updated : updateUser users organizationId userId fields actor own = .ok later) :
    ∃ loaded changes, Users.getByUuid users organizationId userId = some loaded ∧
      later = Users.write users organizationId userId changes ∧
      UpdateGrants fields userId actor own changes := by
  obtain ⟨⟨⟩, checked, rest⟩ := bind_eq_ok.mp updated
  obtain ⟨granted, capping, written⟩ := bind_eq_ok.mp rest
  obtain ⟨sameRole, notOwn, within⟩ := grantPermissions_ok capping
  rw [updateRow] at written
  split at written
  · cases written
  · rename_i loaded found
    obtain ⟨changes, assigned, flushed⟩ := bind_eq_ok.mp written
    split at flushed
    · cases flushed
    · cases flushed
      refine ⟨loaded, changes, found, rfl, ?_⟩
      rw [Assignment.changes] at assigned
      split at assigned
      · cases assigned
      · cases assigned
        refine ⟨?_, ?_, rfl⟩
        · intro role member
          obtain ⟨new, _⟩ := Option.mem_filter_iff.mp member
          obtain ⟨newRole, joined, rfl⟩ := Option.map_eq_some_iff.mp new
          have given : fields.role = some (some newRole) := by
            rw [← sameRole]
            exact Option.join_eq_some_iff.mp joined
          rw [given] at checked
          exact ⟨checkRole_ok checked, newRole, given, rfl⟩
        · intro permissions member
          obtain ⟨new, _⟩ := Option.mem_filter_iff.mp member
          have given := Option.join_eq_some_iff.mp new
          exact ⟨notOwn (by rw [given]; rfl), within permissions given⟩

theorem UpdateGrants.own {fields : UpdateFields} {actor : Uuid}
    {own : Option (List Permission)} {changes : UserChanges}
    (grants : UpdateGrants fields actor actor own changes) :
    changes.role = none ∧ changes.permissions = none := by
  constructor
  · cases role : changes.role with
    | none => rfl
    | some value => exact absurd rfl (grants.role value role).1
  · cases permissions : changes.permissions with
    | none => rfl
    | some value => exact absurd rfl (grants.permissions value permissions).1

theorem authority_write {users : List User} {orgId userId actor : Uuid} {fields : UpdateFields}
    {own : Option (List Permission)} {changes : UserChanges}
    (grants : UpdateGrants fields userId actor own changes) :
    getOrgRole (Users.write users orgId userId changes) orgId actor =
        getOrgRole users orgId actor ∧
      getEffectivePermissions (Users.write users orgId userId changes) orgId actor =
        getEffectivePermissions users orgId actor := by
  rw [getOrgRole, getOrgRole, getEffectivePermissions, getEffectivePermissions]
  by_cases same : userId = actor
  · subst same
    obtain ⟨role, permissions⟩ := grants.own
    have unchanged : ∀ user : User, (changes.apply user).role = user.role ∧
        (changes.apply user).permissions = user.permissions ∧
        ((changes.apply user).Live ↔ user.Live) := by
      intro user
      simp [UserChanges.apply, User.Live, role, permissions, grants.kept]
    rw [Users.getByUuid_write]
    cases Users.getByUuid users orgId userId with
    | none => exact ⟨rfl, rfl⟩
    | some user =>
        obtain ⟨sameRole, samePermissions, sameLive⟩ := unchanged user
        constructor
        · simp only [Option.map_some, sameRole, sameLive]
        · simp only [Option.map_some, samePermissions, sameLive]
  · have other : ¬ (actor = userId ∧ orgId = orgId) := fun equal => same equal.1.symm
    rw [Users.getByUuid_write_of_ne other]
    exact ⟨rfl, rfl⟩

/-- An actor who may do anything has a row. -/
theorem getByUuid_of_mem {users : List User} {orgId actor : Uuid} {permission : Permission}
    (holds : permission ∈ getEffectivePermissions users orgId actor) :
    ∃ user, Users.getByUuid users orgId actor = some user := by
  rw [getEffectivePermissions] at holds
  cases found : Users.getByUuid users orgId actor with
  | none =>
      rw [found] at holds
      cases holds
  | some user => exact ⟨user, rfl⟩

theorem getByUuid_cons {users : List User} {orgId actor : Uuid} {user row : User}
    (found : Users.getByUuid users orgId actor = some row)
    (ids : ((user :: users).map User.id).Nodup) :
    Users.getByUuid (user :: users) orgId actor = some row := by
  obtain ⟨stored, sameId, _⟩ := Users.getByUuid_some found
  have different : ¬ (user.id = actor ∧ user.organizationId = orgId) := by
    rintro ⟨same, _⟩
    rw [List.map_cons, List.nodup_cons] at ids
    exact ids.1 (List.mem_map.mpr ⟨row, stored, sameId.trans same.symm⟩)
  rw [Users.getByUuid, List.find?_cons_of_neg (by simpa using different)]
  exact found

namespace GrantsWithin

variable {own : List Permission} {before between after : GrantStore}

theorem refl : GrantsWithin own before before := by
  constructor
  · intro user stored permission listed has
    exact .inr ⟨user, stored, rfl, has⟩
  · intro key stored permission member
    exact .inr stored

theorem trans (first : GrantsWithin own before between)
    (second : GrantsWithin own between after) : GrantsWithin own before after := by
  constructor
  · intro user stored permission listed has
    rcases second.users user stored permission listed has with within |
      ⟨old, oldStored, same, had⟩
    · exact .inl within
    · rcases first.users old oldStored permission listed had with within |
        ⟨oldest, oldestStored, sameOld, hadOld⟩
      · exact .inl within
      · exact .inr ⟨oldest, oldestStored, sameOld.trans same, hadOld⟩
  · intro key stored permission member
    rcases second.keys key stored permission member with within | oldStored
    · exact .inl within
    · exact first.keys key oldStored permission member

end GrantsWithin

section Calls

variable {store : GrantStore} {own : List Permission}

theorem has_of_write {orgId userId actor : Uuid} {fields : UpdateFields} {changes : UserChanges}
    {loaded : User} (found : Users.getByUuid store.users orgId userId = some loaded)
    (grants : UpdateGrants fields userId actor (some own) changes)
    (covered : fields.role = some (some .admin) → userId ≠ actor → loaded.Live →
      ∀ permission ∈ allPermissions, permission ∈ own ∨ loaded.Has permission)
    {user : User} (stored : user ∈ Users.write store.users orgId userId changes)
    {permission : Permission} (listed : permission ∈ allPermissions)
    (has : user.Has permission) :
    permission ∈ own ∨ ∃ old ∈ store.users, old.id = user.id ∧ old.Has permission := by
  obtain ⟨old, oldStored, rfl⟩ := List.mem_map.mp stored
  split at has
  · rename_i written
    rw [if_pos written]
    obtain ⟨loadedStored, sameId, _⟩ := Users.getByUuid_some found
    have same : old = loaded := List.inj_on_of_nodup_map store.ids oldStored loadedStored
      (written.1.trans sameId.symm)
    subst same
    obtain ⟨live, granted⟩ := has
    have lives : old.Live := by
      simpa [UserChanges.apply, User.Live, grants.kept] using live
    have kept : ∀ permission, old.Has permission →
        permission ∈ own ∨ ∃ older ∈ store.users, older.id = (changes.apply old).id ∧
          older.Has permission :=
      fun permission had => .inr ⟨old, oldStored, rfl, had⟩
    simp only [UserChanges.apply] at granted
    rcases granted with wildcard | member
    · cases role : changes.role with
      | none =>
          rw [role] at wildcard
          exact kept permission ⟨lives, .inl wildcard⟩
      | some new =>
          rw [role, Option.getD_some] at wildcard
          obtain ⟨different, newRole, given, rfl⟩ := grants.role new role
          cases newRole with
          | member => cases wildcard
          | admin =>
              rcases covered given different lives permission listed with within | had
              · exact .inl within
              · exact kept permission had
    · cases permissions : changes.permissions with
      | none =>
          rw [permissions] at member
          exact kept permission ⟨lives, .inr member⟩
      | some new =>
          rw [permissions, Option.getD_some] at member
          exact .inl ((grants.permissions new permissions).2 own rfl permission member)
  · rename_i unwritten
    rw [if_neg unwritten]
    exact .inr ⟨old, oldStored, rfl, has⟩

theorem withUsers_ok {users : List User} {later : GrantStore}
    (stored : store.withUsers users = .ok later) :
    later.users = users ∧ later.keys = store.keys := by
  rw [GrantStore.withUsers] at stored
  split at stored
  · cases stored
    exact ⟨rfl, rfl⟩
  · cases stored

theorem mem_grants_of_has {user : User} {role : DashboardRole} (sameRole : user.role = role.toRole)
    (permissions : user.permissions = permissionsForRole role.toRole) {permission : Permission}
    (listed : permission ∈ allPermissions) (has : user.Has permission) :
    permission ∈ role.grants := by
  obtain ⟨_, wildcard | member⟩ := has
  · rw [sameRole] at wildcard
    cases role with
    | admin => exact listed
    | member => cases wildcard
  · rw [permissions] at member
    cases role with
    | admin => cases member
    | member => exact member

/-- What one call needs of the store it leads to. -/
structure Kept (own : List Permission) (principal : Principal) (store later : GrantStore) :
    Prop where
  within : GrantsWithin own store later
  resolved : getActorPermissions later.users principal = some own

theorem getActorPermissions_jwt {users : List User} {orgId userId : Uuid}
    (resolved : getActorPermissions users (.jwt orgId userId) = some own) :
    (getOrgRole users orgId userId).isWildcard = false ∧
      getEffectivePermissions users orgId userId = own := by
  rw [getActorPermissions] at resolved
  split at resolved
  · cases resolved
  · rename_i narrow
    exact ⟨by simpa using narrow, Option.some.inj resolved⟩

/-- Who is let in holds what the route asks for. -/
theorem mem_of_checkPermission {principal : Principal} {required : Permission}
    (resolved : getActorPermissions store.users principal = some own)
    (allowed : checkPermission store.users principal required = true) : required ∈ own := by
  cases principal with
  | apiKey orgId userId permissions =>
      cases resolved
      exact List.contains_iff_mem.mp allowed
  | jwt orgId userId =>
      obtain ⟨narrow, same⟩ := getActorPermissions_jwt resolved
      rw [checkPermission, narrow, same] at allowed
      simpa using allowed

theorem Kept.createUser {principal : Principal} {later : GrantStore} {externalId : Text}
    {name email : Option Text} {role : DashboardRole} {id : Uuid} {now : Time}
    (resolved : getActorPermissions store.users principal = some own)
    (allowed : checkPermission store.users principal "members:write".toList = true)
    (covered : RoleCovered own principal store (.createUser externalId name email role id now))
    (served : serve principal store (.createUser externalId name email role id now) = .ok later) :
    Kept own principal store later := by
  obtain ⟨users, created, inserted⟩ := bind_eq_ok.mp served
  obtain ⟨⟨unknown, free⟩, user, rfl, sameRole, permissions⟩ := createUser_ok created
  have covered := covered allowed unknown free
  obtain ⟨sameUsers, sameKeys⟩ := withUsers_ok inserted
  have ids := later.ids
  rw [sameUsers] at ids
  constructor
  · constructor
    · intro other stored permission listed has
      rw [sameUsers] at stored
      rcases List.mem_cons.mp stored with rfl | stored
      · exact .inl (covered permission (mem_grants_of_has sameRole permissions listed has))
      · exact .inr ⟨other, stored, rfl, has⟩
    · intro key stored permission member
      rw [sameKeys] at stored
      exact .inr stored
  · cases principal with
    | apiKey orgId userId permissions => exact resolved
    | jwt orgId userId =>
        have holds := mem_of_checkPermission resolved allowed
        rw [← (getActorPermissions_jwt resolved).2] at holds
        obtain ⟨row, found⟩ := getByUuid_of_mem holds
        rw [← resolved, sameUsers]
        simp only [getActorPermissions, getOrgRole, getEffectivePermissions, found,
          getByUuid_cons found ids]

theorem Kept.updateUser {principal : Principal} {later : GrantStore} {userId : Uuid}
    {fields : UpdateFields}
    (resolved : getActorPermissions store.users principal = some own)
    (allowed : checkPermission store.users principal "members:write".toList = true)
    (covered : RoleCovered own principal store (.updateUser userId fields))
    (served : serve principal store (.updateUser userId fields) = .ok later) :
    Kept own principal store later := by
  rw [serve] at served
  split at served
  · cases served
  · rename_i actor isActor
    rw [resolved] at served
    obtain ⟨users, updated, written⟩ := bind_eq_ok.mp served
    obtain ⟨loaded, changes, found, rfl, grants⟩ := updateUser_ok updated
    obtain ⟨sameUsers, sameKeys⟩ := withUsers_ok written
    constructor
    · constructor
      · intro user stored permission listed has
        rw [sameUsers] at stored
        apply has_of_write found grants _ stored listed has
        intro admin different
        apply covered allowed admin _ loaded found
        rw [isActor]
        intro same
        exact different (Option.some.inj same).symm
      · intro key stored permission member
        rw [sameKeys] at stored
        exact .inr stored
    · cases principal with
      | apiKey orgId creator permissions => exact resolved
      | jwt orgId self =>
          have isSelf : self = actor := Option.some.inj isActor
          subst isSelf
          have authority : getOrgRole (Users.write store.users orgId userId changes) orgId self =
              getOrgRole store.users orgId self ∧
              getEffectivePermissions (Users.write store.users orgId userId changes) orgId self =
                getEffectivePermissions store.users orgId self := authority_write grants
          rw [← resolved, sameUsers, getActorPermissions, getActorPermissions]
          simp only [Principal.orgId, authority.1, authority.2]

theorem Kept.createProjectKey {principal : Principal} {later : GrantStore} {projectId : Uuid}
    {permissions : List Permission} {drawn : DrawnKey}
    (resolved : getActorPermissions store.users principal = some own)
    (served : serve principal store (.createProjectKey projectId permissions drawn) =
      .ok later) :
    Kept own principal store later := by
  rw [serve] at served
  split at served
  · cases served
  · rw [resolved] at served
    obtain ⟨keys, created, stored⟩ := bind_eq_ok.mp served
    cases stored
    obtain ⟨row, sameRows, within⟩ := createProjectKey_ok created
    refine ⟨⟨?_, ?_⟩, resolved⟩
    · intro user stored permission listed has
      exact .inr ⟨user, stored, rfl, has⟩
    · intro key stored permission member
      have stored : key ∈ row :: store.keys.rows := sameRows ▸ stored
      rcases List.mem_cons.mp stored with rfl | stored
      · exact .inl (within permission member)
      · exact .inr stored

theorem Kept.perform {principal : Principal} (call : GrantCall)
    (resolved : getActorPermissions store.users principal = some own)
    (covered : RoleCovered own principal store call) :
    Kept own principal store (performGrant principal store call) := by
  have unchanged : Kept own principal store store := ⟨.refl, resolved⟩
  rw [performGrant]
  split
  · rename_i allowed
    cases served : serve principal store call with
    | error error => exact unchanged
    | ok later =>
        cases call with
        | createUser externalId name email role id now =>
            exact Kept.createUser resolved allowed covered served
        | updateUser userId fields => exact Kept.updateUser resolved allowed covered served
        | createProjectKey projectId permissions drawn =>
            exact Kept.createProjectKey resolved served
  · exact unchanged

end Calls

/-- Whatever a principal without a wildcard role calls, nobody gets a permission
that is not the principal's, as long as the permissions that come with the
roles it gives are. -/
theorem grants_within_actor {principal : Principal} {start : GrantStore}
    {own : List Permission}
    (resolved : getActorPermissions start.users principal = some own) {calls : List GrantCall}
    {store : GrantStore}
    (run : GuardedRun (performGrant principal) (RoleCovered own principal) start calls store) :
    GrantsWithin own start store := by
  have kept := run.invariant (fun reached => Kept own principal start reached)
    ⟨.refl, resolved⟩ ?_
  · exact kept.within
  · intro reached call kept covered
    have next := Kept.perform call kept.resolved covered
    exact ⟨kept.within.trans next.within, next.resolved⟩

instance RoleCovered.decidable (own : List Permission) (principal : Principal)
    (store : GrantStore) : ∀ call, Decidable (RoleCovered own principal store call)
  | .createUser _ _ _ _ _ _ =>
      inferInstanceAs (Decidable (_ = true → _ = false → _ = false → ∀ permission ∈ _, _))
  | .updateUser _ _ =>
      inferInstanceAs (Decidable (_ = true → _ = _ → _ ≠ _ → ∀ target ∈ _, _ →
        ∀ permission ∈ _, _))
  | .createProjectKey _ _ _ => .isTrue fun _ => trivial

instance GrantsWithin.decidable (own : List Permission) (before after : GrantStore) :
    Decidable (GrantsWithin own before after) :=
  decidable_of_iff
    ((∀ user ∈ after.users, ∀ permission ∈ allPermissions, user.Has permission →
        own.contains permission ∨ ∃ old ∈ before.users, old.id = user.id ∧ old.Has permission) ∧
      ∀ key ∈ after.keys.rows, ∀ permission ∈ key.permissions,
        own.contains permission ∨ key ∈ before.keys.rows)
    (by
      simp only [List.contains_iff_mem]
      exact ⟨fun within => ⟨within.1, within.2⟩, fun within => ⟨within.users, within.keys⟩⟩)

/-- A member of organization 9, for examples. -/
def memberWith (id : Uuid) (permissions : List Permission) : User :=
  { demotedUser with
    id := id
    externalId := [Char.ofNat (id + 48)]
    role := .member
    permissions := permissions }

/-- What a member needs who manages members and projects. -/
def managing : List Permission :=
  memberDefaultPermissions ++ ["members:write".toList, "project:manage".toList]

/-- Such a member, and one who only reads. -/
def team : GrantStore :=
  { users := [memberWith 1 managing, memberWith 2 ["project:read".toList]]
    keys :=
      { rows := []
        unique := List.nodup_nil }
    ids := by decide }

def noFields : UpdateFields :=
  { name := none
    email := none
    role := none
    permissions := none }

/-- A new member, a grant of permissions and a key; the last two ask for too
much. -/
def overreaching : List GrantCall :=
  [.createUser "carol".toList none none .member 3 0,
    .updateUser 2
      { noFields with
        permissions := some (some ["project:write".toList, "configuration:write".toList]) },
    .createProjectKey 4 ["project:manage".toList, "members:write".toList]
      { id := 5
        lookupHash := "lookup".toList
        keyHash := "hash".toList
        salt := "salt".toList }]

def afterOverreaching : GrantStore :=
  overreaching.foldl (performGrant (.jwt 9 1)) team

theorem grants_within_actor_overreaching :
    afterOverreaching.users.map (fun user => (user.id, user.permissions)) =
        [(3, memberDefaultPermissions), (1, managing), (2, ["project:write".toList])] ∧
      afterOverreaching.keys.rows.map ApiKey.permissions = [["project:manage".toList]] ∧
      GrantsWithin managing team afterOverreaching := by
  have resolved : getActorPermissions team.users (.jwt 9 1) = some managing := by
    decide +kernel
  refine ⟨by decide +kernel, by decide +kernel, ?_⟩
  apply grants_within_actor resolved
  exact GuardedRun.of_allowedAlong (by decide +kernel)

/-- A member with `members:write` creates an admin, or makes one of another
member. -/
theorem member_makes_admins :
    getActorPermissions team.users (.jwt 9 1) = some managing ∧
      ∀ call ∈ [GrantCall.createUser "mallory".toList none none .admin 3 0,
          .updateUser 2 { noFields with role := some (some .admin) }],
        ¬ GrantsWithin managing team (performGrant (.jwt 9 1) team call) := by
  decide +kernel

end OpenZync.Auth
