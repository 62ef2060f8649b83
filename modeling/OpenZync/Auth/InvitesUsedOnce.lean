import OpenZync.Auth.Invites

/-!
# An invite is consumed once

A row that still carries a token is as it was at the start, and a claim or a
`DELETE` that has matched holds the lock of its row until it ends.  So whoever
comes second finds the token spent or the row gone.
-/

namespace OpenZync.Auth

open OpenZync.Library

section Rules

variable {τ : Type} {classes : CharClasses} {hashInviteToken : Text → Text}
variable {initial store : InviteStore τ} {requests : τ → InviteRequest}

namespace InviteStore

theorem eq_of_id {first second : User} (firstStored : first ∈ store.users)
    (secondStored : second ∈ store.users) (same : first.id = second.id) : first = second :=
  List.inj_on_of_nodup_map store.ids firstStored secondStored same

theorem row_some {userId : Uuid} {user : User} (found : store.row userId = some user) :
    user ∈ store.users ∧ user.id = userId :=
  lookup_some found

theorem mem_claim_of_ne {userId : Uuid} {passwordHash : Text} {user : User}
    (stored : user ∈ store.users) (other : user.id ≠ userId) :
    user ∈ (store.claim userId passwordHash).users := by
  have kept := List.mem_map_of_mem (f := claimRow userId passwordHash) stored
  rwa [claimRow_of_ne other] at kept

theorem mem_delete_of_ne {userId : Uuid} {user : User} (stored : user ∈ store.users)
    (other : user.id ≠ userId) : user ∈ (store.delete userId).users :=
  List.mem_filter.mpr ⟨stored, decide_eq_true other⟩

end InviteStore

/-- The row that an accepted user leaves. -/
def acceptedRow (user : User) (passwordHash : Text) : User :=
  CredentialEdit.apply user (.acceptInvite passwordHash)

/-- The call has accepted the invite of a row that was claimable when it read
the clock. -/
def Accepts (hashInviteToken : Text → Text) (request : InviteRequest) (user : User)
    (passwordHash : Text) (calledAt : Time) : Prop :=
  ∃ token password, request.call = .acceptInvite token password passwordHash ∧
    user.Claimable (hashInviteToken token) (calledAt - inviteExpiry)

/-- What holds of the committed rows and answers. -/
structure Settled (hashInviteToken : Text → Text) (initial : InviteStore τ)
    (requests : τ → InviteRequest) (store : InviteStore τ) : Prop where
  pending : ∀ user ∈ store.users, user.inviteTokenHash.isSome = true → user ∈ initial.users
  accepted : ∀ call invite calledAt, (call, InviteAnswer.tokens invite calledAt) ∈ store.answers →
    ∃ user ∈ initial.users, ∃ passwordHash, user.claimedInvite = invite ∧
      Accepts hashInviteToken (requests call) user passwordHash calledAt ∧
      acceptedRow user passwordHash ∈ store.users
  once : ∀ first second invite other calledAt later,
    (first, InviteAnswer.tokens invite calledAt) ∈ store.answers →
    (second, InviteAnswer.tokens other later) ∈ store.answers → invite.id = other.id →
    first = second
  revoked : ∀ call orgId userId, (call, InviteAnswer.revoked) ∈ store.answers →
    (requests call).call = .revokeInvite orgId userId → ∀ user ∈ store.users, user.id ≠ userId

/-- The rows that a transaction does not hold survive its commit. -/
def RowsKept (held : Uuid → Prop) (store store' : InviteStore τ) : Prop :=
  ∀ user ∈ store.users, ¬ held user.id → user ∈ store'.users

/-- A revocation deletes the user it names. -/
def InviteRequest.Names (request : InviteRequest) (userId : Uuid) : Prop :=
  ∀ orgId other, request.call = .revokeInvite orgId other → other = userId

/-- What a transaction knows in a phase. -/
def InviteRequest.Knows (hashInviteToken : Text → Text) (request : InviteRequest)
    (store : InviteStore τ) (held : Uuid → Prop) : InvitePhase → Prop
  | .claimLocked _ userId => held userId
  | .claimed calledAt user => held user.id ∧ user ∈ store.users ∧
      ∃ passwordHash, Accepts hashInviteToken request user passwordHash calledAt
  | .deleting _ userId => request.Names userId
  | .deleteWaiting _ userId => request.Names userId
  | .deleteLocked _ userId => request.Names userId ∧ held userId
  | .deleted userId => request.Names userId ∧ held userId ∧
      ∃ user ∈ store.users, user.id = userId ∧ user.inviteTokenHash.isSome = true
  | _ => True

theorem Accepts.pending {request : InviteRequest} {user : User} {passwordHash : Text}
    {calledAt : Time} (accepts : Accepts hashInviteToken request user passwordHash calledAt) :
    user.inviteTokenHash.isSome = true := by
  obtain ⟨token, password, _, ⟨carried, _⟩, _⟩ := accepts
  rw [carried]
  rfl

namespace Settled

theorem not_accepted (settled : Settled hashInviteToken initial requests store) {user : User}
    (stored : user ∈ store.users) (pending : user.inviteTokenHash.isSome = true) {call : τ}
    {invite : ClaimedInvite} {calledAt : Time}
    (answered : (call, InviteAnswer.tokens invite calledAt) ∈ store.answers) :
    invite.id ≠ user.id := by
  obtain ⟨owner, _, passwordHash, rfl, _, accepted⟩ :=
    settled.accepted call invite calledAt answered
  intro same
  have equal : acceptedRow owner passwordHash = user := store.eq_of_id accepted stored same
  rw [← equal] at pending
  simp [acceptedRow, CredentialEdit.apply] at pending

theorem claim (settled : Settled hashInviteToken initial requests store) {user : User}
    (stored : user ∈ store.users) (pending : user.inviteTokenHash.isSome = true)
    (passwordHash : Text) :
    Settled hashInviteToken initial requests (store.claim user.id passwordHash) where
  pending := by
    intro row member carries
    obtain ⟨old, oldStored, rfl⟩ := List.mem_map.mp member
    have unchanged := InviteStore.claimRow_of_pending carries
    rw [unchanged] at carries ⊢
    exact settled.pending old oldStored carries
  accepted := by
    intro call invite calledAt answered
    obtain ⟨owner, known, ownHash, rfl, accepts, kept⟩ :=
      settled.accepted call invite calledAt answered
    refine ⟨owner, known, ownHash, rfl, accepts, InviteStore.mem_claim_of_ne kept ?_⟩
    exact settled.not_accepted stored pending answered
  once := settled.once
  revoked := by
    intro call orgId userId answered called row member
    obtain ⟨old, oldStored, rfl⟩ := List.mem_map.mp member
    rw [InviteStore.claimRow_id]
    exact settled.revoked call orgId userId answered called old oldStored

theorem delete (settled : Settled hashInviteToken initial requests store) {user : User}
    (stored : user ∈ store.users) (pending : user.inviteTokenHash.isSome = true) :
    Settled hashInviteToken initial requests (store.delete user.id) where
  pending := fun row member => settled.pending row (List.mem_of_mem_filter member)
  accepted := by
    intro call invite calledAt answered
    obtain ⟨owner, known, ownHash, rfl, accepts, kept⟩ :=
      settled.accepted call invite calledAt answered
    refine ⟨owner, known, ownHash, rfl, accepts, InviteStore.mem_delete_of_ne kept ?_⟩
    exact settled.not_accepted stored pending answered
  once := settled.once
  revoked := fun call orgId userId answered called row member =>
    settled.revoked call orgId userId answered called row (List.mem_of_mem_filter member)

theorem record_tokens (settled : Settled hashInviteToken initial requests store) {call : τ}
    {user : User} {passwordHash : Text} {calledAt : Time} (known : user ∈ initial.users)
    (accepts : Accepts hashInviteToken (requests call) user passwordHash calledAt)
    (row : acceptedRow user passwordHash ∈ store.users)
    (first : ∀ other invite earlier, (other, InviteAnswer.tokens invite earlier) ∈ store.answers →
      invite.id ≠ user.id) :
    Settled hashInviteToken initial requests
      (store.record call (.tokens user.claimedInvite calledAt)) where
  pending := settled.pending
  accepted := by
    intro other invite later answered
    rcases List.mem_cons.mp answered with new | old
    · cases new
      exact ⟨user, known, passwordHash, rfl, accepts, row⟩
    · exact settled.accepted other invite later old
  once := by
    intro one other invite second earlier later answered answeredToo same
    rcases List.mem_cons.mp answered with new | old
    · rcases List.mem_cons.mp answeredToo with newToo | oldToo
      · cases new
        cases newToo
        rfl
      · cases new
        exact absurd same.symm (first other second later oldToo)
    · rcases List.mem_cons.mp answeredToo with newToo | oldToo
      · cases newToo
        exact absurd same (first one invite earlier old)
      · exact settled.once one other invite second earlier later old oldToo same
  revoked := by
    intro other orgId userId answered
    rcases List.mem_cons.mp answered with new | old
    · cases new
    · exact settled.revoked other orgId userId old

theorem record_other (settled : Settled hashInviteToken initial requests store) {call : τ}
    {answer : InviteAnswer} (silent : ∀ invite calledAt, answer ≠ .tokens invite calledAt)
    (gone : answer = .revoked → ∀ orgId userId,
      (requests call).call = .revokeInvite orgId userId →
        ∀ user ∈ store.users, user.id ≠ userId) :
    Settled hashInviteToken initial requests (store.record call answer) := by
  have earlier : ∀ {other invite calledAt},
      (other, InviteAnswer.tokens invite calledAt) ∈ (store.record call answer).answers →
      (other, InviteAnswer.tokens invite calledAt) ∈ store.answers := by
    intro other invite calledAt answered
    rcases List.mem_cons.mp answered with new | old
    · exact absurd (congrArg Prod.snd new).symm (silent invite calledAt)
    · exact old
  refine
    { pending := settled.pending
      accepted := fun other invite later answered =>
        settled.accepted other invite later (earlier answered)
      once := fun one other invite second before after answered answeredToo =>
        settled.once one other invite second before after (earlier answered)
          (earlier answeredToo)
      revoked := ?_ }
  intro other orgId userId answered
  rcases List.mem_cons.mp answered with new | old
  · cases new
    exact gone rfl orgId userId
  · exact settled.revoked other orgId userId old

end Settled

/-- The `DELETE` moves on without a commit. -/
theorem deleteProgram_sound {request : InviteRequest} {held : Uuid → Prop} {phase : InvitePhase}
    (knows : request.Knows hashInviteToken store held phase) :
    (deleteProgram store request.tenant phase).Sound (Settled hashInviteToken initial requests)
      RowsKept (request.Knows hashInviteToken) store held := by
  rw [deleteProgram.eq_def]
  split
  · rename_i orgId userId
    split
    · trivial
    · exact knows
  · rename_i orgId userId
    split
    · trivial
    · exact ⟨knows, .inl rfl⟩
  · rename_i orgId userId
    split
    · trivial
    · rename_i user found
      rw [InviteStore.findDeletable] at found
      obtain ⟨stored, same, _, carried, _⟩ := lookup_some found
      exact ⟨knows.1, knows.2, user, stored, same, carried⟩
  · trivial

/-- What the commit of a `DELETE` leaves. -/
theorem delete_sound (settled : Settled hashInviteToken initial requests store)
    {request : InviteRequest} {held : Uuid → Prop} {userId : Uuid}
    (knows : request.Knows hashInviteToken store held (.deleted userId)) :
    Settled hashInviteToken initial requests (store.delete userId) ∧
      RowsKept held store (store.delete userId) := by
  obtain ⟨_, locked, user, stored, rfl, pending⟩ := knows
  refine ⟨settled.delete stored pending, ?_⟩
  intro row rowStored free
  apply InviteStore.mem_delete_of_ne rowStored
  intro same
  exact free (same ▸ locked)

theorem revokeProgram_sound (settled : Settled hashInviteToken initial requests store) {call : τ}
    {orgId userId : Uuid} (called : (requests call).call = .revokeInvite orgId userId)
    {held : Uuid → Prop} {phase : InvitePhase}
    (knows : (requests call).Knows hashInviteToken store held phase) :
    (revokeProgram call store (requests call).tenant orgId userId phase).Sound
      (Settled hashInviteToken initial requests) RowsKept
      ((requests call).Knows hashInviteToken) store held := by
  rw [revokeProgram.eq_def]
  split
  · intro org other sameCall
    rw [called] at sameCall
    cases sameCall
    rfl
  · rename_i target
    obtain ⟨deleted, rows⟩ := delete_sound settled knows
    refine ⟨deleted.record_other (by simp) ?_, rows⟩
    intro _ org other sameCall user member
    rw [knows.1 org other sameCall]
    exact of_decide_eq_true (List.mem_filter.mp member).2
  · trivial
  · trivial
  · exact deleteProgram_sound knows

theorem infoProgram_sound (settled : Settled hashInviteToken initial requests store) {call : τ}
    {now : Time} {token : Text} (called : (requests call).call = .getInviteInfo token)
    {tokenHash : Text} {held : Uuid → Prop} {phase : InvitePhase}
    (knows : (requests call).Knows hashInviteToken store held phase) :
    (infoProgram call now store (requests call).tenant tokenHash phase).Sound
      (Settled hashInviteToken initial requests) RowsKept
      ((requests call).Knows hashInviteToken) store held := by
  have names : ∀ userId, (requests call).Names userId := by
    intro userId org other sameCall
    rw [called] at sameCall
    cases sameCall
  rw [infoProgram.eq_def]
  split
  · split
    · trivial
    · trivial
  · rename_i user
    split
    · exact names user.id
    · trivial
  · split
    · trivial
    · trivial
  · exact ⟨settled.record_other (by simp) (by simp), fun _ stored _ => stored⟩
  · exact delete_sound settled knows
  · exact ⟨settled, fun _ stored _ => stored⟩
  · trivial
  · exact deleteProgram_sound knows

theorem acceptProgram_sound (settled : Settled hashInviteToken initial requests store) {call : τ}
    {now : Time} {token password passwordHash : Text}
    (called : (requests call).call = .acceptInvite token password passwordHash)
    {held : Uuid → Prop} {phase : InvitePhase}
    (knows : (requests call).Knows hashInviteToken store held phase) :
    (acceptProgram classes call now store (requests call).tenant (hashInviteToken token) password
        passwordHash phase).Sound
      (Settled hashInviteToken initial requests) RowsKept
      ((requests call).Knows hashInviteToken) store held := by
  have names : ∀ userId, (requests call).Names userId := by
    intro userId org other sameCall
    rw [called] at sameCall
    cases sameCall
  rw [acceptProgram.eq_def]
  split
  · split
    · trivial
    · trivial
  · split
    · trivial
    · trivial
  · split
    · trivial
    · exact .inl rfl
  · rename_i calledAt userId
    split
    · trivial
    · rename_i user found
      obtain ⟨stored, rfl⟩ := InviteStore.row_some found
      split
      · rename_i claimable
        exact ⟨knows, stored, passwordHash, token, password, called, claimable⟩
      · trivial
  · rename_i calledAt user
    obtain ⟨locked, stored, ownHash, accepts⟩ := knows
    have sameHash : ownHash = passwordHash := by
      obtain ⟨_, _, sameCall, _⟩ := accepts
      rw [called] at sameCall
      cases sameCall
      rfl
    subst sameHash
    have pending := accepts.pending
    refine ⟨(settled.claim stored pending ownHash).record_tokens
      (settled.pending user stored pending) accepts ?_ ?_, ?_⟩
    · have row := List.mem_map_of_mem (f := InviteStore.claimRow user.id ownHash) stored
      rwa [InviteStore.claimRow, if_pos rfl] at row
    · intro other invite earlier answered
      exact settled.not_accepted stored pending answered
    · intro row rowStored free
      apply InviteStore.mem_claim_of_ne rowStored
      intro same
      exact free (same ▸ locked)
  · split
    · trivial
    · trivial
  · rename_i stale
    split
    · exact names stale.id
    · trivial
  · exact delete_sound settled knows
  · exact ⟨settled, fun _ stored _ => stored⟩
  · trivial
  · exact deleteProgram_sound knows

theorem InviteRequest.program_sound (settled : Settled hashInviteToken initial requests store)
    {call : τ} {now : Time} {held : Uuid → Prop} {phase : InvitePhase}
    (knows : (requests call).Knows hashInviteToken store held phase) :
    ((requests call).program classes hashInviteToken call now store phase).Sound
      (Settled hashInviteToken initial requests) RowsKept
      ((requests call).Knows hashInviteToken) store held := by
  rw [InviteRequest.program]
  split
  · rename_i orgId userId called
    exact revokeProgram_sound settled called knows
  · rename_i token called
    exact infoProgram_sound settled called knows
  · rename_i token password passwordHash called
    exact acceptProgram_sound settled called knows

/-- Rows that nobody else holds stay as a transaction knows them. -/
theorem InviteRequest.Knows.framed {request : InviteRequest} {store' : InviteStore τ}
    {held own : Uuid → Prop} {phase : InvitePhase}
    (knows : request.Knows hashInviteToken store own phase)
    (apart : ∀ userId, own userId → ¬ held userId) (kept : RowsKept held store store') :
    request.Knows hashInviteToken store' own phase := by
  cases phase with
  | claimed calledAt user =>
      obtain ⟨locked, stored, accepts⟩ := knows
      exact ⟨locked, kept user stored (apart _ locked), accepts⟩
  | deleted userId =>
      obtain ⟨names, locked, user, stored, same, pending⟩ := knows
      exact ⟨names, locked, user, kept user stored (same ▸ apart _ locked), same, pending⟩
  | claimLocked calledAt userId => exact knows
  | deleting orgId userId => exact knows
  | deleteWaiting orgId userId => exact knows
  | deleteLocked orgId userId => exact knows
  | _ => trivial

end Rules

section Runs

variable {τ : Type} [DecidableEq τ] {classes : CharClasses} {hashInviteToken : Text → Text}
variable {initial : InviteStore τ} {requests : τ → InviteRequest} {system : InviteSystem τ}

namespace InviteSystem

/-- The rows and answers are settled, and every transaction knows what its phase
says. -/
def Sound (hashInviteToken : Text → Text) (initial : InviteStore τ)
    (requests : τ → InviteRequest) (system : InviteSystem τ) : Prop :=
  system.database.Consistent (Settled hashInviteToken initial requests)
    fun call store held phase => (requests call).Knows hashInviteToken store held phase

omit [DecidableEq τ] in
theorem Sound.start (now : Time) (initial : InviteStore τ) :
    (InviteSystem.start now initial).Sound hashInviteToken initial requests := by
  refine ⟨⟨fun user stored _ => stored, ?_, ?_, ?_⟩, fun _ => trivial⟩
  · intro call invite calledAt answered
    cases answered
  · intro first second invite other calledAt later answered
    cases answered
  · intro call orgId userId answered
    cases answered

theorem Sound.perform (sound : system.Sound hashInviteToken initial requests)
    (event : InviteEvent τ) :
    (system.perform classes hashInviteToken requests event).Sound hashInviteToken initial
      requests := by
  cases event with
  | tick elapsed => exact sound
  | act action =>
      apply Database.Consistent.perform sound RowsKept action
      · intro call store held
        trivial
      · intro call _
        exact InviteRequest.program_sound sound.store (sound.transactions call)
      · intro call store held own phase apart kept knows
        exact knows.framed apart kept

theorem Sound.run (now : Time) (initial : InviteStore τ) (events : List (InviteEvent τ)) :
    (events.foldl (InviteSystem.perform classes hashInviteToken requests)
      (.start now initial)).Sound hashInviteToken initial requests :=
  List.foldlRecOn events _ (Sound.start now initial) fun _ sound event _ => sound.perform event

/-- A call that accepts the invite of a token has returned tokens. -/
def AcceptedAt (requests : τ → InviteRequest) (hashInviteToken : Text → Text)
    (system : InviteSystem τ) (tokenHash : Text) (call : τ) (calledAt : Time) : Prop :=
  ∃ token password passwordHash invite,
    (requests call).call = .acceptInvite token password passwordHash ∧
      hashInviteToken token = tokenHash ∧ system.Returns requests call (.tokens invite calledAt)

omit [DecidableEq τ] in
/-- Tokens that are not committed are those of a claimed row. -/
theorem answer_tokens {call : InviteCall} {phase : InvitePhase} {invite : ClaimedInvite}
    {calledAt : Time} (answered : call.answer phase = some (.tokens invite calledAt)) :
    ∃ user, phase = .claimed calledAt user ∧ invite = user.claimedInvite := by
  rw [InviteCall.answer.eq_def] at answered
  split at answered
  · rename_i user
    cases answered
    exact ⟨user, rfl, rfl⟩
  · cases answered
  · cases answered
  · cases answered

omit [DecidableEq τ] in
theorem answer_revoked {call : InviteCall} {phase : InvitePhase}
    (answered : call.answer phase = some .revoked) : ∃ userId, phase = .deleted userId := by
  rw [InviteCall.answer.eq_def] at answered
  split at answered
  · cases answered
  · cases answered
  · rename_i userId
    exact ⟨userId, rfl⟩
  · cases answered

omit [DecidableEq τ] in
/-- The invite of a token is that of the one row that carries it. -/
theorem Accepts.unique {call : τ} {token password passwordHash ownHash : Text} {calledAt : Time}
    {user owner : User} (stored : user ∈ initial.users)
    (carried : user.inviteTokenHash = some (hashInviteToken token))
    (called : (requests call).call = .acceptInvite token password passwordHash)
    (known : owner ∈ initial.users)
    (accepts : Accepts hashInviteToken (requests call) owner ownHash calledAt) :
    owner = user ∧ calledAt - inviteExpiry ≤ user.createdAt := by
  have pending := accepts.pending
  obtain ⟨_, _, sameCall, ⟨ownToken, _⟩, inTime⟩ := accepts
  rw [called] at sameCall
  cases sameCall
  have equal := initial.tokens owner known user stored pending (ownToken.trans carried.symm)
  exact ⟨equal, equal ▸ inTime⟩

omit [DecidableEq τ] in
/-- An accepted invite is in time, and it is committed with its row, or its row
is still locked by the call. -/
theorem AcceptedAt.cases (sound : system.Sound hashInviteToken initial requests) {user : User}
    {tokenHash : Text} (stored : user ∈ initial.users)
    (carried : user.inviteTokenHash = some tokenHash) {call : τ} {calledAt : Time}
    (accepted : system.AcceptedAt requests hashInviteToken tokenHash call calledAt) :
    calledAt - inviteExpiry ≤ user.createdAt ∧
      ((call, .tokens user.claimedInvite calledAt) ∈ system.database.committed.answers ∧
          (∃ passwordHash, acceptedRow user passwordHash ∈ system.database.committed.users) ∨
        system.database.rows user.id = some call ∧ user ∈ system.database.committed.users ∧
          user.inviteTokenHash.isSome = true ∧
          system.database.phase call = .claimed calledAt user) := by
  obtain ⟨token, password, passwordHash, invite, called, rfl, returned⟩ := accepted
  rcases returned with answered | answered
  · obtain ⟨owner, known, ownHash, rfl, accepts, row⟩ :=
      sound.store.accepted call invite calledAt answered
    obtain ⟨rfl, inTime⟩ := Accepts.unique stored carried called known accepts
    exact ⟨inTime, .inl ⟨answered, ownHash, row⟩⟩
  · obtain ⟨owner, phase, rfl⟩ := answer_tokens answered
    have knows := sound.transactions call
    rw [phase] at knows
    obtain ⟨locked, current, ownHash, accepts⟩ := knows
    have pending := accepts.pending
    have known := sound.store.pending owner current pending
    obtain ⟨rfl, inTime⟩ := Accepts.unique stored carried called known accepts
    exact ⟨inTime, .inr ⟨locked, current, pending, phase⟩⟩

end InviteSystem

/-- An invite is consumed once.  In every interleaving of calls to accept, to
show and to revoke the invite of a pending user, at most one call accepts it,
and when it read the clock the invite was not older than the window.  From then
on no clean-up and no revocation deletes the user, and no call has reported a
revocation. -/
theorem invite_consumed_once (classes : CharClasses) (hashInviteToken : Text → Text)
    (initial : InviteStore τ) (requests : τ → InviteRequest) (now : Time)
    (events : List (InviteEvent τ)) {user : User} {tokenHash : Text}
    (stored : user ∈ initial.users) (carried : user.inviteTokenHash = some tokenHash) :
    let system := events.foldl (InviteSystem.perform classes hashInviteToken requests)
      (.start now initial)
    (∀ first second earlier later,
      system.AcceptedAt requests hashInviteToken tokenHash first earlier →
      system.AcceptedAt requests hashInviteToken tokenHash second later → first = second) ∧
    ∀ call calledAt, system.AcceptedAt requests hashInviteToken tokenHash call calledAt →
      calledAt - user.createdAt ≤ inviteExpiry ∧
      (∃ row ∈ system.database.committed.users, row.id = user.id) ∧
      ∀ other orgId, (requests other).call = .revokeInvite orgId user.id →
        ¬ system.Returns requests other .revoked := by
  intro system
  have sound : system.Sound hashInviteToken initial requests :=
    InviteSystem.Sound.run now initial events
  refine ⟨?_, ?_⟩
  · intro first second earlier later one other
    obtain ⟨_, one⟩ := one.cases sound stored carried
    obtain ⟨_, other⟩ := other.cases sound stored carried
    rcases one with ⟨answered, _⟩ | ⟨locked, current, pending, _⟩
    · rcases other with ⟨answeredToo, _⟩ | ⟨_, current, pending, _⟩
      · exact sound.store.once first second _ _ earlier later answered answeredToo rfl
      · exact absurd rfl (sound.store.not_accepted current pending answered)
    · rcases other with ⟨answered, _⟩ | ⟨lockedToo, _⟩
      · exact absurd rfl (sound.store.not_accepted current pending answered)
      · exact Option.some.inj (locked.symm.trans lockedToo)
  · intro call calledAt accepted
    obtain ⟨inTime, status⟩ := accepted.cases sound stored carried
    have present : ∃ row ∈ system.database.committed.users, row.id = user.id := by
      rcases status with ⟨_, passwordHash, row⟩ | ⟨_, current, _⟩
      · exact ⟨acceptedRow user passwordHash, row, rfl⟩
      · exact ⟨user, current, rfl⟩
    refine ⟨Int.sub_left_le_of_le_add (Int.le_add_of_sub_right_le inTime), present, ?_⟩
    intro other orgId revokes returned
    rcases returned with answered | answered
    · obtain ⟨row, current, same⟩ := present
      exact sound.store.revoked other orgId user.id answered revokes row current same
    · obtain ⟨userId, deleted⟩ := InviteSystem.answer_revoked answered
      have knows := sound.transactions other
      rw [deleted] at knows
      obtain ⟨names, locked, row, current, rfl, pending⟩ := knows
      have same : user.id = row.id := names orgId user.id revokes
      rcases status with ⟨answered, _⟩ | ⟨lockedToo, _, _, claimed⟩
      · exact absurd same (sound.store.not_accepted current pending answered)
      · have holder : some other = some call := by
          rw [← locked, ← same, lockedToo]
        cases holder
        rw [deleted] at claimed
        cases claimed

/-- A pending user of organization 1, invited at the start of the clock. -/
def pendingInvite : User :=
  { id := 5
    organizationId := 1
    externalId := "invitee".toList
    name := some "Ada".toList
    email := some "ada@example.org".toList
    role := .member
    permissions := []
    passwordHash := none
    isActive := true
    isDeleted := false
    isEmailVerified := false
    mfaEnabled := false
    mustChangePassword := false
    inviteTokenHash := some "token".toList
    createdAt := 0 }

inductive Racer where
  | first
  | second
  | admin
  deriving DecidableEq

def oneInvite : InviteStore Racer :=
  { users := [pendingInvite]
    organizations := []
    answers := []
    ids := by decide
    tokens := by decide }

/-- Two calls accept the invite while an admin revokes it. -/
def inviteRequests : Racer → InviteRequest
  | .first => ⟨none, .acceptInvite "token".toList "Secret123".toList "first".toList⟩
  | .second => ⟨none, .acceptInvite "token".toList "Secret456".toList "second".toList⟩
  | .admin => ⟨some 1, .revokeInvite 1 5⟩

def asciiClasses : CharClasses := ⟨Char.isUpper, Char.isLower, Char.isDigit⟩

/-- All three find the row before the first call locks it. -/
def inviteRace : List (InviteEvent Racer) :=
  [.act (.advance .first), .tick 3600, .act (.advance .second), .act (.advance .admin),
    .act (.advance .first), .act (.advance .second), .act (.advance .admin),
    .act (.advance .first), .act (.advance .second), .act (.advance .first),
    .act (.advance .first), .act (.advance .admin), .act (.advance .admin),
    .act (.advance .admin), .act (.advance .second), .act (.advance .second),
    .act (.advance .second)]

theorem invite_race_consumed_once :
    let system := inviteRace.foldl (InviteSystem.perform asciiClasses id inviteRequests)
      (.start 0 oneInvite)
    system.AcceptedAt inviteRequests id "token".toList .first 0 ∧
      ¬ system.AcceptedAt inviteRequests id "token".toList .second 3600 ∧
      ¬ system.Returns inviteRequests .admin .revoked := by
  intro system
  have consumed := invite_consumed_once asciiClasses id oneInvite inviteRequests 0 inviteRace
    (List.mem_singleton.mpr rfl : pendingInvite ∈ oneInvite.users) rfl
  have accepted : system.AcceptedAt inviteRequests id "token".toList .first 0 :=
    ⟨"token".toList, "Secret123".toList, "first".toList, ⟨5, 1, .member⟩, rfl, rfl,
      .inl (by decide +kernel)⟩
  refine ⟨accepted, ?_, (consumed.2 .first 0 accepted).2.2 .admin 1 rfl⟩
  intro second
  exact absurd (consumed.1 .first .second 0 3600 accepted second) (by decide)

end Runs

end OpenZync.Auth
