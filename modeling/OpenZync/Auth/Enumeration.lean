import OpenZync.Auth.AnonymousCalls

/-!
# What the answers tell about an account

Every endpoint answers for a missing account as it does for one that is there,
as long as no limit is reached.  Cooldowns, send counts and attempts are kept
for existing accounts only, so a limit that is reached gives the account away.
-/

namespace OpenZync.Auth

open OpenZync.Library

namespace AnonymousAccess

variable (access : AnonymousAccess)

/-- The answer that does not depend on the account. -/
def refusal : AnonymousCall → AuthOutcome
  | .generateLoginOtp => loginOtpResponse
  | .forgotPassword => forgotPasswordResponse
  | .resendVerification => access.resendResponse
  | .passwordlessLogin _ => invalidLoginCode
  | .resetPassword _ _ => invalidResetCode
  | .verifyEmail _ => invalidVerificationCode

/-- The code is not the one whose hash is stored. -/
def Wrong (keys : OtpKeys) (now : Time) (purpose : OtpPurpose) (otp : Text) : Prop :=
  Expiring.get (keys.hashes purpose) now ≠ some (access.hashOtp (Text.strip otp))

instance (keys : OtpKeys) (now : Time) (purpose : OtpPurpose) (otp : Text) :
    Decidable (access.Wrong keys now purpose otp) :=
  inferInstanceAs (Decidable (_ ≠ _))

/-- The call brings no right code. -/
def WrongCode (state : AuthState) (timed : TimedCall) : Prop :=
  match timed.call with
  | .passwordlessLogin otp => access.Wrong state.keys timed.now .passwordlessLogin otp
  | .resetPassword otp _ => access.Wrong state.keys timed.now .passwordReset otp
  | .verifyEmail otp => access.Wrong state.keys timed.now .signup otp
  | _ => True

instance (state : AuthState) (timed : TimedCall) : Decidable (access.WrongCode state timed) := by
  unfold WrongCode
  split <;> infer_instance

/-- A code can be sent: no cooldown is running and the hour has sends left. -/
def MaySend (keys : OtpKeys) (now : Time) : Prop :=
  keys.coolingDown now = false ∧ keys.sent now < maxSendsPerHour

instance (keys : OtpKeys) (now : Time) : Decidable (MaySend keys now) :=
  inferInstanceAs (Decidable (_ ∧ _))

/-- A code can be checked: none is stored, or it has attempts left. -/
def MayCheck (keys : OtpKeys) (now : Time) (purpose : OtpPurpose) : Prop :=
  Expiring.get (keys.hashes purpose) now = none ∨
    (Expiring.get (keys.attempts purpose) now).getD 0 < maxAttempts

instance (keys : OtpKeys) (now : Time) (purpose : OtpPurpose) :
    Decidable (MayCheck keys now purpose) :=
  inferInstanceAs (Decidable (_ ∨ _))

/-- What the call would do for the user is not limited. -/
def Unlimited (user : User) (keys : OtpKeys) (timed : TimedCall) : Prop :=
  match timed.call with
  | .generateLoginOtp => MaySend keys timed.now
  | .forgotPassword => MaySend keys timed.now
  | .resendVerification => user.isEmailVerified = true ∨ MaySend keys timed.now
  | .passwordlessLogin _ => MayCheck keys timed.now .passwordlessLogin
  | .resetPassword _ _ => MayCheck keys timed.now .passwordReset
  | .verifyEmail _ => MayCheck keys timed.now .signup

instance (user : User) (keys : OtpKeys) (timed : TimedCall) :
    Decidable (Unlimited user keys timed) := by
  unfold Unlimited
  split <;> infer_instance

end AnonymousAccess

section Keys

variable {keys : OtpKeys} {now : Time} {purpose : OtpPurpose}

theorem Expiring.incr_value (entry : Option (Expiring Nat)) (now : Time) :
    (Expiring.incr entry now).value = (Expiring.get entry now).getD 0 + 1 := by
  cases entry with
  | none => rfl
  | some old =>
      unfold Expiring.incr
      cases Expiring.get (some old) now with
      | none => rfl
      | some count => rfl

theorem checkRateLimits_ok_iff (keys : OtpKeys) (now : Time) :
    keys.checkRateLimits now = .ok () ↔ AnonymousAccess.MaySend keys now := by
  unfold OtpKeys.checkRateLimits AnonymousAccess.MaySend
  split
  · rename_i cooling
    simp [cooling]
  · rename_i idle
    split
    · rename_i many
      simp only [reduceCtorEq, false_iff, not_and, Nat.not_lt]
      exact fun _ => many
    · rename_i few
      exact iff_of_true rfl ⟨by simpa using idle, Nat.not_le.mp few⟩

/-- A wrong code makes `verify` return `False`, or raise at the limit. -/
theorem verify_wrong {inputHash : Text}
    (wrong : Expiring.get (keys.hashes purpose) now ≠ some inputHash) :
    (AnonymousAccess.MayCheck keys now purpose ∧
        (keys.verify now purpose inputHash).1 = .ok false) ∨
      ¬ AnonymousAccess.MayCheck keys now purpose ∧
        (keys.verify now purpose inputHash).1 = .error tooManyAttempts := by
  unfold OtpKeys.verify AnonymousAccess.MayCheck
  cases stored : Expiring.get (keys.hashes purpose) now with
  | none => exact Or.inl ⟨Or.inl rfl, rfl⟩
  | some storedHash =>
      have different : inputHash ≠ storedHash := by
        rintro rfl
        exact wrong stored
      simp only [Expiring.incr_value]
      split
      · rename_i many
        refine Or.inr ⟨?_, rfl⟩
        rintro (absent | few)
        · cases absent
        · omega
      · rename_i few
        exact Or.inl ⟨Or.inr (by omega), rfl⟩

end Keys

namespace AnonymousAccess

variable {access : AnonymousAccess} {state : AuthState} {timed : TimedCall} {user : User}
variable {purpose : OtpPurpose}

theorem sendCode_spec (timed : TimedCall) (purpose : OtpPurpose) (gets : User → Bool)
    (generic : AuthOutcome)
    (found : Users.findByEmail state.users access.email = some user)
    (answers : ∀ error, generic ≠ .error error) :
    ((access.sendCode timed purpose gets generic state).1 = generic ↔
        gets user = false ∨ MaySend state.keys timed.now) ∧
      (access.sendCode timed purpose gets generic state).2.users = state.users := by
  unfold sendCode
  simp only [found]
  by_cases receives : gets user = true
  · have limits := checkRateLimits_ok_iff state.keys timed.now
    simp only [if_pos receives, OtpKeys.generateAndSend]
    cases checked : state.keys.checkRateLimits timed.now with
    | error error =>
        refine ⟨iff_of_false (fun same => answers error same.symm) ?_, rfl⟩
        rintro (silent | may)
        · rw [receives] at silent
          cases silent
        · rw [limits.mpr may] at checked
          cases checked
    | ok done => exact ⟨iff_of_true rfl (Or.inr (limits.mp checked)), rfl⟩
  · simp only [if_neg receives]
    exact ⟨iff_of_true trivial (Or.inl (by simpa using receives)), trivial⟩

theorem checkCode_spec {otp : Text} {invalid : AuthOutcome}
    (found : Users.findByEmail state.users access.email = some user) (live : user.Live)
    (wrong : access.Wrong state.keys timed.now purpose otp)
    (refuses : invalid ≠ .error tooManyAttempts) :
    ((access.checkCode timed purpose otp invalid state).1 = invalid ↔
        MayCheck state.keys timed.now purpose) ∧
      (access.checkCode timed purpose otp invalid state).2.users = state.users := by
  unfold checkCode
  simp only [found, if_pos live]
  rcases verify_wrong wrong with ⟨may, returned⟩ | ⟨limited, raised⟩
  · split
    · rename_i error keys equal
      rw [equal] at returned
      cases returned
    · exact ⟨iff_of_true rfl may, rfl⟩
    · rename_i keys equal
      rw [equal] at returned
      cases returned
  · split
    · rename_i error keys equal
      rw [equal] at raised
      cases raised
      exact ⟨iff_of_false (fun same => refuses same.symm) limited, rfl⟩
    · rename_i keys equal
      rw [equal] at raised
      cases raised
    · rename_i keys equal
      rw [equal] at raised
      cases raised

theorem perform_spec (found : Users.findByEmail state.users access.email = some user)
    (live : user.Live) (password : user.passwordHash.isSome = true)
    (wrong : access.WrongCode state timed) :
    ((access.perform state timed).1 = access.refusal timed.call ↔
        Unlimited user state.keys timed) ∧
      (access.after state timed).users = state.users := by
  unfold after perform WrongCode Unlimited at *
  cases call : timed.call with
  | generateLoginOtp =>
      obtain ⟨answer, users⟩ := sendCode_spec timed .passwordlessLogin
        (fun user => decide user.Live) loginOtpResponse found fun _ => nofun
      exact ⟨answer.trans (by simp [live]), users⟩
  | forgotPassword =>
      obtain ⟨answer, users⟩ := sendCode_spec timed .passwordReset
        (fun user => user.passwordHash.isSome) forgotPasswordResponse found fun _ => nofun
      exact ⟨answer.trans (by simp [password]), users⟩
  | resendVerification =>
      obtain ⟨answer, users⟩ := sendCode_spec timed .signup
        (fun user => !user.isEmailVerified) access.resendResponse found fun _ => nofun
      exact ⟨answer.trans (by simp), users⟩
  | passwordlessLogin otp =>
      rw [call] at wrong
      exact checkCode_spec found live wrong (by decide)
  | resetPassword otp newPassword =>
      rw [call] at wrong
      exact checkCode_spec found live wrong (by decide)
  | verifyEmail otp =>
      rw [call] at wrong
      exact checkCode_spec found live wrong (by decide)

/-- Without an account every answer is the generic one, and nothing changes. -/
theorem perform_missing (missing : Users.findByEmail state.users access.email = none) :
    access.perform state timed = (access.refusal timed.call, state) := by
  unfold perform
  cases timed.call with
  | generateLoginOtp => simp only [generateLoginOtp, sendCode, missing, refusal]
  | forgotPassword => simp only [forgotPassword, sendCode, missing, refusal]
  | resendVerification => simp only [resendVerification, sendCode, missing, refusal]
  | passwordlessLogin otp => simp only [passwordlessLogin, checkCode, missing, refusal]
  | resetPassword otp newPassword => simp only [resetPassword, checkCode, missing, refusal]
  | verifyEmail otp => simp only [verifyEmail, checkCode, missing, refusal]

theorem outcomes_missing (missing : Users.findByEmail state.users access.email = none)
    (calls : List TimedCall) :
    access.outcomes state calls = calls.map fun timed => access.refusal timed.call := by
  induction calls with
  | nil => rfl
  | cons timed calls induction =>
      rw [outcomes, after, perform_missing missing, induction, List.map_cons]

theorem outcomes_eq_refusals_iff
    (found : Users.findByEmail state.users access.email = some user) (live : user.Live)
    (password : user.passwordHash.isSome = true) {calls : List TimedCall}
    (wrong : AllowedAlong access.after access.WrongCode state calls) :
    access.outcomes state calls = (calls.map fun timed => access.refusal timed.call) ↔
      AllowedAlong access.after (fun state timed => Unlimited user state.keys timed) state
        calls := by
  induction calls generalizing state with
  | nil => exact iff_of_true rfl trivial
  | cons timed calls induction =>
      obtain ⟨answer, users⟩ := perform_spec found live password wrong.1
      rw [outcomes, List.map_cons, List.cons.injEq, answer,
        induction (users ▸ found) wrong.2]
      exact Iff.rfl

end AnonymousAccess

/-- An active account with a password and no account at all give the same
answers exactly when, where there is the account, no call meets a limit. -/
theorem account_hidden_iff_unlimited (access : AnonymousAccess) {first second : AuthState}
    {user : User} (found : Users.findByEmail first.users access.email = some user)
    (active : user.isActive = true) (password : user.passwordHash.isSome = true)
    (missing : Users.findByEmail second.users access.email = none) {calls : List TimedCall}
    (wrong : AllowedAlong access.after access.WrongCode first calls) :
    access.outcomes first calls = access.outcomes second calls ↔
      AllowedAlong access.after
        (fun state timed => AnonymousAccess.Unlimited user state.keys timed) first calls := by
  have matched := List.find?_some found
  rw [decide_eq_true_eq] at matched
  rw [AnonymousAccess.outcomes_missing missing]
  exact AnonymousAccess.outcomes_eq_refusals_iff found ⟨active, matched.2⟩ password wrong

/-- Codes are their own hashes, and a right one logs in. -/
def plainAccess : AnonymousAccess :=
  { email := "a@b.c".toList
    hashOtp := id
    granted := fun _ user state => (.tokens user.id, state) }

def registered : User :=
  { id := 1
    organizationId := 2
    externalId := "u".toList
    name := none
    email := some "a@b.c".toList
    role := .member
    permissions := []
    passwordHash := some "h".toList
    isActive := true
    isDeleted := false
    isEmailVerified := true
    mfaEnabled := false
    mustChangePassword := false
    inviteTokenHash := none
    createdAt := 0 }

def noCodes : OtpKeys :=
  { hashes := fun _ => none
    attempts := fun _ => none
    cooldowns := fun _ => none
    sendCounts := fun _ => none }

def withAccount : AuthState :=
  { users := [registered]
    keys := noCodes }

def withoutAccount : AuthState :=
  { users := []
    keys := noCodes }

/-- A request for a reset, in microseconds. -/
def forgotAt (now : Time) : TimedCall :=
  { now := now
    drawn := "123456".toList
    call := .forgotPassword }

/-- A request, and a wrong code a second later. -/
def resetAttempt : List TimedCall :=
  [forgotAt 0, { forgotAt 1000000 with call := .resetPassword "000000".toList "New1word".toList }]

theorem account_hidden_after_reset_attempt :
    plainAccess.outcomes withAccount resetAttempt =
      plainAccess.outcomes withoutAccount resetAttempt :=
  (account_hidden_iff_unlimited plainAccess (show Users.findByEmail withAccount.users
    plainAccess.email = some registered by decide) rfl rfl rfl (by decide)).mpr (by decide)

/-- The second request within a minute tells. -/
theorem account_disclosed_by_cooldown :
    plainAccess.outcomes withAccount [forgotAt 0, forgotAt 1000000] ≠
      plainAccess.outcomes withoutAccount [forgotAt 0, forgotAt 1000000] := by
  decide

end OpenZync.Auth
