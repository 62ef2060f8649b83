import OpenZync.Auth.Accounts
import OpenZync.Auth.OneTimeCodes

/-!
# Anonymous calls

The endpoints that anybody can call with an address, over the accounts and the
Redis keys of the codes of that address, which expire.  E-mail is delivered.
What an endpoint goes on to do after a right code is a parameter.
-/

namespace OpenZync.Auth

open OpenZync.Library

/-- A Redis value with the instant up to which it is there. -/
structure Expiring (α : Type) where
  value : α
  expiresAt : Option Time

/-- `GET` -/
def Expiring.get {α : Type} (entry : Option (Expiring α)) (now : Time) : Option α :=
  match entry with
  | none => none
  | some entry =>
      if ∀ expiry ∈ entry.expiresAt, now ≤ expiry then some entry.value else none

/-- `SETEX`, with the time to live in seconds. -/
def Expiring.setex {α : Type} (now : Time) (seconds : Int) (value : α) : Option (Expiring α) :=
  some
    { value := value
      expiresAt := some (now + seconds * 1000000) }

/-- `INCR`: a value that is there keeps its expiry, a new one has none. -/
def Expiring.incr (entry : Option (Expiring Nat)) (now : Time) : Expiring Nat :=
  match entry, Expiring.get entry now with
  | some old, some count =>
      { value := count + 1
        expiresAt := old.expiresAt }
  | _, _ =>
      { value := 1
        expiresAt := none }

/-- The keys of one lower-cased address. -/
structure OtpKeys where
  hashes : OtpPurpose → Option (Expiring Text)
  attempts : OtpPurpose → Option (Expiring Nat)
  cooldowns : OtpPurpose → Option (Expiring Unit)
  /-- By the hour of the day and year. -/
  sendCounts : Int → Option (Expiring Nat)

def otpTtlSec : Int := 600

def attemptTtlSec : Int := 600

def cooldownSec : Int := 60

def maxSendsPerHour : Nat := 5

inductive AnonymousError where
  | authentication (message : Text)
  | validation (message : Text)
  | rateLimit (message : Text)
  deriving DecidableEq

/-- `RateLimitError` while a cooldown is running. -/
def pleaseWait : AnonymousError :=
  .rateLimit ("Please wait before requesting another code. ".toList ++
    "You can request a new code in about a minute.".toList)

def tooManySends : AnonymousError :=
  .rateLimit ("You have reached the maximum number of OTP requests ".toList ++
    "for this email address.  Please try again later.".toList)

def tooManyAttempts : AnonymousError :=
  .validation "Too many failed attempts.  Please request a new code.".toList

namespace OtpKeys

/-- The bucket `YYYYMMDDHH` of an instant. -/
def hourBucket (now : Time) : Int :=
  now / 3600000000

def coolingDown (keys : OtpKeys) (now : Time) : Bool :=
  [OtpPurpose.signup, .passwordReset, .passwordlessLogin, .mfa].any fun purpose =>
    (Expiring.get (keys.cooldowns purpose) now).isSome

/-- Codes sent in the running hour. -/
def sent (keys : OtpKeys) (now : Time) : Nat :=
  (Expiring.get (keys.sendCounts (hourBucket now)) now).getD 0

def checkRateLimits (keys : OtpKeys) (now : Time) : Except AnonymousError Unit :=
  if keys.coolingDown now then .error pleaseWait
  else if maxSendsPerHour ≤ keys.sent now then .error tooManySends
  else .ok ()

/-- `generate_and_send`, for the hash of the code it draws. -/
def generateAndSend (keys : OtpKeys) (now : Time) (purpose : OtpPurpose) (otpHash : Text) :
    Except AnonymousError OtpKeys :=
  match keys.checkRateLimits now with
  | .error error => .error error
  | .ok _ =>
      let counted := Expiring.incr (keys.sendCounts (hourBucket now)) now
      .ok
        { hashes := Function.update keys.hashes purpose (Expiring.setex now otpTtlSec otpHash)
          attempts := Function.update keys.attempts purpose (Expiring.setex now attemptTtlSec 0)
          cooldowns := Function.update keys.cooldowns purpose (Expiring.setex now cooldownSec ())
          sendCounts := Function.update keys.sendCounts (hourBucket now)
            (Expiring.setex now 3600 counted.value) }

/-- `DEL` of the hash, the attempts and the cooldown. -/
def delete (keys : OtpKeys) (purpose : OtpPurpose) : OtpKeys :=
  { keys with
    hashes := Function.update keys.hashes purpose none
    attempts := Function.update keys.attempts purpose none
    cooldowns := Function.update keys.cooldowns purpose none }

def verify (keys : OtpKeys) (now : Time) (purpose : OtpPurpose) (inputHash : Text) :
    Except AnonymousError Bool × OtpKeys :=
  match Expiring.get (keys.hashes purpose) now with
  | none => (.ok false, keys)
  | some storedHash =>
      let attempts := Expiring.incr (keys.attempts purpose) now
      let counted :=
        { keys with attempts := Function.update keys.attempts purpose (some attempts) }
      if maxAttempts < attempts.value then (.error tooManyAttempts, counted.delete purpose)
      else if inputHash = storedHash then (.ok true, counted.delete purpose)
      else (.ok false, counted)

end OtpKeys

inductive AuthOutcome where
  | otpResponse (message : Text)
  | signupResponse (message email : Text)
  | tokens (userId : Uuid)
  | error (error : AnonymousError)
  deriving DecidableEq

inductive AnonymousCall where
  | generateLoginOtp
  | forgotPassword
  | resendVerification
  | passwordlessLogin (otp : Text)
  | resetPassword (otp newPassword : Text)
  | verifyEmail (otp : Text)

/-- A call with the time it is made at and the code it draws if it sends one. -/
structure TimedCall where
  now : Time
  drawn : Text
  call : AnonymousCall

structure AuthState where
  users : List User
  keys : OtpKeys

/-- The address the calls are about, the hash of a code, and what an endpoint
does for the user after a right one. -/
structure AnonymousAccess where
  email : Text
  hashOtp : Text → Text
  granted : AnonymousCall → User → AuthState → AuthOutcome × AuthState

namespace AnonymousAccess

variable (access : AnonymousAccess)

/-- An endpoint that sends a code where there is a user who gets one, and gives
the same answer everywhere. -/
def sendCode (timed : TimedCall) (purpose : OtpPurpose) (gets : User → Bool)
    (generic : AuthOutcome) (state : AuthState) : AuthOutcome × AuthState :=
  match Users.findByEmail state.users access.email with
  | none => (generic, state)
  | some user =>
      if gets user then
        match state.keys.generateAndSend timed.now purpose (access.hashOtp timed.drawn) with
        | .error error => (.error error, state)
        | .ok keys => (generic, { state with keys := keys })
      else (generic, state)

/-- An endpoint that asks for a code, with one error for a wrong code and for a
missing user. -/
def checkCode (timed : TimedCall) (purpose : OtpPurpose) (otp : Text) (invalid : AuthOutcome)
    (state : AuthState) : AuthOutcome × AuthState :=
  match Users.findByEmail state.users access.email with
  | none => (invalid, state)
  | some user =>
      if user.Live then
        match state.keys.verify timed.now purpose (access.hashOtp (Text.strip otp)) with
        | (.error error, keys) => (.error error, { state with keys := keys })
        | (.ok false, keys) => (invalid, { state with keys := keys })
        | (.ok true, keys) => access.granted timed.call user { state with keys := keys }
      else (invalid, state)

def loginOtpResponse : AuthOutcome :=
  .otpResponse ("If an account exists with this email, ".toList ++
    "a login code has been sent.".toList)

def generateLoginOtp (timed : TimedCall) : AuthState → AuthOutcome × AuthState :=
  access.sendCode timed .passwordlessLogin (fun user => decide user.Live) loginOtpResponse

def forgotPasswordResponse : AuthOutcome :=
  .otpResponse ("If an account exists with this email, ".toList ++
    "a password reset code has been sent.".toList)

def forgotPassword (timed : TimedCall) : AuthState → AuthOutcome × AuthState :=
  access.sendCode timed .passwordReset (fun user => user.passwordHash.isSome)
    forgotPasswordResponse

def resendResponse : AuthOutcome :=
  .signupResponse ("If an account exists with this email, ".toList ++
    "a verification code has been sent.".toList) access.email

def resendVerification (timed : TimedCall) : AuthState → AuthOutcome × AuthState :=
  access.sendCode timed .signup (fun user => !user.isEmailVerified) access.resendResponse

def invalidLoginCode : AuthOutcome :=
  .error (.authentication ("Invalid or expired login code. ".toList ++
    "Please request a new code.".toList))

def passwordlessLogin (timed : TimedCall) (otp : Text) : AuthState → AuthOutcome × AuthState :=
  access.checkCode timed .passwordlessLogin otp invalidLoginCode

def invalidResetCode : AuthOutcome :=
  .error (.authentication ("Invalid or expired reset code. ".toList ++
    "Please request a new code.".toList))

def resetPassword (timed : TimedCall) (otp : Text) : AuthState → AuthOutcome × AuthState :=
  access.checkCode timed .passwordReset otp invalidResetCode

def invalidVerificationCode : AuthOutcome :=
  .error (.authentication ("Invalid or expired verification code. ".toList ++
    "Please request a new code.".toList))

def verifyEmail (timed : TimedCall) (otp : Text) : AuthState → AuthOutcome × AuthState :=
  access.checkCode timed .signup otp invalidVerificationCode

def perform (state : AuthState) (timed : TimedCall) : AuthOutcome × AuthState :=
  match timed.call with
  | .generateLoginOtp => access.generateLoginOtp timed state
  | .forgotPassword => access.forgotPassword timed state
  | .resendVerification => access.resendVerification timed state
  | .passwordlessLogin otp => access.passwordlessLogin timed otp state
  | .resetPassword otp _ => access.resetPassword timed otp state
  | .verifyEmail otp => access.verifyEmail timed otp state

/-- The state after a call. -/
def after (state : AuthState) (timed : TimedCall) : AuthState :=
  (access.perform state timed).2

/-- What the caller sees of a sequence of calls. -/
def outcomes : AuthState → List TimedCall → List AuthOutcome
  | _, [] => []
  | state, timed :: calls =>
      (access.perform state timed).1 :: outcomes (access.after state timed) calls

end AnonymousAccess

end OpenZync.Auth
