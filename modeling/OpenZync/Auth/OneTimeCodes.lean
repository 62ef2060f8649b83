import OpenZync.Library.AtMost
import OpenZync.Library.Execution
import OpenZync.Text

/-!
# One-time codes

`OtpService.verify` and `mfa_verify` as the Redis commands they issue, for any
number of callers and for codes that are not generated again.  A deletion
takes the counter away with the hash; what was read before goes on being
compared, against a counter that starts over.
-/

namespace OpenZync.Auth

open OpenZync.Library

inductive OtpPurpose where
  | signup
  | passwordReset
  | passwordlessLogin
  | mfa
  deriving DecidableEq

/-- What the keys of a code are made of: the purpose and the lower-cased
address. -/
structure OtpKey where
  purpose : OtpPurpose
  email : Text
  deriving DecidableEq

/-- `_MAX_ATTEMPTS`. -/
def maxAttempts : Nat :=
  5

/-- The payload of `mfa:session:`. -/
structure MfaSession where
  userId : Uuid
  orgId : Uuid
  role : Text
  email : Text
  deriving DecidableEq

inductive OtpCall where
  | verify (email : Text) (purpose : OtpPurpose) (code : Text)
  | mfaVerify (mfaSessionToken otp : Text)
  deriving DecidableEq

def OtpCall.code : OtpCall → Text
  | .verify _ _ code => code
  | .mfaVerify _ otp => otp

/-- The next command of a call, or how it ended. -/
inductive OtpPhase where
  | started
  /-- The session has been read and is about to be deleted. -/
  | closing (session : MfaSession)
  | verifying (key : OtpKey)
  /-- The hash has been read, the attempt is about to be counted. -/
  | read (key : OtpKey) (storedHash : Text)
  | exceeded (key : OtpKey)
  | matched (key : OtpKey)
  /-- `verify` returned `True`. -/
  | verified (key : OtpKey)
  /-- `issue_tokens` has been called. -/
  | issued (key : OtpKey)
  /-- The guess was compared and differs. -/
  | rejected (key : OtpKey)
  /-- There was no session or no hash. -/
  | absent
  /-- `ValidationError`: too many attempts. -/
  | raised
  /-- A command failed, after a comparison or before. -/
  | aborted (compared : Option OtpKey)
  deriving DecidableEq

namespace OtpPhase

/-- The code that the call has compared its guess with. -/
def compared : OtpPhase → Option OtpKey
  | .matched key => some key
  | .verified key => some key
  | .issued key => some key
  | .rejected key => some key
  | .aborted compared => compared
  | _ => none

/-- The code that the call has compared its guess with, or still may. -/
def mayCompare : OtpPhase → Option OtpKey
  | .read key _ => some key
  | phase => phase.compared

/-- The code for which the call has returned `True`. -/
def returnedTrue : OtpPhase → Option OtpKey
  | .verified key => some key
  | .issued key => some key
  | _ => none

/-- The code for which the call will return `True` if it runs to its end and
its attempt counts. -/
def mayReturnTrue (inputHash : Text) : OtpPhase → Option OtpKey
  | .read key storedHash => if inputHash = storedHash then some key else none
  | .matched key => some key
  | _ => none

/-- The code that the next command of the call deletes. -/
def deletes : OtpPhase → Option OtpKey
  | .exceeded key => some key
  | .matched key => some key
  | _ => none

end OtpPhase

structure OtpSystem (ρ : Type) where
  hashes : OtpKey → Option Text
  attempts : OtpKey → Option Nat
  sessions : Text → Option MfaSession
  calls : ρ → OtpPhase

/-- A command of a call, which may fail, or the end of a TTL. -/
inductive OtpAction (ρ : Type) where
  | advance (call : ρ) (reachable : Bool)
  | expireHash (key : OtpKey)
  | expireAttempts (key : OtpKey)
  | expireSession (token : Text)
  deriving DecidableEq

structure OtpTraffic (ρ : Type) where
  casing : Casing
  /-- `_hash_otp`. -/
  hashOtp : Text → Text
  calls : ρ → OtpCall

namespace OtpTraffic

variable {ρ : Type}

def inputHash (traffic : OtpTraffic ρ) (call : ρ) : Text :=
  traffic.hashOtp (Text.strip (traffic.calls call).code)

def key (traffic : OtpTraffic ρ) (email : Text) (purpose : OtpPurpose) : OtpKey :=
  { purpose := purpose
    email := traffic.casing.lower email }

end OtpTraffic

namespace OtpSystem

variable {ρ : Type}

/-- Codes have been generated and sessions stored; the counters start at 0. -/
def start (hashes : OtpKey → Option Text) (sessions : Text → Option MfaSession) :
    OtpSystem ρ :=
  { hashes := hashes
    attempts := fun key => (hashes key).map fun _ => 0
    sessions := sessions
    calls := fun _ => .started }

variable [DecidableEq ρ]

def setCall (system : OtpSystem ρ) (call : ρ) (phase : OtpPhase) : OtpSystem ρ :=
  { system with calls := Function.update system.calls call phase }

/-- `GET` of the hash. -/
def getHash (system : OtpSystem ρ) (call : ρ) (key : OtpKey) : OtpSystem ρ :=
  match system.hashes key with
  | none => system.setCall call .absent
  | some storedHash => system.setCall call (.read key storedHash)

/-- `DEL` of the hash and the counter. -/
def deleteCode (system : OtpSystem ρ) (key : OtpKey) : OtpSystem ρ :=
  { system with
    hashes := Function.update system.hashes key none
    attempts := Function.update system.attempts key none }

/-- What the reply to `INCR` leads to: the guess is compared when the attempt is
within the limit. -/
def attempt (traffic : OtpTraffic ρ) (call : ρ) (key : OtpKey) (storedHash : Text)
    (attempts : Nat) : OtpPhase :=
  if maxAttempts < attempts then .exceeded key
  else if traffic.inputHash call = storedHash then .matched key
  else .rejected key

/-- `INCR` of the counter. -/
def count (traffic : OtpTraffic ρ) (system : OtpSystem ρ) (call : ρ) (key : OtpKey)
    (storedHash : Text) : OtpSystem ρ :=
  let attempts := (system.attempts key).getD 0 + 1
  { system.setCall call (attempt traffic call key storedHash attempts) with
    attempts := Function.update system.attempts key (some attempts) }

/-- The next command of a call. -/
def advance (traffic : OtpTraffic ρ) (system : OtpSystem ρ) (call : ρ) : OtpSystem ρ :=
  match system.calls call with
  | .started =>
      match traffic.calls call with
      | .verify email purpose _ => system.getHash call (traffic.key email purpose)
      | .mfaVerify token _ =>
          match system.sessions token with
          | none => system.setCall call .absent
          | some session => system.setCall call (.closing session)
  | .closing session =>
      match traffic.calls call with
      | .verify _ _ _ => system
      | .mfaVerify token _ =>
          let phase : OtpPhase :=
            if session.email = [] then .absent
            else .verifying (traffic.key session.email .mfa)
          { system.setCall call phase with
            sessions := Function.update system.sessions token none }
  | .verifying key => system.getHash call key
  | .read key storedHash => system.count traffic call key storedHash
  | .exceeded key => (system.setCall call .raised).deleteCode key
  | .matched key => (system.setCall call (.verified key)).deleteCode key
  | .verified key =>
      match traffic.calls call with
      | .verify _ _ _ => system
      | .mfaVerify _ _ => system.setCall call (.issued key)
  | _ => system

/-- A command fails, and the call ends with it. -/
def fail (system : OtpSystem ρ) (call : ρ) : OtpSystem ρ :=
  match system.calls call with
  | .started => system.setCall call (.aborted none)
  | .closing _ => system.setCall call (.aborted none)
  | .verifying _ => system.setCall call (.aborted none)
  | .read _ _ => system.setCall call (.aborted none)
  | .exceeded _ => system.setCall call (.aborted none)
  | .matched key => system.setCall call (.aborted (some key))
  | _ => system

def perform (traffic : OtpTraffic ρ) (system : OtpSystem ρ) : OtpAction ρ → OtpSystem ρ
  | .advance call reachable =>
      if reachable then system.advance traffic call else system.fail call
  | .expireHash key => { system with hashes := Function.update system.hashes key none }
  | .expireAttempts key =>
      if system.hashes key = none then
        { system with attempts := Function.update system.attempts key none }
      else system
  | .expireSession token =>
      { system with sessions := Function.update system.sessions token none }

/-- A code is used once and compared at most `maxAttempts` times, and a
session yields at most one token pair. -/
structure UsedOnce (traffic : OtpTraffic ρ) (system : OtpSystem ρ) : Prop where
  once : ∀ key first second, (system.calls first).returnedTrue = some key →
    (system.calls second).returnedTrue = some key → first = second
  bounded : ∀ key, AtMost maxAttempts fun call => (system.calls call).compared = some key
  session : ∀ token firstOtp secondOtp firstKey secondKey first second,
    traffic.calls first = .mfaVerify token firstOtp → system.calls first = .issued firstKey →
    traffic.calls second = .mfaVerify token secondOtp → system.calls second = .issued secondKey →
    first = second

end OtpSystem

section Condition

variable {ρ : Type} [DecidableEq ρ]

/-- Taking the counter away leaves at most `maxAttempts` comparisons, made or
to come. -/
def RestartBounded (system : OtpSystem ρ) (key : OtpKey) : Prop :=
  AtMost maxAttempts fun call => (system.calls call).mayCompare = some key

/-- A deletion or an expiry of the counter leaves at most `maxAttempts`
comparisons in all, and no second call is on its way to return `True` when the
first deletes the code. -/
def DeletesAlone (traffic : OtpTraffic ρ) (system : OtpSystem ρ) : OtpAction ρ → Prop
  | .advance call true =>
      ∀ key ∈ (system.calls call).deletes, RestartBounded system key ∧
        (system.calls call = .matched key → ∀ other, other ≠ call →
          (system.calls other).mayReturnTrue (traffic.inputHash other) ≠ some key)
  | .expireAttempts key =>
      system.hashes key = none →
        RestartBounded system key ∨ ∀ call, (system.calls call).compared ≠ some key
  | _ => True

end Condition

end OpenZync.Auth
