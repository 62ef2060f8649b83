import Mathlib.Data.Fintype.Basic
import OpenZync.Library.Execution
import OpenZync.Text

/-!
# The throttle of the authentication endpoints

`AuthThrottle` as the Redis commands its calls issue, each of which may be the
last one of its call.  A check increments its counters and sets the expiry of
a counter that it has incremented to 1; a success decrements them again.
-/

namespace OpenZync.Auth

open OpenZync.Library

/-- Lower-casing and stripping commute: neither makes white space out of
anything else, nor the other way round. -/
structure EmailCasing extends Casing where
  lower_strip : ∀ text : Text, lower (Text.strip text) = Text.strip (lower text)

inductive CounterKind where
  | loginEmail
  | loginIp
  | signupIp
  | verifyEmail
  | verifyIp
  | forgotEmail
  | forgotIp
  | resetEmail
  | resetIp
  | passwordlessSendEmail
  | passwordlessSendIp
  | passwordlessVerifyEmail
  | passwordlessVerifyIp
  | mfaSendEmail
  | mfaSendIp
  | mfaVerifyEmail
  | mfaVerifyIp
  deriving DecidableEq

/-- The counter of one address. -/
structure Counter where
  kind : CounterKind
  subject : Text
  deriving DecidableEq

/-- The part of a key before the address. -/
def CounterKind.keyStart : CounterKind → Text
  | .loginEmail => "auth:throttle:login:email:".toList
  | .loginIp => "auth:throttle:login:ip:".toList
  | .signupIp => "auth:throttle:signup:ip:".toList
  | .verifyEmail => "auth:throttle:verify:email:".toList
  | .verifyIp => "auth:throttle:verify:ip:".toList
  | .forgotEmail => "auth:throttle:forgot:email:".toList
  | .forgotIp => "auth:throttle:forgot:ip:".toList
  | .resetEmail => "auth:throttle:reset:email:".toList
  | .resetIp => "auth:throttle:reset:ip:".toList
  | .passwordlessSendEmail => "auth:throttle:passwordless:send:email:".toList
  | .passwordlessSendIp => "auth:throttle:passwordless:send:ip:".toList
  | .passwordlessVerifyEmail => "auth:throttle:passwordless:verify:email:".toList
  | .passwordlessVerifyIp => "auth:throttle:passwordless:verify:ip:".toList
  | .mfaSendEmail => "auth:throttle:mfa:send:email:".toList
  | .mfaSendIp => "auth:throttle:mfa:send:ip:".toList
  | .mfaVerifyEmail => "auth:throttle:mfa:verify:email:".toList
  | .mfaVerifyIp => "auth:throttle:mfa:verify:ip:".toList

/-- The Redis key. -/
def Counter.key (counter : Counter) : Text :=
  counter.kind.keyStart ++ counter.subject

/-- The arguments of the constructor.  The limits are at their defaults or
settings that are at least 1. -/
structure ThrottleConfig where
  loginMaxPerIp : Int
  loginWindowSec : Int
  loginMaxPerEmail : Int
  signupMaxPerIp : Int
  signupWindowSec : Int
  positive : 1 ≤ loginMaxPerIp ∧ 1 ≤ loginMaxPerEmail ∧ 1 ≤ signupMaxPerIp

/-- The window in seconds, the limit, and the detail of the `RateLimitError`. -/
structure Bound where
  window : Int
  limit : Int
  message : Text

def CounterKind.bound (config : ThrottleConfig) : CounterKind → Bound
  | .loginEmail =>
      { window := config.loginWindowSec
        limit := config.loginMaxPerEmail
        message := "Too many login attempts for this account. Try again later.".toList }
  | .loginIp =>
      { window := config.loginWindowSec
        limit := config.loginMaxPerIp
        message := "Too many login attempts from this IP address. Try again later.".toList }
  | .signupIp =>
      { window := config.signupWindowSec
        limit := config.signupMaxPerIp
        message := "Too many signup attempts from this IP address. Try again later.".toList }
  | .verifyEmail =>
      { window := 900
        limit := 10
        message :=
          "Too many verification attempts for this email. Please request a new code.".toList }
  | .verifyIp =>
      { window := 900
        limit := 20
        message :=
          "Too many verification attempts from this IP address. Try again later.".toList }
  | .forgotEmail =>
      { window := 3600
        limit := 3
        message := "Too many password reset requests for this email. Try again later.".toList }
  | .forgotIp =>
      { window := 900
        limit := 10
        message :=
          "Too many password reset requests from this IP address. Try again later.".toList }
  | .resetEmail =>
      { window := 900
        limit := 10
        message := "Too many reset attempts for this email. Please request a new code.".toList }
  | .resetIp =>
      { window := 900
        limit := 20
        message := "Too many reset attempts from this IP address. Try again later.".toList }
  | .passwordlessSendEmail =>
      { window := 3600
        limit := 5
        message := "Too many login code requests for this email. Try again later.".toList }
  | .passwordlessSendIp =>
      { window := 900
        limit := 10
        message :=
          "Too many login code requests from this IP address. Try again later.".toList }
  | .passwordlessVerifyEmail =>
      { window := 900
        limit := 10
        message :=
          "Too many login verification attempts for this email. Please request a new code.".toList }
  | .passwordlessVerifyIp =>
      { window := 900
        limit := 20
        message :=
          "Too many login verification attempts from this IP address. Try again later.".toList }
  | .mfaSendEmail =>
      { window := 3600
        limit := 5
        message := "Too many MFA code requests for this email. Try again later.".toList }
  | .mfaSendIp =>
      { window := 900
        limit := 10
        message := "Too many MFA code requests from this IP address. Try again later.".toList }
  | .mfaVerifyEmail =>
      { window := 900
        limit := 10
        message :=
          "Too many MFA verification attempts for this email. Please request a new code.".toList }
  | .mfaVerifyIp =>
      { window := 900
        limit := 20
        message :=
          "Too many MFA verification attempts from this IP address. Try again later.".toList }

/-- `_normalize_email`. -/
def normalizeEmail (casing : Casing) (email : Text) : Text :=
  casing.lower (Text.strip email)

/-- `_normalize_ip`. -/
def normalizeIp (ip : Text) : Text :=
  Text.strip ip

/-- The counters of a call in the order of its commands. -/
def counters (emailKind ipKind : CounterKind) (email ip : Text) : List Counter :=
  [{ kind := emailKind, subject := email }, { kind := ipKind, subject := ip }]

def checkLoginAttempt (casing : Casing) (email ip : Text) : List Counter :=
  counters .loginEmail .loginIp (normalizeEmail casing email) (normalizeIp ip)

def recordLoginSuccess (casing : Casing) (email ip : Text) : List Counter :=
  counters .loginEmail .loginIp (normalizeEmail casing email) (normalizeIp ip)

def checkSignupAttempt (ip : Text) : List Counter :=
  [{ kind := .signupIp, subject := ip }]

def checkVerifyAttempt (email ip : Text) : List Counter :=
  counters .verifyEmail .verifyIp email ip

def checkForgotPasswordAttempt (email ip : Text) : List Counter :=
  counters .forgotEmail .forgotIp email ip

def checkResetAttempt (casing : Casing) (email ip : Text) : List Counter :=
  counters .resetEmail .resetIp (normalizeEmail casing email) (normalizeIp ip)

def recordResetSuccess (casing : Casing) (email ip : Text) : List Counter :=
  counters .resetEmail .resetIp (normalizeEmail casing email) (normalizeIp ip)

def checkPasswordlessSend (email ip : Text) : List Counter :=
  counters .passwordlessSendEmail .passwordlessSendIp email ip

def checkPasswordlessVerify (email ip : Text) : List Counter :=
  counters .passwordlessVerifyEmail .passwordlessVerifyIp email ip

def checkMfaSend (email ip : Text) : List Counter :=
  counters .mfaSendEmail .mfaSendIp email ip

def checkMfaVerify (email ip : Text) : List Counter :=
  counters .mfaVerifyEmail .mfaVerifyIp email ip

/-- The `check_*` methods. -/
inductive CheckMethod where
  | login
  | signup
  | verify
  | forgotPassword
  | reset
  | passwordlessSend
  | passwordlessVerify
  | mfaSend
  | mfaVerify
  deriving DecidableEq

def CheckMethod.counters (casing : Casing) (email ip : Text) : CheckMethod → List Counter
  | .login => checkLoginAttempt casing email ip
  | .signup => checkSignupAttempt ip
  | .verify => checkVerifyAttempt email ip
  | .forgotPassword => checkForgotPasswordAttempt email ip
  | .reset => checkResetAttempt casing email ip
  | .passwordlessSend => checkPasswordlessSend email ip
  | .passwordlessVerify => checkPasswordlessVerify email ip
  | .mfaSend => checkMfaSend email ip
  | .mfaVerify => checkMfaVerify email ip

/-- The methods that normalize the email, or count none. -/
def CheckMethod.Normalizes : CheckMethod → Prop
  | .login => True
  | .signup => True
  | .reset => True
  | _ => False

/-- Addresses that `OtpService` takes for the same are counted on the same
counters. -/
def CheckMethod.SharesCounters (casing : Casing) (method : CheckMethod) : Prop :=
  ∀ first second ip : Text, casing.lower first = casing.lower second →
    method.counters casing first ip = method.counters casing second ip

inductive ThrottleCall where
  | check (method : CheckMethod) (email ip : Text)
  | recordLoginSuccess (email ip : Text)
  | recordResetSuccess (email ip : Text)
  deriving DecidableEq

/-- A Redis counter: its value, and whether it has an expiry. -/
structure Entry where
  value : Int
  expires : Bool
  deriving DecidableEq

/-- The next command of a call.  `seen` holds the replies to its increments. -/
inductive ThrottlePhase where
  | started
  /-- `INCR` of the first counter. -/
  | counting (pending : List Counter) (seen : List (Counter × Int))
  /-- `EXPIRE` of a counter that was incremented to 1. -/
  | settingExpiry (counter : Counter) (pending : List Counter) (seen : List (Counter × Int))
  /-- `GET` of the first counter. -/
  | reading (pending : List Counter)
  /-- `DECR` of a counter that was read to be positive. -/
  | decrementing (counter : Counter) (pending : List Counter)
  /-- The call is over, with the `RateLimitError` it raised. -/
  | finished (error : Option Text)
  | failed
  deriving DecidableEq

/-- The counter whose expiry the call is about to set. -/
def ThrottlePhase.expiring : ThrottlePhase → Option Counter
  | .settingExpiry counter _ _ => some counter
  | _ => none

structure ThrottleSystem (ρ : Type) where
  entries : Counter → Option Entry
  calls : ρ → ThrottlePhase

inductive ThrottleAction (ρ : Type) where
  | advance (call : ρ)
  /-- The call ends before its next command. -/
  | fail (call : ρ)
  | expire (counter : Counter)
  deriving DecidableEq

namespace ThrottleSystem

variable {ρ : Type}

def start : ThrottleSystem ρ :=
  { entries := fun _ => none
    calls := fun _ => .started }

def value (system : ThrottleSystem ρ) (counter : Counter) : Int :=
  ((system.entries counter).map Entry.value).getD 0

/-- The expiry survives increments and decrements; a counter that they create
has none. -/
def expires (system : ThrottleSystem ρ) (counter : Counter) : Bool :=
  (system.entries counter).any Entry.expires

variable [DecidableEq ρ]

def setCall (system : ThrottleSystem ρ) (call : ρ) (phase : ThrottlePhase) : ThrottleSystem ρ :=
  { system with calls := Function.update system.calls call phase }

/-- `INCR` and `DECR`. -/
def add (system : ThrottleSystem ρ) (counter : Counter) (amount : Int) : ThrottleSystem ρ :=
  { system with
    entries := Function.update system.entries counter
      (some
        { value := system.value counter + amount
          expires := system.expires counter }) }

/-- `EXPIRE`, which does nothing to a counter that is gone. -/
def setExpiry (system : ThrottleSystem ρ) (counter : Counter) : ThrottleSystem ρ :=
  { system with
    entries := Function.update system.entries counter
      ((system.entries counter).map fun entry => { entry with expires := true }) }

/-- The end of an expiry. -/
def remove (system : ThrottleSystem ρ) (counter : Counter) : ThrottleSystem ρ :=
  { system with entries := Function.update system.entries counter none }

/-- The first counter over its limit decides the error. -/
def verdict (config : ThrottleConfig) (seen : List (Counter × Int)) : Option Text :=
  (seen.find? fun reply => decide ((reply.1.kind.bound config).limit < reply.2)).map fun reply =>
    (reply.1.kind.bound config).message

/-- The next command of a call. -/
def advance (config : ThrottleConfig) (casing : Casing) (calls : ρ → ThrottleCall)
    (system : ThrottleSystem ρ) (call : ρ) : ThrottleSystem ρ :=
  match system.calls call with
  | .started =>
      match calls call with
      | .check method email ip =>
          system.setCall call (.counting (method.counters casing email ip) [])
      | .recordLoginSuccess email ip =>
          system.setCall call (.reading (recordLoginSuccess casing email ip))
      | .recordResetSuccess email ip =>
          system.setCall call (.reading (recordResetSuccess casing email ip))
  | .counting [] seen => system.setCall call (.finished (verdict config seen))
  | .counting (counter :: pending) seen =>
      let attempts := system.value counter + 1
      let seen := seen ++ [(counter, attempts)]
      (system.add counter 1).setCall call
        (if attempts = 1 then .settingExpiry counter pending seen else .counting pending seen)
  | .settingExpiry counter pending seen =>
      (system.setExpiry counter).setCall call (.counting pending seen)
  | .reading [] => system.setCall call (.finished none)
  | .reading (counter :: pending) =>
      if 0 < system.value counter then system.setCall call (.decrementing counter pending)
      else system.setCall call (.reading pending)
  | .decrementing counter pending =>
      (system.add counter (-1)).setCall call (.reading pending)
  | _ => system

def perform (config : ThrottleConfig) (casing : Casing) (calls : ρ → ThrottleCall)
    (system : ThrottleSystem ρ) : ThrottleAction ρ → ThrottleSystem ρ
  | .advance call => system.advance config casing calls call
  | .fail call =>
      match system.calls call with
      | .finished _ => system
      | _ => system.setCall call .failed
  | .expire counter =>
      if system.expires counter then system.remove counter else system

/-- A counter over its limit has an expiry. -/
def Expires (config : ThrottleConfig) (system : ThrottleSystem ρ) : Prop :=
  ∀ counter, (counter.kind.bound config).limit < system.value counter →
    system.expires counter = true

end ThrottleSystem

/-- The counter that a call increments next. -/
def ThrottlePhase.increments : ThrottlePhase → Option Counter
  | .counting (counter :: _) _ => some counter
  | _ => none

/-- A call that is to set an expiry does not fail, unless the expiry is set or
another call is to set it too; and no call takes a counter without expiry over
its limit while another one is to set its expiry. -/
def SetsExpiry {ρ : Type} (config : ThrottleConfig) (system : ThrottleSystem ρ) :
    ThrottleAction ρ → Prop
  | .advance call =>
      ∀ counter ∈ (system.calls call).increments,
        (counter.kind.bound config).limit < system.value counter + 1 →
          system.expires counter = false →
            ∀ other, (system.calls other).expiring ≠ some counter
  | .fail call =>
      ∀ counter ∈ (system.calls call).expiring, 1 ≤ system.value counter →
        system.expires counter = false →
          ∃ other, other ≠ call ∧ (system.calls other).expiring = some counter
  | .expire _ => True

end OpenZync.Auth
