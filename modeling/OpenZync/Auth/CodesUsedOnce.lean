import OpenZync.Auth.CodeAttempts

/-!
# Codes are used once

A call that presents a session token is about the code of the session's
address, so what holds of the uses of a code holds of the token pairs that a
session yields.
-/

namespace OpenZync.Auth

open OpenZync.Library

section Sessions

variable {ρ : Type} {traffic : OtpTraffic ρ} {system : OtpSystem ρ}
  {sessions : Text → Option MfaSession}

/-- The code that the call is about. -/
def OtpPhase.key : OtpPhase → Option OtpKey
  | .verifying key => some key
  | .read key _ => some key
  | .exceeded key => some key
  | .matched key => some key
  | .verified key => some key
  | .issued key => some key
  | .rejected key => some key
  | _ => none

/-- A call with a session token is about the code of the session's address. -/
structure OtpPhase.FromSession (traffic : OtpTraffic ρ) (session : Option MfaSession)
    (phase : OtpPhase) : Prop where
  closing : ∀ opened, phase = .closing opened → session = some opened
  key : ∀ key, phase.key = some key →
    ∃ opened, session = some opened ∧ key = traffic.key opened.email .mfa

/-- Sessions are only deleted, and each call keeps to the session it started
with. -/
structure OtpSystem.FromSessions (traffic : OtpTraffic ρ) (sessions : Text → Option MfaSession)
    (system : OtpSystem ρ) : Prop where
  stored : ∀ token session, system.sessions token = some session →
    sessions token = some session
  calls : ∀ call token otp, traffic.calls call = .mfaVerify token otp →
    (system.calls call).FromSession traffic (sessions token)

theorem attempt_key {call : ρ} {key : OtpKey} {storedHash : Text} (attempts : Nat) :
    (OtpSystem.attempt traffic call key storedHash attempts).key = some key := by
  rw [OtpSystem.attempt]
  split
  · rfl
  · split
    · rfl
    · rfl

theorem attempt_ne_closing {call : ρ} {key : OtpKey} {storedHash : Text} (attempts : Nat)
    (session : MfaSession) :
    OtpSystem.attempt traffic call key storedHash attempts ≠ .closing session := by
  intro closing
  have about : (OtpSystem.attempt traffic call key storedHash attempts).key = some key :=
    attempt_key attempts
  rw [closing] at about
  cases about

theorem OtpPhase.FromSession.of_none {session : Option MfaSession} {phase : OtpPhase}
    (closing : ∀ opened, phase ≠ .closing opened) (key : phase.key = none) :
    phase.FromSession traffic session := by
  constructor
  · intro opened same
    exact absurd same (closing opened)
  · intro other same
    rw [key] at same
    cases same

theorem OtpPhase.FromSession.keep {session : Option MfaSession} {old new : OtpPhase}
    (before : old.FromSession traffic session) (closing : ∀ opened, new ≠ .closing opened)
    (key : ∀ key, new.key = some key → old.key = some key) :
    new.FromSession traffic session := by
  constructor
  · intro opened same
    exact absurd same (closing opened)
  · intro other same
    exact before.key other (key other same)

variable [DecidableEq ρ]

theorem OtpSystem.FromSessions.setCall (before : system.FromSessions traffic sessions)
    {call : ρ} {phase : OtpPhase}
    (here : ∀ token otp, traffic.calls call = .mfaVerify token otp →
      phase.FromSession traffic (sessions token)) :
    (system.setCall call phase).FromSessions traffic sessions := by
  refine ⟨before.stored, ?_⟩
  intro other token otp called
  by_cases same : other = call
  · subst same
    rw [calls_setCall_self]
    exact here token otp called
  · rw [calls_setCall_of_ne same]
    exact before.calls other token otp called

/-- A call moves on to a phase about the same code, or about none. -/
theorem OtpSystem.FromSessions.keep (before : system.FromSessions traffic sessions)
    {call : ρ} {phase : OtpPhase} (closing : ∀ opened, phase ≠ .closing opened)
    (key : ∀ key, phase.key = some key → (system.calls call).key = some key) :
    (system.setCall call phase).FromSessions traffic sessions := by
  apply before.setCall
  intro token otp called
  exact (before.calls call token otp called).keep closing key

theorem OtpSystem.FromSessions.leave (before : system.FromSessions traffic sessions)
    {call : ρ} {phase : OtpPhase} (closing : ∀ opened, phase ≠ .closing opened)
    (codeless : phase.key = none) : (system.setCall call phase).FromSessions traffic sessions := by
  apply before.keep closing
  intro key same
  rw [codeless] at same
  cases same

theorem OtpSystem.FromSessions.getHash (before : system.FromSessions traffic sessions)
    {call : ρ} {key : OtpKey}
    (about : ∀ token otp, traffic.calls call = .mfaVerify token otp →
      ∃ opened, sessions token = some opened ∧ key = traffic.key opened.email .mfa) :
    (system.getHash call key).FromSessions traffic sessions := by
  rw [OtpSystem.getHash]
  split
  · exact before.leave (by simp) rfl
  · apply before.setCall
    intro token otp called
    constructor
    · intro opened same
      cases same
    · intro other same
      cases same
      exact about token otp called

omit [DecidableEq ρ] in
theorem OtpSystem.FromSessions.forget (before : system.FromSessions traffic sessions)
    (token : Text) :
    { system with sessions := Function.update system.sessions token none }.FromSessions
      traffic sessions := by
  refine ⟨?_, before.calls⟩
  intro other session stored
  by_cases same : other = token
  · simp [same] at stored
  · simp only [Function.update_of_ne same] at stored
    exact before.stored other session stored

theorem OtpSystem.FromSessions.advance (before : system.FromSessions traffic sessions)
    (call : ρ) : (system.advance traffic call).FromSessions traffic sessions := by
  rw [OtpSystem.advance]
  split
  · split
    · rename_i email purpose code called
      apply before.getHash
      intro token otp other
      rw [called] at other
      cases other
    · rename_i token otp called
      split
      · exact before.leave (by simp) rfl
      · rename_i session stored
        apply before.setCall
        intro token' otp' same
        rw [called] at same
        cases same
        constructor
        · intro opened same
          cases same
          exact before.stored token session stored
        · intro key same
          cases same
  · rename_i session closing
    split
    · exact before
    · rename_i token otp called
      have left : (system.setCall call (if session.email = [] then .absent
          else .verifying (traffic.key session.email .mfa))).FromSessions traffic sessions := by
        split
        · exact before.leave (by simp) rfl
        · apply before.setCall
          intro token' otp' same
          have stored := (before.calls call token' otp' same).closing session closing
          constructor
          · intro opened same
            cases same
          · intro key same
            cases same
            exact ⟨session, stored, rfl⟩
      exact left.forget token
  · rename_i key verifying
    apply before.getHash
    intro token otp called
    apply (before.calls call token otp called).key
    rw [verifying]
    rfl
  · rename_i key storedHash reading
    have counted : (system.setCall call (attempt traffic call key storedHash
        ((system.attempts key).getD 0 + 1))).FromSessions traffic sessions := by
      apply before.keep (attempt_ne_closing _)
      intro other same
      rw [attempt_key] at same
      rw [reading]
      exact same
    exact ⟨counted.stored, counted.calls⟩
  · rename_i key exceeded
    have moved : (system.setCall call .raised).FromSessions traffic sessions :=
      before.leave (by simp) rfl
    exact ⟨moved.stored, moved.calls⟩
  · rename_i key matched
    have moved : (system.setCall call (.verified key)).FromSessions traffic sessions := by
      apply before.keep (by simp)
      intro other same
      rw [matched]
      exact same
    exact ⟨moved.stored, moved.calls⟩
  · rename_i key verified
    split
    · exact before
    · apply before.keep (by simp)
      intro other same
      rw [verified]
      exact same
  · exact before

theorem OtpSystem.FromSessions.perform (before : system.FromSessions traffic sessions)
    (action : OtpAction ρ) : (system.perform traffic action).FromSessions traffic sessions := by
  cases action with
  | advance call reachable =>
      cases reachable with
      | true => exact before.advance call
      | false =>
          simp only [OtpSystem.perform, OtpSystem.fail]
          have left : ∀ compared,
              (system.setCall call (.aborted compared)).FromSessions traffic sessions :=
            fun compared => before.leave (by simp) rfl
          split
          · rename_i impossible
            cases impossible
          · split
            · exact left none
            · exact left none
            · exact left none
            · exact left none
            · exact left none
            · exact left _
            · exact before
  | expireHash key => exact ⟨before.stored, before.calls⟩
  | expireAttempts key =>
      rw [OtpSystem.perform]
      split
      · exact ⟨before.stored, before.calls⟩
      · exact before
  | expireSession token => exact before.forget token

end Sessions

/-- A code is used at most once and compared at most `maxAttempts` times, and a
session yields at most one token pair, as long as deletions find few calls on
their way to compare and none on its way to return `True`. -/
theorem code_used_once {ρ : Type} [DecidableEq ρ] {traffic : OtpTraffic ρ}
    {hashes : OtpKey → Option Text} {sessions : Text → Option MfaSession}
    {actions : List (OtpAction ρ)} {system : OtpSystem ρ}
    (run : GuardedRun (OtpSystem.perform traffic) (DeletesAlone traffic)
      (OtpSystem.start hashes sessions) actions system) :
    system.UsedOnce traffic := by
  have consistent : system.Consistent traffic := by
    apply run.invariant (OtpSystem.Consistent traffic)
    · exact OtpSystem.start_consistent hashes sessions
    · intro source action before alone
      exact before.perform action alone
  have fromSessions : system.FromSessions traffic sessions := by
    apply run.invariant (OtpSystem.FromSessions traffic sessions)
    · refine ⟨fun _ _ stored => stored, ?_⟩
      intro call token otp _
      exact OtpPhase.FromSession.of_none (by simp [OtpSystem.start]) rfl
    · intro source action before _
      exact before.perform action
  have once : ∀ key first second, (system.calls first).returnedTrue = some key →
      (system.calls second).returnedTrue = some key → first = second := by
    intro key first second firstTrue secondTrue
    by_contra different
    obtain ⟨_, others⟩ := consistent.spent key first firstTrue
    exact (others second fun same => different same.symm).1 secondTrue
  refine ⟨once, fun key => (consistent.bounded key).compared, ?_⟩
  intro token firstOtp secondOtp firstKey secondKey first second firstCall firstIssued
    secondCall secondIssued
  have firstKeyed := (fromSessions.calls first token firstOtp firstCall).key firstKey
  have secondKeyed := (fromSessions.calls second token secondOtp secondCall).key secondKey
  rw [firstIssued] at firstKeyed
  rw [secondIssued] at secondKeyed
  obtain ⟨firstSession, firstStored, firstNamed⟩ := firstKeyed rfl
  obtain ⟨secondSession, secondStored, secondNamed⟩ := secondKeyed rfl
  have same : firstSession = secondSession :=
    Option.some.inj (firstStored.symm.trans secondStored)
  subst same
  apply once firstKey
  · rw [firstIssued]
    rfl
  · rw [secondIssued, secondNamed, firstNamed]
    rfl

instance DeletesAlone.decidable (traffic : OtpTraffic Bool) (system : OtpSystem Bool) :
    ∀ action, Decidable (DeletesAlone traffic system action)
  | .advance _ true => inferInstanceAs
      (Decidable (∀ key ∈ _, AtMost _ _ ∧ (_ → ∀ _, _ → _)))
  | .advance _ false => .isTrue trivial
  | .expireHash _ => .isTrue trivial
  | .expireAttempts _ => inferInstanceAs (Decidable (_ → AtMost _ _ ∨ ∀ _, _))
  | .expireSession _ => .isTrue trivial

/-- Two calls with one session token and the right code. -/
def doubleSubmit : OtpTraffic Bool :=
  { casing := Casing.ascii
    hashOtp := fun code => 'h' :: code
    calls := fun _ => .mfaVerify ['t'] ['1'] }

def mfaCode : OtpKey → Option Text :=
  fun key =>
    if key = { purpose := .mfa, email := ['a', '@', 'b'] } then some ['h', '1'] else none

def mfaSession : Text → Option MfaSession :=
  fun token =>
    if token = ['t'] then
      some
        { userId := 1
          orgId := 9
          role := "member".toList
          email := ['A', '@', 'b'] }
    else none

/-- One call after the other. -/
def inTurn : List (OtpAction Bool) :=
  List.replicate 6 (.advance false true) ++ [.advance true true]

/-- The two calls take turns. -/
def alternating : List (OtpAction Bool) :=
  (List.replicate 6 [.advance false true, .advance true true]).flatten

theorem code_used_once_in_turn :
    (inTurn.foldl (OtpSystem.perform doubleSubmit)
        (OtpSystem.start mfaCode mfaSession)).UsedOnce doubleSubmit ∧
      (inTurn.foldl (OtpSystem.perform doubleSubmit)
        (OtpSystem.start mfaCode mfaSession)).calls false =
          .issued { purpose := .mfa, email := ['a', '@', 'b'] } := by
  constructor
  · apply code_used_once
    exact GuardedRun.of_allowedAlong (by decide +kernel)
  · decide +kernel

/-- When the two calls take turns, each of them gets a token pair. -/
theorem code_used_twice :
    ∃ actions : List (OtpAction Bool),
      ¬ (actions.foldl (OtpSystem.perform doubleSubmit)
        (OtpSystem.start mfaCode mfaSession)).UsedOnce doubleSubmit := by
  refine ⟨alternating, ?_⟩
  intro usedOnce
  have same := usedOnce.once { purpose := .mfa, email := ['a', '@', 'b'] } false true
    (by decide +kernel) (by decide +kernel)
  cases same

end OpenZync.Auth
