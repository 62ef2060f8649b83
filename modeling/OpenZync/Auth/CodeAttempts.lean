import OpenZync.Auth.OneTimeCodes

/-!
# Attempts at a code

While the counter of a code lives it counts the comparisons.  Once it has been
taken away the hash is gone too, and what is left to compare was bounded when
it was taken.
-/

namespace OpenZync.Auth

open OpenZync.Library

/-- Comparisons that were made are among those that may be. -/
theorem OtpPhase.mayCompare_of_compared {phase : OtpPhase} {key : OtpKey}
    (compared : phase.compared = some key) : phase.mayCompare = some key := by
  cases phase with
  | read other storedHash => cases compared
  | _ => exact compared

namespace OtpSystem

variable {ρ : Type} {traffic : OtpTraffic ρ} {system : OtpSystem ρ} {key : OtpKey}

/-- Either the counter bounds the comparisons, or hash and counter are gone
and the comparisons to come are bounded. -/
def Bounded (system : OtpSystem ρ) (key : OtpKey) : Prop :=
  (system.hashes key = none ∧
    AtMost maxAttempts fun call => (system.calls call).mayCompare = some key) ∨
  (AtMost ((system.attempts key).getD 0) (fun call => (system.calls call).compared = some key) ∧
    AtMost maxAttempts fun call => (system.calls call).compared = some key)

/-- Once a call has returned `True` the hash is gone, and no other call will. -/
def Spent (traffic : OtpTraffic ρ) (system : OtpSystem ρ) (key : OtpKey) : Prop :=
  ∀ call, (system.calls call).returnedTrue = some key →
    system.hashes key = none ∧ ∀ other, other ≠ call →
      (system.calls other).returnedTrue ≠ some key ∧
      (system.calls other).mayReturnTrue (traffic.inputHash other) ≠ some key

structure Consistent (traffic : OtpTraffic ρ) (system : OtpSystem ρ) : Prop where
  bounded : ∀ key, system.Bounded key
  spent : ∀ key, system.Spent traffic key

theorem start_consistent (hashes : OtpKey → Option Text) (sessions : Text → Option MfaSession) :
    (start hashes sessions : OtpSystem ρ).Consistent traffic := by
  constructor
  · intro key
    right
    constructor
    · apply AtMost.of_none
      intro call compared
      cases compared
    · apply AtMost.of_none
      intro call compared
      cases compared
  · intro key call returned
    cases returned

theorem Bounded.compared (bounded : system.Bounded key) :
    AtMost maxAttempts fun call => (system.calls call).compared = some key := by
  rcases bounded with ⟨_, mayCompare⟩ | ⟨_, compared⟩
  · exact mayCompare.mono (fun _ => OtpPhase.mayCompare_of_compared) le_rfl
  · exact compared

theorem Consistent.forget (consistent : system.Consistent traffic)
    {hashes : OtpKey → Option Text} (gone : ∀ key, system.hashes key = none → hashes key = none)
    (sessions : Text → Option MfaSession) :
    { system with hashes := hashes, sessions := sessions }.Consistent traffic := by
  constructor
  · intro key
    rcases consistent.bounded key with ⟨away, mayCompare⟩ | counted
    · exact .inl ⟨gone key away, mayCompare⟩
    · exact .inr counted
  · intro key call returned
    obtain ⟨away, others⟩ := consistent.spent key call returned
    exact ⟨gone key away, others⟩

variable [DecidableEq ρ] {call : ρ} {phase : OtpPhase}

omit [DecidableEq ρ] in
theorem update_none {ν : Type} {values : OtpKey → Option ν} (removed : OtpKey)
    (gone : values key = none) : Function.update values removed none key = none := by
  by_cases same : key = removed
  · subst same
    exact Function.update_self ..
  · rw [Function.update_of_ne same, gone]

theorem calls_setCall_self : (system.setCall call phase).calls call = phase :=
  Function.update_self ..

theorem calls_setCall_of_ne {other : ρ} (different : other ≠ call) :
    (system.setCall call phase).calls other = system.calls other :=
  Function.update_of_ne different ..

theorem atMost_setCall {select : OtpPhase → Option OtpKey} {bound : Nat}
    (atMost : AtMost bound fun other => select (system.calls other) = some key)
    (kept : select phase = some key → select (system.calls call) = some key) :
    AtMost bound fun other => select ((system.setCall call phase).calls other) = some key := by
  apply atMost.mono _ le_rfl
  intro other now
  by_cases same : other = call
  · subst same
    rw [calls_setCall_self] at now
    exact kept now
  · rwa [calls_setCall_of_ne same] at now

theorem Bounded.setCall (bounded : system.Bounded key)
    (mayCompare : system.hashes key = none → phase.mayCompare = some key →
      (system.calls call).mayCompare = some key)
    (compared : phase.compared = some key → (system.calls call).compared = some key) :
    (system.setCall call phase).Bounded key := by
  rcases bounded with ⟨gone, bound⟩ | ⟨counted, bound⟩
  · exact .inl ⟨gone, atMost_setCall bound (mayCompare gone)⟩
  · exact .inr ⟨atMost_setCall counted compared, atMost_setCall bound compared⟩

theorem Spent.setCall (spent : system.Spent traffic key)
    (returned : phase.returnedTrue = some key → (system.calls call).returnedTrue = some key)
    (returning : system.hashes key = none →
      phase.mayReturnTrue (traffic.inputHash call) = some key →
      (system.calls call).mayReturnTrue (traffic.inputHash call) = some key) :
    (system.setCall call phase).Spent traffic key := by
  have before : ∀ other,
      ((system.setCall call phase).calls other).returnedTrue = some key →
        (system.calls other).returnedTrue = some key := by
    intro other now
    by_cases same : other = call
    · subst same
      rw [calls_setCall_self] at now
      exact returned now
    · rwa [calls_setCall_of_ne same] at now
  intro first now
  obtain ⟨gone, others⟩ := spent first (before first now)
  refine ⟨gone, ?_⟩
  intro other different
  obtain ⟨unreturned, unreturning⟩ := others other different
  refine ⟨fun now => unreturned (before other now), ?_⟩
  intro now
  apply unreturning
  by_cases same : other = call
  · subst same
    rw [calls_setCall_self] at now
    exact returning gone now
  · rwa [calls_setCall_of_ne same] at now

/-- A call moves on without comparing and without returning `True`. -/
theorem Consistent.setCall (consistent : system.Consistent traffic)
    (compared : ∀ key, phase.mayCompare = some key → (system.calls call).compared = some key)
    (returned : ∀ key, phase.returnedTrue = some key →
      (system.calls call).returnedTrue = some key)
    (unreturning : phase.mayReturnTrue (traffic.inputHash call) = none) :
    (system.setCall call phase).Consistent traffic := by
  constructor
  · intro key
    apply (consistent.bounded key).setCall
    · intro _ now
      exact OtpPhase.mayCompare_of_compared (compared key now)
    · intro now
      exact compared key (OtpPhase.mayCompare_of_compared now)
  · intro key
    apply (consistent.spent key).setCall (returned key)
    intro _ now
    rw [unreturning] at now
    cases now

/-- A call goes on to a phase that is about no code. -/
theorem Consistent.leave (consistent : system.Consistent traffic)
    (mayCompare : phase.mayCompare = none) (returned : phase.returnedTrue = none)
    (unreturning : phase.mayReturnTrue (traffic.inputHash call) = none) :
    (system.setCall call phase).Consistent traffic := by
  apply consistent.setCall
  · intro key now
    rw [mayCompare] at now
    cases now
  · intro key now
    rw [returned] at now
    cases now
  · exact unreturning

/-- Reading a hash: the call joins those that may compare, while the counter
lives. -/
theorem Consistent.getHash (consistent : system.Consistent traffic) (call : ρ) (key : OtpKey) :
    (system.getHash call key).Consistent traffic := by
  rw [OtpSystem.getHash]
  split
  · exact consistent.leave rfl rfl rfl
  · rename_i storedHash present
    have elsewhere : ∀ {other}, system.hashes other = none → key ≠ other := by
      rintro _ gone rfl
      rw [gone] at present
      cases present
    constructor
    · intro other
      apply (consistent.bounded other).setCall
      · intro gone now
        exact absurd (Option.some.inj now) (elsewhere gone)
      · intro now
        cases now
    · intro other
      apply (consistent.spent other).setCall
      · intro now
        cases now
      · intro gone now
        rw [OtpPhase.mayReturnTrue] at now
        split at now
        · exact absurd (Option.some.inj now) (elsewhere gone)
        · cases now

theorem Consistent.exceed (consistent : system.Consistent traffic) (call : ρ)
    (key : OtpKey) {attempts : Nat} (counted : attempts = (system.attempts key).getD 0 + 1) :
    { system.setCall call (.exceeded key) with
      attempts := Function.update system.attempts key (some attempts) }.Consistent traffic := by
  have moved : (system.setCall call (.exceeded key)).Consistent traffic :=
    consistent.leave rfl rfl rfl
  refine ⟨?_, moved.spent⟩
  intro other
  rcases moved.bounded other with gone | ⟨bound, within⟩
  · exact .inl gone
  · have grown : (system.attempts other).getD 0 ≤
        (Function.update system.attempts key (some attempts) other).getD 0 := by
      by_cases same : other = key
      · subst same
        rw [Function.update_self, Option.getD_some]
        omega
      · rw [Function.update_of_ne same]
    exact .inr ⟨bound.mono (fun _ now => now) grown, within⟩

theorem Consistent.compare (consistent : system.Consistent traffic) {storedHash : Text}
    (reading : system.calls call = .read key storedHash) {attempts : Nat}
    (counted : attempts = (system.attempts key).getD 0 + 1) (within : attempts ≤ maxAttempts)
    (outcome : phase = .matched key ∧ traffic.inputHash call = storedHash ∨
      phase = .rejected key) :
    { system.setCall call phase with
      attempts := Function.update system.attempts key (some attempts) }.Consistent traffic := by
  have named : phase.mayCompare = some key ∧ phase.compared = some key := by
    rcases outcome with ⟨rfl, _⟩ | rfl
    · exact ⟨rfl, rfl⟩
    · exact ⟨rfl, rfl⟩
  constructor
  · intro other
    by_cases same : other = key
    · subst same
      rcases consistent.bounded other with ⟨gone, bound⟩ | ⟨bound, _⟩
      · refine .inl ⟨gone, atMost_setCall bound ?_⟩
        intro _
        rw [reading]
        rfl
      · have more : AtMost ((system.attempts other).getD 0 + 1) fun caller =>
            ((system.setCall call phase).calls caller).compared = some other := by
          apply bound.insert call
          intro caller different now
          rwa [calls_setCall_of_ne different] at now
        rw [← counted] at more
        have current : (Function.update system.attempts other (some attempts) other).getD 0 =
            attempts := by
          rw [Function.update_self, Option.getD_some]
        exact .inr ⟨more.mono (fun _ now => now) current.ge,
          more.mono (fun _ now => now) within⟩
    · have moved : (system.setCall call phase).Bounded other := by
        apply (consistent.bounded other).setCall
        · intro _ now
          exact absurd (Option.some.inj (now.symm.trans named.1)) same
        · intro now
          exact absurd (Option.some.inj (now.symm.trans named.2)) same
      have current : (Function.update system.attempts key (some attempts) other).getD 0 =
          (system.attempts other).getD 0 := by
        rw [Function.update_of_ne same]
      rcases moved with gone | ⟨bound, within⟩
      · exact .inl gone
      · exact .inr ⟨bound.mono (fun _ now => now) current.ge, within⟩
  · intro other
    have moved : (system.setCall call phase).Spent traffic other := by
      apply (consistent.spent other).setCall
      · intro now
        rcases outcome with ⟨rfl, _⟩ | rfl
        · cases now
        · cases now
      · intro _ now
        rcases outcome with ⟨rfl, sameHash⟩ | rfl
        · rw [reading, OtpPhase.mayReturnTrue, if_pos sameHash]
          exact now
        · cases now
    exact moved

omit [DecidableEq ρ] in
/-- Hash and counter are taken away when few comparisons are to come. -/
theorem Consistent.deleteCode (consistent : system.Consistent traffic)
    (restart : RestartBounded system key) : (system.deleteCode key).Consistent traffic := by
  constructor
  · intro other
    by_cases same : other = key
    · subst same
      exact .inl ⟨Function.update_self .., restart⟩
    · rcases consistent.bounded other with ⟨gone, bound⟩ | counted
      · exact .inl ⟨update_none key gone, bound⟩
      · refine .inr ?_
        simp only [OtpSystem.deleteCode, Function.update_of_ne same]
        exact counted
  · intro other first returned
    obtain ⟨gone, others⟩ := consistent.spent other first returned
    exact ⟨update_none key gone, others⟩

/-- The call whose guess matched returns `True`. -/
theorem Consistent.returnTrue (consistent : system.Consistent traffic)
    (matched : system.calls call = .matched key) (gone : system.hashes key = none)
    (alone : ∀ other, other ≠ call →
      (system.calls other).mayReturnTrue (traffic.inputHash other) ≠ some key) :
    (system.setCall call (.verified key)).Consistent traffic := by
  have unreturned : ∀ other, (system.calls other).returnedTrue ≠ some key := by
    intro other returned
    obtain ⟨_, others⟩ := consistent.spent key other returned
    by_cases same : other = call
    · subst same
      rw [matched] at returned
      cases returned
    · apply (others call fun equal => same equal.symm).2
      rw [matched]
      rfl
  constructor
  · intro other
    apply (consistent.bounded other).setCall
    · intro _ now
      rw [matched]
      exact now
    · intro now
      rw [matched]
      exact now
  · intro other
    by_cases same : other = key
    · subst same
      intro first returned
      have first_eq : first = call := by
        by_contra different
        rw [calls_setCall_of_ne different] at returned
        exact unreturned first returned
      subst first_eq
      refine ⟨gone, ?_⟩
      intro third different
      rw [calls_setCall_of_ne different]
      exact ⟨unreturned third, alone third different⟩
    · apply (consistent.spent other).setCall
      · intro now
        exact absurd (Option.some.inj now).symm same
      · intro _ now
        cases now

theorem Consistent.count (consistent : system.Consistent traffic) {storedHash : Text}
    (reading : system.calls call = .read key storedHash) :
    (system.count traffic call key storedHash).Consistent traffic := by
  simp only [OtpSystem.count, attempt]
  split
  · exact consistent.exceed call key rfl
  · rename_i within
    have within := Nat.le_of_not_lt within
    split
    · rename_i sameHash
      exact consistent.compare reading rfl within (.inl ⟨rfl, sameHash⟩)
    · exact consistent.compare reading rfl within (.inr rfl)

theorem Consistent.advance (consistent : system.Consistent traffic) (call : ρ)
    (alone : DeletesAlone traffic system (.advance call true)) :
    (system.advance traffic call).Consistent traffic := by
  rw [OtpSystem.advance]
  split
  · split
    · exact consistent.getHash call _
    · split
      · exact consistent.leave rfl rfl rfl
      · exact consistent.leave rfl rfl rfl
  · rename_i session closing
    split
    · exact consistent
    · have left : (system.setCall call (if session.email = [] then .absent
          else .verifying (traffic.key session.email .mfa))).Consistent traffic := by
        split
        · exact consistent.leave rfl rfl rfl
        · exact consistent.leave rfl rfl rfl
      exact left.forget (fun _ gone => gone) _
  · exact consistent.getHash call _
  · rename_i key storedHash reading
    exact consistent.count reading
  · rename_i key exceeded
    obtain ⟨restart, _⟩ := alone key (by rw [exceeded]; rfl)
    have left : ((system.deleteCode key).setCall call .raised).Consistent traffic :=
      (consistent.deleteCode restart).leave rfl rfl rfl
    exact left
  · rename_i key matched
    obtain ⟨restart, others⟩ := alone key (by rw [matched]; rfl)
    have returned : ((system.deleteCode key).setCall call (.verified key)).Consistent traffic :=
      (consistent.deleteCode restart).returnTrue matched (Function.update_self ..)
        (others matched)
    exact returned
  · rename_i key verified
    split
    · exact consistent
    · apply consistent.setCall
      · intro other now
        rw [verified]
        exact now
      · intro other now
        rw [verified]
        exact now
      · rfl
  · exact consistent

theorem Consistent.fail (consistent : system.Consistent traffic) (call : ρ) :
    (system.fail call).Consistent traffic := by
  rw [OtpSystem.fail]
  split
  · exact consistent.leave rfl rfl rfl
  · exact consistent.leave rfl rfl rfl
  · exact consistent.leave rfl rfl rfl
  · exact consistent.leave rfl rfl rfl
  · exact consistent.leave rfl rfl rfl
  · rename_i key matched
    apply consistent.setCall
    · intro other now
      rw [matched]
      exact now
    · intro other now
      cases now
    · rfl
  · exact consistent

theorem Consistent.perform (consistent : system.Consistent traffic) (action : OtpAction ρ)
    (alone : DeletesAlone traffic system action) :
    (system.perform traffic action).Consistent traffic := by
  cases action with
  | advance call reachable =>
      cases reachable with
      | true => exact consistent.advance call alone
      | false => exact consistent.fail call
  | expireHash key => exact consistent.forget (fun _ => update_none key) _
  | expireAttempts key =>
      rw [OtpSystem.perform]
      split
      · rename_i gone
        refine ⟨?_, consistent.spent⟩
        intro other
        by_cases same : other = key
        · subst same
          rcases alone gone with restart | uncompared
          · exact .inl ⟨gone, restart⟩
          · exact .inr ⟨AtMost.of_none uncompared, AtMost.of_none uncompared⟩
        · have current : (Function.update system.attempts key none other).getD 0 =
              (system.attempts other).getD 0 := by
            rw [Function.update_of_ne same]
          rcases consistent.bounded other with away | ⟨bound, within⟩
          · exact .inl away
          · exact .inr ⟨bound.mono (fun _ now => now) current.ge, within⟩
      · exact consistent
  | expireSession token => exact consistent.forget (fun _ gone => gone) _

end OtpSystem

end OpenZync.Auth
