import OpenZync.Auth.AuthThrottle

/-!
# Counters expire

A positive counter without expiry has a call that is about to set it.

At the end: which checks count all spellings of an address on one counter, and the
throttle as a whole.
-/

namespace OpenZync.Auth

open OpenZync.Library

instance : Fintype CounterKind where
  elems :=
    {.loginEmail, .loginIp, .signupIp, .verifyEmail, .verifyIp, .forgotEmail, .forgotIp,
      .resetEmail, .resetIp, .passwordlessSendEmail, .passwordlessSendIp,
      .passwordlessVerifyEmail, .passwordlessVerifyIp, .mfaSendEmail, .mfaSendIp,
      .mfaVerifyEmail, .mfaVerifyIp}
  complete kind := by cases kind with
    | _ => decide

/-- Different counters have different keys: no part before the address begins
another one. -/
theorem Counter.key_inj {first second : Counter} (same : first.key = second.key) :
    first = second := by
  have apart : ∀ kind other : CounterKind, kind.keyStart <+: other.keyStart → kind = other := by
    decide +kernel
  obtain ⟨kind, subject⟩ := first
  obtain ⟨other, subject'⟩ := second
  have begins : kind.keyStart <+: other.keyStart ++ subject' := ⟨subject, same⟩
  have ends : other.keyStart <+: other.keyStart ++ subject' := List.prefix_append _ _
  have sameKind : kind = other := by
    rcases List.prefix_or_prefix_of_prefix begins ends with shorter | longer
    · exact apart kind other shorter
    · exact (apart other kind longer).symm
  subst sameKind
  have sameSubject : subject = subject' := List.append_cancel_left same
  rw [sameSubject]

namespace ThrottleSystem

variable {ρ : Type} {config : ThrottleConfig} {casing : Casing} {calls : ρ → ThrottleCall}
  {system : ThrottleSystem ρ}

/-- A positive counter without expiry has a call that is about to set it. -/
def Attended (system : ThrottleSystem ρ) : Prop :=
  ∀ counter, 1 ≤ system.value counter → system.expires counter = false →
    ∃ call, (system.calls call).expiring = some counter

structure Consistent (config : ThrottleConfig) (system : ThrottleSystem ρ) : Prop where
  attended : system.Attended
  expires : system.Expires config

theorem limit_positive (config : ThrottleConfig) (kind : CounterKind) :
    1 ≤ (kind.bound config).limit := by
  obtain ⟨loginIp, loginEmail, signupIp⟩ := config.positive
  cases kind with
  | loginEmail => exact loginEmail
  | loginIp => exact loginIp
  | signupIp => exact signupIp
  | _ => simp [CounterKind.bound]

section Entries

variable {counter other : Counter}

theorem value_add_self (amount : Int) :
    (system.add counter amount).value counter = system.value counter + amount := by
  simp [value, add]

theorem value_add_of_ne (different : other ≠ counter) (amount : Int) :
    (system.add counter amount).value other = system.value other := by
  simp [value, add, different]

theorem expires_add (amount : Int) :
    (system.add counter amount).expires other = system.expires other := by
  by_cases same : other = counter
  · subst same
    simp [expires, add]
  · simp [expires, add, same]

theorem value_setExpiry : (system.setExpiry counter).value other = system.value other := by
  by_cases same : other = counter
  · subst same
    simp [value, setExpiry, Function.comp_def]
  · simp [value, setExpiry, same]

theorem expires_setExpiry_of_ne (different : other ≠ counter) :
    (system.setExpiry counter).expires other = system.expires other := by
  simp [expires, setExpiry, different]

theorem expires_setExpiry_self (positive : 1 ≤ system.value counter) :
    (system.setExpiry counter).expires counter = true := by
  cases present : system.entries counter with
  | none =>
      rw [value, present] at positive
      exact absurd positive (by decide)
  | some entry => simp [expires, setExpiry, present]

theorem value_remove_self : (system.remove counter).value counter = 0 := by
  simp [value, remove]

theorem value_remove_of_ne (different : other ≠ counter) :
    (system.remove counter).value other = system.value other := by
  simp [value, remove, different]

theorem expires_remove_of_ne (different : other ≠ counter) :
    (system.remove counter).expires other = system.expires other := by
  simp [expires, remove, different]

end Entries

theorem start_consistent : (start : ThrottleSystem ρ).Consistent config := by
  have zero : ∀ counter, (start : ThrottleSystem ρ).value counter = 0 := fun _ => rfl
  constructor
  · intro counter positive
    rw [zero] at positive
    omega
  · intro counter exceeded
    have within := limit_positive config counter.kind
    rw [zero] at exceeded
    omega

/-- What a command may do to the counters: a positive counter has an expiry,
or is within its limit while a call is about to set it, or is no larger than
before. -/
theorem Consistent.change (consistent : system.Consistent config) {later : ThrottleSystem ρ}
    (sameCalls : later.calls = system.calls)
    (kept : ∀ counter, 1 ≤ later.value counter → later.expires counter = false →
      ((∃ call, (system.calls call).expiring = some counter) ∧
          later.value counter ≤ (counter.kind.bound config).limit) ∨
        (later.value counter ≤ system.value counter ∧ system.expires counter = false)) :
    later.Consistent config := by
  constructor
  · intro counter positive unset
    rw [sameCalls]
    rcases kept counter positive unset with ⟨owned, _⟩ | ⟨smaller, unset⟩
    · exact owned
    · exact consistent.attended counter (Int.le_trans positive smaller) unset
  · intro counter exceeded
    have within := limit_positive config counter.kind
    by_contra missing
    rw [Bool.not_eq_true] at missing
    rcases kept counter (by omega) missing with ⟨_, bounded⟩ | ⟨smaller, unset⟩
    · omega
    · rw [consistent.expires counter (Int.lt_of_lt_of_le exceeded smaller)] at unset
      cases unset

theorem Consistent.decrement (consistent : system.Consistent config) (counter : Counter) :
    (system.add counter (-1)).Consistent config := by
  have sameCalls : (system.add counter (-1)).calls = system.calls := rfl
  apply consistent.change sameCalls
  intro other positive unset
  rw [expires_add] at unset
  refine .inr ⟨?_, unset⟩
  by_cases same : other = counter
  · subst same
    rw [value_add_self]
    omega
  · rw [value_add_of_ne same]

theorem Consistent.setExpiry (consistent : system.Consistent config) (counter : Counter) :
    (system.setExpiry counter).Consistent config := by
  have sameCalls : (system.setExpiry counter).calls = system.calls := rfl
  apply consistent.change sameCalls
  intro other positive unset
  rw [value_setExpiry] at positive ⊢
  by_cases same : other = counter
  · subst same
    rw [expires_setExpiry_self positive] at unset
    cases unset
  · rw [expires_setExpiry_of_ne same] at unset
    exact .inr ⟨le_rfl, unset⟩

theorem Consistent.remove (consistent : system.Consistent config) (counter : Counter) :
    (system.remove counter).Consistent config := by
  have sameCalls : (system.remove counter).calls = system.calls := rfl
  apply consistent.change sameCalls
  intro other positive unset
  by_cases same : other = counter
  · subst same
    rw [value_remove_self] at positive
    omega
  · rw [expires_remove_of_ne same] at unset
    rw [value_remove_of_ne same]
    exact .inr ⟨le_rfl, unset⟩

variable [DecidableEq ρ] {call : ρ} {phase : ThrottlePhase}

theorem calls_setCall_self : (system.setCall call phase).calls call = phase :=
  Function.update_self ..

theorem calls_setCall_of_ne {other : ρ} (different : other ≠ call) :
    (system.setCall call phase).calls other = system.calls other :=
  Function.update_of_ne different ..

theorem Consistent.setCall (consistent : system.Consistent config)
    (replaced : ∀ counter, (system.calls call).expiring = some counter →
      1 ≤ system.value counter → system.expires counter = false →
        ∃ other, other ≠ call ∧ (system.calls other).expiring = some counter) :
    (system.setCall call phase).Consistent config := by
  refine ⟨?_, consistent.expires⟩
  intro counter positive unset
  have owned : ∃ owner, owner ≠ call ∧ (system.calls owner).expiring = some counter := by
    obtain ⟨owner, owns⟩ := consistent.attended counter positive unset
    by_cases same : owner = call
    · subst same
      exact replaced counter owns positive unset
    · exact ⟨owner, same, owns⟩
  obtain ⟨owner, different, owns⟩ := owned
  refine ⟨owner, ?_⟩
  rw [calls_setCall_of_ne different]
  exact owns

theorem Consistent.moveOn (consistent : system.Consistent config)
    (idle : (system.calls call).expiring = none) :
    (system.setCall call phase).Consistent config := by
  apply consistent.setCall
  intro counter owns
  rw [idle] at owns
  cases owns

theorem Consistent.increment (consistent : system.Consistent config) {counter : Counter}
    (idle : (system.calls call).expiring = none)
    (sets : system.value counter + 1 = 1 → phase.expiring = some counter)
    (guarded : (counter.kind.bound config).limit < system.value counter + 1 →
      system.expires counter = false →
        ∀ other, (system.calls other).expiring ≠ some counter) :
    ((system.setCall call phase).add counter 1).Consistent config := by
  have moved : (system.setCall call phase).Consistent config := consistent.moveOn idle
  have sameCalls : ((system.setCall call phase).add counter 1).calls =
      (system.setCall call phase).calls := rfl
  apply moved.change sameCalls
  intro other positive unset
  rw [expires_add] at unset
  by_cases same : other = counter
  · subst same
    rw [value_add_self] at positive ⊢
    have within := limit_positive config other.kind
    refine .inl ?_
    by_cases first : system.value other + 1 = 1
    · constructor
      · refine ⟨call, ?_⟩
        rw [calls_setCall_self]
        exact sets first
      · exact first.trans_le within
    · have old : 1 ≤ system.value other := by
        have positive : 1 ≤ system.value other + 1 := positive
        omega
      obtain ⟨owner, owns⟩ := moved.attended other old unset
      refine ⟨⟨owner, owns⟩, ?_⟩
      by_contra exceeded
      obtain ⟨before, held⟩ := consistent.attended other old unset
      exact guarded (Int.lt_of_not_ge exceeded) unset before held
  · rw [value_add_of_ne same]
    exact .inr ⟨le_rfl, unset⟩

theorem Consistent.advance (consistent : system.Consistent config) (call : ρ)
    (guarded : SetsExpiry config system (.advance call)) :
    (system.advance config casing calls call).Consistent config := by
  cases phase : system.calls call with
  | started =>
      have idle : (system.calls call).expiring = none := by rw [phase]; rfl
      simp only [ThrottleSystem.advance, phase]
      split
      · exact consistent.moveOn idle
      · exact consistent.moveOn idle
      · exact consistent.moveOn idle
  | counting pending seen =>
      have idle : (system.calls call).expiring = none := by rw [phase]; rfl
      cases pending with
      | nil =>
          simp only [ThrottleSystem.advance, phase]
          exact consistent.moveOn idle
      | cons counter pending =>
          simp only [ThrottleSystem.advance, phase]
          apply consistent.increment idle
          · intro first
            rw [if_pos first]
            rfl
          · apply guarded counter
            rw [phase]
            rfl
  | settingExpiry counter pending seen =>
      simp only [ThrottleSystem.advance, phase]
      apply (consistent.setExpiry counter).setCall
      intro other owns positive unset
      have owns : (system.calls call).expiring = some other := owns
      rw [phase] at owns
      cases owns
      rw [value_setExpiry] at positive
      rw [expires_setExpiry_self positive] at unset
      cases unset
  | reading pending =>
      have idle : (system.calls call).expiring = none := by rw [phase]; rfl
      cases pending with
      | nil =>
          simp only [ThrottleSystem.advance, phase]
          exact consistent.moveOn idle
      | cons counter pending =>
          simp only [ThrottleSystem.advance, phase]
          split
          · exact consistent.moveOn idle
          · exact consistent.moveOn idle
  | decrementing counter pending =>
      have idle : (system.calls call).expiring = none := by rw [phase]; rfl
      simp only [ThrottleSystem.advance, phase]
      exact (consistent.decrement counter).moveOn idle
  | finished error => simpa only [ThrottleSystem.advance, phase] using consistent
  | failed => simpa only [ThrottleSystem.advance, phase] using consistent

theorem Consistent.perform (consistent : system.Consistent config) (action : ThrottleAction ρ)
    (guarded : SetsExpiry config system action) :
    (system.perform config casing calls action).Consistent config := by
  cases action with
  | advance call => exact consistent.advance call guarded
  | fail call =>
      rw [ThrottleSystem.perform]
      split
      · exact consistent
      · exact consistent.setCall guarded
  | expire counter =>
      rw [ThrottleSystem.perform]
      split
      · exact consistent.remove counter
      · exact consistent

end ThrottleSystem

theorem isSpace_of_letter {c : Char} (low : 65 ≤ c.toNat) (high : c.toNat ≤ 122) :
    Text.isSpace c = false := by
  simp only [Text.isSpace, Bool.or_eq_false_iff, Bool.and_eq_false_iff, decide_eq_false_iff_not,
    beq_eq_false_iff_ne]
  omega

theorem isSpace_toLower (c : Char) : Text.isSpace c.toLower = Text.isSpace c := by
  unfold Char.toLower
  split
  · rename_i upper
    have low : 65 ≤ c.toNat := upper.1
    have high : c.toNat ≤ 90 := upper.2
    have small : c.val.toNat ≤ 90 := high
    have lowered : (c.val + ('a'.val - 'A'.val)).toNat = c.toNat + 32 := by
      rw [UInt32.toNat_add]
      apply Nat.mod_eq_of_lt
      simp
      omega
    rw [isSpace_of_letter low (by omega)]
    apply isSpace_of_letter
    · exact Nat.le_trans (by omega) lowered.ge
    · exact Nat.le_trans lowered.le (by omega)
  · rfl

theorem strip_map_toLower (text : Text) :
    (Text.strip text).map Char.toLower = Text.strip (text.map Char.toLower) := by
  have same : Text.isSpace ∘ Char.toLower = Text.isSpace := funext isSpace_toLower
  simp only [Text.strip, List.dropWhile_map, ← List.map_reverse, same]

/-- ASCII addresses. -/
def EmailCasing.ascii : EmailCasing :=
  { Casing.ascii with lower_strip := strip_map_toLower }

/-- Addresses that differ in case only are normalized to the same. -/
theorem normalizeEmail_eq (casing : EmailCasing) {first second : Text}
    (same : casing.lower first = casing.lower second) :
    normalizeEmail casing.toCasing first = normalizeEmail casing.toCasing second := by
  rw [normalizeEmail, normalizeEmail, casing.lower_strip, casing.lower_strip, same]

/-- A check that counts the address as it is spelled tells `A` from `a`. -/
theorem not_sharesCounters_of_raw {casing : Casing} {method : CheckMethod}
    {emailKind ipKind : CounterKind}
    (raw : ∀ email ip, method.counters casing email ip = counters emailKind ipKind email ip) :
    ¬ method.SharesCounters casing := by
  intro shares
  have same : casing.lower ['A'] = casing.lower ['a'] := by
    rw [casing.lower_ascii ['A'] (by simp), casing.lower_ascii ['a'] (by simp)]
    decide
  have counted := shares ['A'] ['a'] [] same
  rw [raw, raw] at counted
  simp [counters] at counted

theorem sharesCounters_iff (casing : EmailCasing) (method : CheckMethod) :
    method.SharesCounters casing.toCasing ↔ method.Normalizes := by
  cases method with
  | login =>
      refine ⟨fun _ => trivial, ?_⟩
      intro _ first second ip same
      simp only [CheckMethod.counters, checkLoginAttempt, normalizeEmail_eq casing same]
  | signup => exact ⟨fun _ => trivial, fun _ _ _ _ _ => rfl⟩
  | reset =>
      refine ⟨fun _ => trivial, ?_⟩
      intro _ first second ip same
      simp only [CheckMethod.counters, checkResetAttempt, normalizeEmail_eq casing same]
  | verify => exact iff_of_false (not_sharesCounters_of_raw fun _ _ => rfl) id
  | forgotPassword => exact iff_of_false (not_sharesCounters_of_raw fun _ _ => rfl) id
  | passwordlessSend => exact iff_of_false (not_sharesCounters_of_raw fun _ _ => rfl) id
  | passwordlessVerify => exact iff_of_false (not_sharesCounters_of_raw fun _ _ => rfl) id
  | mfaSend => exact iff_of_false (not_sharesCounters_of_raw fun _ _ => rfl) id
  | mfaVerify => exact iff_of_false (not_sharesCounters_of_raw fun _ _ => rfl) id

/-- Counters over their limit expire, as long as no increment to 1 goes without
its expiry; and the checks that normalize addresses are those that cannot be
dodged by another spelling. -/
theorem throttle_expires_and_shares {ρ : Type} [DecidableEq ρ] {config : ThrottleConfig}
    {casing : EmailCasing} {calls : ρ → ThrottleCall} {actions : List (ThrottleAction ρ)}
    {system : ThrottleSystem ρ}
    (run : GuardedRun (ThrottleSystem.perform config casing.toCasing calls) (SetsExpiry config)
      ThrottleSystem.start actions system) :
    system.Expires config ∧
      ∀ method : CheckMethod, method.SharesCounters casing.toCasing ↔ method.Normalizes := by
  have consistent : system.Consistent config := by
    apply run.invariant (ThrottleSystem.Consistent config)
    · exact ThrottleSystem.start_consistent
    · intro source action before guarded
      exact before.perform action guarded
  exact ⟨consistent.expires, sharesCounters_iff casing⟩

instance SetsExpiry.decidable (config : ThrottleConfig) (system : ThrottleSystem Bool) :
    ∀ action, Decidable (SetsExpiry config system action)
  | .advance _ => inferInstanceAs (Decidable (∀ counter ∈ _, _ → _ → ∀ _, _))
  | .fail _ => inferInstanceAs (Decidable (∀ counter ∈ _, _ → _ → ∃ _, _))
  | .expire _ => .isTrue trivial

/-- The defaults of the constructor. -/
def ThrottleConfig.defaults : ThrottleConfig :=
  { loginMaxPerIp := 20
    loginWindowSec := 900
    loginMaxPerEmail := 5
    signupMaxPerIp := 3
    signupWindowSec := 3600
    positive := by decide }

/-- Password resets requested for one address from one host. -/
def resetRequests {ρ : Type} : ρ → ThrottleCall :=
  fun _ => .check .forgotPassword ['a', '@', 'b'] ['i']

/-- One request counts itself, and another one does so before the first sets
the expiry. -/
def overtaking : List (ThrottleAction Bool) :=
  [.advance false, .advance false, .advance true, .advance true, .advance false]

theorem throttle_expires_when_overtaken :
    ((overtaking.foldl (ThrottleSystem.perform .defaults EmailCasing.ascii.toCasing
        resetRequests) .start).Expires .defaults ∧
      ∀ method : CheckMethod,
        method.SharesCounters EmailCasing.ascii.toCasing ↔ method.Normalizes) ∧
      (overtaking.foldl (ThrottleSystem.perform .defaults EmailCasing.ascii.toCasing
        resetRequests) .start).entries { kind := .forgotEmail, subject := ['a', '@', 'b'] } =
          some { value := 2, expires := true } := by
  constructor
  · apply throttle_expires_and_shares
    exact GuardedRun.of_allowedAlong (by decide +kernel)
  · decide +kernel

/-- A request fails between counting itself and setting the expiry, and the
requests after it take the counter over the limit for good.  Besides, the check
counts `A@b` apart from `a@b`. -/
theorem account_locked_out_for_ever :
    (∃ actions : List (ThrottleAction Nat),
      ¬ (actions.foldl (ThrottleSystem.perform .defaults EmailCasing.ascii.toCasing
        resetRequests) .start).Expires .defaults) ∧
      ¬ CheckMethod.SharesCounters EmailCasing.ascii.toCasing .forgotPassword := by
  constructor
  · refine ⟨[.advance 0, .advance 0, .fail 0, .advance 1, .advance 1, .advance 2, .advance 2,
      .advance 3, .advance 3], ?_⟩
    intro expires
    have unset := expires { kind := .forgotEmail, subject := ['a', '@', 'b'] }
      (by decide +kernel)
    revert unset
    decide +kernel
  · exact not_sharesCounters_of_raw fun _ _ => rfl

end OpenZync.Auth
