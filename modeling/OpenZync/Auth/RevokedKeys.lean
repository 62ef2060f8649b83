import OpenZync.Auth.ApiKeyCache

/-!
# Revoked and expired keys

An invariant of the authentication flow for any source of entries that only a
revocation changes.  For the entries of all keys it holds in every run, for
those of the keys that are not revoked in the runs where revocations commit
unseen.
-/

namespace OpenZync.Auth

open OpenZync.Library

/-- The moment is past, and what is loaded now was loaded then. -/
def Moment.Before (load : ApiKeys → Text → Option CachedKey) (lookupHash : Text)
    (keys : ApiKeys) (now : Time) (begun : Moment) : Prop :=
  begun.now ≤ now ∧
    ∀ entry, load keys lookupHash = some entry → load begun.keys lookupHash = some entry

def KeyPhase.Sound (load : ApiKeys → Text → Option CachedKey) (lookupHash : Text)
    (keys : ApiKeys) (now : Time) : KeyPhase → Prop
  | .started begun => begun.Before load lookupHash keys now
  | .hit begun entry => begun.now ≤ now ∧ load begun.keys lookupHash = some entry
  | .missed begun => begun.Before load lookupHash keys now
  | .admissible begun => begun.Before load lookupHash keys now
  | .counted begun _ => begun.Before load lookupHash keys now
  | .admitted begun => begun.Before load lookupHash keys now
  | .read begun row => begun.now ≤ now ∧ load begun.keys lookupHash = some row.cached
  | .accepted begun row =>
      expired row.expiresAt begun.now = false ∧ load begun.keys lookupHash = some row.cached
  | .touched begun row =>
      expired row.expiresAt begun.now = false ∧ load begun.keys lookupHash = some row.cached
  | .authenticated begun state =>
      ∃ entry, load begun.keys lookupHash = some entry ∧
        expired entry.expiresAt begun.now = false ∧ entry.state = state
  | _ => True

section Later

variable {load : ApiKeys → Text → Option CachedKey} {lookupHash : Text} {keys keys' : ApiKeys}
  {now now' : Time}

theorem Moment.Before.later {begun : Moment} (before : begun.Before load lookupHash keys now)
    (older : ∀ entry, load keys' lookupHash = some entry → load keys lookupHash = some entry)
    (passed : now ≤ now') : begun.Before load lookupHash keys' now' := by
  refine ⟨Int.le_trans before.1 passed, ?_⟩
  intro entry loaded
  exact before.2 entry (older entry loaded)

theorem KeyPhase.Sound.later {phase : KeyPhase} (sound : phase.Sound load lookupHash keys now)
    (older : ∀ entry, load keys' lookupHash = some entry → load keys lookupHash = some entry)
    (passed : now ≤ now') : phase.Sound load lookupHash keys' now' := by
  cases phase with
  | started begun => exact Moment.Before.later sound older passed
  | hit begun entry => exact ⟨Int.le_trans sound.1 passed, sound.2⟩
  | missed begun => exact Moment.Before.later sound older passed
  | admissible begun => exact Moment.Before.later sound older passed
  | counted begun count => exact Moment.Before.later sound older passed
  | admitted begun => exact Moment.Before.later sound older passed
  | read begun row => exact ⟨Int.le_trans sound.1 passed, sound.2⟩
  | accepted begun row => exact sound
  | touched begun row => exact sound
  | authenticated begun state => exact sound
  | idle => trivial
  | evicting => trivial
  | unknown => trivial
  | refused refusal => trivial

end Later

namespace KeySystem

variable {ρ ω : Type} {load : ApiKeys → Text → Option CachedKey} {traffic : KeyTraffic ρ ω}
  {system : KeySystem ρ ω}

/-- Entries in the cache and in hand are those of the source. -/
structure Consistent (load : ApiKeys → Text → Option CachedKey) (traffic : KeyTraffic ρ ω)
    (system : KeySystem ρ ω) : Prop where
  current : Current (load system.keys) system.positive (system.copies traffic)
  sound : ∀ request,
    (system.requests request).Sound load (traffic.lookupHash request) system.keys system.now

theorem start_consistent (keys : ApiKeys) (now : Time) :
    (start keys now : KeySystem ρ ω).Consistent load traffic := by
  constructor
  · exact Current.empty
  · intro request
    trivial

theorem Consistent.rest (consistent : system.Consistent load traffic)
    {positive : Text → Option CachedKey}
    (forgotten : ∀ lookupHash entry, positive lookupHash = some entry →
      system.positive lookupHash = some entry)
    (negative : Text → Bool) (misses : Text → Nat) (revocations : ω → RevokePhase)
    (rows : Uuid → Option ω) :
    { system with
      positive := positive
      negative := negative
      misses := misses
      revocations := revocations
      rows := rows }.Consistent load traffic := by
  refine ⟨⟨?_, consistent.current.copied⟩, consistent.sound⟩
  intro lookupHash entry cached
  exact consistent.current.cached lookupHash entry (forgotten lookupHash entry cached)

theorem update_none_eq_some {positive : Text → Option CachedKey} {key lookupHash : Text}
    {entry : CachedKey} (cached : Function.update positive key none lookupHash = some entry) :
    positive lookupHash = some entry := by
  by_cases same : lookupHash = key
  · simp [same] at cached
  · rwa [Function.update_of_ne same] at cached

theorem Consistent.loaded (consistent : system.Consistent load traffic) {request : ρ}
    {row : ApiKey} (holds : (system.requests request).copy = some row) :
    load system.keys (traffic.lookupHash request) = some row.cached := by
  apply consistent.current.copied request
  rw [copies, holds, Option.map_some]

/-- A statement on the keys after which the entries in the cache and in hand
are still those of the source, and none is new. -/
theorem Consistent.setKeys (consistent : system.Consistent load traffic) {keys : ApiKeys}
    (older : ∀ lookupHash entry, load keys lookupHash = some entry →
      load system.keys lookupHash = some entry)
    (unharmed : Unharmed (load system.keys) (load keys) system.positive
      (system.copies traffic)) :
    { system with keys := keys }.Consistent load traffic := by
  constructor
  · exact consistent.current.change unharmed
  · intro request
    exact (consistent.sound request).later (older _) (Int.le_refl _)

variable [DecidableEq ρ]

theorem copies_setRequest (request : ρ) (phase : KeyPhase) :
    (system.setRequest request phase).copies traffic =
      Function.update (system.copies traffic) request
        (phase.copy.map fun row => (traffic.lookupHash request, row.cached)) := by
  funext other
  by_cases same : other = request
  · subst same
    simp [copies, setRequest]
  · simp [copies, setRequest, same]

theorem Consistent.setRequest (consistent : system.Consistent load traffic) (request : ρ)
    {phase : KeyPhase}
    (sound : phase.Sound load (traffic.lookupHash request) system.keys system.now)
    (loaded : ∀ row, phase.copy = some row →
      load system.keys (traffic.lookupHash request) = some row.cached) :
    (system.setRequest request phase).Consistent load traffic := by
  constructor
  · rw [copies_setRequest]
    apply consistent.current.hold request
    intro lookupHash entry copied
    obtain ⟨row, holds, same⟩ := Option.map_eq_some_iff.mp copied
    cases same
    exact loaded row holds
  · intro other
    by_cases same : other = request
    · subst same
      simpa [KeySystem.setRequest] using sound
    · simpa [KeySystem.setRequest, same] using consistent.sound other

/-- A request goes on to a phase that holds no entry. -/
theorem Consistent.moveOn (consistent : system.Consistent load traffic) (request : ρ)
    {phase : KeyPhase}
    (sound : phase.Sound load (traffic.lookupHash request) system.keys system.now)
    (empty : phase.copy = none) :
    (system.setRequest request phase).Consistent load traffic := by
  apply consistent.setRequest request sound
  intro row copied
  rw [empty] at copied
  cases copied

theorem Consistent.refuse (consistent : system.Consistent load traffic) (request : ρ)
    (refusal : Refusal) :
    (system.setRequest request (.refused refusal)).Consistent load traffic :=
  consistent.moveOn request trivial rfl

/-- A request that goes on with the row it has read. -/
theorem Consistent.carry (consistent : system.Consistent load traffic) (request : ρ)
    {phase : KeyPhase}
    (sound : phase.Sound load (traffic.lookupHash request) system.keys system.now)
    (same : (system.requests request).copy = phase.copy) :
    (system.setRequest request phase).Consistent load traffic := by
  apply consistent.setRequest request sound
  intro row holds
  rw [← same] at holds
  exact consistent.loaded holds

/-- The update of `last_used_at`. -/
theorem Consistent.touch (source : KeySource load) (consistent : system.Consistent load traffic)
    {request : ρ} {begun : Moment} {row : ApiKey}
    (phase : system.requests request = .accepted begun row) (reachable : Bool) :
    (system.advance traffic request reachable).Consistent load traffic := by
  have sound := consistent.sound request
  rw [phase] at sound
  have touched : (system.setRequest request (.touched begun row)).Consistent load traffic := by
    refine consistent.carry request ?_ ?_
    · exact sound
    · rw [phase]
      rfl
  simp only [KeySystem.advance, phase]
  split
  · split
    · exact consistent
    · apply touched.setKeys
      · intro lookupHash entry loaded
        rwa [source.touch] at loaded
      · intro lookupHash changed
        exact absurd (source.touch _ _ _ _) changed
  · exact touched

theorem Consistent.store (consistent : system.Consistent load traffic) {request : ρ}
    {begun : Moment} {row : ApiKey} (phase : system.requests request = .touched begun row)
    (reachable : Bool) : (system.advance traffic request reachable).Consistent load traffic := by
  have sound := consistent.sound request
  rw [phase] at sound
  have ended : (system.setRequest request (.authenticated begun row.state)).Consistent
      load traffic :=
    consistent.moveOn request ⟨row.cached, sound.2, sound.1, rfl⟩ rfl
  have copied : system.copies traffic request =
      some (traffic.lookupHash request, row.cached) := by
    rw [copies, phase, KeyPhase.copy, Option.map_some]
  have stored : Current (load system.keys)
      (if traffic.hasRedis = true ∧ reachable = true then
        Function.update system.positive (traffic.lookupHash request) (some row.cached)
      else system.positive)
      ((system.setRequest request (.authenticated begun row.state)).copies traffic) := by
    split
    · rw [copies_setRequest]
      apply (consistent.current.store copied).hold
      intro lookupHash entry none
      cases none
    · exact ended.current
  simp only [KeySystem.advance, phase]
  exact ⟨stored, ended.sound⟩

theorem Consistent.advance (source : KeySource load) (consistent : system.Consistent load traffic)
    (request : ρ) (reachable : Bool) :
    (system.advance traffic request reachable).Consistent load traffic := by
  have sound := consistent.sound request
  cases phase : system.requests request with
  | idle => simpa only [KeySystem.advance, phase] using consistent
  | started begun =>
      rw [phase] at sound
      simp only [KeySystem.advance, phase]
      split
      · split
        · split
          · rename_i entry cached
            exact consistent.moveOn request
              ⟨sound.1, sound.2 entry (consistent.current.cached _ entry cached)⟩ rfl
          · exact consistent.moveOn request sound rfl
        · exact consistent.refuse request _
      · exact consistent.moveOn request sound rfl
  | hit begun entry =>
      rw [phase] at sound
      simp only [KeySystem.advance, phase]
      split
      · exact consistent.moveOn request trivial rfl
      · rename_i fresh
        have fresh := expired_mono sound.1 (Bool.eq_false_of_not_eq_true fresh)
        exact consistent.moveOn request ⟨entry, sound.2, fresh, rfl⟩ rfl
  | evicting =>
      simp only [KeySystem.advance, phase]
      split
      · exact (consistent.refuse request .expired).rest (fun _ _ => update_none_eq_some) _ _ _ _
      · exact consistent.refuse request _
  | missed begun =>
      rw [phase] at sound
      simp only [KeySystem.advance, phase]
      split
      · split
        · exact consistent.refuse request _
        · exact consistent.moveOn request sound rfl
      · exact consistent.refuse request _
  | admissible begun =>
      rw [phase] at sound
      simp only [KeySystem.advance, phase]
      split
      · have counted : (system.setRequest request (.counted begun
            (system.misses (traffic.calls request).clientIp + 1))).Consistent load traffic :=
          consistent.moveOn request sound rfl
        exact counted.rest (fun _ _ cached => cached) _ _ _ _
      · exact consistent.refuse request _
  | counted begun count =>
      rw [phase] at sound
      simp only [KeySystem.advance, phase]
      split
      · exact consistent.refuse request _
      · split
        · exact consistent.refuse request _
        · exact consistent.moveOn request sound rfl
  | admitted begun =>
      rw [phase] at sound
      simp only [KeySystem.advance, phase]
      split
      · split
        · exact consistent.moveOn request trivial rfl
        · rename_i row found
          have loaded := source.read _ _ _ found
          refine consistent.setRequest request ⟨sound.1, sound.2 _ loaded⟩ ?_
          intro other same
          cases same
          exact loaded
      · exact consistent.refuse request _
  | unknown =>
      simp only [KeySystem.advance, phase]
      exact (consistent.refuse request .invalid).rest (fun _ _ cached => cached) _ _ _ _
  | read begun row =>
      have same : (system.requests request).copy = (KeyPhase.accepted begun row).copy := by
        rw [phase]
        rfl
      rw [phase] at sound
      simp only [KeySystem.advance, phase]
      split
      · exact consistent.refuse request _
      · split
        · exact consistent.refuse request _
        · split
          · exact consistent.refuse request _
          · rename_i fresh
            have fresh := expired_mono sound.1 (Bool.eq_false_of_not_eq_true fresh)
            exact consistent.carry request ⟨fresh, sound.2⟩ same
  | accepted begun row => exact consistent.touch source phase reachable
  | touched begun row => exact consistent.store phase reachable
  | authenticated begun state => simpa only [KeySystem.advance, phase] using consistent
  | refused refusal => simpa only [KeySystem.advance, phase] using consistent

variable [DecidableEq ω]

/-- Every action keeps the invariant, a commit when the revocation it makes
harms no entry in the cache or in hand. -/
theorem Consistent.perform (source : KeySource load)
    (consistent : system.Consistent load traffic) (action : KeyAction ρ ω)
    (unharmed : ∀ revocation, action = .commit revocation →
      ∀ keyId ∈ (system.revocations revocation).toCommit,
        Unharmed (load system.keys) (load (system.keys.revoke keyId)) system.positive
          (system.copies traffic)) :
    (system.perform traffic action).Consistent load traffic := by
  have kept : ∀ (revocations : ω → RevokePhase) (rows : Uuid → Option ω),
      { system with revocations := revocations, rows := rows }.Consistent load traffic :=
    fun revocations rows => consistent.rest (fun _ _ cached => cached) _ _ revocations rows
  cases action with
  | start request =>
      simp only [KeySystem.perform]
      split
      · exact consistent.moveOn request ⟨Int.le_refl _, fun _ loaded => loaded⟩ rfl
      · exact consistent
  | advance request reachable => exact consistent.advance source request reachable
  | expireKey lookupHash => exact consistent.rest (fun _ _ => update_none_eq_some) _ _ _ _
  | expireNegative lookupHash => exact consistent.rest (fun _ _ cached => cached) _ _ _ _
  | expireMisses clientIp => exact consistent.rest (fun _ _ cached => cached) _ _ _ _
  | tick moment =>
      refine ⟨consistent.current, ?_⟩
      intro request
      apply (consistent.sound request).later fun _ loaded => loaded
      exact Int.le_max_left _ _
  | select revocation =>
      simp only [KeySystem.perform]
      split
      · split
        · exact kept _ _
        · exact kept _ _
      · exact consistent
  | flush revocation =>
      simp only [KeySystem.perform]
      split
      · split
        · exact kept _ _
        · split
          · exact kept _ _
          · exact consistent
      · exact consistent
  | invalidate revocation reachable =>
      simp only [KeySystem.perform]
      split
      · split
        · exact consistent.rest (fun _ _ => update_none_eq_some) _ _ _ _
        · exact kept _ _
      · exact consistent
  | commit revocation =>
      simp only [KeySystem.perform]
      split
      · split
        · rename_i keyId revokes
          apply (kept _ _).setKeys
          · exact source.revoke _ _
          · exact unharmed revocation rfl keyId revokes
        · exact kept _ _
      · exact consistent
  | abort revocation =>
      simp only [KeySystem.perform]
      split
      · exact consistent
      · exact kept _ _

omit [DecidableEq ρ] [DecidableEq ω] in
/-- A revocation that commits unseen harms no entry. -/
theorem unharmed_of_unseen {revocation : ω} {keyId : Uuid}
    (unseen : RevokesUnseen traffic system (.commit revocation))
    (revokes : keyId ∈ (system.revocations revocation).toCommit) :
    Unharmed (loadLive system.keys) (loadLive (system.keys.revoke keyId)) system.positive
      (system.copies traffic) := by
  intro lookupHash changed
  obtain ⟨row, stored, sameId, live, sameHash⟩ := revoked_of_changed changed
  obtain ⟨uncached, uncopied⟩ := unseen keyId revokes row stored sameId live
  rw [sameHash] at uncached uncopied
  refine ⟨uncached, ?_⟩
  intro request entry copied
  apply uncopied request
  rw [copied, Option.map_some]

end KeySystem

section Runs

variable {ρ ω : Type} [DecidableEq ρ] [DecidableEq ω] {traffic : KeyTraffic ρ ω}
  {keys : ApiKeys} {now : Time} {actions : List (KeyAction ρ ω)} {system : KeySystem ρ ω}

theorem authenticated_as_stored
    (run : GuardedRun (KeySystem.perform traffic) (fun _ _ => True)
      (KeySystem.start keys now) actions system)
    {request : ρ} {begun : Moment} {state : KeyState}
    (authenticated : system.requests request = .authenticated begun state) :
    ∃ row ∈ begun.keys.rows, row.lookupHash = traffic.lookupHash request ∧
      expired row.expiresAt begun.now = false ∧ row.state = state := by
  have consistent : system.Consistent loadAny traffic := by
    apply run.invariant (KeySystem.Consistent loadAny traffic)
    · exact KeySystem.start_consistent keys now
    · intro source action sourceConsistent _
      apply sourceConsistent.perform loadAny_source
      intro revocation _ keyId _ lookupHash changed
      exact absurd (loadAny_revoke source.keys keyId lookupHash) changed
  have sound := consistent.sound request
  rw [authenticated] at sound
  obtain ⟨entry, loaded, fresh, same⟩ := sound
  obtain ⟨row, stored, sameHash, _, rfl⟩ := loadKey_eq_some.mp loaded
  exact ⟨row, stored, sameHash, fresh, same⟩

/-- No revoked and no expired key is authenticated, and whoever is
authenticated has the state of the key, as long as no revocation commits while
its key is in the cache or in hand. -/
theorem only_live_keys_authenticate
    (run : GuardedRun (KeySystem.perform traffic) (RevokesUnseen traffic)
      (KeySystem.start keys now) actions system) :
    system.OnlyLiveKeys traffic := by
  have consistent : system.Consistent loadLive traffic := by
    apply run.invariant (KeySystem.Consistent loadLive traffic)
    · exact KeySystem.start_consistent keys now
    · intro source action sourceConsistent unseen
      apply sourceConsistent.perform loadLive_source
      rintro revocation rfl keyId revokes
      exact KeySystem.unharmed_of_unseen unseen revokes
  intro request begun state authenticated
  have sound := consistent.sound request
  rw [authenticated] at sound
  obtain ⟨entry, loaded, fresh, same⟩ := sound
  obtain ⟨row, stored, sameHash, accepted, rfl⟩ := loadKey_eq_some.mp loaded
  rw [Bool.not_eq_true'] at accepted
  exact ⟨row, ApiKeys.getByLookupHash_eq_some.mpr ⟨stored, sameHash, accepted⟩, fresh, same⟩

end Runs

/-- An authenticated request started while its key was live. -/
def KeyPhase.isLive (lookupHash : Text) : KeyPhase → Bool
  | .authenticated begun _ => (begun.keys.getByLookupHash lookupHash).isSome
  | _ => true

theorem KeySystem.OnlyLiveKeys.isLive {ρ ω : Type} {traffic : KeyTraffic ρ ω}
    {system : KeySystem ρ ω} (live : system.OnlyLiveKeys traffic) (request : ρ) :
    (system.requests request).isLive (traffic.lookupHash request) = true := by
  cases phase : system.requests request with
  | authenticated begun state =>
      obtain ⟨row, found, _⟩ := live request begun state phase
      rw [KeyPhase.isLive, found, Option.isSome_some]
  | _ => rfl

instance RevokesUnseen.decidable (traffic : KeyTraffic Bool Unit)
    (system : KeySystem Bool Unit) :
    ∀ action, Decidable (RevokesUnseen traffic system action)
  | .commit _ => inferInstanceAs
      (Decidable (∀ keyId ∈ _, ∀ row ∈ _, _ → _ → _ ∧ ∀ _, _))
  | .start _ => .isTrue trivial
  | .advance _ _ => .isTrue trivial
  | .expireKey _ => .isTrue trivial
  | .expireNegative _ => .isTrue trivial
  | .expireMisses _ => .isTrue trivial
  | .tick _ => .isTrue trivial
  | .select _ => .isTrue trivial
  | .flush _ => .isTrue trivial
  | .invalidate _ _ => .isTrue trivial
  | .abort _ => .isTrue trivial

def leakedKey : ApiKey :=
  { id := 1
    organizationId := 9
    projectId := 5
    createdBy := some 7
    lookupHash := ['h', 'k']
    keyHash := ['s', 'k']
    salt := ['s']
    permissions := ["project:read".toList]
    lastUsedAt := none
    expiresAt := none
    isRevoked := false }

def leakedKeys : ApiKeys :=
  { rows := [leakedKey]
    unique := List.nodup_singleton _ }

/-- Two requests with the same key, and its revocation. -/
def leakedTraffic : KeyTraffic Bool Unit :=
  { hashing :=
      { computeLookupHash := fun raw => 'h' :: raw
        verifyApiKey := fun raw hash salt => decide (salt ++ raw = hash) }
    hasRedis := true
    calls := fun _ => { rawKey := ['k'], clientIp := ['i'] }
    revocations := fun _ => { organizationId := 9, projectId := 5, keyId := 1 } }

def revocation : List (KeyAction Bool Unit) :=
  [.select (), .flush (), .invalidate () true, .commit ()]

/-- A request up to the point where it is accepted, and on to its end. -/
def acceptance (request : Bool) : List (KeyAction Bool Unit) :=
  .start request :: List.replicate 6 (.advance request true)

def completion (request : Bool) : List (KeyAction Bool Unit) :=
  List.replicate 2 (.advance request true)

/-- A request, the revocation and another request, one after the other. -/
def revokedBetween : List (KeyAction Bool Unit) :=
  acceptance false ++ completion false ++ revocation ++ acceptance true ++ completion true

theorem only_live_keys_authenticate_of_revocation :
    (revokedBetween.foldl (KeySystem.perform leakedTraffic)
        (KeySystem.start leakedKeys 0)).OnlyLiveKeys leakedTraffic ∧
      (revokedBetween.foldl (KeySystem.perform leakedTraffic)
        (KeySystem.start leakedKeys 0)).requests true = .refused .invalid := by
  constructor
  · apply only_live_keys_authenticate
    exact GuardedRun.of_allowedAlong (by decide +kernel)
  · rfl

/-- A request that was accepted before the revocation writes the key back
after it, and the next request is authenticated. -/
theorem revoked_key_authenticates :
    ∃ actions : List (KeyAction Bool Unit),
      ¬ (actions.foldl (KeySystem.perform leakedTraffic)
        (KeySystem.start leakedKeys 0)).OnlyLiveKeys leakedTraffic := by
  refine ⟨acceptance false ++ revocation ++ completion false ++ acceptance true, ?_⟩
  intro live
  have started := live.isLive true
  revert started
  decide +kernel

end OpenZync.Auth
