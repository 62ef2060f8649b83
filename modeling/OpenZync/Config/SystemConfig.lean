import Mathlib.Logic.Function.Basic
import OpenZync.Config.OrgConfig
import OpenZync.Library.CompareAndSwap
import OpenZync.Library.Leases

/-!
# The system secret

The settings of the platform and the credentials of its services are one secret in
OpenBao.  `write_system_config` merges keys into it: it reads the secret with its
version and writes it back under that version.  `update_system_config` reads the
secret once more before that, and hands the whole of it on as the keys to merge.
-/

namespace OpenZync.Config

open OpenZync.Library

section Calls

variable {ν : Type}

/-- `config/data/system`; there is no secret at version 0. -/
abbrev SystemSecret (ν : Type) := Versioned (Dict Text ν)

/-- `SYSTEM_CONFIG_WHITELIST`. -/
def systemConfigWhitelist : List Text :=
  ["org_creation_policy".toList, "approval_scope".toList, "llm_backend".toList,
    "llm_model".toList, "llm_temperature".toList, "llm_max_tokens".toList,
    "graph_backend".toList, "graph_search_type".toList, "graph_max_traversal_depth".toList,
    "reranker_backend".toList, "reranker_model".toList, "reranker_top_k".toList,
    "reranker_top_n".toList, "context_cache_ttl".toList]

/-- `set(update_dict) - SYSTEM_CONFIG_WHITELIST` -/
def unknownKeys (updateDict : ConfigDict ν) : List Text :=
  updateDict.keys.filter fun key => !systemConfigWhitelist.contains key

/-- One turn of the loop of `update_system_config`. -/
def mergeKey (existing : Dict Text ν) (item : Text × Option ν) : Dict Text ν :=
  match item.2 with
  | none => existing.erase item.1
  | some value => existing.set item.1 value

def mergeSystemConfig (existing : Dict Text ν) (updateDict : ConfigDict ν) : Dict Text ν :=
  updateDict.items.foldl mergeKey existing

theorem get?_foldl_mergeKey {items : List (Text × Option ν)}
    (distinct : (items.map Prod.fst).Nodup) (existing : Dict Text ν) (key : Text) :
    (items.foldl mergeKey existing).get? key =
      (Dict.getItems key items).getD (existing.get? key) := by
  induction items generalizing existing with
  | nil => rfl
  | cons item items induction =>
      obtain ⟨written, value⟩ := item
      rw [List.map_cons, List.nodup_cons] at distinct
      rw [List.foldl_cons, induction distinct.2, Dict.getItems_cons]
      by_cases same : key = written
      · rw [Dict.getItems_eq_none (same ▸ distinct.1), if_pos same]
        cases value with
        | none => rw [mergeKey, Dict.get?_erase, if_pos same]; rfl
        | some value => rw [mergeKey, Dict.get?_set, if_pos same]; rfl
      · rw [if_neg same]
        cases value with
        | none => rw [mergeKey, Dict.get?_erase, if_neg same]
        | some value => rw [mergeKey, Dict.get?_set, if_neg same]

theorem get?_mergeSystemConfig (existing : Dict Text ν) (updateDict : ConfigDict ν) (key : Text) :
    (mergeSystemConfig existing updateDict).get? key =
      (updateDict.get? key).getD (existing.get? key) :=
  get?_foldl_mergeKey updateDict.distinct existing key

/-- A call of `update_system_config`, or of `write_system_config` by itself. -/
inductive SystemCall (ν : Type) where
  | update (updateDict : ConfigDict ν)
  | write (config : Dict Text ν)

namespace SystemCall

/-- The keys that a call is asked to set. -/
def own : SystemCall ν → Dict Text ν
  | .update updateDict => mergeSystemConfig .empty updateDict
  | .write config => config

/-- The request of the call has the key. -/
def Asks (key : Text) : SystemCall ν → Prop
  | .update updateDict => (updateDict.get? key).isSome
  | .write config => (config.get? key).isSome

theorem own_of_not_asks {call : SystemCall ν} {key : Text} (foreign : ¬ call.Asks key) :
    call.own.get? key = none := by
  cases call with
  | write config => exact Option.not_isSome_iff_eq_none.mp foreign
  | update updateDict =>
      rw [own, get?_mergeSystemConfig, Option.not_isSome_iff_eq_none.mp foreign]
      rfl

end SystemCall

/-- Where a call stands. -/
inductive SystemPhase (ν : Type) where
  | start
  /-- `write_system_config` is called. -/
  | merged (config : Dict Text ν)
  /-- The secret is to be written under the version. -/
  | pending (config data : Dict Text ν) (version : Nat)
  | succeeded
  | failed

/-- The secret, and what has been merged into it by which call. -/
structure SystemState (τ ν : Type) where
  secret : SystemSecret ν
  phase : τ → SystemPhase ν
  log : List (τ × Dict Text ν)

end Calls

namespace SystemState

variable {τ ν : Type} [DecidableEq τ]

def start (secret : SystemSecret ν) : SystemState τ ν :=
  { secret := secret
    phase := fun _ => .start
    log := [] }

def setPhase (state : SystemState τ ν) (call : τ) (phase : SystemPhase ν) : SystemState τ ν :=
  { state with phase := Function.update state.phase call phase }

/-- The first read of `update_system_config`; unknown keys are a `ValidationError`. -/
def readConfig (state : SystemState τ ν) (call : τ) (updateDict : ConfigDict ν)
    (reply : CommandReply) : SystemState τ ν :=
  if (unknownKeys updateDict).isEmpty ∧ reply = .answered then
    state.setPhase call (.merged (mergeSystemConfig state.secret.value updateDict))
  else state.setPhase call .failed

/-- The read of `write_system_config`. -/
def readVersion (state : SystemState τ ν) (call : τ) (config : Dict Text ν)
    (reply : CommandReply) : SystemState τ ν :=
  if reply = .answered then
    state.setPhase call
      (.pending config (state.secret.value.update config) state.secret.version)
  else state.setPhase call .failed

/-- The write under the version; another version is an `OpenBaoError`. -/
def writeVersion (state : SystemState τ ν) (call : τ) (config data : Dict Text ν)
    (version : Nat) (reply : CommandReply) : SystemState τ ν :=
  match reply, state.secret.swap version data with
  | .answered, some secret =>
      { state with secret := secret, log := state.log ++ [(call, config)] }.setPhase call
        .succeeded
  | .lost, some secret =>
      { state with secret := secret, log := state.log ++ [(call, config)] }.setPhase call .failed
  | _, _ => state.setPhase call .failed

/-- The next request of a call, and how it ends. -/
def perform (calls : τ → SystemCall ν) (state : SystemState τ ν) (request : τ × CommandReply) :
    SystemState τ ν :=
  match state.phase request.1, calls request.1 with
  | .start, .update updateDict => state.readConfig request.1 updateDict request.2
  | .start, .write config => state.readVersion request.1 config request.2
  | .merged config, _ => state.readVersion request.1 config request.2
  | .pending config data version, _ => state.writeVersion request.1 config data version request.2
  | .succeeded, _ => state
  | .failed, _ => state

def run (calls : τ → SystemCall ν) (secret : SystemSecret ν)
    (requests : List (τ × CommandReply)) : SystemState τ ν :=
  requests.foldl (perform calls) (start secret)

section Requests

variable (state : SystemState τ ν) {call other : τ} {phase : SystemPhase ν}

@[simp] theorem setPhase_phase_self : (state.setPhase call phase).phase call = phase :=
  Function.update_self ..

@[simp] theorem setPhase_phase_of_ne (different : other ≠ call) :
    (state.setPhase call phase).phase other = state.phase other :=
  Function.update_of_ne different ..

end Requests

/-- What a request comes to. -/
inductive Outcome (calls : τ → SystemCall ν) (state : SystemState τ ν) (call : τ)
    (reply : CommandReply) : SystemState τ ν → Prop where
  | idle : Outcome calls state call reply state
  | failed (runs : state.phase call ≠ .succeeded) :
      Outcome calls state call reply (state.setPhase call .failed)
  | read {updateDict : ConfigDict ν} (starts : state.phase call = .start)
      (update : calls call = .update updateDict) (known : (unknownKeys updateDict).isEmpty) :
      Outcome calls state call reply
        (state.setPhase call (.merged (mergeSystemConfig state.secret.value updateDict)))
  | prepared {config : Dict Text ν}
      (source : state.phase call = .merged config ∨
        state.phase call = .start ∧ calls call = .write config) :
      Outcome calls state call reply
        (state.setPhase call
          (.pending config (state.secret.value.update config) state.secret.version))
  | swapped {config data : Dict Text ν} {version : Nat} {secret : SystemSecret ν}
      {phase : SystemPhase ν} (pending : state.phase call = .pending config data version)
      (executed : reply ≠ .refused) (swap : state.secret.swap version data = some secret)
      (ends : phase = .succeeded ∨ phase = .failed) :
      Outcome calls state call reply
        ({ state with secret := secret, log := state.log ++ [(call, config)] }.setPhase call
          phase)

section Outcomes

variable {calls : τ → SystemCall ν} {state : SystemState τ ν} {call : τ}

theorem outcome_readVersion {config : Dict Text ν}
    (source : state.phase call = .merged config ∨
      state.phase call = .start ∧ calls call = .write config) (reply : CommandReply) :
    Outcome calls state call reply (state.readVersion call config reply) := by
  unfold readVersion
  split
  · exact .prepared source
  · apply Outcome.failed
    rcases source with merged | ⟨starts, _⟩
    · rw [merged]
      exact nofun
    · rw [starts]
      exact nofun

theorem outcome_writeVersion {config data : Dict Text ν} {version : Nat}
    (pending : state.phase call = .pending config data version) (reply : CommandReply) :
    Outcome calls state call reply (state.writeVersion call config data version reply) := by
  have runs : state.phase call ≠ .succeeded := by
    rw [pending]
    exact nofun
  unfold writeVersion
  split
  · rename_i swap
    exact .swapped pending nofun swap (.inl rfl)
  · rename_i swap
    exact .swapped pending nofun swap (.inr rfl)
  · exact .failed runs

theorem outcome_perform (calls : τ → SystemCall ν) (state : SystemState τ ν)
    (request : τ × CommandReply) :
    Outcome calls state request.1 request.2 (perform calls state request) := by
  obtain ⟨call, reply⟩ := request
  cases phase : state.phase call with
  | start =>
      cases job : calls call with
      | update updateDict =>
          simp only [perform, phase, job, readConfig]
          split
          · rename_i known
            exact .read phase job known.1
          · exact .failed (by rw [phase]; exact nofun)
      | write config =>
          simp only [perform, phase, job]
          exact outcome_readVersion (.inr ⟨phase, job⟩) reply
  | merged config =>
      simp only [perform, phase]
      exact outcome_readVersion (.inl phase) reply
  | pending config data version =>
      simp only [perform, phase]
      exact outcome_writeVersion phase reply
  | succeeded => simpa only [perform, phase] using Outcome.idle
  | failed => simpa only [perform, phase] using Outcome.idle

end Outcomes

section Order

/-- What a call merges: its own keys, or what it has read with its own keys. -/
def WritesFor : SystemCall ν → Dict Text ν → Prop
  | .update updateDict, config =>
      ∃ existing, config = mergeSystemConfig existing updateDict
  | .write own, config => config = own

/-- The call is to write the keys, or has them at hand. -/
def Writes (state : SystemState τ ν) (call : τ) (config : Dict Text ν) : Prop :=
  state.phase call = .merged config ∨
    ∃ data version, state.phase call = .pending config data version

def Done (state : SystemState τ ν) (call : τ) : Prop :=
  state.phase call = .succeeded ∨ state.phase call = .failed

structure Sound (calls : τ → SystemCall ν) (initial : SystemSecret ν) (state : SystemState τ ν) :
    Prop where
  after : Versioned.After Dict.update initial state.secret (state.log.map Prod.snd)
  made : ∀ call config data version, state.phase call = .pending config data version →
    Versioned.Made state.secret (fun value => value.update config) data version
  writes : ∀ call config, state.Writes call config → WritesFor (calls call) config
  logged : ∀ call config, (call, config) ∈ state.log →
    state.Done call ∧ WritesFor (calls call) config
  once : (state.log.map Prod.fst).Nodup
  succeeded : ∀ call, state.phase call = .succeeded → call ∈ state.log.map Prod.fst

variable {calls : τ → SystemCall ν} {initial : SystemSecret ν} {state next : SystemState τ ν}
  {call : τ} {phase : SystemPhase ν} {reply : CommandReply}

omit [DecidableEq τ] in
theorem sound_start (calls : τ → SystemCall ν) (initial : SystemSecret ν) :
    Sound calls initial (start initial) := by
  refine ⟨.refl _ initial, ?_, ?_, ?_, List.nodup_nil, ?_⟩
  · intro call config data version pending
    cases pending
  · intro call config writes
    rcases writes with merged | ⟨data, version, pending⟩
    · cases merged
    · cases pending
  · intro call config member
    cases member
  · intro call succeeded
    cases succeeded

theorem Done.setPhase {other : τ} (done : state.Done other)
    (ends : other = call → phase = .succeeded ∨ phase = .failed) :
    (state.setPhase call phase).Done other := by
  by_cases same : other = call
  · subst same
    rw [Done, setPhase_phase_self]
    exact ends rfl
  · rw [Done, setPhase_phase_of_ne state same]
    exact done

theorem Sound.setPhase (sound : Sound calls initial state)
    (runs : state.phase call ≠ .succeeded) (unwritten : phase ≠ .succeeded)
    (logged : state.Done call → phase = .failed)
    (made : ∀ config data version, phase = .pending config data version →
      Versioned.Made state.secret (fun value => value.update config) data version)
    (writes : ∀ config, (phase = .merged config ∨
      ∃ data version, phase = .pending config data version) → WritesFor (calls call) config) :
    Sound calls initial (state.setPhase call phase) := by
  refine ⟨sound.after, ?_, ?_, ?_, sound.once, ?_⟩
  · intro other config data version pending
    by_cases same : other = call
    · subst same
      rw [setPhase_phase_self] at pending
      exact made config data version pending
    · rw [setPhase_phase_of_ne state same] at pending
      exact sound.made other config data version pending
  · intro other config holds
    by_cases same : other = call
    · subst same
      rw [Writes, setPhase_phase_self] at holds
      exact writes config holds
    · rw [Writes, setPhase_phase_of_ne state same] at holds
      exact sound.writes other config holds
  · intro other config member
    obtain ⟨done, own⟩ := sound.logged other config member
    refine ⟨done.setPhase ?_, own⟩
    rintro rfl
    exact .inr (logged done)
  · intro other succeeded
    by_cases same : other = call
    · subst same
      rw [setPhase_phase_self] at succeeded
      exact (unwritten succeeded).elim
    · rw [setPhase_phase_of_ne state same] at succeeded
      exact sound.succeeded other succeeded

/-- A call has merged its keys. -/
theorem Sound.swapped (sound : Sound calls initial state) {config data : Dict Text ν}
    {version : Nat} {secret : SystemSecret ν}
    (pending : state.phase call = .pending config data version)
    (swap : state.secret.swap version data = some secret)
    (ends : phase = .succeeded ∨ phase = .failed) :
    Sound calls initial
      ({ state with secret := secret, log := state.log ++ [(call, config)] }.setPhase call
        phase) := by
  have made := sound.made call config data version pending
  have unfinished : ¬ state.Done call := by
    intro done
    rcases done with done | done
    · rw [pending] at done
      cases done
    · rw [pending] at done
      cases done
  have others : ∀ other, other ≠ call →
      ({ state with secret := secret, log := state.log ++ [(call, config)] }.setPhase call
        phase).phase other = state.phase other :=
    fun other different => Function.update_of_ne different ..
  have now : ({ state with secret := secret, log := state.log ++ [(call, config)] }.setPhase call
      phase).phase call = phase :=
    Function.update_self ..
  refine ⟨?_, ?_, ?_, ?_, ?_, ?_⟩
  · change Versioned.After Dict.update initial secret
      ((state.log ++ [(call, config)]).map Prod.snd)
    rw [List.map_append]
    exact sound.after.swap made swap
  · intro other config' data' version' pending'
    by_cases same : other = call
    · subst same
      rw [now] at pending'
      rcases ends with rfl | rfl
      · cases pending'
      · cases pending'
    · rw [others other same] at pending'
      exact (sound.made other config' data' version' pending').swapped swap
  · intro other config' holds
    by_cases same : other = call
    · subst same
      rw [Writes, now] at holds
      rcases ends with rfl | rfl
      · rcases holds with merged | ⟨_, _, pending'⟩
        · cases merged
        · cases pending'
      · rcases holds with merged | ⟨_, _, pending'⟩
        · cases merged
        · cases pending'
    · rw [Writes, others other same] at holds
      exact sound.writes other config' holds
  · intro other config' member
    rcases List.mem_append.mp member with before | last
    · obtain ⟨done, own⟩ := sound.logged other config' before
      have different : other ≠ call := by
        rintro rfl
        exact unfinished done
      rw [Done, others other different]
      exact ⟨done, own⟩
    · cases List.mem_singleton.mp last
      rw [Done, now]
      exact ⟨ends, sound.writes call config (.inr ⟨data, version, pending⟩)⟩
  · change ((state.log ++ [(call, config)]).map Prod.fst).Nodup
    rw [List.map_append, List.nodup_append]
    refine ⟨sound.once, List.nodup_singleton _, ?_⟩
    rintro other member _ last rfl
    cases List.mem_singleton.mp last
    obtain ⟨⟨_, config'⟩, logged, rfl⟩ := List.mem_map.mp member
    exact unfinished (sound.logged _ config' logged).1
  · intro other succeeded
    change other ∈ (state.log ++ [(call, config)]).map Prod.fst
    rw [List.map_append]
    by_cases same : other = call
    · subst same
      exact List.mem_append_right _ List.mem_cons_self
    · rw [others other same] at succeeded
      exact List.mem_append_left _ (sound.succeeded other succeeded)

theorem Sound.outcome (sound : Sound calls initial state)
    (outcome : Outcome calls state call reply next) : Sound calls initial next := by
  cases outcome with
  | idle => exact sound
  | failed runs =>
      apply sound.setPhase runs
      · exact nofun
      · exact fun _ => rfl
      · exact nofun
      · intro config holds
        rcases holds with merged | ⟨data, version, pending⟩
        · cases merged
        · cases pending
  | @read updateDict starts update known =>
      have runs : state.phase call ≠ .succeeded := by
        rw [starts]
        exact nofun
      apply sound.setPhase runs
      · exact nofun
      · intro done
        rcases done with done | done
        · exact (runs done).elim
        · rw [starts] at done
          cases done
      · exact nofun
      · intro config holds
        rcases holds with merged | ⟨data, version, pending⟩
        · cases merged
          rw [update]
          exact ⟨state.secret.value, rfl⟩
        · cases pending
  | @prepared config source =>
      have own : WritesFor (calls call) config := by
        rcases source with merged | ⟨_, write⟩
        · exact sound.writes call config (.inl merged)
        · rw [write]
          exact rfl
      have open' : state.phase call ≠ .succeeded ∧ state.phase call ≠ .failed := by
        rcases source with merged | ⟨starts, _⟩
        · rw [merged]
          exact ⟨nofun, nofun⟩
        · rw [starts]
          exact ⟨nofun, nofun⟩
      apply sound.setPhase open'.1
      · exact nofun
      · intro done
        rcases done with done | done
        · exact (open'.1 done).elim
        · exact (open'.2 done).elim
      · intro config' data version pending
        cases pending
        exact Versioned.made_of_read state.secret _
      · intro config' holds
        rcases holds with merged | ⟨data, version, pending⟩
        · cases merged
        · cases pending
          exact own
  | @swapped config data version secret phase pending executed swap ends =>
      exact sound.swapped pending swap ends

theorem sound_foldl (sound : Sound calls initial state) (requests : List (τ × CommandReply)) :
    Sound calls initial (requests.foldl (perform calls) state) := by
  induction requests generalizing state with
  | nil => exact sound
  | cons request requests induction =>
      exact induction (sound.outcome (outcome_perform calls state request))

theorem sound_run (calls : τ → SystemCall ν) (initial : SystemSecret ν)
    (requests : List (τ × CommandReply)) : Sound calls initial (run calls initial requests) :=
  sound_foldl (sound_start calls initial) requests

/-- The secret is what the calls have merged, one after the other, and every call has merged
its keys once at most. -/
theorem merged_in_order (calls : τ → SystemCall ν) (initial : SystemSecret ν)
    (requests : List (τ × CommandReply)) :
    (run calls initial requests).secret.value =
        ((run calls initial requests).log.map Prod.snd).foldl Dict.update initial.value ∧
      (run calls initial requests).secret.version =
        initial.version + (run calls initial requests).log.length ∧
      ((run calls initial requests).log.map Prod.fst).Nodup ∧
      (∀ call, (run calls initial requests).phase call = .succeeded →
        call ∈ (run calls initial requests).log.map Prod.fst) ∧
      ∀ call config, (call, config) ∈ (run calls initial requests).log →
        WritesFor (calls call) config := by
  have sound := sound_run calls initial requests
  refine ⟨sound.after.value, ?_, sound.once, sound.succeeded, ?_⟩
  · rw [sound.after.version, List.length_map]
  · intro call config member
    exact (sound.logged call config member).2

theorem keys_subset_of_outcome (sound : Sound calls initial state)
    (outcome : Outcome calls state call reply next) :
    state.secret.value.keys ⊆ next.secret.value.keys := by
  cases outcome with
  | idle => exact List.Subset.refl _
  | failed => exact List.Subset.refl _
  | read => exact List.Subset.refl _
  | prepared => exact List.Subset.refl _
  | @swapped config data version secret phase pending executed swap =>
      change state.secret.value.keys ⊆ secret.value.keys
      rw [(sound.made call config data version pending).swap_value swap]
      intro key member
      obtain ⟨value, found⟩ := Dict.mem_keys_iff.mp member
      apply Dict.mem_keys_iff.mpr
      rw [Dict.get?_update, found]
      cases config.get? key with
      | some set => exact ⟨set, rfl⟩
      | none => exact ⟨value, rfl⟩

theorem keys_subset_foldl (sound : Sound calls initial state)
    (requests : List (τ × CommandReply)) :
    state.secret.value.keys ⊆ (requests.foldl (perform calls) state).secret.value.keys := by
  induction requests generalizing state with
  | nil => exact List.Subset.refl _
  | cons request requests induction =>
      have outcome := outcome_perform calls state request
      apply List.Subset.trans (keys_subset_of_outcome sound outcome)
      exact induction (sound.outcome outcome)

/-- No call removes a key of the secret, whatever it is to set to null. -/
theorem keys_kept (calls : τ → SystemCall ν) (initial : SystemSecret ν)
    (before after : List (τ × CommandReply)) :
    (run calls initial before).secret.value.keys ⊆
      (run calls initial (before ++ after)).secret.value.keys := by
  have later := keys_subset_foldl (sound_run calls initial before) after
  rwa [run, ← List.foldl_append] at later

end Order

section Asked

variable {calls : τ → SystemCall ν} {initial : SystemSecret ν} {state next : SystemState τ ν}
  {call : τ} {config : Dict Text ν} {reply : CommandReply}

/-- The secret is what it would be if every call that merged its keys had merged only those it
is asked to set. -/
def AsAsked (calls : τ → SystemCall ν) (initial : SystemSecret ν) (state : SystemState τ ν) :
    Prop :=
  ∀ key, state.secret.value.get? key =
    (state.log.foldl (fun value entry => value.update (calls entry.1).own)
      initial.value).get? key

/-- What a call is about to write back without being asked for it is what the secret has. -/
def WritesBackCurrent (calls : τ → SystemCall ν) (state : SystemState τ ν)
    (request : τ × CommandReply) : Prop :=
  ∀ config data version, state.phase request.1 = .pending config data version →
    request.2 ≠ .refused → version = state.secret.version →
      ∀ key value, config.get? key = some value → ¬ (calls request.1).Asks key →
        state.secret.value.get? key = some value

theorem WritesFor.get? {job : SystemCall ν} (writes : WritesFor job config) {key : Text}
    (asked : job.Asks key) : config.get? key = job.own.get? key := by
  cases job with
  | write own => rw [show config = own from writes]; rfl
  | update updateDict =>
      obtain ⟨existing, rfl⟩ := writes
      obtain ⟨value, found⟩ := Option.isSome_iff_exists.mp asked
      rw [SystemCall.own, get?_mergeSystemConfig, get?_mergeSystemConfig, found]
      rfl

/-- A merge does what the call is asked for exactly when the other keys it writes are current. -/
theorem asAsked_of_swap_iff (sound : Sound calls initial state)
    (asAsked : AsAsked calls initial state) {data : Dict Text ν} {version : Nat}
    {secret : SystemSecret ν} (pending : state.phase call = .pending config data version)
    (swap : state.secret.swap version data = some secret) (phase : SystemPhase ν) :
    AsAsked calls initial
        ({ state with secret := secret, log := state.log ++ [(call, config)] }.setPhase call
          phase) ↔
      ∀ key value, config.get? key = some value → ¬ (calls call).Asks key →
        state.secret.value.get? key = some value := by
  have writes := sound.writes call config (.inr ⟨data, version, pending⟩)
  have merged : ∀ key, secret.value.get? key =
      (config.get? key).or (state.secret.value.get? key) := by
    intro key
    rw [(sound.made call config data version pending).swap_value swap, Dict.get?_update]
  have wanted : ∀ key, ((state.log ++ [(call, config)]).foldl
      (fun value entry => value.update (calls entry.1).own) initial.value).get? key =
        ((calls call).own.get? key).or (state.secret.value.get? key) := by
    intro key
    rw [List.foldl_append, asAsked key]
    exact Dict.get?_update _ _ key
  constructor
  · intro after key value found foreign
    have same : secret.value.get? key = _ := (after key).trans (wanted key)
    rw [merged, found, SystemCall.own_of_not_asks foreign, Option.some_or, Option.none_or] at same
    exact same.symm
  · intro current key
    apply Eq.trans (merged key)
    apply Eq.trans _ (wanted key).symm
    by_cases asked : (calls call).Asks key
    · rw [WritesFor.get? writes asked]
    · rw [SystemCall.own_of_not_asks asked, Option.none_or]
      cases found : config.get? key with
      | none => rfl
      | some value => exact (current key value found asked).symm

theorem AsAsked.outcome (asAsked : AsAsked calls initial state) (sound : Sound calls initial state)
    (current : WritesBackCurrent calls state (call, reply))
    (outcome : Outcome calls state call reply next) : AsAsked calls initial next := by
  cases outcome with
  | idle => exact asAsked
  | failed => exact asAsked
  | read => exact asAsked
  | prepared => exact asAsked
  | @swapped config data version secret phase pending executed swap =>
      apply (asAsked_of_swap_iff sound asAsked pending swap phase).mpr
      exact current config data version pending executed (Versioned.swap_eq_some.mp swap).1

theorem WritesBackCurrent.of_asAsked {request : τ × CommandReply}
    (sound : Sound calls initial state) (asAsked : AsAsked calls initial state)
    (after : AsAsked calls initial (perform calls state request)) :
    WritesBackCurrent calls state request := by
  obtain ⟨call, reply⟩ := request
  intro config data version pending executed same
  have swap : state.secret.swap version data = some ⟨data, state.secret.version + 1⟩ :=
    Versioned.swap_eq_some.mpr ⟨same, rfl⟩
  simp only [perform, pending, writeVersion, swap] at after
  cases reply with
  | refused => exact (executed rfl).elim
  | answered => exact (asAsked_of_swap_iff sound asAsked pending swap .succeeded).mp after
  | lost => exact (asAsked_of_swap_iff sound asAsked pending swap .failed).mp after

/-- In every run the calls keep each other's keys throughout, exactly when each write finds
the values in the secret that it writes back without being asked to. -/
theorem asAsked_iff (calls : τ → SystemCall ν) (initial : SystemSecret ν)
    (requests : List (τ × CommandReply)) :
    AllowedAlong (perform calls) (WritesBackCurrent calls) (start initial) requests ↔
      ∀ before after, requests = before ++ after →
        AsAsked calls initial (run calls initial before) := by
  have implied : ∀ state : SystemState τ ν, Sound calls initial state ∧
      AsAsked calls initial state → AsAsked calls initial state :=
    fun _ invariant => invariant.2
  have preserved : ∀ (state : SystemState τ ν) (request : τ × CommandReply),
      Sound calls initial state ∧ AsAsked calls initial state →
        WritesBackCurrent calls state request →
          Sound calls initial (perform calls state request) ∧
            AsAsked calls initial (perform calls state request) := by
    rintro state request ⟨sound, asAsked⟩ current
    have outcome := outcome_perform calls state request
    exact ⟨sound.outcome outcome, asAsked.outcome sound current outcome⟩
  have necessary : ∀ (state : SystemState τ ν) (request : τ × CommandReply),
      Sound calls initial state ∧ AsAsked calls initial state →
        AsAsked calls initial (perform calls state request) →
          WritesBackCurrent calls state request :=
    fun _ _ invariant after => .of_asAsked invariant.1 invariant.2 after
  exact AllowedAlong.iff_throughout implied preserved necessary
    ⟨sound_start calls initial, fun _ => rfl⟩ requests

end Asked

end SystemState

end OpenZync.Config
