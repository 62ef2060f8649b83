import Mathlib.Logic.Function.Basic
import OpenZync.Library.Execution
import OpenZync.Text

/-!
# The SurrealDB connection pool

`SurrealConnectionPool` keeps one connection for each organisation.  Its calls
share an event loop, so a call is interrupted only where it awaits: while it
closes a connection, while it waits for the lock of its organisation, while it
connects and while it signs in.  A connection is named by the call that opened
it, which opens no second one.  One that came up and could not sign in is neither
cached nor closed.
-/

namespace OpenZync.Graph

open OpenZync.Library

/-- `SURREAL_IDLE_TTL_S`: half an hour. -/
def surrealIdleTtl : Time :=
  1800 * 1000000

/-- `SURREAL_MAX_CACHED` -/
def surrealMaxCached : Nat :=
  32

/-- What `_connect` gets. -/
structure SurrealParameters where
  url : Text
  username : Text
  password : Text
  namespaceName : Text
  database : Text

/-- The arguments of `get_or_create`. -/
structure PoolCall (κ : Type) where
  orgId : κ
  surrealdbUrl : Option Text
  surrealdbUser : Option Text
  surrealdbPass : Option Text
  surrealdbNamespace : Option Text
  surrealdbDatabase : Option Text
  systemUrl : Option Text

/-- `value or default` -/
def textOr (value : Option Text) (default : Text) : Text :=
  (value.filter fun text => !text.isEmpty).getD default

/-- The parameters of the connection, unless there is no URL.  The URL of the
system takes the place of the organisation's. -/
def PoolCall.parameters {κ : Type} (call : PoolCall κ) : Option SurrealParameters :=
  let given := (call.systemUrl.filter fun url => !url.isEmpty).or
    (call.surrealdbUrl.filter fun url => !url.isEmpty)
  given.map fun url =>
    { url := url
      username := textOr call.surrealdbUser "root".toList
      password := textOr call.surrealdbPass "root".toList
      namespaceName := textOr call.surrealdbNamespace "openzync".toList
      database := textOr call.surrealdbDatabase "openzync".toList }

/-- A cached connection, with its organisation and when it was handed out last. -/
structure PoolEntry (κ τ : Type) where
  orgId : κ
  surreal : τ
  lastUsed : Time

/-- Where a call stands; a call ends with a connection or with an exception. -/
inductive PoolPhase (τ : Type) where
  | starting
  /-- An idle connection of the organisation is being closed. -/
  | closingIdle
  | locking
  /-- Holds the lock while the least recently used connection is being closed. -/
  | evicting
  /-- Holds the lock. -/
  | connecting
  /-- Holds the lock; the connection is up, and `signin` and `use` are to come. -/
  | signingIn
  | ended (surreal : Option τ)
deriving DecidableEq

def PoolPhase.holdsLock {τ : Type} : PoolPhase τ → Bool
  | .evicting => true
  | .connecting => true
  | .signingIn => true
  | _ => false

inductive PoolAction (τ : Type) where
  | wait (elapsed : Nat)
  | enter (call : τ)
  /-- `close` has come to its end, with or without an exception. -/
  | closed (call : τ)
  /-- The lock is free and goes to the call. -/
  | acquire (call : τ)
  /-- `surreal.connect` returns, raises or runs into the timeout. -/
  | connect (call : τ) (succeeds : Bool)
  /-- `signin` and `use` return, or one raises or runs into the timeout. -/
  | signIn (call : τ) (succeeds : Bool)
  /-- The task of the call is cancelled where it awaits. -/
  | cancel (call : τ)
deriving DecidableEq

/-- The pool and its calls.  `holders` are the calls that hold the lock of their
organisation; `opened` has every connection that came up and `closed` those that
`close` was called on. -/
structure SurrealPool (κ τ : Type) where
  now : Time
  pool : List (PoolEntry κ τ)
  holders : List τ
  phase : τ → PoolPhase τ
  opened : List τ
  closed : List τ

namespace SurrealPool

variable {κ τ : Type}

def start (now : Time) : SurrealPool κ τ :=
  { now := now
    pool := []
    holders := []
    phase := fun _ => .starting
    opened := []
    closed := [] }

section

variable [DecidableEq κ] [DecidableEq τ]

/-- `self._pool.get(org_id)` -/
def lookup (state : SurrealPool κ τ) (orgId : κ) : Option (PoolEntry κ τ) :=
  state.pool.find? fun entry => entry.orgId = orgId

def setPhase (state : SurrealPool κ τ) (call : τ) (phase : PoolPhase τ) : SurrealPool κ τ :=
  { state with phase := Function.update state.phase call phase }

/-- `_close_entry`, up to its `await`. -/
def closeEntry (state : SurrealPool κ τ) (entry : PoolEntry κ τ) : SurrealPool κ τ :=
  { state with
    pool := state.pool.filter fun other => other.orgId ≠ entry.orgId
    closed := state.closed ++ [entry.surreal] }

/-- `conn["last_used"] = time.monotonic()` -/
def touch (state : SurrealPool κ τ) (orgId : κ) : SurrealPool κ τ :=
  { state with
    pool := state.pool.map fun entry =>
      if entry.orgId = orgId then { entry with lastUsed := state.now } else entry }

/-- `self._pool[org_id] = …`: an entry that is there is replaced. -/
def cache (state : SurrealPool κ τ) (orgId : κ) (call : τ) : SurrealPool κ τ :=
  let entry : PoolEntry κ τ := ⟨orgId, call, state.now⟩
  { state with
    pool :=
      if (state.lookup orgId).isSome then
        state.pool.map fun other => if other.orgId = orgId then entry else other
      else state.pool ++ [entry] }

/-- The connection is up; its call goes on to sign in. -/
def comeUp (state : SurrealPool κ τ) (call : τ) : SurrealPool κ τ :=
  { state with
    opened := state.opened ++ [call]
    phase := Function.update state.phase call .signingIn }

def takeLock (state : SurrealPool κ τ) (call : τ) (phase : PoolPhase τ) : SurrealPool κ τ :=
  { state with
    holders := call :: state.holders
    phase := Function.update state.phase call phase }

/-- The call ends and leaves its lock, if it holds it. -/
def finish (state : SurrealPool κ τ) (call : τ) (surreal : Option τ) : SurrealPool κ τ :=
  { state with
    holders := state.holders.filter fun other => other ≠ call
    phase := Function.update state.phase call (.ended surreal) }

/-- From the choice of the parameters to the wait for the lock. -/
def resolve (calls : τ → PoolCall κ) (state : SurrealPool κ τ) (call : τ) : SurrealPool κ τ :=
  if (calls call).parameters.isNone then state.setPhase call (.ended none)
  else state.setPhase call .locking

def enter (calls : τ → PoolCall κ) (state : SurrealPool κ τ) (call : τ) : SurrealPool κ τ :=
  match state.lookup (calls call).orgId with
  | none => state.resolve calls call
  | some entry =>
      if surrealIdleTtl < state.now - entry.lastUsed then
        (state.closeEntry entry).setPhase call .closingIdle
      else (state.touch (calls call).orgId).setPhase call (.ended (some entry.surreal))

/-- `self._locks[org_id]` is free. -/
def Free (calls : τ → PoolCall κ) (state : SurrealPool κ τ) (orgId : κ) : Prop :=
  ∀ holder ∈ state.holders, (calls holder).orgId ≠ orgId

instance (calls : τ → PoolCall κ) (state : SurrealPool κ τ) (orgId : κ) :
    Decidable (state.Free calls orgId) :=
  inferInstanceAs (Decidable (∀ holder ∈ state.holders, (calls holder).orgId ≠ orgId))

/-- With the lock: a connection that another call has opened meanwhile, or room
for a new one.  Of equally old entries the first is evicted. -/
def acquire (calls : τ → PoolCall κ) (state : SurrealPool κ τ) (call : τ) : SurrealPool κ τ :=
  match state.lookup (calls call).orgId with
  | some entry => state.setPhase call (.ended (some entry.surreal))
  | none =>
      if surrealMaxCached ≤ state.pool.length then
        match state.pool.minOn? PoolEntry.lastUsed with
        | some lru => (state.closeEntry lru).takeLock call .evicting
        | none => state.takeLock call .connecting
      else state.takeLock call .connecting

/-- An action that the phase of the call does not allow does nothing. -/
def perform (calls : τ → PoolCall κ) (state : SurrealPool κ τ) :
    PoolAction τ → SurrealPool κ τ
  | .wait elapsed => { state with now := state.now + elapsed }
  | .enter call => if state.phase call = .starting then state.enter calls call else state
  | .closed call =>
      match state.phase call with
      | .closingIdle => state.resolve calls call
      | .evicting => state.setPhase call .connecting
      | _ => state
  | .acquire call =>
      if state.phase call = .locking ∧ state.Free calls (calls call).orgId then
        state.acquire calls call
      else state
  | .connect call succeeds =>
      if state.phase call = .connecting then
        if succeeds then state.comeUp call else state.finish call none
      else state
  | .signIn call succeeds =>
      if state.phase call = .signingIn then
        if succeeds then (state.cache (calls call).orgId call).finish call (some call)
        else state.finish call none
      else state
  | .cancel call =>
      match state.phase call with
      | .ended _ => state
      | _ => state.finish call none

def run (calls : τ → PoolCall κ) (now : Time) (actions : List (PoolAction τ)) :
    SurrealPool κ τ :=
  actions.foldl (perform calls) (start now)

/-- The connection that a call ends with is open when it does. -/
def HandsOutOpen (calls : τ → PoolCall κ) (state : SurrealPool κ τ) : Prop :=
  ∀ action call surreal, state.phase call ≠ .ended (some surreal) →
    (state.perform calls action).phase call = .ended (some surreal) →
      surreal ∈ (state.perform calls action).opened ∧
        surreal ∉ (state.perform calls action).closed

end

/-- `close_all`, with no call under way. -/
def closeAll (state : SurrealPool κ τ) : SurrealPool κ τ :=
  { state with
    pool := []
    holders := []
    closed := state.closed ++ state.pool.map PoolEntry.surreal }

/-- The connections that are open are the cached ones, one for each organisation,
those that are signing in, and those that could not. -/
structure Exclusive (calls : τ → PoolCall κ) (state : SurrealPool κ τ) : Prop where
  open_iff : ∀ surreal ∈ state.opened, surreal ∉ state.closed ↔
    (∃ entry ∈ state.pool, entry.surreal = surreal) ∨ state.phase surreal = .signingIn ∨
      state.phase surreal = .ended none
  cached : ∀ entry ∈ state.pool, entry.surreal ∈ state.opened ∧
    (calls entry.surreal).orgId = entry.orgId
  single : ∀ entry ∈ state.pool, ∀ other ∈ state.pool, entry.orgId = other.orgId →
    entry = other
  own : ∀ call surreal, state.phase call = .ended (some surreal) →
    surreal ∈ state.opened ∧ (calls surreal).orgId = (calls call).orgId

/-- Where the connections that came up are: with the call that signs in, left
behind by it, or returned by it and then cached or closed. -/
structure Tracked (calls : τ → PoolCall κ) (phase : τ → PoolPhase τ)
    (opened closed cached : List τ) : Prop where
  returned_iff : ∀ surreal, surreal ∈ opened ∧ phase surreal = .ended (some surreal) ↔
    surreal ∈ cached ∨ surreal ∈ closed
  unclosed : ∀ surreal ∈ cached, surreal ∉ closed
  came_up : ∀ surreal ∈ opened, phase surreal = .signingIn ∨ phase surreal = .ended none ∨
    phase surreal = .ended (some surreal)
  signing : ∀ call, phase call = .signingIn → call ∈ opened
  own : ∀ call surreal, phase call = .ended (some surreal) → surreal ∈ opened ∧
    phase surreal = .ended (some surreal) ∧ (calls surreal).orgId = (calls call).orgId

/-- The invariant of the pool. -/
structure Sound (calls : τ → PoolCall κ) (state : SurrealPool κ τ) : Prop where
  keyed : (state.pool.map PoolEntry.orgId).Nodup
  owned : ∀ entry ∈ state.pool, (calls entry.surreal).orgId = entry.orgId
  holding : ∀ call, call ∈ state.holders ↔ (state.phase call).holdsLock = true
  apart : ∀ call ∈ state.holders, ∀ other ∈ state.holders,
    (calls call).orgId = (calls other).orgId → call = other
  vacant : ∀ call ∈ state.holders, ∀ entry ∈ state.pool, entry.orgId ≠ (calls call).orgId
  tracked : Tracked calls state.phase state.opened state.closed
    (state.pool.map PoolEntry.surreal)

section

variable {calls : τ → PoolCall κ} {state : SurrealPool κ τ} {call : τ} {orgId : κ}
  {entry : PoolEntry κ τ}

section

variable [DecidableEq κ]

theorem of_lookup (found : state.lookup orgId = some entry) :
    entry ∈ state.pool ∧ entry.orgId = orgId :=
  ⟨List.mem_of_find?_eq_some found, by simpa using List.find?_some found⟩

theorem lookup_eq_none : state.lookup orgId = none ↔ ∀ entry ∈ state.pool, entry.orgId ≠ orgId := by
  simp [lookup]

theorem touch_orgIds : (state.touch orgId).pool.map PoolEntry.orgId =
    state.pool.map PoolEntry.orgId := by
  simp only [touch, List.map_map]
  apply List.map_congr_left
  intro entry _
  simp only [Function.comp_apply]
  split <;> rfl

theorem mem_cache : call ∈ (state.cache orgId call).pool.map PoolEntry.surreal := by
  unfold cache
  dsimp only
  split
  · rename_i present
    obtain ⟨entry, found⟩ := Option.isSome_iff_exists.mp present
    obtain ⟨member, same⟩ := of_lookup found
    rw [List.map_map]
    exact List.mem_map.mpr ⟨entry, member, by simp [same]⟩
  · simp

theorem touch_surreals : (state.touch orgId).pool.map PoolEntry.surreal =
    state.pool.map PoolEntry.surreal := by
  simp only [touch, List.map_map]
  apply List.map_congr_left
  intro entry _
  simp only [Function.comp_apply]
  split <;> rfl

end

namespace Tracked

variable {phase : τ → PoolPhase τ} {next : PoolPhase τ} {opened closed cached : List τ}

theorem running (tracked : Tracked calls phase opened closed cached)
    (unfinished : ∀ surreal, phase call ≠ .ended surreal) (unsigned : phase call ≠ .signingIn) :
    call ∉ opened := by
  intro member
  rcases tracked.came_up call member with signing | failed | returned
  · exact unsigned signing
  · exact unfinished _ failed
  · exact unfinished _ returned

theorem of_cached (tracked : Tracked calls phase opened closed cached) {surreal : τ}
    (member : surreal ∈ cached) :
    surreal ∈ opened ∧ phase surreal = .ended (some surreal) :=
  (tracked.returned_iff surreal).mpr (.inl member)

section

variable [DecidableEq τ]

theorem move (tracked : Tracked calls phase opened closed cached) (running : call ∉ opened)
    (unsigned : next ≠ .signingIn)
    (own : ∀ surreal, next = .ended (some surreal) → surreal ∈ cached ∧
      (calls surreal).orgId = (calls call).orgId) :
    Tracked calls (Function.update phase call next) opened closed cached := by
  have kept : ∀ surreal ∈ opened, Function.update phase call next surreal = phase surreal := by
    intro surreal member
    rw [Function.update_of_ne]
    rintro rfl
    exact running member
  constructor
  · intro surreal
    rw [← tracked.returned_iff surreal]
    exact and_congr_right fun member => by rw [kept surreal member]
  · exact tracked.unclosed
  · intro surreal member
    rw [kept surreal member]
    exact tracked.came_up surreal member
  · intro other signing
    rcases eq_or_ne other call with rfl | different
    · rw [Function.update_self] at signing
      exact absurd signing unsigned
    · rw [Function.update_of_ne different] at signing
      exact tracked.signing other signing
  · intro other surreal ends
    rcases eq_or_ne other call with rfl | different
    · rw [Function.update_self] at ends
      obtain ⟨held, same⟩ := own surreal ends
      obtain ⟨member, returned⟩ := tracked.of_cached held
      exact ⟨member, (kept surreal member).trans returned, same⟩
    · rw [Function.update_of_ne different] at ends
      obtain ⟨member, returned, same⟩ := tracked.own other surreal ends
      exact ⟨member, (kept surreal member).trans returned, same⟩

theorem comeUp (tracked : Tracked calls phase opened closed cached) (running : call ∉ opened) :
    Tracked calls (Function.update phase call .signingIn) (opened ++ [call]) closed cached := by
  have kept : ∀ surreal ∈ opened,
      Function.update phase call .signingIn surreal = phase surreal := by
    intro surreal member
    rw [Function.update_of_ne]
    rintro rfl
    exact running member
  constructor
  · intro surreal
    rw [← tracked.returned_iff surreal, List.mem_append, List.mem_singleton]
    constructor
    · rintro ⟨member | rfl, returned⟩
      · rw [kept surreal member] at returned
        exact ⟨member, returned⟩
      · rw [Function.update_self] at returned
        cases returned
    · rintro ⟨member, returned⟩
      exact ⟨.inl member, (kept surreal member).trans returned⟩
  · exact tracked.unclosed
  · intro surreal member
    rcases List.mem_append.mp member with before | this
    · rw [kept surreal before]
      exact tracked.came_up surreal before
    · rw [List.mem_singleton.mp this]
      exact .inl (Function.update_self _ _ _)
  · intro other signing
    rcases eq_or_ne other call with rfl | different
    · simp
    · rw [Function.update_of_ne different] at signing
      exact List.mem_append_left _ (tracked.signing other signing)
  · intro other surreal ends
    rcases eq_or_ne other call with rfl | different
    · rw [Function.update_self] at ends
      cases ends
    · rw [Function.update_of_ne different] at ends
      obtain ⟨member, returned, same⟩ := tracked.own other surreal ends
      exact ⟨List.mem_append_left _ member, (kept surreal member).trans returned, same⟩

theorem leave (tracked : Tracked calls phase opened closed cached)
    (signing : phase call = .signingIn) :
    Tracked calls (Function.update phase call (.ended none)) opened closed cached := by
  have returned_iff : ∀ surreal, Function.update phase call (.ended none) surreal =
      .ended (some surreal) ↔ phase surreal = .ended (some surreal) := by
    intro surreal
    rcases eq_or_ne surreal call with rfl | different
    · simp [signing]
    · rw [Function.update_of_ne different]
  constructor
  · intro surreal
    rw [returned_iff]
    exact tracked.returned_iff surreal
  · exact tracked.unclosed
  · intro surreal member
    rcases eq_or_ne surreal call with rfl | different
    · exact .inr (.inl (Function.update_self _ _ _))
    · rw [Function.update_of_ne different]
      exact tracked.came_up surreal member
  · intro other still
    rcases eq_or_ne other call with rfl | different
    · exact tracked.signing other signing
    · rw [Function.update_of_ne different] at still
      exact tracked.signing other still
  · intro other surreal ends
    rw [returned_iff]
    rcases eq_or_ne other call with rfl | different
    · rw [Function.update_self] at ends
      cases ends
    · rw [Function.update_of_ne different] at ends
      exact tracked.own other surreal ends

theorem deliver (tracked : Tracked calls phase opened closed cached)
    (signing : phase call = .signingIn) :
    Tracked calls (Function.update phase call (.ended (some call))) opened closed
      (cached ++ [call]) := by
  have up : call ∈ opened := tracked.signing call signing
  have unreturned : call ∉ cached ∧ call ∉ closed := by
    rw [← not_or, ← tracked.returned_iff call, signing]
    rintro ⟨_, returned⟩
    cases returned
  have returned_iff : ∀ surreal, Function.update phase call (.ended (some call)) surreal =
      .ended (some surreal) ↔ phase surreal = .ended (some surreal) ∨ surreal = call := by
    intro surreal
    rcases eq_or_ne surreal call with rfl | different
    · simp
    · rw [Function.update_of_ne different]
      simp [different]
  constructor
  · intro surreal
    have before := tracked.returned_iff surreal
    rw [returned_iff, List.mem_append, List.mem_singleton]
    rcases eq_or_ne surreal call with rfl | different
    · simp [up]
    · simp only [different, or_false, before]
  · intro surreal member
    rcases List.mem_append.mp member with before | this
    · exact tracked.unclosed surreal before
    · rw [List.mem_singleton.mp this]
      exact unreturned.2
  · intro surreal member
    rcases eq_or_ne surreal call with rfl | different
    · exact .inr (.inr (Function.update_self _ _ _))
    · rw [Function.update_of_ne different]
      exact tracked.came_up surreal member
  · intro other still
    rcases eq_or_ne other call with rfl | different
    · exact up
    · rw [Function.update_of_ne different] at still
      exact tracked.signing other still
  · intro other surreal ends
    rw [returned_iff]
    rcases eq_or_ne other call with rfl | different
    · rw [Function.update_self] at ends
      cases ends
      exact ⟨up, .inr rfl, rfl⟩
    · rw [Function.update_of_ne different] at ends
      obtain ⟨member, returned, same⟩ := tracked.own other surreal ends
      exact ⟨member, .inl returned, same⟩

end

theorem close (tracked : Tracked calls phase opened closed cached) {surreal : τ} {kept : List τ}
    (member : surreal ∈ cached) (left : ∀ other, other ∈ kept ↔ other ∈ cached ∧ other ≠ surreal) :
    Tracked calls phase opened (closed ++ [surreal]) kept where
  returned_iff other := by
    rw [tracked.returned_iff other, left, List.mem_append, List.mem_singleton]
    by_cases same : other = surreal
    · simp [same, member]
    · simp [same]
  unclosed other stays := by
    obtain ⟨held, different⟩ := (left other).mp stays
    rw [List.mem_append, List.mem_singleton, not_or]
    exact ⟨tracked.unclosed other held, different⟩
  came_up := tracked.came_up
  signing := tracked.signing
  own := tracked.own

end Tracked

namespace Sound

theorem start (now : Time) : Sound calls (SurrealPool.start now) := by
  refine ⟨?_, ?_, ?_, ?_, ?_, ?_⟩
  case refine_6 => constructor <;> simp [SurrealPool.start]
  all_goals simp [SurrealPool.start, PoolPhase.holdsLock]

theorem exclusive (sound : Sound calls state) : Exclusive calls state where
  open_iff surreal opened := by
    have tracked := sound.tracked
    constructor
    · intro unclosed
      rcases tracked.came_up surreal opened with signing | failed | returned
      · exact .inr (.inl signing)
      · exact .inr (.inr failed)
      · rcases (tracked.returned_iff surreal).mp ⟨opened, returned⟩ with cached | closed
        · exact .inl (List.mem_map.mp cached)
        · exact absurd closed unclosed
    · rintro (cached | unreturned) closed
      · exact tracked.unclosed surreal (List.mem_map.mpr cached) closed
      · have returned := ((tracked.returned_iff surreal).mpr (.inr closed)).2
        rw [returned] at unreturned
        simp at unreturned
  cached entry member :=
    ⟨(sound.tracked.of_cached (List.mem_map_of_mem member)).1, sound.owned entry member⟩
  single _ member _ memberOther same :=
    List.inj_on_of_nodup_map sound.keyed member memberOther same
  own call surreal ends :=
    ⟨(sound.tracked.own call surreal ends).1, (sound.tracked.own call surreal ends).2.2⟩

section

variable [DecidableEq κ]

/-- A cached connection is closed and dropped. -/
theorem closeEntry (sound : Sound calls state) (member : entry ∈ state.pool) :
    Sound calls (state.closeEntry entry) where
  keyed := (List.filter_sublist.map PoolEntry.orgId).nodup sound.keyed
  owned other member' := sound.owned other (List.mem_of_mem_filter member')
  holding := sound.holding
  apart := sound.apart
  vacant holder holds other member' :=
    sound.vacant holder holds other (List.mem_of_mem_filter member')
  tracked := by
    apply sound.tracked.close (List.mem_map_of_mem member)
    intro surreal
    constructor
    · intro kept
      obtain ⟨other, member', rfl⟩ := List.mem_map.mp kept
      obtain ⟨stored, different⟩ := List.mem_filter.mp member'
      refine ⟨List.mem_map_of_mem stored, ?_⟩
      intro same
      have orgs : other.orgId = entry.orgId := by
        rw [← sound.owned other stored, ← sound.owned entry member, same]
      exact of_decide_eq_true different orgs
    · rintro ⟨cached, different⟩
      obtain ⟨other, stored, rfl⟩ := List.mem_map.mp cached
      apply List.mem_map_of_mem
      refine List.mem_filter.mpr ⟨stored, decide_eq_true ?_⟩
      intro same
      rw [List.inj_on_of_nodup_map sound.keyed stored member same] at different
      exact different rfl

/-- The entries change in their last use only. -/
theorem touch (sound : Sound calls state) (orgId : κ) : Sound calls (state.touch orgId) := by
  have entries : ∀ entry ∈ (state.touch orgId).pool, ∃ old ∈ state.pool,
      entry.orgId = old.orgId ∧ entry.surreal = old.surreal := by
    intro entry member
    obtain ⟨old, stored, rfl⟩ := List.mem_map.mp member
    refine ⟨old, stored, ?_⟩
    split <;> exact ⟨rfl, rfl⟩
  constructor
  · rw [touch_orgIds]
    exact sound.keyed
  · intro entry member
    obtain ⟨old, stored, sameOrg, sameSurreal⟩ := entries entry member
    rw [sameOrg, sameSurreal]
    exact sound.owned old stored
  · exact sound.holding
  · exact sound.apart
  · intro holder holds entry member
    obtain ⟨old, stored, sameOrg, _⟩ := entries entry member
    rw [sameOrg]
    exact sound.vacant holder holds old stored
  · rw [touch_surreals]
    exact sound.tracked

end

section

variable [DecidableEq τ]

/-- A phase without the lock takes the place of another. -/
theorem setPhase (sound : Sound calls state) {phase : PoolPhase τ}
    (kept : phase.holdsLock = (state.phase call).holdsLock)
    (own : ∀ surreal, phase = .ended (some surreal) →
      surreal ∈ state.pool.map PoolEntry.surreal ∧ (calls surreal).orgId = (calls call).orgId)
    (unsigned : phase ≠ .signingIn) (running : call ∉ state.opened) :
    Sound calls (state.setPhase call phase) where
  keyed := sound.keyed
  owned := sound.owned
  holding other := by
    rw [show (state.setPhase call phase).holders = state.holders from rfl, sound.holding other]
    rcases eq_or_ne other call with rfl | different
    · simp [SurrealPool.setPhase, kept]
    · simp [SurrealPool.setPhase, different]
  apart := sound.apart
  vacant := sound.vacant
  tracked := sound.tracked.move running unsigned own

theorem fail (sound : Sound calls state)
    (unfinished : ∀ surreal, state.phase call ≠ .ended surreal) :
    Sound calls (state.finish call none) where
  keyed := sound.keyed
  owned := sound.owned
  holding other := by
    rcases eq_or_ne other call with rfl | different
    · simp [SurrealPool.finish, PoolPhase.holdsLock]
    · simpa [SurrealPool.finish, different] using sound.holding other
  apart holder holds other holdsOther :=
    sound.apart holder (List.mem_of_mem_filter holds) other (List.mem_of_mem_filter holdsOther)
  vacant holder holds := sound.vacant holder (List.mem_of_mem_filter holds)
  tracked := by
    by_cases signing : state.phase call = .signingIn
    · exact sound.tracked.leave signing
    · apply sound.tracked.move (sound.tracked.running unfinished signing)
      · simp
      · intro surreal ends
        cases ends

theorem takeLock (sound : Sound calls state) {phase : PoolPhase τ}
    (holds : phase.holdsLock = true) (unsigned : phase ≠ .signingIn)
    (locking : state.phase call = .locking)
    (free : ∀ holder ∈ state.holders, (calls holder).orgId ≠ (calls call).orgId)
    (vacant : ∀ entry ∈ state.pool, entry.orgId ≠ (calls call).orgId) :
    Sound calls (state.takeLock call phase) where
  keyed := sound.keyed
  owned := sound.owned
  holding other := by
    rcases eq_or_ne other call with rfl | different
    · simp [SurrealPool.takeLock, holds]
    · simpa [SurrealPool.takeLock, different] using sound.holding other
  apart := by
    intro holder member other memberOther same
    rcases List.mem_cons.mp member with first | member
    · rcases List.mem_cons.mp memberOther with second | memberOther
      · rw [first, second]
      · rw [first] at same
        exact absurd same.symm (free other memberOther)
    · rcases List.mem_cons.mp memberOther with second | memberOther
      · rw [second] at same
        exact absurd same (free holder member)
      · exact sound.apart holder member other memberOther same
  vacant := by
    intro holder member
    rcases List.mem_cons.mp member with first | member
    · rw [first]
      exact vacant
    · exact sound.vacant holder member
  tracked := by
    apply sound.tracked.move
    · exact sound.tracked.running (by simp [locking]) (by simp [locking])
    · exact unsigned
    · rintro surreal rfl
      cases holds

theorem resolve (sound : Sound calls state) (running : call ∉ state.opened)
    (unlocked : (state.phase call).holdsLock = false) :
    Sound calls (state.resolve calls call) := by
  unfold SurrealPool.resolve
  split
  · refine sound.setPhase unlocked.symm ?_ (by simp) running
    intro surreal ends
    cases ends
  · refine sound.setPhase unlocked.symm ?_ (by simp) running
    intro surreal ends
    cases ends

theorem comeUp (sound : Sound calls state) (connecting : state.phase call = .connecting) :
    Sound calls (state.comeUp call) where
  keyed := sound.keyed
  owned := sound.owned
  holding other := by
    rcases eq_or_ne other call with rfl | different
    · simpa [SurrealPool.comeUp, connecting, PoolPhase.holdsLock] using sound.holding other
    · simpa [SurrealPool.comeUp, different] using sound.holding other
  apart := sound.apart
  vacant := sound.vacant
  tracked := sound.tracked.comeUp
    (sound.tracked.running (by simp [connecting]) (by simp [connecting]))

end

section

variable [DecidableEq κ] [DecidableEq τ]

theorem enter (sound : Sound calls state) (starting : state.phase call = .starting) :
    Sound calls (state.enter calls call) := by
  have running : call ∉ state.opened :=
    sound.tracked.running (by simp [starting]) (by simp [starting])
  have unlocked : (state.phase call).holdsLock = false := by simp [starting, PoolPhase.holdsLock]
  unfold SurrealPool.enter
  split
  · exact sound.resolve running unlocked
  · rename_i entry found
    obtain ⟨member, sameOrg⟩ := of_lookup found
    split
    · refine (sound.closeEntry member).setPhase unlocked.symm ?_ (by simp) running
      intro surreal ends
      cases ends
    · refine (sound.touch _).setPhase unlocked.symm ?_ (by simp) running
      intro surreal ends
      cases ends
      rw [touch_surreals]
      exact ⟨List.mem_map_of_mem member, (sound.owned entry member).trans sameOrg⟩

theorem acquire (sound : Sound calls state) (locking : state.phase call = .locking)
    (free : state.Free calls (calls call).orgId) : Sound calls (state.acquire calls call) := by
  unfold SurrealPool.acquire
  split
  · rename_i entry found
    obtain ⟨member, sameOrg⟩ := of_lookup found
    refine sound.setPhase ?_ ?_ (by simp)
      (sound.tracked.running (by simp [locking]) (by simp [locking]))
    · simp [locking, PoolPhase.holdsLock]
    · intro surreal ends
      cases ends
      exact ⟨List.mem_map_of_mem member, (sound.owned entry member).trans sameOrg⟩
  · rename_i absent
    have vacant := lookup_eq_none.mp absent
    split
    · split
      · rename_i lru oldest
        have member : lru ∈ state.pool := List.minOn?_mem oldest
        apply (sound.closeEntry member).takeLock rfl (by simp) locking free
        intro entry kept
        exact vacant entry (List.mem_of_mem_filter kept)
      · exact sound.takeLock rfl (by simp) locking free vacant
    · exact sound.takeLock rfl (by simp) locking free vacant

theorem signIn (sound : Sound calls state) (signing : state.phase call = .signingIn) :
    Sound calls ((state.cache (calls call).orgId call).finish call (some call)) := by
  have holds : call ∈ state.holders := (sound.holding call).mpr (by simp [signing,
    PoolPhase.holdsLock])
  have vacant : ∀ entry ∈ state.pool, entry.orgId ≠ (calls call).orgId := sound.vacant call holds
  have pool : ((state.cache (calls call).orgId call).finish call (some call)).pool =
      state.pool ++ [⟨(calls call).orgId, call, state.now⟩] := by
    simp [SurrealPool.cache, SurrealPool.finish, lookup_eq_none.mpr vacant]
  constructor
  · rw [pool, List.map_append, List.nodup_append]
    refine ⟨sound.keyed, List.nodup_singleton _, ?_⟩
    intro orgId member other single
    obtain ⟨entry, stored, rfl⟩ := List.mem_map.mp member
    rw [List.map_singleton, List.mem_singleton] at single
    rw [single]
    exact vacant entry stored
  · intro entry member
    rw [pool] at member
    rcases List.mem_append.mp member with stored | added
    · exact sound.owned entry stored
    · rw [List.mem_singleton] at added
      rw [added]
  · intro other
    rcases eq_or_ne other call with rfl | different
    · simp [SurrealPool.finish, PoolPhase.holdsLock]
    · simpa [SurrealPool.finish, SurrealPool.cache, different] using sound.holding other
  · intro holder member other memberOther
    exact sound.apart holder (List.mem_of_mem_filter member) other
      (List.mem_of_mem_filter memberOther)
  · intro holder member entry stored
    obtain ⟨holdsOther, different⟩ := List.mem_filter.mp member
    rw [pool] at stored
    rcases List.mem_append.mp stored with stored | added
    · exact sound.vacant holder holdsOther entry stored
    · rw [List.mem_singleton] at added
      rw [added]
      intro same
      exact (of_decide_eq_true different) (sound.apart holder holdsOther call holds same.symm)
  · rw [pool, List.map_append]
    exact sound.tracked.deliver signing

theorem perform (sound : Sound calls state) (action : PoolAction τ) :
    Sound calls (state.perform calls action) := by
  cases action with
  | wait elapsed => exact ⟨sound.keyed, sound.owned, sound.holding, sound.apart, sound.vacant,
      sound.tracked⟩
  | enter call =>
      simp only [SurrealPool.perform]
      split
      · rename_i starting
        exact sound.enter starting
      · exact sound
  | closed call =>
      simp only [SurrealPool.perform]
      split
      · rename_i closing
        exact sound.resolve (sound.tracked.running (by simp [closing]) (by simp [closing]))
          (by simp [closing, PoolPhase.holdsLock])
      · rename_i evicting
        refine sound.setPhase ?_ ?_ (by simp)
          (sound.tracked.running (by simp [evicting]) (by simp [evicting]))
        · simp [evicting, PoolPhase.holdsLock]
        · intro surreal ends
          cases ends
      · exact sound
  | acquire call =>
      simp only [SurrealPool.perform]
      split
      · rename_i allowed
        exact sound.acquire allowed.1 allowed.2
      · exact sound
  | connect call succeeds =>
      simp only [SurrealPool.perform]
      split
      · rename_i connecting
        split
        · exact sound.comeUp connecting
        · exact sound.fail (by simp [connecting])
      · exact sound
  | signIn call succeeds =>
      simp only [SurrealPool.perform]
      split
      · rename_i signing
        split
        · exact sound.signIn signing
        · exact sound.fail (by simp [signing])
      · exact sound
  | cancel call =>
      simp only [SurrealPool.perform]
      split
      · exact sound
      · rename_i unfinished
        exact sound.fail unfinished

theorem run (calls : τ → PoolCall κ) (now : Time) (actions : List (PoolAction τ)) :
    Sound calls (SurrealPool.run calls now actions) := by
  unfold SurrealPool.run
  refine List.foldlRecOn actions _ (start now) ?_
  intro state sound action _
  exact sound.perform action

end

end Sound

section

variable [DecidableEq κ] [DecidableEq τ]

theorem cached_of_ended {action : PoolAction τ} {surreal : τ}
    (before : state.phase call ≠ .ended (some surreal))
    (after : (state.perform calls action).phase call = .ended (some surreal)) :
    surreal ∈ (state.perform calls action).pool.map PoolEntry.surreal := by
  have moved : ∀ {other : τ} {phase : PoolPhase τ},
      Function.update state.phase other phase call = .ended (some surreal) →
        phase = .ended (some surreal) := by
    intro other phase ends
    rcases eq_or_ne call other with rfl | different
    · rwa [Function.update_self] at ends
    · rw [Function.update_of_ne different] at ends
      exact absurd ends before
  have resolved : ∀ other, (state.resolve calls other).phase call ≠ .ended (some surreal) := by
    intro other ends
    unfold resolve at ends
    split at ends <;> cases moved ends
  cases action with
  | wait elapsed => exact absurd after before
  | enter other =>
      simp only [perform] at after ⊢
      split at after
      · rename_i starting
        rw [if_pos starting]
        unfold enter at after ⊢
        split at after
        · exact absurd after (resolved other)
        · rename_i entry found
          split at after
          · cases moved after
          · rename_i fresh
            cases moved after
            simp only [if_neg fresh]
            rw [show ((state.touch (calls other).orgId).setPhase other _).pool =
              (state.touch (calls other).orgId).pool from rfl, touch_surreals]
            exact List.mem_map_of_mem (of_lookup found).1
      · exact absurd after before
  | closed other =>
      simp only [perform] at after
      split at after
      · exact absurd after (resolved other)
      · cases moved after
      · exact absurd after before
  | acquire other =>
      simp only [perform] at after ⊢
      split at after
      · rename_i allowed
        rw [if_pos allowed]
        unfold acquire at after ⊢
        split at after
        · rename_i entry found
          cases moved after
          exact List.mem_map_of_mem (of_lookup found).1
        · split at after
          · split at after <;> cases moved after
          · cases moved after
      · exact absurd after before
  | connect other succeeds =>
      simp only [perform] at after
      split at after
      · split at after <;> cases moved after
      · exact absurd after before
  | signIn other succeeds =>
      simp only [perform] at after ⊢
      split at after
      · rename_i signing
        rw [if_pos signing]
        split at after
        · rename_i succeeded
          cases moved after
          rw [if_pos succeeded]
          exact mem_cache
        · cases moved after
      · exact absurd after before
  | cancel other =>
      simp only [perform] at after
      split at after
      · exact absurd after before
      · cases moved after

/-- In every interleaving the open connections are the cached ones, one for each
organisation, those whose call is signing in, and those whose call ended before it
had signed in; a call only ever gets one that was opened for its own organisation
and that is open when the call ends. -/
theorem open_connections_cached {κ τ : Type} [DecidableEq κ] [DecidableEq τ]
    (calls : τ → PoolCall κ) (now : Time) (actions : List (PoolAction τ)) :
    Exclusive calls (run calls now actions) ∧ HandsOutOpen calls (run calls now actions) := by
  have sound := Sound.run calls now actions
  refine ⟨sound.exclusive, ?_⟩
  intro action call surreal before after
  have cached := cached_of_ended before after
  have tracked := (sound.perform action).tracked
  exact ⟨(tracked.of_cached cached).1, tracked.unclosed surreal cached⟩

/-- A shutdown leaves open exactly the connections that no call has returned. -/
theorem closeAll_iff {calls : τ → PoolCall κ} {now : Time} {actions : List (PoolAction τ)}
    {surreal : τ} (opened : surreal ∈ (run calls now actions).opened) :
    surreal ∈ (run calls now actions).closeAll.closed ↔
      (run calls now actions).phase surreal = .ended (some surreal) := by
  have returned_iff := (Sound.run calls now actions).tracked.returned_iff surreal
  rw [closeAll, List.mem_append, or_comm, ← returned_iff]
  exact and_iff_right opened

/-- The calls that create a connection, with the cached ones, within a bound. -/
def Within (limit : Nat) (state : SurrealPool κ τ) : Prop :=
  state.pool.length + state.holders.length ≤ surrealMaxCached - 1 + limit

theorem length_filter_lt_of_mem {α : Type} {items : List α} {item : α} {keep : α → Bool}
    (member : item ∈ items) (dropped : keep item = false) :
    (items.filter keep).length < items.length :=
  List.length_filter_lt_length_iff_exists.mpr ⟨item, member, by simp [dropped]⟩

theorem Within.perform {limit : Nat} (within : Within limit state) (sound : Sound calls state)
    {action : PoolAction τ} (few : (state.perform calls action).holders.length ≤ limit) :
    Within limit (state.perform calls action) := by
  have closing : ∀ entry, (state.closeEntry entry).pool.length ≤ state.pool.length := by
    intro entry
    exact List.length_filter_le _ _
  have leaving : ∀ (other : τ) (found : Option τ),
      (state.finish other found).holders.length ≤ state.holders.length := by
    intro other found
    exact List.length_filter_le _ _
  have resolved : ∀ other, Within limit (state.resolve calls other) := by
    intro other
    unfold resolve
    split <;> exact within
  unfold Within at within ⊢
  cases action with
  | wait elapsed => exact within
  | enter other =>
      simp only [SurrealPool.perform]
      split
      · unfold enter
        split
        · exact resolved other
        · rename_i entry found
          split
          · have shorter := closing entry
            change (state.closeEntry entry).pool.length + state.holders.length ≤ _
            omega
          · simpa [touch, setPhase] using within
      · exact within
  | closed other =>
      simp only [SurrealPool.perform]
      split
      · exact resolved other
      · exact within
      · exact within
  | acquire other =>
      simp only [SurrealPool.perform] at few ⊢
      split at few
      · rename_i allowed
        rw [if_pos allowed]
        unfold acquire at few ⊢
        split at few
        · exact within
        · split at few
          · rename_i full
            rw [if_pos full]
            split at few
            · rename_i lru oldest
              have shorter : (state.closeEntry lru).pool.length < state.pool.length :=
                length_filter_lt_of_mem (List.minOn?_mem oldest) (by simp)
              change (state.closeEntry lru).pool.length + (state.holders.length + 1) ≤ _
              omega
            · rename_i none
              have empty : state.pool = [] := by
                by_contra entries
                rw [List.minOn?_eq_some_minOn entries] at none
                cases none
              rw [empty] at full
              cases full
          · rename_i room
            rw [if_neg room]
            simp only [takeLock, List.length_cons] at few ⊢
            unfold surrealMaxCached at room ⊢
            omega
      · rename_i refused
        rw [if_neg refused]
        exact within
  | connect other succeeds =>
      simp only [SurrealPool.perform]
      split
      · split
        · exact within
        · have fewer := leaving other none
          change state.pool.length + (state.finish other none).holders.length ≤ _
          omega
      · exact within
  | signIn other succeeds =>
      simp only [SurrealPool.perform]
      split
      · rename_i signing
        have holds : other ∈ state.holders :=
          (sound.holding other).mpr (by simp [signing, PoolPhase.holdsLock])
        have fewer : (state.finish other (some other)).holders.length < state.holders.length :=
          length_filter_lt_of_mem holds (by simp)
        split
        · have grown : (state.cache (calls other).orgId other).pool.length ≤
              state.pool.length + 1 := by
            unfold cache
            dsimp only
            split <;> simp
          change (state.cache (calls other).orgId other).pool.length +
            (state.finish other (some other)).holders.length ≤ _
          omega
        · have fewer := leaving other none
          change state.pool.length + (state.finish other none).holders.length ≤ _
          omega
      · exact within
  | cancel other =>
      simp only [SurrealPool.perform]
      split
      · exact within
      · have fewer := leaving other none
        change state.pool.length + (state.finish other none).holders.length ≤ _
        omega

/-- With never more than `limit` creations under way, the pool outgrows its cap by
no more than `limit - 1` connections. -/
theorem pool_length_le {κ τ : Type} [DecidableEq κ] [DecidableEq τ] (calls : τ → PoolCall κ)
    (now : Time) (limit : Nat) (actions : List (PoolAction τ))
    (few : AllowedAlong (perform calls)
      (fun state action => (perform calls state action).holders.length ≤ limit) (start now)
      actions) :
    (run calls now actions).pool.length + (run calls now actions).holders.length ≤
      surrealMaxCached - 1 + limit := by
  have both := (GuardedRun.of_allowedAlong few).invariant
    (fun state => Sound calls state ∧ Within limit state)
    ⟨Sound.start now, by simp [Within, start]⟩
    (fun invariant fewer => ⟨invariant.1.perform _, invariant.2.perform invariant.1 fewer⟩)
  exact both.2

end

end

/-- A call for an organisation with a URL of its own. -/
def configuredCall (orgId : Nat) : PoolCall Nat :=
  { orgId := orgId
    surrealdbUrl := some "ws://surrealdb:8000".toList
    surrealdbUser := none
    surrealdbPass := none
    surrealdbNamespace := none
    surrealdbDatabase := none
    systemUrl := none }

-- A connection that came up and was refused its sign-in stays open.
example :
    let state := run configuredCall 0
      [.enter 0, .acquire 0, .connect 0 true, .signIn 0 false, .enter 1, .acquire 1,
        .connect 1 true, .signIn 1 true]
    state.opened = [0, 1] ∧ state.pool.map PoolEntry.surreal = [1] ∧ state.closed = [] := by
  decide

/-- Two calls of one organisation and one of another, all at once. -/
def crossingCalls : List (PoolAction Nat) :=
  [.enter 0, .enter 1, .acquire 0, .acquire 1, .enter 2, .acquire 2, .connect 0 true,
    .signIn 0 true, .acquire 1, .connect 2 true, .signIn 2 true]

theorem pool_length_le_crossingCalls :
    (run (fun call => configuredCall (call / 2)) 0 crossingCalls).pool.length +
        (run (fun call => configuredCall (call / 2)) 0 crossingCalls).holders.length ≤
      surrealMaxCached - 1 + 2 :=
  pool_length_le _ 0 2 crossingCalls (by decide)

-- Two creations at once, with room for one, take the pool over its cap.
example :
    let warm := (List.range 31).flatMap fun call =>
      [PoolAction.enter call, .acquire call, .connect call true, .signIn call true]
    let both := [.enter 31, .acquire 31, .enter 32, .acquire 32, .connect 31 true,
      .connect 32 true, .signIn 31 true, .signIn 32 true]
    (run configuredCall 0 (warm ++ both)).pool.length = surrealMaxCached + 1 := by
  decide +kernel

end SurrealPool

end OpenZync.Graph
