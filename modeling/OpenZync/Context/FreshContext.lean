import OpenZync.Library.Execution
import OpenZync.Context.ContextCache
import Mathlib.Data.Nat.Basic
import Mathlib.Order.Basic

/-!
# When the context cache is fresh

Every generation has an age below which no context is cached under it: the
number of commits when the generation began.  A bump after a commit begins a
generation younger than the commit, and that settles the operation.  Where an
operation finishes without a bump, the contexts cached or being computed under
the current generation must not be older than its commit.
-/

namespace OpenZync.Context

open OpenZync.Library

theorem buildContextCacheKey_version {query query' : ContextQuery} {version version' : Nat}
    (same : buildContextCacheKey query version = buildContextCacheKey query' version') :
    version = version' := by
  simp only [buildContextCacheKey, List.cons_append, List.nil_append, List.cons.injEq] at same
  have appended : "v" ++ version.repr = "v" ++ version'.repr := same.1
  have texts := (String.append_right_inj "v").mp appended
  rw [← Nat.ofDigitChars_ten_toDigits (n := version), ← Nat.toList_repr, texts,
    Nat.toList_repr, Nat.ofDigitChars_ten_toDigits]

/-- `age version` bounds from below how old the data of a generation is. -/
def CachedContext.Aged (current : Nat) (age : Nat → Nat) (entry : CachedContext) : Prop :=
  ∃ query version, entry.key = buildContextCacheKey query version ∧
    version ≤ current ∧ age version ≤ entry.readAt

def RequestPhase.Aged (current : Nat) (age : Nat → Nat) : RequestPhase → Prop
  | .started _ since => ∀ commit ∈ since, commit ≤ age current
  | .versioned _ since version known =>
      version ≤ current ∧ (known = true → ∀ commit ∈ since, commit ≤ age version)
  | .missed _ version => version ≤ current
  | .computing _ version readAt => version ≤ current ∧ age version ≤ readAt
  | .hit since readAt => ∀ commit ∈ since, commit ≤ readAt
  | _ => True

/-- A bump has made the generation younger than the commit. -/
def OperationPhase.Aged (current commits : Nat) (age : Nat → Nat) : OperationPhase → Prop
  | .effects commit bumped _ => commit ≤ commits ∧ (bumped = true → commit ≤ age current)
  | .purging commit bumped _ _ _ => commit ≤ commits ∧ (bumped = true → commit ≤ age current)
  | _ => True

structure Aged {ρ ο : Type} (age : Nat → Nat) (state : CacheSystem ρ ο) : Prop where
  bounded : ∀ version, age version ≤ state.commits
  finished : ∀ commit ∈ state.finished, commit ≤ age state.contextVersion
  cached : ∀ entry ∈ state.cache, entry.Aged state.contextVersion age
  requests : ∀ request, (state.requests request).Aged state.contextVersion age
  operations : ∀ operation,
    (state.operations operation).Aged state.contextVersion state.commits age

/-- Nothing cached or being computed under the current generation was read
before the commit. -/
def Unharmed {ρ ο : Type} (state : CacheSystem ρ ο) (commit : Nat) : Prop :=
  (∀ entry ∈ state.cache, ∀ query,
    entry.key = buildContextCacheKey query state.contextVersion → commit ≤ entry.readAt) ∧
  ∀ request query readAt,
    state.requests request = .computing query state.contextVersion readAt → commit ≤ readAt

/-- An operation that finishes without a bump harms nobody, and a request whose
version read failed finds the cache unreachable too, or nothing in it. -/
def InvalidatesInTime {ρ ο : Type} (state : CacheSystem ρ ο) :
    CacheAction ρ ο → Prop
  | .finish operation =>
      ∀ commit, state.operations operation = .effects commit false [] → Unharmed state commit
  | .get request reachable =>
      ∀ query since version, state.requests request = .versioned query since version false →
        reachable = true → state.lookup (buildContextCacheKey query version) = none
  | _ => True

theorem CacheSystem.forall_setRequest {ρ ο : Type} [DecidableEq ρ] {state : CacheSystem ρ ο}
    {Holds : RequestPhase → Prop} {request : ρ} {phase : RequestPhase} (here : Holds phase)
    (others : ∀ other, Holds (state.requests other)) (other : ρ) :
    Holds ((state.setRequest request phase).requests other) := by
  unfold CacheSystem.setRequest
  by_cases same : other = request
  · subst other
    simpa using here
  · simpa [Function.update_of_ne same] using others other

theorem CacheSystem.forall_setOperation {ρ ο : Type} [DecidableEq ο] {state : CacheSystem ρ ο}
    {Holds : OperationPhase → Prop} {operation : ο} {phase : OperationPhase}
    (here : Holds phase) (others : ∀ other, Holds (state.operations other)) (other : ο) :
    Holds ((state.setOperation operation phase).operations other) := by
  unfold CacheSystem.setOperation
  by_cases same : other = operation
  · subst other
    simpa using here
  · simpa [Function.update_of_ne same] using others other

section Phases

variable {current later commits commits' : Nat} {age age' : Nat → Nat}

theorem RequestPhase.Aged.mono {phase : RequestPhase} (aged : phase.Aged current age)
    (advanced : current ≤ later) (older : ∀ version, version ≤ current → age version ≤ age' version)
    (fresh : age current ≤ age' later)
    (computing : ∀ query version readAt, phase = .computing query version readAt →
      age' version ≤ readAt) :
    phase.Aged later age' := by
  cases phase with
  | started query since => exact fun commit member => (aged commit member).trans fresh
  | versioned query since version known =>
      refine ⟨aged.1.trans advanced, ?_⟩
      intro true commit member
      exact (aged.2 true commit member).trans (older version aged.1)
  | missed query version => exact Nat.le_trans aged advanced
  | computing query version readAt =>
      exact ⟨aged.1.trans advanced, computing query version readAt rfl⟩
  | hit since readAt => exact aged
  | idle => trivial
  | computed => trivial

theorem OperationPhase.Aged.mono {phase : OperationPhase}
    (aged : phase.Aged current commits age) (grown : commits ≤ commits')
    (fresh : age current ≤ age' later) : phase.Aged later commits' age' := by
  cases phase with
  | effects commit bumped queue =>
      exact ⟨aged.1.trans grown, fun true => (aged.2 true).trans fresh⟩
  | purging commit bumped remaining thenBump queue =>
      exact ⟨aged.1.trans grown, fun true => (aged.2 true).trans fresh⟩
  | pending => trivial
  | finished => trivial

end Phases

namespace Aged

variable {ρ ο : Type} {age : Nat → Nat} {state : CacheSystem ρ ο}

theorem empty : Aged (fun _ => 0) (CacheSystem.empty : CacheSystem ρ ο) where
  bounded _ := Nat.zero_le _
  finished _ member := by cases member
  cached _ member := by cases member
  requests _ := trivial
  operations _ := trivial

theorem freshHits (aged : Aged age state) : FreshHits state := by
  intro request since readAt hit
  have sound := aged.requests request
  rw [hit] at sound
  exact sound

theorem delete (aged : Aged age state) (keys : List ContextKey) :
    Aged age (state.delete keys) where
  bounded := aged.bounded
  finished := aged.finished
  cached entry member := aged.cached entry (List.mem_filter.mp member).1
  requests := aged.requests
  operations := aged.operations

theorem insert (aged : Aged age state) {entry : CachedContext}
    (sound : entry.Aged state.contextVersion age) :
    Aged age { state with cache := entry :: state.cache } where
  bounded := aged.bounded
  finished := aged.finished
  cached other member := by
    rcases List.mem_cons.mp member with rfl | earlier
    · exact sound
    · exact aged.cached other earlier
  requests := aged.requests
  operations := aged.operations

theorem commit (aged : Aged age state) :
    Aged age { state with commits := state.commits + 1 } where
  bounded version := (aged.bounded version).trans (Nat.le_succ _)
  finished := aged.finished
  cached := aged.cached
  requests := aged.requests
  operations operation := (aged.operations operation).mono (Nat.le_succ _) (Nat.le_refl _)

theorem bump (aged : Aged age state) :
    ∃ younger, Aged younger state.bump ∧ younger state.bump.contextVersion = state.commits := by
  have version : state.bump.contextVersion = state.contextVersion + 1 := rfl
  have advanced : state.contextVersion ≤ state.contextVersion + 1 := Nat.le_succ _
  have kept : ∀ old, old ≤ state.contextVersion →
      Function.update age (state.contextVersion + 1) state.commits old = age old := by
    intro old bound
    exact Function.update_of_ne (by omega) _ _
  have fresh : age state.contextVersion ≤
      Function.update age (state.contextVersion + 1) state.commits
        (state.contextVersion + 1) := by
    rw [Function.update_self]
    exact aged.bounded _
  refine ⟨Function.update age (state.contextVersion + 1) state.commits, ?_, ?_⟩
  · constructor
    · intro other
      by_cases same : other = state.contextVersion + 1
      · subst other
        rw [Function.update_self]
        exact Nat.le_refl _
      · rw [Function.update_of_ne same]
        exact aged.bounded other
    · intro commit member
      rw [version]
      exact (aged.finished commit member).trans fresh
    · intro entry member
      obtain ⟨query, old, key, bound, young⟩ := aged.cached entry member
      rw [version]
      exact ⟨query, old, key, bound.trans advanced, by rwa [kept old bound]⟩
    · intro request
      rw [version]
      apply (aged.requests request).mono advanced _ fresh
      · intro query old readAt computing
        have sound := aged.requests request
        rw [computing] at sound
        rw [kept old sound.1]
        exact sound.2
      · intro old bound
        rw [kept old bound]
    · intro operation
      rw [version]
      exact (aged.operations operation).mono (Nat.le_refl _) fresh
  · rw [version, Function.update_self]

theorem raise (aged : Aged age state) {commit : Nat} (committed : commit ≤ state.commits)
    (unharmed : Unharmed state commit) :
    ∃ younger, Aged younger state ∧ commit ≤ younger state.contextVersion := by
  have raised : ∀ version, age version ≤
      Function.update age state.contextVersion (max (age state.contextVersion) commit)
        version := by
    intro version
    by_cases same : version = state.contextVersion
    · subst version
      rw [Function.update_self]
      exact Nat.le_max_left _ _
    · rw [Function.update_of_ne same]
  have young : ∀ {version readAt}, age version ≤ readAt →
      (version = state.contextVersion → commit ≤ readAt) →
      Function.update age state.contextVersion (max (age state.contextVersion) commit)
        version ≤ readAt := by
    intro version readAt old harmless
    by_cases same : version = state.contextVersion
    · subst version
      rw [Function.update_self]
      exact Nat.max_le.mpr ⟨old, harmless rfl⟩
    · rw [Function.update_of_ne same]
      exact old
  refine ⟨Function.update age state.contextVersion (max (age state.contextVersion) commit),
    ?_, ?_⟩
  · constructor
    · intro version
      exact young (aged.bounded version) (fun _ => committed)
    · intro other member
      exact (aged.finished other member).trans (raised _)
    · intro entry member
      obtain ⟨query, version, key, bound, old⟩ := aged.cached entry member
      refine ⟨query, version, key, bound, young old ?_⟩
      intro same
      subst version
      exact unharmed.1 entry member query key
    · intro request
      apply (aged.requests request).mono (Nat.le_refl _) (fun version _ => raised version)
        (raised _)
      intro query version readAt computing
      have sound := aged.requests request
      rw [computing] at sound
      apply young sound.2
      intro same
      subst version
      exact unharmed.2 request query readAt computing
    · intro operation
      exact (aged.operations operation).mono (Nat.le_refl _) (raised _)
  · rw [Function.update_self]
    exact Nat.le_max_right _ _

theorem finish (aged : Aged age state) {commit : Nat}
    (young : commit ≤ age state.contextVersion) :
    Aged age { state with finished := commit :: state.finished } where
  bounded := aged.bounded
  finished other member := by
    rcases List.mem_cons.mp member with rfl | earlier
    · exact young
    · exact aged.finished other earlier
  cached := aged.cached
  requests := aged.requests
  operations := aged.operations

section Requests

variable [DecidableEq ρ]

theorem setRequest (aged : Aged age state) {request : ρ} {phase : RequestPhase}
    (sound : phase.Aged state.contextVersion age) : Aged age (state.setRequest request phase) where
  bounded := aged.bounded
  finished := aged.finished
  cached := aged.cached
  requests := CacheSystem.forall_setRequest sound aged.requests
  operations := aged.operations

theorem readVersion (aged : Aged age state) {request : ρ} {query : ContextQuery}
    {since : List Nat} (started : state.requests request = .started query since)
    (reachable : Bool) : Aged age (state.readVersion request query since reachable) := by
  have sound := aged.requests request
  rw [started] at sound
  apply aged.setRequest
  refine ⟨?_, ?_⟩
  · cases reachable with
    | true => exact Nat.le_refl _
    | false => exact Nat.zero_le _
  · intro known commit member
    rw [beq_iff_eq] at known
    rw [known]
    exact sound commit member

theorem answer (aged : Aged age state) {request : ρ} {query : ContextQuery}
    {since : List Nat} {version : Nat} {known : Bool}
    (versioned : state.requests request = .versioned query since version known)
    {reachable : Bool} (inTime : InvalidatesInTime state (.get request reachable)) :
    Aged age (state.answer request query since version reachable) := by
  have sound := aged.requests request
  rw [versioned] at sound
  unfold CacheSystem.answer
  split
  · rename_i entry found
    apply aged.setRequest
    cases reachable with
    | false => cases found
    | true =>
        rw [if_pos rfl] at found
        have member := List.mem_of_find?_eq_some found
        have key : entry.key = buildContextCacheKey query version := by
          simpa using List.find?_some found
        obtain ⟨query', version', key', _, young⟩ := aged.cached entry member
        have sameVersion := buildContextCacheKey_version (key.symm.trans key')
        subst version'
        cases known with
        | true =>
            intro commit earlier
            exact (sound.2 rfl commit earlier).trans young
        | false =>
            have nothing := inTime query since version versioned rfl
            rw [nothing] at found
            cases found
  · exact aged.setRequest sound.1

theorem store (aged : Aged age state) {request : ρ} {query : ContextQuery}
    {version readAt : Nat} (computing : state.requests request = .computing query version readAt)
    (reachable : Bool) : Aged age (state.store request query version readAt reachable) := by
  have sound := aged.requests request
  rw [computing] at sound
  cases reachable with
  | false => exact aged.setRequest trivial
  | true =>
      have entry : (CachedContext.mk (buildContextCacheKey query version) readAt).Aged
          state.contextVersion age :=
        ⟨query, version, rfl, sound.1, sound.2⟩
      exact ((aged.delete [buildContextCacheKey query version]).insert entry).setRequest trivial

end Requests

section Operations

variable [DecidableEq ο]

theorem setOperation (aged : Aged age state) {operation : ο} {phase : OperationPhase}
    (sound : phase.Aged state.contextVersion state.commits age) :
    Aged age (state.setOperation operation phase) where
  bounded := aged.bounded
  finished := aged.finished
  cached := aged.cached
  requests := aged.requests
  operations := CacheSystem.forall_setOperation sound aged.operations

theorem finishOperation (aged : Aged age state) {operation : ο} {commit : Nat} {bumped : Bool}
    (done : state.operations operation = .effects commit bumped [])
    (inTime : InvalidatesInTime state (.finish operation : CacheAction ρ ο)) :
    ∃ younger, Aged younger
      ({ state with finished := commit :: state.finished }.setOperation operation .finished) := by
  have sound := aged.operations operation
  rw [done] at sound
  cases bumped with
  | true => exact ⟨age, (aged.finish (sound.2 rfl)).setOperation trivial⟩
  | false =>
      obtain ⟨younger, raised, young⟩ := aged.raise sound.1 (inTime commit done)
      exact ⟨younger, (raised.finish young).setOperation trivial⟩

end Operations

variable [DecidableEq ρ] [DecidableEq ο]

/-- What one step preserves. -/
theorem perform (aged : Aged age state) {action : CacheAction ρ ο}
    (inTime : InvalidatesInTime state action) :
    ∃ younger, Aged younger (state.perform action) := by
  cases action with
  | start request query =>
      simp only [CacheSystem.perform]
      split
      · exact ⟨age, aged.setRequest aged.finished⟩
      · exact ⟨age, aged⟩
  | getContextVersion request reachable =>
      simp only [CacheSystem.perform]
      split
      · rename_i started
        exact ⟨age, aged.readVersion started reachable⟩
      · exact ⟨age, aged⟩
  | get request reachable =>
      simp only [CacheSystem.perform]
      split
      · rename_i versioned
        exact ⟨age, aged.answer versioned inTime⟩
      · exact ⟨age, aged⟩
  | read request =>
      simp only [CacheSystem.perform]
      split
      · rename_i missed
        have sound := aged.requests request
        rw [missed] at sound
        exact ⟨age, aged.setRequest ⟨sound, aged.bounded _⟩⟩
      · exact ⟨age, aged⟩
  | set request reachable =>
      simp only [CacheSystem.perform]
      split
      · rename_i computing
        exact ⟨age, aged.store computing reachable⟩
      · exact ⟨age, aged⟩
  | commit operation kind =>
      simp only [CacheSystem.perform]
      split
      · exact ⟨age, aged.commit.setOperation ⟨Nat.le_refl _, fun absurd => by cases absurd⟩⟩
      · exact ⟨age, aged⟩
  | bumpContextVersion operation =>
      simp only [CacheSystem.perform]
      split
      · rename_i effects
        have sound := aged.operations operation
        rw [effects] at sound
        obtain ⟨younger, bumped, fresh⟩ := aged.bump
        refine ⟨younger, bumped.setOperation ⟨sound.1, ?_⟩⟩
        intro _
        rw [fresh]
        exact sound.1
      · exact ⟨age, aged⟩
  | beginPurge operation =>
      have sound := aged.operations operation
      simp only [CacheSystem.perform]
      split
      · rename_i effects
        rw [effects] at sound
        exact ⟨age, aged.setOperation sound⟩
      · rename_i effects
        rw [effects] at sound
        exact ⟨age, aged.setOperation sound⟩
      · exact ⟨age, aged⟩
  | deletePage operation keys =>
      have sound := aged.operations operation
      simp only [CacheSystem.perform]
      split
      · rename_i purging
        rw [purging] at sound
        exact ⟨age, (aged.delete keys).setOperation sound⟩
      · exact ⟨age, aged⟩
  | endPurge operation =>
      have sound := aged.operations operation
      simp only [CacheSystem.perform]
      split
      · rename_i purging
        rw [purging] at sound
        exact ⟨age, aged.setOperation sound⟩
      · exact ⟨age, aged⟩
  | failEffect operation =>
      have sound := aged.operations operation
      simp only [CacheSystem.perform]
      split
      · rename_i effects
        rw [effects] at sound
        exact ⟨age, aged.setOperation sound⟩
      · rename_i purging
        rw [purging] at sound
        exact ⟨age, aged.setOperation sound⟩
      · exact ⟨age, aged⟩
  | finish operation =>
      simp only [CacheSystem.perform]
      split
      · rename_i done
        exact aged.finishOperation done inTime
      · exact ⟨age, aged⟩
  | expire key => exact ⟨age, aged.delete [key]⟩

end Aged

/-- In every run whose operations invalidate in time, every answer from the
cache is fresh, in every state reached. -/
theorem cached_contexts_fresh {ρ ο : Type} [DecidableEq ρ] [DecidableEq ο]
    {actions : List (CacheAction ρ ο)} {state : CacheSystem ρ ο}
    (run : GuardedRun CacheSystem.perform InvalidatesInTime .empty actions state) :
    FreshHits state := by
  obtain ⟨age, aged⟩ := run.invariant (fun state => ∃ age, Aged age state)
    ⟨fun _ => 0, Aged.empty⟩ (fun ⟨_, aged⟩ inTime => aged.perform inTime)
  exact aged.freshHits

/-- The effects of the operation include a bump. -/
def OperationKind.Bumps (kind : OperationKind) : Prop :=
  kind.effects = [.bump] ∨ kind.effects = [.purgeAndBump]

/-- Only operations that bump, no failed effect and no failed version read. -/
def Bumping {ρ ο : Type} : CacheAction ρ ο → Prop
  | .commit _ kind => kind.Bumps
  | .failEffect _ => False
  | .getContextVersion _ reachable => reachable = true
  | _ => True

/-- The bump of the operation has run or is still to come. -/
def OperationPhase.WillBump : OperationPhase → Prop
  | .effects _ bumped queue =>
      bumped = true ∨ queue = [.bump] ∨ queue = [.purgeAndBump]
  | .purging _ bumped _ thenBump queue => bumped = true ∨ thenBump = true ∧ queue = []
  | _ => True

def RequestPhase.KnowsVersion : RequestPhase → Prop
  | .versioned _ _ _ known => known = true
  | _ => True

structure BumpsKept {ρ ο : Type} (state : CacheSystem ρ ο) : Prop where
  operations : ∀ operation, (state.operations operation).WillBump
  requests : ∀ request, (state.requests request).KnowsVersion

namespace BumpsKept

variable {ρ ο : Type} {state : CacheSystem ρ ο}

theorem inTime (kept : BumpsKept state) (action : CacheAction ρ ο) :
    InvalidatesInTime state action := by
  cases action with
  | finish operation =>
      intro commit done
      have bump := kept.operations operation
      rw [done] at bump
      rcases bump with impossible | impossible | impossible <;> cases impossible
  | get request reachable =>
      intro query since version versioned
      have known := kept.requests request
      rw [versioned] at known
      cases known
  | _ => trivial

theorem setRequest [DecidableEq ρ] (kept : BumpsKept state) {request : ρ} {phase : RequestPhase}
    (knows : phase.KnowsVersion) : BumpsKept (state.setRequest request phase) where
  operations := kept.operations
  requests := CacheSystem.forall_setRequest knows kept.requests

theorem setOperation [DecidableEq ο] (kept : BumpsKept state) {operation : ο}
    {phase : OperationPhase}
    (will : phase.WillBump) : BumpsKept (state.setOperation operation phase) where
  operations := CacheSystem.forall_setOperation will kept.operations
  requests := kept.requests

theorem perform [DecidableEq ρ] [DecidableEq ο] (kept : BumpsKept state) {action : CacheAction ρ ο}
    (bumping : Bumping action) : BumpsKept (state.perform action) := by
  cases action with
  | start request query =>
      simp only [CacheSystem.perform]
      split
      · exact kept.setRequest trivial
      · exact kept
  | getContextVersion request reachable =>
      simp only [CacheSystem.perform]
      split
      · have reached : reachable = true := bumping
        subst reachable
        exact kept.setRequest (by simp [RequestPhase.KnowsVersion])
      · exact kept
  | get request reachable =>
      simp only [CacheSystem.perform]
      split
      · unfold CacheSystem.answer
        split <;> exact kept.setRequest trivial
      · exact kept
  | read request =>
      simp only [CacheSystem.perform]
      split
      · exact kept.setRequest trivial
      · exact kept
  | set request reachable =>
      simp only [CacheSystem.perform]
      split
      · rename_i query version readAt _
        cases reachable with
        | true =>
            let key := buildContextCacheKey query version
            have stored : BumpsKept { state.delete [key] with
                cache := ⟨key, readAt⟩ :: (state.delete [key]).cache } :=
              ⟨kept.operations, kept.requests⟩
            exact stored.setRequest trivial
        | false => exact kept.setRequest trivial
      · exact kept
  | commit operation kind =>
      simp only [CacheSystem.perform]
      split
      · have committed : BumpsKept { state with commits := state.commits + 1 } :=
          ⟨kept.operations, kept.requests⟩
        exact committed.setOperation (Or.inr bumping)
      · exact kept
  | bumpContextVersion operation =>
      simp only [CacheSystem.perform]
      split
      · have bumped : BumpsKept state.bump := ⟨kept.operations, kept.requests⟩
        exact bumped.setOperation (Or.inl rfl)
      · exact kept
  | beginPurge operation =>
      have will := kept.operations operation
      simp only [CacheSystem.perform]
      split
      · rename_i effects
        rw [effects] at will
        rcases will with bumped | impossible | impossible
        · exact kept.setOperation (Or.inl bumped)
        · cases impossible
        · cases impossible
      · rename_i effects
        rw [effects] at will
        rcases will with bumped | impossible | only
        · exact kept.setOperation (Or.inl bumped)
        · cases impossible
        · cases only
          exact kept.setOperation (Or.inr ⟨rfl, rfl⟩)
      · exact kept
  | deletePage operation keys =>
      have will := kept.operations operation
      simp only [CacheSystem.perform]
      split
      · rename_i purging
        rw [purging] at will
        have deleted : BumpsKept (state.delete keys) := ⟨kept.operations, kept.requests⟩
        exact deleted.setOperation will
      · exact kept
  | endPurge operation =>
      have will := kept.operations operation
      simp only [CacheSystem.perform]
      split
      · rename_i purging
        rw [purging] at will
        rcases will with bumped | ⟨thenBump, nothing⟩
        · exact kept.setOperation (Or.inl bumped)
        · subst thenBump nothing
          exact kept.setOperation (Or.inr (Or.inl rfl))
      · exact kept
  | failEffect operation => exact bumping.elim
  | finish operation =>
      simp only [CacheSystem.perform]
      split
      · rename_i commit bumped done
        have settled : BumpsKept { state with finished := commit :: state.finished } :=
          ⟨kept.operations, kept.requests⟩
        exact settled.setOperation trivial
      · exact kept
  | expire key => exact ⟨kept.operations, kept.requests⟩

end BumpsKept

/-- Operations that bump need no further condition: the ingest of messages, a
retraction and an LLM invalidation that closes a fact. -/
theorem fresh_of_bumping {ρ ο : Type} [DecidableEq ρ] [DecidableEq ο]
    {actions : List (CacheAction ρ ο)} {state : CacheSystem ρ ο}
    (run : GuardedRun CacheSystem.perform (fun _ action => Bumping action) .empty
      actions state) :
    FreshHits state := by
  have invariant := run.invariant
    (fun state => BumpsKept state ∧ ∃ age, Aged age state)
    ⟨⟨fun _ => trivial, fun _ => trivial⟩, fun _ => 0, Aged.empty⟩
    (fun ⟨kept, _, aged⟩ bumping => ⟨kept.perform bumping, aged.perform (kept.inTime _)⟩)
  obtain ⟨_, aged⟩ := invariant.2
  exact aged.freshHits

def someQuery : ContextQuery :=
  { queryHash := "9f86d081884c7d65"
    asOf := none
    sort := "relevance"
    format := "text"
    limit := 20 }

/-- A request that computes and stores. -/
def assembleCold (request : Fin 2) : List (CacheAction (Fin 2) (Fin 1)) :=
  [.start request someQuery, .getContextVersion request true, .get request true,
    .read request, .set request true]

/-- A request up to its lookup. -/
def assembleWarm (request : Fin 2) : List (CacheAction (Fin 2) (Fin 1)) :=
  [.start request someQuery, .getContextVersion request true, .get request true]

/-- A retraction finishes, a request stores its context and the next one is
answered from it. -/
def retractionRun : List (CacheAction (Fin 2) (Fin 1)) :=
  [.commit 0 (.retraction true), .beginPurge 0, .endPurge 0, .bumpContextVersion 0,
    .finish 0] ++ assembleCold 0 ++ assembleWarm 1

theorem retraction_then_fresh_hit :
    (retractionRun.foldl CacheSystem.perform .empty).requests 1 = .hit [1] 1 ∧
      FreshHits (retractionRun.foldl CacheSystem.perform .empty) := by
  refine ⟨by decide, ?_⟩
  apply cached_contexts_fresh
  apply GuardedRun.of_allowedAlong
  refine ⟨trivial, trivial, trivial, trivial, ?_, trivial, trivial, ?_, trivial, trivial, trivial,
    trivial, ?_, trivial⟩
  · intro commit done
    cases done
  · intro query since version versioned
    cases versioned
  · intro query since version versioned
    cases versioned

/-- A wipe between two requests. -/
def wipeRun : List (CacheAction (Fin 2) (Fin 1)) :=
  assembleCold 0 ++ [.commit 0 .projectWipe, .finish 0] ++ assembleWarm 1

/-- A supersession purges the cache while a request computes. -/
def slowReaderRun : List (CacheAction (Fin 2) (Fin 1)) :=
  [.start 0 someQuery, .getContextVersion 0 true, .get 0 true, .read 0,
    .commit 0 (.supersessionIngest true 1), .beginPurge 0, .endPurge 0, .finish 0,
    .set 0 true] ++ assembleWarm 1

/-- A wipe leaves the cached context of the wiped data; and the purge of a
supersession misses the context that a slower request is about to store. -/
theorem stale_context_served :
    ¬ FreshHits (wipeRun.foldl CacheSystem.perform .empty) ∧
      ¬ FreshHits (slowReaderRun.foldl CacheSystem.perform .empty) := by
  constructor
  · intro fresh
    have served := fresh 1 [1] 0 (by decide) 1 (by decide)
    omega
  · intro fresh
    have served := fresh 1 [1] 0 (by decide) 1 (by decide)
    omega

end OpenZync.Context
