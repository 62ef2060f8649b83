import Mathlib.Data.List.Basic
import Mathlib.Logic.Relation

/-!
# Executions

Rules shared by every state machine of the development: inversion of a
fallible sequence, invariants of an unlabelled run, and runs whose every step
meets a guard on the state it starts from.

Two fallible computations agree when they fail with the same error or succeed
with related results.  Agreement composes along sequences, so two runs of one
program over related stores are compared statement by statement.
-/

namespace OpenZync.Library

universe u v

/-- A fallible sequence succeeds exactly when both parts do. -/
theorem bind_eq_ok {ε α β : Type u} {first : Except ε α} {next : α → Except ε β}
    {result : β} :
    (first >>= next) = .ok result ↔
      ∃ value, first = .ok value ∧ next value = .ok result := by
  cases first with
  | error failure =>
      constructor
      · intro equality
        cases equality
      · rintro ⟨value, equality, _⟩
        cases equality
  | ok value =>
      constructor
      · intro equality
        exact ⟨value, rfl, equality⟩
      · rintro ⟨value', equality, rest⟩
        cases equality
        exact rest

/-- A mapped result succeeds exactly when the result does. -/
theorem map_eq_ok {ε α β : Type u} {first : Except ε α} {change : α → β}
    {result : β} :
    first.map change = .ok result ↔ ∃ value, first = .ok value ∧ change value = result := by
  cases first with
  | error failure =>
      constructor
      · intro equality
        cases equality
      · rintro ⟨value, equality, _⟩
        cases equality
  | ok value =>
      constructor
      · intro equality
        cases equality
        exact ⟨value, rfl, rfl⟩
      · rintro ⟨value', equality, rfl⟩
        cases equality
        rfl

/-- Items that all succeed are mapped. -/
theorem mapM_eq_ok {ε α β : Type u} {items : List α} {attempt : α → Except ε β} {value : α → β}
    (each : ∀ item ∈ items, attempt item = .ok (value item)) :
    items.mapM attempt = .ok (items.map value) := by
  induction items with
  | nil => rfl
  | cons item items induction =>
      rw [List.mapM_cons, each item List.mem_cons_self,
        induction fun other member => each other (List.mem_cons_of_mem _ member)]
      rfl

/-- A computation does not fail in the given way. -/
def Avoids {ε α : Type u} (Bad : ε → Prop) (result : Except ε α) : Prop :=
  ∀ failure, result = .error failure → ¬ Bad failure

theorem Avoids.ok {ε α : Type u} {Bad : ε → Prop} (value : α) :
    Avoids Bad (.ok value : Except ε α) := by
  intro failure equality
  cases equality

/-- A fallible sequence avoids a failure when both parts do. -/
theorem Avoids.bind {ε α β : Type u} {Bad : ε → Prop} {first : Except ε α}
    {next : α → Except ε β} (avoids : Avoids Bad first)
    (rest : ∀ value, first = .ok value → Avoids Bad (next value)) :
    Avoids Bad (first >>= next) := by
  cases first with
  | error failure =>
      intro other equality
      cases equality
      exact avoids failure rfl
  | ok value => exact rest value rfl

/-- An invariant of a fallible step is one of every sequence of steps that
succeeds. -/
theorem invariant_of_foldlM {ε σ : Type u} {α : Type v} {step : σ → α → Except ε σ}
    {Invariant : σ → Prop}
    (kept : ∀ state item next, Invariant state → step state item = .ok next → Invariant next)
    {items : List α} {state final : σ} (ran : items.foldlM step state = .ok final)
    (initial : Invariant state) : Invariant final := by
  induction items generalizing state with
  | nil =>
      cases ran
      exact initial
  | cons item items induction =>
      rw [List.foldlM_cons] at ran
      obtain ⟨next, stepped, rest⟩ := bind_eq_ok.mp ran
      exact induction rest (kept state item next initial stepped)

/-- A computation that evaluates to a tested value succeeds with it. -/
theorem exists_ok {ε α : Type u} {first : Except ε α} {test : α → Bool}
    (tested : first.toOption.any test = true) :
    ∃ value, first = .ok value ∧ test value = true := by
  cases first with
  | error failure => cases tested
  | ok value => exact ⟨value, rfl, tested⟩

theorem invariant_of_run {σ : Type u} {step : σ → σ → Prop} {Invariant : σ → Prop}
    (preserved : ∀ {source target}, Invariant source → step source target →
      Invariant target)
    {source target : σ} (run : Relation.ReflTransGen step source target)
    (initial : Invariant source) : Invariant target := by
  induction run with
  | refl => exact initial
  | tail _ last induction => exact preserved induction last

/-- States reached from `start` by performing `actions` in order, each allowed
by `guard` in the state it is performed in. -/
inductive GuardedRun {σ : Type u} {α : Type v} (step : σ → α → σ)
    (guard : σ → α → Prop) (start : σ) : List α → σ → Prop where
  | nil : GuardedRun step guard start [] start
  | snoc {actions : List α} {state : σ} {action : α}
      (run : GuardedRun step guard start actions state)
      (allowed : guard state action) :
      GuardedRun step guard start (actions ++ [action]) (step state action)

namespace GuardedRun

variable {σ : Type u} {α : Type v} {step : σ → α → σ} {guard : σ → α → Prop}
  {start state : σ} {actions : List α}

theorem invariant (run : GuardedRun step guard start actions state)
    (Invariant : σ → Prop) (initial : Invariant start)
    (preserved : ∀ {state action}, Invariant state → guard state action →
      Invariant (step state action)) :
    Invariant state := by
  induction run with
  | nil => exact initial
  | snoc _ allowed induction => exact preserved induction allowed

theorem mono {weaker : σ → α → Prop} (run : GuardedRun step guard start actions state)
    (implied : ∀ {state action}, guard state action → weaker state action) :
    GuardedRun step weaker start actions state := by
  induction run with
  | nil => exact .nil
  | snoc _ allowed induction => exact induction.snoc (implied allowed)

end GuardedRun

/-- Every action is allowed in the state the actions before it lead to. -/
def AllowedAlong {σ : Type u} {α : Type v} (step : σ → α → σ) (guard : σ → α → Prop) :
    σ → List α → Prop
  | _, [] => True
  | state, action :: actions =>
      guard state action ∧ AllowedAlong step guard (step state action) actions

instance AllowedAlong.decidable {σ : Type u} {α : Type v} (step : σ → α → σ)
    (guard : σ → α → Prop) [∀ state action, Decidable (guard state action)] :
    ∀ state actions, Decidable (AllowedAlong step guard state actions)
  | _, [] => .isTrue trivial
  | state, action :: actions =>
      have := AllowedAlong.decidable step guard (step state action) actions
      inferInstanceAs (Decidable (_ ∧ _))

theorem GuardedRun.append {σ : Type u} {α : Type v} {step : σ → α → σ}
    {guard : σ → α → Prop} {start state : σ} {done actions : List α}
    (run : GuardedRun step guard start done state)
    (allowed : AllowedAlong step guard state actions) :
    GuardedRun step guard start (done ++ actions) (actions.foldl step state) := by
  induction actions generalizing done state with
  | nil => simpa using run
  | cons action actions induction =>
      have extended := induction (run.snoc allowed.1) allowed.2
      rwa [List.append_assoc] at extended

theorem GuardedRun.of_allowedAlong {σ : Type u} {α : Type v} {step : σ → α → σ}
    {guard : σ → α → Prop} {start : σ} {actions : List α}
    (allowed : AllowedAlong step guard start actions) :
    GuardedRun step guard start actions (actions.foldl step start) :=
  GuardedRun.nil.append allowed

/-- A run and what follows it are allowed on their own. -/
theorem AllowedAlong.append_iff {σ : Type u} {α : Type v} {step : σ → α → σ}
    {guard : σ → α → Prop} {start : σ} {before after : List α} :
    AllowedAlong step guard start (before ++ after) ↔
      AllowedAlong step guard start before ∧
        AllowedAlong step guard (before.foldl step start) after := by
  induction before generalizing start with
  | nil => exact ⟨fun allowed => ⟨trivial, allowed⟩, And.right⟩
  | cons action before induction =>
      rw [List.cons_append, List.foldl_cons]
      exact (and_congr_right fun _ => induction).trans and_assoc.symm

/-- An invariant that each allowed step keeps where it stands in the run holds at the end. -/
theorem AllowedAlong.invariant_at {σ : Type u} {α : Type v} {step : σ → α → σ}
    {guard : σ → α → Prop} {Invariant : σ → Prop} {start : σ} {actions : List α}
    (allowed : AllowedAlong step guard start actions) (initial : Invariant start)
    (preserved : ∀ before action after, actions = before ++ action :: after →
      Invariant (before.foldl step start) → guard (before.foldl step start) action →
      Invariant (step (before.foldl step start) action)) :
    Invariant (actions.foldl step start) := by
  induction actions generalizing start with
  | nil => exact initial
  | cons action actions induction =>
      apply induction allowed.2 (preserved [] action actions rfl initial allowed.1)
      intro before next after split
      exact preserved (action :: before) next after (congrArg (List.cons action) split)

theorem AllowedAlong.congr {σ : Type u} {α : Type v} {step : σ → α → σ}
    {guard other : σ → α → Prop} (agree : ∀ state action, guard state action ↔ other state action)
    (start : σ) (actions : List α) :
    AllowedAlong step guard start actions ↔ AllowedAlong step other start actions := by
  induction actions generalizing start with
  | nil => exact Iff.rfl
  | cons action actions induction =>
      exact and_congr (agree start action) (induction (step start action))

/-- A family of guards is met at once exactly when each of them is. -/
theorem AllowedAlong.forall_iff {σ ι : Type u} {α : Type v} {step : σ → α → σ}
    {guards : ι → σ → α → Prop} {start : σ} {actions : List α} :
    AllowedAlong step (fun state action => ∀ index, guards index state action) start actions ↔
      ∀ index, AllowedAlong step (guards index) start actions := by
  induction actions generalizing start with
  | nil => exact iff_of_true trivial fun _ => trivial
  | cons action actions induction =>
      constructor
      · rintro ⟨first, rest⟩ index
        exact ⟨first index, induction.mp rest index⟩
      · intro all
        exact ⟨fun index => (all index).1, induction.mpr fun index => (all index).2⟩

/-- A run never goes down exactly when none of its steps does. -/
theorem AllowedAlong.iff_ordered {σ : Type u} {α : Type v} {step : σ → α → σ}
    (above : σ → σ → Prop) (refl : ∀ state, above state state)
    (trans : ∀ {first second third}, above first second → above second third →
      above first third) (start : σ) (actions : List α) :
    AllowedAlong step (fun state action => above (step state action) state) start actions ↔
      ∀ before middle after, actions = before ++ middle ++ after →
        above ((before ++ middle).foldl step start) (before.foldl step start) := by
  induction actions generalizing start with
  | nil =>
      constructor
      · intro _ before middle after split
        obtain ⟨same, rfl⟩ := List.append_eq_nil_iff.mp split.symm
        obtain ⟨rfl, rfl⟩ := List.append_eq_nil_iff.mp same
        exact refl start
      · intro _
        trivial
  | cons action actions induction =>
      constructor
      · rintro ⟨first, rest⟩ before middle after split
        have ordered := (induction (step start action)).mp rest
        cases before with
        | nil =>
            cases middle with
            | nil => exact refl start
            | cons head middle =>
                obtain ⟨rfl, remaining⟩ := List.cons.inj split
                exact trans (ordered [] middle after remaining) first
        | cons head before =>
            obtain ⟨rfl, remaining⟩ := List.cons.inj split
            exact ordered before middle after remaining
      · intro ordered
        refine ⟨ordered [] [action] actions rfl, (induction (step start action)).mpr ?_⟩
        intro before middle after split
        exact ordered (action :: before) middle after (congrArg (List.cons action) split)

theorem AllowedAlong.iff_throughout {σ : Type u} {α : Type v} {step : σ → α → σ}
    {guard : σ → α → Prop} {Invariant Property : σ → Prop}
    (implied : ∀ state, Invariant state → Property state)
    (preserved : ∀ state action, Invariant state → guard state action →
      Invariant (step state action))
    (necessary : ∀ state action, Invariant state → Property (step state action) →
      guard state action)
    {start : σ} (initial : Invariant start) (actions : List α) :
    AllowedAlong step guard start actions ↔
      ∀ before after, actions = before ++ after → Property (before.foldl step start) := by
  induction actions generalizing start with
  | nil =>
      refine iff_of_true trivial ?_
      intro before after split
      obtain ⟨rfl, rfl⟩ := List.append_eq_nil_iff.mp split.symm
      exact implied start initial
  | cons action actions induction =>
      constructor
      · rintro ⟨first, rest⟩ before after split
        cases before with
        | nil => exact implied start initial
        | cons head before =>
            obtain ⟨rfl, remaining⟩ := List.cons.inj split
            exact (induction (preserved start action initial first)).mp rest before after
              remaining
      · intro throughout
        have first : guard start action :=
          necessary start action initial (throughout [action] actions rfl)
        refine ⟨first, (induction (preserved start action initial first)).mpr ?_⟩
        intro before after split
        exact throughout (action :: before) after (congrArg (List.cons action) split)

/-- Both fail with the same error, or both succeed with related results. -/
def Agree {ε : Type u} {α β : Type v} (related : α → β → Prop) :
    Except ε α → Except ε β → Prop
  | .ok left, .ok right => related left right
  | .error left, .error right => left = right
  | _, _ => False

namespace Agree

variable {ε : Type u} {α β γ δ : Type v}
variable {related : α → β → Prop} {next : γ → δ → Prop}

/-- Two agreeing computations end in the same way. -/
theorem outcomes {first : Except ε α} {second : Except ε β}
    (agree : Agree related first second) :
    (∃ error, first = .error error ∧ second = .error error) ∨
      ∃ left right, first = .ok left ∧ second = .ok right ∧ related left right := by
  cases first with
  | error left =>
      cases second with
      | error right =>
          cases agree
          exact .inl ⟨left, rfl, rfl⟩
      | ok right => exact agree.elim
  | ok left =>
      cases second with
      | error right => exact agree.elim
      | ok right => exact .inr ⟨left, right, rfl, rfl, agree⟩

/-- Agreeing parts make agreeing sequences. -/
theorem bind {first : Except ε α} {second : Except ε β}
    {then₁ : α → Except ε γ} {then₂ : β → Except ε δ}
    (agree : Agree related first second)
    (continued : ∀ left right, related left right → Agree next (then₁ left) (then₂ right)) :
    Agree next (first >>= then₁) (second >>= then₂) := by
  rcases agree.outcomes with ⟨error, rfl, rfl⟩ | ⟨left, right, rfl, rfl, holds⟩
  · exact rfl
  · exact continued left right holds

/-- The same computation before two agreeing ones. -/
theorem bind_same {α : Type v} (first : Except ε α)
    {then₁ : α → Except ε γ} {then₂ : α → Except ε δ}
    (continued : ∀ value, Agree next (then₁ value) (then₂ value)) :
    Agree next (first >>= then₁) (first >>= then₂) := by
  cases first with
  | error error => exact rfl
  | ok value => exact continued value

end Agree

/-- Elements that stand in the relation to everything may be left out of a
pairwise check. -/
theorem pairwise_filter_iff {α : Type u} {relation : α → α → Prop} {keep : α → Bool}
    {items : List α}
    (harmless : ∀ item ∈ items, keep item = false →
      ∀ other, relation item other ∧ relation other item) :
    (items.filter keep).Pairwise relation ↔ items.Pairwise relation := by
  induction items with
  | nil => simp
  | cons item items ih =>
      have rest := ih fun other member => harmless other (List.mem_cons_of_mem _ member)
      cases kept : keep item with
      | false =>
          have every := harmless item List.mem_cons_self kept
          rw [List.filter_cons_of_neg (by simp [kept]), rest, List.pairwise_cons]
          exact ⟨fun pairs => ⟨fun other _ => (every other).1, pairs⟩, fun pairs => pairs.2⟩
      | true =>
          rw [List.filter_cons_of_pos kept, List.pairwise_cons, List.pairwise_cons, rest]
          refine and_congr_left fun _ => ⟨fun related other member => ?_,
            fun related other member => related other (List.mem_filter.mp member).1⟩
          cases keptOther : keep other with
          | false => exact (harmless other (List.mem_cons_of_mem _ member) keptOther item).2
          | true => exact related other (List.mem_filter.mpr ⟨member, keptOther⟩)

end OpenZync.Library
