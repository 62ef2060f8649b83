import Mathlib.Logic.Function.Basic
import Mathlib.Order.Basic
import OpenZync.Library.Attempts

/-!
# Loops that collect, with and without a savepoint

A loop does one operation for each item and collects what they return.  Without
a savepoint a failure leaves what the operations before it did; with one it
leaves nothing.  Where the state is a function of a key and each operation
changes one key, the loop changes every key by the operations on it alone.
-/

namespace OpenZync.Library

namespace Attempt

variable {σ ε α ι ν : Type}

/-- A savepoint around a computation: a failure undoes what it did. -/
def savepoint (attempt : Attempt σ ε α) : Attempt σ ε α :=
  fun state =>
    match attempt state with
    | (_, .error failure) => (state, .error failure)
    | (after, .ok value) => (after, .ok value)

/-- `results.append(step(item))` -/
def append (step : ι → Attempt σ ε α) (results : List α) (item : ι) :
    Attempt σ ε (List α) := do
  let value ← step item
  pure (results ++ [value])

/-- `for item in items: results.append(step(item))` -/
def collect (step : ι → Attempt σ ε α) (items : List ι) : Attempt σ ε (List α) :=
  fold (append step) [] items

theorem savepoint_of_ok {attempt : Attempt σ ε α} {state after : σ} {value : α}
    (ran : attempt state = (after, .ok value)) :
    savepoint attempt state = (after, .ok value) := by
  rw [savepoint, ran]

theorem savepoint_of_error {attempt : Attempt σ ε α} {state after : σ} {failure : ε}
    (ran : attempt state = (after, .error failure)) :
    savepoint attempt state = (state, .error failure) := by
  rw [savepoint, ran]

/-- Whatever the state, the operation on the item returns a value that describes
the item and has the effect. -/
def Succeeds (describes : ι → α → Prop) (effect : σ → ι → σ) (step : ι → Attempt σ ε α)
    (item : ι) : Prop :=
  ∀ state, ∃ value, describes item value ∧ step item state = (effect state item, .ok value)

section Collect

variable {describes : ι → α → Prop} {effect : σ → ι → σ} {step : ι → Attempt σ ε α}

private theorem fold_of_succeeds {done : List ι}
    (succeed : ∀ item ∈ done, Succeeds describes effect step item) (rest : List ι)
    (results : List α) (state : σ) :
    ∃ values, List.Forall₂ describes done values ∧
      fold (append step) results (done ++ rest) state =
        fold (append step) (results ++ values) rest (done.foldl effect state) := by
  induction done generalizing results state with
  | nil => exact ⟨[], .nil, by simp⟩
  | cons item done induction =>
      obtain ⟨value, described, ran⟩ := succeed item (by simp) state
      obtain ⟨values, all, folded⟩ := induction
        (fun other member => succeed other (List.mem_cons_of_mem _ member))
        (results ++ [value]) (effect state item)
      have appended : append step results item state =
          (effect state item, .ok (results ++ [value])) := bind_of_ok ran
      refine ⟨value :: values, .cons described all, ?_⟩
      rw [List.cons_append, fold, bind_of_ok appended, folded]
      simp

theorem collect_of_succeeds {items : List ι}
    (succeed : ∀ item ∈ items, Succeeds describes effect step item) (state : σ) :
    ∃ values, List.Forall₂ describes items values ∧
      collect step items state = (items.foldl effect state, .ok values) := by
  obtain ⟨values, all, folded⟩ := fold_of_succeeds succeed [] [] state
  rw [List.append_nil] at folded
  exact ⟨values, all, folded⟩

/-- The first operation that fails ends the loop; what came before it stays. -/
theorem collect_of_fails {done : List ι} (rest : List ι) {item : ι} {last : σ → σ} {failure : ε}
    (succeed : ∀ item ∈ done, Succeeds describes effect step item)
    (fails : ∀ state, step item state = (last state, .error failure)) (state : σ) :
    collect step (done ++ item :: rest) state =
      (last (done.foldl effect state), .error failure) := by
  obtain ⟨values, _, folded⟩ := fold_of_succeeds succeed (item :: rest) [] state
  rw [collect, folded, fold]
  exact bind_of_error (bind_of_error (fails _))

end Collect

/-- The bulk operation fails and changes nothing that shows, or it returns a
value for each item and shows what the single operations leave. -/
def AtomicFold (view : σ → ν) (describes : ι → α → Prop) (bulk : Attempt σ ε (List α))
    (single : ι → Attempt σ ε α) (items : List ι) (state : σ) : Prop :=
  match bulk state with
  | (after, .error _) => view after = view state
  | (after, .ok returned) =>
      List.Forall₂ describes items returned ∧
        ∃ last values, collect single items state = (last, .ok values) ∧ view after = view last

theorem atomicFold_of_error {view : σ → ν} {describes : ι → α → Prop}
    {bulk : Attempt σ ε (List α)} {single : ι → Attempt σ ε α} {items : List ι}
    {state after : σ} {failure : ε} (ran : bulk state = (after, .error failure)) :
    AtomicFold view describes bulk single items state ↔ view after = view state := by
  rw [AtomicFold, ran]

/-- Where both ways return, they have to show the same. -/
theorem atomicFold_of_ok {view : σ → ν} {describes : ι → α → Prop}
    {bulk : Attempt σ ε (List α)} {single : ι → Attempt σ ε α} {items : List ι}
    {state after last : σ} {returned values : List α} (ran : bulk state = (after, .ok returned))
    (described : List.Forall₂ describes items returned)
    (folded : collect single items state = (last, .ok values)) :
    AtomicFold view describes bulk single items state ↔ view after = view last := by
  rw [AtomicFold, ran]
  constructor
  · rintro ⟨_, other, others, folded', same⟩
    rw [folded] at folded'
    cases folded'
    exact same
  · intro same
    exact ⟨described, last, values, folded, same⟩

end Attempt

section KeyedFolds

variable {κ ν ι : Type} [DecidableEq κ]

/-- The items on one key. -/
def itemsAt (key : κ) (entries : List (κ × ι)) : List ι :=
  (entries.filter fun entry => entry.1 = key).map Prod.snd

/-- A change of the value at the key of an entry. -/
def updateAt (change : ν → ι → ν) (state : κ → ν) (entry : κ × ι) : κ → ν :=
  Function.update state entry.1 (change (state entry.1) entry.2)

/-- Each key sees the changes made at it, in their order. -/
theorem foldl_updateAt (change : ν → ι → ν) (entries : List (κ × ι)) (state : κ → ν)
    (key : κ) :
    entries.foldl (updateAt change) state key =
      (itemsAt key entries).foldl change (state key) := by
  induction entries generalizing state with
  | nil => rfl
  | cons entry entries induction =>
      rw [List.foldl_cons, induction]
      by_cases same : entry.1 = key
      · simp [itemsAt, updateAt, same]
      · simp [itemsAt, updateAt, same, Function.update_of_ne (Ne.symm same)]

end KeyedFolds

section Standstill

variable {ν ι : Type}

/-- Changes that only go up in an order come back to where they began only by
staying there. -/
theorem foldl_eq_self_iff {R : ν → ν → Prop} (refl : ∀ value, R value value)
    (trans : ∀ {first second third}, R first second → R second third → R first third)
    (antisymm : ∀ {first second}, R first second → R second first → first = second)
    {change : ν → ι → ν} (upward : ∀ value item, R value (change value item))
    (items : List ι) (value : ν) :
    items.foldl change value = value ↔ ∀ item ∈ items, change value item = value := by
  have rises : ∀ (items : List ι) (value : ν), R value (items.foldl change value) := by
    intro items
    induction items with
    | nil => exact refl
    | cons item items induction =>
        exact fun value => trans (upward value item) (induction (change value item))
  induction items with
  | nil => simp
  | cons item items induction =>
      rw [List.foldl_cons, List.forall_mem_cons]
      constructor
      · intro back
        have falls := rises items (change value item)
        rw [back] at falls
        have stays : change value item = value := antisymm falls (upward value item)
        rw [stays] at back
        exact ⟨stays, induction.mp back⟩
      · rintro ⟨stays, others⟩
        rw [stays]
        exact induction.mpr others

theorem foldl_overwrite (given : ι → Option ν) (items : List ι) (value : ν) :
    items.foldl (fun value item => (given item).getD value) value =
      (items.filterMap given).getLast?.getD value := by
  induction items generalizing value with
  | nil => rfl
  | cons item items induction =>
      rw [List.foldl_cons, induction, List.filterMap_cons]
      cases given item with
      | none => rfl
      | some next => simp [List.getLast?_cons]

theorem getLast?_getD_eq_iff {values : List ν} {value : ν} :
    values.getLast?.getD value = value ↔ ∀ last ∈ values.getLast?, last = value := by
  cases values.getLast? <;> simp

end Standstill

theorem forall_or_first {ι : Type} {P : ι → Prop} (items : List ι) :
    (∀ item ∈ items, P item) ∨
      ∃ done item rest, items = done ++ item :: rest ∧ (∀ other ∈ done, P other) ∧ ¬ P item := by
  induction items with
  | nil => exact .inl (by simp)
  | cons item items induction =>
      by_cases holds : P item
      · rcases induction with all | ⟨done, first, rest, rfl, before, fails⟩
        · exact .inl (List.forall_mem_cons.mpr ⟨holds, all⟩)
        · exact .inr ⟨item :: done, first, rest, rfl,
            List.forall_mem_cons.mpr ⟨holds, before⟩, fails⟩
      · exact .inr ⟨[], item, items, rfl, by simp, holds⟩

end OpenZync.Library
