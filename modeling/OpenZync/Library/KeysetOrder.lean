import Mathlib.Data.List.Sort
import OpenZync.Library.KeysetPaging

/-!
# Ordering by a column and an identifier

Rows ordered by a column that may be NULL, a NULL sorting as the largest value,
and by their identifiers where the column ties.  The cursor of a row selects
what compares beyond its value, with an identifier comparison of its own; a
NULL compares with nothing.
-/

namespace OpenZync.Library

/-- The direction of an `ORDER BY` term. -/
inductive Direction where
  | asc
  | desc
  deriving DecidableEq

/-- The order in which a database sorts the values of a type. -/
structure SqlOrder (α : Type) where
  le : α → α → Bool
  total : ∀ first second, le first second = true ∨ le second first = true
  trans : ∀ first second third, le first second = true → le second third = true →
    le first third = true

namespace SqlOrder

variable {α : Type} (order : SqlOrder α)

/-- Equal to the database. -/
def eqv (first second : α) : Bool :=
  order.le first second && order.le second first

/-- One value comes before another in a direction. -/
def ahead : Direction → α → α → Bool
  | .asc, first, second => !order.le second first
  | .desc, first, second => !order.le first second

variable {order} {direction : Direction} {first second third : α}

theorem ahead_irrefl (value : α) : order.ahead direction value value = false := by
  have reflexive : order.le value value = true := by
    rcases order.total value value with le | le
    · exact le
    · exact le
  cases direction with
  | asc => simp [ahead, reflexive]
  | desc => simp [ahead, reflexive]

theorem ahead_trans (left : order.ahead direction first second = true)
    (right : order.ahead direction second third = true) :
    order.ahead direction first third = true := by
  cases direction with
  | asc =>
      simp only [ahead, Bool.not_eq_true'] at left right ⊢
      have le := (order.total second third).resolve_right (by simp [right])
      rw [← Bool.not_eq_true] at left ⊢
      exact fun back => left (order.trans _ _ _ le back)
  | desc =>
      simp only [ahead, Bool.not_eq_true'] at left right ⊢
      have le := (order.total third second).resolve_right (by simp [right])
      rw [← Bool.not_eq_true] at left ⊢
      exact fun back => left (order.trans _ _ _ back le)

theorem eqv_symm (same : order.eqv first second = true) : order.eqv second first = true := by
  rw [eqv, Bool.and_eq_true] at same ⊢
  exact ⟨same.2, same.1⟩

theorem eqv_trans (left : order.eqv first second = true) (right : order.eqv second third = true) :
    order.eqv first third = true := by
  rw [eqv, Bool.and_eq_true] at left right ⊢
  exact ⟨order.trans _ _ _ left.1 right.1, order.trans _ _ _ right.2 left.2⟩

theorem ahead_of_eqv (left : order.eqv first second = true)
    (right : order.ahead direction second third = true) :
    order.ahead direction first third = true := by
  rw [eqv, Bool.and_eq_true] at left
  cases direction with
  | asc =>
      simp only [ahead, Bool.not_eq_true', ← Bool.not_eq_true] at right ⊢
      exact fun back => right (order.trans _ _ _ back left.1)
  | desc =>
      simp only [ahead, Bool.not_eq_true', ← Bool.not_eq_true] at right ⊢
      exact fun back => right (order.trans _ _ _ left.2 back)

theorem ahead_of_ahead_eqv (left : order.ahead direction first second = true)
    (right : order.eqv second third = true) : order.ahead direction first third = true := by
  rw [eqv, Bool.and_eq_true] at right
  cases direction with
  | asc =>
      simp only [ahead, Bool.not_eq_true', ← Bool.not_eq_true] at left ⊢
      exact fun back => left (order.trans _ _ _ right.1 back)
  | desc =>
      simp only [ahead, Bool.not_eq_true', ← Bool.not_eq_true] at left ⊢
      exact fun back => left (order.trans _ _ _ back right.2)

theorem not_eqv_of_ahead (left : order.ahead direction first second = true) :
    order.eqv first second = false := by
  rw [← Bool.not_eq_true]
  intro same
  have self := ahead_of_ahead_eqv left (eqv_symm same)
  rw [ahead_irrefl] at self
  cases self

theorem ahead_asymm (left : order.ahead direction first second = true) :
    order.ahead direction second first = false := by
  rw [← Bool.not_eq_true]
  intro right
  have self := ahead_trans left right
  rw [ahead_irrefl] at self
  cases self

theorem ahead_opposite {other : Direction} (different : direction ≠ other) (first second : α) :
    order.ahead other first second = order.ahead direction second first := by
  cases direction with
  | asc =>
      cases other with
      | asc => exact absurd rfl different
      | desc => rfl
  | desc =>
      cases other with
      | asc => rfl
      | desc => exact absurd rfl different

/-- Two values are equal to the database or one of them comes first. -/
theorem trichotomy (order : SqlOrder α) (direction : Direction) (first second : α) :
    order.ahead direction first second = true ∨ order.eqv first second = true ∨
      order.ahead direction second first = true := by
  by_cases left : order.le first second = true
  · by_cases right : order.le second first = true
    · exact Or.inr (Or.inl (by rw [eqv, left, right]; rfl))
    · rw [Bool.not_eq_true] at right
      cases direction with
      | asc => exact Or.inl (by rw [ahead, right]; rfl)
      | desc => exact Or.inr (Or.inr (by rw [ahead, right]; rfl))
  · rw [Bool.not_eq_true] at left
    cases direction with
    | asc => exact Or.inr (Or.inr (by rw [ahead, left]; rfl))
    | desc => exact Or.inl (by rw [ahead, left]; rfl)

end SqlOrder

/-- The order of identifiers. -/
def SqlOrder.nat : SqlOrder Nat :=
  { le := fun first second => decide (first ≤ second)
    total := by
      intro first second
      simp only [decide_eq_true_eq]
      exact Nat.le_total first second
    trans := by
      intro first second third left right
      simp only [decide_eq_true_eq] at left right ⊢
      exact Nat.le_trans left right }

theorem SqlOrder.eqv_nat {first second : Nat} :
    SqlOrder.nat.eqv first second = true ↔ first = second := by
  simp only [eqv, nat, Bool.and_eq_true, decide_eq_true_eq]
  exact ⟨fun both => Nat.le_antisymm both.1 both.2, fun same => by simp [same]⟩

theorem SqlOrder.not_ahead_nat {direction : Direction} {first second : Nat} :
    SqlOrder.nat.ahead direction second first = false ↔
      SqlOrder.nat.ahead direction first second = true ∨ first = second := by
  constructor
  · intro behind
    rcases nat.trichotomy direction first second with ahead | same | ahead
    · exact Or.inl ahead
    · exact Or.inr (eqv_nat.mp same)
    · rw [behind] at ahead
      cases ahead
  · rintro (ahead | rfl)
    · exact ahead_asymm ahead
    · exact ahead_irrefl first

/-- A listing's column with its direction, the direction of the identifiers in
`ORDER BY` and the one in the comparison with a cursor. -/
structure Keyset (ρ : Type) where
  Value : Type
  order : SqlOrder Value
  value : ρ → Option Value
  id : ρ → Nat
  direction : Direction
  tieOrder : Direction
  tieCompare : Direction

namespace Keyset

variable {ρ : Type} (keyset : Keyset ρ)

/-- One value, or NULL, is sorted before another. -/
def valueAhead : Option keyset.Value → Option keyset.Value → Bool
  | none, none => false
  | some _, none => keyset.direction = .asc
  | none, some _ => keyset.direction = .desc
  | some first, some second => keyset.order.ahead keyset.direction first second

/-- `ORDER BY` does not tell two values, or NULLs, apart. -/
def tied : Option keyset.Value → Option keyset.Value → Bool
  | none, none => true
  | some first, some second => keyset.order.eqv first second
  | _, _ => false

/-- `ORDER BY column, id` -/
def precedes (first second : ρ) : Bool :=
  keyset.valueAhead (keyset.value first) (keyset.value second) ||
    keyset.tied (keyset.value first) (keyset.value second) &&
      !SqlOrder.nat.ahead keyset.tieOrder (keyset.id second) (keyset.id first)

/-- The rows a cursor's value and identifier select. -/
def passes (value : keyset.Value) (id : Nat) (row : ρ) : Bool :=
  match keyset.value row with
  | none => false
  | some other =>
      keyset.order.ahead keyset.direction value other ||
        keyset.order.eqv value other && SqlOrder.nat.ahead keyset.tieCompare id (keyset.id row)

/-- The rows that the cursor of a row selects; a NULL is written as another
value. -/
def selects (nullValue : keyset.Value) (row other : ρ) : Bool :=
  keyset.passes ((keyset.value row).getD nullValue) (keyset.id row) other

/-- The rows in the order of the listing. -/
def sorted (rows : List ρ) : List ρ :=
  rows.insertionSort fun first second => keyset.precedes first second = true

section Order

variable {keyset} {first second third : Option keyset.Value}

theorem valueAhead_trans (left : keyset.valueAhead first second = true)
    (right : keyset.valueAhead second third = true) :
    keyset.valueAhead first third = true := by
  cases first with
  | none =>
      cases second with
      | none => cases left
      | some second =>
          cases third with
          | none =>
              simp only [valueAhead, decide_eq_true_eq] at left right
              rw [left] at right
              cases right
          | some third => exact left
  | some first =>
      cases second with
      | none =>
          cases third with
          | none => cases right
          | some third =>
              simp only [valueAhead, decide_eq_true_eq] at left right
              rw [left] at right
              cases right
      | some second =>
          cases third with
          | none => exact right
          | some third => exact SqlOrder.ahead_trans left right

theorem valueAhead_of_tied (left : keyset.tied first second = true)
    (right : keyset.valueAhead second third = true) :
    keyset.valueAhead first third = true := by
  cases first with
  | none =>
      cases second with
      | none => exact right
      | some second => cases left
  | some first =>
      cases second with
      | none => cases left
      | some second =>
          cases third with
          | none => exact right
          | some third => exact SqlOrder.ahead_of_eqv left right

theorem valueAhead_of_ahead_tied (left : keyset.valueAhead first second = true)
    (right : keyset.tied second third = true) : keyset.valueAhead first third = true := by
  cases second with
  | none =>
      cases third with
      | none => exact left
      | some third => cases right
  | some second =>
      cases third with
      | none => cases right
      | some third =>
          cases first with
          | none => exact left
          | some first => exact SqlOrder.ahead_of_ahead_eqv left right

theorem tied_symm (same : keyset.tied first second = true) :
    keyset.tied second first = true := by
  cases first with
  | none =>
      cases second with
      | none => rfl
      | some second => cases same
  | some first =>
      cases second with
      | none => cases same
      | some second => exact SqlOrder.eqv_symm same

theorem tied_trans (left : keyset.tied first second = true)
    (right : keyset.tied second third = true) : keyset.tied first third = true := by
  cases first with
  | none =>
      cases second with
      | none => exact right
      | some second => cases left
  | some first =>
      cases second with
      | none => cases left
      | some second =>
          cases third with
          | none => cases right
          | some third => exact SqlOrder.eqv_trans left right

theorem value_trichotomy (first second : Option keyset.Value) :
    keyset.valueAhead first second = true ∨ keyset.tied first second = true ∨
      keyset.valueAhead second first = true := by
  cases first with
  | none =>
      cases second with
      | none => exact Or.inr (Or.inl rfl)
      | some second =>
          simp only [valueAhead, decide_eq_true_eq]
          cases keyset.direction with
          | asc => exact Or.inr (Or.inr rfl)
          | desc => exact Or.inl rfl
  | some first =>
      cases second with
      | none =>
          simp only [valueAhead, decide_eq_true_eq]
          cases keyset.direction with
          | asc => exact Or.inl rfl
          | desc => exact Or.inr (Or.inr rfl)
      | some second => exact keyset.order.trichotomy keyset.direction first second

theorem valueAhead_irrefl (value : Option keyset.Value) :
    keyset.valueAhead value value = false := by
  cases value with
  | none => rfl
  | some value => exact SqlOrder.ahead_irrefl value

theorem valueAhead_asymm (ahead : keyset.valueAhead first second = true) :
    keyset.valueAhead second first = false := by
  rw [← Bool.not_eq_true]
  intro back
  have self := valueAhead_trans ahead back
  rw [valueAhead_irrefl] at self
  cases self

theorem not_tied_of_ahead (ahead : keyset.valueAhead first second = true) :
    keyset.tied first second = false := by
  rw [← Bool.not_eq_true]
  intro same
  have self := valueAhead_of_ahead_tied ahead (tied_symm same)
  rw [valueAhead_irrefl] at self
  cases self

end Order

section Rows

variable {keyset} {first second third : ρ}

theorem precedes_iff : keyset.precedes first second = true ↔
    keyset.valueAhead (keyset.value first) (keyset.value second) = true ∨
      keyset.tied (keyset.value first) (keyset.value second) = true ∧
        (SqlOrder.nat.ahead keyset.tieOrder (keyset.id first) (keyset.id second) = true ∨
          keyset.id first = keyset.id second) := by
  rw [precedes, Bool.or_eq_true, Bool.and_eq_true, Bool.not_eq_true', SqlOrder.not_ahead_nat]

theorem precedes_total (first second : ρ) :
    keyset.precedes first second = true ∨ keyset.precedes second first = true := by
  rw [precedes_iff, precedes_iff]
  rcases value_trichotomy (keyset.value first) (keyset.value second) with ahead | same | ahead
  · exact Or.inl (Or.inl ahead)
  · rcases SqlOrder.nat.trichotomy keyset.tieOrder (keyset.id first)
        (keyset.id second) with early | equal | late
    · exact Or.inl (Or.inr ⟨same, Or.inl early⟩)
    · exact Or.inl (Or.inr ⟨same, Or.inr (SqlOrder.eqv_nat.mp equal)⟩)
    · exact Or.inr (Or.inr ⟨tied_symm same, Or.inl late⟩)
  · exact Or.inr (Or.inl ahead)

theorem precedes_trans (left : keyset.precedes first second = true)
    (right : keyset.precedes second third = true) : keyset.precedes first third = true := by
  rw [precedes_iff] at left right ⊢
  rcases left with ahead | ⟨same, ids⟩
  · rcases right with ahead' | ⟨same', _⟩
    · exact Or.inl (valueAhead_trans ahead ahead')
    · exact Or.inl (valueAhead_of_ahead_tied ahead same')
  · rcases right with ahead' | ⟨same', ids'⟩
    · exact Or.inl (valueAhead_of_tied same ahead')
    · refine Or.inr ⟨tied_trans same same', ?_⟩
      rcases ids with early | equal
      · rcases ids' with early' | equal'
        · exact Or.inl (SqlOrder.ahead_trans early early')
        · exact Or.inl (equal' ▸ early)
      · rw [equal]
        exact ids'

/-- Rows that precede each other have one identifier. -/
theorem id_eq_of_precedes (left : keyset.precedes first second = true)
    (right : keyset.precedes second first = true) : keyset.id first = keyset.id second := by
  rw [precedes_iff] at left right
  rcases left with ahead | ⟨same, early | equal⟩
  · rcases right with ahead' | ⟨same', _⟩
    · rw [valueAhead_asymm ahead] at ahead'
      cases ahead'
    · have apart := tied_symm same'
      rw [not_tied_of_ahead ahead] at apart
      cases apart
  · rcases right with ahead' | ⟨_, late | equal⟩
    · have apart := tied_symm same
      rw [not_tied_of_ahead ahead'] at apart
      cases apart
    · rw [SqlOrder.ahead_asymm early] at late
      cases late
    · exact equal.symm
  · exact equal

theorem mem_sorted {rows : List ρ} {row : ρ} : row ∈ keyset.sorted rows ↔ row ∈ rows :=
  List.mem_insertionSort _

theorem pairwise_sorted (rows : List ρ) :
    (keyset.sorted rows).Pairwise fun first second => keyset.precedes first second = true := by
  have total : Std.Total fun first second => keyset.precedes first second = true :=
    ⟨precedes_total⟩
  have trans : IsTrans ρ fun first second => keyset.precedes first second = true :=
    ⟨fun _ _ _ => precedes_trans⟩
  exact List.pairwise_insertionSort _ rows

/-- The rows of a table: no two have one identifier. -/
def Distinct (keyset : Keyset ρ) (rows : List ρ) : Prop :=
  (rows.map keyset.id).Nodup

theorem Distinct.nodup {rows : List ρ} (distinct : keyset.Distinct rows) : rows.Nodup :=
  List.Nodup.of_map _ distinct

theorem Distinct.eq {rows : List ρ} (distinct : keyset.Distinct rows) (left : first ∈ rows)
    (right : second ∈ rows) (same : keyset.id first = keyset.id second) : first = second :=
  List.inj_on_of_nodup_map distinct left right same

theorem Distinct.sorted {rows : List ρ} (distinct : keyset.Distinct rows) :
    keyset.Distinct (keyset.sorted rows) :=
  (((List.perm_insertionSort _ rows).map keyset.id).nodup_iff).mpr distinct

theorem Distinct.sorted_filter {rows : List ρ} (distinct : keyset.Distinct rows)
    (p : ρ → Bool) : keyset.sorted (rows.filter p) = (keyset.sorted rows).filter p := by
  refine List.Perm.eq_of_pairwise ?_ (pairwise_sorted _) ((pairwise_sorted rows).filter p) ?_
  · intro first second left right before after
    exact distinct.eq (List.mem_of_mem_filter (mem_sorted.mp left))
      (mem_sorted.mp (List.mem_of_mem_filter right)) (id_eq_of_precedes before after)
  · exact (List.perm_insertionSort _ _).trans ((List.perm_insertionSort _ rows).filter p).symm

theorem selects_trans {nullValue : keyset.Value}
    (left : keyset.selects nullValue first second = true)
    (right : keyset.selects nullValue second third = true) :
    keyset.selects nullValue first third = true := by
  rw [selects, passes] at left right ⊢
  cases held : keyset.value second with
  | none => rw [held] at left; cases left
  | some value =>
      rw [held] at left right
      cases held' : keyset.value third with
      | none => rw [held'] at right; cases right
      | some value' =>
          rw [held'] at right
          simp only [Bool.or_eq_true, Bool.and_eq_true, Option.getD_some] at left right ⊢
          rcases left with ahead | ⟨same, early⟩
          · rcases right with ahead' | ⟨same', _⟩
            · exact Or.inl (SqlOrder.ahead_trans ahead ahead')
            · exact Or.inl (SqlOrder.ahead_of_ahead_eqv ahead same')
          · rcases right with ahead' | ⟨same', early'⟩
            · exact Or.inl (SqlOrder.ahead_of_eqv same ahead')
            · exact Or.inr ⟨SqlOrder.eqv_trans same same', SqlOrder.ahead_trans early early'⟩

end Rows

/-- What makes the cursor of a row separate: after a row with a value no NULL
follows, and where the identifiers are compared against their order nothing
ties with it; a row without a value happens to be written as a value that
separates. -/
def SafeEnd (nullValue : keyset.Value) (before : List ρ) (row : ρ) (after : List ρ) : Prop :=
  match keyset.value row with
  | some _ =>
      (∀ other ∈ after, keyset.value other ≠ none) ∧
        (keyset.tieOrder = keyset.tieCompare ∨ ∀ other ∈ before ++ after,
          keyset.tied (keyset.value row) (keyset.value other) = false)
  | none =>
      (∀ other ∈ before, keyset.passes nullValue (keyset.id row) other = false) ∧
        ∀ other ∈ after, keyset.passes nullValue (keyset.id row) other = true

section Ends

variable {keyset} {nullValue : keyset.Value} {before after : List ρ} {row : ρ}

theorem selects_self (row : ρ) : keyset.selects nullValue row row = false := by
  rw [selects, passes]
  cases keyset.value row with
  | none => rfl
  | some value =>
      simp only [Option.getD_some, SqlOrder.ahead_irrefl, Bool.and_false, Bool.or_false]

/-- The rows that a cursor selects are those after its row exactly when it
selects each of these and none before. -/
theorem filter_selects_iff (nodup : (before ++ row :: after).Nodup) :
    (before ++ row :: after).filter (keyset.selects nullValue row) = after ↔
      (∀ other ∈ before, keyset.selects nullValue row other = false) ∧
        ∀ other ∈ after, keyset.selects nullValue row other = true := by
  rw [filter_eq_after_iff nodup]
  apply and_congr_left
  intro _
  simp only [List.forall_mem_append, List.forall_mem_singleton, selects_self, and_true]

/-- A row that is not sorted before a value passes, unless it is NULL or ties and
its identifier does not compare beyond. -/
theorem passes_iff_of_order {value : keyset.Value} {id : Nat} {other : ρ}
    (order : keyset.valueAhead (some value) (keyset.value other) = true ∨
      keyset.tied (some value) (keyset.value other) = true) :
    keyset.passes value id other = true ↔ keyset.value other ≠ none ∧
      (keyset.tied (some value) (keyset.value other) = true →
        SqlOrder.nat.ahead keyset.tieCompare id (keyset.id other) = true) := by
  rw [passes]
  cases held : keyset.value other with
  | none => simp
  | some value' =>
      rw [held] at order
      simp only [Bool.or_eq_true, Bool.and_eq_true, ne_eq, reduceCtorEq, not_false_eq_true,
        true_and]
      rcases order with ahead | same
      · refine iff_of_true (Or.inl ahead) fun same => ?_
        rw [not_tied_of_ahead ahead] at same
        cases same
      · constructor
        · rintro (ahead | ⟨_, beyond⟩) _
          · rw [tied, SqlOrder.not_eqv_of_ahead ahead] at same
            cases same
          · exact beyond
        · intro beyond
          exact Or.inr ⟨same, beyond same⟩

/-- A row that is not sorted after a value passes only where it ties and its
identifier compares beyond. -/
theorem not_passes_iff_of_order {value : keyset.Value} {id : Nat} {other : ρ}
    (order : keyset.valueAhead (keyset.value other) (some value) = true ∨
      keyset.tied (keyset.value other) (some value) = true) :
    keyset.passes value id other = false ↔
      (keyset.tied (some value) (keyset.value other) = true →
        SqlOrder.nat.ahead keyset.tieCompare id (keyset.id other) = false) := by
  rw [passes]
  cases held : keyset.value other with
  | none => exact iff_of_true rfl (by simp [tied])
  | some value' =>
      rw [held] at order
      simp only [Bool.or_eq_false_iff, Bool.and_eq_false_imp]
      have level : keyset.order.ahead keyset.direction value value' = false := by
        rcases order with ahead | same
        · exact valueAhead_asymm ahead
        · rw [← Bool.not_eq_true]
          intro ahead
          have apart := SqlOrder.not_eqv_of_ahead ahead
          rw [← tied, tied_symm same] at apart
          cases apart
      rw [level]
      exact and_iff_right rfl

/-- Rows that tie are sorted by their identifiers. -/
theorem ahead_of_tied {first second : ρ} (order : keyset.precedes first second = true)
    (apart : keyset.id first ≠ keyset.id second)
    (same : keyset.tied (keyset.value first) (keyset.value second) = true) :
    SqlOrder.nat.ahead keyset.tieOrder (keyset.id first) (keyset.id second) = true := by
  rcases precedes_iff.mp order with ahead | ⟨_, early | equal⟩
  · rw [not_tied_of_ahead ahead] at same
    cases same
  · exact early
  · exact absurd equal apart

theorem valueOrder_of_precedes {first second : ρ} (order : keyset.precedes first second = true) :
    keyset.valueAhead (keyset.value first) (keyset.value second) = true ∨
      keyset.tied (keyset.value first) (keyset.value second) = true := by
  exact (precedes_iff.mp order).imp_right And.left

/-- A cursor selects a row after its own, unless that is NULL or ties against
the comparison of the identifiers. -/
theorem selects_of_precedes {other : ρ} (order : keyset.precedes row other = true)
    (apart : keyset.id row ≠ keyset.id other) (held : keyset.value row ≠ none) :
    keyset.selects nullValue row other = true ↔
      keyset.value other ≠ none ∧ (keyset.tieOrder = keyset.tieCompare ∨
        keyset.tied (keyset.value row) (keyset.value other) = false) := by
  obtain ⟨value, held⟩ := Option.ne_none_iff_exists'.mp held
  have early := ahead_of_tied order apart
  have order := valueOrder_of_precedes order
  rw [held] at early order
  rw [selects, held, Option.getD_some, passes_iff_of_order order]
  apply and_congr_right
  intro _
  by_cases agree : keyset.tieOrder = keyset.tieCompare
  · exact iff_of_true (fun same => agree ▸ early same) (Or.inl agree)
  · rw [or_iff_right agree, ← Bool.not_eq_true]
    refine imp_congr_right fun same => ?_
    rw [SqlOrder.ahead_opposite agree, SqlOrder.ahead_asymm (early same)]
    simp

/-- A cursor selects a row before its own only where they tie against the
comparison of the identifiers. -/
theorem selects_of_follows {other : ρ} (order : keyset.precedes other row = true)
    (apart : keyset.id row ≠ keyset.id other) (held : keyset.value row ≠ none) :
    keyset.selects nullValue row other = false ↔
      (keyset.tieOrder = keyset.tieCompare ∨
        keyset.tied (keyset.value row) (keyset.value other) = false) := by
  obtain ⟨value, held⟩ := Option.ne_none_iff_exists'.mp held
  have early := fun same => ahead_of_tied order apart.symm (tied_symm same)
  have order := valueOrder_of_precedes order
  rw [held] at early order
  rw [selects, held, Option.getD_some, not_passes_iff_of_order order]
  by_cases agree : keyset.tieOrder = keyset.tieCompare
  · exact iff_of_true (fun same => agree ▸ SqlOrder.ahead_asymm (early same)) (Or.inl agree)
  · rw [or_iff_right agree, ← Bool.not_eq_true (keyset.tied _ _)]
    refine imp_congr_right fun same => ?_
    rw [SqlOrder.ahead_opposite agree, early same]
    simp

/-- The other rows have other identifiers. -/
theorem Distinct.id_ne (distinct : keyset.Distinct (before ++ row :: after)) :
    ∀ other ∈ before ++ after, keyset.id row ≠ keyset.id other := by
  intro other member same
  have listed : other ∈ before ++ row :: after := by
    rw [List.perm_middle.mem_iff]
    exact List.mem_cons_of_mem row member
  have one := distinct.eq (List.mem_append_right _ List.mem_cons_self) listed same
  have nodup := distinct.nodup
  rw [List.nodup_middle, List.nodup_cons] at nodup
  exact nodup.1 (one ▸ member)

theorem filter_selects_iff_safeEnd (distinct : keyset.Distinct (before ++ row :: after))
    (ordered : (before ++ row :: after).Pairwise
      fun first second => keyset.precedes first second = true) :
    (before ++ row :: after).filter (keyset.selects nullValue row) = after ↔
      keyset.SafeEnd nullValue before row after := by
  rw [filter_selects_iff distinct.nodup, SafeEnd]
  cases held : keyset.value row with
  | none => simp only [selects, held, Option.getD_none]
  | some value =>
      have present : keyset.value row ≠ none := by rw [held]; simp
      obtain ⟨_, tail, across⟩ := List.pairwise_append.mp ordered
      have tail := (List.pairwise_cons.mp tail).1
      have apart := distinct.id_ne
      have early : ∀ other ∈ before, (keyset.selects nullValue row other = false ↔
          (keyset.tieOrder = keyset.tieCompare ∨
            keyset.tied (keyset.value row) (keyset.value other) = false)) := fun other member =>
        selects_of_follows (across other member row List.mem_cons_self)
          (apart other (List.mem_append_left _ member)) present
      have late : ∀ other ∈ after, (keyset.selects nullValue row other = true ↔
          keyset.value other ≠ none ∧ (keyset.tieOrder = keyset.tieCompare ∨
            keyset.tied (keyset.value row) (keyset.value other) = false)) := fun other member =>
        selects_of_precedes (tail other member) (apart other (List.mem_append_right _ member))
          present
      rw [held] at early late
      rw [forall₂_congr early, forall₂_congr late, forall₂_and]
      by_cases agree : keyset.tieOrder = keyset.tieCompare
      · simp [agree]
      · simp only [or_iff_right agree, List.forall_mem_append]
        exact and_left_comm

/-- Every page end with more to come is safe. -/
def SafeEnds (keyset : Keyset ρ) (nullValue : keyset.Value) (limit size : Nat)
    (listing : List ρ) : Prop :=
  ∀ before row after, listing = before ++ row :: after →
    ∀ pages, before.length + 1 = (pages + 1) * size → pages * size + limit ≤ listing.length →
      keyset.SafeEnd nullValue before row after

/-- No page end with more to come ties with another row. -/
def UntiedEnds (keyset : Keyset ρ) (limit size : Nat) (listing : List ρ) : Prop :=
  ∀ before row after, listing = before ++ row :: after →
    ∀ pages, before.length + 1 = (pages + 1) * size → pages * size + limit ≤ listing.length →
      ∀ other ∈ before ++ after, keyset.tied (keyset.value row) (keyset.value other) = false

theorem separatesAtPages_iff {rows : List ρ} (distinct : keyset.Distinct rows)
    {limit size : Nat} (fits : size ≤ limit) :
    SeparatesAtPages limit size (keyset.selects nullValue) (keyset.sorted rows) ↔
      keyset.SafeEnds nullValue limit size (keyset.sorted rows) := by
  have ordered := keyset.pairwise_sorted rows
  have distinct := distinct.sorted
  have ends : ∀ before row after, keyset.sorted rows = before ++ row :: after →
      ((keyset.sorted rows).filter (keyset.selects nullValue row) = after ↔
        keyset.SafeEnd nullValue before row after) := by
    intro before row after split
    rw [split] at distinct ordered ⊢
    exact filter_selects_iff_safeEnd distinct ordered
  rw [separatesAtPages_iff_atPageEnds fits]
  constructor
  · intro separates before row after split pages reached enough
    exact (ends before row after split).mp (separates before row after split pages reached enough)
  · intro safe before row after split pages reached enough
    exact (ends before row after split).mpr (safe before row after split pages reached enough)

theorem visits_iff_safeEnds {χ ε : Type} {fetch : Option χ → Except ε (List ρ × Option χ)}
    {rows : List ρ} {limit size : Nat} {encode : ρ → χ} (distinct : keyset.Distinct rows)
    (pages : Pages fetch limit size encode (keyset.selects nullValue) (keyset.sorted rows)) :
    Visits fetch none (keyset.sorted rows) ↔
      keyset.SafeEnds nullValue limit size (keyset.sorted rows) := by
  rw [pages.visits_iff distinct.sorted.nodup (.of_trans fun _ _ _ => selects_trans),
    separatesAtPages_iff distinct pages.fits]

theorem visits_iff_of_conditions {χ ε : Type} {fetch : Option χ → Except ε (List ρ × Option χ)}
    {condition : Option χ → Except ε (ρ → Bool)} {rows : List ρ} {limit size : Nat}
    {encode : ρ → χ} (distinct : keyset.Distinct rows)
    (fetched : ∀ cursor kept, condition cursor = .ok kept →
      fetch cursor = .ok (pageOf limit size encode (keyset.sorted (rows.filter kept))))
    (first : condition none = .ok fun _ => true)
    (next : ∀ row ∈ rows, condition (some (encode row)) = .ok (keyset.selects nullValue row))
    (positive : 0 < size) (fits : size ≤ limit) :
    Visits fetch none (keyset.sorted rows) ↔
      keyset.SafeEnds nullValue limit size (keyset.sorted rows) := by
  have pages : Pages fetch limit size encode (keyset.selects nullValue) (keyset.sorted rows) :=
    .of_conditions distinct.sorted_filter fetched first
      (fun row member => next row (mem_sorted.mp member)) positive fits
  exact visits_iff_safeEnds distinct pages

/-- Without NULLs, and with the identifiers compared in their order, every page
end is safe. -/
theorem safeEnds_of_nullFree {limit size : Nat} {listing : List ρ}
    (nullFree : ∀ row, keyset.value row ≠ none) (agree : keyset.tieOrder = keyset.tieCompare) :
    keyset.SafeEnds nullValue limit size listing := by
  intro before row after _ _ _ _
  rw [SafeEnd]
  split
  · exact ⟨fun other _ => nullFree other, Or.inl agree⟩
  · rename_i null
    exact absurd null (nullFree row)

/-- Without NULLs, and with the identifiers compared against their order, a page
end is safe where nothing ties with it. -/
theorem safeEnds_iff_untiedEnds {limit size : Nat} {listing : List ρ}
    (nullFree : ∀ row, keyset.value row ≠ none) (differ : keyset.tieOrder ≠ keyset.tieCompare) :
    keyset.SafeEnds nullValue limit size listing ↔ keyset.UntiedEnds limit size listing := by
  have ends : ∀ before row after, keyset.SafeEnd nullValue before row after ↔
      ∀ other ∈ before ++ after, keyset.tied (keyset.value row) (keyset.value other) = false := by
    intro before row after
    obtain ⟨value, held⟩ := Option.ne_none_iff_exists'.mp (nullFree row)
    rw [SafeEnd, held]
    exact ⟨fun safe => safe.2.resolve_left differ,
      fun untied => ⟨fun other _ => nullFree other, Or.inr untied⟩⟩
  simp only [SafeEnds, UntiedEnds, ends]

end Ends

section Ranked

/-- The rows that a row's own value selects; a NULL selects none. -/
def beyond (row other : ρ) : Bool :=
  match keyset.value row with
  | none => false
  | some value => keyset.passes value (keyset.id row) other

/-- Rows that tie are sorted by a rank of theirs. -/
def ranked (rank : ρ → Nat) : Keyset ρ :=
  { keyset with
    id := rank
    tieOrder := .asc }

/-- What makes a row's own value separate where ties are sorted by a rank: the
row has a value, no NULL follows, and the identifiers of the rows that tie
compare as these rows are sorted. -/
structure RankedEnd (before : List ρ) (row : ρ) (after : List ρ) : Prop where
  held : keyset.value row ≠ none
  early : ∀ other ∈ before, keyset.tied (keyset.value row) (keyset.value other) = true →
    SqlOrder.nat.ahead keyset.tieCompare (keyset.id row) (keyset.id other) = false
  late : ∀ other ∈ after, keyset.value other ≠ none ∧
    (keyset.tied (keyset.value row) (keyset.value other) = true →
      SqlOrder.nat.ahead keyset.tieCompare (keyset.id row) (keyset.id other) = true)

variable {keyset} {nullValue : keyset.Value} {rank : ρ → Nat} {before after rows : List ρ}
  {row : ρ}

theorem valueOrder_of_ranked {first second : ρ}
    (order : (keyset.ranked rank).precedes first second = true) :
    keyset.valueAhead (keyset.value first) (keyset.value second) = true ∨
      keyset.tied (keyset.value first) (keyset.value second) = true := by
  have order := valueOrder_of_precedes order
  simp only [ranked] at order
  cases held : keyset.value first with
  | none =>
      cases held' : keyset.value second with
      | none => exact Or.inr rfl
      | some value' =>
          rw [held, held'] at order
          exact order
  | some value =>
      cases held' : keyset.value second with
      | none =>
          rw [held, held'] at order
          exact order
      | some value' =>
          rw [held, held'] at order
          exact order

theorem beyond_eq_selects (held : keyset.value row ≠ none) (other : ρ) :
    keyset.beyond row other = keyset.selects nullValue row other := by
  obtain ⟨value, held⟩ := Option.ne_none_iff_exists'.mp held
  rw [beyond, selects, held]
  rfl

theorem beyond_trans {first second third : ρ} (left : keyset.beyond first second = true)
    (right : keyset.beyond second third = true) : keyset.beyond first third = true := by
  cases held : keyset.value first with
  | none =>
      rw [beyond, held] at left
      cases left
  | some value =>
      have first' : keyset.value first ≠ none := by simp [held]
      have second' : keyset.value second ≠ none := by
        intro null
        rw [beyond, null] at right
        cases right
      rw [@beyond_eq_selects _ _ value _ first'] at left ⊢
      rw [@beyond_eq_selects _ _ value _ second'] at right
      exact selects_trans left right

/-- The rows that a row's own value selects are those that are left after it
exactly at such an end. -/
theorem filter_beyond_iff (distinct : (keyset.ranked rank).Distinct (before ++ row :: after))
    (ordered : (before ++ row :: after).Pairwise
      fun first second => (keyset.ranked rank).precedes first second = true)
    (left : after ≠ []) :
    (before ++ row :: after).filter (keyset.beyond row) = after ↔
      keyset.RankedEnd before row after := by
  obtain ⟨_, tail, across⟩ := List.pairwise_append.mp ordered
  have tail := (List.pairwise_cons.mp tail).1
  cases held : keyset.value row with
  | none =>
      refine iff_of_false ?_ fun safe => safe.held held
      intro same
      have nothing : (before ++ row :: after).filter (keyset.beyond row) = [] := by
        simp [beyond, held]
      exact left (same.symm.trans nothing)
  | some value =>
      have present : keyset.value row ≠ none := by simp [held]
      have self : keyset.beyond row row = false := by
        rw [@beyond_eq_selects _ _ value _ present, selects_self]
      have early : ∀ other ∈ before, (keyset.beyond row other = false ↔
          (keyset.tied (keyset.value row) (keyset.value other) = true →
            SqlOrder.nat.ahead keyset.tieCompare (keyset.id row) (keyset.id other) = false)) := by
        intro other member
        have order := valueOrder_of_ranked (across other member row List.mem_cons_self)
        simp only [beyond, held]
        apply not_passes_iff_of_order
        rw [← held]
        exact order
      have late : ∀ other ∈ after, (keyset.beyond row other = true ↔
          keyset.value other ≠ none ∧ (keyset.tied (keyset.value row) (keyset.value other) = true →
            SqlOrder.nat.ahead keyset.tieCompare (keyset.id row) (keyset.id other) = true)) := by
        intro other member
        have order := valueOrder_of_ranked (tail other member)
        simp only [beyond, held]
        apply passes_iff_of_order
        rw [← held]
        exact order
      refine (filter_eq_after_congr distinct.nodup self early late).trans ?_
      exact ⟨fun ends => ⟨present, ends.1, ends.2⟩, fun safe => ⟨safe.early, safe.late⟩⟩

section Visits

variable {χ ε : Type} {fetch : Option χ → Except ε (List ρ × Option χ)} {limit size : Nat}
  {encode : ρ → χ}

theorem visits_perm_iff_rankedEnds (distinct : (keyset.ranked rank).Distinct rows)
    (pages : Pages fetch limit size encode keyset.beyond ((keyset.ranked rank).sorted rows))
    (more : size < limit) :
    (∃ visited, Visits fetch none visited ∧ visited.Perm ((keyset.ranked rank).sorted rows)) ↔
      AtPageEnds limit size ((keyset.ranked rank).sorted rows) keyset.RankedEnd := by
  have ordered := (keyset.ranked rank).pairwise_sorted rows
  have distinct := distinct.sorted
  rw [pages.visits_perm_iff distinct.nodup (.of_trans fun _ _ _ => beyond_trans),
    separatesAtPages_iff_atPageEnds pages.fits]
  apply atPageEnds_congr more
  intro before row after split left
  rw [split] at distinct ordered ⊢
  exact filter_beyond_iff distinct ordered left

/-- Without NULLs, and sorted by the identifiers, only ties at a page end can
make the cursors miss rows. -/
theorem visits_perm_iff_untiedEnds (distinct : keyset.Distinct rows)
    (pages : Pages fetch limit size encode keyset.beyond (keyset.sorted rows))
    (nullFree : ∀ row, keyset.value row ≠ none) :
    (∃ visited, Visits fetch none visited ∧ visited.Perm (keyset.sorted rows)) ↔
      keyset.tieOrder = keyset.tieCompare ∨
        keyset.UntiedEnds limit size (keyset.sorted rows) := by
  rw [pages.visits_perm_iff distinct.sorted.nodup (.of_trans fun _ _ _ => beyond_trans)]
  cases listed : keyset.sorted rows with
  | nil =>
      refine iff_of_true ?_ (Or.inr ?_)
      · intro seen enough
        simp [Separates]
      · intro before row after split
        simp at split
  | cons row others =>
      obtain ⟨value, _⟩ := Option.ne_none_iff_exists'.mp (nullFree row)
      have same : keyset.beyond = keyset.selects value := by
        funext row other
        exact beyond_eq_selects (nullFree row) other
      rw [← listed, same, separatesAtPages_iff distinct pages.fits]
      by_cases agree : keyset.tieOrder = keyset.tieCompare
      · exact iff_of_true (safeEnds_of_nullFree nullFree agree) (Or.inl agree)
      · rw [safeEnds_iff_untiedEnds nullFree agree, or_iff_right agree]

end Visits

end Ranked

end Keyset

end OpenZync.Library
