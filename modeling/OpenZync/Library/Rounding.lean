import Mathlib.Algebra.Order.BigOperators.Group.List
import Mathlib.Data.Int.Log
import Mathlib.Data.Rat.Floor
import Mathlib.Tactic.FieldSimp
import Mathlib.Tactic.Linarith
import Mathlib.Tactic.NormNum
import Mathlib.Tactic.Ring

/-!
# Rounding of rationals

Floating-point numbers are the rationals they stand for.  They are rounded to a
number of binary digits, and printed to a number of decimals, with ties to even;
exponents are not bounded.

A sum of floating-point numbers that carries what its additions lose.  The
errors are bounded for any rounding with a bounded relative error.
-/

namespace OpenZync.Library

/-- The nearest integer, the even one of two. -/
def roundHalfEven (x : ℚ) : ℤ :=
  if Int.fract x < 1 / 2 then ⌊x⌋
  else if 1 / 2 < Int.fract x then ⌊x⌋ + 1
  else if ⌊x⌋ % 2 = 0 then ⌊x⌋ else ⌊x⌋ + 1

/-- The nearest number of so many binary digits. -/
def roundBinary (digits : ℕ) (x : ℚ) : ℚ :=
  let ulp : ℚ := 2 ^ (Int.log 2 |x| + 1 - digits)
  roundHalfEven (x / ulp) * ulp

/-- The nearest number of so many decimals. -/
def roundDecimal (decimals : ℕ) (x : ℚ) : ℚ :=
  roundHalfEven (x * 10 ^ decimals) / 10 ^ decimals

theorem abs_roundHalfEven_sub_le (x : ℚ) : |(roundHalfEven x : ℚ) - x| ≤ 1 / 2 := by
  have whole := Int.floor_add_fract x
  have positive := Int.fract_nonneg x
  have small := Int.fract_lt_one x
  rw [roundHalfEven, abs_le]
  split
  · constructor
    · linarith
    · linarith
  · split
    · push_cast
      constructor
      · linarith
      · linarith
    · split
      · constructor
        · linarith
        · linarith
      · push_cast
        constructor
        · linarith
        · linarith

theorem abs_roundBinary_sub_le (digits : ℕ) (x : ℚ) :
    |roundBinary digits x - x| ≤ 1 / 2 ^ digits * |x| := by
  rcases eq_or_ne x 0 with rfl | nonzero
  · simp [roundBinary, roundHalfEven]
  · let ulp : ℚ := 2 ^ (Int.log 2 |x| + 1 - digits)
    have positive : 0 < ulp := zpow_pos (by norm_num) _
    have unscaled : x / ulp * ulp = x := div_mul_cancel₀ x positive.ne'
    have half : ulp / 2 = 1 / 2 ^ digits * 2 ^ Int.log 2 |x| := by
      have two : (2 : ℚ) ≠ 0 := by norm_num
      simp only [ulp]
      rw [zpow_sub₀ two, zpow_add₀ two, zpow_one, zpow_natCast]
      ring
    have below : (2 : ℚ) ^ Int.log 2 |x| ≤ |x| := by
      have power := Int.zpow_log_le_self (b := 2) (by norm_num) (abs_pos.mpr nonzero)
      exact_mod_cast power
    calc |roundBinary digits x - x|
        = |((roundHalfEven (x / ulp) : ℚ) - x / ulp) * ulp| := by
          rw [sub_mul, unscaled]
          rfl
      _ = |(roundHalfEven (x / ulp) : ℚ) - x / ulp| * ulp := by
          rw [abs_mul, abs_of_pos positive]
      _ ≤ 1 / 2 * ulp := mul_le_mul_of_nonneg_right (abs_roundHalfEven_sub_le _) positive.le
      _ = 1 / 2 ^ digits * 2 ^ Int.log 2 |x| := by
          rw [← half]
          ring
      _ ≤ 1 / 2 ^ digits * |x| := mul_le_mul_of_nonneg_left below (by positivity)

theorem abs_roundDecimal_sub_le (decimals : ℕ) (x : ℚ) :
    |roundDecimal decimals x - x| ≤ 1 / 2 / 10 ^ decimals := by
  have positive : (0 : ℚ) < 10 ^ decimals := by positivity
  have scaled : roundDecimal decimals x - x =
      ((roundHalfEven (x * 10 ^ decimals) : ℚ) - x * 10 ^ decimals) / 10 ^ decimals := by
    rw [roundDecimal, sub_div, mul_div_cancel_right₀ x positive.ne']
  rw [scaled, abs_div, abs_of_pos positive]
  exact div_le_div_of_nonneg_right (abs_roundHalfEven_sub_le _) positive.le

/-- A rounding that is off by at most a share of the rounded number. -/
structure Arithmetic where
  fl : ℚ → ℚ
  unit : ℚ
  unit_nonneg : 0 ≤ unit
  unit_le_half : unit ≤ 1 / 2
  abs_fl_sub_le : ∀ x, |fl x - x| ≤ unit * |x|

/-- Double precision, without the bounds of its exponent. -/
def binary64 : Arithmetic :=
  { fl := roundBinary 53
    unit := 1 / 2 ^ 53
    unit_nonneg := by norm_num
    unit_le_half := by norm_num
    abs_fl_sub_le := abs_roundBinary_sub_le 53 }

/-- The rounded sum so far, and what its additions lost. -/
structure RunningSum where
  total : ℚ
  lost : ℚ

namespace Arithmetic

variable (arithmetic : Arithmetic)

/-- What an addition loses: what is missing from the larger number once the
smaller one is counted. -/
def residue (first second : ℚ) : ℚ :=
  let total := arithmetic.fl (first + second)
  if |second| ≤ |first| then arithmetic.fl (arithmetic.fl (first - total) + second)
  else arithmetic.fl (arithmetic.fl (second - total) + first)

def add (running : RunningSum) (x : ℚ) : RunningSum :=
  { total := arithmetic.fl (running.total + x)
    lost := arithmetic.fl (running.lost + arithmetic.residue running.total x) }

/-- The rounded sum, with what was lost added at the end. -/
def compensatedSum : List ℚ → ℚ
  | [] => 0
  | x :: xs =>
      let running := xs.foldl arithmetic.add { total := x, lost := 0 }
      if running.lost = 0 then running.total
      else arithmetic.fl (running.total + running.lost)

/-- The relative error that so many roundings add up to. -/
def slack (roundings : ℕ) : ℚ :=
  (1 + arithmetic.unit) ^ roundings - 1

theorem one_le_growth (roundings : ℕ) : 1 ≤ (1 + arithmetic.unit) ^ roundings :=
  one_le_pow₀ (by linarith [arithmetic.unit_nonneg])

theorem slack_nonneg (roundings : ℕ) : 0 ≤ arithmetic.slack roundings :=
  sub_nonneg.mpr (arithmetic.one_le_growth roundings)

theorem slack_mono {few many : ℕ} (le : few ≤ many) :
    arithmetic.slack few ≤ arithmetic.slack many :=
  sub_le_sub_right (pow_le_pow_right₀ (by linarith [arithmetic.unit_nonneg]) le) 1

theorem slack_succ (roundings : ℕ) :
    arithmetic.slack (roundings + 1) =
      (1 + arithmetic.unit) * arithmetic.slack roundings + arithmetic.unit := by
  rw [slack, slack, pow_succ]
  ring

/-- The errors of two stages are those of the one after the other. -/
theorem slack_add (first second : ℕ) :
    arithmetic.slack (first + second) =
      arithmetic.slack first * (1 + arithmetic.slack second) + arithmetic.slack second := by
  rw [slack, slack, slack, pow_add]
  ring

theorem slack_add_le (first second : ℕ) :
    arithmetic.slack first + arithmetic.slack second ≤ arithmetic.slack (first + second) := by
  have product := mul_nonneg (arithmetic.slack_nonneg first) (arithmetic.slack_nonneg second)
  rw [slack_add]
  linarith

variable {arithmetic}

theorem close_fl {x y size : ℚ} {roundings : ℕ} (bounded : |x| ≤ size)
    (close : |y - x| ≤ arithmetic.slack roundings * size) :
    |arithmetic.fl y - x| ≤ arithmetic.slack (roundings + 1) * size := by
  have unit := arithmetic.unit_nonneg
  have rounded := arithmetic.abs_fl_sub_le y
  have near : |y| ≤ |y - x| + size := by
    have split := abs_add_le (y - x) x
    rw [sub_add_cancel] at split
    linarith
  have share := mul_le_mul_of_nonneg_left near unit
  have grown := mul_le_mul_of_nonneg_left close (show 0 ≤ 1 + arithmetic.unit by linarith)
  have split := abs_add_le (arithmetic.fl y - y) (y - x)
  rw [sub_add_sub_cancel] at split
  rw [slack_succ, add_mul, mul_assoc]
  linarith

theorem abs_fl_le (y : ℚ) : |arithmetic.fl y| ≤ (1 + arithmetic.unit) * |y| := by
  have rounded := arithmetic.abs_fl_sub_le y
  have split := abs_add_le (arithmetic.fl y - y) y
  rw [sub_add_cancel] at split
  linarith

theorem fl_nonneg {y : ℚ} (nonneg : 0 ≤ y) : 0 ≤ arithmetic.fl y := by
  have rounded := arithmetic.abs_fl_sub_le y
  have half := mul_le_mul_of_nonneg_right arithmetic.unit_le_half nonneg
  rw [abs_of_nonneg nonneg, abs_le] at rounded
  linarith [rounded.1]

theorem abs_missing_le {large small : ℚ} (nonneg : 0 ≤ large) (nonneg' : 0 ≤ small) :
    |arithmetic.fl (arithmetic.fl (large - arithmetic.fl (large + small)) + small)| ≤
      ((1 + arithmetic.unit) ^ 3 - (1 + arithmetic.unit)) * (large + small) := by
  have unit := arithmetic.unit_nonneg
  have total := arithmetic.abs_fl_sub_le (large + small)
  have difference := arithmetic.abs_fl_sub_le (large - arithmetic.fl (large + small))
  rw [abs_of_nonneg (add_nonneg nonneg nonneg')] at total
  generalize arithmetic.fl (large + small) = rounded at total difference ⊢
  have apart : |large - rounded| ≤ (1 + arithmetic.unit) * (large + small) := by
    have split := abs_add_le (-small) (large + small - rounded)
    rw [abs_neg, abs_of_nonneg nonneg', abs_sub_comm (large + small) rounded,
      show -small + (large + small - rounded) = large - rounded by ring] at split
    linarith
  have missing : |arithmetic.fl (large - rounded) + small| ≤
      ((1 + arithmetic.unit) ^ 2 - 1) * (large + small) := by
    have split := abs_add_le (arithmetic.fl (large - rounded) - (large - rounded))
      (large + small - rounded)
    rw [abs_sub_comm (large + small) rounded,
      show arithmetic.fl (large - rounded) - (large - rounded) + (large + small - rounded) =
        arithmetic.fl (large - rounded) + small by ring] at split
    have share := mul_le_mul_of_nonneg_left apart unit
    linarith
  have grown := mul_le_mul_of_nonneg_left missing (show 0 ≤ 1 + arithmetic.unit by linarith)
  have rounded := arithmetic.abs_fl_le (arithmetic.fl (large - rounded) + small)
  linarith

/-- An addition of numbers that are not negative loses a small share of their sum. -/
theorem abs_residue_le {first second : ℚ} (nonneg : 0 ≤ first) (nonneg' : 0 ≤ second) :
    |arithmetic.residue first second| ≤
      ((1 + arithmetic.unit) ^ 3 - (1 + arithmetic.unit)) * (first + second) := by
  rw [residue]
  split
  · exact abs_missing_le nonneg nonneg'
  · rw [add_comm first second]
    exact abs_missing_le nonneg' nonneg

theorem growth_step_le {growth size : ℚ} (grows : 1 ≤ growth) (positive : 0 ≤ size) :
    growth * (size - 1 + (growth ^ 3 - growth) * size) ≤ growth ^ 4 * size - 1 := by
  have rest := mul_nonneg (sub_nonneg.mpr grows)
    (show 0 ≤ growth * size + 1 by positivity)
  have split : growth ^ 4 * size - 1 - growth * (size - 1 + (growth ^ 3 - growth) * size) =
      (growth - 1) * (growth * size + 1) := by
    ring
  linarith

/-- The sum so far of numbers that are not negative: it is not negative, it is
close to the exact sum, and little was lost. -/
structure Follows (arithmetic : Arithmetic) (count : ℕ) (exact : ℚ) (running : RunningSum) :
    Prop where
  exact_nonneg : 0 ≤ exact
  total_nonneg : 0 ≤ running.total
  total_close : |running.total - exact| ≤ arithmetic.slack count * exact
  lost_le : |running.lost| ≤ arithmetic.slack (4 * count) * exact

theorem follows_first {x : ℚ} (nonneg : 0 ≤ x) :
    Follows arithmetic 0 x { total := x, lost := 0 } :=
  { exact_nonneg := nonneg
    total_nonneg := nonneg
    total_close := by simp [slack]
    lost_le := by simp [slack] }

theorem Follows.add {count : ℕ} {exact x : ℚ} {running : RunningSum}
    (follows : Follows arithmetic count exact running) (nonneg : 0 ≤ x) :
    Follows arithmetic (count + 1) (exact + x) (arithmetic.add running x) := by
  obtain ⟨exactNonneg, totalNonneg, close, lost⟩ := follows
  have unit := arithmetic.unit_nonneg
  have sum : 0 ≤ exact + x := add_nonneg exactNonneg nonneg
  have more : ∀ roundings, arithmetic.slack roundings * exact ≤
      arithmetic.slack roundings * (exact + x) := fun roundings =>
    mul_le_mul_of_nonneg_left (by linarith) (arithmetic.slack_nonneg roundings)
  have near : |running.total + x - (exact + x)| ≤ arithmetic.slack count * (exact + x) := by
    rw [add_sub_add_right_eq_sub]
    exact le_trans close (more count)
  have size : running.total + x ≤ (1 + arithmetic.unit) ^ count * (exact + x) := by
    have above := (abs_le.mp near).2
    rw [slack] at above
    linarith
  refine ⟨sum, fl_nonneg (add_nonneg totalNonneg nonneg), ?_, ?_⟩
  · exact close_fl (abs_of_nonneg sum).le near
  · have residue := arithmetic.abs_residue_le totalNonneg nonneg
    have rounded := arithmetic.abs_fl_le (running.lost + arithmetic.residue running.total x)
    have split := abs_add_le running.lost (arithmetic.residue running.total x)
    have lost' := le_trans lost (more (4 * count))
    have size' : running.total + x ≤ (1 + arithmetic.unit) ^ (4 * count) * (exact + x) :=
      le_trans size (mul_le_mul_of_nonneg_right
        (pow_le_pow_right₀ (by linarith) (by omega)) sum)
    have cubes : 0 ≤ (1 + arithmetic.unit) ^ 3 - (1 + arithmetic.unit) :=
      sub_nonneg.mpr (le_self_pow₀ (by linarith) (by norm_num))
    have residue' := le_trans residue (mul_le_mul_of_nonneg_left size' cubes)
    calc |(arithmetic.add running x).lost|
        ≤ (1 + arithmetic.unit) *
            (arithmetic.slack (4 * count) * (exact + x) +
              ((1 + arithmetic.unit) ^ 3 - (1 + arithmetic.unit)) *
                ((1 + arithmetic.unit) ^ (4 * count) * (exact + x))) :=
          le_trans rounded (mul_le_mul_of_nonneg_left (by linarith) (by linarith))
      _ = (1 + arithmetic.unit) *
            ((1 + arithmetic.unit) ^ (4 * count) - 1 +
              ((1 + arithmetic.unit) ^ 3 - (1 + arithmetic.unit)) *
                (1 + arithmetic.unit) ^ (4 * count)) * (exact + x) := by
          rw [slack]
          ring
      _ ≤ arithmetic.slack (4 * (count + 1)) * (exact + x) := by
          apply mul_le_mul_of_nonneg_right _ sum
          rw [slack, Nat.mul_succ, pow_add, mul_comm ((1 + arithmetic.unit) ^ (4 * count)) _]
          exact growth_step_le (by linarith) (by linarith [arithmetic.one_le_growth (4 * count)])

theorem follows_foldl {xs : List ℚ} (nonneg : ∀ x ∈ xs, 0 ≤ x) {count : ℕ} {exact : ℚ}
    {running : RunningSum} (follows : Follows arithmetic count exact running) :
    Follows arithmetic (count + xs.length) (exact + xs.sum)
      (xs.foldl arithmetic.add running) := by
  induction xs generalizing count exact running with
  | nil => simpa using follows
  | cons x xs induction =>
      rw [List.forall_mem_cons] at nonneg
      have next := induction nonneg.2 (follows.add nonneg.1)
      rw [List.foldl_cons, List.length_cons, List.sum_cons, ← add_assoc exact,
        Nat.add_comm xs.length 1, ← Nat.add_assoc]
      exact next

theorem abs_compensatedSum_sub_le {xs : List ℚ} (nonneg : ∀ x ∈ xs, 0 ≤ x) :
    |arithmetic.compensatedSum xs - xs.sum| ≤ arithmetic.slack (5 * xs.length) * xs.sum := by
  cases xs with
  | nil => simp [compensatedSum]
  | cons x xs =>
      rw [List.forall_mem_cons] at nonneg
      have follows := follows_foldl nonneg.2 (@follows_first arithmetic x nonneg.1)
      rw [Nat.zero_add, ← List.sum_cons] at follows
      obtain ⟨sum, _, close, lost⟩ := follows
      have within : ∀ {roundings : ℕ}, roundings ≤ 5 * (x :: xs).length →
          arithmetic.slack roundings * (x :: xs).sum ≤
            arithmetic.slack (5 * (x :: xs).length) * (x :: xs).sum := fun few =>
        mul_le_mul_of_nonneg_right (arithmetic.slack_mono few) sum
      rw [compensatedSum]
      generalize xs.foldl arithmetic.add { total := x, lost := 0 } = running at close lost ⊢
      split
      · apply le_trans close (within _)
        rw [List.length_cons]
        omega
      · have together : |running.total + running.lost - (x :: xs).sum| ≤
            arithmetic.slack (xs.length + 4 * xs.length) * (x :: xs).sum := by
          have split := abs_add_le (running.total - (x :: xs).sum) running.lost
          rw [sub_add_eq_add_sub] at split
          have added := mul_le_mul_of_nonneg_right
            (arithmetic.slack_add_le xs.length (4 * xs.length)) sum
          rw [add_mul] at added
          linarith
        apply le_trans (close_fl (abs_of_nonneg sum).le together) (within _)
        rw [List.length_cons]
        omega

/-- A number close to another one, rounded to some decimals and stored. -/
theorem abs_fl_roundDecimal_sub_le {x y : ℚ} {roundings : ℕ} (nonneg : 0 ≤ x)
    (close : |y - x| ≤ arithmetic.slack roundings * x) (decimals : ℕ) :
    |arithmetic.fl (roundDecimal decimals y) - x| ≤
      arithmetic.slack (roundings + 1) * x +
        (1 + arithmetic.unit) * (1 / 2 / 10 ^ decimals) := by
  have unit := arithmetic.unit_nonneg
  have decimal := abs_roundDecimal_sub_le decimals y
  generalize roundDecimal decimals y = rounded at decimal ⊢
  have near : |rounded - x| ≤ arithmetic.slack roundings * x + 1 / 2 / 10 ^ decimals := by
    have split := abs_add_le (rounded - y) (y - x)
    rw [sub_add_sub_cancel] at split
    linarith
  have size : |rounded| ≤ |rounded - x| + x := by
    have split := abs_add_le (rounded - x) x
    rw [sub_add_cancel, abs_of_nonneg nonneg] at split
    exact split
  have stored := arithmetic.abs_fl_sub_le rounded
  have share := mul_le_mul_of_nonneg_left size unit
  have grown := mul_le_mul_of_nonneg_left near (show 0 ≤ 1 + arithmetic.unit by linarith)
  have split := abs_add_le (arithmetic.fl rounded - rounded) (rounded - x)
  rw [sub_add_sub_cancel] at split
  rw [slack_succ]
  linarith

/-- A rounded quotient of one by a rounded number. -/
theorem abs_reciprocal_sub_le {m : ℚ} (positive : 0 < m) :
    |arithmetic.fl (1 / arithmetic.fl m) - 1 / m| ≤ arithmetic.slack 3 * (1 / m) := by
  have unit := arithmetic.unit_nonneg
  have half := arithmetic.unit_le_half
  have rounded := arithmetic.abs_fl_sub_le m
  rw [abs_of_pos positive] at rounded
  generalize arithmetic.fl m = divisor at rounded ⊢
  have above : (1 - arithmetic.unit) * m ≤ divisor := by
    linarith [(abs_le.mp rounded).1]
  have below : 0 < (1 - arithmetic.unit) * m := mul_pos (by linarith) positive
  have quotient : 1 / divisor - 1 / m = (m - divisor) / divisor * (1 / m) := by
    have nonzero : divisor ≠ 0 := (lt_of_lt_of_le below above).ne'
    field_simp
  apply close_fl (abs_of_pos (by positivity)).le
  rw [quotient, abs_mul, abs_of_pos (show 0 < 1 / m by positivity)]
  apply mul_le_mul_of_nonneg_right _ (by positivity)
  rw [abs_div, abs_sub_comm, abs_of_pos (lt_of_lt_of_le below above),
    div_le_iff₀ (lt_of_lt_of_le below above)]
  have enough : 0 ≤ arithmetic.unit * (1 - arithmetic.unit - arithmetic.unit ^ 2) * m := by
    have square := mul_le_mul half half unit (by norm_num : (0 : ℚ) ≤ 1 / 2)
    exact mul_nonneg (mul_nonneg unit (by linarith)) positive.le
  have scaled := mul_le_mul_of_nonneg_left above (arithmetic.slack_nonneg 2)
  apply le_trans rounded (le_trans _ scaled)
  rw [slack]
  linarith

theorem abs_sum_sub_le {α : Type} {near exact : α → ℚ} {share : ℚ} {items : List α}
    (close : ∀ item ∈ items, |near item - exact item| ≤ share * exact item) :
    |(items.map near).sum - (items.map exact).sum| ≤ share * (items.map exact).sum := by
  induction items with
  | nil => simp
  | cons item items induction =>
      rw [List.forall_mem_cons] at close
      have rest := induction close.2
      have split := abs_add_le (near item - exact item)
        ((items.map near).sum - (items.map exact).sum)
      rw [List.map_cons, List.map_cons, List.sum_cons, List.sum_cons, add_sub_add_comm, mul_add]
      linarith [close.1]

theorem abs_compensatedSum_map_sub_le {α : Type} {near exact : α → ℚ} {roundings : ℕ}
    {items : List α} (nonneg : ∀ item ∈ items, 0 ≤ near item)
    (close : ∀ item ∈ items, |near item - exact item| ≤ arithmetic.slack roundings * exact item) :
    |arithmetic.compensatedSum (items.map near) - (items.map exact).sum| ≤
      arithmetic.slack (5 * items.length + roundings) * (items.map exact).sum := by
  have terms := abs_sum_sub_le close
  have added := @abs_compensatedSum_sub_le arithmetic (items.map near) (by
    intro term member
    obtain ⟨item, present, rfl⟩ := List.mem_map.mp member
    exact nonneg item present)
  rw [List.length_map] at added
  have size : (items.map near).sum ≤ (1 + arithmetic.slack roundings) * (items.map exact).sum := by
    linarith [(abs_le.mp terms).2]
  have scaled := mul_le_mul_of_nonneg_left size (arithmetic.slack_nonneg (5 * items.length))
  have split := abs_add_le (arithmetic.compensatedSum (items.map near) - (items.map near).sum)
    ((items.map near).sum - (items.map exact).sum)
  rw [sub_add_sub_cancel] at split
  rw [slack_add]
  linarith

end Arithmetic

end OpenZync.Library
