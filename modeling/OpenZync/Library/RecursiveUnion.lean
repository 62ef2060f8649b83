import Mathlib.Data.List.Dedup
import Mathlib.Data.List.Sort
import OpenZync.Library.BreadthFirst
import OpenZync.Library.FirstItems

/-!
# Recursive union

A recursive query: its step is applied to the rows of the last round until a round
brings no new rows.  With places and depths for rows it lists the walks up to a
limit, and the first depth of each place is its distance.
-/

namespace OpenZync.Library

section Union

variable {ρ : Type} [DecidableEq ρ]

/-- The rows of the step that are not in the result yet, each once. -/
def newRows (step : List ρ → List ρ) (result working : List ρ) : List ρ :=
  ((step working).filter fun row => row ∉ result).dedup

/-- The rounds of `WITH RECURSIVE … UNION`, with the result so far and the rows of
the last round. -/
def recursiveUnion (step : List ρ → List ρ) : Nat → List ρ → List ρ → Option (List ρ)
  | 0, _, _ => none
  | fuel + 1, result, working =>
      if working = [] then some result
      else
        recursiveUnion step fuel (result ++ newRows step result working)
          (newRows step result working)

theorem mem_newRows {step : List ρ → List ρ} {result working : List ρ} {row : ρ} :
    row ∈ newRows step result working ↔ row ∈ step working ∧ row ∉ result := by
  rw [newRows, List.mem_dedup, List.mem_filter, decide_eq_true_eq]

/-- More rounds than needed change nothing. -/
theorem recursiveUnion_more {step : List ρ → List ρ} {fuel : Nat} {result working listed : List ρ}
    (ended : recursiveUnion step fuel result working = some listed) (more : Nat) :
    recursiveUnion step (fuel + more) result working = some listed := by
  induction fuel generalizing result working with
  | zero => cases ended
  | succ fuel induction =>
      rw [recursiveUnion] at ended
      rw [Nat.succ_add, recursiveUnion]
      split
      · rename_i empty
        rw [if_pos empty] at ended
        exact ended
      · rename_i nonempty
        rw [if_neg nonempty] at ended
        exact induction ended

end Union

section Depths

variable {ν : Type} [DecidableEq ν] {neighbours : ν → List ν} {limit : Nat} {start : ν}

/-- The rows one deeper, up to the limit. -/
def deeper (neighbours : ν → List ν) (limit : Nat) (working : List (ν × Nat)) :
    List (ν × Nat) :=
  working.flatMap fun row =>
    if row.2 < limit then (neighbours row.1).map fun next => (next, row.2 + 1) else []

/-- The rows of one round are the walks of its length. -/
def IsRound (neighbours : ν → List ν) (limit : Nat) (start : ν) (round : Nat)
    (working : List (ν × Nat)) : Prop :=
  ∀ place depth, (place, depth) ∈ working ↔
    depth = round ∧ depth ≤ limit ∧
      Walk (fun place next => next ∈ neighbours place) start place depth

/-- The rows of a number of rounds are the walks up to their length. -/
def IsRounds (neighbours : ν → List ν) (limit : Nat) (start : ν) (round : Nat)
    (result : List (ν × Nat)) : Prop :=
  ∀ place depth, (place, depth) ∈ result ↔
    depth ≤ round ∧ depth ≤ limit ∧
      Walk (fun place next => next ∈ neighbours place) start place depth

theorem IsRound.next {round : Nat} {result working : List (ν × Nat)}
    (rows : IsRounds neighbours limit start round result)
    (last : IsRound neighbours limit start round working) :
    IsRound neighbours limit start (round + 1)
      (newRows (deeper neighbours limit) result working) := by
  intro place depth
  rw [mem_newRows, deeper, List.mem_flatMap]
  constructor
  · rintro ⟨⟨⟨before, depth'⟩, member, listed⟩, _⟩
    obtain ⟨rfl, _, walk⟩ := (last before depth').mp member
    split at listed
    · rename_i inside
      obtain ⟨next, edge, same⟩ := List.mem_map.mp listed
      cases same
      exact ⟨rfl, inside, walk.step edge⟩
    · cases listed
  · rintro ⟨rfl, inside, walk⟩
    refine ⟨?_, fun early => Nat.not_succ_le_self _ ((rows _ _).mp early).1⟩
    cases walk with
    | @step before _ _ walk edge =>
        refine ⟨(before, round), (last _ _).mpr ⟨rfl, Nat.le_of_succ_le inside, walk⟩, ?_⟩
        rw [if_pos (show (before, round).2 < limit from inside)]
        exact List.mem_map_of_mem edge

omit [DecidableEq ν] in
theorem IsRounds.next {round : Nat} {result new : List (ν × Nat)}
    (rows : IsRounds neighbours limit start round result)
    (last : IsRound neighbours limit start (round + 1) new) :
    IsRounds neighbours limit start (round + 1) (result ++ new) := by
  intro place depth
  rw [List.mem_append, rows, last]
  constructor
  · rintro (⟨early, near, walk⟩ | ⟨rfl, near, walk⟩)
    · exact ⟨Nat.le_succ_of_le early, near, walk⟩
    · exact ⟨Nat.le_refl _, near, walk⟩
  · rintro ⟨early, near, walk⟩
    rcases Nat.lt_or_eq_of_le early with earlier | same
    · exact Or.inl ⟨Nat.le_of_lt_succ earlier, near, walk⟩
    · exact Or.inr ⟨same, near, walk⟩

omit [DecidableEq ν] in
/-- A round without rows is the end of the walks up to the limit. -/
theorem IsRounds.complete {round : Nat} {result : List (ν × Nat)}
    (rows : IsRounds neighbours limit start round result)
    (last : IsRound neighbours limit start round []) :
    IsRounds neighbours limit start limit result := by
  intro place depth
  rw [rows]
  constructor
  · rintro ⟨_, near, walk⟩
    exact ⟨near, near, walk⟩
  · rintro ⟨near, _, walk⟩
    refine ⟨Nat.le_of_not_gt fun late => ?_, near, walk⟩
    obtain ⟨passed, shorter⟩ := walk.exists_prefix (Nat.le_of_lt late)
    have listed := (last passed round).mpr ⟨rfl, Nat.le_trans (Nat.le_of_lt late) near, shorter⟩
    cases listed

theorem recursiveUnion_deeper {fuel round : Nat} {result working : List (ν × Nat)}
    (rows : IsRounds neighbours limit start round result)
    (last : IsRound neighbours limit start round working) (early : round ≤ limit + 1)
    (enough : limit + 2 ≤ fuel + round) :
    ∃ listed, recursiveUnion (deeper neighbours limit) fuel result working = some listed ∧
      IsRounds neighbours limit start limit listed := by
  induction fuel generalizing round result working with
  | zero => omega
  | succ fuel induction =>
      rw [recursiveUnion]
      split
      · rename_i empty
        rw [empty] at last
        exact ⟨result, rfl, rows.complete last⟩
      · rename_i nonempty
        obtain ⟨⟨place, depth⟩, member⟩ := List.exists_mem_of_ne_nil _ nonempty
        obtain ⟨rfl, near, _⟩ := (last place depth).mp member
        have next := IsRound.next rows last
        exact induction (rows.next next) next (Nat.succ_le_succ near) (by omega)

theorem exists_recursiveUnion (neighbours : ν → List ν) (limit : Nat) (start : ν) :
    ∃ listed, IsRounds neighbours limit start limit listed ∧ ∀ fuel, limit + 2 ≤ fuel →
      recursiveUnion (deeper neighbours limit) fuel [(start, 0)] [(start, 0)] =
        some listed := by
  have begins : IsRound neighbours limit start 0 [(start, 0)] := by
    intro place depth
    rw [List.mem_singleton, Prod.mk.injEq]
    constructor
    · rintro ⟨rfl, rfl⟩
      exact ⟨rfl, Nat.zero_le limit, .stay⟩
    · rintro ⟨rfl, _, walk⟩
      exact ⟨walk.eq_of_zero, rfl⟩
  have rows : IsRounds neighbours limit start 0 [(start, 0)] := by
    intro place depth
    rw [begins, Nat.le_zero]
  obtain ⟨listed, ended, complete⟩ :=
    recursiveUnion_deeper rows begins (Nat.zero_le _) (Nat.le_refl (limit + 2))
  refine ⟨listed, complete, fun fuel enough => ?_⟩
  rw [← Nat.add_sub_cancel' enough]
  exact recursiveUnion_more ended _

end Depths

section DistinctOn

variable {ν : Type} [LinearOrder ν] {neighbours : ν → List ν} {limit : Nat} {start : ν}

/-- By place, and then by depth. -/
def listedBefore (first second : ν × Nat) : Prop :=
  first.1 < second.1 ∨ first.1 = second.1 ∧ first.2 ≤ second.2

instance (first second : ν × Nat) : Decidable (listedBefore first second) :=
  inferInstanceAs (Decidable (_ ∨ _))

/-- `SELECT DISTINCT ON (place) … ORDER BY place, depth` -/
def distinctOn (listed : List (ν × Nat)) : List (ν × Nat) :=
  firstItems Prod.fst (listed.insertionSort listedBefore)

theorem pairwise_listedBefore (listed : List (ν × Nat)) :
    (listed.insertionSort listedBefore).Pairwise listedBefore := by
  have total : Std.Total (listedBefore : ν × Nat → ν × Nat → Prop) := by
    constructor
    intro first second
    rcases lt_trichotomy first.1 second.1 with before | same | behind
    · exact Or.inl (Or.inl before)
    · rcases Nat.le_total first.2 second.2 with shallow | deep
      · exact Or.inl (Or.inr ⟨same, shallow⟩)
      · exact Or.inr (Or.inr ⟨same.symm, deep⟩)
    · exact Or.inr (Or.inl behind)
  have trans : IsTrans (ν × Nat) listedBefore := by
    constructor
    rintro first second third (before | ⟨same, shallow⟩) (before' | ⟨same', shallow'⟩)
    · exact Or.inl (before.trans before')
    · exact Or.inl (same' ▸ before)
    · exact Or.inl (same ▸ before')
    · exact Or.inr ⟨same.trans same', Nat.le_trans shallow shallow'⟩
  exact List.pairwise_insertionSort listedBefore listed

theorem IsRounds.isBall {listed : List (ν × Nat)}
    (rows : IsRounds neighbours limit start limit listed) :
    IsBall (fun place next => next ∈ neighbours place) limit start (distinctOn listed) := by
  have walks : ∀ {place : ν} {depth : Nat}, (place, depth) ∈ listed.insertionSort listedBefore ↔
      depth ≤ limit ∧ Walk (fun place next => next ∈ neighbours place) start place depth := by
    intro place depth
    rw [List.mem_insertionSort, rows]
    tauto
  have least : ∀ {place : ν} {depth length : Nat}, (place, depth) ∈ distinctOn listed →
      Walk (fun place next => next ∈ neighbours place) start place length → depth ≤ length := by
    intro place depth length first walk
    have near := (walks.mp (mem_of_mem_firstItems first)).1
    rcases Nat.le_total length limit with fits | far
    · rcases related_of_first (pairwise_listedBefore listed) first (walks.mpr ⟨fits, walk⟩) rfl
        with same | before
      · exact Nat.le_of_eq (congrArg Prod.snd same).symm
      · rcases before with before | ⟨_, shallow⟩
        · exact absurd before (lt_irrefl place)
        · exact shallow
    · exact Nat.le_trans near far
  refine ⟨nodup_firstItems _ _, fun place distance => ⟨fun first => ?_, ?_⟩⟩
  · obtain ⟨near, walk⟩ := walks.mp (mem_of_mem_firstItems first)
    exact ⟨⟨walk, fun length other => least first other⟩, near⟩
  · rintro ⟨⟨walk, shortest⟩, near⟩
    obtain ⟨⟨other, depth⟩, first, same⟩ :=
      exists_firstItem Prod.fst (walks.mpr ⟨near, walk⟩)
    cases same
    have reached := (walks.mp (mem_of_mem_firstItems first)).2
    rw [Nat.le_antisymm (shortest depth reached) (least first walk)]
    exact first

end DistinctOn

end OpenZync.Library
