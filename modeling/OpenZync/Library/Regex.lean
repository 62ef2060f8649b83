import Mathlib.Data.List.Infix
import Mathlib.Logic.Relation

/-!
# Regular expressions with anchors

`Reads` says relationally which rests of a text a regular expression leaves;
`rests` lists them in the order of a backtracking search.  The anchor `$` holds
at the end of the text and also before a line end that ends it.
-/

namespace OpenZync.Library

inductive Regex (α : Type) where
  /-- One element of a set, as `[a-z]`. -/
  | set (members : α → Bool)
  | seq (first second : Regex α)
  | star (repeated : Regex α)
  /-- `^` -/
  | start
  /-- `$` -/
  | finish

namespace Regex

variable {α : Type}

/-- The expression reads a part of what is left and leaves a rest.  Both are
ends of the text. -/
def Reads (lineEnd : α) (text : List α) : Regex α → List α → List α → Prop
  | .set members, left, rest => ∃ c, members c = true ∧ left = c :: rest
  | .seq first second, left, rest =>
      Relation.Comp (Reads lineEnd text first) (Reads lineEnd text second) left rest
  | .star repeated, left, rest => Relation.ReflTransGen (Reads lineEnd text repeated) left rest
  | .start, left, rest => left = text ∧ rest = left
  | .finish, left, rest => (left = [] ∨ left = [lineEnd]) ∧ rest = left

/-- What so many repetitions of a step leave at most, longer readings first. -/
def iterations (step : List α → List (List α)) : Nat → List α → List (List α)
  | 0, left => [left]
  | turns + 1, left => (step left).flatMap (iterations step turns) ++ [left]

section Search

variable [DecidableEq α] (lineEnd : α) (text : List α)

/-- The rests of a backtracking search, the preferred one first. -/
def rests : Regex α → List α → List (List α)
  | .set _, [] => []
  | .set members, c :: rest => if members c then [rest] else []
  | .seq first second, left => (rests first left).flatMap (rests second)
  | .star repeated, left => iterations (rests repeated) left.length left
  | .start, left => if left = text then [left] else []
  | .finish, left => if left = [] ∨ left = [lineEnd] then [left] else []

end Search

/-- `re.match(pattern, text) is not None` -/
def isMatch [DecidableEq α] (lineEnd : α) (pattern : Regex α) (text : List α) : Bool :=
  !(rests lineEnd text pattern text).isEmpty

variable {lineEnd : α} {text left rest : List α} {pattern : Regex α}

/-- Nothing is put before what is left. -/
theorem Reads.isSuffix (reads : Reads lineEnd text pattern left rest) : rest <:+ left := by
  induction pattern generalizing left rest with
  | set members =>
      obtain ⟨c, -, rfl⟩ := reads
      exact List.suffix_cons c rest
  | seq first second firstSuffix secondSuffix =>
      obtain ⟨middle, begun, ended⟩ := reads
      exact (secondSuffix ended).trans (firstSuffix begun)
  | star repeated repeatedSuffix =>
      change Relation.ReflTransGen _ left rest at reads
      induction reads with
      | refl => exact List.suffix_rfl
      | tail _ last induction => exact (repeatedSuffix last).trans induction
  | start =>
      obtain ⟨-, rfl⟩ := reads
      exact List.suffix_rfl
  | finish =>
      obtain ⟨-, rfl⟩ := reads
      exact List.suffix_rfl

theorem reflTransGen_of_mem_iterations {step : List α → List (List α)} {turns : Nat}
    (member : rest ∈ iterations step turns left) :
    Relation.ReflTransGen (fun left rest => rest ∈ step left) left rest := by
  induction turns generalizing left with
  | zero =>
      rw [iterations, List.mem_singleton] at member
      exact member ▸ .refl
  | succ turns induction =>
      rw [iterations, List.mem_append, List.mem_singleton] at member
      rcases member with further | same
      · obtain ⟨middle, first, later⟩ := List.mem_flatMap.mp further
        exact .head first (induction later)
      · exact same ▸ .refl

/-- A step that reads nothing adds nothing, so that there are as many turns as
elements. -/
theorem mem_iterations_of_reflTransGen {step : List α → List (List α)}
    (shrinks : ∀ left, ∀ rest ∈ step left, rest <:+ left)
    (reads : Relation.ReflTransGen (fun left rest => rest ∈ step left) left rest) {turns : Nat}
    (enough : left.length ≤ turns) : rest ∈ iterations step turns left := by
  induction reads using Relation.ReflTransGen.head_induction_on generalizing turns with
  | refl => cases turns <;> simp [iterations]
  | @head left middle first _ induction =>
      have suffix := shrinks left middle first
      rcases Nat.lt_or_eq_of_le suffix.length_le with shorter | same
      · cases turns with
        | zero => exact absurd (Nat.lt_of_lt_of_le shorter enough) (Nat.not_lt_zero _)
        | succ turns =>
            have later : rest ∈ iterations step turns middle :=
              induction (Nat.le_of_lt_succ (Nat.lt_of_lt_of_le shorter enough))
            rw [iterations]
            exact List.mem_append_left [left] (List.mem_flatMap.mpr ⟨middle, first, later⟩)
      · have nothing : middle = left := suffix.eq_of_length same
        exact nothing ▸ induction (nothing.symm ▸ enough)

/-- The search finds what the expression can read. -/
theorem mem_rests_iff [DecidableEq α] :
    rest ∈ rests lineEnd text pattern left ↔ Reads lineEnd text pattern left rest := by
  induction pattern generalizing left rest with
  | set members =>
      cases left with
      | nil => simp [rests, Reads]
      | cons c left =>
          rw [rests]
          split
          · rename_i isMember
            rw [List.mem_singleton]
            constructor
            · rintro rfl
              exact ⟨c, isMember, rfl⟩
            · rintro ⟨d, -, same⟩
              exact (List.cons.inj same).2.symm
          · rename_i isMember
            simp only [List.not_mem_nil, false_iff]
            rintro ⟨d, other, same⟩
            rw [(List.cons.inj same).1] at isMember
            exact isMember other
  | seq first second firstIff secondIff =>
      rw [rests, List.mem_flatMap]
      exact exists_congr fun middle => and_congr firstIff secondIff
  | star repeated repeatedIff =>
      have steps : (fun left rest => rest ∈ rests lineEnd text repeated left) =
          Reads lineEnd text repeated := by
        funext left rest
        exact propext repeatedIff
      change rest ∈ iterations (rests lineEnd text repeated) left.length left ↔
        Relation.ReflTransGen (Reads lineEnd text repeated) left rest
      rw [← steps]
      constructor
      · exact reflTransGen_of_mem_iterations
      · intro reads
        exact mem_iterations_of_reflTransGen
          (fun _ _ member => (repeatedIff.mp member).isSuffix) reads (Nat.le_refl _)
  | start =>
      rw [rests]
      split <;> simp_all [Reads]
  | finish =>
      rw [rests]
      split <;> simp_all [Reads]

theorem isMatch_iff [DecidableEq α] :
    isMatch lineEnd pattern text = true ↔ ∃ rest, Reads lineEnd text pattern text rest := by
  rw [isMatch, Bool.not_eq_true', List.isEmpty_eq_false_iff_exists_mem]
  exact exists_congr fun rest => mem_rests_iff

theorem reads_star_set_iff {members : α → Bool} :
    Reads lineEnd text (.star (.set members)) left rest ↔
      ∃ stretch, stretch.all members = true ∧ left = stretch ++ rest := by
  constructor
  · intro reads
    change Relation.ReflTransGen _ left rest at reads
    induction reads using Relation.ReflTransGen.head_induction_on with
    | refl => exact ⟨[], rfl, rfl⟩
    | head first _ induction =>
        obtain ⟨c, isMember, rfl⟩ := first
        obtain ⟨stretch, all, rfl⟩ := induction
        exact ⟨c :: stretch, by rw [List.all_cons, isMember, all]; rfl, rfl⟩
  · rintro ⟨stretch, all, rfl⟩
    change Relation.ReflTransGen _ _ rest
    induction stretch with
    | nil => exact .refl
    | cons c stretch induction =>
        rw [List.all_cons, Bool.and_eq_true] at all
        exact .head ⟨c, all.1, rfl⟩ (induction all.2)

theorem isMatch_anchored_iff [DecidableEq α] :
    isMatch lineEnd (.seq .start (.seq pattern .finish)) text = true ↔
      Reads lineEnd text pattern text [] ∨ Reads lineEnd text pattern text [lineEnd] := by
  rw [isMatch_iff]
  constructor
  · rintro ⟨rest, _, ⟨-, rfl⟩, last, reads, ends | ends, -⟩
    · exact .inl (ends ▸ reads)
    · exact .inr (ends ▸ reads)
  · rintro (reads | reads)
    · exact ⟨[], text, ⟨rfl, rfl⟩, [], reads, .inl rfl, rfl⟩
    · exact ⟨[lineEnd], text, ⟨rfl, rfl⟩, [lineEnd], reads, .inr rfl, rfl⟩

end Regex

end OpenZync.Library
