import Mathlib.Data.List.Induction
import Mathlib.Data.List.Sort
import OpenZync.Library.Dicts
import OpenZync.Library.FirstItems
import OpenZync.Library.Rounding
import OpenZync.Text

/-!
# Reciprocal rank fusion

Ranked lists are merged by the reciprocals of the ranks.  The scores are doubles,
summed as `sum` does it and rounded to six decimals.

Every id is returned once, in the order of the rounded scores.  The rounded score
of an id that no list repeats is close to the sum of its reciprocal ranks.
-/

namespace OpenZync.Retrieval

open OpenZync.Library

section Merge

variable {β : Type}

/-- An item of a ranked list, with its `id` as `str` gives it. -/
structure RankedItem (β : Type) where
  id : Option Text
  content : β

/-- The id under which the item counts; it is skipped without one. -/
def RankedItem.key (item : RankedItem β) : Option Text :=
  item.id.filter fun id => !id.isEmpty

/-- An entry of `score_map` with its entry of `rank_map`. -/
structure Ranked (β : Type) where
  content : β
  ranks : List Nat

/-- An item of the result. -/
structure FusedItem (β : Type) where
  id : Text
  content : β
  rrfScore : ℚ

/-- `RRF_K` -/
def rrfK : Nat :=
  60

/-- The entry of an id after one more occurrence; the first one gives the content. -/
def extend (seen : Option (Ranked β)) (rank : Nat) (item : RankedItem β) : Ranked β :=
  match seen with
  | none => { content := item.content, ranks := [rank] }
  | some ranked => { ranked with ranks := ranked.ranks ++ [rank] }

/-- One turn of the inner loop. -/
def record (ranked : Library.Dict Text (Ranked β)) (entry : RankedItem β × Nat) :
    Library.Dict Text (Ranked β) :=
  match entry.1.key with
  | none => ranked
  | some id => ranked.set id (extend (ranked.get? id) entry.2 entry.1)

/-- The loop over the lists, each from rank one on. -/
def recordLists (rankedLists : List (List (RankedItem β))) : Library.Dict Text (Ranked β) :=
  rankedLists.foldl (fun ranked rankedList => (rankedList.zipIdx 1).foldl record ranked)
    Library.Dict.empty

/-- `1.0 / (RRF_K + r)`, with the divisor made a double. -/
def reciprocalRank (rank : Nat) : ℚ :=
  binary64.fl (1 / binary64.fl (rrfK + rank : Nat))

/-- `round(sum(...), 6)` -/
def rrfScore (ranks : List Nat) : ℚ :=
  binary64.fl (roundDecimal 6 (binary64.compensatedSum (ranks.map reciprocalRank)))

/-- `items[:stop]` -/
def sliceTo {α : Type} (stop : Int) (items : List α) : List α :=
  items.take (if 0 ≤ stop then stop else items.length + stop).toNat

/-- The results before they are cut; equal scores keep their order. -/
def sortedItems (rankedLists : List (List (RankedItem β))) : List (FusedItem β) :=
  ((recordLists rankedLists).items.map fun entry =>
    { id := entry.1
      content := entry.2.content
      rrfScore := rrfScore entry.2.ranks : FusedItem β }).insertionSort
        fun first second => second.rrfScore ≤ first.rrfScore

/-- `_rrf_merge` -/
def rrfMerge (rankedLists : List (List (RankedItem β))) (topN : Int) : List (FusedItem β) :=
  sliceTo topN (sortedItems rankedLists)

end Merge

section Ranks

variable {β : Type}

/-- The ranks of an id among numbered items. -/
def ranksAmong (id : Text) (entries : List (RankedItem β × Nat)) : List Nat :=
  entries.filterMap fun entry => if entry.1.key = some id then some entry.2 else none

def occurrences (id : Text) (rankedList : List (RankedItem β)) : List Nat :=
  ranksAmong id (rankedList.zipIdx 1)

/-- The ranks of an id in all lists. -/
def ranksOf (rankedLists : List (List (RankedItem β))) (id : Text) : List Nat :=
  rankedLists.flatMap (occurrences id)

def Appears (rankedLists : List (List (RankedItem β))) (id : Text) : Prop :=
  ∃ rankedList ∈ rankedLists, ∃ item ∈ rankedList, item.key = some id

instance (rankedLists : List (List (RankedItem β))) (id : Text) :
    Decidable (Appears rankedLists id) :=
  inferInstanceAs (Decidable (∃ rankedList ∈ rankedLists, ∃ item ∈ rankedList,
    item.key = some id))

/-- No list has the id twice. -/
def Unrepeated (rankedLists : List (List (RankedItem β))) (id : Text) : Prop :=
  ∀ rankedList ∈ rankedLists, (occurrences id rankedList).length ≤ 1

instance (rankedLists : List (List (RankedItem β))) (id : Text) :
    Decidable (Unrepeated rankedLists id) :=
  inferInstanceAs (Decidable (∀ rankedList ∈ rankedLists, _))

/-- `Σ 1 / (RRF_K + rank_s(d))`, over the lists that contain the id. -/
def exactScore (rankedLists : List (List (RankedItem β))) (id : Text) : ℚ :=
  ((rankedLists.filterMap fun rankedList => (occurrences id rankedList).head?).map
    fun rank => 1 / ((rrfK + rank : Nat) : ℚ)).sum

/-- The score that the merge stores for an id. -/
def storedScore (rankedLists : List (List (RankedItem β))) (id : Text) : ℚ :=
  rrfScore (ranksOf rankedLists id)

/-- Half a unit of the sixth decimal, and what the doubles lose. -/
def scoreError (rankedLists : List (List (RankedItem β))) (id : Text) : ℚ :=
  binary64.slack (5 * (ranksOf rankedLists id).length + 4) * exactScore rankedLists id +
    (1 + binary64.unit) * (1 / 2 / 10 ^ 6)

theorem ranksAmong_snoc (id : Text) (entries : List (RankedItem β × Nat))
    (entry : RankedItem β × Nat) :
    ranksAmong id (entries ++ [entry]) =
      ranksAmong id entries ++ if entry.1.key = some id then [entry.2] else [] := by
  rw [ranksAmong, ranksAmong, List.filterMap_append]
  by_cases same : entry.1.key = some id
  · simp [same]
  · simp [same]

theorem recordLists_eq (rankedLists : List (List (RankedItem β))) :
    recordLists rankedLists =
      (rankedLists.flatMap fun rankedList => rankedList.zipIdx 1).foldl record
        Library.Dict.empty := by
  rw [recordLists, List.foldl_flatMap]

theorem ranksOf_eq (rankedLists : List (List (RankedItem β))) (id : Text) :
    ranksOf rankedLists id =
      ranksAmong id (rankedLists.flatMap fun rankedList => rankedList.zipIdx 1) := by
  rw [ranksAmong, List.filterMap_flatMap]
  rfl

theorem get?_record (ranked : Library.Dict Text (Ranked β)) (entry : RankedItem β × Nat)
    (id : Text) :
    (record ranked entry).get? id =
      if entry.1.key = some id then some (extend (ranked.get? id) entry.2 entry.1)
      else ranked.get? id := by
  rw [record]
  cases entry.1.key with
  | none => rfl
  | some other =>
      simp only [Library.Dict.get?_set, Option.some_inj]
      by_cases same : id = other
      · subst same
        rw [if_pos rfl]
      · rw [if_neg same, if_neg (Ne.symm same)]

/-- What is recorded for an id: nothing, or its ranks among the items so far. -/
def Recorded (ranks : List Nat) (seen : Option (Ranked β)) : Prop :=
  match seen with
  | none => ranks = []
  | some ranked => ranks ≠ [] ∧ ranked.ranks = ranks

theorem recorded_foldl (id : Text) (entries : List (RankedItem β × Nat)) :
    Recorded (ranksAmong id entries) ((entries.foldl record Library.Dict.empty).get? id) := by
  induction entries using List.reverseRecOn with
  | nil => exact rfl
  | append_singleton entries entry induction =>
      rw [List.foldl_append, List.foldl_cons, List.foldl_nil, get?_record, ranksAmong_snoc]
      generalize (entries.foldl record Library.Dict.empty).get? id = seen at induction ⊢
      by_cases same : entry.1.key = some id
      · rw [if_pos same, if_pos same]
        cases seen with
        | none =>
            rw [Recorded] at induction
            rw [induction]
            exact ⟨List.cons_ne_nil _ _, rfl⟩
        | some ranked =>
            obtain ⟨_, ranks⟩ := induction
            rw [← ranks]
            exact ⟨by simp, rfl⟩
      · rw [if_neg same, if_neg same, List.append_nil]
        exact induction

theorem recorded_recordLists (rankedLists : List (List (RankedItem β))) (id : Text) :
    Recorded (ranksOf rankedLists id) ((recordLists rankedLists).get? id) := by
  rw [recordLists_eq, ranksOf_eq]
  exact recorded_foldl id _

theorem occurrences_eq_nil_iff {id : Text} {rankedList : List (RankedItem β)} :
    occurrences id rankedList = [] ↔ ∀ item ∈ rankedList, item.key ≠ some id := by
  rw [occurrences, ranksAmong, List.filterMap_eq_nil_iff]
  constructor
  · intro none item member same
    rw [← List.zipIdx_map_fst 1 rankedList, List.mem_map] at member
    obtain ⟨entry, member, rfl⟩ := member
    have absent := none entry member
    rw [if_pos same] at absent
    cases absent
  · intro absent entry member
    exact if_neg (absent entry.1 (List.fst_mem_of_mem_zipIdx member))

theorem ranksOf_eq_nil_iff {rankedLists : List (List (RankedItem β))} {id : Text} :
    ranksOf rankedLists id = [] ↔ ¬ Appears rankedLists id := by
  rw [ranksOf, List.flatMap_eq_nil_iff, Appears]
  simp only [occurrences_eq_nil_iff, not_exists, not_and, ne_eq]

theorem mem_keys_recordLists {rankedLists : List (List (RankedItem β))} {id : Text} :
    id ∈ (recordLists rankedLists).keys ↔ Appears rankedLists id := by
  have recorded := recorded_recordLists rankedLists id
  rw [Library.Dict.mem_keys_iff]
  generalize (recordLists rankedLists).get? id = seen at recorded
  cases seen with
  | none =>
      have absent := ranksOf_eq_nil_iff.mp recorded
      simp [absent]
  | some ranked =>
      have present := not_not.mp (mt ranksOf_eq_nil_iff.mpr recorded.1)
      simp [present]

theorem ranksOf_unrepeated {rankedLists : List (List (RankedItem β))} {id : Text}
    (unrepeated : Unrepeated rankedLists id) :
    ranksOf rankedLists id =
      rankedLists.filterMap fun rankedList => (occurrences id rankedList).head? := by
  rw [ranksOf]
  induction rankedLists with
  | nil => rfl
  | cons rankedList rankedLists induction =>
      rw [Unrepeated, List.forall_mem_cons] at unrepeated
      obtain ⟨once, rest⟩ := unrepeated
      rw [List.flatMap_cons, induction rest]
      match ranks : occurrences id rankedList, once with
      | [], _ => rw [List.filterMap_cons_none (by rw [ranks, List.head?_nil]), List.nil_append]
      | [rank], _ =>
          rw [List.filterMap_cons_some (by rw [ranks, List.head?_cons]), List.singleton_append]

end Ranks

section Scores

theorem reciprocalRank_nonneg (rank : Nat) : 0 ≤ reciprocalRank rank := by
  apply Arithmetic.fl_nonneg
  apply one_div_nonneg.mpr
  exact Arithmetic.fl_nonneg (Nat.cast_nonneg _)

theorem abs_rrfScore_sub_le (ranks : List Nat) :
    |rrfScore ranks - (ranks.map fun rank => 1 / ((rrfK + rank : Nat) : ℚ)).sum| ≤
      binary64.slack (5 * ranks.length + 4) *
          (ranks.map fun rank => 1 / ((rrfK + rank : Nat) : ℚ)).sum +
        (1 + binary64.unit) * (1 / 2 / 10 ^ 6) := by
  have positive : ∀ rank : Nat, (0 : ℚ) < (rrfK + rank : Nat) := fun rank =>
    Nat.cast_pos.mpr (Nat.add_pos_left (by decide) rank)
  have nonneg : 0 ≤ (ranks.map fun rank => 1 / ((rrfK + rank : Nat) : ℚ)).sum := by
    apply List.sum_nonneg
    intro term member
    obtain ⟨rank, _, rfl⟩ := List.mem_map.mp member
    exact (one_div_pos.mpr (positive rank)).le
  have summed := Arithmetic.abs_compensatedSum_map_sub_le
    (fun rank _ => reciprocalRank_nonneg rank)
    (fun rank (_ : rank ∈ ranks) =>
      @Arithmetic.abs_reciprocal_sub_le binary64 _ (positive rank))
  exact Arithmetic.abs_fl_roundDecimal_sub_le nonneg summed 6

theorem abs_storedScore_sub_le {β : Type} {rankedLists : List (List (RankedItem β))} {id : Text}
    (unrepeated : Unrepeated rankedLists id) :
    |storedScore rankedLists id - exactScore rankedLists id| ≤ scoreError rankedLists id := by
  have close := abs_rrfScore_sub_le (ranksOf rankedLists id)
  rw [scoreError, storedScore, exactScore, ← ranksOf_unrepeated unrepeated]
  exact close

end Scores

section Results

variable {β : Type}

/-- All ids of the lists, each once with its score, the highest one first. -/
structure Ranking (rankedLists : List (List (RankedItem β))) (ranking : List (FusedItem β)) :
    Prop where
  distinct : (ranking.map FusedItem.id).Nodup
  complete : ∀ id, id ∈ ranking.map FusedItem.id ↔ Appears rankedLists id
  stored : ∀ entry ∈ ranking, entry.rrfScore = storedScore rankedLists entry.id
  ordered : ranking.Pairwise fun first second => second.rrfScore ≤ first.rrfScore

theorem ranking_sortedItems (rankedLists : List (List (RankedItem β))) :
    Ranking rankedLists (sortedItems rankedLists) := by
  have same : ((sortedItems rankedLists).map FusedItem.id).Perm
      (recordLists rankedLists).keys := by
    refine ((List.perm_insertionSort _ _).map FusedItem.id).trans ?_
    rw [List.map_map]
    exact List.Perm.refl _
  refine ⟨same.nodup_iff.mpr (recordLists rankedLists).distinct, ?_, ?_, ?_⟩
  · intro id
    rw [same.mem_iff, mem_keys_recordLists]
  · intro entry member
    obtain ⟨item, recordedItem, rfl⟩ := List.mem_map.mp ((List.mem_insertionSort _).mp member)
    have recorded := recorded_recordLists rankedLists item.1
    rw [Library.Dict.mem_items_iff.mp recordedItem] at recorded
    rw [storedScore, ← recorded.2]
  · have total : Std.Total fun first second : FusedItem β => second.rrfScore ≤ first.rrfScore :=
      ⟨fun first second => le_total second.rrfScore first.rrfScore⟩
    have trans : IsTrans (FusedItem β) fun first second => second.rrfScore ≤ first.rrfScore :=
      ⟨fun _ _ _ left right => le_trans right left⟩
    exact List.pairwise_insertionSort _ _

theorem sliceTo_sublist {α : Type} (stop : Int) (items : List α) :
    (sliceTo stop items).Sublist items :=
  List.take_sublist _ _

/-- Whoever is cut off stands behind whoever is not. -/
theorem Ranking.omitted_le {rankedLists : List (List (RankedItem β))}
    {ranking : List (FusedItem β)} (ranked : Ranking rankedLists ranking) {stop : Int} {id : Text}
    (appears : Appears rankedLists id) (omitted : id ∉ (sliceTo stop ranking).map FusedItem.id)
    {entry : FusedItem β} (returned : entry ∈ sliceTo stop ranking) :
    storedScore rankedLists id ≤ entry.rrfScore := by
  obtain ⟨other, member, rfl⟩ := List.mem_map.mp ((ranked.complete id).mpr appears)
  rw [← ranked.stored other member]
  exact related_of_cut ranked.ordered returned member fun kept =>
    omitted (List.mem_map_of_mem kept)

end Results

/-- Each id is returned once, in the order of the rounded scores, and no omitted
one has a higher rounded score.  Where no list repeats an id, its rounded score
is close to its exact one, and the exact order is kept up to the errors. -/
theorem rrfMerge_close {β : Type} (rankedLists : List (List (RankedItem β))) (topN : Int) :
    (∃ ranking, Ranking rankedLists ranking ∧
      rrfMerge rankedLists topN = sliceTo topN ranking) ∧
    ((rrfMerge rankedLists topN).map FusedItem.id).Nodup ∧
    (rrfMerge rankedLists topN).Pairwise (fun first second =>
      second.rrfScore ≤ first.rrfScore) ∧
    (∀ entry ∈ rrfMerge rankedLists topN, ∀ id, Appears rankedLists id →
      id ∉ (rrfMerge rankedLists topN).map FusedItem.id →
        storedScore rankedLists id ≤ entry.rrfScore) ∧
    (∀ entry ∈ rrfMerge rankedLists topN, Unrepeated rankedLists entry.id →
      |entry.rrfScore - exactScore rankedLists entry.id| ≤ scoreError rankedLists entry.id ∧
      ∀ id, Appears rankedLists id → Unrepeated rankedLists id →
        id ∉ (rrfMerge rankedLists topN).map FusedItem.id →
          exactScore rankedLists id ≤ exactScore rankedLists entry.id +
            (scoreError rankedLists entry.id + scoreError rankedLists id)) ∧
    (rrfMerge rankedLists topN).Pairwise fun first second =>
      Unrepeated rankedLists first.id → Unrepeated rankedLists second.id →
        exactScore rankedLists second.id ≤ exactScore rankedLists first.id +
          (scoreError rankedLists first.id + scoreError rankedLists second.id) := by
  have ranked := ranking_sortedItems rankedLists
  have cut : (rrfMerge rankedLists topN).Sublist (sortedItems rankedLists) :=
    sliceTo_sublist topN _
  have stored := fun entry member => ranked.stored entry (cut.subset member)
  have ordered := ranked.ordered.sublist cut
  have omitted : ∀ entry ∈ rrfMerge rankedLists topN, ∀ id, Appears rankedLists id →
      id ∉ (rrfMerge rankedLists topN).map FusedItem.id →
        storedScore rankedLists id ≤ entry.rrfScore :=
    fun entry member id appears absent => ranked.omitted_le appears absent member
  refine ⟨⟨sortedItems rankedLists, ranked, rfl⟩, ranked.distinct.sublist (cut.map _), ordered,
    omitted, ?_, ?_⟩
  · intro entry member unrepeated
    have close := abs_storedScore_sub_le unrepeated
    rw [stored entry member]
    refine ⟨close, ?_⟩
    intro id appears unrepeated' absent
    have close' := abs_storedScore_sub_le unrepeated'
    have less := omitted entry member id appears absent
    rw [stored entry member] at less
    linarith [(abs_le.mp close).2, (abs_le.mp close').1]
  · refine ordered.imp_of_mem ?_
    intro first second member member' less unrepeated unrepeated'
    have close := abs_storedScore_sub_le unrepeated
    have close' := abs_storedScore_sub_le unrepeated'
    rw [stored first member, stored second member'] at less
    linarith [(abs_le.mp close).2, (abs_le.mp close').1]

/-- Lists of items whose ids have one letter. -/
def lettered (letters : String) : List (RankedItem Unit) :=
  letters.toList.map fun letter => { id := some [letter], content := () }

/-- Two ids whose scores differ by less than the sixth decimal. -/
def closeScores : List (List (RankedItem Unit)) :=
  [lettered "cadb", lettered "eafb", lettered "bghia"]

theorem rrfMerge_close_closeScores :
    ∀ entry ∈ rrfMerge closeScores 1,
      |entry.rrfScore - exactScore closeScores entry.id| ≤ scoreError closeScores entry.id := by
  intro entry member
  have returned : (rrfMerge closeScores 1).map FusedItem.id = [['a']] := by decide +kernel
  have named : entry.id = ['a'] := by
    rw [← List.mem_singleton, ← returned]
    exact List.mem_map_of_mem member
  apply ((rrfMerge_close closeScores 1).2.2.2.2.1 entry member _).1
  rw [named]
  decide +kernel

/-- The id that is left out has the higher exact score, and the returned score is
not the exact one. -/
theorem exact_order_lost :
    (rrfMerge closeScores 1).map FusedItem.id = [['a']] ∧
      Appears closeScores ['b'] ∧
      exactScore closeScores ['a'] < exactScore closeScores ['b'] ∧
      ∀ entry ∈ rrfMerge closeScores 1, entry.rrfScore ≠ exactScore closeScores entry.id := by
  decide +kernel

end OpenZync.Retrieval
