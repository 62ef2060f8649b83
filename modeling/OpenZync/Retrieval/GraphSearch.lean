import Mathlib.Data.List.Perm.Subperm
import Mathlib.Order.WithBot
import OpenZync.Library.FirstItems
import OpenZync.Text

/-!
# The graph leg of the retrieval

`_graph_bfs_search`, from the answers of the graph backends on: their results
are collected by identifier, sorted by distance and cut.

The first item of an identifier is kept.  The result has the least distances
exactly when that is the closest one.
-/

namespace OpenZync.Retrieval

open OpenZync.Library

section Search

variable {δ β : Type}

/-- A dictionary that a backend returns: its `id` as `str` gives it, and its
distance where that is a finite number. -/
structure GraphItem (δ β : Type) where
  id : Option Text
  distance : Option δ
  content : β

/-- What `retrieve_graph` of a backend comes to. -/
inductive BackendAnswer (δ β : Type) where
  | raised
  | noList
  /-- A list; an element that is no dictionary is `none`. -/
  | items (results : List (Option (GraphItem δ β)))

/-- An item with an identifier. -/
structure GraphNode (δ β : Type) where
  id : Text
  distance : Option δ
  content : β

/-- `MAX_BFS_RESULTS` -/
def maxBfsResults : Nat :=
  50

/-- `_safe_retrieve` -/
def BackendAnswer.safeRetrieve : BackendAnswer δ β → List (Option (GraphItem δ β))
  | .raised => []
  | .noList => []
  | .items results => results

/-- The item under its identifier; malformed items and items without one are
skipped. -/
def wellFormed (item : Option (GraphItem δ β)) : Option (GraphNode δ β) :=
  match item with
  | none => none
  | some item =>
      match item.id with
      | none => none
      | some [] => none
      | some (c :: cs) =>
          some { id := c :: cs, distance := item.distance, content := item.content }

/-- One turn of the inner loop; `seen` holds the identifiers of `merged`. -/
def mergeItem (merged : List (GraphNode δ β)) (item : Option (GraphItem δ β)) :
    List (GraphNode δ β) :=
  match wellFormed item with
  | none => merged
  | some node => addFirst GraphNode.id merged node

/-- `_distance`: a missing distance is infinite. -/
def GraphNode.reach (node : GraphNode δ β) : WithTop δ :=
  node.distance

variable [LinearOrder δ]

/-- `_graph_bfs_search` -/
def graphBfsSearch (answers : List (BackendAnswer δ β)) : List (GraphNode δ β) :=
  ((answers.foldl (fun merged answer => answer.safeRetrieve.foldl mergeItem merged)
      []).insertionSort fun first second => first.reach ≤ second.reach).take maxBfsResults

end Search

section Collected

variable {δ β : Type}

/-- The items of all answers under their identifiers. -/
def nodesOf (answers : List (BackendAnswer δ β)) : List (GraphNode δ β) :=
  (answers.flatMap BackendAnswer.safeRetrieve).filterMap wellFormed

theorem foldl_mergeItem (merged : List (GraphNode δ β)) (items : List (Option (GraphItem δ β))) :
    items.foldl mergeItem merged = addFirsts GraphNode.id merged (items.filterMap wellFormed) := by
  induction items generalizing merged with
  | nil => rfl
  | cons item items induction =>
      rw [List.foldl_cons, induction, mergeItem]
      cases node : wellFormed item with
      | none => rw [List.filterMap_cons_none node]
      | some node => rw [List.filterMap_cons_some node, addFirsts_cons]

theorem collected_eq (answers : List (BackendAnswer δ β)) :
    answers.foldl (fun merged answer => answer.safeRetrieve.foldl mergeItem merged) [] =
      firstItems GraphNode.id (nodesOf answers) := by
  rw [← List.foldl_flatMap, foldl_mergeItem]
  rfl

end Collected

section Results

variable {δ β : Type} [LinearOrder δ] {answers : List (BackendAnswer δ β)}

/-- No identifier twice, by ascending distance, each with the least of its
distances over all answers. -/
structure ClosestFirst (answers : List (BackendAnswer δ β)) (result : List (GraphNode δ β)) :
    Prop where
  distinct : (result.map GraphNode.id).Nodup
  ascending : result.Pairwise fun first second => first.reach ≤ second.reach
  found : ∀ node ∈ result, node ∈ nodesOf answers
  closest : ∀ node ∈ result, ∀ other ∈ nodesOf answers, other.id = node.id →
    node.reach ≤ other.reach

/-- Whoever is missing would not be among the closest. -/
def CutOffBehind (answers : List (BackendAnswer δ β)) (result : List (GraphNode δ β)) : Prop :=
  ∀ missing ∈ nodesOf answers, missing.id ∉ result.map GraphNode.id →
    result.length = maxBfsResults ∧ ∀ node ∈ result, node.reach ≤ missing.reach

def Complete (answers : List (BackendAnswer δ β)) (result : List (GraphNode δ β)) : Prop :=
  ∀ node ∈ nodesOf answers, node.id ∈ result.map GraphNode.id

/-- The collected items, sorted. -/
def sortedNodes (answers : List (BackendAnswer δ β)) : List (GraphNode δ β) :=
  (firstItems GraphNode.id (nodesOf answers)).insertionSort fun first second =>
    first.reach ≤ second.reach

theorem graphBfsSearch_eq (answers : List (BackendAnswer δ β)) :
    graphBfsSearch answers = (sortedNodes answers).take maxBfsResults := by
  rw [graphBfsSearch, collected_eq, sortedNodes]

theorem mem_sortedNodes {node : GraphNode δ β} :
    node ∈ sortedNodes answers ↔ node ∈ firstItems GraphNode.id (nodesOf answers) :=
  List.mem_insertionSort _

theorem pairwise_sortedNodes (answers : List (BackendAnswer δ β)) :
    (sortedNodes answers).Pairwise fun first second => first.reach ≤ second.reach := by
  have total : Std.Total fun first second : GraphNode δ β => first.reach ≤ second.reach :=
    ⟨fun first second => le_total first.reach second.reach⟩
  have trans : IsTrans (GraphNode δ β) fun first second => first.reach ≤ second.reach :=
    ⟨fun _ _ _ left right => le_trans left right⟩
  exact List.pairwise_insertionSort _ _

theorem nodup_sortedNodes (answers : List (BackendAnswer δ β)) :
    ((sortedNodes answers).map GraphNode.id).Nodup :=
  ((List.perm_insertionSort _ _).map GraphNode.id).nodup_iff.mpr (nodup_firstItems _ _)

theorem mem_graphBfsSearch {node : GraphNode δ β} (returned : node ∈ graphBfsSearch answers) :
    node ∈ firstItems GraphNode.id (nodesOf answers) := by
  rw [graphBfsSearch_eq] at returned
  exact mem_sortedNodes.mp (List.mem_of_mem_take returned)

/-- The items of one identifier are no closer than its first one. -/
def FirstIsClosest (answers : List (BackendAnswer δ β)) (first : GraphNode δ β) : Prop :=
  ∀ other ∈ nodesOf answers, other.id = first.id → first.reach ≤ other.reach

/-- So many identifiers have their first item in reach. -/
def nearby (answers : List (BackendAnswer δ β)) (reach : WithTop δ) : Nat :=
  (firstItems GraphNode.id (nodesOf answers)).countP fun node => decide (node.reach ≤ reach)

theorem closestFirst_of (closest : ∀ node ∈ graphBfsSearch answers, FirstIsClosest answers node) :
    ClosestFirst answers (graphBfsSearch answers) := by
  refine ⟨?_, ?_, ?_, closest⟩
  · rw [graphBfsSearch_eq]
    exact (nodup_sortedNodes answers).sublist ((List.take_sublist _ _).map _)
  · rw [graphBfsSearch_eq]
    exact (pairwise_sortedNodes answers).sublist (List.take_sublist _ _)
  · intro node returned
    exact mem_of_mem_firstItems (mem_graphBfsSearch returned)

theorem nearby_eq (answers : List (BackendAnswer δ β)) (reach : WithTop δ) :
    nearby answers reach =
      (sortedNodes answers).countP fun node => decide (node.reach ≤ reach) := by
  rw [nearby, sortedNodes, (List.perm_insertionSort _ _).countP_eq]

theorem reach_le_of_nearby {reach : WithTop δ} (enough : maxBfsResults ≤ nearby answers reach) :
    ∀ node ∈ graphBfsSearch answers, node.reach ≤ reach := by
  rw [graphBfsSearch_eq]
  apply forall_take_of_countP
  · exact (pairwise_sortedNodes answers).imp fun before near => le_trans before near
  · rw [← nearby_eq]
    exact enough

theorem length_graphBfsSearch (answers : List (BackendAnswer δ β)) :
    (graphBfsSearch answers).length =
      min maxBfsResults (firstItems GraphNode.id (nodesOf answers)).length := by
  rw [graphBfsSearch_eq, List.length_take, sortedNodes, List.length_insertionSort]

theorem cut_of_missing {first : GraphNode δ β}
    (member : first ∈ firstItems GraphNode.id (nodesOf answers))
    (missing : first ∉ graphBfsSearch answers) :
    (graphBfsSearch answers).length = maxBfsResults ∧
      ∀ node ∈ graphBfsSearch answers, node.reach ≤ first.reach := by
  have sorted := mem_sortedNodes.mpr member
  rw [graphBfsSearch_eq] at missing ⊢
  refine ⟨?_, fun node returned =>
    related_of_cut (pairwise_sortedNodes answers) returned sorted missing⟩
  rw [List.length_take]
  apply Nat.min_eq_left
  apply Nat.le_of_not_gt
  intro short
  rw [List.take_of_length_le (Nat.le_of_lt short)] at missing
  exact missing sorted

theorem first_of_returned {first node : GraphNode δ β}
    (member : first ∈ firstItems GraphNode.id (nodesOf answers))
    (returned : node ∈ graphBfsSearch answers) (same : node.id = first.id) : node = first :=
  List.inj_on_of_nodup_map (nodup_firstItems _ _) (mem_graphBfsSearch returned) member same

theorem closest_cut_iff (answers : List (BackendAnswer δ β)) :
    ClosestFirst answers (graphBfsSearch answers) ∧
        CutOffBehind answers (graphBfsSearch answers) ↔
      ∀ first ∈ firstItems GraphNode.id (nodesOf answers), ∀ other ∈ nodesOf answers,
        other.id = first.id →
          first.reach ≤ other.reach ∨ maxBfsResults ≤ nearby answers other.reach := by
  constructor
  · rintro ⟨best, cut⟩ first member other occurs same
    by_cases returned : first ∈ graphBfsSearch answers
    · exact Or.inl (best.closest first returned other occurs same)
    · right
      have absent : other.id ∉ (graphBfsSearch answers).map GraphNode.id := by
        intro present
        obtain ⟨node, kept, named⟩ := List.mem_map.mp present
        exact returned (first_of_returned member kept (named.trans same) ▸ kept)
      obtain ⟨full, near⟩ := cut other occurs absent
      rw [← List.countP_eq_length.mpr fun node kept => decide_eq_true (near node kept)] at full
      rw [← full, nearby_eq, graphBfsSearch_eq]
      exact (List.take_sublist _ _).countP_le
  · intro firsts
    constructor
    · apply closestFirst_of
      intro node returned other occurs same
      rcases firsts node (mem_graphBfsSearch returned) other occurs same with closest | enough
      · exact closest
      · exact reach_le_of_nearby enough node returned
    · intro missing occurs absent
      obtain ⟨first, member, same⟩ := exists_firstItem GraphNode.id occurs
      have gone : first ∉ graphBfsSearch answers := by
        intro kept
        apply absent
        rw [← same]
        exact List.mem_map_of_mem kept
      obtain ⟨full, near⟩ := cut_of_missing member gone
      refine ⟨full, ?_⟩
      rcases firsts first member missing occurs same.symm with closest | enough
      · exact fun node returned => le_trans (near node returned) closest
      · exact reach_le_of_nearby enough

theorem closest_complete_iff (answers : List (BackendAnswer δ β)) :
    ClosestFirst answers (graphBfsSearch answers) ∧ Complete answers (graphBfsSearch answers) ↔
      (∀ first ∈ firstItems GraphNode.id (nodesOf answers), FirstIsClosest answers first) ∧
        (firstItems GraphNode.id (nodesOf answers)).length ≤ maxBfsResults := by
  constructor
  · rintro ⟨best, complete⟩
    have all : ∀ first ∈ firstItems GraphNode.id (nodesOf answers),
        first ∈ graphBfsSearch answers := by
      intro first member
      obtain ⟨node, kept, named⟩ :=
        List.mem_map.mp (complete first (mem_of_mem_firstItems member))
      exact first_of_returned member kept named ▸ kept
    constructor
    · exact fun first member => best.closest first (all first member)
    · have distinct := ((nodup_firstItems GraphNode.id (nodesOf answers)).of_map GraphNode.id)
      have fits := (List.subperm_of_subset distinct all).length_le
      rw [length_graphBfsSearch] at fits
      exact Nat.le_trans fits (Nat.min_le_left _ _)
  · rintro ⟨firsts, short⟩
    refine ⟨closestFirst_of fun node returned => firsts node (mem_graphBfsSearch returned), ?_⟩
    intro node occurs
    obtain ⟨first, member, same⟩ := exists_firstItem GraphNode.id occurs
    rw [← same, graphBfsSearch_eq, List.take_of_length_le]
    · exact List.mem_map_of_mem (mem_sortedNodes.mpr member)
    · rw [sortedNodes, List.length_insertionSort]
      exact short

end Results

/-- The distances are the least ones, and only farther identifiers are cut off,
exactly when every identifier comes with its least distance first or has enough
others within that distance; nothing is cut off besides exactly when there are
not too many identifiers. -/
theorem least_distances_iff {δ β : Type} [LinearOrder δ] (answers : List (BackendAnswer δ β)) :
    (ClosestFirst answers (graphBfsSearch answers) ∧
        CutOffBehind answers (graphBfsSearch answers) ↔
      ∀ first ∈ firstItems GraphNode.id (nodesOf answers), ∀ other ∈ nodesOf answers,
        other.id = first.id →
          first.reach ≤ other.reach ∨ maxBfsResults ≤ nearby answers other.reach) ∧
    (ClosestFirst answers (graphBfsSearch answers) ∧
        Complete answers (graphBfsSearch answers) ↔
      (∀ first ∈ firstItems GraphNode.id (nodesOf answers), FirstIsClosest answers first) ∧
        (firstItems GraphNode.id (nodesOf answers)).length ≤ maxBfsResults) :=
  ⟨closest_cut_iff answers, closest_complete_iff answers⟩

/-- Two backends that reach the same entity, the second one sooner. -/
def twoDistances : List (BackendAnswer Nat Unit) :=
  [.items [some { id := some "n".toList, distance := some 2, content := () }],
    .items [some { id := some "n".toList, distance := some 1, content := () }]]

/-- The first distance is kept, not the least one. -/
theorem farther_kept :
    graphBfsSearch twoDistances = [{ id := "n".toList, distance := some 2, content := () }] ∧
      ¬ ClosestFirst twoDistances (graphBfsSearch twoDistances) := by
  have kept : graphBfsSearch twoDistances =
      [{ id := "n".toList, distance := some 2, content := () }] := rfl
  refine ⟨kept, ?_⟩
  intro best
  have closest := best.closest { id := "n".toList, distance := some 2, content := () }
    (by rw [kept]; exact List.mem_cons_self)
    { id := "n".toList, distance := some 1, content := () }
    (List.mem_cons_of_mem _ List.mem_cons_self) rfl
  exact absurd closest (by decide)

end OpenZync.Retrieval
