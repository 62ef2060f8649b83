import Mathlib.Data.List.Basic
import Mathlib.Data.List.Sort

/-!
# Lookups and first items

The first row of a table that meets a condition: it is a row, it meets the
condition, and where no other row does, it is the one that is found.

Items are collected in their order and dropped where their key is there already.
A sorted list is cut: whatever is cut off stands behind whatever is kept.  Sorting
keeps the order of any part of the list that is sorted by itself.
-/

namespace OpenZync.Library

variable {ρ : Type} {rows : List ρ} {row : ρ}

theorem lookup_some {P : ρ → Prop} [DecidablePred P]
    (found : rows.find? (fun row => decide (P row)) = some row) : row ∈ rows ∧ P row := by
  have meets : decide (P row) = true := List.find?_some (p := fun row => decide (P row)) found
  exact ⟨List.mem_of_find?_eq_some found, of_decide_eq_true meets⟩

theorem lookup_of_unique {p : ρ → Bool} (stored : row ∈ rows) (meets : p row = true)
    (unique : ∀ other ∈ rows, p other = true → other = row) : rows.find? p = some row := by
  have present : (rows.find? p).isSome = true := by
    rw [List.find?_isSome]
    exact ⟨row, stored, meets⟩
  obtain ⟨other, found⟩ := Option.isSome_iff_exists.mp present
  rw [found, unique other (List.mem_of_find?_eq_some found) (List.find?_some found)]

section Related

variable {σ : Type} {R : ρ → σ → Prop} {others : List σ}

/-- In lists whose items are related one by one, every item has its partner. -/
theorem exists_related (related : List.Forall₂ R rows others) (member : row ∈ rows) :
    ∃ other ∈ others, R row other := by
  obtain ⟨index, below, rfl⟩ := List.mem_iff_getElem.mp member
  have sameLength := related.length_eq
  exact ⟨others[index], List.getElem_mem _, related.get below (sameLength ▸ below)⟩

theorem exists_related_of_right {other : σ} (related : List.Forall₂ R rows others)
    (member : other ∈ others) : ∃ row ∈ rows, R row other :=
  exists_related related.flip member

/-- The first items that meet related conditions are partners. -/
theorem find?_rel {p : ρ → Bool} {q : σ → Bool}
    (same : ∀ row other, R row other → p row = q other) (related : List.Forall₂ R rows others) :
    Option.Rel R (rows.find? p) (others.find? q) := by
  induction related with
  | nil => exact .none
  | @cons row other rows others first _ induction =>
      rw [List.find?_cons, List.find?_cons, same row other first]
      cases q other with
      | true => exact .some first
      | false => exact induction

end Related

section FirstItems

variable {α κ : Type} [DecidableEq κ] (key : α → κ)

/-- Append an item whose key is new. -/
def addFirst (items : List α) (item : α) : List α :=
  if key item ∈ items.map key then items else items ++ [item]

def addFirsts (items new : List α) : List α :=
  new.foldl (addFirst key) items

theorem addFirsts_cons (items new : List α) (item : α) :
    addFirsts key items (item :: new) = addFirsts key (addFirst key items item) new :=
  rfl

theorem nodup_addFirst {items : List α} (distinct : (items.map key).Nodup) (item : α) :
    ((addFirst key items item).map key).Nodup := by
  rw [addFirst]
  split
  · exact distinct
  · rename_i absent
    rw [List.map_append, List.map_singleton, List.nodup_append_comm, List.singleton_append,
      List.nodup_cons]
    exact ⟨absent, distinct⟩

theorem nodup_addFirsts {items : List α} (distinct : (items.map key).Nodup) (new : List α) :
    ((addFirsts key items new).map key).Nodup := by
  induction new generalizing items with
  | nil => exact distinct
  | cons item new induction => exact induction (nodup_addFirst key distinct item)

theorem subset_addFirsts (items new : List α) : items ⊆ addFirsts key items new := by
  induction new generalizing items with
  | nil => exact List.Subset.refl items
  | cons item new induction =>
      refine List.Subset.trans ?_ (induction (addFirst key items item))
      rw [addFirst]
      split
      · exact List.Subset.refl items
      · exact List.subset_append_left items [item]

theorem find?_addFirst (items : List α) (item : α) (wanted : κ) :
    (addFirst key items item).find? (fun other => key other = wanted) =
      (items ++ [item]).find? (fun other => key other = wanted) := by
  rw [addFirst]
  split
  · rename_i present
    obtain ⟨other, member, same⟩ := List.mem_map.mp present
    rw [List.find?_append]
    by_cases named : key item = wanted
    · have found : (items.find? fun other => key other = wanted).isSome = true := by
        rw [List.find?_isSome]
        exact ⟨other, member, decide_eq_true (same.trans named)⟩
      obtain ⟨first, found⟩ := Option.isSome_iff_exists.mp found
      rw [found, Option.some_or]
    · rw [List.find?_singleton, if_neg (by simpa using named), Option.or_none]
  · rfl

theorem find?_addFirsts (items new : List α) (wanted : κ) :
    (addFirsts key items new).find? (fun other => key other = wanted) =
      (items ++ new).find? (fun other => key other = wanted) := by
  induction new generalizing items with
  | nil => rw [List.append_nil]; rfl
  | cons item new induction =>
      rw [addFirsts_cons, induction, List.find?_append, find?_addFirst, ← List.find?_append,
        List.append_assoc, List.singleton_append]

theorem mem_iff_find? {items : List α} (distinct : (items.map key).Nodup) {item : α} :
    item ∈ items ↔ items.find? (fun other => key other = key item) = some item := by
  constructor
  · intro member
    apply lookup_of_unique member (decide_eq_true rfl)
    intro other member' same
    exact List.inj_on_of_nodup_map distinct member' member (of_decide_eq_true same)
  · exact List.mem_of_find?_eq_some

theorem mem_addFirsts {items new : List α} (distinct : (items.map key).Nodup)
    (told : ∀ first ∈ new, ∀ second ∈ new, key first = key second → first = second) {item : α} :
    item ∈ addFirsts key items new ↔
      item ∈ items ∨ key item ∉ items.map key ∧ item ∈ new := by
  rw [mem_iff_find? key (nodup_addFirsts key distinct new), find?_addFirsts, List.find?_append]
  by_cases present : key item ∈ items.map key
  · have found : (items.find? fun other => key other = key item).isSome = true := by
      obtain ⟨other, member, same⟩ := List.mem_map.mp present
      rw [List.find?_isSome]
      exact ⟨other, member, decide_eq_true same⟩
    obtain ⟨first, found⟩ := Option.isSome_iff_exists.mp found
    rw [mem_iff_find? key distinct, found, Option.some_or]
    simp [present]
  · have missing : items.find? (fun other => key other = key item) = none := by
      rw [List.find?_eq_none]
      intro other member same
      exact present (List.mem_map.mpr ⟨other, member, of_decide_eq_true same⟩)
    rw [missing, Option.none_or]
    constructor
    · intro found
      exact Or.inr ⟨present, List.mem_of_find?_eq_some found⟩
    · rintro (member | ⟨_, member⟩)
      · exact absurd (List.mem_map_of_mem member) present
      · apply lookup_of_unique member (decide_eq_true rfl)
        intro other member' same
        exact told other member' item member (of_decide_eq_true same)

/-- The first item of each key, in the order of the items. -/
def firstItems (items : List α) : List α :=
  addFirsts key [] items

theorem nodup_firstItems (items : List α) : ((firstItems key items).map key).Nodup :=
  nodup_addFirsts key (by simp) items

variable {key}

theorem mem_firstItems {items : List α} {item : α} :
    item ∈ firstItems key items ↔
      items.find? (fun other => key other = key item) = some item := by
  rw [mem_iff_find? key (nodup_firstItems key items), firstItems, find?_addFirsts, List.nil_append]

theorem mem_of_mem_firstItems {items : List α} {item : α} (first : item ∈ firstItems key items) :
    item ∈ items :=
  List.mem_of_find?_eq_some (mem_firstItems.mp first)

theorem exists_firstItem (key : α → κ) {items : List α} {item : α} (member : item ∈ items) :
    ∃ first ∈ firstItems key items, key first = key item := by
  have present : (items.find? fun other => key other = key item).isSome = true := by
    rw [List.find?_isSome]
    exact ⟨item, member, decide_eq_true rfl⟩
  obtain ⟨first, found⟩ := Option.isSome_iff_exists.mp present
  have same := (lookup_some found).2
  exact ⟨first, mem_firstItems.mpr (same ▸ found), same⟩

theorem related_of_first {items : List α} {R : α → α → Prop} (sorted : items.Pairwise R)
    {first other : α} (member : first ∈ firstItems key items) (present : other ∈ items)
    (same : key other = key first) : other = first ∨ R first other := by
  obtain ⟨_, before, after, split, none⟩ :=
    List.find?_eq_some_iff_append.mp (mem_firstItems.mp member)
  rw [split] at present sorted
  rcases List.mem_append.mp present with early | late
  · have different := none other early
    simp [same] at different
  · rcases List.mem_cons.mp late with rfl | later
    · exact Or.inl rfl
    · exact Or.inr ((List.pairwise_cons.mp (List.pairwise_append.mp sorted).2.1).1 other later)

end FirstItems

section Cuts

variable {α : Type} {items : List α}

theorem related_of_cut {R : α → α → Prop} (sorted : items.Pairwise R) {count : Nat}
    {kept cut : α} (early : kept ∈ items.take count) (member : cut ∈ items)
    (late : cut ∉ items.take count) : R kept cut := by
  rw [← List.take_append_drop count items] at sorted member
  rcases List.mem_append.mp member with early' | behind
  · exact absurd early' late
  · exact (List.pairwise_append.mp sorted).2.2 kept early cut behind

/-- Where enough items are near, all that are kept are near. -/
theorem forall_take_of_countP {P : α → Prop} [DecidablePred P]
    (sorted : items.Pairwise fun first second => P second → P first) {count : Nat}
    (enough : count ≤ items.countP fun item => decide (P item)) :
    ∀ item ∈ items.take count, P item := by
  induction items generalizing count with
  | nil => simp
  | cons first rest induction =>
      rw [List.pairwise_cons] at sorted
      cases count with
      | zero => simp
      | succ count =>
          rw [List.take_succ_cons, List.forall_mem_cons]
          by_cases near : P first
          · rw [List.countP_cons, if_pos (decide_eq_true near)] at enough
            exact ⟨near, induction sorted.2 (Nat.le_of_succ_le_succ enough)⟩
          · have none : (rest.countP fun item => decide (P item)) = 0 := by
              rw [List.countP_eq_zero]
              intro item member held
              exact near (sorted.1 item member (of_decide_eq_true held))
            rw [List.countP_cons, if_neg (by simpa using near), none] at enough
            exact absurd enough (Nat.not_succ_le_zero count)

end Cuts

section Sorting

variable {α : Type} {r : α → α → Prop} [DecidableRel r] {items : List α} {item : α}
  {keep : α → Bool}

theorem orderedInsert_of_forall (before : ∀ other ∈ items, r item other) :
    items.orderedInsert r item = item :: items := by
  cases items with
  | nil => rfl
  | cons head tail =>
      rw [List.orderedInsert_cons, if_pos (before head List.mem_cons_self)]

theorem filter_orderedInsert [IsTrans α r] (sorted : items.Pairwise r) :
    (items.orderedInsert r item).filter keep =
      if keep item = true then (items.filter keep).orderedInsert r item
      else items.filter keep := by
  induction items with
  | nil => cases kept : keep item <;> simp [kept]
  | cons head tail induction =>
      rw [List.pairwise_cons] at sorted
      rw [List.orderedInsert_cons]
      by_cases first : r item head
      · rw [if_pos first, List.filter_cons]
        by_cases kept : keep item = true
        · rw [if_pos kept, if_pos kept, orderedInsert_of_forall]
          intro other member
          rcases List.mem_cons.mp (List.mem_of_mem_filter member) with rfl | later
          · exact first
          · exact IsTrans.trans _ _ _ first (sorted.1 other later)
        · rw [if_neg kept, if_neg kept]
      · rw [if_neg first, List.filter_cons, List.filter_cons, induction sorted.2]
        by_cases kept : keep item = true
        · rw [if_pos kept, if_pos kept]
          by_cases keptHead : keep head = true
          · rw [if_pos keptHead, if_pos keptHead, List.orderedInsert_cons, if_neg first]
          · rw [if_neg keptHead, if_neg keptHead]
        · rw [if_neg kept, if_neg kept]

theorem filter_insertionSort [Std.Total r] [IsTrans α r] (items : List α) (keep : α → Bool) :
    (items.insertionSort r).filter keep = (items.filter keep).insertionSort r := by
  induction items with
  | nil => rfl
  | cons head tail induction =>
      rw [List.insertionSort_cons, filter_orderedInsert (List.pairwise_insertionSort r tail),
        induction, List.filter_cons]
      by_cases kept : keep head = true
      · rw [if_pos kept, if_pos kept, List.insertionSort_cons]
      · rw [if_neg kept, if_neg kept]

end Sorting

end OpenZync.Library
