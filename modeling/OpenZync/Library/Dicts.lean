import Mathlib.Data.List.Induction
import Mathlib.Data.List.Nodup

/-!
# Dictionaries in insertion order

A dictionary keeps its keys in the order in which they came.  Setting a key
that is there changes its value where it stands.
-/

namespace OpenZync.Library

/-- Distinct keys with their values. -/
structure Dict (κ ν : Type) where
  items : List (κ × ν)
  distinct : (items.map Prod.fst).Nodup

namespace Dict

variable {κ ν : Type}

def empty : Dict κ ν :=
  { items := []
    distinct := List.nodup_nil }

def keys (dict : Dict κ ν) : List κ :=
  dict.items.map Prod.fst

variable [DecidableEq κ]

def getItems (key : κ) : List (κ × ν) → Option ν
  | [] => none
  | (other, value) :: items => if key = other then some value else getItems key items

def get? (dict : Dict κ ν) (key : κ) : Option ν :=
  getItems key dict.items

def setItems (key : κ) (value : ν) : List (κ × ν) → List (κ × ν)
  | [] => [(key, value)]
  | (other, old) :: items =>
      if other = key then (key, value) :: items
      else (other, old) :: setItems key value items

theorem mem_setItems_keys {key other : κ} {value : ν} {items : List (κ × ν)} :
    other ∈ (setItems key value items).map Prod.fst ↔
      other = key ∨ other ∈ items.map Prod.fst := by
  induction items with
  | nil => simp [setItems]
  | cons item items induction =>
      rw [setItems]
      split
      · rename_i same
        simp [same]
      · simp only [List.map_cons, List.mem_cons, induction]
        tauto

theorem nodup_setItems (key : κ) (value : ν) {items : List (κ × ν)}
    (distinct : (items.map Prod.fst).Nodup) :
    ((setItems key value items).map Prod.fst).Nodup := by
  induction items with
  | nil => simp [setItems]
  | cons item items induction =>
      rw [List.map_cons, List.nodup_cons] at distinct
      rw [setItems]
      split
      · rename_i same
        rw [List.map_cons, List.nodup_cons, ← same]
        exact distinct
      · rename_i different
        rw [List.map_cons, List.nodup_cons, mem_setItems_keys]
        refine ⟨?_, induction distinct.2⟩
        rintro (same | later)
        · exact different same
        · exact distinct.1 later

/-- `dict[key] = value` -/
def set (dict : Dict κ ν) (key : κ) (value : ν) : Dict κ ν :=
  { items := setItems key value dict.items
    distinct := nodup_setItems key value dict.distinct }

/-- Set every item of the second dictionary in the first. -/
def update (dict other : Dict κ ν) : Dict κ ν :=
  other.items.foldl (fun result item => result.set item.1 item.2) dict

@[simp] theorem get?_empty (key : κ) : (empty : Dict κ ν).get? key = none :=
  rfl

theorem getItems_cons (item : κ × ν) (items : List (κ × ν)) (key : κ) :
    getItems key (item :: items) = if key = item.1 then some item.2 else getItems key items :=
  rfl

theorem getItems_eq_none {items : List (κ × ν)} {key : κ}
    (absent : key ∉ items.map Prod.fst) : getItems key items = none := by
  induction items with
  | nil => rfl
  | cons item items induction =>
      rw [List.map_cons, List.mem_cons, not_or] at absent
      rw [getItems_cons, if_neg absent.1, induction absent.2]

theorem getItems_setItems (key other : κ) (value : ν) (items : List (κ × ν)) :
    getItems other (setItems key value items) =
      if other = key then some value else getItems other items := by
  induction items with
  | nil => rw [setItems, getItems_cons]
  | cons item items induction =>
      rw [setItems]
      split
      · rename_i same
        subst same
        rw [getItems_cons, getItems_cons]
        split
        · rfl
        · rfl
      · rename_i different
        rw [getItems_cons, getItems_cons, induction]
        by_cases same : other = item.1
        · rw [if_pos same, if_pos same, if_neg (same ▸ different)]
        · rw [if_neg same, if_neg same]

theorem get?_set (dict : Dict κ ν) (key other : κ) (value : ν) :
    (dict.set key value).get? other = if other = key then some value else dict.get? other :=
  getItems_setItems key other value dict.items

theorem get?_foldl_set_keys (keys : List κ) (value : ν) (dict : Dict κ ν) (key : κ) :
    (keys.foldl (fun dict key => dict.set key value) dict).get? key =
      if key ∈ keys then some value else dict.get? key := by
  induction keys generalizing dict with
  | nil => simp
  | cons first keys induction =>
      rw [List.foldl_cons, induction, get?_set]
      by_cases later : key ∈ keys
      · rw [if_pos later, if_pos (List.mem_cons_of_mem _ later)]
      · rw [if_neg later]
        by_cases same : key = first
        · rw [if_pos same, if_pos (same ▸ List.mem_cons_self)]
        · rw [if_neg same, if_neg (by simp [same, later])]

theorem getItems_eq_some_iff {items : List (κ × ν)} (distinct : (items.map Prod.fst).Nodup)
    {key : κ} {value : ν} : getItems key items = some value ↔ (key, value) ∈ items := by
  induction items with
  | nil => simp [getItems]
  | cons item items induction =>
      rw [List.map_cons, List.nodup_cons] at distinct
      rw [getItems_cons, List.mem_cons]
      split
      · rename_i same
        have absent : (key, value) ∉ items := by
          intro member
          apply distinct.1
          rw [← same]
          exact List.mem_map.mpr ⟨(key, value), member, rfl⟩
        rw [Option.some_inj, Prod.ext_iff]
        constructor
        · intro equal
          exact Or.inl ⟨same, equal.symm⟩
        · rintro (⟨_, equal⟩ | later)
          · exact equal.symm
          · exact (absent later).elim
      · rename_i different
        rw [induction distinct.2, Prod.ext_iff]
        simp [different]

theorem mem_items_iff {dict : Dict κ ν} {key : κ} {value : ν} :
    (key, value) ∈ dict.items ↔ dict.get? key = some value :=
  (getItems_eq_some_iff dict.distinct).symm

theorem mem_keys_iff {dict : Dict κ ν} {key : κ} :
    key ∈ dict.keys ↔ ∃ value, dict.get? key = some value := by
  rw [keys, List.mem_map]
  constructor
  · rintro ⟨⟨other, value⟩, member, rfl⟩
    exact ⟨value, mem_items_iff.mp member⟩
  · rintro ⟨value, found⟩
    exact ⟨(key, value), mem_items_iff.mpr found, rfl⟩

theorem get?_foldl_set (items : List (κ × ν)) (distinct : (items.map Prod.fst).Nodup)
    (dict : Dict κ ν) (key : κ) :
    (items.foldl (fun result item => result.set item.1 item.2) dict).get? key =
      (getItems key items).or (dict.get? key) := by
  induction items generalizing dict with
  | nil => rfl
  | cons item items induction =>
      rw [List.map_cons, List.nodup_cons] at distinct
      rw [List.foldl_cons, induction distinct.2, get?_set, getItems_cons]
      by_cases same : key = item.1
      · rw [getItems_eq_none (same ▸ distinct.1), if_pos same, if_pos same]
        rfl
      · rw [if_neg same, if_neg same]

/-- The values of the second dictionary win. -/
theorem get?_update (dict other : Dict κ ν) (key : κ) :
    (dict.update other).get? key = (other.get? key).or (dict.get? key) :=
  get?_foldl_set other.items other.distinct dict key

section Parts

variable {keep : κ → Bool}

theorem getItems_filter {key : κ} (kept : keep key = true) (items : List (κ × ν)) :
    getItems key (items.filter fun item => keep item.1) = getItems key items := by
  induction items with
  | nil => rfl
  | cons item items induction =>
      rw [List.filter_cons, getItems_cons]
      by_cases same : key = item.1
      · rw [if_pos same, ← same, if_pos kept, getItems_cons, if_pos same]
      · rw [if_neg same]
        split
        · rw [getItems_cons, if_neg same, induction]
        · exact induction

/-- A key is set in the part of a dictionary that it belongs to. -/
theorem filter_setItems (key : κ) (value : ν) (items : List (κ × ν)) :
    (setItems key value items).filter (fun item => keep item.1) =
      if keep key = true then setItems key value (items.filter fun item => keep item.1)
      else items.filter fun item => keep item.1 := by
  induction items with
  | nil => cases kept : keep key <;> simp [setItems, kept]
  | cons item items induction =>
      obtain ⟨other, old⟩ := item
      rw [setItems]
      by_cases same : other = key
      · subst same
        rw [if_pos rfl, List.filter_cons, List.filter_cons]
        split
        · rw [setItems, if_pos rfl]
        · rfl
      · rw [if_neg same, List.filter_cons, List.filter_cons, induction]
        by_cases kept : keep key = true
        · rw [if_pos kept, if_pos kept]
          split
          · rw [setItems, if_neg same]
          · rfl
        · rw [if_neg kept, if_neg kept]

end Parts

section Removal

/-- `dict.pop(key, None)` -/
def erase (dict : Dict κ ν) (key : κ) : Dict κ ν :=
  { items := dict.items.filter fun item => decide (item.1 ≠ key)
    distinct := dict.distinct.sublist (List.filter_sublist.map Prod.fst) }

theorem get?_erase (dict : Dict κ ν) (key other : κ) :
    (dict.erase key).get? other = if other = key then none else dict.get? other := by
  by_cases same : other = key
  · rw [if_pos same]
    apply getItems_eq_none
    intro member
    obtain ⟨item, kept, rfl⟩ := List.mem_map.mp member
    exact of_decide_eq_true (List.mem_filter.mp kept).2 same
  · rw [if_neg same]
    let keep : κ → Bool := fun item => decide (item ≠ key)
    have kept : keep other = true := decide_eq_true same
    exact getItems_filter kept dict.items

end Removal

section Keyed

variable {α : Type} (keyOf : α → κ)

/-- `{keyOf(item): item for item in items}` -/
def keyed (items : List α) : Dict κ α :=
  items.foldl (fun dict item => dict.set (keyOf item) item) empty

theorem get?_keyed (items : List α) (key : κ) :
    (keyed keyOf items).get? key =
      items.reverse.find? fun item => decide (keyOf item = key) := by
  induction items using List.reverseRecOn with
  | nil => rfl
  | append_singleton items item induction =>
      rw [keyed, List.foldl_append, ← keyed, List.foldl_cons, List.foldl_nil, get?_set,
        induction, List.reverse_append, List.reverse_singleton, List.singleton_append,
        List.find?_cons]
      by_cases same : keyOf item = key
      · simp [same]
      · simp [same, Ne.symm same]

/-- `groups[keyOf(item)].append(item)` for every item, on a `defaultdict(list)`. -/
def grouped (items : List α) : Dict κ (List α) :=
  items.foldl
    (fun groups item =>
      groups.set (keyOf item) ((groups.get? (keyOf item)).getD [] ++ [item])) empty

theorem getD_get?_grouped (items : List α) (key : κ) :
    ((grouped keyOf items).get? key).getD [] =
      items.filter fun item => decide (keyOf item = key) := by
  induction items using List.reverseRecOn with
  | nil => rfl
  | append_singleton items item induction =>
      rw [grouped, List.foldl_append, ← grouped, List.foldl_cons, List.foldl_nil, get?_set,
        List.filter_append]
      by_cases same : keyOf item = key
      · subst same
        simp [induction]
      · simp [same, Ne.symm same, induction]

theorem get?_grouped_of_mem {items : List α} {item : α} (member : item ∈ items) :
    (grouped keyOf items).get? (keyOf item) =
      some (items.filter fun other => decide (keyOf other = keyOf item)) := by
  have group := getD_get?_grouped keyOf items (keyOf item)
  cases found : (grouped keyOf items).get? (keyOf item) with
  | none =>
      rw [found, Option.getD_none, eq_comm, List.filter_eq_nil_iff] at group
      exact absurd (decide_eq_true rfl) (group item member)
  | some entry =>
      rw [found] at group
      exact congrArg some group

end Keyed

end Dict

end OpenZync.Library
