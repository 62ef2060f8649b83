import OpenZync.Library.Dicts
import OpenZync.Library.Json

/-!
# Merging JSON objects

A patch is applied to an object member by member: a null removes its key, any
other value is combined with what the key held.  The recursive merge combines
two objects by merging them and lets everything else replace.
-/

namespace OpenZync.Library

universe u

namespace Json

variable {ν : Type}

/-- The members of an object in the order they are kept. -/
abbrev Members (ν : Type) :=
  List (List Char × Json ν)

/-- The keys of every object in a value are distinct. -/
inductive WellFormed : Json ν → Prop where
  | null : WellFormed .null
  | bool (value : Bool) : WellFormed (.bool value)
  | number (value : ν) : WellFormed (.number value)
  | string (value : List Char) : WellFormed (.string value)
  | array {items : List (Json ν)} (inside : ∀ item ∈ items, WellFormed item) :
      WellFormed (.array items)
  | object {members : Members ν} (distinct : (members.map Prod.fst).Nodup)
      (inside : ∀ member ∈ members, WellFormed member.2) : WellFormed (.object members)

theorem WellFormed.distinct {members : Members ν} (formed : WellFormed (.object members)) :
    (members.map Prod.fst).Nodup := by
  cases formed with
  | object distinct inside => exact distinct

theorem WellFormed.inside {members : Members ν} (formed : WellFormed (.object members)) :
    ∀ member ∈ members, member.2.WellFormed := by
  cases formed with
  | object distinct inside => exact inside

/-- A value without what an object holds. -/
def shell : Json ν → Json ν
  | .object _ => .object []
  | value => value

/-- The value at the end of a path of keys. -/
def find : Json ν → List (List Char) → Option (Json ν)
  | value, [] => some value
  | .object members, key :: path => (Dict.getItems key members).bind fun value => value.find path
  | _, _ :: _ => none

/-- The same value at every path; the order of members does not count. -/
def Same (first second : Json ν) : Prop :=
  ∀ path, (first.find path).map shell = (second.find path).map shell

theorem Same.refl (value : Json ν) : Same value value :=
  fun _ => rfl

theorem same_object_iff {first second : Members ν} :
    Same (.object first) (.object second) ↔
      ∀ key, Option.Rel Same (Dict.getItems key first) (Dict.getItems key second) := by
  constructor
  · intro same key
    have here := same [key]
    have below := fun path => same (key :: path)
    simp only [find] at here below
    cases firstValue : Dict.getItems key first with
    | none =>
        cases secondValue : Dict.getItems key second with
        | none => exact .none
        | some value => simp [firstValue, secondValue] at here
    | some value =>
        cases secondValue : Dict.getItems key second with
        | none => simp [firstValue, secondValue] at here
        | some other =>
            rw [firstValue, secondValue] at below
            exact .some below
  · intro related path
    cases path with
    | nil => rfl
    | cons key path =>
        have here := related key
        simp only [find]
        generalize Dict.getItems key first = firstValue at here ⊢
        generalize Dict.getItems key second = secondValue at here ⊢
        cases here with
        | none => rfl
        | some same => exact same path

/-- `dict.pop(key, None)` -/
def popItems (key : List Char) (members : Members ν) : Members ν :=
  members.filter fun member => member.1 ≠ key

theorem getItems_popItems (key other : List Char) (members : Members ν) :
    Dict.getItems other (popItems key members) =
      if other = key then none else Dict.getItems other members := by
  induction members with
  | nil => simp [popItems, Dict.getItems]
  | cons member members induction =>
      rw [popItems, List.filter_cons, Dict.getItems_cons]
      rw [popItems] at induction
      by_cases popped : member.1 = key
      · rw [if_neg (by simpa using popped), induction]
        split
        · rfl
        · rename_i different
          rw [if_neg (popped ▸ different)]
      · rw [if_pos (by simpa using popped), Dict.getItems_cons, induction]
        by_cases same : other = member.1
        · rw [if_pos same, if_neg (same ▸ popped), if_pos same]
        · rw [if_neg same, if_neg same]

/-- Apply one member of a patch. -/
def patchMember (combine : Option (Json ν) → Json ν → Json ν) (members : Members ν)
    (key : List Char) : Json ν → Members ν
  | .null => popItems key members
  | value => Dict.setItems key (combine (Dict.getItems key members) value) members

/-- Apply a patch member by member. -/
def patchMembers (combine : Option (Json ν) → Json ν → Json ν) (members patch : Members ν) :
    Members ν :=
  patch.foldl (fun members member => patchMember combine members member.1 member.2) members

/-- What a patch leaves at a key. -/
def patched (combine : Option (Json ν) → Json ν → Json ν) (old : Option (Json ν)) :
    Option (Json ν) → Option (Json ν)
  | none => old
  | some .null => none
  | some value => some (combine old value)

theorem patched_some (combine : Option (Json ν) → Json ν → Json ν) (old : Option (Json ν))
    {value : Json ν} (held : value ≠ .null) :
    patched combine old (some value) = some (combine old value) := by
  cases value with
  | null => exact absurd rfl held
  | _ => rfl

section Patches

variable {combine : Option (Json ν) → Json ν → Json ν}

theorem getItems_patchMember (members : Members ν) (key other : List Char) (value : Json ν) :
    Dict.getItems other (patchMember combine members key value) =
      if other = key then patched combine (Dict.getItems other members) (some value)
      else Dict.getItems other members := by
  cases value with
  | null =>
      rw [patchMember, getItems_popItems]
      rfl
  | _ =>
      rw [patchMember, Dict.getItems_setItems]
      · split
        · rename_i same
          subst same
          rfl
        · rfl
      · simp

theorem getItems_patchMembers {patch : Members ν} (distinct : (patch.map Prod.fst).Nodup)
    (members : Members ν) (key : List Char) :
    Dict.getItems key (patchMembers combine members patch) =
      patched combine (Dict.getItems key members) (Dict.getItems key patch) := by
  induction patch generalizing members with
  | nil => rfl
  | cons member patch induction =>
      rw [List.map_cons, List.nodup_cons] at distinct
      rw [patchMembers, List.foldl_cons, ← patchMembers, induction distinct.2,
        getItems_patchMember, Dict.getItems_cons]
      split
      · rename_i same
        have absent : Dict.getItems key patch = none :=
          Dict.getItems_eq_none (same ▸ distinct.1)
        rw [absent]
        rfl
      · rfl

theorem nodup_popItems {key : List Char} {members : Members ν}
    (distinct : (members.map Prod.fst).Nodup) :
    ((popItems key members).map Prod.fst).Nodup :=
  (List.filter_sublist.map Prod.fst).nodup distinct

theorem WellFormed.mem_setItems {members : Members ν} {key : List Char} {value : Json ν}
    (formed : value.WellFormed) (inside : ∀ member ∈ members, member.2.WellFormed) :
    ∀ member ∈ Dict.setItems key value members, member.2.WellFormed := by
  induction members with
  | nil => simpa [Dict.setItems] using formed
  | cons first members induction =>
      have rest := induction fun member later => inside member (List.mem_cons_of_mem _ later)
      rw [Dict.setItems]
      split
      · rw [List.forall_mem_cons]
        exact ⟨formed, fun member later => inside member (List.mem_cons_of_mem _ later)⟩
      · rw [List.forall_mem_cons]
        exact ⟨inside first List.mem_cons_self, rest⟩

theorem WellFormed.getItems {members : Members ν} (formed : WellFormed (.object members))
    {key : List Char} {value : Json ν} (held : Dict.getItems key members = some value) :
    value.WellFormed :=
  formed.inside (key, value) ((Dict.getItems_eq_some_iff formed.distinct).mp held)

/-- Combining well-formed values leaves a well-formed value. -/
def Keeps (combine : Option (Json ν) → Json ν → Json ν) : Prop :=
  ∀ old value, (∀ held, old = some held → held.WellFormed) → value.WellFormed →
    (combine old value).WellFormed

theorem WellFormed.patchMember (keeps : Keeps combine) {members : Members ν} {key : List Char}
    {value : Json ν} (formed : WellFormed (.object members)) (patch : value.WellFormed) :
    WellFormed (.object (patchMember combine members key value)) := by
  cases value with
  | null =>
      refine .object (nodup_popItems formed.distinct) ?_
      intro member kept
      exact formed.inside member (List.mem_of_mem_filter kept)
  | _ =>
      refine .object (Dict.nodup_setItems _ _ formed.distinct) ?_
      exact (keeps _ _ (fun held at' => formed.getItems at') patch).mem_setItems formed.inside

theorem WellFormed.patchMembers (keeps : Keeps combine) {members patch : Members ν}
    (formed : WellFormed (.object members)) (patches : WellFormed (.object patch)) :
    WellFormed (.object (patchMembers combine members patch)) := by
  have inside := patches.inside
  clear patches
  induction patch generalizing members with
  | nil => exact formed
  | cons member patch induction =>
      rw [List.forall_mem_cons] at inside
      exact induction (formed.patchMember keeps inside.1) inside.2

end Patches

/-- The members of the second object set in the first. -/
def spread (first second : Members ν) : Members ν :=
  second.foldl (fun members member => Dict.setItems member.1 member.2 members) first

theorem getItems_spread {second : Members ν} (distinct : (second.map Prod.fst).Nodup)
    (first : Members ν) (key : List Char) :
    Dict.getItems key (spread first second) =
      (Dict.getItems key second).or (Dict.getItems key first) := by
  induction second generalizing first with
  | nil => rfl
  | cons member second induction =>
      rw [List.map_cons, List.nodup_cons] at distinct
      rw [spread, List.foldl_cons, ← spread, induction distinct.2, Dict.getItems_setItems,
        Dict.getItems_cons]
      split
      · rename_i same
        have absent : Dict.getItems key second = none :=
          Dict.getItems_eq_none (same ▸ distinct.1)
        rw [absent]
        rfl
      · rfl

theorem WellFormed.spread {first second : Members ν} (formed : WellFormed (.object first))
    (others : WellFormed (.object second)) : WellFormed (.object (spread first second)) := by
  have inside := others.inside
  clear others
  induction second generalizing first with
  | nil => exact formed
  | cons member second induction =>
      rw [List.forall_mem_cons] at inside
      refine induction ?_ inside.2
      exact .object (Dict.nodup_setItems _ _ formed.distinct)
        (inside.1.mem_setItems formed.inside)

mutual

/-- The recursive merge of a value onto what a key held. -/
def mergeValue (old : Option (Json ν)) : Json ν → Json ν
  | .object patch =>
      match old with
      | some (.object members) => .object (mergeMembers members patch)
      | _ => .object patch
  | value => value

/-- The recursive merge of an object onto another. -/
def mergeMembers (members : Members ν) : Members ν → Members ν
  | [] => members
  | (key, .null) :: patch => mergeMembers (popItems key members) patch
  | (key, value) :: patch =>
      mergeMembers
        (Dict.setItems key (mergeValue (Dict.getItems key members) value) members) patch

end

theorem mergeMembers_eq (members patch : Members ν) :
    mergeMembers members patch = patchMembers mergeValue members patch := by
  induction patch generalizing members with
  | nil => rw [mergeMembers, patchMembers, List.foldl_nil]
  | cons member patch induction =>
      obtain ⟨key, value⟩ := member
      rw [patchMembers, List.foldl_cons, ← patchMembers]
      cases value with
      | null => rw [mergeMembers, induction, patchMember]
      | _ =>
          rw [mergeMembers, induction, patchMember]
          · simp
          · simp

/-- The patch leaves itself when it is merged onto the object. -/
inductive Absorbs : Members ν → Members ν → Prop where
  | intro {members patch : Members ν}
      (covered : ∀ key, Dict.getItems key patch = none → Dict.getItems key members = none)
      (nullFree : ∀ key, Dict.getItems key patch ≠ some .null)
      (nested : ∀ key old new, Dict.getItems key members = some (.object old) →
        Dict.getItems key patch = some (.object new) → Absorbs old new) :
      Absorbs members patch


theorem getItems_mergeMembers {patch : Members ν} (distinct : (patch.map Prod.fst).Nodup)
    (members : Members ν) (key : List Char) :
    Dict.getItems key (mergeMembers members patch) =
      patched mergeValue (Dict.getItems key members) (Dict.getItems key patch) := by
  rw [mergeMembers_eq, getItems_patchMembers distinct]

theorem mergeValue_eq_self {old : Option (Json ν)} {value : Json ν}
    (apart : ∀ members patch, old = some (.object members) → value ≠ .object patch) :
    mergeValue old value = value := by
  cases value with
  | object patch =>
      rw [mergeValue]
      intro members held
      exact apart members patch held rfl
  | _ => rw [mergeValue]; simp

theorem mergeValue_object (members patch : Members ν) :
    mergeValue (some (.object members)) (.object patch) =
      .object (mergeMembers members patch) := by
  rw [mergeValue]

theorem Absorbs.same {members patch : Members ν} (absorbs : Absorbs members patch)
    (formed : WellFormed (.object patch)) :
    Same (.object patch) (.object (mergeMembers members patch)) := by
  induction absorbs with
  | @intro members patch covered nullFree nested induction =>
      rw [same_object_iff]
      intro key
      rw [getItems_mergeMembers formed.distinct]
      cases new : Dict.getItems key patch with
      | none =>
          rw [covered key new]
          exact .none
      | some value =>
          have present : value ≠ .null := by
            rintro rfl
            exact nullFree key new
          rw [patched_some _ _ present]
          apply Option.Rel.some
          by_cases both : ∃ old later, Dict.getItems key members = some (.object old) ∧
              value = .object later
          · obtain ⟨old, later, held, rfl⟩ := both
            rw [held, mergeValue_object]
            exact induction key old later held new (formed.getItems new)
          · rw [mergeValue_eq_self]
            · exact .refl value
            · intro old later held objects
              exact both ⟨old, later, held, objects⟩

theorem Absorbs.of_same {value : Json ν} (formed : value.WellFormed) {members patch : Members ν}
    (object : value = .object patch)
    (same : Same (.object patch) (.object (mergeMembers members patch))) :
    Absorbs members patch := by
  induction formed generalizing members patch with
  | @object others distinct inside induction =>
      obtain rfl : others = patch := Json.object.inj object
      rw [same_object_iff] at same
      refine .intro ?_ ?_ ?_
      · intro key absent
        have here := same key
        rw [getItems_mergeMembers distinct, absent, patched] at here
        cases held : Dict.getItems key members with
        | none => rfl
        | some value =>
            rw [held] at here
            cases here
      · intro key null
        have here := same key
        rw [getItems_mergeMembers distinct, null, patched] at here
        cases here
      · intro key old new held patches
        have here := same key
        rw [getItems_mergeMembers distinct, patches, held, patched_some _ _ (by simp),
          mergeValue_object, Option.rel_some_some] at here
        exact induction (key, .object new) ((Dict.getItems_eq_some_iff distinct).mp patches)
          rfl here
  | _ => cases object

/-- A non-null value is what the merge leaves of it exactly when it absorbs
what was there. -/
theorem same_mergeValue_iff {old : Option (Json ν)} {value : Json ν}
    (formed : value.WellFormed) :
    Same value (mergeValue old value) ↔
      ∀ members patch, old = some (.object members) → value = .object patch →
        Absorbs members patch := by
  constructor
  · rintro same members patch rfl rfl
    rw [mergeValue_object] at same
    exact .of_same formed rfl same
  · intro absorbs
    by_cases both : ∃ members patch, old = some (.object members) ∧ value = .object patch
    · obtain ⟨members, patch, rfl, rfl⟩ := both
      rw [mergeValue_object]
      exact (absorbs members patch rfl rfl).same formed
    · rw [mergeValue_eq_self]
      · exact .refl value
      · intro members patch held object
        exact both ⟨members, patch, held, object⟩

end Json

end OpenZync.Library
