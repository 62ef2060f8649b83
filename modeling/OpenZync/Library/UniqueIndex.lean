import Mathlib.Data.List.Nodup
import Mathlib.Data.List.Perm.Basic

/-!
# Updates under a unique index

A partial unique index gives some rows of a table a key that no other row has.
An update changes the selected rows one after another, and the index is checked
for each row as it is written, against all other rows as they are then.  Where
no changed row takes the key of a row that is still to be changed, the order
does not matter: the update succeeds if and only if its result is unique.
-/

namespace OpenZync.Library

variable {ρ κ : Type}

/-- No two rows of the index have the same key; a row outside has none. -/
def UniqueKeys (key : ρ → Option κ) (rows : List ρ) : Prop :=
  (rows.filterMap key).Nodup

instance [DecidableEq κ] (key : ρ → Option κ) (rows : List ρ) : Decidable (UniqueKeys key rows) :=
  inferInstanceAs (Decidable (rows.filterMap key).Nodup)

theorem UniqueKeys.perm {key : ρ → Option κ} {rows other : List ρ} (unique : UniqueKeys key rows)
    (perm : rows.Perm other) : UniqueKeys key other :=
  (perm.filterMap key).nodup_iff.mp unique

/-- The row after the update. -/
def updatedRowBy (selects : ρ → Bool) (moved : ρ → ρ) (row : ρ) : ρ :=
  if selects row then moved row else row

variable [DecidableEq κ]

/-- The rows of the list are visited in order, those before it being done; the
error is the key that is taken. -/
def updateRows (key : ρ → Option κ) (selects : ρ → Bool) (moved : ρ → ρ) :
    List ρ → List ρ → Except κ (List ρ)
  | done, [] => .ok done
  | done, row :: rest =>
      if selects row then
        match key (moved row) with
        | some taken =>
            if ((done ++ rest).filterMap key).contains taken then .error taken
            else updateRows key selects moved (done ++ [moved row]) rest
        | none => updateRows key selects moved (done ++ [moved row]) rest
      else updateRows key selects moved (done ++ [row]) rest

section UpdateRows

variable {key : ρ → Option κ} {selects : ρ → Bool} {moved : ρ → ρ}

/-- An update that succeeds has changed the selected rows and kept the index. -/
theorem updateRows_ok {done rest result : List ρ}
    (ran : updateRows key selects moved done rest = .ok result) :
    result = done ++ rest.map (updatedRowBy selects moved) ∧
      (UniqueKeys key (done ++ rest) → UniqueKeys key result) := by
  induction rest generalizing done with
  | nil =>
      rw [updateRows, Except.ok.injEq] at ran
      subst ran
      simp
  | cons row rest induction =>
      rw [updateRows] at ran
      rw [List.map_cons, updatedRowBy]
      split at ran
      · rename_i selected
        rw [if_pos selected]
        split at ran
        · rename_i taken is
          split at ran
          · cases ran
          · rename_i free
            obtain ⟨rfl, keeps⟩ := induction ran
            refine ⟨by simp, fun unique => keeps ?_⟩
            have absent : taken ∉ (done ++ rest).filterMap key := by simpa using free
            have others : UniqueKeys key (done ++ rest) :=
              unique.sublist (((List.sublist_cons_self row rest).append_left done).filterMap key)
            have moves : (done ++ [moved row] ++ rest).Perm (moved row :: (done ++ rest)) := by
              rw [List.append_assoc]
              exact List.perm_middle
            refine UniqueKeys.perm ?_ moves.symm
            rw [UniqueKeys, List.filterMap_cons_some is]
            exact List.nodup_cons.mpr ⟨absent, others⟩
        · rename_i outside
          obtain ⟨rfl, keeps⟩ := induction ran
          refine ⟨by simp, fun unique => keeps ?_⟩
          have others : UniqueKeys key (done ++ rest) :=
            unique.sublist (((List.sublist_cons_self row rest).append_left done).filterMap key)
          simpa [UniqueKeys, List.filterMap_append, List.filterMap_cons_none outside] using others
      · rename_i unselected
        rw [if_neg unselected]
        obtain ⟨rfl, keeps⟩ := induction ran
        exact ⟨by simp, fun unique => keeps (by simpa using unique)⟩

theorem updateRows_of_unique {done rest : List ρ}
    (apart : ∀ row other taken, selects other = true → key (moved row) = some taken →
      key other ≠ some taken)
    (unique : UniqueKeys key (done ++ rest.map (updatedRowBy selects moved))) :
    updateRows key selects moved done rest =
      .ok (done ++ rest.map (updatedRowBy selects moved)) := by
  induction rest generalizing done with
  | nil => simp [updateRows]
  | cons row rest induction =>
      rw [updateRows]
      rw [List.map_cons, updatedRowBy] at unique ⊢
      split at unique
      · rename_i selected
        rw [if_pos selected]
        have next : updateRows key selects moved (done ++ [moved row]) rest =
            .ok (done ++ moved row :: rest.map (updatedRowBy selects moved)) := by
          rw [induction (by simpa using unique)]
          simp
        cases is : key (moved row) with
        | none => rw [next, if_pos selected]
        | some taken =>
            have absent :
                taken ∉ (done ++ rest.map (updatedRowBy selects moved)).filterMap key := by
              have front := UniqueKeys.perm unique List.perm_middle
              rw [UniqueKeys, List.filterMap_cons_some is] at front
              exact (List.nodup_cons.mp front).1
            have free : taken ∉ (done ++ rest).filterMap key := by
              intro present
              obtain ⟨other, member, has⟩ := List.mem_filterMap.mp present
              apply absent
              rw [List.mem_filterMap]
              rcases List.mem_append.mp member with early | late
              · exact ⟨other, List.mem_append_left _ early, has⟩
              · have stays : updatedRowBy selects moved other = other := by
                  rw [updatedRowBy, if_neg]
                  exact fun chosen => apart row other taken chosen is has
                have kept : other ∈ rest.map (updatedRowBy selects moved) :=
                  List.mem_map.mpr ⟨other, late, stays⟩
                exact ⟨other, List.mem_append_right _ kept, has⟩
            dsimp only
            rw [if_neg (by simpa using free), next, if_pos selected]
      · rename_i unselected
        rw [if_neg unselected, induction (by simpa using unique), if_neg unselected]
        simp

end UpdateRows

end OpenZync.Library
