import OpenZync.Facts.Runs

/-!
# The born-dead guard of an ingest

Of all the statements of an ingest only the guard before an insert raises the
validation error about an empty validity range.  The closings and the lineage
never raise it, and the guard passes entries that start before they end.
-/

namespace OpenZync.Facts

open OpenZync.Library

/-- The validation error of the guard. -/
def FactError.IsBornDead : FactError → Prop
  | .bornDead .. => True
  | _ => False

/-- The entry starts before it ends. -/
def Entry.Alive (entry : Entry) : Prop :=
  StartsBefore (some entry.validFrom) entry.validTo

instance (entry : Entry) : Decidable entry.Alive :=
  inferInstanceAs (Decidable (StartsBefore _ _))

/-- The computation never raises the validation error. -/
abbrev NotBornDead {α : Type} (result : Except FactError α) : Prop :=
  Avoids FactError.IsBornDead result

theorem FactStore.update_notBornDead {store : FactStore} {id : Uuid} {change : Fact → Fact}
    {keepsId : ∀ fact, (change fact).id = fact.id} :
    NotBornDead (store.update id change keepsId) := by
  intro failure raised
  unfold update at raised
  split at raised
  · split at raised
    · cases raised
    · cases raised
      exact not_false
  · cases raised
    exact not_false

theorem closeConflicts_notBornDead (now : Time) (conflicts : List Fact) (store : FactStore) :
    NotBornDead (closeConflicts now conflicts store) := by
  induction conflicts generalizing store with
  | nil => exact .ok store
  | cons conflict conflicts induction =>
      exact Avoids.bind FactStore.update_notBornDead fun next _ => induction next

theorem bornDeadGuard_of_alive {entries : List Entry} (alive : ∀ entry ∈ entries, entry.Alive) :
    bornDeadGuard entries = .ok () := by
  induction entries with
  | nil => rfl
  | cons entry entries induction =>
      have rest := induction fun other member => alive other (List.mem_cons_of_mem _ member)
      unfold bornDeadGuard
      cases ends : entry.validTo with
      | none => exact rest
      | some stop =>
          have starts := alive entry List.mem_cons_self entry.validFrom rfl stop ends
          simp only [if_neg (not_le_of_gt starts)]
          exact rest

theorem recordLineage_notBornDead (orgId projectId : Uuid) (now : Time)
    (episodes : Uuid → Option Uuid) (transitions : List SupersessionEvent) (store : FactStore) :
    NotBornDead (recordLineage orgId projectId now episodes transitions store) := by
  induction transitions generalizing store with
  | nil => exact .ok store
  | cons transition transitions induction =>
      unfold recordLineage
      split
      · exact induction store
      · exact Avoids.bind FactStore.update_notBornDead fun next _ => induction _

end OpenZync.Facts
