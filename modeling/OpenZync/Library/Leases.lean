import Mathlib.Logic.Function.Basic

/-!
# Leases

Keys that are taken for a while, by the first who asks: `SET key value NX EX`.
A lease ends when its time is over or when somebody deletes its key, be it the
owner or not.
-/

namespace OpenZync.Library

/-- What a key holds, who has set it, and until when it lives. -/
structure Lease (ν τ : Type) where
  value : ν
  owner : τ
  expiresAt : Int

/-- The keys with what they were last set to. -/
abbrev Leases (κ ν τ : Type) := κ → Option (Lease ν τ)

/-- How a command to the store ends: with its answer, or with an exception or a
cancellation, before or after the store has executed it. -/
inductive CommandReply where
  | answered
  | refused
  | lost
deriving DecidableEq

namespace Leases

variable {κ ν τ : Type} {leases : Leases κ ν τ} {now later : Int} {key other : κ}
  {lease : Lease ν τ}

/-- What a reader finds under a key. -/
def held (leases : Leases κ ν τ) (now : Int) (key : κ) : Option (Lease ν τ) :=
  (leases key).filter fun lease => now < lease.expiresAt

theorem held_eq_some :
    leases.held now key = some lease ↔ leases key = some lease ∧ now < lease.expiresAt := by
  simp [held, Option.filter_eq_some_iff]

theorem held_of_later (ordered : now ≤ later) (found : leases.held later key = some lease) :
    leases.held now key = some lease := by
  rw [held_eq_some] at found ⊢
  exact ⟨found.1, Int.lt_of_le_of_lt ordered found.2⟩

section Keys

variable [DecidableEq κ]

/-- Set a key. -/
def set (leases : Leases κ ν τ) (key : κ) (lease : Lease ν τ) : Leases κ ν τ :=
  Function.update leases key (some lease)

/-- Delete a key. -/
def delete (leases : Leases κ ν τ) (key : κ) : Leases κ ν τ :=
  Function.update leases key none

@[simp] theorem held_delete_self : (leases.delete key).held now key = none := by
  simp [held, delete]

@[simp] theorem held_delete_of_ne (different : other ≠ key) :
    (leases.delete key).held now other = leases.held now other := by
  simp [held, delete, Function.update_of_ne different]

theorem held_set_self (alive : now < lease.expiresAt) :
    (leases.set key lease).held now key = some lease := by
  simp [held, set, alive]

@[simp] theorem held_set_of_ne (different : other ≠ key) :
    (leases.set key lease).held now other = leases.held now other := by
  simp [held, set, Function.update_of_ne different]

theorem of_held_set {found : Lease ν τ}
    (holds : (leases.set key lease).held now other = some found) :
    other = key ∧ found = lease ∨ other ≠ key ∧ leases.held now other = some found := by
  by_cases same : other = key
  · subst same
    rw [held_eq_some, set, Function.update_self] at holds
    exact .inl ⟨rfl, (Option.some.inj holds.1).symm⟩
  · rw [held_set_of_ne same] at holds
    exact .inr ⟨same, holds⟩

theorem of_held_delete {found : Lease ν τ}
    (holds : (leases.delete key).held now other = some found) :
    other ≠ key ∧ leases.held now other = some found := by
  by_cases same : other = key
  · subst same
    rw [held_delete_self] at holds
    cases holds
  · rw [held_delete_of_ne same] at holds
    exact ⟨same, holds⟩

end Keys

/-- Everybody who has taken a key finds it to be his until the time is over.
`taken` has the key and the end of the lease of each owner who has not given it
up. -/
def Honoured (leases : Leases κ ν τ) (now : Int) (taken : τ → Option (κ × Int)) : Prop :=
  ∀ owner key expiresAt, taken owner = some (key, expiresAt) → now < expiresAt →
    ∃ value, leases.held now key = some ⟨value, owner, expiresAt⟩

namespace Honoured

variable {taken : τ → Option (κ × Int)}

theorem none : Honoured leases now (fun _ : τ => Option.none) := by
  intro owner key expiresAt took
  cases took

theorem wait (honoured : Honoured leases now taken) (ordered : now ≤ later) :
    Honoured leases later taken := by
  intro owner key expiresAt took alive
  obtain ⟨value, holds⟩ :=
    honoured owner key expiresAt took (Int.lt_of_le_of_lt ordered alive)
  exact ⟨value, held_eq_some.mpr ⟨(held_eq_some.mp holds).1, alive⟩⟩

/-- No two owners have one key at a time. -/
theorem unique (honoured : Honoured leases now taken) {first second : τ}
    {firstEnd secondEnd : Int} (tookFirst : taken first = some (key, firstEnd))
    (firstAlive : now < firstEnd) (tookSecond : taken second = some (key, secondEnd))
    (secondAlive : now < secondEnd) : first = second := by
  obtain ⟨value, holds⟩ := honoured first key firstEnd tookFirst firstAlive
  obtain ⟨value', holds'⟩ := honoured second key secondEnd tookSecond secondAlive
  rw [holds] at holds'
  cases holds'
  rfl

theorem giveUp [DecidableEq τ] (honoured : Honoured leases now taken) (owner : τ) :
    Honoured leases now (Function.update taken owner Option.none) := by
  intro other key expiresAt took alive
  by_cases same : other = owner
  · subst same
    rw [Function.update_self] at took
    cases took
  · rw [Function.update_of_ne same] at took
    exact honoured other key expiresAt took alive

theorem take [DecidableEq κ] [DecidableEq τ] (honoured : Honoured leases now taken)
    (free : leases.held now key = Option.none) (lease : Lease ν τ) :
    Honoured (leases.set key lease) now
      (Function.update taken lease.owner (some (key, lease.expiresAt))) := by
  intro other key' expiresAt took alive
  by_cases same : other = lease.owner
  · subst same
    rw [Function.update_self, Option.some.injEq, Prod.mk.injEq] at took
    obtain ⟨rfl, rfl⟩ := took
    exact ⟨lease.value, held_set_self alive⟩
  · rw [Function.update_of_ne same] at took
    obtain ⟨value, holds⟩ := honoured other key' expiresAt took alive
    have different : key' ≠ key := by
      intro sameKey
      rw [sameKey, free] at holds
      cases holds
    exact ⟨value, by rw [held_set_of_ne different]; exact holds⟩

theorem set [DecidableEq κ] (honoured : Honoured leases now taken)
    (apart : ∀ owner key' expiresAt, taken owner = some (key', expiresAt) → key' ≠ key)
    (lease : Lease ν τ) : Honoured (leases.set key lease) now taken := by
  intro owner key' expiresAt took alive
  obtain ⟨value, holds⟩ := honoured owner key' expiresAt took alive
  exact ⟨value, by rw [held_set_of_ne (apart owner key' expiresAt took)]; exact holds⟩

/-- A key is deleted that nobody has but those who have given it up. -/
theorem delete [DecidableEq κ] (honoured : Honoured leases now taken)
    (nobody : ∀ lease, leases.held now key = some lease → taken lease.owner = Option.none) :
    Honoured (leases.delete key) now taken := by
  intro owner key' expiresAt took alive
  obtain ⟨value, holds⟩ := honoured owner key' expiresAt took alive
  have different : key' ≠ key := by
    rintro rfl
    have absent := nobody _ holds
    rw [took] at absent
    cases absent
  exact ⟨value, by rw [held_delete_of_ne different]; exact holds⟩

end Honoured

end Leases

end OpenZync.Library
