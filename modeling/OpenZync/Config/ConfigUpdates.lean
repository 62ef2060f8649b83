import Mathlib.Logic.Function.Basic
import OpenZync.Config.OrgConfig

/-!
# Updates that undo each other

A call writes back every key it has read, also those it does not set.  Two
calls keep each other's keys exactly when every such write finds the value it
is about to write, and a call that fails half way has changed nothing exactly
when no key it had written by then was to change.
-/

namespace OpenZync.Config

open OpenZync.Library

section Requests

variable {ν : Type} {store : KvStore ν} {key : Text}

theorem kvRead_writeKey (store : KvStore ν) (item : Text × Option ν) (key : Text) :
    (writeKey store item).kvRead key = if key = item.1 then item.2 else store.kvRead key := by
  obtain ⟨written, value⟩ := item
  cases value with
  | some value =>
      simp only [writeKey, KvStore.kvWrite, KvStore.kvRead, Dict.get?_set]
      split
      · rfl
      · rfl
  | none =>
      simp only [writeKey, KvStore.kvDelete]
      split
      · simp only [KvStore.kvRead, Dict.get?_set]
        split
        · rfl
        · rfl
      · rename_i missing
        split
        · rename_i same
          subst same
          rw [KvStore.kvRead, Option.not_isSome_iff_eq_none.mp missing]
          rfl
        · rfl

theorem get?_readKey (result : ConfigDict ν) (read key : Text) :
    (readKey store result read).get? key =
      if key = read then ((store.kvRead key).map some).or (result.get? key)
      else result.get? key := by
  unfold readKey
  split
  · rename_i value found
    rw [Dict.get?_set]
    split
    · rename_i same
      rw [same, found]
      rfl
    · rfl
  · rename_i missing
    split
    · rename_i same
      rw [same, missing]
      rfl
    · rfl

theorem get?_foldl_readKey (keys : List Text) (result : ConfigDict ν) (key : Text) :
    (keys.foldl (readKey store) result).get? key =
      if key ∈ keys then ((store.kvRead key).map some).or (result.get? key)
      else result.get? key := by
  induction keys generalizing result with
  | nil => rfl
  | cons read keys induction =>
      rw [List.foldl_cons, induction, get?_readKey]
      by_cases same : key = read
      · subst same
        cases store.kvRead key with
        | none => simp
        | some value => simp
      · simp [same]

theorem get?_readOrgConfig (store : KvStore ν) (key : Text) :
    (readOrgConfig store).get? key = (store.kvRead key).map some := by
  rw [readOrgConfig, get?_foldl_readKey]
  split
  · simp
  · rename_i unlisted
    have missing : store.get? key = none := by
      cases found : store.get? key with
      | none => rfl
      | some value => exact (unlisted (Dict.mem_keys_iff.mpr ⟨value, found⟩)).elim
    rw [KvStore.kvRead, missing]
    rfl

theorem kvRead_foldl_writeKey {items : List (Text × Option ν)}
    (distinct : (items.map Prod.fst).Nodup) (store : KvStore ν) (key : Text) :
    (items.foldl writeKey store).kvRead key =
      (Dict.getItems key items).getD (store.kvRead key) := by
  induction items generalizing store with
  | nil => rfl
  | cons item items induction =>
      rw [List.map_cons, List.nodup_cons] at distinct
      rw [List.foldl_cons, induction distinct.2, kvRead_writeKey, Dict.getItems_cons]
      by_cases same : key = item.1
      · rw [Dict.getItems_eq_none (same ▸ distinct.1), if_pos same, if_pos same]
        rfl
      · rw [if_neg same, if_neg same]

end Requests

section Failures

variable {ν : Type} {store : KvStore ν} {update : ConfigDict ν}

/-- What a call writes is what it sets, or what it has read. -/
theorem mem_mergeConfig {item : Text × Option ν}
    (member : item ∈ (mergeConfig (readOrgConfig store) update).items) :
    update.get? item.1 = some item.2 ∨ store.kvRead item.1 = item.2 := by
  have found : (mergeConfig (readOrgConfig store) update).get? item.1 = some item.2 :=
    Dict.mem_items_iff.mp member
  rw [mergeConfig, Dict.get?_update, get?_readOrgConfig] at found
  cases own : update.get? item.1 with
  | some value =>
      rw [own] at found
      exact Or.inl found
  | none =>
      rw [own, Option.none_or] at found
      obtain ⟨value, read, same⟩ := Option.map_eq_some_iff.mp found
      exact Or.inr (read.trans same)

theorem failedUpdate_unchanged_iff (store : KvStore ν) (update : ConfigDict ν) (written : Nat) :
    (∀ key, (failedUpdate store update written).kvRead key = store.kvRead key) ↔
      ∀ item ∈ (mergeConfig (readOrgConfig store) update).items.take written,
        update.get? item.1 = some item.2 → store.kvRead item.1 = item.2 := by
  have distinct : (((mergeConfig (readOrgConfig store) update).items.take written).map
      Prod.fst).Nodup :=
    (mergeConfig (readOrgConfig store) update).distinct.sublist
      ((List.take_sublist _ _).map Prod.fst)
  have read := kvRead_foldl_writeKey distinct store
  constructor
  · intro unchanged item member _
    have found := (Dict.getItems_eq_some_iff distinct).mpr member
    have after := read item.1
    rw [found, Option.getD_some] at after
    exact (unchanged item.1).symm.trans after
  · intro current key
    rw [failedUpdate, read]
    cases found : Dict.getItems key
        ((mergeConfig (readOrgConfig store) update).items.take written) with
    | none => rfl
    | some value =>
        have member := (Dict.getItems_eq_some_iff distinct).mp found
        rcases mem_mergeConfig (List.mem_of_mem_take member) with own | same
        · exact (current _ member own).symm
        · exact same.symm

end Failures

section Calls

variable {ν : Type}

namespace UpdatePhase

/-- The call may still write the key. -/
def Pending (key : Text) : UpdatePhase ν → Prop
  | .writing items => key ∈ items.map Prod.fst
  | .succeeded => False
  | _ => True

/-- The call has the value at hand for the key. -/
def Holds (key : Text) (value : Option ν) : UpdatePhase ν → Prop
  | .reading _ existing => existing.get? key = some value
  | .writing items => (key, value) ∈ items
  | _ => False

/-- Every key is written once, and the keys of the request with its values. -/
def WritesRequest (update : ConfigDict ν) : UpdatePhase ν → Prop
  | .writing items => (items.map Prod.fst).Nodup ∧
      ∀ key wanted value, update.get? key = some wanted → (key, value) ∈ items → value = wanted
  | _ => True

theorem WritesRequest.step {update : ConfigDict ν} {phase : UpdatePhase ν}
    (writes : phase.WritesRequest update) (store : KvStore ν) :
    (updateStep update store phase).2.WritesRequest update := by
  match phase with
  | .start => trivial
  | .reading (key :: keys) existing => trivial
  | .reading [] existing =>
      refine ⟨(mergeConfig existing update).distinct, ?_⟩
      intro key wanted value own member
      have found : (mergeConfig existing update).get? key = some value :=
        Dict.mem_items_iff.mp member
      rw [mergeConfig, Dict.get?_update, own] at found
      exact (Option.some.inj found).symm
  | .writing [] => trivial
  | .writing (item :: items) =>
      obtain ⟨distinct, own⟩ := writes
      rw [List.map_cons, List.nodup_cons] at distinct
      refine ⟨distinct.2, ?_⟩
      intro key wanted value wants member
      exact own key wanted value wants (List.mem_cons_of_mem item member)
  | .succeeded => trivial

/-- The next request of the call writes the key. -/
def Writes (key : Text) : UpdatePhase ν → Prop
  | .writing (item :: _) => item.1 = key
  | _ => False

section Steps

variable {update : ConfigDict ν} {store : KvStore ν} {phase : UpdatePhase ν} {key : Text}

theorem Writes.writing (writes : phase.Writes key) :
    ∃ value items, phase = .writing ((key, value) :: items) := by
  match phase with
  | .writing ((written, value) :: items) =>
      obtain rfl : written = key := writes
      exact ⟨value, items, rfl⟩

theorem Writes.pending (writes : phase.Writes key) : phase.Pending key := by
  obtain ⟨value, items, rfl⟩ := writes.writing
  exact List.mem_cons_self

theorem kvRead_updateStep (idle : ¬ phase.Writes key) :
    (updateStep update store phase).1.kvRead key = store.kvRead key := by
  match phase with
  | .start => rfl
  | .reading [] _ => rfl
  | .reading (_ :: _) _ => rfl
  | .writing [] => rfl
  | .writing (item :: items) =>
      have other : item.1 ≠ key := idle
      rw [updateStep, kvRead_writeKey, if_neg other.symm]
  | .succeeded => rfl

/-- No request brings a key back that is done. -/
theorem pending_of_updateStep (pending : (updateStep update store phase).2.Pending key) :
    phase.Pending key := by
  match phase with
  | .start => trivial
  | .reading _ _ => trivial
  | .writing [] => exact pending.elim
  | .writing (item :: items) => exact List.mem_cons_of_mem _ pending
  | .succeeded => exact pending

theorem pending_updateStep_iff {wanted : Option ν} (owns : update.get? key = some wanted)
    (idle : ¬ phase.Writes key) :
    (updateStep update store phase).2.Pending key ↔ phase.Pending key := by
  refine ⟨pending_of_updateStep, fun pending => ?_⟩
  match phase with
  | .start => trivial
  | .reading (_ :: _) _ => trivial
  | .reading [] existing =>
      apply Dict.mem_keys_iff.mpr
      exact ⟨wanted, by rw [mergeConfig, Dict.get?_update, owns]; rfl⟩
  | .writing (item :: items) =>
      rcases List.mem_cons.mp pending with same | later
      · exact (idle same.symm).elim
      · exact later

theorem holds_of_updateStep (foreign : update.get? key = none) {value : Option ν}
    (holds : (updateStep update store phase).2.Holds key value) :
    phase.Holds key value ∨ value = store.kvRead key := by
  match phase with
  | .start => cases holds
  | .reading [] existing =>
      have found : (mergeConfig existing update).get? key = some value :=
        Dict.mem_items_iff.mp holds
      rw [mergeConfig, Dict.get?_update, foreign] at found
      exact Or.inl found
  | .reading (read :: keys) existing =>
      simp only [updateStep, Holds, get?_readKey] at holds
      split at holds
      · cases stored : store.kvRead key with
        | none =>
            rw [stored] at holds
            exact Or.inl holds
        | some current =>
            rw [stored] at holds
            exact Or.inr (Option.some.inj holds).symm
      · exact Or.inl holds
  | .writing [] => cases holds
  | .writing (item :: items) => exact Or.inl (List.mem_cons_of_mem _ holds)
  | .succeeded => cases holds

end Steps

end UpdatePhase

/-- What is wanted of a key once both calls have succeeded. -/
def Kept (initial : KvStore ν) (updates : Caller → ConfigDict ν) (final : KvStore ν)
    (key : Text) : Prop :=
  (∀ caller wanted, (updates caller).get? key = some wanted → final.kvRead key = wanted) ∧
    ((∀ caller, (updates caller).get? key = none) → final.kvRead key = initial.kvRead key)

/-- A call that is to write back a key it does not set finds the value stored
that it writes. -/
def WritesBackCurrent (updates : Caller → ConfigDict ν) (state : ConfigState ν)
    (caller : Caller) : Prop :=
  match state.phase caller with
  | .writing (item :: _) =>
      (updates caller).get? item.1 = none → state.store.kvRead item.1 = item.2
  | _ => True

instance [DecidableEq ν] (updates : Caller → ConfigDict ν) (state : ConfigState ν)
    (caller : Caller) : Decidable (WritesBackCurrent updates state caller) := by
  unfold WritesBackCurrent
  split <;> infer_instance

/-- The same for one key. -/
def KeyCurrent (updates : Caller → ConfigDict ν) (key : Text) (state : ConfigState ν)
    (caller : Caller) : Prop :=
  ∀ value items, state.phase caller = .writing ((key, value) :: items) →
    (updates caller).get? key = none → state.store.kvRead key = value

theorem writesBackCurrent_iff {updates : Caller → ConfigDict ν} {state : ConfigState ν}
    {caller : Caller} :
    WritesBackCurrent updates state caller ↔ ∀ key, KeyCurrent updates key state caller := by
  unfold WritesBackCurrent KeyCurrent
  constructor
  · intro current key value items phase foreign
    rw [phase] at current
    exact current foreign
  · intro current
    split
    · rename_i item items phase
      exact current item.1 item.2 items phase
    · trivial

/-- The key has its new value from the write of its caller on, and before that
the old one, which is all that the other caller can have read. -/
structure OnCourse (initial : KvStore ν) (updates : Caller → ConfigDict ν) (key : Text)
    (state : ConfigState ν) : Prop where
  written : ∀ caller wanted, (updates caller).get? key = some wanted →
    ¬ (state.phase caller).Pending key → state.store.kvRead key = wanted
  untouched : (∀ caller wanted, (updates caller).get? key = some wanted →
      (state.phase caller).Pending key) →
    state.store.kvRead key = initial.kvRead key ∧
      ∀ caller value, (updates caller).get? key = none →
        (state.phase caller).Holds key value → value = initial.kvRead key

/-- Nobody will write the key again, and it has not the value it was set to. -/
def Lost (updates : Caller → ConfigDict ν) (key : Text) (state : ConfigState ν) : Prop :=
  ∃ caller wanted, (updates caller).get? key = some wanted ∧
    state.store.kvRead key ≠ wanted ∧ ∀ other, ¬ (state.phase other).Pending key

section Keys

variable {initial : KvStore ν} {updates : Caller → ConfigDict ν} {key : Text}
variable {state : ConfigState ν} {caller : Caller}

theorem pending_update {next : UpdatePhase ν}
    (same : ∀ wanted, (updates caller).get? key = some wanted →
      (next.Pending key ↔ (state.phase caller).Pending key))
    {other : Caller} {wanted : Option ν} (owns : (updates other).get? key = some wanted) :
    (Function.update state.phase caller next other).Pending key ↔
      (state.phase other).Pending key := by
  by_cases equal : other = caller
  · subst equal
    rw [Function.update_self]
    exact same wanted owns
  · rw [Function.update_of_ne equal]

/-- A step that leaves the key alone. -/
theorem OnCourse.quiet (on : OnCourse initial updates key state) {store : KvStore ν}
    {next : UpdatePhase ν} (value : store.kvRead key = state.store.kvRead key)
    (pending : ∀ wanted, (updates caller).get? key = some wanted →
      (next.Pending key ↔ (state.phase caller).Pending key))
    (holds : (updates caller).get? key = none → ∀ value, next.Holds key value →
      (state.phase caller).Holds key value ∨ value = state.store.kvRead key) :
    OnCourse initial updates key
      { store := store
        phase := Function.update state.phase caller next } := by
  constructor
  · intro other wanted owns done
    rw [value]
    apply on.written other wanted owns
    rwa [pending_update pending owns] at done
  · intro all
    obtain ⟨old, held⟩ := on.untouched fun other wanted owns =>
      (pending_update pending owns).mp (all other wanted owns)
    refine ⟨value.trans old, ?_⟩
    intro other found foreign has
    by_cases same : other = caller
    · subst same
      simp only [Function.update_self] at has
      rcases holds foreign found has with before | read
      · exact held other found foreign before
      · exact read.trans old
    · simp only [Function.update_of_ne same] at has
      exact held other found foreign has

theorem OnCourse.ownWrite {value : Option ν} {items : List (Text × Option ν)}
    (disjoint : ∀ other wanted, (updates other).get? key = some wanted → other = caller)
    (writes : (state.phase caller).WritesRequest (updates caller))
    (phase : state.phase caller = .writing ((key, value) :: items)) {wanted : Option ν}
    (owns : (updates caller).get? key = some wanted) :
    OnCourse initial updates key
      { store := writeKey state.store (key, value)
        phase := Function.update state.phase caller (.writing items) } := by
  rw [phase] at writes
  have same := writes.2 key wanted value owns List.mem_cons_self
  have distinct := writes.1
  rw [List.map_cons, List.nodup_cons] at distinct
  constructor
  · intro other wanted' owns' _
    rw [disjoint other wanted' owns'] at owns'
    rw [kvRead_writeKey, if_pos rfl, same]
    exact Option.some.inj (owns.symm.trans owns')
  · intro all
    have still := all caller wanted owns
    simp only [Function.update_self] at still
    exact (distinct.1 still).elim

/-- A write that puts back something else undoes the other caller's. -/
theorem OnCourse.lose (on : OnCourse initial updates key state) {value : Option ν}
    {items : List (Text × Option ν)}
    (writes : (state.phase caller).WritesRequest (updates caller))
    (phase : state.phase caller = .writing ((key, value) :: items))
    (foreign : (updates caller).get? key = none) (stale : state.store.kvRead key ≠ value) :
    Lost updates key
      { store := writeKey state.store (key, value)
        phase := Function.update state.phase caller (.writing items) } := by
  rw [phase] at writes
  have distinct := writes.1
  rw [List.map_cons, List.nodup_cons] at distinct
  by_cases all : ∀ other wanted, (updates other).get? key = some wanted →
      (state.phase other).Pending key
  · obtain ⟨old, held⟩ := on.untouched all
    have same := held caller value foreign (by rw [phase]; exact List.mem_cons_self)
    exact (stale (old.trans same.symm)).elim
  · push Not at all
    obtain ⟨owner, wanted, owns, done⟩ := all
    have current := on.written owner wanted owns done
    have different : owner ≠ caller := by
      rintro rfl
      rw [foreign] at owns
      cases owns
    refine ⟨owner, wanted, owns, ?_, ?_⟩
    · rw [kvRead_writeKey, if_pos rfl]
      intro equal
      exact stale (current.trans equal.symm)
    · intro other
      by_cases same : other = caller
      · subst same
        simp only [Function.update_self]
        exact distinct.1
      · have equal : other = owner := by
          cases other <;> cases owner <;> cases caller <;> simp_all
        rw [equal] at same ⊢
        simpa only [Function.update_of_ne same] using done

theorem OnCourse.writeStep (on : OnCourse initial updates key state) {value : Option ν}
    {items : List (Text × Option ν)}
    (disjoint : ∀ other wanted wanted', (updates other).get? key = some wanted →
      (updates caller).get? key = some wanted' → other = caller)
    (writes : (state.phase caller).WritesRequest (updates caller))
    (phase : state.phase caller = .writing ((key, value) :: items)) :
    KeyCurrent updates key state caller ∧
        OnCourse initial updates key
          { store := writeKey state.store (key, value)
            phase := Function.update state.phase caller (.writing items) } ∨
      ¬ KeyCurrent updates key state caller ∧
        Lost updates key
          { store := writeKey state.store (key, value)
            phase := Function.update state.phase caller (.writing items) } := by
  cases own : (updates caller).get? key with
  | some wanted =>
      refine Or.inl ⟨?_, ?_⟩
      · intro value items _ foreign
        rw [own] at foreign
        cases foreign
      · exact .ownWrite (fun other wanted' owns => disjoint other wanted' wanted owns own)
          writes phase own
  | none =>
      by_cases current : state.store.kvRead key = value
      · refine Or.inl ⟨?_, on.quiet ?_ ?_ ?_⟩
        · intro value' items' other _
          rw [phase] at other
          cases other
          exact current
        · rw [kvRead_writeKey, if_pos rfl, current]
        · intro wanted owns
          rw [own] at owns
          cases owns
        · intro _ found holds
          rw [phase]
          exact Or.inl (List.mem_cons_of_mem _ holds)
      · refine Or.inr ⟨fun keyCurrent => ?_, on.lose writes phase own current⟩
        exact current (keyCurrent value items phase own)

theorem OnCourse.perform (on : OnCourse initial updates key state) (caller : Caller)
    (disjoint : ∀ other wanted wanted', (updates other).get? key = some wanted →
      (updates caller).get? key = some wanted' → other = caller)
    (writes : (state.phase caller).WritesRequest (updates caller)) :
    KeyCurrent updates key state caller ∧
        OnCourse initial updates key (state.perform updates caller) ∨
      ¬ KeyCurrent updates key state caller ∧
        Lost updates key (state.perform updates caller) := by
  unfold ConfigState.perform
  by_cases writesKey : (state.phase caller).Writes key
  · obtain ⟨value, items, phase⟩ := writesKey.writing
    have step := on.writeStep disjoint writes phase
    rw [phase]
    exact step
  · refine Or.inl ⟨?_, ?_⟩
    · intro value items phase _
      rw [phase] at writesKey
      exact (writesKey rfl).elim
    · exact on.quiet (UpdatePhase.kvRead_updateStep writesKey)
        (fun _ owns => UpdatePhase.pending_updateStep_iff owns writesKey)
        (fun foreign _ holds => UpdatePhase.holds_of_updateStep foreign holds)

theorem Lost.perform (lost : Lost updates key state) :
    Lost updates key (state.perform updates caller) := by
  obtain ⟨owner, wanted, owns, different, done⟩ := lost
  refine ⟨owner, wanted, owns, ?_, ?_⟩
  · have idle : ¬ (state.phase caller).Writes key := fun writes => done caller writes.pending
    have kept : (state.perform updates caller).store.kvRead key = state.store.kvRead key :=
      UpdatePhase.kvRead_updateStep idle
    exact fun stored => different (kept.symm.trans stored)
  · intro other pending
    apply done other
    by_cases same : other = caller
    · subst same
      simp only [ConfigState.perform, Function.update_self] at pending
      exact UpdatePhase.pending_of_updateStep pending
    · simpa only [ConfigState.perform, Function.update_of_ne same] using pending

end Keys

section Runs

variable {initial : KvStore ν} {updates : Caller → ConfigDict ν} {key : Text}

/-- No key is set by both calls. -/
def Disjoint (updates : Caller → ConfigDict ν) : Prop :=
  ∀ key wanted wanted', (updates .first).get? key = some wanted →
    (updates .second).get? key ≠ some wanted'

theorem Disjoint.owner (disjoint : Disjoint updates) {owner caller : Caller}
    {wanted wanted' : Option ν} (one : (updates owner).get? key = some wanted)
    (other : (updates caller).get? key = some wanted') : owner = caller := by
  cases owner with
  | first =>
      cases caller with
      | first => rfl
      | second => exact (disjoint key wanted wanted' one other).elim
  | second =>
      cases caller with
      | first => exact (disjoint key wanted' wanted other one).elim
      | second => rfl

theorem performs_writesRequest {state : ConfigState ν}
    (writes : ∀ caller, (state.phase caller).WritesRequest (updates caller)) (caller : Caller) :
    ∀ other, ((state.perform updates caller).phase other).WritesRequest (updates other) := by
  intro other
  by_cases same : other = caller
  · subst same
    simp only [ConfigState.perform, Function.update_self]
    exact (writes other).step state.store
  · simp only [ConfigState.perform, Function.update_of_ne same]
    exact writes other

theorem Lost.run {state : ConfigState ν} (lost : Lost updates key state)
    (schedule : List Caller) :
    Lost updates key (schedule.foldl (ConfigState.perform updates) state) := by
  induction schedule generalizing state with
  | nil => exact lost
  | cons caller schedule induction => exact induction lost.perform

theorem OnCourse.run (disjoint : Disjoint updates) {state : ConfigState ν}
    (on : OnCourse initial updates key state)
    (writes : ∀ caller, (state.phase caller).WritesRequest (updates caller))
    (schedule : List Caller) :
    AllowedAlong (ConfigState.perform updates) (KeyCurrent updates key) state schedule ∧
        OnCourse initial updates key (schedule.foldl (ConfigState.perform updates) state) ∨
      ¬ AllowedAlong (ConfigState.perform updates) (KeyCurrent updates key) state schedule ∧
        Lost updates key (schedule.foldl (ConfigState.perform updates) state) := by
  induction schedule generalizing state with
  | nil => exact Or.inl ⟨trivial, on⟩
  | cons caller schedule induction =>
      have step := on.perform caller
        (fun other wanted wanted' one two => disjoint.owner one two) (writes caller)
      rcases step with ⟨current, on⟩ | ⟨stale, lost⟩
      · rcases induction on (performs_writesRequest writes caller) with
          ⟨allowed, final⟩ | ⟨refused, final⟩
        · exact Or.inl ⟨⟨current, allowed⟩, final⟩
        · exact Or.inr ⟨fun allowed => refused allowed.2, final⟩
      · exact Or.inr ⟨fun allowed => stale allowed.1, lost.run schedule⟩

theorem onCourse_start (initial : KvStore ν) (updates : Caller → ConfigDict ν) (key : Text) :
    OnCourse initial updates key (.start initial) := by
  constructor
  · intro caller wanted _ done
    exact (done trivial).elim
  · intro _
    refine ⟨rfl, ?_⟩
    intro caller value _ holds
    cases holds

theorem OnCourse.kept {final : ConfigState ν} (on : OnCourse initial updates key final)
    (succeeded : ∀ caller, final.phase caller = .succeeded) :
    Kept initial updates final.store key := by
  constructor
  · intro caller wanted owns
    apply on.written caller wanted owns
    rw [succeeded caller]
    exact id
  · intro unset
    refine (on.untouched ?_).1
    intro caller wanted owns
    rw [unset caller] at owns
    cases owns

theorem kept_iff (disjoint : Disjoint updates) {schedule : List Caller}
    (succeeded : ∀ caller, (schedule.foldl (ConfigState.perform updates)
      (.start initial)).phase caller = .succeeded) :
    (∀ key, Kept initial updates
        (schedule.foldl (ConfigState.perform updates) (.start initial)).store key) ↔
      AllowedAlong (ConfigState.perform updates) (WritesBackCurrent updates) (.start initial)
        schedule := by
  rw [AllowedAlong.congr fun _ _ => writesBackCurrent_iff, AllowedAlong.forall_iff]
  apply forall_congr'
  intro key
  rcases (onCourse_start initial updates key).run disjoint (fun _ => trivial) schedule with
    ⟨allowed, on⟩ | ⟨refused, caller, wanted, owns, different, _⟩
  · exact iff_of_true (on.kept succeeded) allowed
  · exact iff_of_false (fun kept => different (kept.1 caller wanted owns)) refused

end Runs

end Calls

/-- Two updates of different keys keep each other's exactly when neither writes
back a value that has changed since, and one that raises at a write leaves the
config alone exactly when no key before that write was to change. -/
theorem config_updates_whole {ν : Type} (store : KvStore ν) (updates : Caller → ConfigDict ν)
    (disjoint : Disjoint updates) :
    (∀ schedule : List Caller,
      (∀ caller, (schedule.foldl (ConfigState.perform updates)
        (.start store)).phase caller = .succeeded) →
      ((∀ key, Kept store updates
          (schedule.foldl (ConfigState.perform updates) (.start store)).store key) ↔
        AllowedAlong (ConfigState.perform updates) (WritesBackCurrent updates) (.start store)
          schedule)) ∧
    ∀ caller written,
      ((∀ key, (failedUpdate store (updates caller) written).kvRead key = store.kvRead key) ↔
        ∀ item ∈ (mergeConfig (readOrgConfig store) (updates caller)).items.take written,
          (updates caller).get? item.1 = some item.2 → store.kvRead item.1 = item.2) :=
  ⟨fun _ succeeded => kept_iff disjoint succeeded,
    fun caller written => failedUpdate_unchanged_iff store (updates caller) written⟩

/-- Two keys are stored, and each call sets one of them. -/
def twoKeys : KvStore Nat :=
  (Dict.empty.set ['a'] (some 0)).set ['b'] (some 0)

def oneEach : Caller → ConfigDict Nat
  | .first => Dict.empty.set ['a'] (some 1)
  | .second => Dict.empty.set ['b'] (some 1)

theorem oneEach_disjoint : Disjoint oneEach := by
  intro key wanted wanted' one other
  have setsFirst : (oneEach .first).get? key = if key = ['a'] then some (some 1) else none :=
    Dict.get?_set .empty ['a'] key (some 1)
  rw [setsFirst] at one
  split at one
  · rename_i same
    subst same
    cases other
  · cases one

/-- Seven requests of one call after the other. -/
def inTurn : List Caller :=
  List.replicate 7 .first ++ List.replicate 7 .second

theorem config_updates_whole_in_turn :
    (∀ key, Kept twoKeys oneEach
        (inTurn.foldl (ConfigState.perform oneEach) (.start twoKeys)).store key) ∧
      ∀ key, (failedUpdate twoKeys (oneEach .second) 1).kvRead key = twoKeys.kvRead key := by
  have whole := config_updates_whole twoKeys oneEach oneEach_disjoint
  refine ⟨(whole.1 inTurn ?_).mpr (by decide), (whole.2 .second 1).mpr (by decide)⟩
  intro caller
  cases caller with
  | first => rfl
  | second => rfl

/-- Both calls read before either writes. -/
def readBeforeWrites : List Caller :=
  List.replicate 4 .first ++ List.replicate 4 .second ++ List.replicate 3 .first ++
    List.replicate 3 .second

/-- The second call puts the old value of the first key back, and a call that
sets both keys and fails at the second has changed the first. -/
theorem config_updates_lost_and_halved :
    (Disjoint oneEach ∧
      (∀ caller, (readBeforeWrites.foldl (ConfigState.perform oneEach)
        (.start twoKeys)).phase caller = .succeeded) ∧
      ¬ Kept twoKeys oneEach
        (readBeforeWrites.foldl (ConfigState.perform oneEach) (.start twoKeys)).store ['a']) ∧
    (failedUpdate twoKeys ((Dict.empty.set ['a'] (some 1)).set ['b'] (some 1)) 1).kvRead ['a'] ≠
      twoKeys.kvRead ['a'] := by
  refine ⟨⟨oneEach_disjoint, ?_, ?_⟩, by decide⟩
  · intro caller
    cases caller with
    | first => rfl
    | second => rfl
  · intro kept
    exact absurd (kept.1 .first (some 1) rfl) (by decide)

end OpenZync.Config
