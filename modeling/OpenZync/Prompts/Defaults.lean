import OpenZync.Library.Execution
import OpenZync.Prompts.Templates

/-!
# Usable defaults

Every operation that succeeds leaves at most one active version of a name, and
defaults that are active.  An edit keeps the default of a type exactly when the
new version has the type that the old one was the default for.
-/

namespace OpenZync.Prompts

open OpenZync.Library

instance : Std.Symm PromptTemplate.OtherVersion where
  symm _ _ apart same := apart ⟨same.1.symm, same.2.symm⟩

instance : Std.Symm PromptTemplate.OtherDefault where
  symm _ _ apart otherDefault oneDefault type ofOther ofOne :=
    apart oneDefault otherDefault type ofOne ofOther

namespace PromptTable

variable {table later : PromptTable} {rows : List PromptTemplate} {name text : Text}
  {description type : Option Text}

/-- At most one active version of a name, and defaults only among these. -/
structure Usable (table : PromptTable) : Prop where
  oneActive : ∀ first ∈ table.rows, ∀ second ∈ table.rows,
    first.templateName = second.templateName → first.isActive = true →
      second.isActive = true → first = second
  defaultsActive : ∀ row ∈ table.rows, row.isDefaultForType = true → row.isActive = true

/-- Versions of a name are distinct. -/
def VersionsDistinct (table : PromptTable) : Prop :=
  ∀ first ∈ table.rows, ∀ second ∈ table.rows,
    first.templateName = second.templateName → first.version = second.version → first = second

/-- A type has at most one default. -/
def OneDefault (table : PromptTable) : Prop :=
  ∀ first ∈ table.rows, ∀ second ∈ table.rows, first.isDefaultForType = true →
    second.isDefaultForType = true → ∀ type ∈ first.type, second.type = some type →
      first = second

/-- `get_active_text_by_type` finds a row. -/
def HasDefault (table : PromptTable) (type : Text) : Prop :=
  ∃ row ∈ table.rows, row.type = some type ∧ row.isDefaultForType = true ∧ row.isActive = true

instance (table : PromptTable) (type : Text) : Decidable (table.HasDefault type) :=
  inferInstanceAs (Decidable (∃ row ∈ table.rows, _))

theorem versionsDistinct (table : PromptTable) : table.VersionsDistinct := by
  intro first firstStored second secondStored sameName sameVersion
  by_contra different
  exact table.versions.forall firstStored secondStored different ⟨sameName, sameVersion⟩

theorem oneDefault (table : PromptTable) : table.OneDefault := by
  intro first firstStored second secondStored firstDefault secondDefault type ofFirst ofSecond
  by_contra different
  exact table.defaults.forall firstStored secondStored different firstDefault secondDefault type
    ofFirst ofSecond

theorem store_ok (stored : store rows = .ok later) : later.rows = rows := by
  rw [store] at stored
  split at stored
  · cases stored
    rfl
  · cases stored

theorem scalarOneOrNone_some {α : Type} {found : List α} {row : α}
    (single : scalarOneOrNone found = .ok (some row)) : found = [row] := by
  match found with
  | [] => cases single
  | [other] =>
      cases single
      rfl
  | _ :: _ :: _ => cases single

theorem scalarOneOrNone_none {α : Type} {found : List α}
    (single : scalarOneOrNone found = .ok none) : found = [] := by
  match found with
  | [] => rfl
  | [_] => cases single
  | _ :: _ :: _ => cases single

theorem mem_activeNamed {row : PromptTemplate} :
    row ∈ table.activeNamed name ↔
      row ∈ table.rows ∧ row.templateName = name ∧ row.isActive = true := by
  rw [activeNamed, List.mem_filter, Bool.and_eq_true, decide_eq_true_eq]

/-- What a statement does to a row that keeps its name, its activity and a
default. -/
structure KeepsFlags (change : PromptTemplate → PromptTemplate) : Prop where
  templateName : ∀ row, (change row).templateName = row.templateName
  isActive : ∀ row, (change row).isActive = row.isActive

theorem Usable.map (usable : table.Usable) {change : PromptTemplate → PromptTemplate}
    (keeps : KeepsFlags change)
    (defaults : ∀ row ∈ table.rows, (change row).isDefaultForType = true → row.isActive = true)
    (stored : store (table.rows.map change) = .ok later) : later.Usable := by
  constructor
  · intro first firstStored second secondStored same firstActive secondActive
    rw [store_ok stored] at firstStored secondStored
    obtain ⟨one, oneStored, rfl⟩ := List.mem_map.mp firstStored
    obtain ⟨other, otherStored, rfl⟩ := List.mem_map.mp secondStored
    rw [keeps.templateName, keeps.templateName] at same
    rw [keeps.isActive] at firstActive secondActive
    rw [usable.oneActive one oneStored other otherStored same firstActive secondActive]
  · intro row rowStored isDefault
    rw [store_ok stored] at rowStored
    obtain ⟨old, oldStored, rfl⟩ := List.mem_map.mp rowStored
    rw [keeps.isActive]
    exact defaults old oldStored isDefault

theorem Usable.cons (usable : table.Usable) {row : PromptTemplate}
    (active : row.isActive = true)
    (alone : ∀ old ∈ table.rows, old.templateName = row.templateName → old.isActive = false)
    (stored : store (row :: table.rows) = .ok later) : later.Usable := by
  have other : ∀ old ∈ table.rows, old.templateName = row.templateName →
      old.isActive = true → False := by
    intro old oldStored same oldActive
    rw [alone old oldStored same] at oldActive
    cases oldActive
  constructor
  · intro first firstStored second secondStored same firstActive secondActive
    rw [store_ok stored] at firstStored secondStored
    rcases List.mem_cons.mp firstStored with firstNew | firstOld
    · rcases List.mem_cons.mp secondStored with secondNew | secondOld
      · rw [firstNew, secondNew]
      · rw [firstNew] at same
        exact (other second secondOld same.symm secondActive).elim
    · rcases List.mem_cons.mp secondStored with secondNew | secondOld
      · rw [secondNew] at same
        exact (other first firstOld same firstActive).elim
      · exact usable.oneActive first firstOld second secondOld same firstActive secondActive
  · intro old oldStored isDefault
    rw [store_ok stored] at oldStored
    rcases List.mem_cons.mp oldStored with rfl | oldStored
    · exact active
    · exact usable.defaultsActive old oldStored isDefault

theorem Usable.deactivate (usable : table.Usable)
    (stored : store (table.rows.map (deactivate name)) = .ok later) :
    later.Usable ∧ ∀ old ∈ later.rows, old.templateName = name → old.isActive = false := by
  have sameName : ∀ row : PromptTemplate,
      (PromptTable.deactivate name row).templateName = row.templateName := by
    intro row
    rw [PromptTable.deactivate]
    split
    · rfl
    · rfl
  have wasActive : ∀ row : PromptTemplate, (PromptTable.deactivate name row).isActive = true →
      PromptTable.deactivate name row = row ∧ row.templateName ≠ name := by
    intro row active
    rw [PromptTable.deactivate] at active ⊢
    split at active
    · cases active
    · rename_i kept
      rw [if_neg kept]
      exact ⟨rfl, fun same => kept ⟨same, active⟩⟩
  refine ⟨⟨?_, ?_⟩, ?_⟩
  · intro first firstStored second secondStored same firstActive secondActive
    rw [store_ok stored] at firstStored secondStored
    obtain ⟨one, oneStored, rfl⟩ := List.mem_map.mp firstStored
    obtain ⟨other, otherStored, rfl⟩ := List.mem_map.mp secondStored
    obtain ⟨oneKept, _⟩ := wasActive one firstActive
    obtain ⟨otherKept, _⟩ := wasActive other secondActive
    rw [oneKept, otherKept] at same ⊢
    rw [oneKept] at firstActive
    rw [otherKept] at secondActive
    exact usable.oneActive one oneStored other otherStored same firstActive secondActive
  · intro row rowStored isDefault
    rw [store_ok stored] at rowStored
    obtain ⟨old, oldStored, rfl⟩ := List.mem_map.mp rowStored
    rw [PromptTable.deactivate] at isDefault ⊢
    split at isDefault
    · cases isDefault
    · rename_i kept
      rw [if_neg kept]
      exact usable.defaultsActive old oldStored isDefault
  · intro row rowStored same
    rw [store_ok stored] at rowStored
    obtain ⟨old, oldStored, rfl⟩ := List.mem_map.mp rowStored
    cases active : (PromptTable.deactivate name old).isActive with
    | false => rfl
    | true =>
        obtain ⟨kept, different⟩ := wasActive old active
        rw [kept] at same
        exact absurd same different

/-- The three statements of a new version. -/
theorem addVersion_ok (added : table.addVersion name text description type = .ok later) :
    ∃ oldActive deactivated, scalarOneOrNone (table.activeNamed name) = .ok oldActive ∧
      store (table.rows.map (deactivate name)) = .ok deactivated ∧
      later.rows =
        { templateName := name
          templateText := text
          version := deactivated.maxVersion name + 1
          description := description
          type := type
          isActive := true
          isDefaultForType := oldActive.any fun old => old.isDefaultForType && old.type.isSome } ::
          deactivated.rows := by
  obtain ⟨oldActive, found, added⟩ := bind_eq_ok.mp added
  obtain ⟨deactivated, cleared, added⟩ := bind_eq_ok.mp added
  exact ⟨oldActive, deactivated, found, cleared, store_ok added⟩

theorem Usable.addVersion (usable : table.Usable)
    (added : table.addVersion name text description type = .ok later) : later.Usable := by
  obtain ⟨oldActive, found, added⟩ := bind_eq_ok.mp added
  obtain ⟨deactivated, cleared, added⟩ := bind_eq_ok.mp added
  obtain ⟨kept, inactive⟩ := usable.deactivate cleared
  exact kept.cons rfl inactive added

theorem rollback_ok {version : Int} (rolledBack : table.rollback name version = .ok later) :
    ∃ target, table.versionsNamed name version = [target] ∧
      table.addVersion name target.templateText target.description target.type = .ok later := by
  obtain ⟨found, single, rolledBack⟩ := bind_eq_ok.mp rolledBack
  cases found with
  | none => cases rolledBack
  | some target => exact ⟨target, scalarOneOrNone_some single, rolledBack⟩

/-- A change of some rows only. -/
theorem KeepsFlags.ite {condition : PromptTemplate → Prop} [DecidablePred condition]
    {change : PromptTemplate → PromptTemplate}
    (name : ∀ row, (change row).templateName = row.templateName)
    (active : ∀ row, (change row).isActive = row.isActive) :
    KeepsFlags fun row => if condition row then change row else row := by
  constructor
  · intro row
    split
    · exact name row
    · rfl
  · intro row
    split
    · exact active row
    · rfl

theorem keepsFlags_clearDefault (cleared : Text) : KeepsFlags (clearDefault cleared) :=
  .ite (fun _ => rfl) (fun _ => rfl)

theorem keepsFlags_markDefault (template : PromptTemplate) :
    KeepsFlags (markDefault template) :=
  .ite (fun _ => rfl) (fun _ => rfl)

theorem keepsFlags_overwrite (entry : ManifestEntry) (fileText : Text) :
    KeepsFlags (overwrite entry fileText) :=
  .ite (fun _ => rfl) (fun _ => rfl)

theorem Usable.setAsTypeDefault (usable : table.Usable)
    (marked : table.setAsTypeDefault name = .ok later) : later.Usable := by
  obtain ⟨found, single, marked⟩ := bind_eq_ok.mp marked
  cases found with
  | none => cases marked
  | some template =>
      have member : template ∈ table.activeNamed name := by
        rw [scalarOneOrNone_some single]
        exact List.mem_singleton_self template
      obtain ⟨templateStored, _, templateActive⟩ := mem_activeNamed.mp member
      simp only at marked
      split at marked
      · cases marked
      · rename_i type typed
        obtain ⟨cleared, clearing, marked⟩ := bind_eq_ok.mp marked
        have kept : cleared.Usable := by
          apply usable.map (keepsFlags_clearDefault type) ?_ clearing
          intro row stored isDefault
          rw [clearDefault] at isDefault
          split at isDefault
          · cases isDefault
          · exact usable.defaultsActive row stored isDefault
        apply kept.map (keepsFlags_markDefault template) ?_ marked
        intro row stored isDefault
        rw [markDefault] at isDefault
        split at isDefault
        · rename_i same
          rw [store_ok clearing] at stored
          obtain ⟨old, oldStored, rfl⟩ := List.mem_map.mp stored
          have sameVersion : (clearDefault type old).version = old.version := by
            rw [clearDefault]
            split
            · rfl
            · rfl
          rw [(keepsFlags_clearDefault type).templateName, sameVersion] at same
          rw [(keepsFlags_clearDefault type).isActive,
            table.versionsDistinct old oldStored template templateStored same.1 same.2]
          exact templateActive
        · exact kept.defaultsActive row stored isDefault

theorem Usable.deleteForOrg (usable : table.Usable)
    (deleted : table.deleteForOrg name = .ok later) : later.Usable := by
  have stays : ∀ row ∈ later.rows, row ∈ table.rows := by
    intro row stored
    rw [store_ok deleted] at stored
    exact List.mem_of_mem_filter stored
  constructor
  · intro first firstStored second secondStored
    exact usable.oneActive first (stays first firstStored) second (stays second secondStored)
  · intro row stored
    exact usable.defaultsActive row (stays row stored)

/-- A manifest entry is copied under a name without rows. -/
theorem Usable.copy (usable : table.Usable) {row : PromptTemplate} (active : row.isActive = true)
    (unknown : scalarOneOrNone (table.named row.templateName) = .ok none)
    (stored : store (row :: table.rows) = .ok later) : later.Usable := by
  apply usable.cons active ?_ stored
  intro old oldStored same
  have member : old ∈ table.named row.templateName :=
    List.mem_filter.mpr ⟨oldStored, decide_eq_true same⟩
  rw [scalarOneOrNone_none unknown] at member
  cases member

theorem Usable.seedEntry {files : Text → Option Text} {state next : PromptTable × Nat}
    {entry : ManifestEntry} (usable : state.1.Usable)
    (seeded : seedEntry files state entry = .ok next) : next.1.Usable := by
  rw [PromptTable.seedEntry] at seeded
  split at seeded
  · cases seeded
    exact usable
  · obtain ⟨existing, found, seeded⟩ := bind_eq_ok.mp seeded
    obtain ⟨fileText, read, seeded⟩ := bind_eq_ok.mp seeded
    cases existing with
    | none =>
        obtain ⟨grown, stored, seeded⟩ := bind_eq_ok.mp seeded
        cases seeded
        exact usable.copy rfl found stored
    | some template =>
        simp only at seeded
        split at seeded
        · obtain ⟨overwritten, stored, seeded⟩ := bind_eq_ok.mp seeded
          cases seeded
          apply usable.map (keepsFlags_overwrite entry fileText) ?_ stored
          intro row rowStored isDefault
          rw [overwrite] at isDefault
          split at isDefault
          · exact usable.defaultsActive row rowStored isDefault
          · exact usable.defaultsActive row rowStored isDefault
        · cases seeded
          exact usable

theorem Usable.importSystemTemplate {manifest : List ManifestEntry} {files : Text → Option Text}
    (usable : table.Usable)
    (imported : table.importSystemTemplate manifest files name = .ok later) : later.Usable := by
  rw [PromptTable.importSystemTemplate] at imported
  split at imported
  · cases imported
  · obtain ⟨existing, found, imported⟩ := bind_eq_ok.mp imported
    cases existing with
    | some template => cases imported
    | none =>
        obtain ⟨fileText, read, stored⟩ := bind_eq_ok.mp imported
        exact usable.copy rfl found stored

theorem Usable.perform {manifest : List ManifestEntry} {files : Text → Option Text}
    (usable : table.Usable) {operation : PromptOperation}
    (performed : performPrompts manifest files table operation = .ok later) : later.Usable := by
  cases operation with
  | seedDefaultPrompts =>
      obtain ⟨final, seeded, rfl⟩ := map_eq_ok.mp performed
      exact invariant_of_foldlM (fun _ _ _ kept seededEntry => Usable.seedEntry kept seededEntry)
        seeded usable
  | importSystemTemplate name => exact usable.importSystemTemplate performed
  | setForOrg name text description type => exact usable.addVersion performed
  | rollback name version =>
      obtain ⟨target, _, added⟩ := rollback_ok performed
      exact usable.addVersion added
  | setAsTypeDefault name => exact usable.setAsTypeDefault performed
  | deleteForOrg name => exact usable.deleteForOrg performed

theorem oldWasDefault_iff (usable : table.Usable) {oldActive : Option PromptTemplate}
    (found : scalarOneOrNone (table.activeNamed name) = .ok oldActive) :
    (oldActive.any fun old => old.isDefaultForType && old.type.isSome) = true ↔
      ∃ row ∈ table.rows, row.templateName = name ∧ row.isDefaultForType = true ∧
        row.type.isSome = true := by
  cases oldActive with
  | none =>
      simp only [Option.any_none, Bool.false_eq_true, false_iff]
      rintro ⟨row, stored, sameName, isDefault, _⟩
      have member : row ∈ table.activeNamed name :=
        mem_activeNamed.mpr ⟨stored, sameName, usable.defaultsActive row stored isDefault⟩
      rw [scalarOneOrNone_none found] at member
      cases member
  | some old =>
      rw [Option.any_some, Bool.and_eq_true]
      have oldMember : old ∈ table.activeNamed name := by
        rw [scalarOneOrNone_some found]
        exact List.mem_singleton_self old
      obtain ⟨oldStored, oldName, _⟩ := mem_activeNamed.mp oldMember
      constructor
      · intro flags
        exact ⟨old, oldStored, oldName, flags⟩
      · rintro ⟨row, stored, sameName, flags⟩
        have member : row ∈ table.activeNamed name :=
          mem_activeNamed.mpr ⟨stored, sameName, usable.defaultsActive row stored flags.1⟩
        rw [scalarOneOrNone_some found, List.mem_singleton] at member
        rw [← member]
        exact flags

theorem addVersion_keepsDefaults_iff (usable : table.Usable)
    (added : table.addVersion name text description type = .ok later) :
    (∀ kind, table.HasDefault kind → later.HasDefault kind) ↔
      ∀ row ∈ table.rows, row.templateName = name → row.isDefaultForType = true →
        ∀ kind ∈ row.type, type = some kind := by
  obtain ⟨oldActive, deactivated, found, cleared, rows⟩ := addVersion_ok added
  have flag := oldWasDefault_iff usable found
  constructor
  · intro keeps row stored sameName isDefault kind ofKind
    obtain ⟨other, otherStored, otherKind, otherDefault, _⟩ :=
      keeps kind ⟨row, stored, ofKind, isDefault, usable.defaultsActive row stored isDefault⟩
    rw [rows, store_ok cleared] at otherStored
    rcases List.mem_cons.mp otherStored with rfl | otherOld
    · exact otherKind
    · obtain ⟨old, oldStored, rfl⟩ := List.mem_map.mp otherOld
      rw [deactivate] at otherKind otherDefault
      split at otherDefault
      · cases otherDefault
      · rename_i kept
        rw [if_neg kept] at otherKind
        have same : old = row :=
          table.oneDefault old oldStored row stored otherDefault isDefault kind otherKind ofKind
        rw [same] at kept
        exact absurd ⟨sameName, usable.defaultsActive row stored isDefault⟩ kept
  · intro sameType kind had
    obtain ⟨row, stored, ofKind, isDefault, active⟩ := had
    by_cases sameName : row.templateName = name
    · rw [HasDefault, rows]
      refine ⟨_, List.mem_cons_self, ?_, ?_, ?_⟩
      · exact sameType row stored sameName isDefault kind ofKind
      · exact flag.mpr ⟨row, stored, sameName, isDefault, by rw [ofKind]; rfl⟩
      · rfl
    · refine ⟨row, ?_, ofKind, isDefault, active⟩
      rw [rows, store_ok cleared]
      apply List.mem_cons_of_mem
      refine List.mem_map.mpr ⟨row, stored, ?_⟩
      rw [deactivate, if_neg]
      exact fun same => sameName same.1

end PromptTable

def PromptOperation.IsEdit : PromptOperation → Prop
  | .setForOrg _ _ _ _ => True
  | .rollback _ _ => True
  | _ => False

/-- The name and the type of the version that an edit or a rollback adds. -/
def PromptTable.added (table : PromptTable) : PromptOperation → Option (Text × Option Text)
  | .setForOrg name _ _ type => some (name, type)
  | .rollback name version =>
      (table.versionsNamed name version).head?.map fun target => (name, target.type)
  | _ => none

/-- The new version has the type that the old one is the default for. -/
def PromptTable.KeepsType (table : PromptTable) (operation : PromptOperation) : Prop :=
  ∀ new ∈ table.added operation, ∀ row ∈ table.rows, row.templateName = new.1 →
    row.isDefaultForType = true → ∀ kind ∈ row.type, new.2 = some kind

instance (table : PromptTable) (operation : PromptOperation) :
    Decidable (table.KeepsType operation) :=
  inferInstanceAs (Decidable (∀ new ∈ _, ∀ row ∈ table.rows, _))

/-- Whatever operations succeed one after the other, a name has at most one
active version and distinct versions, a type has at most one default and that
is active; and an edit or a rollback leaves every type its default exactly when
the new version has the type that the old one was the default for. -/
theorem prompts_keep_usable_defaults (manifest : List ManifestEntry) (files : Text → Option Text)
    {start table : PromptTable} (usable : start.Usable) {operations : List PromptOperation}
    (ran : operations.foldlM (performPrompts manifest files) start = .ok table) :
    table.Usable ∧ table.VersionsDistinct ∧ table.OneDefault ∧
      ∀ operation later, operation.IsEdit →
        performPrompts manifest files table operation = .ok later →
          ((∀ kind, table.HasDefault kind → later.HasDefault kind) ↔
            table.KeepsType operation) := by
  have kept : table.Usable :=
    invariant_of_foldlM (fun _ _ _ kept performed => kept.perform performed) ran usable
  refine ⟨kept, table.versionsDistinct, table.oneDefault, ?_⟩
  intro operation later edits performed
  cases operation with
  | seedDefaultPrompts => exact edits.elim
  | importSystemTemplate name => exact edits.elim
  | setForOrg name text description type =>
      rw [PromptTable.addVersion_keepsDefaults_iff kept performed, PromptTable.KeepsType]
      constructor
      · intro same new isNew
        cases isNew
        exact same
      · intro same
        exact same (name, type) rfl
  | rollback name version =>
      obtain ⟨target, single, added⟩ := PromptTable.rollback_ok performed
      rw [PromptTable.addVersion_keepsDefaults_iff kept added, PromptTable.KeepsType]
      have isTarget : table.added (.rollback name version) = some (name, target.type) := by
        rw [PromptTable.added, single]
        rfl
      rw [isTarget]
      constructor
      · intro same new isNew
        cases isNew
        exact same
      · intro same
        exact same (name, target.type) rfl
  | setAsTypeDefault name => exact edits.elim
  | deleteForOrg name => exact edits.elim

/-- Two templates of one type, of which the first is the default. -/
def factManifest : List ManifestEntry :=
  [{ name := "v4".toList
     file := "v4.jinja2".toList
     type := some "facts".toList
     description := none
     isDefaultForType := true },
   { name := "v3".toList
     file := "v3.jinja2".toList
     type := some "facts".toList
     description := none
     isDefaultForType := false }]

def factFiles : Text → Option Text :=
  fun file => some file

/-- A template is imported beside the default, which is edited and rolled back. -/
def factHistory : List PromptOperation :=
  [.seedDefaultPrompts, .importSystemTemplate "v3".toList,
    .setForOrg "v4".toList "edited".toList none (some "facts".toList), .rollback "v4".toList 1]

/-- The history and one more operation. -/
def afterwards (history : List PromptOperation) (operation : PromptOperation) :
    Except PromptError (PromptTable × PromptTable) :=
  history.foldlM (performPrompts factManifest factFiles) .empty >>= fun table =>
    (performPrompts factManifest factFiles table operation).map fun later => (table, later)

theorem empty_usable : PromptTable.empty.Usable := by
  constructor
  · intro first stored
    cases stored
  · intro row stored
    cases stored

theorem prompts_keep_usable_defaults_edited :
    ∃ table later : PromptTable,
      factHistory.foldlM (performPrompts factManifest factFiles) .empty = .ok table ∧
      performPrompts factManifest factFiles table
        (.setForOrg "v4".toList "new".toList none (some "facts".toList)) = .ok later ∧
      table.Usable ∧ table.VersionsDistinct ∧ table.OneDefault ∧
      (∀ kind, table.HasDefault kind → later.HasDefault kind) ∧
      table.HasDefault "facts".toList := by
  obtain ⟨⟨table, later⟩, ran, kept⟩ := exists_ok
    (show (afterwards factHistory
        (.setForOrg "v4".toList "new".toList none (some "facts".toList))).toOption.any
        (fun result => decide (result.1.KeepsType
            (.setForOrg "v4".toList "new".toList none (some "facts".toList))) &&
          decide (result.1.HasDefault "facts".toList)) = true by decide +kernel)
  obtain ⟨other, first, second⟩ := bind_eq_ok.mp ran
  obtain ⟨final, performed, same⟩ := map_eq_ok.mp second
  cases same
  rw [Bool.and_eq_true, decide_eq_true_eq, decide_eq_true_eq] at kept
  obtain ⟨usable, distinct, one, edits⟩ :=
    prompts_keep_usable_defaults factManifest factFiles empty_usable first
  exact ⟨table, later, first, performed, usable, distinct, one,
    (edits (.setForOrg "v4".toList "new".toList none (some "facts".toList)) later trivial
      performed).mpr kept.1, kept.2⟩

/-- An edit that names no type leaves the type without a default. -/
theorem edit_loses_default :
    ∃ table later : PromptTable,
      [PromptOperation.seedDefaultPrompts].foldlM (performPrompts factManifest factFiles)
        .empty = .ok table ∧
      performPrompts factManifest factFiles table
        (.setForOrg "v4".toList "new".toList none none) = .ok later ∧
      table.HasDefault "facts".toList ∧ ¬ later.HasDefault "facts".toList := by
  obtain ⟨⟨table, later⟩, ran, lost⟩ := exists_ok
    (show (afterwards [.seedDefaultPrompts]
        (.setForOrg "v4".toList "new".toList none none)).toOption.any
        (fun result => decide (result.1.HasDefault "facts".toList) &&
          decide (¬ result.2.HasDefault "facts".toList)) = true by decide +kernel)
  obtain ⟨other, first, second⟩ := bind_eq_ok.mp ran
  obtain ⟨final, performed, same⟩ := map_eq_ok.mp second
  cases same
  rw [Bool.and_eq_true, decide_eq_true_eq, decide_eq_true_eq] at lost
  exact ⟨table, later, first, performed, lost.1, lost.2⟩

end OpenZync.Prompts
