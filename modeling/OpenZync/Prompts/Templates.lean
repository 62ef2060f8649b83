import Mathlib.Data.List.Pairwise
import OpenZync.Text

/-!
# Prompt templates

The rows of `prompt_templates` of one organization and the operations of the
repository that write them.  A template has versions, one of which is active,
and at most one template of a type is its default; an edit or a rollback adds a
version and deactivates the one before.
-/

namespace OpenZync.Prompts

structure PromptTemplate where
  templateName : Text
  templateText : Text
  version : Int
  description : Option Text
  type : Option Text
  isActive : Bool
  isDefaultForType : Bool
  deriving DecidableEq

/-- Two rows that `uq_prompt_templates_org_name_version` allows together. -/
def PromptTemplate.OtherVersion (first second : PromptTemplate) : Prop :=
  ¬ (first.templateName = second.templateName ∧ first.version = second.version)

/-- Two rows that `uq_prompt_templates_default_type` allows together: the index
has the defaults only, and a type that is null differs from any other. -/
def PromptTemplate.OtherDefault (first second : PromptTemplate) : Prop :=
  first.isDefaultForType = true → second.isDefaultForType = true →
    ∀ type ∈ first.type, second.type ≠ some type

instance (first second : PromptTemplate) : Decidable (first.OtherVersion second) :=
  inferInstanceAs (Decidable (¬ _))

instance (first second : PromptTemplate) : Decidable (first.OtherDefault second) :=
  inferInstanceAs (Decidable (_ → _ → ∀ type ∈ _, _))

structure PromptTable where
  rows : List PromptTemplate
  versions : rows.Pairwise PromptTemplate.OtherVersion
  defaults : rows.Pairwise PromptTemplate.OtherDefault

/-- The failures of the operations, with what their texts name. -/
inductive PromptError where
  | notFound (name : Text)
  | typeless (name : Text)
  | versionNotFound (name : Text) (version : Int)
  | noManifestEntry (name : Text)
  | alreadyImported (name : Text)
  | fileNotFound (file : Text)
  | multipleResults
  | integrity
  deriving DecidableEq

/-- `scalar_one_or_none`. -/
def scalarOneOrNone {α : Type} : List α → Except PromptError (Option α)
  | [] => .ok none
  | [row] => .ok (some row)
  | _ => .error .multipleResults

/-- An entry of `manifest.yaml`. -/
structure ManifestEntry where
  name : Text
  file : Text
  type : Option Text
  description : Option Text
  isDefaultForType : Bool

/-- `get_by_name`, where the last entry of a name counts. -/
def getByName (manifest : List ManifestEntry) (name : Text) : Option ManifestEntry :=
  manifest.reverse.find? fun entry => decide (entry.name = name)

namespace PromptTable

/-- What a statement leaves, under the two unique indexes. -/
def store (rows : List PromptTemplate) : Except PromptError PromptTable :=
  if fits : rows.Pairwise PromptTemplate.OtherVersion ∧ rows.Pairwise PromptTemplate.OtherDefault
  then .ok ⟨rows, fits.1, fits.2⟩
  else .error .integrity

def empty : PromptTable :=
  ⟨[], .nil, .nil⟩

def named (table : PromptTable) (name : Text) : List PromptTemplate :=
  table.rows.filter fun row => decide (row.templateName = name)

def activeNamed (table : PromptTable) (name : Text) : List PromptTemplate :=
  table.rows.filter fun row => decide (row.templateName = name) && row.isActive

def versionsNamed (table : PromptTable) (name : Text) (version : Int) : List PromptTemplate :=
  table.rows.filter fun row => decide (row.templateName = name ∧ row.version = version)

/-- `SELECT max(version)`, and 0 for a name without rows. -/
def maxVersion (table : PromptTable) (name : Text) : Int :=
  ((table.named name).map PromptTemplate.version).max?.getD 0

/-- The row that the deactivation of a name leaves. -/
def deactivate (name : Text) (row : PromptTemplate) : PromptTemplate :=
  if row.templateName = name ∧ row.isActive = true then
    { row with
      isActive := false
      isDefaultForType := false }
  else row

/-- What `set_for_org` and `rollback` share: the active version is deactivated
and a new one takes over its default flag. -/
def addVersion (table : PromptTable) (name text : Text) (description type : Option Text) :
    Except PromptError PromptTable := do
  let oldActive ← scalarOneOrNone (table.activeNamed name)
  let oldWasDefault := oldActive.any fun old => old.isDefaultForType && old.type.isSome
  let deactivated ← store (table.rows.map (deactivate name))
  store
    ({ templateName := name
       templateText := text
       version := deactivated.maxVersion name + 1
       description := description
       type := type
       isActive := true
       isDefaultForType := oldWasDefault } :: deactivated.rows)

def setForOrg (table : PromptTable) (name text : Text) (description type : Option Text) :
    Except PromptError PromptTable :=
  table.addVersion name text description type

def rollback (table : PromptTable) (name : Text) (version : Int) :
    Except PromptError PromptTable := do
  match ← scalarOneOrNone (table.versionsNamed name version) with
  | none => .error (.versionNotFound name version)
  | some target => table.addVersion name target.templateText target.description target.type

/-- The row that the `UPDATE` of a type's defaults leaves. -/
def clearDefault (type : Text) (row : PromptTemplate) : PromptTemplate :=
  if row.type = some type ∧ row.isDefaultForType = true then
    { row with isDefaultForType := false }
  else row

/-- The row that the flush of the new default leaves. -/
def markDefault (template row : PromptTemplate) : PromptTemplate :=
  if row.templateName = template.templateName ∧ row.version = template.version then
    { row with isDefaultForType := true }
  else row

def setAsTypeDefault (table : PromptTable) (name : Text) : Except PromptError PromptTable := do
  match ← scalarOneOrNone (table.activeNamed name) with
  | none => .error (.notFound name)
  | some template =>
      match template.type with
      | none => .error (.typeless name)
      | some type =>
          let cleared ← store (table.rows.map (clearDefault type))
          store (cleared.rows.map (markDefault template))

def deleteForOrg (table : PromptTable) (name : Text) : Except PromptError PromptTable :=
  store (table.rows.filter fun row => decide (row.templateName ≠ name))

/-- The copy of a manifest entry. -/
def copyOf (entry : ManifestEntry) (text : Text) : PromptTemplate :=
  { templateName := entry.name
    templateText := text
    version := 1
    description := entry.description
    type := entry.type
    isActive := true
    isDefaultForType := entry.isDefaultForType }

/-- `get_template_text`, for the files that there are. -/
def getTemplateText (files : Text → Option Text) (file : Text) : Except PromptError Text :=
  match files file with
  | none => .error (.fileNotFound file)
  | some text => .ok text

/-- The row that the file of a default is written over. -/
def overwrite (entry : ManifestEntry) (text : Text) (row : PromptTemplate) : PromptTemplate :=
  if row.templateName = entry.name then
    { row with
      templateText := text
      description := entry.description }
  else row

/-- One entry of the loop of `seed_default_prompts`, with the count. -/
def seedEntry (files : Text → Option Text) (state : PromptTable × Nat) (entry : ManifestEntry) :
    Except PromptError (PromptTable × Nat) :=
  if entry.isDefaultForType = false then .ok state
  else do
    let existing ← scalarOneOrNone (state.1.named entry.name)
    let text ← getTemplateText files entry.file
    match existing with
    | some template =>
        if template.isDefaultForType = true ∧
            (template.templateText ≠ text ∨ template.description ≠ entry.description) then do
          let table ← store (state.1.rows.map (overwrite entry text))
          .ok (table, state.2 + 1)
        else .ok state
    | none => do
        let table ← store (copyOf entry text :: state.1.rows)
        .ok (table, state.2 + 1)

def seedDefaultPrompts (manifest : List ManifestEntry) (files : Text → Option Text)
    (table : PromptTable) : Except PromptError (PromptTable × Nat) :=
  manifest.foldlM (seedEntry files) (table, 0)

def importSystemTemplate (manifest : List ManifestEntry) (files : Text → Option Text)
    (table : PromptTable) (name : Text) : Except PromptError PromptTable :=
  match getByName manifest name with
  | none => .error (.noManifestEntry name)
  | some entry => do
      match ← scalarOneOrNone (table.named name) with
      | some _ => .error (.alreadyImported name)
      | none =>
          let text ← getTemplateText files entry.file
          store ({ copyOf entry text with templateName := name } :: table.rows)

end PromptTable

inductive PromptOperation where
  | seedDefaultPrompts
  | importSystemTemplate (name : Text)
  | setForOrg (name text : Text) (description type : Option Text)
  | rollback (name : Text) (version : Int)
  | setAsTypeDefault (name : Text)
  | deleteForOrg (name : Text)

def performPrompts (manifest : List ManifestEntry) (files : Text → Option Text)
    (table : PromptTable) : PromptOperation → Except PromptError PromptTable
  | .seedDefaultPrompts => (table.seedDefaultPrompts manifest files).map Prod.fst
  | .importSystemTemplate name => table.importSystemTemplate manifest files name
  | .setForOrg name text description type => table.setForOrg name text description type
  | .rollback name version => table.rollback name version
  | .setAsTypeDefault name => table.setAsTypeDefault name
  | .deleteForOrg name => table.deleteForOrg name

end OpenZync.Prompts
