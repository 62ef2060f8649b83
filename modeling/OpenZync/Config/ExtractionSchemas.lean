import OpenZync.Library.Execution
import OpenZync.Library.Json
import OpenZync.Text

/-!
# Extraction schemas

`create_schema`, `update_schema` and `delete_schema` of the schema service on the
rows of `extraction_schemas`, with their two checks: the shape of a label set,
which the service reads itself, and the draft-07 check of the `jsonschema`
package, which may be missing.
-/

namespace OpenZync.Config

open Library

variable {ν : Type}

/-- A JSON object, as a `dict`. -/
abbrev Document (ν : Type) := List (Text × Json ν)

/-- `document.get(key)` -/
def field (document : Document ν) (key : Text) : Option (Json ν) :=
  (document.find? fun item => item.1 == key).map Prod.snd

inductive SchemaType where
  | structured
  | classification
deriving DecidableEq

/-- What `check_schema` raises. -/
structure SchemaError where
  path : List Text
  message : Text

/-- The `jsonschema` package: `Draft7Validator.check_schema` of a document, and
whether `validate` accepts data under one. -/
structure JsonschemaLibrary (ν : Type) where
  checkSchema : Document ν → Option SchemaError
  conforms : Document ν → Document ν → Bool

/-- In the meta-schema `required` is an array of strings. -/
def JsonschemaLibrary.RequiresNames (library : JsonschemaLibrary ν) : Prop :=
  ∀ document, library.checkSchema document = none → ∀ required ∈ field document "required".toList,
    ∃ names : List Text, required = .array (names.map Json.string)

inductive SchemaFailure (ν : Type) where
  | notFound (schemaId : Uuid)
  | conflict (name : Text)
  /-- The label set has another value than a list at a key. -/
  | notList (key : Text) (value : Json ν)
  | noLabel (key : Text)
  | blankLabel (key : Text)
  | invalidSchema (message : Text)

/-- A row of `extraction_schemas`. -/
structure StoredSchema (ν : Type) where
  id : Uuid
  organizationId : Uuid
  name : Text
  type : SchemaType
  jsonSchema : Document ν
  promptTemplate : Option Text
  isActive : Bool

/-- The table under its primary key. -/
structure SchemaTable (ν : Type) where
  rows : List (StoredSchema ν)
  ids : (rows.map StoredSchema.id).Nodup

namespace SchemaTable

/-- Insert a row whose identifier is new. -/
def insert (table : SchemaTable ν) (schema : StoredSchema ν)
    (fresh : schema.id ∉ table.rows.map StoredSchema.id) : SchemaTable ν :=
  { rows := table.rows ++ [schema]
    ids := by
      rw [List.map_append, List.map_singleton, List.nodup_append]
      refine ⟨table.ids, List.nodup_singleton _, ?_⟩
      intro id member other here same
      rw [List.mem_singleton.mp here] at same
      exact fresh (same ▸ member) }

/-- Change the row of an identifier. -/
def modify (table : SchemaTable ν) (id : Uuid) (change : StoredSchema ν → StoredSchema ν)
    (keepsId : ∀ schema, (change schema).id = schema.id) : SchemaTable ν :=
  { rows := table.rows.map fun schema => if schema.id = id then change schema else schema
    ids := by
      have same : StoredSchema.id ∘ (fun schema =>
          if schema.id = id then change schema else schema) = StoredSchema.id := by
        funext schema
        rw [Function.comp_apply]
        split
        · exact keepsId schema
        · rfl
      rw [List.map_map, same]
      exact table.ids }

end SchemaTable

structure CreateRequest (ν : Type) where
  name : Text
  jsonSchema : Document ν
  type : SchemaType
  promptTemplate : Option Text

/-- A field that is `none` is left unchanged. -/
structure UpdateRequest (ν : Type) where
  name : Option Text
  jsonSchema : Option (Document ν)
  promptTemplate : Option Text
  isActive : Option Bool

section Checks

/-- `_CLASSIFICATION_SCHEMA_KEYS` -/
def classificationSchemaKeys : List Text :=
  ["intent".toList, "emotion".toList, "valence".toList, "arousal".toList]

/-- A string with something else than spaces. -/
def isLabel : Json ν → Bool
  | .string label => !(Text.strip label).isEmpty
  | _ => false

/-- The check of one key, which may be missing or null. -/
def validateLabels (key : Text) : Option (Json ν) → Except (SchemaFailure ν) Unit
  | none => .ok ()
  | some .null => .ok ()
  | some (.array labels) =>
      if labels.isEmpty then .error (.noLabel key)
      else if labels.all isLabel then .ok ()
      else .error (.blankLabel key)
  | some value => .error (.notList key value)

/-- `_validate_classification_schema` -/
def validateClassificationSchema (document : Document ν) : Except (SchemaFailure ν) Unit :=
  classificationSchemaKeys.forM fun key => validateLabels key (field document key)

/-- The message of a failed check. -/
def invalidSchemaMessage (error : SchemaError) : Text :=
  let path := List.intercalate ['.'] error.path
  let location :=
    if path.isEmpty then " at schema root".toList else " at '".toList ++ path ++ ['\'']
  "Invalid JSON Schema".toList ++ location ++ ": ".toList ++ error.message

/-- `_validate_json_schema`, which passes everything without the package. -/
def validateJsonSchema (library : Option (JsonschemaLibrary ν)) (document : Document ν) :
    Except (SchemaFailure ν) Unit :=
  match library with
  | none => .ok ()
  | some library =>
      match library.checkSchema document with
      | none => .ok ()
      | some error => .error (.invalidSchema (invalidSchemaMessage error))

/-- What `create_schema` checks for a type. -/
def checkDocument (library : Option (JsonschemaLibrary ν)) (type : SchemaType)
    (document : Document ν) : Except (SchemaFailure ν) Unit :=
  match type with
  | .classification => validateClassificationSchema document
  | .structured => validateJsonSchema library document

end Checks

section Service

variable (library : Option (JsonschemaLibrary ν)) (table : SchemaTable ν)

/-- `get_by_id` -/
def schemaById (orgId schemaId : Uuid) : Option (StoredSchema ν) :=
  table.rows.find? fun schema => schema.id == schemaId && schema.organizationId == orgId

/-- `get_by_name` finds a schema. -/
def nameTaken (orgId : Uuid) (name : Text) : Bool :=
  table.rows.any fun schema => schema.organizationId == orgId && schema.name == name

/-- `create_schema`, with the identifier that is drawn; the insertion of one that
is there is reported as a conflict of the name. -/
def createSchema (orgId id : Uuid) (payload : CreateRequest ν) :
    Except (SchemaFailure ν) (SchemaTable ν) :=
  match checkDocument library payload.type payload.jsonSchema with
  | .error failure => .error failure
  | .ok () =>
      if nameTaken table orgId payload.name then .error (.conflict payload.name)
      else if fresh : id ∉ table.rows.map StoredSchema.id then
        .ok
          (table.insert
            { id := id
              organizationId := orgId
              name := payload.name
              type := payload.type
              jsonSchema := payload.jsonSchema
              promptTemplate := payload.promptTemplate
              isActive := true }
            fresh)
      else .error (.conflict payload.name)

/-- The row with the fields that are given. -/
def UpdateRequest.apply (payload : UpdateRequest ν) (schema : StoredSchema ν) : StoredSchema ν :=
  { schema with
    name := payload.name.getD schema.name
    jsonSchema := payload.jsonSchema.getD schema.jsonSchema
    promptTemplate := payload.promptTemplate.or schema.promptTemplate
    isActive := payload.isActive.getD schema.isActive }

/-- A new name that another schema has. -/
def renameConflict (orgId : Uuid) (schema : StoredSchema ν) (payload : UpdateRequest ν) :
    Option Text :=
  payload.name.filter fun name => name != schema.name && nameTaken table orgId name

/-- What `update_schema` checks of a new document: that of a label set. -/
def checkUpdate (schema : StoredSchema ν) (payload : UpdateRequest ν) :
    Except (SchemaFailure ν) Unit :=
  match payload.jsonSchema, schema.type with
  | some document, .classification => validateClassificationSchema document
  | _, _ => .ok ()

/-- `update_schema`; applying an empty payload changes nothing. -/
def updateSchema (orgId schemaId : Uuid) (payload : UpdateRequest ν) :
    Except (SchemaFailure ν) (SchemaTable ν) :=
  match schemaById table orgId schemaId with
  | none => .error (.notFound schemaId)
  | some schema =>
      match renameConflict table orgId schema payload with
      | some name => .error (.conflict name)
      | none =>
          match checkUpdate schema payload with
          | .error failure => .error failure
          | .ok () => .ok (table.modify schema.id payload.apply fun _ => rfl)

/-- `delete_schema` -/
def deleteSchema (orgId schemaId : Uuid) : Except (SchemaFailure ν) (SchemaTable ν) :=
  match schemaById table orgId schemaId with
  | none => .error (.notFound schemaId)
  | some schema =>
      .ok (table.modify schema.id (fun row => { row with isActive := false }) fun _ => rfl)

end Service

inductive SchemaRequest (ν : Type) where
  | create (orgId id : Uuid) (payload : CreateRequest ν)
  | update (orgId schemaId : Uuid) (payload : UpdateRequest ν)
  | delete (orgId schemaId : Uuid)

/-- The result of a request. -/
def answerRequest (library : Option (JsonschemaLibrary ν)) (table : SchemaTable ν) :
    SchemaRequest ν → Except (SchemaFailure ν) (SchemaTable ν)
  | .create orgId id payload => createSchema library table orgId id payload
  | .update orgId schemaId payload => updateSchema table orgId schemaId payload
  | .delete orgId schemaId => deleteSchema table orgId schemaId

/-- The table after a request; one that fails changes nothing. -/
def performRequest (library : Option (JsonschemaLibrary ν)) (table : SchemaTable ν)
    (request : SchemaRequest ν) : SchemaTable ν :=
  match answerRequest library table request with
  | .ok after => after
  | .error _ => table

/-- The schema passes what `create_schema` checks for its type. -/
def StoredSchema.Passes (library : Option (JsonschemaLibrary ν)) (schema : StoredSchema ν) : Prop :=
  checkDocument library schema.type schema.jsonSchema = .ok ()

/-- Every stored schema passes. -/
def AllPass (library : Option (JsonschemaLibrary ν)) (table : SchemaTable ν) : Prop :=
  ∀ schema ∈ table.rows, schema.Passes library

/-- An update that is carried out gives a structured schema no document that
fails the draft-07 check. -/
def ChecksStructured (library : Option (JsonschemaLibrary ν)) (table : SchemaTable ν) :
    SchemaRequest ν → Prop
  | .update orgId schemaId payload =>
      ∀ schema ∈ schemaById table orgId schemaId, ∀ document ∈ payload.jsonSchema,
        schema.type = .structured → renameConflict table orgId schema payload = none →
          validateJsonSchema library document = .ok ()
  | _ => True

section Invariant

variable {library : Option (JsonschemaLibrary ν)} {table : SchemaTable ν}

theorem AllPass.insert (pass : AllPass library table) {schema : StoredSchema ν}
    (passes : schema.Passes library) (fresh : schema.id ∉ table.rows.map StoredSchema.id) :
    AllPass library (table.insert schema fresh) := by
  intro other member
  rcases List.mem_append.mp member with old | new
  · exact pass other old
  · rw [List.mem_singleton.mp new]
    exact passes

theorem AllPass.modify (pass : AllPass library table) {schema : StoredSchema ν}
    (stored : schema ∈ table.rows) {change : StoredSchema ν → StoredSchema ν}
    (keepsId : ∀ row, (change row).id = row.id) (passes : (change schema).Passes library) :
    AllPass library (table.modify schema.id change keepsId) := by
  intro other member
  obtain ⟨row, present, rfl⟩ := List.mem_map.mp member
  split
  · rename_i same
    have equal : row = schema := List.inj_on_of_nodup_map table.ids present stored same
    rw [equal]
    exact passes
  · exact pass row present

theorem mem_of_schemaById {orgId schemaId : Uuid} {schema : StoredSchema ν}
    (found : schemaById table orgId schemaId = some schema) : schema ∈ table.rows :=
  List.mem_of_find?_eq_some found

theorem AllPass.createSchema (pass : AllPass library table) {after : SchemaTable ν}
    {orgId id : Uuid} {payload : CreateRequest ν}
    (created : createSchema library table orgId id payload = .ok after) :
    AllPass library after := by
  unfold Config.createSchema at created
  split at created
  · cases created
  · rename_i checked
    split at created
    · cases created
    · split at created
      · cases created
        refine pass.insert ?_ _
        exact checked
      · cases created

theorem passes_apply {schema : StoredSchema ν} {payload : UpdateRequest ν}
    (passes : schema.Passes library) (checked : checkUpdate schema payload = .ok ())
    (structured : ∀ document ∈ payload.jsonSchema, schema.type = .structured →
      validateJsonSchema library document = .ok ()) :
    (payload.apply schema).Passes library := by
  unfold StoredSchema.Passes UpdateRequest.apply
  cases given : payload.jsonSchema with
  | none => exact passes
  | some document =>
      cases type : schema.type with
      | structured => exact structured document given type
      | classification =>
          rw [checkUpdate, given, type] at checked
          exact checked

theorem AllPass.updateSchema (pass : AllPass library table) {after : SchemaTable ν}
    {orgId schemaId : Uuid} {payload : UpdateRequest ν}
    (checks : ChecksStructured library table (.update orgId schemaId payload))
    (updated : updateSchema table orgId schemaId payload = .ok after) :
    AllPass library after := by
  unfold Config.updateSchema at updated
  split at updated
  · cases updated
  · rename_i schema found
    split at updated
    · cases updated
    · rename_i free
      split at updated
      · cases updated
      · rename_i checked
        cases updated
        have stored := mem_of_schemaById found
        refine pass.modify stored _ (passes_apply (pass schema stored) checked ?_)
        intro document given type
        exact checks schema found document given type free

theorem AllPass.deleteSchema (pass : AllPass library table) {after : SchemaTable ν}
    {orgId schemaId : Uuid} (deleted : deleteSchema table orgId schemaId = .ok after) :
    AllPass library after := by
  unfold Config.deleteSchema at deleted
  split at deleted
  · cases deleted
  · rename_i schema found
    cases deleted
    have stored := mem_of_schemaById found
    exact pass.modify stored _ (pass schema stored)

/-- A request keeps the schemas well formed, if it is no unchecked update. -/
theorem AllPass.performRequest (pass : AllPass library table) {request : SchemaRequest ν}
    (checks : ChecksStructured library table request) :
    AllPass library (performRequest library table request) := by
  unfold Config.performRequest
  split
  · rename_i after answered
    cases request with
    | create orgId id payload => exact pass.createSchema answered
    | update orgId schemaId payload => exact pass.updateSchema checks answered
    | delete orgId schemaId => exact pass.deleteSchema answered
  · exact pass

/-- What every run without an unchecked update keeps. -/
theorem AllPass.run {start final : SchemaTable ν} {requests : List (SchemaRequest ν)}
    (pass : AllPass library start)
    (run : GuardedRun (Config.performRequest library) (ChecksStructured library) start requests
      final) :
    AllPass library final :=
  run.invariant (AllPass library) pass fun kept checks => kept.performRequest checks

end Invariant

end OpenZync.Config
