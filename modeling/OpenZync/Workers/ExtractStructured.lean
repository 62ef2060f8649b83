import OpenZync.Config.ExtractionSchemas
import OpenZync.Library.Attempts

/-!
# Persisting structured extractions

`process_structured_output` on the output of an LLM and the active structured
schemas of the organisation: the required fields are read from the raw schema
before anything is validated, and outside of the `try` around the validation.
-/

namespace OpenZync.Workers.ExtractStructured

open Config Library

variable {ν : Type}

/-- What a run meets: the `jsonschema` package, the documents the database
stores, whether it answers the statement for the bit and the flush, and whether
there is a repository for the bit. -/
structure ExtractionWorld (ν : Type) where
  library : Option (JsonschemaLibrary ν)
  storesDocument : Document ν → Bool
  stampsBit : Bool
  flushes : Bool
  hasRepo : Bool

/-- What a run has written: the documents by schema, and the structured bit. -/
structure ExtractionState (ν : Type) where
  extractions : List (Uuid × Document ν)
  structuredBit : Bool

inductive ProcessFailure (ν : Type) where
  /-- `required` is a value that a loop does not take. -/
  | notIterable (required : Json ν)
  /-- `required` has a list or an object, of which no `dict` has the key. -/
  | unhashable (item : Json ν)
  | database

/-- `field not in cleaned` -/
def isMissing (cleaned : Document ν) : Json ν → Except (ProcessFailure ν) Bool
  | .string name => .ok (field cleaned name).isNone
  | .null => .ok true
  | .bool _ => .ok true
  | .number _ => .ok true
  | .array items => .error (.unhashable (.array items))
  | .object members => .error (.unhashable (.object members))

/-- What a loop over a JSON value goes through. -/
def iterate : Json ν → Except (ProcessFailure ν) (List (Json ν))
  | .array items => .ok items
  | .object members => .ok (members.map fun member => .string member.1)
  | .string text => .ok (text.map fun character => .string [character])
  | .null => .error (.notIterable .null)
  | .bool value => .error (.notIterable (.bool value))
  | .number value => .error (.notIterable (.number value))

/-- The items that are no field of the data. -/
def missingOf (cleaned : Document ν) : List (Json ν) → Except (ProcessFailure ν) (List (Json ν))
  | [] => .ok []
  | item :: items => do
      let missing ← isMissing cleaned item
      let rest ← missingOf cleaned items
      .ok (if missing then item :: rest else rest)

/-- `missing_fields` -/
def missingFields (schema cleaned : Document ν) : Except (ProcessFailure ν) (List (Json ν)) := do
  let required ← iterate ((field schema "required".toList).getD (.array []))
  missingOf cleaned required

/-- `cleaned`: the members that are not null. -/
def cleanedData (data : Document ν) : Document ν :=
  data.filter fun member =>
    match member.2 with
    | .null => false
    | _ => true

/-- `_validate_against_schema` does not raise. -/
def validatesAgainst (library : Option (JsonschemaLibrary ν)) (data schema : Document ν) : Bool :=
  match library with
  | none => false
  | some library => library.conforms data schema

/-- `schema_map`, in which a later schema of a name replaces an earlier one. -/
def schemaNamed (schemas : List (StoredSchema ν)) (name : Text) : Option (StoredSchema ν) :=
  schemas.reverse.find? fun schema => schema.name == name

/-- A computation on what a run has written. -/
abbrev Process (ν α : Type) := Attempt (ExtractionState ν) (ProcessFailure ν) α

section Process

variable (world : ExtractionWorld ν)

/-- A statement that the database answers or not. -/
def statement (answered : Bool) (effect : ExtractionState ν → ExtractionState ν) :
    Process ν Unit :=
  if answered then Attempt.change effect else Attempt.fail .database

/-- The insert of a document for a schema. -/
def insertExtraction (schemaId : Uuid) (document : Document ν) : Process ν Unit :=
  statement (world.storesDocument document) fun state =>
    { state with extractions := state.extractions ++ [(schemaId, document)] }

/-- The body of the loop over the output. -/
def processEntry (schemas : List (StoredSchema ν)) (name : Text) (data : Json ν) :
    Process ν Unit :=
  match schemaNamed schemas name, data with
  | some schema, .object members => do
      let cleaned := cleanedData members
      let missing ← Attempt.ofExcept (missingFields schema.jsonSchema cleaned)
      if !missing.isEmpty then pure ()
      else if validatesAgainst world.library cleaned schema.jsonSchema then
        insertExtraction world schema.id cleaned
      else pure ()
  | _, _ => pure ()

/-- `apply_enrichment_bits` with the structured bit, where there is a repository. -/
def stampBit : Process ν Unit :=
  if world.hasRepo then
    statement world.stampsBit fun state => { state with structuredBit := true }
  else pure ()

/-- `process_structured_output` -/
def processStructuredOutput (schemas : List (StoredSchema ν)) (parsed : Document ν) :
    Process ν Unit := do
  Attempt.fold (fun _ entry => processEntry world schemas entry.1 entry.2) () parsed
  stampBit world
  statement world.flushes id

end Process

/-- `list_structured_schemas` has the schema. -/
def IsListed (table : SchemaTable ν) (orgId : Uuid) (schema : StoredSchema ν) : Prop :=
  schema ∈ table.rows ∧ schema.organizationId = orgId ∧ schema.type = .structured ∧
    schema.isActive = true

/-- The database answers every statement of a run. -/
def ExtractionWorld.Answers (world : ExtractionWorld ν) : Prop :=
  (∀ document, world.storesDocument document = true) ∧ world.stampsBit = true ∧
    world.flushes = true

section Runs

variable {world : ExtractionWorld ν}

theorem missingOf_names (cleaned : Document ν) (names : List Text) :
    ∃ missing, missingOf cleaned (names.map Json.string) = .ok missing := by
  induction names with
  | nil => exact ⟨[], rfl⟩
  | cons name names induction =>
      obtain ⟨missing, found⟩ := induction
      rw [List.map_cons, missingOf, found]
      exact ⟨_, rfl⟩

theorem missingFields_ok {library : JsonschemaLibrary ν} (law : library.RequiresNames)
    {schema : Document ν} (passes : validateJsonSchema (some library) schema = .ok ())
    (cleaned : Document ν) : ∃ missing, missingFields schema cleaned = .ok missing := by
  have accepted : library.checkSchema schema = none := by
    unfold validateJsonSchema at passes
    dsimp only at passes
    split at passes
    · assumption
    · cases passes
  unfold missingFields
  cases required : field schema "required".toList with
  | none => exact ⟨[], rfl⟩
  | some value =>
      obtain ⟨names, rfl⟩ := law schema accepted value required
      exact missingOf_names cleaned names

/-- What the run comes to: nothing but the database stops it. -/
def Stops (world : ExtractionWorld ν) (failure : ProcessFailure ν) (_ : ExtractionState ν) :
    Prop :=
  failure = .database ∧ ¬ world.Answers

theorem meets_statement {answered : Bool} {effect : ExtractionState ν → ExtractionState ν}
    {before : ExtractionState ν → Prop} {done : Unit → ExtractionState ν → Prop}
    (needed : world.Answers → answered = true)
    (changes : ∀ state, before state → done () (effect state)) :
    Attempt.Meets before (statement answered effect) done (Stops world) := by
  refine Attempt.meets_ite (fun _ => Attempt.meets_change changes) fun silent => ?_
  exact Attempt.meets_fail _ fun _ _ => ⟨rfl, fun answers => silent (needed answers)⟩

theorem meets_processEntry {library : JsonschemaLibrary ν} (law : library.RequiresNames)
    {schemas : List (StoredSchema ν)}
    (pass : ∀ schema ∈ schemas, validateJsonSchema (some library) schema.jsonSchema = .ok ())
    (name : Text) (data : Json ν) :
    Attempt.Meets (fun _ => True) (processEntry world schemas name data) (fun _ _ => True)
      (Stops world) := by
  unfold processEntry
  split
  · rename_i schema members named
    have stored : schema ∈ schemas := by
      have found := List.mem_of_find?_eq_some named
      simpa using found
    obtain ⟨missing, read⟩ := missingFields_ok law (pass schema stored) (cleanedData members)
    refine Attempt.meets_ofExcept (fun others _ => ?_) fun failure stops => ?_
    · refine Attempt.meets_ite (fun _ => Attempt.meets_pure () fun _ _ => trivial) fun _ => ?_
      refine Attempt.meets_ite (fun _ => ?_) fun _ => Attempt.meets_pure () fun _ _ => trivial
      exact meets_statement (fun answers => answers.1 _) fun _ _ => trivial
    · rw [read] at stops
      cases stops
  · exact Attempt.meets_pure () fun _ _ => trivial

/-- With well-formed schemas a run stamps the bit, whatever the output is, or the
database stops it. -/
theorem meets_processStructuredOutput {library : JsonschemaLibrary ν}
    (law : library.RequiresNames) {schemas : List (StoredSchema ν)}
    (pass : ∀ schema ∈ schemas, validateJsonSchema (some library) schema.jsonSchema = .ok ())
    (parsed : Document ν) :
    Attempt.Meets (fun _ => True) (processStructuredOutput world schemas parsed)
      (fun _ after => world.hasRepo = true → after.structuredBit = true) (Stops world) := by
  have entries : Attempt.Meets (fun _ => True)
      (Attempt.fold (fun _ entry => processEntry world schemas entry.1 entry.2) () parsed)
      (fun _ _ => True) (Stops world) :=
    Attempt.Meets.fold (fun _ _ _ => True) (Stops world)
      (fun _ _ _ _ _ => meets_processEntry law pass _ _) ()
  have stamped : Attempt.Meets (fun _ => True) (stampBit world)
      (fun _ after => world.hasRepo = true → after.structuredBit = true) (Stops world) := by
    refine Attempt.meets_ite (fun _ => ?_) fun missing => ?_
    · exact meets_statement (fun answers => answers.2.1) fun _ _ _ => rfl
    · exact Attempt.meets_pure () fun _ _ has => absurd has missing
  refine entries.bind fun _ => stamped.bind fun _ => ?_
  exact meets_statement (fun answers => answers.2.2) fun _ kept => kept

end Runs

/-- Of the meta-schema, what it says of `required`. -/
def requiredLibrary : JsonschemaLibrary Nat :=
  { checkSchema := fun document =>
      match field document "required".toList with
      | none => none
      | some (.array items) =>
          if items.all fun item => match item with | .string _ => true | _ => false then none
          else some { path := ["required".toList], message := "is not of type 'string'".toList }
      | some _ => some { path := ["required".toList], message := "is not of type 'array'".toList }
    conforms := fun _ _ => true }

theorem requiredLibrary_requiresNames : requiredLibrary.RequiresNames := by
  intro document accepted required is
  have found : field document "required".toList = some required := is
  simp only [requiredLibrary, found] at accepted
  split at accepted
  · rename_i none
    cases none
  · rename_i items given
    cases given
    split at accepted
    · rename_i strings
      clear accepted found is
      induction items with
      | nil => exact ⟨[], rfl⟩
      | cons item items induction =>
          rw [List.all_cons, Bool.and_eq_true] at strings
          obtain ⟨names, rest⟩ := induction strings.2
          cases item with
          | string name => exact ⟨name :: names, by rw [Json.array.inj rest]; rfl⟩
          | _ => cases strings.1
    · cases accepted
  · cases accepted

def emptyTable : SchemaTable Nat :=
  { rows := []
    ids := List.nodup_nil }

/-- Everything is answered. -/
def answeringWorld : ExtractionWorld Nat :=
  { library := some requiredLibrary
    storesDocument := fun _ => true
    stampsBit := true
    flushes := true
    hasRepo := true }

/-- A structured schema named `a` whose field `b` is required. -/
def createRequest : SchemaRequest Nat :=
  .create 1 7
    { name := ['a']
      jsonSchema := [("required".toList, .array [.string ['b']])]
      type := .structured
      promptTemplate := none }

/-- An update of it to a document whose `required` is a number. -/
def updateRequest : SchemaRequest Nat :=
  .update 1 7
    { name := none
      jsonSchema := some [("required".toList, .number 5)]
      promptTemplate := none
      isActive := none }

def createdTable : SchemaTable Nat :=
  performRequest (some requiredLibrary) emptyTable createRequest

def updatedTable : SchemaTable Nat :=
  performRequest (some requiredLibrary) createdTable updateRequest

end OpenZync.Workers.ExtractStructured
