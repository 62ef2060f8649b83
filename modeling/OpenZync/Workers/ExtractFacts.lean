import Mathlib.Data.List.Infix
import OpenZync.Facts.SupersessionIngest
import OpenZync.Library.Dicts

/-!
# Fact extraction

`process_facts_output` and its helpers.  The facts of an LLM response are
filtered, their subjects and objects are matched against the known entities,
facts known from the session are dropped, and the rest is handed to the
supersession ingest.  The rows the ingest creates are related to the facts they
came from by their content text alone.
-/

namespace OpenZync.Workers.ExtractFacts

open OpenZync.Facts OpenZync.Library

/-- A fact of the LLM response, as `FactOutput` accepts it. -/
structure FactOutput where
  subject : Text
  predicate : Text
  object : Text
  confidence : ℚ
  subjectType : Option Text
  objectType : Option Text
  validFrom : Option Time
  validTo : Option Time
  deriving DecidableEq

/-- A fact dict between the filter and the ingest. -/
structure FactDict where
  subject : Text
  predicate : Text
  object : Text
  confidence : ℚ
  subjectType : Option Text
  objectType : Option Text
  subjectEntityId : Option Uuid
  objectEntityId : Option Uuid
  validFrom : Option Time
  validTo : Option Time
  slot : Nat
  deriving DecidableEq

/-- A known entity; a missing `entity_type` is `none`. -/
structure KnownEntity where
  id : Uuid
  name : Text
  entityType : Option Text
  deriving DecidableEq

/-- `_CONFIDENCE_THRESHOLD`, the binary64 number nearest to 0.3. -/
def confidenceThreshold : ℚ := 5404319552844595 / 18014398509481984

/-- The window ends before it begins. -/
def BornDeadWindow (validFrom validTo : Option Time) : Prop :=
  ∃ start ∈ validFrom, ∃ stop ∈ validTo, stop ≤ start

instance (validFrom validTo : Option Time) : Decidable (BornDeadWindow validFrom validTo) :=
  inferInstanceAs (Decidable (∃ start ∈ validFrom, ∃ stop ∈ validTo, stop ≤ start))

/-- One round of the loop of `_filter_facts`. -/
def filterFact (fact : FactOutput) (slot : Nat) : Option FactDict :=
  let subject := Text.strip fact.subject
  let predicate := Text.strip fact.predicate
  let object := Text.strip fact.object
  if fact.confidence < confidenceThreshold then none
  else if subject = [] ∨ predicate = [] ∨ object = [] then none
  else if BornDeadWindow fact.validFrom fact.validTo then none
  else
    some
      { subject := subject
        predicate := predicate
        object := object
        confidence := fact.confidence
        subjectType := fact.subjectType
        objectType := fact.objectType
        subjectEntityId := none
        objectEntityId := none
        validFrom := fact.validFrom
        validTo := fact.validTo
        slot := slot }

/-- `_filter_facts` over the facts with their 1-based slots. -/
def filterFacts (facts : List FactOutput) : List FactDict :=
  (facts.zipIdx 1).filterMap fun numbered => filterFact numbered.1 numbered.2

/-- `_FIRST_PERSON_PRONOUNS`. -/
def firstPersonPronouns : List Text :=
  ["i".toList, "me".toList, "my".toList, "mine".toList, "myself".toList]

section

variable (casing : Casing)

/-- `name.lower().strip()`. -/
def folded (name : Text) : Text :=
  Text.strip (casing.lower name)

/-- `ent.get("entity_type", "").lower() == "person"`. -/
def KnownEntity.isPerson (entity : KnownEntity) : Bool :=
  decide (casing.lower (entity.entityType.getD []) = "person".toList)

/-- The entity is the candidate up to case and surrounding blanks. -/
def KnownEntity.Exact (candidate : Text) (entity : KnownEntity) : Prop :=
  candidate = folded casing entity.name

instance (candidate : Text) : DecidablePred (KnownEntity.Exact casing candidate) :=
  fun entity => inferInstanceAs (Decidable (candidate = folded casing entity.name))

/-- One of the two names contains the other. -/
def KnownEntity.Partial (candidate : Text) (entity : KnownEntity) : Prop :=
  (folded casing entity.name ≠ [] ∧ folded casing entity.name <:+: candidate) ∨
    (3 ≤ candidate.length ∧ candidate <:+: folded casing entity.name)

instance (candidate : Text) : DecidablePred (KnownEntity.Partial casing candidate) :=
  fun _ => inferInstanceAs (Decidable (_ ∨ _))

/-- The loop over the entities: the first that matches in any way. -/
def firstByText (candidate : Text) : List KnownEntity → Option KnownEntity
  | [] => none
  | entity :: entities =>
      if entity.Exact casing candidate then some entity
      else if entity.Partial casing candidate then some entity
      else firstByText candidate entities

/-- The fallback without punctuation. -/
def firstByLetters (candidate : Text) (entities : List KnownEntity) : Option KnownEntity :=
  let normalize := fun text : Text =>
    Text.strip ((casing.lower text).filter keptByEntityNameRe)
  if 2 ≤ (normalize candidate).length then
    entities.find? fun entity => decide (normalize candidate = normalize entity.name)
  else none

/-- The entity a first-person pronoun stands for. -/
def firstPerson (candidate : Text) (entities : List KnownEntity) : Option KnownEntity :=
  if firstPersonPronouns.contains candidate then entities.find? (KnownEntity.isPerson casing)
  else none

/-- `_match_entity`. -/
def matchEntity (name : Text) (entities : List KnownEntity) : Option KnownEntity :=
  (firstPerson casing (folded casing name) entities).or
    ((firstByText casing (folded casing name) entities).or
      (firstByLetters casing (folded casing name) entities))

def FactDict.resolveSubject (fact : FactDict) (entity : KnownEntity) : FactDict :=
  { fact with
    subject := entity.name
    subjectType := some "entity".toList
    subjectEntityId := some entity.id }

def FactDict.resolveObject (fact : FactDict) (entity : KnownEntity) : FactDict :=
  { fact with
    object := entity.name
    objectType := some "entity".toList
    objectEntityId := some entity.id }

/-- One round of the loop of `_resolve_fact_entities`. -/
def resolveFact (known : List KnownEntity) (fact : FactDict) : FactDict :=
  let bySubject :=
    match matchEntity casing fact.subject known with
    | some entity => fact.resolveSubject entity
    | none => fact
  match matchEntity casing fact.object known with
  | some entity => bySubject.resolveObject entity
  | none => bySubject

def resolveFactEntities (facts : List FactDict) (known : List KnownEntity) : List FactDict :=
  if known = [] then facts else facts.map (resolveFact casing known)

/-- `_PREDICATE_SYNONYMS`. -/
def predicateSynonyms : List (Text × List Text) :=
  [("works_at".toList, ["employed_at".toList, "works_for".toList, "employed_by".toList,
      "joins".toList]),
    ("friend_of".toList, ["friends_with".toList, "shares_friend_with".toList,
      "has_friend".toList]),
    ("colleague_of".toList, ["coworker_of".toList, "works_with".toList, "teammate_of".toList]),
    ("studied_at".toList, ["attended".toList, "went_to".toList, "graduated_from".toList]),
    ("likes".toList, ["loves".toList, "enjoys".toList, "prefers".toList]),
    ("has_number_of_friends".toList, ["has_friend_count".toList, "friend_count".toList,
      "num_friends".toList]),
    ("tech_lead_of".toList, ["leads".toList, "tech_lead_for".toList, "leads_tech_for".toList]),
    ("graduated_from".toList, ["completed".toList, "finished".toList, "graduated".toList])]

/-- A predicate with its synonyms and the predicates it is a synonym of. -/
def synonymsOf (predicate : Text) : List Text :=
  predicate ::
    (predicateSynonyms.filter fun entry => decide (entry.1 = predicate)).flatMap Prod.snd ++
    (predicateSynonyms.filter fun entry => entry.2.contains predicate).map Prod.fst

/-- The fact repeats one that is known from the session. -/
def isDuplicate (existing : List Triple) (fact : FactDict) : Bool :=
  existing.any fun known =>
    decide (folded casing known.subject = folded casing fact.subject) &&
      decide (folded casing known.object = folded casing fact.object) &&
      (synonymsOf (folded casing known.predicate)).any fun predicate =>
        (synonymsOf (folded casing fact.predicate)).contains predicate

def deduplicateFacts (facts : List FactDict) (existing : List Triple) : List FactDict :=
  if existing = [] then facts else facts.filter fun fact => !isDuplicate casing existing fact

end

/-- `f"{f['subject']} {f['predicate']} {f['object']}"`. -/
def FactDict.content (fact : FactDict) : Text :=
  fact.subject ++ ' ' :: fact.predicate ++ ' ' :: fact.object

/-- The dict as `_prepare_entry` reads it: it has no `content` key. -/
def FactDict.toForm (fact : FactDict) : FactForm :=
  { subject := some fact.subject
    predicate := some fact.predicate
    object := some fact.object
    content := none
    confidence := some fact.confidence
    subjectType := fact.subjectType
    objectType := fact.objectType
    subjectEntityId := fact.subjectEntityId
    objectEntityId := fact.objectEntityId
    validFrom := fact.validFrom
    validTo := fact.validTo }

/-- A node of the entity search. -/
structure GraphNode where
  id : Uuid
  name : Text
  deriving DecidableEq

/-- `EntityRepository` over a graph backend: what its entity search answers, or
that it fails, and which relationships it takes. -/
structure EntityRepository where
  searchEntities : Text → Option (List GraphNode)
  createRelationship : EdgeKey → Bool

namespace EntityRepository

/-- The three passes of `get_entity_by_name` over the search results. -/
def pickNode (casing : Casing) (name : Text) (results : List GraphNode) : Option GraphNode :=
  (results.find? fun node => decide (folded casing node.name = folded casing name)).or
    ((results.find? fun node => decide (folded casing name <:+: casing.lower node.name)).or
      (results.find? fun node => decide (folded casing node.name <:+: folded casing name)))

/-- `get_entity_by_name`; a backend that fails finds nothing. -/
def getEntityByName (casing : Casing) (repository : EntityRepository) (name : Text) :
    Option GraphNode :=
  (repository.searchEntities name).bind (pickNode casing name)

/-- `upsert_relationship`: the edge it makes active. -/
def upsertRelationship (casing : Casing) (repository : EntityRepository)
    (subject predicate object : Text) : Option EdgeKey :=
  match repository.getEntityByName casing subject, repository.getEntityByName casing object with
  | some source, some target =>
      if repository.createRelationship ⟨source.id, target.id, predicate⟩ then
        some ⟨source.id, target.id, predicate⟩
      else none
  | _, _ => none

end EntityRepository

/-- The arguments of `process_facts_output`, with the instant of the ingest. -/
structure FactsRequest where
  orgId : Uuid
  projectId : Uuid
  userId : Uuid
  episodeId : Uuid
  graphBackend : Bool
  entityRepository : Option EntityRepository
  episodeRepository : Bool
  arqRedis : Bool
  parsed : List FactOutput
  knownEntities : List KnownEntity
  existingFacts : List Triple
  now : Time

namespace FactsRequest

/-- The facts handed to the ingest. -/
def resolvedFacts (casing : Casing) (request : FactsRequest) : List FactDict :=
  deduplicateFacts casing
    (resolveFactEntities casing (filterFacts request.parsed) request.knownEntities)
    request.existingFacts

def collaborators (request : FactsRequest) : Collaborators :=
  { webhookService := false
    cacheService := request.arqRedis
    graphSync := request.graphBackend }

def ingestCall (casing : Casing) (request : FactsRequest) : IngestCall :=
  { orgId := request.orgId
    projectId := request.projectId
    userId := request.userId
    facts := (request.resolvedFacts casing).map FactDict.toForm
    sourceEpisodeId := some request.episodeId
    insertMode := .batchCreateOrSkip
    now := request.now }

/-- `content_to_fact`. -/
def contentToFact (casing : Casing) (request : FactsRequest) : Library.Dict Text FactDict :=
  Library.Dict.keyed FactDict.content (request.resolvedFacts casing)

/-- The edge upserted for an input fact. -/
def relationshipFor (casing : Casing) (request : FactsRequest) (input : FactDict) :
    Option EdgeKey :=
  match request.entityRepository with
  | none => none
  | some repository =>
      let subjectId := input.subjectEntityId.or
        ((repository.getEntityByName casing input.subject).map GraphNode.id)
      let objectId := input.objectEntityId.or
        ((repository.getEntityByName casing input.object).map GraphNode.id)
      if subjectId.isSome ∧ objectId.isSome then
        repository.upsertRelationship casing input.subject input.predicate input.object
      else none

/-- The input fact a created row is related to. -/
def inputOf (casing : Casing) (request : FactsRequest) (row : Fact) : Option FactDict :=
  (request.contentToFact casing).get? row.content

/-- The slots of the created rows; a later row takes the place of an earlier one. -/
def slotsOf (casing : Casing) (request : FactsRequest) (rows : List Fact) :
    Library.Dict Nat Fact :=
  rows.foldl
    (fun slots row =>
      match request.inputOf casing row with
      | some input => slots.set input.slot row
      | none => slots)
    Library.Dict.empty

end FactsRequest

/-- What a call leaves in the open transaction, and what it returns. -/
structure ProcessedFacts where
  store : FactStore
  newFacts : List Fact
  effects : List PostCommitEffect
  relationships : List (Fact × EdgeKey)
  /-- `ENRICHMENT_FACTS` is set on the episode. -/
  stamped : Bool
  /-- The `embed_fact` jobs, as fact and content. -/
  embedJobs : List (Uuid × Text)
  slotMap : List (Nat × Option Fact)

def processFactsOutput (casing : Casing) (store : FactStore) (request : FactsRequest) :
    Except FactError ProcessedFacts := do
  let outcome ← ingestWithSupersession casing request.collaborators store
    (request.ingestCall casing)
  let newFacts := outcome.result.created
  let slots := request.slotsOf casing newFacts
  .ok
    { store := outcome.store
      newFacts := newFacts
      effects := outcome.effects
      relationships := newFacts.filterMap fun row =>
        ((request.inputOf casing row).bind (request.relationshipFor casing)).map
          fun edge => (row, edge)
      stamped := request.episodeRepository
      embedJobs := if request.arqRedis then
        newFacts.map fun row => (row.id, row.content) else []
      slotMap := (List.range' 1 request.parsed.length).map fun slot => (slot, slots.get? slot) }

end OpenZync.Workers.ExtractFacts
