import OpenZync.Graph.EntityMerge
import OpenZync.Library.Attempts
import OpenZync.Workers.EnrichEpisode
import OpenZync.Workers.ExtractFacts

/-!
# Entity extraction

`process_entities_output` over the FalkorDB backend.  The entities of an LLM
response are upserted by name, then its relationships, whose endpoints are
created where the response does not declare them and then looked up by a
full-text search.  Every query of the backend is answered.
-/

namespace OpenZync.Workers.ExtractEntities

open OpenZync.Library OpenZync.Workers.ExtractFacts

/-- `EntityOutput`, which has no `mentions`. -/
structure EntityOutput where
  name : Text
  type : Text
  summary : Option Text
deriving DecidableEq

/-- `RelationshipOutput`: its validator strips the texts and takes no blank one. -/
structure RelationshipOutput where
  subject : Text
  predicate : Text
  object : Text
  subject_ok : Text.strip subject = subject ∧ subject ≠ []
  predicate_ok : Text.strip predicate = predicate ∧ predicate ≠ []
  object_ok : Text.strip object = object ∧ object ≠ []

/-- An `Entity` node of the graph, found by its name. -/
structure EntityVertex extends GraphNode where
  entityType : Text
  summary : Text
deriving DecidableEq

/-- The answers of `db.idx.fulltext.queryNodes`, most relevant first. -/
structure EntitySearch where
  queryNodes : List EntityVertex → Text → List EntityVertex
  mem : ∀ nodes query, ∀ node ∈ queryNodes nodes query, node ∈ nodes

/-- String functions, the full-text index and the source of identifiers. -/
structure EntityServices where
  casing : Casing
  /-- `str.islower` -/
  isLower : Text → Bool
  /-- `str.capitalize` -/
  capitalize : Text → Text
  search : EntitySearch
  /-- The results of `uuid4` in turn. -/
  uuid4 : Nat → Uuid

structure EntityRequest where
  episodeId : Uuid
  episodeRepo : Bool
  entities : List EntityOutput
  relationships : List RelationshipOutput
  entityTypes : List Text

/-- Why the section fails. -/
inductive EntityFailure where
  /-- `GraphBackendUnavailableError`: `Entity repository operation failed:
  upsert_relationship.` -/
  | upsertRelationshipFailed
  /-- `NotFoundError`: `Entity {entity_id} not found for episode linking`. -/
  | entityNotFound (entityId : Uuid)
deriving DecidableEq

/-- Why `create_relationship` fails. -/
inductive RelationshipError where
  /-- `ValueError`: `Unsafe edge type name: {name!r}. Only [a-zA-Z0-9_] characters are
  allowed.` -/
  | unsafeEdgeType (name : Text)
  /-- `NotFoundError`: an endpoint is missing. -/
  | endpointNotFound (source target : Uuid)
deriving DecidableEq

/-- The entity nodes, and `name_to_node`. -/
structure EntityTable where
  nodes : List EntityVertex
  drawn : Nat
  nameToNode : Library.Dict Text EntityVertex

/-- `counts` are the relationships that failed and those that were skipped. -/
structure EntityRun where
  table : EntityTable
  edges : List EdgeKey
  mentions : List (Uuid × Uuid)
  counts : Nat × Nat
  row : EpisodeRow

/-- A program of the section. -/
abbrev EntityStep (α : Type) := Attempt EntityRun EntityFailure α

/-- `_pronoun_skip_names` -/
def pronounSkipNames : List Text :=
  ["i", "me", "my", "mine", "myself", "we", "us", "our", "ours", "ourselves", "you", "your",
    "yours", "yourself", "yourselves", "he", "him", "his", "himself", "she", "her", "hers",
    "herself", "it", "its", "itself", "they", "them", "their", "theirs", "themselves", "this",
    "that", "these", "those", "someone", "somebody", "everyone", "everybody", "nobody",
    "anyone", "anybody", "shhe", "hhe", "thei", "theyr", "thereselves", "what", "who", "whom",
    "whose", "which"].map String.toList

/-- `_REDISEARCH_ESCAPE_CHARS`: the ASCII punctuation but the underscore. -/
def isRedisearchOperator (c : Char) : Bool :=
  (33 ≤ c.toNat && c.toNat ≤ 47) || (58 ≤ c.toNat && c.toNat ≤ 64) ||
    (91 ≤ c.toNat && c.toNat ≤ 94) || c.toNat == 96 || (123 ≤ c.toNat && c.toNat ≤ 126)

/-- `_escape_redisearch_query` -/
def escapeRedisearchQuery (text : Text) : Text :=
  text.flatMap fun c => if isRedisearchOperator c then [Char.ofNat 92, c] else [c]

section

variable (services : EntityServices)

/-- The pronoun is one of the skipped names. -/
def isPronoun (name : Text) : Bool :=
  pronounSkipNames.contains (services.casing.lower (Text.strip name))

/-- `filtered_entities` -/
def EntityRequest.filteredEntities (request : EntityRequest) : List EntityOutput :=
  request.entities.filter fun entity =>
    !(Text.strip entity.name).isEmpty && !isPronoun services entity.name

/-- `clean_relationships` -/
def EntityRequest.cleanRelationships (request : EntityRequest) : List RelationshipOutput :=
  request.relationships.filter fun rel =>
    !(Text.strip rel.subject).isEmpty && !(Text.strip rel.object).isEmpty &&
      !(isPronoun services rel.subject || isPronoun services rel.object)

/-- The type of an entity, `Custom` unless it is allowed. -/
def EntityRequest.allowedType (request : EntityRequest) (entity : EntityOutput) : Text :=
  if entity.type = [] ∨ ¬ (request.entityTypes.contains entity.type ∨
      entity.type = "Custom".toList) then "Custom".toList
  else entity.type

/-- The `ON MATCH` part of the `MERGE`. -/
def EntityVertex.matched (type summary : Text) (node : EntityVertex) : EntityVertex :=
  { node with
    entityType :=
      if node.entityType = "Custom".toList ∧ type ≠ "Custom".toList then type
      else node.entityType
    summary := if summary ≠ [] then summary else node.summary }

/-- `create_entity`: the node that has the name, or a new one. -/
def createEntity (table : EntityTable) (name type summary : Text) :
    EntityVertex × List EntityVertex :=
  let key := Text.strip (services.casing.lower name)
  let merged := table.nodes.map fun node =>
    if node.name = key then node.matched type summary else node
  match merged.find? fun node => decide (node.name = key) with
  | some node => (node, merged)
  | none =>
      let node : EntityVertex :=
        { id := services.uuid4 table.drawn, name := key, entityType := type, summary := summary }
      (node, table.nodes ++ [node])

/-- `upsert_entity`, whose result goes to `name_to_node` under some names. -/
def upsertEntity (name type summary : Text) (names : List Text) (table : EntityTable) :
    EntityTable :=
  let created := createEntity services table name type summary
  { nodes := created.2
    drawn := table.drawn + 1
    nameToNode := names.foldl (fun dict name => dict.set name created.1) table.nameToNode }

/-- `normalized_name` of an entity without mentions. -/
def normalizedName (name : Text) : Text :=
  if name ≠ [] ∧ services.isLower name = true then services.capitalize name else name

/-- One round of the loop over the entities. -/
def storeEntity (request : EntityRequest) (table : EntityTable) (entity : EntityOutput) :
    EntityTable :=
  let name := normalizedName services entity.name
  let type := request.allowedType entity
  upsertEntity services name type (name ++ " (".toList ++ type ++ ")".toList)
    (if name ≠ entity.name then [name, entity.name] else [name]) table

/-- The graph after the loop over the entities, with an empty `name_to_node`
before. -/
def EntityRequest.storeEntities (request : EntityRequest) (nodes : List EntityVertex) :
    EntityTable :=
  (request.filteredEntities services).foldl (storeEntity services request)
    ⟨nodes, 0, Library.Dict.empty⟩

/-- The recovery of one endpoint that the response does not declare. -/
def recoverEndpoint (rel : RelationshipOutput) (name : Text) (table : EntityTable) :
    EntityTable :=
  if table.nameToNode.keys.contains name then table
  else
    upsertEntity services name "Custom".toList
      ("Auto-created from relationship: ".toList ++ rel.subject ++ ' ' :: rel.predicate ++
        ' ' :: rel.object) [name] table

/-- The recovery of both endpoints. -/
def recover (table : EntityTable) (rel : RelationshipOutput) : EntityTable :=
  recoverEndpoint services rel rel.object (recoverEndpoint services rel rel.subject table)

/-- `get_entity_by_name` of the repository. -/
def getEntityByName (nodes : List EntityVertex) (name : Text) : Option GraphNode :=
  EntityRepository.pickNode services.casing name
    (((services.search.queryNodes nodes (escapeRedisearchQuery name)).take 10).map
      EntityVertex.toGraphNode)

/-- The edge of a relationship both of whose endpoints are found. -/
def knownEdge (nodes : List EntityVertex) (rel : RelationshipOutput) : Option EdgeKey :=
  match getEntityByName services nodes rel.subject, getEntityByName services nodes rel.object with
  | some source, some target => some ⟨source.id, target.id, rel.predicate⟩
  | _, _ => none

/-- `create_relationship`: the edges with the one that is merged. -/
def createRelationship (nodes : List EntityVertex) (edges : List EdgeKey) (edge : EdgeKey) :
    Except RelationshipError (List EdgeKey) :=
  if ¬ Graph.isSafeEdgeType edge.relationshipType then
    .error (.unsafeEdgeType edge.relationshipType)
  else if (nodes.any fun node => node.id == edge.sourceId) ∧
      nodes.any fun node => node.id == edge.targetId then
    .ok (if edge ∈ edges then edges else edges ++ [edge])
  else .error (.endpointNotFound edge.sourceId edge.targetId)

/-- `upsert_relationship`: the edge, or `None` where an endpoint is not found. -/
def upsertRelationship (rel : RelationshipOutput) : EntityStep (Option EdgeKey) := do
  let nodes ← Attempt.read fun run => run.table.nodes
  match knownEdge services nodes rel with
  | none => pure none
  | some edge =>
      let edges ← Attempt.read EntityRun.edges
      match createRelationship nodes edges edge with
      | .error _ => Attempt.fail .upsertRelationshipFailed
      | .ok edges =>
          Attempt.change fun run => { run with edges := edges }
          pure (some edge)

/-- One round of the loop over the relationships. -/
def processRelationship (_ : Unit) (rel : RelationshipOutput) : EntityStep Unit :=
  if rel.subject = [] ∨ rel.predicate = [] ∨ rel.object = [] then pure ()
  else do
    Attempt.change fun run => { run with table := recover services run.table rel }
    let names ← Attempt.read fun run => run.table.nameToNode.keys
    if names.contains rel.subject ∧ names.contains rel.object then do
      let result ← upsertRelationship services rel
      if result = none then
        Attempt.change fun run => { run with counts := (run.counts.1 + 1, run.counts.2) }
      else pure ()
    else
      Attempt.change fun run => { run with counts := (run.counts.1, run.counts.2 + 1) }

/-- `link_entity_to_episode` -/
def linkEntity (request : EntityRequest) (_ : Unit) (node : EntityVertex) : EntityStep Unit := do
  let nodes ← Attempt.read fun run => run.table.nodes
  if nodes.any fun other => other.id == node.id then
    Attempt.change fun run =>
      { run with
        mentions :=
          if run.mentions.contains (request.episodeId, node.id) then run.mentions
          else run.mentions ++ [(request.episodeId, node.id)] }
  else Attempt.fail (.entityNotFound node.id)

/-- `process_entities_output` -/
def processEntitiesOutput (request : EntityRequest) : EntityStep (List (Text × Uuid)) := do
  Attempt.change fun run => { run with table := request.storeEntities services run.table.nodes }
  Attempt.fold (processRelationship services) () (request.cleanRelationships services)
  let items ← Attempt.read fun run => run.table.nameToNode.items
  Attempt.fold (linkEntity request) () (items.map Prod.snd)
  Attempt.change fun run =>
    if request.episodeRepo then
      { run with row := run.row.applyEnrichmentBits enrichmentEntities }
    else run
  pure (items.map fun item => (item.1, item.2.id))

end

end OpenZync.Workers.ExtractEntities
