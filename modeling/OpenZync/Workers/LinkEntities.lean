import OpenZync.Config.OrgConfig
import OpenZync.Library.Attempts
import OpenZync.Workers.ReconcileEnrichment

/-!
# The entity link task

`link_entities_to_episode` searches the graph for the words of an episode that
occur in the names of entities, links what it finds to the episode and stamps
bit 3.  A failing search or link is kept until all the others are done, and then
raised.  Without a graph backend nothing is searched, and the bit is stamped.
-/

namespace OpenZync.Workers.LinkEntities

open OpenZync.Config OpenZync.Library

section Words

/-- `str.split` without arguments. -/
def split (text : Text) : List Text :=
  (text.splitOnP Text.isSpace).filter fun word => !word.isEmpty

/-- What a word loses at its end. -/
def trailing : List Char :=
  ".,!?:;".toList

/-- The tokens of the text of an episode. -/
def tokens (linkText : Text) : List Text :=
  (((split linkText).filter fun word => 2 < (Text.strip word).length).map fun word =>
    (Text.strip word).rdropWhile trailing.contains).dedup

/-- What the name of an entity adds to the known tokens. -/
def nameTokens (casing : Casing) (name : Option Text) : List Text :=
  let name := Text.strip (name.getD [])
  if name.isEmpty then [] else casing.lower name :: split (casing.lower name)

/-- The words to search for, in order. -/
def matchedWords (casing : Casing) (linkText : Text) (names : List (Option Text)) : List Text :=
  let known := names.flatMap (nameTokens casing)
  ((tokens linkText).filter fun token => known.contains (casing.lower token)).insertionSort
    fun first second => (compare first second).isLE = true

end Words

/-- A page of `list_entities`, with the error of its query. -/
structure EntityPage where
  names : List (Option Text)
  failure : Option TaskError

/-- How `link_entity_to_episode` ends; `lost` has made the link all the same. -/
inductive LinkOutcome where
  | linked
  | refused (failure : TaskError)
  | lost (failure : TaskError)
deriving DecidableEq

/-- What an attempt meets. -/
structure LinkWorld where
  /-- The content of the episode, if it is found. -/
  episode : Except TaskError Text
  dispatcher : Option (GraphClients Unit)
  redis : Option CacheRead
  /-- The config that OpenBao holds, and the error of the read. -/
  authoritative : RawConfig
  openbaoFailure : Option ConfigError
  database : Except Unit RawConfig
  /-- The pages that the loop reads, up to the one without `has_more`. -/
  pages : List EntityPage
  /-- The entities that a search for a word finds, and the error of the query. -/
  found : Text → List Uuid
  searchFailure : Text → Option TaskError
  /-- The links, in the order in which they are made. -/
  link : Nat → LinkOutcome
  commit : Attempt.Fate
  /-- The jobs queued after the commit. -/
  enqueue : Except TaskError Unit

namespace LinkWorld

variable (world : LinkWorld)

def openbao : Except ConfigError RawConfig :=
  match world.openbaoFailure with
  | some failure => .error failure
  | none => .ok world.authoritative

/-- The names of all entities. -/
def names : List (Option Text) :=
  world.pages.flatMap EntityPage.names

end LinkWorld

/-- The entities linked to the episode, its row, and whether the attempt has
committed the bit. -/
structure LinkState where
  linked : List Uuid
  row : EpisodeRow
  stamped : Bool

namespace LinkState

def addLink (id : Uuid) (state : LinkState) : LinkState :=
  { state with linked := id :: state.linked }

/-- `apply_enrichment_bits` and the commit. -/
def stamp (state : LinkState) : LinkState :=
  { state with
    row := state.row.applyEnrichmentBits enrichmentEntityLinks
    stamped := !state.row.isDeleted }

end LinkState

/-- The loop of `list_entities`. -/
def listNames : List EntityPage → Except TaskError (List (Option Text))
  | [] => .ok []
  | page :: pages =>
      match page.failure with
      | some failure => .error failure
      | none => (listNames pages).map fun names => page.names ++ names

/-- What the loops of the searches and links keep of the first error. -/
abbrev FirstError := Option TaskError

/-- The loop over the outcomes of the searches. -/
def collectSearches (world : LinkWorld) :
    FirstError → List Uuid → List Text → Except TaskError (FirstError × List Uuid)
  | firstError, matched, [] => .ok (firstError, matched)
  | firstError, matched, word :: words =>
      match world.searchFailure word with
      | none => collectSearches world firstError (matched ++ world.found word) words
      | some .graphBackendUnavailable =>
          collectSearches world (firstError.or (some .graphBackendUnavailable)) matched words
      | some failure => .error failure

/-- `link_entity_to_episode` -/
def linkEntityToEpisode (outcome : LinkOutcome) (id : Uuid) : Attempt LinkState TaskError Unit :=
  match outcome with
  | .linked => Attempt.change (LinkState.addLink id)
  | .refused failure => Attempt.remote .refused failure (LinkState.addLink id)
  | .lost failure => Attempt.remote .lost failure (LinkState.addLink id)

/-- One turn of the loop over the links. -/
def linkEntity (world : LinkWorld) (firstError : FirstError) (target : Uuid × Nat) :
    Attempt LinkState TaskError FirstError :=
  Attempt.handle
    (do
      linkEntityToEpisode (world.link target.2) target.1
      pure firstError)
    fun failure =>
      if failure = .graphBackendUnavailable then pure (firstError.or (some failure))
      else Attempt.fail failure

/-- The branch with a backend. -/
def linkMatches (casing : Casing) (linkText : Text) (world : LinkWorld) :
    Attempt LinkState TaskError Unit := do
  let names ← Attempt.ofExcept (listNames world.pages)
  let (firstError, matched) ← Attempt.ofExcept
    (collectSearches world none [] (matchedWords casing linkText names))
  let firstError ← Attempt.fold (linkEntity world) firstError matched.zipIdx
  match firstError with
  | some failure => Attempt.fail failure
  | none => pure ()

/-- `resolve_graph_backend` in the world of the attempt. -/
def resolveBackend (world : LinkWorld) : Except TaskError (Option Unit) :=
  match resolveGraphBackend world.dispatcher world.redis world.openbao world.database with
  | .ok backend => .ok backend
  | .error .graphBackendUnavailable => .error .graphBackendUnavailable

/-- One attempt of `link_entities_to_episode`. -/
def linkEntitiesToEpisode (casing : Casing) (content : Option Text) (world : LinkWorld) :
    Attempt LinkState TaskError Unit := do
  let episodeContent ← Attempt.ofExcept world.episode
  let backend ← Attempt.ofExcept (resolveBackend world)
  if backend.isSome then linkMatches casing (content.getD episodeContent) world
  Attempt.remote world.commit .transient LinkState.stamp
  Attempt.ofExcept world.enqueue

/-- An attempt, which has committed nothing when it begins. -/
def linkAttempt (casing : Casing) (content : Option Text) (world : LinkWorld)
    (before : LinkState) : LinkState × Except TaskError Unit :=
  linkEntitiesToEpisode casing content world { before with stamped := false }

/-- The attempts of `with_retry`, each with the state it begins in. -/
def begunAttempts (casing : Casing) (content : Option Text) :
    List LinkWorld → LinkState → List (LinkWorld × LinkState)
  | [], _ => []
  | world :: worlds, before =>
      (world, before) ::
        match linkAttempt casing content world before with
        | (_, .ok _) => []
        | (after, .error failure) =>
            if isRetryable failure then begunAttempts casing content worlds after else []

end OpenZync.Workers.LinkEntities
