import OpenZync.Retrieval.Fusion
import OpenZync.Retrieval.GraphSearch

/-!
# Hybrid search

Five legs search in their own way: episodes and facts by vector and by text, and
the graph.  A leg that fails contributes nothing; the search fails only with all
five.  What is left is merged by kind and put in order.  Without a leg the pages
are cut from rankings in which the items that it did not find keep their scores
and the order between them.
-/

namespace OpenZync.Retrieval

open OpenZync.Library

/-- The retrieval legs, in the order in which they are started. -/
inductive Leg where
  | episodeVector
  | factVector
  | episodeBm25
  | factBm25
  | graphBfs
deriving DecidableEq

def Leg.all : List Leg :=
  [.episodeVector, .factVector, .episodeBm25, .factBm25, .graphBfs]

/-- An entry of `failed_legs`. -/
inductive SearchPart where
  | leg (leg : Leg)
  | reranker
deriving DecidableEq

def SearchPart.name : SearchPart → String
  | .leg .episodeVector => "episode_vector"
  | .leg .factVector => "fact_vector"
  | .leg .episodeBm25 => "episode_bm25"
  | .leg .factBm25 => "fact_bm25"
  | .leg .graphBfs => "graph_bfs"
  | .reranker => "reranker"

/-- What running a leg comes to: results, `SearchLegFailedError`, or an exception
of the session around it, which no part of the search catches. -/
inductive LegAnswer (α : Type) where
  | results (items : List α)
  | failed
  | raised

/-- The session of a leg, and the search that runs on it. -/
structure LegRun (α : Type) where
  /-- The sibling session is opened and bound to its tenant. -/
  bound : Bool
  /-- `none` is any exception of the search itself. -/
  found : Option (List α)

/-- `_run_leg`: an exception of the search becomes `SearchLegFailedError`. -/
def LegRun.runLeg {α : Type} (run : LegRun α) : LegAnswer α :=
  if run.bound then
    match run.found with
    | some items => .results items
    | none => .failed
  else .raised

/-- What the legs return; a leg that returns nothing contributes `[]`. -/
def LegAnswer.items {α : Type} : LegAnswer α → List α
  | .results items => items
  | _ => []

def LegAnswer.isFailed {α : Type} : LegAnswer α → Bool
  | .failed => true
  | _ => false

/-- How a leg ends, without its items. -/
def LegAnswer.forget {α : Type} : LegAnswer α → LegAnswer Unit
  | .results _ => .results []
  | .failed => .failed
  | .raised => .raised

/-- `created_at` in the shapes in which the legs give it. -/
inductive CreatedAt where
  | absent
  | flag (value : Bool)
  | number (value : ℚ)
  | instant (value : Time)
  | text (value : Text)

/-- `_to_epoch`, in seconds; `parse` is `fromisoformat` with a missing time zone
read as UTC. -/
def CreatedAt.toEpoch (parse : Text → Option Time) : CreatedAt → ℚ
  | .absent => 0
  | .flag _ => 0
  | .number value => value
  | .instant value => value / 1000000
  | .text value =>
      match parse (value.flatMap fun c => if c = 'Z' then "+00:00".toList else [c]) with
      | none => 0
      | some parsed => parsed / 1000000

section Search

variable {δ β : Type}

/-- A reranker with its bounds; it may raise. -/
structure Reranker (β : Type) where
  rerank : List (FusedItem β) → Int → Option (List (FusedItem β))

/-- The retriever with the arguments of a search. -/
structure Search (β : Type) where
  limit : Int
  sort : String
  reranker : Option (Reranker β)
  /-- `reranker_top_k` and `reranker_top_n` of the organisation. -/
  rerankerTopK : Option Int
  rerankerTopN : Option Int
  createdAt : β → CreatedAt
  parse : Text → Option Time

/-- The legs of a search. -/
structure LegRuns (δ β : Type) where
  /-- The query has been embedded. -/
  embedded : Bool
  episodeVector : LegRun (RankedItem β)
  factVector : LegRun (RankedItem β)
  episodeBm25 : LegRun (RankedItem β)
  factBm25 : LegRun (RankedItem β)
  graphBfs : LegRun (GraphNode δ β)

structure SourceCounts where
  episodesVector : Nat
  episodesBm25 : Nat
  episodesMerged : Nat
  factsVector : Nat
  factsBm25 : Nat
  factsMerged : Nat
  entitiesGraphBfs : Nat

structure SearchResponse (δ β : Type) where
  episodes : List (FusedItem β)
  facts : List (FusedItem β)
  entities : List (GraphNode δ β)
  sourceCounts : SourceCounts
  totalItems : Nat
  degraded : Bool
  failedLegs : List SearchPart

inductive SearchError where
  | allLegsFailed (failedLegs : List SearchPart)
  | legRaised
  | invalidSort

/-- `_rerank_top_k`: `DEFAULT_RERANK_TOP_K` without a value, which zero is too. -/
def Search.rerankTopK (search : Search β) : Int :=
  (search.rerankerTopK.filter fun count => count ≠ 0).getD 50

def Search.rerankTopN (search : Search β) : Int :=
  (search.rerankerTopN.filter fun count => count ≠ 0).getD 10

def Search.rrfTopN (search : Search β) : Int :=
  if search.reranker.isSome then search.rerankTopK else search.limit

namespace LegRuns

variable (runs : LegRuns δ β)

/-- A vector leg does nothing without an embedding. -/
def vector (run : LegRun (RankedItem β)) : LegAnswer (RankedItem β) :=
  if runs.embedded then run.runLeg else .results []

def ending : Leg → LegAnswer Unit
  | .episodeVector => (runs.vector runs.episodeVector).forget
  | .factVector => (runs.vector runs.factVector).forget
  | .episodeBm25 => runs.episodeBm25.runLeg.forget
  | .factBm25 => runs.factBm25.runLeg.forget
  | .graphBfs => runs.graphBfs.runLeg.forget

/-- `_safe_leg`, for the legs in the order in which they end. -/
def safeLegs (failedLegs : List SearchPart) (order : List Leg) :
    Except SearchError (List SearchPart) :=
  order.foldlM (fun failedLegs leg =>
    match runs.ending leg with
    | .results _ => .ok failedLegs
    | .failed => .ok (failedLegs ++ [.leg leg])
    | .raised => .error .legRaised) failedLegs

/-- Without an embedding both vector legs have failed before they start. -/
def unembedded : List SearchPart :=
  if runs.embedded then [] else [.leg .episodeVector, .leg .factVector]

end LegRuns

/-- The newest item first, and equally new ones by their ids. -/
def recentFirst {α : Type} (epoch : α → ℚ) (id : α → Text) (items : List α) : List α :=
  items.insertionSort fun first second =>
    epoch second < epoch first ∨ epoch second = epoch first ∧ id second ≤ id first

/-- `_merge_and_sort` -/
def Search.mergeAndSort (search : Search β) (runs : LegRuns δ β) :
    List (FusedItem β) × List (FusedItem β) × List (GraphNode δ β) :=
  let episodes := rrfMerge [(runs.vector runs.episodeVector).items,
    runs.episodeBm25.runLeg.items] search.rrfTopN
  let facts := rrfMerge [(runs.vector runs.factVector).items,
    runs.factBm25.runLeg.items] search.rrfTopN
  let entities := sliceTo search.limit runs.graphBfs.runLeg.items
  let epoch := fun content => (search.createdAt content).toEpoch search.parse
  if search.sort = "recent" then
    (recentFirst (fun item => epoch item.content) FusedItem.id episodes,
      recentFirst (fun item => epoch item.content) FusedItem.id facts,
      recentFirst (fun item => epoch item.content) GraphNode.id entities)
  else (episodes, facts, entities)

/-- `_maybe_rerank`: episodes that have been reranked stay so when the facts fail. -/
def Search.maybeRerank (search : Search β) (episodes facts : List (FusedItem β))
    (failedLegs : List SearchPart) :
    List (FusedItem β) × List (FusedItem β) × List SearchPart :=
  match search.reranker with
  | none => (episodes, facts, failedLegs)
  | some reranker =>
      if search.sort ≠ "relevance" then (episodes, facts, failedLegs)
      else
        match reranker.rerank episodes search.rerankTopN with
        | none => (episodes, facts, failedLegs ++ [.reranker])
        | some episodes =>
            match reranker.rerank facts search.rerankTopN with
            | none => (episodes, facts, failedLegs ++ [.reranker])
            | some facts => (episodes, facts, failedLegs)

/-- The answer of a search whose legs have ended. -/
def Search.respond (search : Search β) (runs : LegRuns δ β) (failedLegs : List SearchPart) :
    SearchResponse δ β :=
  let merged := search.mergeAndSort runs
  let reranked := search.maybeRerank merged.1 merged.2.1 failedLegs
  { episodes := reranked.1
    facts := reranked.2.1
    entities := merged.2.2
    sourceCounts :=
      { episodesVector := (runs.vector runs.episodeVector).items.length
        episodesBm25 := runs.episodeBm25.runLeg.items.length
        episodesMerged := reranked.1.length
        factsVector := (runs.vector runs.factVector).items.length
        factsBm25 := runs.factBm25.runLeg.items.length
        factsMerged := reranked.2.1.length
        entitiesGraphBfs := runs.graphBfs.runLeg.items.length }
    totalItems := reranked.1.length + reranked.2.1.length + merged.2.2.length
    degraded := !reranked.2.2.isEmpty
    failedLegs := reranked.2.2 }

/-- `hybrid_search`, with the legs ending in the given order. -/
def hybridSearch (search : Search β) (runs : LegRuns δ β) (order : List Leg) :
    Except SearchError (SearchResponse δ β) :=
  match runs.safeLegs runs.unembedded order with
  | .error error => .error error
  | .ok failedLegs =>
      if ∀ leg ∈ Leg.all, .leg leg ∈ failedLegs then .error (.allLegsFailed failedLegs)
      else if search.sort ≠ "relevance" ∧ search.sort ≠ "recent" then .error .invalidSort
      else .ok (search.respond runs failedLegs)

end Search

section Outcomes

variable {δ β : Type} {search : Search β} {runs : LegRuns δ β}

/-- The parts of a search that failed, except for a reranker. -/
def LegRuns.failures (runs : LegRuns δ β) (order : List Leg) : List SearchPart :=
  runs.unembedded ++ (order.filter fun leg => (runs.ending leg).isFailed).map .leg

theorem safeLegs_of_none_raised {order : List Leg}
    (caught : ∀ leg ∈ order, runs.ending leg ≠ .raised) (failedLegs : List SearchPart) :
    runs.safeLegs failedLegs order =
      .ok (failedLegs ++ (order.filter fun leg => (runs.ending leg).isFailed).map .leg) := by
  induction order generalizing failedLegs with
  | nil => exact congrArg Except.ok (List.append_nil _).symm
  | cons first rest induction =>
      rw [List.forall_mem_cons] at caught
      rw [LegRuns.safeLegs, List.foldlM_cons]
      cases ended : runs.ending first with
      | results items =>
          rw [List.filter_cons_of_neg (by simp [ended, LegAnswer.isFailed])]
          exact induction caught.2 failedLegs
      | failed =>
          have rest := induction caught.2 (failedLegs ++ [.leg first])
          rw [List.append_assoc, List.singleton_append] at rest
          rw [List.filter_cons_of_pos (by simp [ended, LegAnswer.isFailed]), List.map_cons]
          exact rest
      | raised => exact absurd ended caught.1

/-- The leg has failed, or the embedding that it needs. -/
def LegRuns.Fails (runs : LegRuns δ β) (leg : Leg) : Prop :=
  .leg leg ∈ runs.unembedded ∨ runs.ending leg = .failed

theorem Leg.mem_all (leg : Leg) : leg ∈ Leg.all := by
  cases leg <;> decide

theorem LegAnswer.isFailed_iff {answer : LegAnswer Unit} :
    answer.isFailed = true ↔ answer = .failed := by
  cases answer <;> simp [isFailed]

theorem mem_failures {order : List Leg} (complete : order.Perm Leg.all) {leg : Leg} :
    .leg leg ∈ runs.failures order ↔ runs.Fails leg := by
  rw [LegRuns.failures, List.mem_append, LegRuns.Fails, List.mem_map]
  apply or_congr_right
  constructor
  · rintro ⟨other, member, same⟩
    cases same
    exact LegAnswer.isFailed_iff.mp (List.mem_filter.mp member).2
  · intro failed
    exact ⟨leg, List.mem_filter.mpr ⟨complete.mem_iff.mpr leg.mem_all,
      LegAnswer.isFailed_iff.mpr failed⟩, rfl⟩

/-- Whatever has failed is a leg, and listed once: without an embedding the
vector legs do not fail again. -/
theorem nodup_failures {order : List Leg} (complete : order.Perm Leg.all) :
    (runs.failures order).Nodup ∧ .reranker ∉ runs.failures order := by
  have once : (order.filter fun leg => (runs.ending leg).isFailed).Nodup :=
    ((complete.nodup_iff.mpr (by decide)).filter _)
  have legs : ((order.filter fun leg => (runs.ending leg).isFailed).map SearchPart.leg).Nodup :=
    once.map fun _ _ same => SearchPart.leg.inj same
  unfold LegRuns.failures LegRuns.unembedded
  cases embedded : runs.embedded with
  | true => simpa using legs
  | false =>
      have silent : ∀ leg ∈ [Leg.episodeVector, Leg.factVector],
          (runs.ending leg).isFailed = false := by
        simp [LegRuns.ending, LegRuns.vector, embedded, LegAnswer.forget, LegAnswer.isFailed]
      simp only [Bool.false_eq_true, if_false]
      refine ⟨List.nodup_append.mpr ⟨by decide, legs, ?_⟩, by simp⟩
      intro part early other late same
      rw [← same] at late
      obtain ⟨leg, member, rfl⟩ := List.mem_map.mp late
      have failed := (List.mem_filter.mp member).2
      rw [silent leg (by simpa using early)] at failed
      cases failed

theorem maybeRerank_eq (search : Search β) (episodes facts : List (FusedItem β))
    (failedLegs : List SearchPart) :
    search.maybeRerank episodes facts failedLegs =
      ((search.maybeRerank episodes facts []).1, (search.maybeRerank episodes facts []).2.1,
        failedLegs ++ (search.maybeRerank episodes facts []).2.2) := by
  unfold Search.maybeRerank
  split
  · simp
  · split
    · simp
    · split
      · rfl
      · split
        · rfl
        · simp

theorem maybeRerank_failedLegs (search : Search β) (episodes facts : List (FusedItem β)) :
    (search.maybeRerank episodes facts []).2.2 = [] ∨
      (search.maybeRerank episodes facts []).2.2 = [.reranker] := by
  unfold Search.maybeRerank
  split
  · exact .inl rfl
  · split
    · exact .inl rfl
    · split
      · exact .inr rfl
      · split
        · exact .inr rfl
        · exact .inl rfl

/-- Two answers that differ at most in the order of their failures. -/
def SearchResponse.Same (first second : SearchResponse δ β) : Prop :=
  first.failedLegs.Perm second.failedLegs ∧
    { first with failedLegs := [] } = { second with failedLegs := [] }

theorem respond_same {failedLegs failedLegs' : List SearchPart}
    (reordered : failedLegs.Perm failedLegs') :
    (search.respond runs failedLegs).Same (search.respond runs failedLegs') := by
  unfold Search.respond SearchResponse.Same
  dsimp only
  rw [maybeRerank_eq _ _ _ failedLegs, maybeRerank_eq _ _ _ failedLegs']
  refine ⟨reordered.append_right _, ?_⟩
  have empty := (reordered.append_right (search.maybeRerank (search.mergeAndSort runs).1
    (search.mergeAndSort runs).2.1 []).2.2).isEmpty_eq
  simp only [empty]

theorem hybridSearch_of_caught (caught : ∀ leg, runs.ending leg ≠ .raised)
    (valid : search.sort = "relevance" ∨ search.sort = "recent") (order : List Leg) :
    hybridSearch search runs order =
      if ∀ leg ∈ Leg.all, .leg leg ∈ runs.failures order then
        .error (.allLegsFailed (runs.failures order))
      else .ok (search.respond runs (runs.failures order)) := by
  have sorted : ¬ (search.sort ≠ "relevance" ∧ search.sort ≠ "recent") := by
    rintro ⟨first, second⟩
    exact valid.elim first second
  rw [hybridSearch, safeLegs_of_none_raised (fun leg _ => caught leg)]
  dsimp only
  rw [if_neg sorted]
  rfl

/-- Whatever order the legs end in, a search without foreign exceptions fails
only with all of its legs; else it reports each failed leg once, and its answer
does not depend on the order. -/
theorem hybridSearch_degrades {δ β : Type} (search : Search β) (runs : LegRuns δ β)
    (valid : search.sort = "relevance" ∨ search.sort = "recent")
    (caught : ∀ leg, runs.ending leg ≠ .raised) {order : List Leg}
    (complete : order.Perm Leg.all) :
    ((∃ response, hybridSearch search runs order = .ok response) ↔
      ∃ leg, ¬ runs.Fails leg) ∧
    ∀ response, hybridSearch search runs order = .ok response →
      (∀ leg, .leg leg ∈ response.failedLegs ↔ runs.Fails leg) ∧
      response.failedLegs.Nodup ∧
      (response.degraded = true ↔ response.failedLegs ≠ []) ∧
      ∀ {other : List Leg}, other.Perm Leg.all →
        ∃ response', hybridSearch search runs other = .ok response' ∧
          response.Same response' := by
  have all_iff : ∀ {order : List Leg}, order.Perm Leg.all →
      ((∀ leg ∈ Leg.all, .leg leg ∈ runs.failures order) ↔ ∀ leg, runs.Fails leg) := by
    intro order complete
    constructor
    · intro all leg
      exact (mem_failures complete).mp (all leg leg.mem_all)
    · intro all leg _
      exact (mem_failures complete).mpr (all leg)
  rw [hybridSearch_of_caught caught valid]
  by_cases all : ∀ leg, runs.Fails leg
  · rw [if_pos ((all_iff complete).mpr all)]
    constructor
    · constructor
      · rintro ⟨response, answered⟩
        cases answered
      · rintro ⟨leg, survives⟩
        exact absurd (all leg) survives
    · intro response answered
      cases answered
  · rw [if_neg (mt (all_iff complete).mp all)]
    refine ⟨⟨fun _ => not_forall.mp all, fun _ => ⟨_, rfl⟩⟩, ?_⟩
    intro response answered
    cases answered
    have reported : (search.respond runs (runs.failures order)).failedLegs =
        runs.failures order ++ (search.maybeRerank (search.mergeAndSort runs).1
          (search.mergeAndSort runs).2.1 []).2.2 := by
      rw [Search.respond]
      dsimp only
      rw [maybeRerank_eq]
    obtain ⟨once, none⟩ : (runs.failures order).Nodup ∧ .reranker ∉ runs.failures order :=
      nodup_failures complete
    refine ⟨?_, ?_, ?_, ?_⟩
    · intro leg
      rw [reported, List.mem_append, ← mem_failures complete]
      rcases maybeRerank_failedLegs search (search.mergeAndSort runs).1
        (search.mergeAndSort runs).2.1 with kept | added
      · simp [kept]
      · simp [added]
    · rw [reported]
      rcases maybeRerank_failedLegs search (search.mergeAndSort runs).1
        (search.mergeAndSort runs).2.1 with kept | added
      · rw [kept, List.append_nil]
        exact once
      · rw [added]
        refine List.nodup_append.mpr ⟨once, List.nodup_singleton _, ?_⟩
        intro part member other single same
        rw [same, List.mem_singleton.mp single] at member
        exact none member
    · rw [Search.respond]
      simp
    · intro other complete'
      rw [hybridSearch_of_caught caught valid,
        if_neg (mt (all_iff complete').mp all)]
      refine ⟨_, rfl, respond_same ?_⟩
      exact ((complete.trans complete'.symm).filter _ |>.map _).append_left _

end Outcomes

def someSearch : Search Unit :=
  { limit := 2
    sort := "relevance"
    reranker := none
    rerankerTopK := none
    rerankerTopN := none
    createdAt := fun _ => .absent
    parse := fun _ => none }

/-- The text leg of the facts fails. -/
def someRuns : LegRuns Nat Unit :=
  { embedded := true
    episodeVector := ⟨true, some (lettered "ab")⟩
    factVector := ⟨true, some []⟩
    episodeBm25 := ⟨true, some (lettered "cb")⟩
    factBm25 := ⟨true, none⟩
    graphBfs := ⟨true, some []⟩ }

theorem hybridSearch_degrades_someRuns :
    ∃ response, hybridSearch someSearch someRuns Leg.all = .ok response := by
  have caught : ∀ leg, someRuns.ending leg ≠ .raised := by
    intro leg raised
    cases leg <;> cases raised
  apply (hybridSearch_degrades someSearch someRuns (.inl rfl) caught (List.Perm.refl _)).1.mpr
  refine ⟨.episodeVector, ?_⟩
  rintro (unembedded | failed)
  · cases unembedded
  · cases failed

section Unaffected

variable {β : Type} {keep : Text → Bool}

/-- Two dictionaries that agree on the keys that are kept. -/
def AgreeOn (keep : Text → Bool) (first second : Library.Dict Text (Ranked β)) : Prop :=
  first.items.filter (fun item => keep item.1) = second.items.filter fun item => keep item.1

theorem AgreeOn.record {first second : Library.Dict Text (Ranked β)}
    (agree : AgreeOn keep first second) (entry : RankedItem β × Nat) :
    AgreeOn keep (record first entry) (record second entry) := by
  unfold Retrieval.record
  split
  · exact agree
  · rename_i id found
    unfold AgreeOn at agree ⊢
    rw [Library.Dict.set, Library.Dict.set, Library.Dict.filter_setItems,
      Library.Dict.filter_setItems, agree]
    by_cases kept : keep id = true
    · have same : first.get? id = second.get? id := by
        rw [Library.Dict.get?, Library.Dict.get?, ← Library.Dict.getItems_filter kept,
          ← Library.Dict.getItems_filter kept second.items, agree]
      rw [same]
    · rw [if_neg kept, if_neg kept]

/-- An item that is not kept leaves the others as they are. -/
theorem agreeOn_record (ranked : Library.Dict Text (Ranked β)) {entry : RankedItem β × Nat}
    (dropped : ∀ id, entry.1.key = some id → keep id = false) :
    AgreeOn keep (record ranked entry) ranked := by
  unfold Retrieval.record
  split
  · exact rfl
  · rename_i id found
    unfold AgreeOn
    rw [Library.Dict.set, Library.Dict.filter_setItems, if_neg (by simp [dropped id found])]

theorem AgreeOn.foldl {first second : Library.Dict Text (Ranked β)}
    (agree : AgreeOn keep first second) (entries : List (RankedItem β × Nat)) :
    AgreeOn keep (entries.foldl Retrieval.record first)
      (entries.foldl Retrieval.record second) := by
  induction entries generalizing first second with
  | nil => exact agree
  | cons entry entries induction => exact induction (agree.record entry)

theorem agreeOn_foldl (ranked : Library.Dict Text (Ranked β)) {entries : List (RankedItem β × Nat)}
    (dropped : ∀ entry ∈ entries, ∀ id, entry.1.key = some id → keep id = false) :
    AgreeOn keep (entries.foldl Retrieval.record ranked) ranked := by
  induction entries generalizing ranked with
  | nil => exact rfl
  | cons entry entries induction =>
      rw [List.forall_mem_cons] at dropped
      exact Eq.trans (induction _ dropped.2) (agreeOn_record ranked dropped.1)

theorem filter_sortedItems_without (before after : List (List (RankedItem β)))
    {lost : List (RankedItem β)} (dropped : ∀ id, Appears [lost] id → keep id = false) :
    (sortedItems (before ++ lost :: after)).filter (fun item => keep item.id) =
      (sortedItems (before ++ [] :: after)).filter fun item => keep item.id := by
  have total : Std.Total fun first second : FusedItem β => second.rrfScore ≤ first.rrfScore :=
    ⟨fun first second => le_total second.rrfScore first.rrfScore⟩
  have trans : IsTrans (FusedItem β) fun first second => second.rrfScore ≤ first.rrfScore :=
    ⟨fun _ _ _ left right => le_trans right left⟩
  have agree : AgreeOn keep (recordLists (before ++ lost :: after))
      (recordLists (before ++ [] :: after)) := by
    rw [recordLists_eq, recordLists_eq, List.flatMap_append, List.flatMap_append,
      List.flatMap_cons, List.flatMap_cons, List.foldl_append, List.foldl_append,
      List.foldl_append, List.foldl_append]
    apply AgreeOn.foldl
    apply agreeOn_foldl
    intro entry member id found
    apply dropped
    exact ⟨lost, List.mem_singleton_self lost, entry.1, List.fst_mem_of_mem_zipIdx member, found⟩
  unfold sortedItems
  rw [filter_insertionSort, filter_insertionSort, List.filter_map, List.filter_map]
  exact congrArg (fun items : List (Text × Ranked β) =>
    (items.map fun entry =>
      { id := entry.1
        content := entry.2.content
        rrfScore := rrfScore entry.2.ranks : FusedItem β }).insertionSort
          fun first second => second.rrfScore ≤ first.rrfScore) agree

/-- Two pages that are cut at one limit from the rankings of what two searches have
found; the rankings agree on the items that are kept. -/
def CutAlike (keep : FusedItem β → Bool) (limit : Int) (found found' : List (List (RankedItem β)))
    (page page' : List (FusedItem β)) : Prop :=
  ∃ ranking ranking', Ranking found ranking ∧ Ranking found' ranking' ∧
    page = sliceTo limit ranking ∧ page' = sliceTo limit ranking' ∧
      ranking.filter keep = ranking'.filter keep

theorem cutAlike_refl (keep : FusedItem β → Bool) (limit : Int)
    (found : List (List (RankedItem β))) :
    CutAlike keep limit found found (rrfMerge found limit) (rrfMerge found limit) :=
  ⟨sortedItems found, sortedItems found, ranking_sortedItems found, ranking_sortedItems found,
    rfl, rfl, rfl⟩

theorem cutAlike_rrfMerge (before after : List (List (RankedItem β)))
    {lost : List (RankedItem β)} (dropped : ∀ id, Appears [lost] id → keep id = false)
    (limit : Int) :
    CutAlike (fun item => keep item.id) limit (before ++ lost :: after) (before ++ [] :: after)
      (rrfMerge (before ++ lost :: after) limit) (rrfMerge (before ++ [] :: after) limit) :=
  ⟨sortedItems _, sortedItems _, ranking_sortedItems _, ranking_sortedItems _, rfl, rfl,
    filter_sortedItems_without before after dropped⟩

end Unaffected

section Losses

variable {δ β : Type}

/-- The same legs, except that one fails. -/
def LegRuns.lose (runs : LegRuns δ β) : Leg → LegRuns δ β
  | .episodeVector => { runs with episodeVector := ⟨true, none⟩ }
  | .factVector => { runs with factVector := ⟨true, none⟩ }
  | .episodeBm25 => { runs with episodeBm25 := ⟨true, none⟩ }
  | .factBm25 => { runs with factBm25 := ⟨true, none⟩ }
  | .graphBfs => { runs with graphBfs := ⟨true, none⟩ }

/-- What a leg contributes to the items that are ranked. -/
def LegRuns.found (runs : LegRuns δ β) : Leg → List (RankedItem β)
  | .episodeVector => (runs.vector runs.episodeVector).items
  | .factVector => (runs.vector runs.factVector).items
  | .episodeBm25 => runs.episodeBm25.runLeg.items
  | .factBm25 => runs.factBm25.runLeg.items
  | .graphBfs => []

/-- The leg has not found the item. -/
def LegRuns.Spares (runs : LegRuns δ β) (leg : Leg) (item : FusedItem β) : Bool :=
  !decide (Appears [runs.found leg] item.id)

theorem vector_failed (runs : LegRuns δ β) :
    (runs.vector (⟨true, none⟩ : LegRun (RankedItem β))).items = [] := by
  unfold LegRuns.vector
  split <;> rfl

theorem eq_respond_of_ok {search : Search β} {runs : LegRuns δ β} {order : List Leg}
    {response : SearchResponse δ β} (relevance : search.sort = "relevance")
    (plain : search.reranker = none) (answered : hybridSearch search runs order = .ok response) :
    response.episodes = rrfMerge [runs.found .episodeVector, runs.found .episodeBm25]
        search.limit ∧
      response.facts = rrfMerge [runs.found .factVector, runs.found .factBm25] search.limit ∧
      response.entities = sliceTo search.limit runs.graphBfs.runLeg.items := by
  unfold hybridSearch at answered
  split at answered
  · cases answered
  · split at answered
    · cases answered
    · split at answered
      · cases answered
      · cases answered
        have unsorted : ¬ search.sort = "recent" := by
          rw [relevance]
          decide
        unfold Search.respond Search.maybeRerank Search.mergeAndSort Search.rrfTopN
        simp only [plain, if_neg unsorted, Option.isSome_none, Bool.false_eq_true, if_false]
        exact ⟨rfl, rfl, trivial⟩

/-- What the legs of one kind of item have found. -/
def LegRuns.episodeLists (runs : LegRuns δ β) : List (List (RankedItem β)) :=
  [runs.found .episodeVector, runs.found .episodeBm25]

def LegRuns.factLists (runs : LegRuns δ β) : List (List (RankedItem β)) :=
  [runs.found .factVector, runs.found .factBm25]

/-- A search that loses a leg cuts its pages from rankings of all that the other legs
have found, and these agree with the rankings before on the items which the lost leg
has not found: the same items, with their scores and in their order. -/
theorem lost_leg_keeps_order {δ β : Type} (search : Search β)
    (relevance : search.sort = "relevance") (plain : search.reranker = none)
    (runs : LegRuns δ β) (lost : Leg) {order order' : List Leg}
    {full degraded : SearchResponse δ β} (answered : hybridSearch search runs order = .ok full)
    (answered' : hybridSearch search (runs.lose lost) order' = .ok degraded) :
    CutAlike (runs.Spares lost) search.limit runs.episodeLists (runs.lose lost).episodeLists
        full.episodes degraded.episodes ∧
      CutAlike (runs.Spares lost) search.limit runs.factLists (runs.lose lost).factLists
        full.facts degraded.facts ∧
      (lost ≠ .graphBfs → full.entities = degraded.entities) := by
  obtain ⟨episodes, facts, entities⟩ := eq_respond_of_ok relevance plain answered
  obtain ⟨episodes', facts', entities'⟩ := eq_respond_of_ok relevance plain answered'
  have spared : ∀ id, Appears [runs.found lost] id →
      (!decide (Appears [runs.found lost] id)) = false := by
    intro id appears
    simp [appears]
  rw [episodes, facts, entities, episodes', facts', entities']
  cases lost with
  | episodeVector =>
      refine ⟨?_, cutAlike_refl _ _ _, fun _ => rfl⟩
      have gone : (runs.lose .episodeVector).found .episodeVector = [] := vector_failed _
      rw [LegRuns.episodeLists, LegRuns.episodeLists, gone]
      exact cutAlike_rrfMerge [] [runs.found .episodeBm25] spared search.limit
  | factVector =>
      refine ⟨cutAlike_refl _ _ _, ?_, fun _ => rfl⟩
      have gone : (runs.lose .factVector).found .factVector = [] := vector_failed _
      rw [LegRuns.factLists, LegRuns.factLists, gone]
      exact cutAlike_rrfMerge [] [runs.found .factBm25] spared search.limit
  | episodeBm25 =>
      refine ⟨?_, cutAlike_refl _ _ _, fun _ => rfl⟩
      exact cutAlike_rrfMerge [runs.found .episodeVector] [] spared search.limit
  | factBm25 =>
      refine ⟨cutAlike_refl _ _ _, ?_, fun _ => rfl⟩
      exact cutAlike_rrfMerge [runs.found .factVector] [] spared search.limit
  | graphBfs => exact ⟨cutAlike_refl _ _ _, cutAlike_refl _ _ _, fun other => absurd rfl other⟩

end Losses

theorem lost_leg_keeps_order_someRuns :
    ∃ full degraded, hybridSearch someSearch someRuns Leg.all = .ok full ∧
      hybridSearch someSearch (someRuns.lose .episodeBm25) Leg.all = .ok degraded ∧
        CutAlike (someRuns.Spares .episodeBm25) 2 someRuns.episodeLists
          (someRuns.lose .episodeBm25).episodeLists full.episodes degraded.episodes :=
  ⟨_, _, rfl, rfl, (@lost_leg_keeps_order _ _ someSearch rfl rfl someRuns .episodeBm25 Leg.all
    Leg.all _ _ rfl rfl).1⟩

end OpenZync.Retrieval
