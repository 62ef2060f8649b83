import OpenZync.Graph.GraphListings
import OpenZync.Library.Dicts
import OpenZync.Library.Execution

/-!
# Clusters of duplicate entities

`_find_duplicate_clusters`: entities of one name are grouped, and for each of
the others the backend is searched by its name.  The search is not confined to
the listed entities, and an entity whose answers all lie outside the list
becomes a cluster of its own.
-/

namespace OpenZync.Workers

open OpenZync.Graph OpenZync.Library

/-- The entities of a project, each once. -/
structure EntityListing (ν : Type) where
  entities : List (FalkorDB.EntityRow ν)
  distinct : (entities.map FalkorDB.EntityRow.id).Nodup

/-- `name.lower` and the answers of `bulk_search_entities` to a name; no name is
searched for twice. -/
structure ClusterServices (ν : Type) where
  casing : Casing
  bulkSearchEntities : Text → List (FalkorDB.EntityRow ν)

/-- The clusters, `processed_fuzzy` and `seen_ids`. -/
structure FuzzyPass (ν : Type) where
  clusters : List (List (FalkorDB.EntityRow ν))
  processed : List Uuid
  seen : List Uuid

variable {ν : Type}

/-- `entity["name"]` -/
def nameOf (entity : FalkorDB.EntityRow ν) : Text :=
  entity.name.getD []

section

variable (services : ClusterServices ν) (listing : EntityListing ν)

/-- `name_lower` -/
def nameLower (entity : FalkorDB.EntityRow ν) : Text :=
  Text.strip (services.casing.lower (nameOf entity))

/-- The clusters of the first phase, from `name_groups`. -/
def exactClusters : List (List (FalkorDB.EntityRow ν)) :=
  ((Library.Dict.grouped (nameLower services) listing.entities).items.map Prod.snd).filter
    fun group => decide (1 < group.length)

/-- `seen_ids` after the first phase. -/
def exactIds : List Uuid :=
  (exactClusters services listing).flatten.map FalkorDB.EntityRow.id

/-- The entities of no exact cluster. -/
def remaining : List (FalkorDB.EntityRow ν) :=
  listing.entities.filter fun entity => decide (entity.id ∉ exactIds services listing)

/-- `fuzzy_ids` -/
def fuzzyIds (seen : List Uuid) (entity : FalkorDB.EntityRow ν) : List Uuid :=
  ((services.bulkSearchEntities (nameOf entity)).map FalkorDB.EntityRow.id).filter
    fun id => decide (id ≠ entity.id ∧ id ∉ seen)

/-- One round of the second phase. -/
def fuzzyRound (pass : FuzzyPass ν) (entity : FalkorDB.EntityRow ν) : FuzzyPass ν :=
  if entity.id ∈ pass.processed then pass
  else
    let ids := fuzzyIds services pass.seen entity
    if ids ≠ [] then
      { clusters := pass.clusters ++
          [entity :: listing.entities.filter fun other => decide (other.id ∈ ids)]
        processed := pass.processed ++ entity.id :: ids
        seen := pass.seen ++ entity.id :: ids }
    else { pass with processed := pass.processed ++ [entity.id] }

/-- The rounds for some of the remaining entities. -/
def fuzzyPass (entities : List (FalkorDB.EntityRow ν)) : FuzzyPass ν :=
  entities.foldl (fuzzyRound services listing)
    ⟨exactClusters services listing, [], exactIds services listing⟩

/-- `_find_duplicate_clusters` -/
def findDuplicateClusters : List (List (FalkorDB.EntityRow ν)) :=
  if listing.entities.length < 2 then []
  else (fuzzyPass services listing (remaining services listing)).clusters

/-- Pairwise disjoint clusters of at least two distinct listed entities. -/
structure DuplicatesOf (clusters : List (List (FalkorDB.EntityRow ν))) : Prop where
  disjoint : clusters.Pairwise fun first second =>
    ∀ entity ∈ first, ∀ other ∈ second, entity.id ≠ other.id
  distinct : ∀ cluster ∈ clusters, (cluster.map FalkorDB.EntityRow.id).Nodup
  several : ∀ cluster ∈ clusters, 2 ≤ cluster.length
  listed : ∀ cluster ∈ clusters, cluster ⊆ listing.entities

/-- The identifiers outside the exact clusters that are taken, with those that an
entity takes. -/
def takeIds (taken : List Uuid) (entity : FalkorDB.EntityRow ν) : List Uuid :=
  let ids := fuzzyIds services (exactIds services listing ++ taken) entity
  if entity.id ∈ taken ∨ ids = [] then taken else taken ++ entity.id :: ids

/-- Where an entity that is not taken has new answers, one of them is listed. -/
def AnswerListed (taken : List Uuid) (entity : FalkorDB.EntityRow ν) : Prop :=
  let ids := fuzzyIds services (exactIds services listing ++ taken) entity
  entity.id ∉ taken → ids ≠ [] → ∃ other ∈ listing.entities, other.id ∈ ids

/-- Every entity without a namesake has a listed answer, or no new one, when its
turn comes. -/
def NewAnswersListed : Prop :=
  AllowedAlong (takeIds services listing) (AnswerListed services listing) []
    (remaining services listing)

end

variable {services : ClusterServices ν} {listing : EntityListing ν}

theorem EntityListing.same {entity other : FalkorDB.EntityRow ν}
    (member : entity ∈ listing.entities) (memberOther : other ∈ listing.entities)
    (same : entity.id = other.id) : entity = other :=
  List.inj_on_of_nodup_map listing.distinct member memberOther same

theorem mem_groups {item : Text × List (FalkorDB.EntityRow ν)}
    (member : item ∈ (Library.Dict.grouped (nameLower services) listing.entities).items) :
    item.2 = listing.entities.filter fun entity =>
      decide (nameLower services entity = item.1) := by
  have group := Library.Dict.getD_get?_grouped (nameLower services) listing.entities item.1
  rw [Library.Dict.mem_items_iff.mp member] at group
  exact group

theorem mem_exactClusters {cluster : List (FalkorDB.EntityRow ν)}
    (member : cluster ∈ exactClusters services listing) :
    2 ≤ cluster.length ∧ cluster.Sublist listing.entities := by
  obtain ⟨inGroups, several⟩ := List.mem_filter.mp member
  obtain ⟨item, inItems, rfl⟩ := List.mem_map.mp inGroups
  refine ⟨of_decide_eq_true several, ?_⟩
  rw [mem_groups inItems]
  exact List.filter_sublist

/-- Two names have no entity in common. -/
theorem exactClusters_disjoint :
    (exactClusters services listing).Pairwise fun first second =>
      ∀ entity ∈ first, ∀ other ∈ second, entity.id ≠ other.id := by
  apply List.Pairwise.filter
  apply List.pairwise_map.mpr
  have names := List.pairwise_map.mp
    (Library.Dict.grouped (nameLower services) listing.entities).distinct
  apply names.imp_of_mem
  intro first second inFirst inSecond different entity member other memberOther same
  rw [mem_groups inFirst, List.mem_filter, decide_eq_true_eq] at member
  rw [mem_groups inSecond, List.mem_filter, decide_eq_true_eq] at memberOther
  obtain rfl := listing.same member.1 memberOther.1 same
  exact different (member.2.symm.trans memberOther.2)

/-- What holds between the rounds. -/
structure PassSound (services : ClusterServices ν) (listing : EntityListing ν)
    (pass : FuzzyPass ν) : Prop where
  disjoint : pass.clusters.Pairwise fun first second =>
    ∀ entity ∈ first, ∀ other ∈ second, entity.id ≠ other.id
  distinct : ∀ cluster ∈ pass.clusters, (cluster.map FalkorDB.EntityRow.id).Nodup
  listed : ∀ cluster ∈ pass.clusters, cluster ⊆ listing.entities
  seen : ∀ cluster ∈ pass.clusters, ∀ entity ∈ cluster, entity.id ∈ pass.seen
  processed : ∀ id ∈ pass.seen, id ∈ exactIds services listing ∨ id ∈ pass.processed

theorem exactClusters_sound (services : ClusterServices ν) (listing : EntityListing ν) :
    PassSound services listing
      ⟨exactClusters services listing, [], exactIds services listing⟩ := by
  refine ⟨exactClusters_disjoint, ?_, ?_, ?_, fun _ => .inl⟩
  · intro cluster member
    exact listing.distinct.sublist ((mem_exactClusters member).2.map _)
  · intro cluster member
    exact (mem_exactClusters member).2.subset
  · intro cluster member entity inCluster
    exact List.mem_map_of_mem (List.mem_flatten_of_mem member inCluster)

theorem mem_fuzzyIds {seen : List Uuid} {entity : FalkorDB.EntityRow ν} {id : Uuid}
    (member : id ∈ fuzzyIds services seen entity) : id ≠ entity.id ∧ id ∉ seen :=
  of_decide_eq_true (List.mem_filter.mp member).2

/-- The cluster of an entity whose turn has come. -/
theorem fuzzyRound_sound {pass : FuzzyPass ν} (sound : PassSound services listing pass)
    {entity : FalkorDB.EntityRow ν} (member : entity ∈ remaining services listing) :
    PassSound services listing (fuzzyRound services listing pass entity) := by
  obtain ⟨inListing, alone⟩ := List.mem_filter.mp member
  unfold fuzzyRound
  split
  · exact sound
  · rename_i new
    dsimp only
    have unseen : entity.id ∉ pass.seen := by
      intro seen
      rcases sound.processed _ seen with exact | processed
      · exact of_decide_eq_true alone exact
      · exact new processed
    split
    · have fresh : ∀ other ∈ entity :: listing.entities.filter (fun other =>
          decide (other.id ∈ fuzzyIds services pass.seen entity)), other.id ∉ pass.seen ∧
            other.id ∈ entity.id :: fuzzyIds services pass.seen entity := by
        intro other inCluster
        rcases List.mem_cons.mp inCluster with rfl | found
        · exact ⟨unseen, List.mem_cons_self⟩
        · have answered := of_decide_eq_true (List.mem_filter.mp found).2
          exact ⟨(mem_fuzzyIds answered).2, List.mem_cons_of_mem _ answered⟩
      refine ⟨?_, ?_, ?_, ?_, ?_⟩
      · apply List.pairwise_append.mpr
        refine ⟨sound.disjoint, List.pairwise_singleton _ _, ?_⟩
        intro first inClusters second inNew earlier inFirst later inSecond same
        obtain rfl := List.mem_singleton.mp inNew
        apply (fresh later inSecond).1
        rw [← same]
        exact sound.seen first inClusters earlier inFirst
      · intro cluster inClusters
        rcases List.mem_append.mp inClusters with earlier | inNew
        · exact sound.distinct cluster earlier
        · obtain rfl := List.mem_singleton.mp inNew
          rw [List.map_cons, List.nodup_cons]
          refine ⟨?_, listing.distinct.sublist (List.filter_sublist.map _)⟩
          intro again
          obtain ⟨other, found, same⟩ := List.mem_map.mp again
          have answered := of_decide_eq_true (List.mem_filter.mp found).2
          exact (mem_fuzzyIds answered).1 same
      · intro cluster inClusters
        rcases List.mem_append.mp inClusters with earlier | inNew
        · exact sound.listed cluster earlier
        · obtain rfl := List.mem_singleton.mp inNew
          exact List.cons_subset.mpr ⟨inListing, List.filter_sublist.subset⟩
      · intro cluster inClusters other inCluster
        rcases List.mem_append.mp inClusters with earlier | inNew
        · exact List.mem_append_left _ (sound.seen cluster earlier other inCluster)
        · obtain rfl := List.mem_singleton.mp inNew
          exact List.mem_append_right _ (fresh other inCluster).2
      · intro id seen
        rcases List.mem_append.mp seen with earlier | now
        · exact (sound.processed id earlier).imp_right (List.mem_append_left _)
        · exact .inr (List.mem_append_right _ now)
    · refine ⟨sound.disjoint, sound.distinct, sound.listed, sound.seen, ?_⟩
      intro id seen
      exact (sound.processed id seen).imp_right (List.mem_append_left _)

theorem fuzzyPass_sound {entities : List (FalkorDB.EntityRow ν)}
    (members : entities ⊆ remaining services listing) :
    PassSound services listing (fuzzyPass services listing entities) := by
  induction entities using List.reverseRecOn with
  | nil => exact exactClusters_sound services listing
  | append_singleton entities entity induction =>
      rw [fuzzyPass, List.foldl_append, List.foldl_cons, List.foldl_nil]
      obtain ⟨earlier, last⟩ := List.append_subset.mp members
      exact fuzzyRound_sound (induction earlier) (last List.mem_cons_self)

/-- The pass has seen the identifiers that are taken, and has processed no other
entity of those to come. -/
structure PassTook (services : ClusterServices ν) (listing : EntityListing ν)
    (taken : List Uuid) (pass : FuzzyPass ν) (entities : List (FalkorDB.EntityRow ν)) :
    Prop where
  seen : pass.seen = exactIds services listing ++ taken
  processed : ∀ entity ∈ entities, entity.id ∈ pass.processed ↔ entity.id ∈ taken

theorem fuzzyRound_took {taken : List Uuid} {pass : FuzzyPass ν}
    {entity : FalkorDB.EntityRow ν} {entities : List (FalkorDB.EntityRow ν)}
    (took : PassTook services listing taken pass (entity :: entities))
    (distinct : entity.id ∉ entities.map FalkorDB.EntityRow.id) :
    PassTook services listing (takeIds services listing taken entity)
        (fuzzyRound services listing pass entity) entities ∧
      ((∀ cluster ∈ (fuzzyRound services listing pass entity).clusters, 2 ≤ cluster.length) ↔
        (∀ cluster ∈ pass.clusters, 2 ≤ cluster.length) ∧
          AnswerListed services listing taken entity) := by
  have later : ∀ other ∈ entities, other.id ∈ pass.processed ↔ other.id ∈ taken :=
    fun other member => took.processed other (List.mem_cons_of_mem _ member)
  have different : ∀ other ∈ entities, other.id ≠ entity.id := by
    intro other member same
    exact distinct (same ▸ List.mem_map_of_mem member)
  have turn := took.processed entity List.mem_cons_self
  unfold fuzzyRound takeIds AnswerListed
  rw [← took.seen]
  dsimp only
  by_cases known : entity.id ∈ taken
  · rw [if_pos (turn.mpr known), if_pos (.inl known)]
    refine ⟨⟨took.seen, later⟩, ?_⟩
    exact (and_iff_left fun new => absurd known new).symm
  · rw [if_neg (mt turn.mp known)]
    by_cases answered : fuzzyIds services pass.seen entity = []
    · rw [if_neg (not_not.mpr answered), if_pos (.inr answered)]
      refine ⟨⟨took.seen, ?_⟩, (and_iff_left fun _ new => absurd answered new).symm⟩
      intro other member
      rw [List.mem_append, List.mem_singleton, later other member,
        or_iff_left (different other member)]
    · rw [if_pos answered, if_neg (not_or.mpr ⟨known, answered⟩)]
      refine ⟨⟨by rw [took.seen, List.append_assoc], ?_⟩, ?_⟩
      · intro other member
        rw [List.mem_append, List.mem_append, later other member]
      · rw [List.forall_mem_append, List.forall_mem_singleton]
        apply and_congr_right
        intro _
        rw [List.length_cons, Nat.succ_le_succ_iff, Nat.one_le_iff_ne_zero, ← Nat.pos_iff_ne_zero,
          List.length_pos_iff_exists_mem]
        simp [known, answered]

theorem several_iff {taken : List Uuid} {pass : FuzzyPass ν}
    {entities : List (FalkorDB.EntityRow ν)}
    (took : PassTook services listing taken pass entities)
    (distinct : (entities.map FalkorDB.EntityRow.id).Nodup) :
    (∀ cluster ∈ (entities.foldl (fuzzyRound services listing) pass).clusters,
        2 ≤ cluster.length) ↔
      (∀ cluster ∈ pass.clusters, 2 ≤ cluster.length) ∧
        AllowedAlong (takeIds services listing) (AnswerListed services listing) taken
          entities := by
  induction entities generalizing taken pass with
  | nil => exact (and_iff_left trivial).symm
  | cons entity entities induction =>
      rw [List.map_cons, List.nodup_cons] at distinct
      obtain ⟨next, grown⟩ := fuzzyRound_took took distinct.1
      rw [List.foldl_cons, induction next distinct.2, grown, and_assoc, AllowedAlong]

/-- The clusters are pairwise disjoint and of at least two listed entities exactly
when no new answer comes without a listed one. -/
theorem duplicatesOf_iff (services : ClusterServices ν) (listing : EntityListing ν) :
    DuplicatesOf listing (findDuplicateClusters services listing) ↔
      (2 ≤ listing.entities.length → NewAnswersListed services listing) := by
  unfold findDuplicateClusters
  split
  · rename_i few
    refine iff_of_true ⟨List.Pairwise.nil, ?_, ?_, ?_⟩ fun several => absurd few (by omega)
    · exact List.forall_mem_nil _
    · exact List.forall_mem_nil _
    · exact List.forall_mem_nil _
  · rename_i several
    have sound : PassSound services listing
        (fuzzyPass services listing (remaining services listing)) :=
      fuzzyPass_sound (List.Subset.refl _)
    have start : PassTook services listing []
        ⟨exactClusters services listing, [], exactIds services listing⟩
        (remaining services listing) :=
      ⟨(List.append_nil _).symm, fun _ _ => Iff.rfl⟩
    have sizes := several_iff start (listing.distinct.sublist (List.filter_sublist.map _))
    rw [and_iff_right fun cluster member => (mem_exactClusters member).1] at sizes
    constructor
    · intro duplicates _
      exact sizes.mp duplicates.several
    · intro allowed
      exact ⟨sound.disjoint, sound.distinct, sizes.mpr (allowed (not_lt.mp several)), sound.listed⟩

/-- An entity with nothing but a name. -/
def named (id : Fin 10) (name : Text) (isMerged : Bool) : FalkorDB.EntityRow Unit :=
  { id := id
    name := some name
    entityType := some "Person".toList
    summary := none
    attributes := .null
    createdAt := none
    isMerged := some isMerged
    idBound := FalkorDB.idBound_of_small id }

/-- Two entities of different names. -/
def annAndBob : EntityListing Unit :=
  { entities := [named 1 "ann".toList false, named 2 "bob".toList false]
    distinct := by decide }

/-- The search also finds the entity that was merged into the first. -/
def mergedAnswers : ClusterServices Unit :=
  { casing := Casing.ascii
    bulkSearchEntities := fun name =>
      if name = "ann".toList then [named 1 "ann".toList false, named 3 "ann".toList true]
      else [named 2 "bob".toList false] }

theorem mergedAnswers_lone :
    ¬ DuplicatesOf annAndBob (findDuplicateClusters mergedAnswers annAndBob) := by
  have sizes : (findDuplicateClusters mergedAnswers annAndBob).map List.length = [1] := by
    decide +kernel
  intro duplicates
  have lone : 1 ∈ (findDuplicateClusters mergedAnswers annAndBob).map List.length := by
    rw [sizes]
    exact List.mem_singleton.mpr rfl
  obtain ⟨cluster, member, one⟩ := List.mem_map.mp lone
  have several := duplicates.several cluster member
  omega

end OpenZync.Workers
