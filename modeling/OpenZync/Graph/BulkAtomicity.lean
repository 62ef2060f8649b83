import OpenZync.Graph.BulkEdges

/-!
# When a bulk call is the fold of single ones

PostgreSQL undoes a bulk call that fails, but one that succeeds leaves the
properties and the bounds of the first assertion of an edge, where single calls
replace the properties and widen the bounds.  FalkorDB does the single calls,
and a failure leaves those before it.
-/

namespace OpenZync.Graph

open Library

namespace Postgres

/-- What an edge says of its properties and its range. -/
structure Standing where
  properties : Text
  validFrom : Option Time
  validTo : Option Time

/-- Of the stored row, or else of the first assertion. -/
def standing : Option EdgeRow → List RelationshipInput → Option Standing
  | some row, _ =>
      some
        { properties := row.properties
          validFrom := row.validFrom
          validTo := row.validTo }
  | none, first :: _ =>
      some
        { properties := first.properties
          validFrom := first.validFrom
          validTo := first.validTo }
  | none, [] => none

/-- The assertions change neither the properties nor the range: the last one has
the same properties, none starts before the range or ends after it, and the
range has a start. -/
structure Upholds (former : Standing) (inputs : List RelationshipInput) : Prop where
  properties : ∀ last ∈ inputs.getLast?, last.properties = former.properties
  validFrom : ∀ input ∈ inputs, ∃ start, former.validFrom = some start ∧ start ≤ input.startsAt
  validTo : ∀ input ∈ inputs, ∀ finish, former.validTo = some finish →
    ∃ given, input.validTo = some given ∧ given ≤ finish

/-- The first bound is at most as late as the second, no bound being the latest. -/
def NoLater (first second : Option Time) : Prop :=
  ∀ late, second = some late → ∃ early, first = some early ∧ early ≤ late

theorem NoLater.refl (bound : Option Time) : NoLater bound bound :=
  fun late is => ⟨late, is, le_rfl⟩

theorem NoLater.trans {first second third : Option Time} (left : NoLater first second)
    (right : NoLater second third) : NoLater first third := by
  intro late is
  obtain ⟨middle, between, order⟩ := right late is
  obtain ⟨early, is', order'⟩ := left middle between
  exact ⟨early, is', order'.trans order⟩

theorem NoLater.antisymm {first second : Option Time} (left : NoLater first second)
    (right : NoLater second first) : first = second := by
  cases first with
  | none =>
      cases second with
      | none => rfl
      | some late =>
          obtain ⟨_, absent, _⟩ := left late rfl
          cases absent
  | some early =>
      obtain ⟨late, is, order⟩ := right early rfl
      obtain ⟨_, same, order'⟩ := left late is
      cases same
      rw [is, le_antisymm order order']

section Rows

theorem some_least_eq_iff {stored : Option Time} {given : Time} :
    some (least stored given) = stored ↔ ∃ start, stored = some start ∧ start ≤ given := by
  cases stored <;> simp [least]

theorem noLater_least (stored : Option Time) (given : Time) :
    NoLater (some (least stored given)) stored := by
  rintro late rfl
  exact ⟨_, rfl, min_le_left late given⟩

theorem unionEnd_eq_left_iff {stored given : Option Time} :
    unionEnd stored given = stored ↔ NoLater given stored := by
  cases stored <;> cases given <;> simp [unionEnd, NoLater]

theorem noLater_unionEnd (stored given : Option Time) :
    NoLater stored (unionEnd stored given) := by
  cases stored <;> cases given <;> simp [unionEnd, NoLater]

variable (inputs : List RelationshipInput) (row : EdgeRow)

theorem foldl_updatedRow_properties :
    (inputs.foldl updatedRow row).properties = row.properties ↔
      ∀ last ∈ inputs.getLast?, last.properties = row.properties := by
  have projected : (inputs.foldl updatedRow row).properties =
      inputs.foldl (fun value input => (some input.properties).getD value) row.properties :=
    (List.foldl_hom EdgeRow.properties fun _ _ => rfl).symm
  rw [projected, foldl_overwrite (fun input : RelationshipInput => some input.properties),
    getLast?_getD_eq_iff]
  simp [List.filterMap_eq_map']

theorem foldl_updatedRow_validFrom :
    (inputs.foldl updatedRow row).validFrom = row.validFrom ↔
      ∀ input ∈ inputs, ∃ start, row.validFrom = some start ∧ start ≤ input.startsAt := by
  have projected : (inputs.foldl updatedRow row).validFrom =
      inputs.foldl (fun start (input : RelationshipInput) => some (least start input.startsAt))
        row.validFrom :=
    (List.foldl_hom EdgeRow.validFrom fun _ _ => rfl).symm
  rw [projected, foldl_eq_self_iff (R := fun first second => NoLater second first) NoLater.refl
    (fun left right => right.trans left) (fun left right => right.antisymm left)
    fun stored (input : RelationshipInput) => noLater_least stored input.startsAt]
  simp only [some_least_eq_iff]

theorem foldl_updatedRow_validTo :
    (inputs.foldl updatedRow row).validTo = row.validTo ↔
      ∀ input ∈ inputs, NoLater input.validTo row.validTo := by
  have projected : (inputs.foldl updatedRow row).validTo =
      inputs.foldl (fun finish (input : RelationshipInput) => unionEnd finish input.validTo)
        row.validTo :=
    (List.foldl_hom EdgeRow.validTo fun _ _ => rfl).symm
  rw [projected, foldl_eq_self_iff (R := NoLater) NoLater.refl NoLater.trans NoLater.antisymm
    fun stored (input : RelationshipInput) => noLater_unionEnd stored input.validTo]
  simp only [unionEnd_eq_left_iff]

/-- Single calls and a bulk call raise the confidence alike. -/
theorem foldl_updatedRow_confidence :
    (inputs.foldl updatedRow row).confidence = (inputs.foldl bulkUpdatedRow row).confidence := by
  have single : (inputs.foldl updatedRow row).confidence =
      inputs.foldl (fun confidence input => max confidence input.certainty) row.confidence :=
    (List.foldl_hom EdgeRow.confidence fun _ _ => rfl).symm
  have bulk : (inputs.foldl bulkUpdatedRow row).confidence =
      inputs.foldl (fun confidence input => max confidence input.certainty) row.confidence :=
    (List.foldl_hom EdgeRow.confidence fun _ _ => rfl).symm
  rw [single, bulk]

theorem foldl_bulkUpdatedRow_content :
    (inputs.foldl bulkUpdatedRow row).content =
      { row.content with confidence := (inputs.foldl bulkUpdatedRow row).confidence } := by
  induction inputs generalizing row with
  | nil => rfl
  | cons input inputs induction =>
      rw [List.foldl_cons, induction]
      rfl

theorem foldl_content_eq_iff :
    (inputs.foldl bulkUpdatedRow row).content = (inputs.foldl updatedRow row).content ↔
      ∀ former ∈ standing (some row) inputs, Upholds former inputs := by
  have unfolded : (inputs.foldl bulkUpdatedRow row).content =
        (inputs.foldl updatedRow row).content ↔
      (inputs.foldl updatedRow row).properties = row.properties ∧
        (inputs.foldl updatedRow row).validFrom = row.validFrom ∧
          (inputs.foldl updatedRow row).validTo = row.validTo := by
    rw [foldl_bulkUpdatedRow_content, ← foldl_updatedRow_confidence]
    simp only [EdgeRow.content, EdgeContent.mk.injEq, true_and]
    rw [eq_comm, eq_comm (a := row.validFrom), eq_comm (a := row.validTo)]
  rw [unfolded, foldl_updatedRow_properties, foldl_updatedRow_validFrom,
    foldl_updatedRow_validTo]
  constructor
  · rintro ⟨properties, validFrom, validTo⟩ former is
    cases is
    exact ⟨properties, validFrom, validTo⟩
  · intro upheld
    obtain ⟨properties, validFrom, validTo⟩ := upheld _ rfl
    exact ⟨properties, validFrom, validTo⟩

end Rows

theorem updatedRow_bulkInsertedRow (input : RelationshipInput) :
    updatedRow (bulkInsertedRow input) input = insertedRow input := by
  have starts : least input.validFrom input.startsAt = input.startsAt := by
    cases given : input.validFrom <;> simp [least, RelationshipInput.startsAt, given]
  have ends : unionEnd input.validTo input.validTo = input.validTo :=
    unionEnd_eq_left_iff.mpr (NoLater.refl _)
  simp [updatedRow, bulkInsertedRow, insertedRow, starts, ends]

theorem bulkUpdatedRow_bulkInsertedRow (input : RelationshipInput) :
    bulkUpdatedRow (bulkInsertedRow input) input = bulkInsertedRow input := by
  simp [bulkUpdatedRow, bulkInsertedRow]

/-- The effect of a single call on the row of its key. -/
def change (stored : Option EdgeRow) (input : RelationshipInput) : Option EdgeRow :=
  some (upsertedRow stored input)

/-- The effect of a statement of the bulk call on the row of its key. -/
def bulkChange (stored : Option EdgeRow) (input : RelationshipInput) : Option EdgeRow :=
  some (bulkUpsertedRow stored input)

theorem foldl_change_some (inputs : List RelationshipInput) (row : EdgeRow) :
    inputs.foldl change (some row) = some (inputs.foldl updatedRow row) := by
  induction inputs generalizing row with
  | nil => rfl
  | cons input inputs induction => exact induction (updatedRow row input)

theorem foldl_bulkChange_some (inputs : List RelationshipInput) (row : EdgeRow) :
    inputs.foldl bulkChange (some row) = some (inputs.foldl bulkUpdatedRow row) := by
  induction inputs generalizing row with
  | nil => rfl
  | cons input inputs induction => exact induction (bulkUpdatedRow row input)

/-- Both ways leave the same of a key where the assertions uphold the first. -/
theorem foldl_change_content_eq_iff (stored : Option EdgeRow)
    (inputs : List RelationshipInput) :
    (inputs.foldl bulkChange stored).map EdgeRow.content =
        (inputs.foldl change stored).map EdgeRow.content ↔
      ∀ former ∈ standing stored inputs, Upholds former inputs := by
  have onRow : ∀ row : EdgeRow,
      (inputs.foldl bulkChange (some row)).map EdgeRow.content =
          (inputs.foldl change (some row)).map EdgeRow.content ↔
        ∀ former ∈ standing (some row) inputs, Upholds former inputs := by
    intro row
    rw [foldl_change_some, foldl_bulkChange_some, Option.map_some, Option.map_some,
      Option.some.injEq]
    exact foldl_content_eq_iff inputs row
  cases stored with
  | some row => exact onRow row
  | none =>
      cases inputs with
      | nil => simp [standing]
      | cons first rest =>
          have bulk : (first :: rest).foldl bulkChange none =
              (first :: rest).foldl bulkChange (some (bulkInsertedRow first)) := by
            simp [bulkChange, bulkUpsertedRow, bulkUpdatedRow_bulkInsertedRow]
          have single : (first :: rest).foldl change none =
              (first :: rest).foldl change (some (bulkInsertedRow first)) := by
            simp [change, upsertedRow, updatedRow_bulkInsertedRow]
          rw [bulk, single]
          exact onRow (bulkInsertedRow first)

section Calls

variable (world : World)

/-- The dict is the one of the element. -/
def Describes (element : Element) (created : CreatedRelationship EdgeRow) : Prop :=
  ∃ input, entry world element = some (created.key, input)

/-- What the elements change, where each of them does. -/
def effect (changes : Option EdgeRow → RelationshipInput → Option EdgeRow) (table : EdgeTable)
    (element : Element) : EdgeTable :=
  match entry world element with
  | some stored => updateAt changes table stored
  | none => table

variable {world : World}

theorem foldl_effect (changes : Option EdgeRow → RelationshipInput → Option EdgeRow)
    (elements : List Element) (table : EdgeTable) (key : EdgeKey) :
    elements.foldl (effect world changes) table key =
      (itemsAt key (elements.filterMap (entry world))).foldl changes (table key) := by
  rw [← foldl_updateAt]
  induction elements generalizing table with
  | nil => rfl
  | cons element elements induction =>
      rw [List.foldl_cons, induction, List.filterMap_cons, effect]
      cases entry world element <;> rfl

/-- What is known of an element whose statement stores a row. -/
theorem entry_eq_some {element : Element} {key : EdgeKey} {input : RelationshipInput}
    (is : entry world element = some (key, input)) :
    ∃ source target confidence,
      element.1.required = some (source, target, key.relationshipType) ∧
        world.readId source = some key.sourceId ∧ world.readId target = some key.targetId ∧
          element.1.confidence.getD (some 1) = some confidence ∧
            (world.answers element.2 && world.hasEnds key) = true ∧
              input = world.input element (some confidence) := by
  unfold entry at is
  split at is
  · cases is
  · rename_i source target relType required
    split at is
    · rename_i sourceId targetId confidence readSource readTarget given
      split at is
      · rename_i answered
        cases is
        exact ⟨source, target, confidence, required, readSource, readTarget, given, answered, rfl⟩
      · cases is
    · cases is

theorem execute_of_answered {index : Nat} {key : EdgeKey}
    (answered : (world.answers index && world.hasEnds key) = true)
    (upserted : Option EdgeRow → EdgeRow) (table : EdgeTable) :
    execute world index key upserted table =
      (Function.update table key (some (upserted (table key))),
        .ok { key := key, edge := upserted (table key) }) := by
  rw [execute, answered]
  rfl

theorem execute_of_unanswered {index : Nat} {key : EdgeKey}
    (unanswered : (world.answers index && world.hasEnds key) = false)
    (upserted : Option EdgeRow → EdgeRow) (table : EdgeTable) :
    execute world index key upserted table = (table, .error .externalService) := by
  rw [execute, unanswered]
  rfl

theorem insertElement_succeeds {element : Element} (stores : (entry world element).isSome) :
    Attempt.Succeeds (Describes world) (effect world bulkChange) (insertElement world) element := by
  intro table
  obtain ⟨⟨key, input⟩, is⟩ := Option.isSome_iff_exists.mp stores
  refine ⟨{ key := key, edge := bulkUpsertedRow (table key) input }, ⟨input, is⟩, ?_⟩
  obtain ⟨source, target, confidence, required, readSource, readTarget, given, answered, rfl⟩ :=
    entry_eq_some is
  simp only [insertElement, required, readSource, readTarget, given, effect, is]
  exact execute_of_answered answered _ table

theorem upsertedRow_join {element : Element} {confidence : ℚ} (stored : Option EdgeRow)
    (given : element.1.confidence.getD (some 1) = some confidence) :
    upsertedRow stored (world.input element element.1.confidence.join) =
      upsertedRow stored (world.input element (some confidence)) := by
  have same : (world.input element element.1.confidence.join).certainty =
      (world.input element (some confidence)).certainty := by
    cases present : element.1.confidence with
    | none =>
        rw [present] at given
        cases given
        rfl
    | some value =>
        rw [present] at given
        cases given
        rfl
  cases stored with
  | none => simp only [upsertedRow, insertedRow, same]; rfl
  | some row => simp only [upsertedRow, updatedRow, same]; rfl

theorem createElement_succeeds {element : Element} (stores : (entry world element).isSome) :
    Attempt.Succeeds (Describes world) (effect world change) (createElement world) element := by
  intro table
  obtain ⟨⟨key, input⟩, is⟩ := Option.isSome_iff_exists.mp stores
  refine ⟨{ key := key, edge := upsertedRow (table key) input }, ⟨input, is⟩, ?_⟩
  obtain ⟨source, target, confidence, required, readSource, readTarget, given, answered, rfl⟩ :=
    entry_eq_some is
  simp only [createElement, required, readSource, readTarget, createRelationship,
    upsertedRow_join _ given, effect, is]
  exact Attempt.savepoint_of_ok (execute_of_answered answered _ table)

/-- Any other element ends the bulk call, before it changes anything. -/
theorem insertElement_fails {element : Element} (fails : entry world element = none) :
    ∃ failure, ∀ table, insertElement world element table = (id table, .error failure) := by
  unfold entry at fails
  cases required : element.1.required with
  | none => exact ⟨.missingKeys element.1, fun _ => by simp only [insertElement, required]; rfl⟩
  | some values =>
      obtain ⟨source, target, relType⟩ := values
      refine ⟨.externalService, fun table => ?_⟩
      simp only [required] at fails
      simp only [insertElement, required]
      cases readSource : world.readId source with
      | none => rfl
      | some sourceId =>
          cases readTarget : world.readId target with
          | none => rfl
          | some targetId =>
              cases given : element.1.confidence.getD (some 1) with
              | none => rfl
              | some confidence =>
                  simp only [readSource, readTarget, given] at fails
                  exact execute_of_unanswered (by simpa using fails) _ table

end Calls

/-- Every key that the bulk call asserts keeps what the stored row, or else the
first assertion, says. -/
def FirstAssertionsStand (world : World) (relationships : List RelationshipDict)
    (table : EdgeTable) : Prop :=
  ∀ key, ∀ former ∈ standing (table key)
      (itemsAt key (relationships.zipIdx.filterMap (entry world))),
    Upholds former (itemsAt key (relationships.zipIdx.filterMap (entry world)))

theorem createRelationshipBulk_atomicFold_iff (world : World)
    (relationships : List RelationshipDict) (table : EdgeTable) :
    Attempt.AtomicFold contents (Describes world) (createRelationshipBulk world relationships)
        (createElement world) relationships.zipIdx table ↔
      ((∀ element ∈ relationships.zipIdx, (entry world element).isSome) →
        FirstAssertionsStand world relationships table) := by
  rcases forall_or_first (P := fun element => (entry world element).isSome)
      relationships.zipIdx with all | ⟨done, element, rest, parts, before, fails⟩
  · obtain ⟨returned, described, ran⟩ := Attempt.collect_of_succeeds
      (fun element member => insertElement_succeeds (all element member)) table
    obtain ⟨values, _, folded⟩ := Attempt.collect_of_succeeds
      (fun element member => createElement_succeeds (all element member)) table
    have bulk : createRelationshipBulk world relationships table =
        (relationships.zipIdx.foldl (effect world bulkChange) table, .ok returned) := by
      unfold createRelationshipBulk
      cases relationships with
      | nil =>
          cases described
          rfl
      | cons first others => exact Attempt.savepoint_of_ok ran
    rw [Attempt.atomicFold_of_ok bulk described folded, forall_prop_of_true all,
      FirstAssertionsStand, funext_iff]
    refine forall_congr' fun key => ?_
    rw [contents, contents, foldl_effect, foldl_effect]
    exact foldl_change_content_eq_iff (table key) _
  · obtain ⟨failure, failed⟩ := insertElement_fails (Option.not_isSome_iff_eq_none.mp fails)
    have ran := Attempt.collect_of_fails rest
      (fun element member => insertElement_succeeds (before element member)) failed table
    rw [← parts] at ran
    have nonempty : relationships.isEmpty = false := by
      cases relationships with
      | nil => cases done <;> cases parts
      | cons first others => rfl
    have bulk : createRelationshipBulk world relationships table = (table, .error failure) := by
      rw [createRelationshipBulk, nonempty]
      exact Attempt.savepoint_of_error ran
    rw [Attempt.atomicFold_of_error bulk]
    refine iff_of_true rfl fun all => ?_
    exact absurd (all element (parts ▸ by simp)) fails

end Postgres

namespace FalkorDB

/-- The assertions say of an edge what it says already: the last one has its
properties and no confidence is higher, and the last bounds given are its own. -/
structure Repeats (edge : Edge) (inputs : List RelationshipInput) : Prop where
  properties : ∀ last ∈ inputs.getLast?, last.properties = edge.properties
  confidence : ∀ input ∈ inputs, input.certainty ≤ edge.confidence
  validFrom : ∀ start ∈ (inputs.filterMap RelationshipInput.validFrom).getLast?,
    edge.validFrom = some start
  validTo : ∀ finish ∈ (inputs.filterMap RelationshipInput.validTo).getLast?,
    edge.validTo = some finish

/-- Nothing is asserted of a key, or an edge is there that says it already. -/
def Unmoved : Option Edge → List RelationshipInput → Prop
  | none, inputs => inputs = []
  | some edge, inputs => Repeats edge inputs

section Rows

variable (inputs : List RelationshipInput) (edge : Edge)

theorem foldl_onMatch_properties :
    (inputs.foldl onMatch edge).properties = edge.properties ↔
      ∀ last ∈ inputs.getLast?, last.properties = edge.properties := by
  have projected : (inputs.foldl onMatch edge).properties =
      inputs.foldl (fun value input => (some input.properties).getD value) edge.properties :=
    (List.foldl_hom Edge.properties fun _ _ => rfl).symm
  rw [projected, foldl_overwrite (fun input : RelationshipInput => some input.properties),
    getLast?_getD_eq_iff]
  simp [List.filterMap_eq_map']

theorem foldl_onMatch_confidence :
    (inputs.foldl onMatch edge).confidence = edge.confidence ↔
      ∀ input ∈ inputs, input.certainty ≤ edge.confidence := by
  have projected : (inputs.foldl onMatch edge).confidence =
      inputs.foldl (fun confidence input => max confidence input.certainty) edge.confidence :=
    (List.foldl_hom Edge.confidence fun edge input =>
      (max_def_lt edge.confidence input.certainty)).symm
  rw [projected, foldl_eq_self_iff (R := fun first second : ℚ => first ≤ second) le_refl
    le_trans le_antisymm fun confidence (input : RelationshipInput) => le_max_left confidence _]
  simp only [max_eq_left_iff]

theorem foldl_bound_eq_iff (given : RelationshipInput → Option Time) (stored : Option Time) :
    inputs.foldl (fun bound input => if (given input).isSome then given input else bound) stored =
        stored ↔
      ∀ bound ∈ (inputs.filterMap given).getLast?, stored = some bound := by
  have replaced : (fun bound input => if (given input).isSome then given input else bound) =
      fun bound input => ((given input).map some).getD bound := by
    funext bound input
    cases given input <;> rfl
  have lasts : inputs.filterMap (fun input => (given input).map some) =
      (inputs.filterMap given).map some := by
    rw [List.map_filterMap]
  rw [replaced, foldl_overwrite fun input => (given input).map some, getLast?_getD_eq_iff, lasts,
    List.getLast?_map]
  cases (inputs.filterMap given).getLast? <;> simp [eq_comm]

theorem foldl_onMatch_validFrom :
    (inputs.foldl onMatch edge).validFrom = edge.validFrom ↔
      ∀ start ∈ (inputs.filterMap RelationshipInput.validFrom).getLast?,
        edge.validFrom = some start := by
  rw [← foldl_bound_eq_iff]
  rw [show (inputs.foldl onMatch edge).validFrom = inputs.foldl (fun bound input =>
      if input.validFrom.isSome then input.validFrom else bound) edge.validFrom from
    (List.foldl_hom Edge.validFrom fun _ _ => rfl).symm]

theorem foldl_onMatch_validTo :
    (inputs.foldl onMatch edge).validTo = edge.validTo ↔
      ∀ finish ∈ (inputs.filterMap RelationshipInput.validTo).getLast?,
        edge.validTo = some finish := by
  rw [← foldl_bound_eq_iff]
  rw [show (inputs.foldl onMatch edge).validTo = inputs.foldl (fun bound input =>
      if input.validTo.isSome then input.validTo else bound) edge.validTo from
    (List.foldl_hom Edge.validTo fun _ _ => rfl).symm]

theorem foldl_onMatch_content_eq_iff :
    (inputs.foldl onMatch edge).content = edge.content ↔ Repeats edge inputs := by
  simp only [Edge.content, EdgeContent.mk.injEq]
  rw [foldl_onMatch_properties, foldl_onMatch_confidence, foldl_onMatch_validFrom,
    foldl_onMatch_validTo]
  constructor
  · rintro ⟨properties, confidence, validFrom, validTo⟩
    exact ⟨properties, confidence, validFrom, validTo⟩
  · rintro ⟨properties, confidence, validFrom, validTo⟩
    exact ⟨properties, confidence, validFrom, validTo⟩

end Rows

/-- The effect of a call on the edge of its key. -/
def change (stored : Option Edge) (input : RelationshipInput) : Option Edge :=
  some (mergedEdge stored input)

theorem foldl_change_some (inputs : List RelationshipInput) (edge : Edge) :
    inputs.foldl change (some edge) = some (inputs.foldl onMatch edge) := by
  induction inputs generalizing edge with
  | nil => rfl
  | cons input inputs induction => exact induction (onMatch edge input)

theorem foldl_change_content_eq_iff (stored : Option Edge) (inputs : List RelationshipInput) :
    (inputs.foldl change stored).map Edge.content = stored.map Edge.content ↔
      Unmoved stored inputs := by
  cases stored with
  | some edge =>
      rw [foldl_change_some, Option.map_some, Option.map_some, Option.some.injEq]
      exact foldl_onMatch_content_eq_iff inputs edge
  | none =>
      cases inputs with
      | nil => simp [Unmoved]
      | cons first rest =>
          have merged : (first :: rest).foldl change none =
              some (rest.foldl onMatch (onCreate first)) :=
            foldl_change_some rest (onCreate first)
          simp [merged, Unmoved]

section Calls

variable (world : World)

/-- The dict is the one of the element. -/
def Describes (element : Element) (created : CreatedRelationship Edge) : Prop :=
  ∃ input, entry world element = some (created.key, input)

/-- What an element changes that is merged and answered. -/
def effect (graph : EdgeGraph) (element : Element) : EdgeGraph :=
  match entry world element with
  | some merged => updateAt change graph merged
  | none => graph

/-- What is written for an element that fails. -/
def lastWritten (element : Element) : List (EdgeKey × RelationshipInput) :=
  match entry world element, world.fates element.2 with
  | some merged, .lost => [merged]
  | _, _ => []

variable {world : World}

theorem foldl_effect (elements : List Element) (graph : EdgeGraph) :
    elements.foldl (effect world) graph =
      (elements.filterMap (entry world)).foldl (updateAt change) graph := by
  induction elements generalizing graph with
  | nil => rfl
  | cons element elements induction =>
      rw [List.foldl_cons, induction, List.filterMap_cons, effect]
      cases entry world element <;> rfl

theorem written_of_fails {done rest : List Element} {element : Element}
    (before : ∀ other ∈ done, Lands world other) (fails : ¬ Lands world element) :
    written world (done ++ element :: rest) =
      done.filterMap (entry world) ++ lastWritten world element := by
  induction done with
  | nil =>
      simp only [List.nil_append, List.filterMap_nil, written, lastWritten]
      cases is : entry world element with
      | none => rfl
      | some merged =>
          cases fate : world.fates element.2 with
          | answered => exact absurd ⟨by simp [is], fate⟩ fails
          | refused => rfl
          | lost => rfl
  | cons first done induction =>
      obtain ⟨merges, answered⟩ := before first (by simp)
      obtain ⟨merged, is⟩ := Option.isSome_iff_exists.mp merges
      have following := induction fun other member => before other (by simp [member])
      simp only [List.cons_append, written, is, answered, following, List.filterMap_cons]

/-- What is known of an element whose query merges an edge. -/
theorem entry_eq_some {element : Element} {key : EdgeKey} {input : RelationshipInput}
    (is : entry world element = some (key, input)) :
    ∃ source target relType,
      element.1.required = some (source, target, relType) ∧
        world.readId source = some key.sourceId ∧ world.readId target = some key.targetId ∧
          storedEdgeType relType = some key.relationshipType ∧ world.hasEnds key = true ∧
            input = world.input element element.1.confidence.join := by
  unfold entry at is
  split at is
  · cases is
  · rename_i source target relType required
    split at is
    · rename_i sourceId targetId stored readSource readTarget safe
      split at is
      · rename_i ends
        cases is
        exact ⟨source, target, relType, required, readSource, readTarget, safe, ends, rfl⟩
      · cases is
    · cases is

/-- The call for an element that is merged where its query is carried out. -/
theorem createElement_of_entry {element : Element} {key : EdgeKey} {input : RelationshipInput}
    (connected : world.connected = true) (is : entry world element = some (key, input))
    (graph : EdgeGraph) :
    createElement world element graph =
      match world.fates element.2 with
      | .answered =>
          (updateAt change graph (key, input),
            .ok { key := key, edge := mergedEdge (graph key) input })
      | .refused => (graph, .error .externalService)
      | .lost => (updateAt change graph (key, input), .error .externalService) := by
  obtain ⟨source, target, relType, required, readSource, readTarget, safe, ends, rfl⟩ :=
    entry_eq_some is
  obtain ⟨sourceId, targetId, relationshipType⟩ := key
  simp only [createElement, required, readSource, readTarget, createRelationship, connected,
    safe, Bool.not_true, Bool.false_eq_true, if_false]
  set key : EdgeKey := ⟨sourceId, targetId, relationshipType⟩
  set input := world.input element element.1.confidence.join
  have merges : merge world key input graph = updateAt change graph (key, input) := by
    rw [merge, ends]
    rfl
  cases world.fates element.2 with
  | answered =>
      have sent : Attempt.remote .answered RelationshipFailure.externalService
          (merge world key input) graph = (updateAt change graph (key, input), .ok ()) := by
        rw [← merges]
        rfl
      have found : updateAt change graph (key, input) key =
          some (mergedEdge (graph key) input) := by
        simp [updateAt, change]
      refine (Attempt.bind_of_ok sent).trans ?_
      rw [Attempt.read_bind, ends, if_pos rfl, found]
      rfl
  | refused => rfl
  | lost =>
      rw [← merges]
      rfl

/-- `create_relationship` without both ends. -/
theorem createRelationship_of_missing {index : Nat} {source target : Uuid}
    {relationshipType relType : Text} (connected : world.connected = true)
    (safe : storedEdgeType relationshipType = some relType)
    (missing : world.hasEnds ⟨source, target, relType⟩ = false) (input : RelationshipInput) :
    ∃ failure, ∀ graph,
      createRelationship world index source target relationshipType input graph =
        (graph, .error failure) := by
  have nothing : ∀ graph, merge world ⟨source, target, relType⟩ input graph = graph := by
    intro graph
    rw [merge, missing]
    rfl
  simp only [createRelationship, connected, safe, Bool.not_true, Bool.false_eq_true, if_false]
  cases world.fates index with
  | answered =>
      refine ⟨.notFound source target, fun graph => ?_⟩
      have sent : Attempt.remote .answered RelationshipFailure.externalService
          (merge world ⟨source, target, relType⟩ input) graph = (graph, .ok ()) :=
        congrArg (fun after => (after, Except.ok ())) (nothing graph)
      refine (Attempt.bind_of_ok sent).trans ?_
      rw [Attempt.read_bind, missing]
      rfl
  | refused => exact ⟨.externalService, fun _ => rfl⟩
  | lost =>
      exact ⟨.externalService,
        fun graph => congrArg (fun after => (after, Except.error _)) (nothing graph)⟩

theorem createElement_of_none {element : Element} (connected : world.connected = true)
    (nothing : entry world element = none) :
    ∃ failure, ∀ graph, createElement world element graph = (graph, .error failure) := by
  unfold entry at nothing
  unfold createElement
  cases required : element.1.required with
  | none => exact ⟨.missingKeysAt element.2, fun _ => rfl⟩
  | some values =>
      obtain ⟨source, target, relType⟩ := values
      simp only [required] at nothing
      cases readSource : world.readId source with
      | none => exact ⟨.badlyFormed source, fun _ => by simp only [readSource]; rfl⟩
      | some sourceId =>
          cases readTarget : world.readId target with
          | none => exact ⟨.badlyFormed target, fun _ => by simp only [readSource, readTarget]; rfl⟩
          | some targetId =>
              simp only [readSource, readTarget] at nothing ⊢
              cases safe : storedEdgeType relType with
              | none =>
                  refine ⟨.unsafeEdgeType relType, fun _ => ?_⟩
                  simp only [createRelationship, connected, safe]
                  rfl
              | some stored =>
                  simp only [safe] at nothing
                  exact createRelationship_of_missing connected safe (by simpa using nothing) _

theorem createElement_succeeds {element : Element} (connected : world.connected = true)
    (lands : Lands world element) :
    Attempt.Succeeds (Describes world) (effect world) (createElement world) element := by
  intro graph
  obtain ⟨merges, answered⟩ := lands
  obtain ⟨⟨key, input⟩, is⟩ := Option.isSome_iff_exists.mp merges
  refine ⟨{ key := key, edge := mergedEdge (graph key) input }, ⟨input, is⟩, ?_⟩
  rw [createElement_of_entry connected is, answered, effect, is]

/-- An element that does not land ends the call; a lost answer leaves it merged. -/
theorem createElement_fails {element : Element} (connected : world.connected = true)
    (fails : ¬ Lands world element) :
    ∃ failure, ∀ graph, createElement world element graph =
      ((lastWritten world element).foldl (updateAt change) graph, .error failure) := by
  cases is : entry world element with
  | none =>
      obtain ⟨failure, failed⟩ := createElement_of_none connected is
      exact ⟨failure, fun graph => by rw [failed, lastWritten, is]; rfl⟩
  | some merged =>
      refine ⟨.externalService, fun graph => ?_⟩
      rw [createElement_of_entry connected is, lastWritten, is]
      cases fate : world.fates element.2 with
      | answered => exact absurd ⟨by simp [is], fate⟩ fails
      | refused => rfl
      | lost => rfl

end Calls

/-- Where some element does not land, what is written before it says nothing new. -/
def NothingWritten (world : World) (relationships : List RelationshipDict) (graph : EdgeGraph) :
    Prop :=
  ∀ key, Unmoved (graph key) (itemsAt key (written world relationships.zipIdx))

theorem createRelationshipBulk_atomicFold_iff (world : World)
    (relationships : List RelationshipDict) (graph : EdgeGraph) :
    Attempt.AtomicFold contents (Describes world) (createRelationshipBulk world relationships)
        (createElement world) relationships.zipIdx graph ↔
      (world.connected = true → (∃ element ∈ relationships.zipIdx, ¬ Lands world element) →
        NothingWritten world relationships graph) := by
  cases connected : world.connected with
  | false =>
      have bulk : createRelationshipBulk world relationships graph =
          (graph, .error .notConnected) := by
        rw [createRelationshipBulk, connected]
        rfl
      rw [Attempt.atomicFold_of_error bulk]
      simp
  | true =>
      have bulk : createRelationshipBulk world relationships graph =
          Attempt.collect (createElement world) relationships.zipIdx graph := by
        rw [createRelationshipBulk, connected]
        rfl
      rw [forall_prop_of_true rfl]
      rcases forall_or_first (P := Lands world) relationships.zipIdx with
        all | ⟨done, element, rest, parts, before, fails⟩
      · obtain ⟨values, described, folded⟩ := Attempt.collect_of_succeeds
          (fun element member => createElement_succeeds connected (all element member)) graph
        rw [Attempt.atomicFold_of_ok (bulk.trans folded) described folded]
        refine iff_of_true rfl ?_
        rintro ⟨element, member, fails⟩
        exact absurd (all element member) fails
      · obtain ⟨failure, failed⟩ := createElement_fails connected fails
        have folded := Attempt.collect_of_fails rest
          (fun other member => createElement_succeeds connected (before other member)) failed graph
        rw [← parts] at folded
        have someFails : ∃ element ∈ relationships.zipIdx, ¬ Lands world element :=
          ⟨element, parts ▸ by simp, fails⟩
        rw [Attempt.atomicFold_of_error (bulk.trans folded), forall_prop_of_true someFails,
          NothingWritten, funext_iff, foldl_effect, ← List.foldl_append,
          ← written_of_fails before fails, ← parts]
        refine forall_congr' fun key => ?_
        rw [contents, contents, foldl_updateAt]
        exact foldl_change_content_eq_iff (graph key) _

end FalkorDB

/-- On PostgreSQL a bulk call is the fold of single ones where an element is not
stored, or where the first assertions stand; on FalkorDB where every element
lands, or where nothing is written before one that does not. -/
theorem createRelationshipBulk_isFold_iff (relationships : List RelationshipDict)
    (world : Postgres.World) (table : Postgres.EdgeTable)
    (falkorWorld : FalkorDB.World) (graph : FalkorDB.EdgeGraph) :
    (Attempt.AtomicFold Postgres.contents (Postgres.Describes world)
        (Postgres.createRelationshipBulk world relationships) (Postgres.createElement world)
        relationships.zipIdx table ↔
      ((∀ element ∈ relationships.zipIdx, (Postgres.entry world element).isSome) →
        Postgres.FirstAssertionsStand world relationships table)) ∧
    (Attempt.AtomicFold FalkorDB.contents (FalkorDB.Describes falkorWorld)
        (FalkorDB.createRelationshipBulk falkorWorld relationships)
        (FalkorDB.createElement falkorWorld) relationships.zipIdx graph ↔
      (falkorWorld.connected = true →
        (∃ element ∈ relationships.zipIdx, ¬ FalkorDB.Lands falkorWorld element) →
          FalkorDB.NothingWritten falkorWorld relationships graph)) :=
  ⟨Postgres.createRelationshipBulk_atomicFold_iff world relationships table,
    FalkorDB.createRelationshipBulk_atomicFold_iff falkorWorld relationships graph⟩

/-- An element with the required keys alone. -/
def plainDict : RelationshipDict :=
  { sourceId := some (.uuid 1)
    targetId := some (.uuid 2)
    relationshipType := some ['k']
    properties := none
    confidence := none
    validFrom := none
    validTo := none }

/-- Every entity exists. -/
def plainWorld : EdgeWorld :=
  { parseId := fun _ => none
    hasEntity := fun _ => true
    newId := fun index => index
    now := fun _ => 5 }

/-- Into empty stores: PostgreSQL leaves an edge without a start, which a single
call starts at the instant; FalkorDB leaves the first edge when the second
element has no keys. -/
theorem createRelationshipBulk_notFold :
    ¬ Attempt.AtomicFold Postgres.contents
        (Postgres.Describes { plainWorld with answers := fun _ => true })
        (Postgres.createRelationshipBulk { plainWorld with answers := fun _ => true } [plainDict])
        (Postgres.createElement { plainWorld with answers := fun _ => true })
        [plainDict].zipIdx (fun _ => none) ∧
      ¬ Attempt.AtomicFold FalkorDB.contents
        (FalkorDB.Describes
          { plainWorld with connected := true, fates := fun _ => .answered })
        (FalkorDB.createRelationshipBulk
          { plainWorld with connected := true, fates := fun _ => .answered }
          [plainDict, { plainDict with sourceId := none }])
        (FalkorDB.createElement { plainWorld with connected := true, fates := fun _ => .answered })
        [plainDict, { plainDict with sourceId := none }].zipIdx (fun _ => none) := by
  constructor
  · rw [Postgres.createRelationshipBulk_atomicFold_iff]
    intro stands
    have upheld := stands (by decide) ⟨1, 2, ['k']⟩ _ rfl
    obtain ⟨start, is, _⟩ := upheld.validFrom _ List.mem_cons_self
    cases is
  · rw [FalkorDB.createRelationshipBulk_atomicFold_iff]
    intro unwritten
    have unmoved := unwritten rfl
      ⟨({ plainDict with sourceId := none }, 1), by decide, by decide⟩ ⟨1, 2, ['k']⟩
    cases unmoved

end OpenZync.Graph
