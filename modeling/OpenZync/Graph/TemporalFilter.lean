import Mathlib.Data.Set.List
import OpenZync.Graph.IsoOrder

/-!
# The temporal filter of FalkorDB

FalkorDB keeps the bounds of an edge as the ISO texts that `create_relationship`
was given and compares them, as texts, with the ISO text of `as_of`.  The
comparisons are those of the instants where all offsets are the same.
-/

namespace OpenZync.Graph

open OpenZync.Library OpenZync.Repositories

/-- An edge with what the traversals read of it; its bounds are instants, datetimes
or what a store keeps of them. -/
structure DatedEdge (β : Type) where
  source : Uuid
  target : Uuid
  relType : Text
  validFrom : Option β
  validTo : Option β
  invalidAt : Option β
deriving DecidableEq

abbrev TemporalEdge := DatedEdge Time

namespace DatedEdge

def map {β γ : Type} (f : β → γ) (edge : DatedEdge β) : DatedEdge γ :=
  { source := edge.source
    target := edge.target
    relType := edge.relType
    validFrom := edge.validFrom.map f
    validTo := edge.validTo.map f
    invalidAt := edge.invalidAt.map f }

/-- The effective-at filter. -/
def EffectiveAt (asOf : Time) (edge : DatedEdge Time) : Prop :=
  (∀ invalidAt ∈ edge.invalidAt, asOf < invalidAt) ∧
    (∀ validFrom ∈ edge.validFrom, validFrom ≤ asOf) ∧ ∀ validTo ∈ edge.validTo, asOf ≤ validTo

instance (asOf : Time) (edge : DatedEdge Time) : Decidable (edge.EffectiveAt asOf) :=
  inferInstanceAs (Decidable (_ ∧ _))

variable {β : Type}

/-- The edge has one of the types, if any are given. -/
def OfTypes (edgeTypes : Option (List Text)) (edge : DatedEdge β) : Prop :=
  ∀ types ∈ edgeTypes, edge.relType ∈ types

instance (edgeTypes : Option (List Text)) (edge : DatedEdge β) :
    Decidable (edge.OfTypes edgeTypes) :=
  inferInstanceAs (Decidable (∀ types ∈ edgeTypes, _))

/-- The entity at the other end, in either direction. -/
def otherEnd (edge : DatedEdge β) (id : Uuid) : Option Uuid :=
  if edge.source = id then some edge.target
  else if edge.target = id then some edge.source
  else none

end DatedEdge

namespace FalkorDB

/-- An edge with its bounds as they are stored. -/
abbrev StoredEdge := DatedEdge Text

/-- The arguments of `create_relationship` that the filter depends on. -/
structure BoundsCall where
  source : Uuid
  target : Uuid
  relType : Text
  validFrom : Option AwareDatetime
  validTo : Option AwareDatetime

/-- The edges that the pattern of the `MERGE` matches. -/
def BoundsCall.Matches (call : BoundsCall) (edge : StoredEdge) : Prop :=
  edge.source = call.source ∧ edge.target = call.target ∧ edge.relType = call.relType

instance (call : BoundsCall) (edge : StoredEdge) : Decidable (call.Matches edge) :=
  inferInstanceAs (Decidable (_ ∧ _))

/-- `ON CREATE SET` -/
def createdBounds (call : BoundsCall) : StoredEdge :=
  { source := call.source
    target := call.target
    relType := call.relType
    validFrom := call.validFrom.map AwareDatetime.isoformat
    validTo := call.validTo.map AwareDatetime.isoformat
    invalidAt := none }

/-- `ON MATCH SET` -/
def matchedBounds (call : BoundsCall) (edge : StoredEdge) : StoredEdge :=
  { edge with
    validFrom := (call.validFrom.map AwareDatetime.isoformat).or edge.validFrom
    validTo := (call.validTo.map AwareDatetime.isoformat).or edge.validTo }

/-- The bounds that `create_relationship` writes. -/
def createRelationshipBounds (edges : List StoredEdge) (call : BoundsCall) : List StoredEdge :=
  if edges.any fun edge => decide (call.Matches edge) then
    edges.map fun edge => if call.Matches edge then matchedBounds call edge else edge
  else edges ++ [createdBounds call]

/-- `expire_relationships_matching`, which writes `invalid_at` where it is null. -/
def expireBounds (edges : List StoredEdge) (call : BoundsCall) (atTime : AwareDatetime) :
    List StoredEdge :=
  edges.map fun edge =>
    if call.Matches edge ∧ edge.invalidAt = none then
      { edge with invalidAt := some atTime.isoformat }
    else edge

/-- `temporal_clause` of `traverse`. -/
def temporalClause (asOf : Text) (edge : StoredEdge) : Bool :=
  edge.invalidAt.all (fun invalidAt => (compare invalidAt asOf).isGT) &&
    edge.validFrom.all (fun validFrom => (compare validFrom asOf).isLE) &&
      edge.validTo.all fun validTo => (compare asOf validTo).isLE

/-- An edge with the datetimes that its bounds were given as. -/
abbrev SpelledEdge := DatedEdge AwareDatetime

end FalkorDB

/-- What FalkorDB keeps of the edge. -/
def DatedEdge.stored (edge : DatedEdge AwareDatetime) : DatedEdge Text :=
  edge.map AwareDatetime.isoformat

/-- The edge by the instants of its bounds. -/
def DatedEdge.temporal (edge : DatedEdge AwareDatetime) : DatedEdge Time :=
  edge.map AwareDatetime.instant

namespace FalkorDB

/-- What the two writers of bounds do. -/
inductive BoundsWrite where
  | create (call : BoundsCall)
  | expire (call : BoundsCall) (atTime : AwareDatetime)

def writeBounds (edges : List StoredEdge) : BoundsWrite → List StoredEdge
  | .create call => createRelationshipBounds edges call
  | .expire call atTime => expireBounds edges call atTime

theorem spelled_of_writes (writes : List BoundsWrite) :
    ∃ edges : List SpelledEdge, writes.foldl writeBounds [] = edges.map DatedEdge.stored := by
  have spelled : ∀ edge ∈ writes.foldl writeBounds [], edge ∈ Set.range DatedEdge.stored := by
    induction writes using List.reverseRecOn with
    | nil => simp
    | append_singleton writes write induction =>
        rw [List.foldl_append, List.foldl_cons, List.foldl_nil]
        cases write with
        | create call =>
            have bound : ∀ given : Option AwareDatetime, ∀ kept : Option AwareDatetime,
                (given.map AwareDatetime.isoformat).or (kept.map AwareDatetime.isoformat) =
                  (given.or kept).map AwareDatetime.isoformat := by
              intro given kept
              cases given <;> rfl
            rw [writeBounds, createRelationshipBounds]
            split
            · intro edge member
              obtain ⟨before, stored, rfl⟩ := List.mem_map.mp member
              obtain ⟨old, rfl⟩ := induction before stored
              split
              · exact ⟨{ old with validFrom := call.validFrom.or old.validFrom,
                                  validTo := call.validTo.or old.validTo },
                  by simp [DatedEdge.stored, DatedEdge.map, matchedBounds, bound]⟩
              · exact ⟨old, rfl⟩
            · intro edge member
              rcases List.mem_append.mp member with stored | new
              · exact induction edge stored
              · rw [List.mem_singleton.mp new]
                exact ⟨⟨call.source, call.target, call.relType, call.validFrom, call.validTo,
                  none⟩, rfl⟩
        | expire call atTime =>
            intro edge member
            obtain ⟨before, stored, rfl⟩ := List.mem_map.mp member
            obtain ⟨old, rfl⟩ := induction before stored
            split
            · exact ⟨{ old with invalidAt := some atTime }, rfl⟩
            · exact ⟨old, rfl⟩
  have listed : writes.foldl writeBounds [] ∈ Set.range (List.map DatedEdge.stored) := by
    rw [Set.range_list_map]
    exact spelled
  obtain ⟨edges, same⟩ := listed
  exact ⟨edges, same.symm⟩

section Filter

variable {instant : Time}

/-- A way to write an instant. -/
structure Spelling (instant : Time) extends AwareDatetime where
  denotes : toAwareDatetime.instant = instant

/-- The edges that a query of `traverse` follows, as far as time decides. -/
def selectedEdges (edges : List SpelledEdge) (asOf : AwareDatetime) : List SpelledEdge :=
  edges.filter fun edge => temporalClause asOf.isoformat edge.stored

/-- Every comparison of the filter is that of the instants. -/
structure ComparesInstants (edge : SpelledEdge) (asOf : AwareDatetime) : Prop where
  invalidAt : ∀ invalidAt ∈ edge.invalidAt,
    invalidAt.TextLe asOf ↔ invalidAt.instant ≤ asOf.instant
  validFrom : ∀ validFrom ∈ edge.validFrom,
    validFrom.TextLe asOf ↔ validFrom.instant ≤ asOf.instant
  validTo : ∀ validTo ∈ edge.validTo, asOf.TextLe validTo ↔ asOf.instant ≤ validTo.instant

/-- The filter selects the same edges for all the spellings of an instant, and its
comparisons are chronological. -/
def DependsOnInstant (edges : List SpelledEdge) (asOfs : Set (Spelling instant)) : Prop :=
  (∀ asOf ∈ asOfs, ∀ other ∈ asOfs,
    selectedEdges edges asOf.toAwareDatetime = selectedEdges edges other.toAwareDatetime) ∧
  ∀ asOf ∈ asOfs, ∀ edge ∈ edges, ComparesInstants edge asOf.toAwareDatetime

/-- The offsets of the bounds keep their order with `as_of`. -/
structure OffsetsHarmless (edge : SpelledEdge) (asOf : AwareDatetime) : Prop where
  invalidAt : ∀ invalidAt ∈ edge.invalidAt, invalidAt.OffsetsKeepOrder asOf
  validFrom : ∀ validFrom ∈ edge.validFrom, validFrom.OffsetsKeepOrder asOf
  validTo : ∀ validTo ∈ edge.validTo, asOf.OffsetsKeepOrder validTo

theorem comparesInstants_iff (edge : SpelledEdge) (asOf : AwareDatetime) :
    ComparesInstants edge asOf ↔ OffsetsHarmless edge asOf := by
  constructor
  · rintro ⟨invalidAt, validFrom, validTo⟩
    exact ⟨fun bound member => (bound.textLe_iff_instants asOf).mp (invalidAt bound member),
      fun bound member => (bound.textLe_iff_instants asOf).mp (validFrom bound member),
      fun bound member => (asOf.textLe_iff_instants bound).mp (validTo bound member)⟩
  · rintro ⟨invalidAt, validFrom, validTo⟩
    exact ⟨fun bound member => (bound.textLe_iff_instants asOf).mpr (invalidAt bound member),
      fun bound member => (bound.textLe_iff_instants asOf).mpr (validFrom bound member),
      fun bound member => (asOf.textLe_iff_instants bound).mpr (validTo bound member)⟩

theorem temporalClause_iff {edge : SpelledEdge} {asOf : AwareDatetime}
    (compares : ComparesInstants edge asOf) :
    temporalClause asOf.isoformat edge.stored = true ↔
      edge.temporal.EffectiveAt asOf.instant := by
  have ended : ∀ bound ∈ edge.invalidAt,
      ((compare bound.isoformat asOf.isoformat).isGT = true ↔ asOf.instant < bound.instant) := by
    intro bound member
    have kept := compares.invalidAt bound member
    rw [← not_le, ← kept, AwareDatetime.TextLe]
    cases compare bound.isoformat asOf.isoformat <;> simp
  have begun := compares.validFrom
  have lasting := compares.validTo
  simp only [AwareDatetime.TextLe] at begun lasting
  simp only [temporalClause, DatedEdge.stored, DatedEdge.temporal, DatedEdge.map, DatedEdge.EffectiveAt,
    Bool.and_eq_true, Option.all_map, Option.all_eq_true, Option.mem_map,
    forall_exists_index, and_imp, forall_apply_eq_imp_iff₂, and_assoc]
  refine and_congr ?_ (and_congr ?_ ?_)
  · exact forall₂_congr ended
  · exact forall₂_congr begun
  · exact forall₂_congr lasting

theorem dependsOnInstant_iff (edges : List SpelledEdge) (asOfs : Set (Spelling instant)) :
    DependsOnInstant edges asOfs ↔
      ∀ asOf ∈ asOfs, ∀ edge ∈ edges, OffsetsHarmless edge asOf.toAwareDatetime := by
  constructor
  · rintro ⟨_, compares⟩ asOf asked edge member
    exact (comparesInstants_iff edge _).mp (compares asOf asked edge member)
  · intro harmless
    have compares : ∀ asOf ∈ asOfs, ∀ edge ∈ edges,
        ComparesInstants edge asOf.toAwareDatetime :=
      fun asOf asked edge member =>
        (comparesInstants_iff edge _).mpr (harmless asOf asked edge member)
    refine ⟨?_, compares⟩
    intro asOf asked other asked'
    apply List.filter_congr
    intro edge member
    rw [Bool.eq_iff_iff, temporalClause_iff (compares asOf asked edge member),
      temporalClause_iff (compares other asked' edge member), asOf.denotes, other.denotes]

/-- The offset of every bound is that of `as_of`, as where everything is in UTC. -/
def SameOffset (edge : SpelledEdge) (asOf : AwareDatetime) : Prop :=
  (∀ invalidAt ∈ edge.invalidAt, invalidAt.ahead = asOf.ahead) ∧
    (∀ validFrom ∈ edge.validFrom, validFrom.ahead = asOf.ahead) ∧
    ∀ validTo ∈ edge.validTo, validTo.ahead = asOf.ahead

theorem SameOffset.harmless {edge : SpelledEdge} {asOf : AwareDatetime}
    (same : SameOffset edge asOf) : OffsetsHarmless edge asOf :=
  ⟨fun bound member => .of_same (same.1 bound member),
    fun bound member => .of_same (same.2.1 bound member),
    fun bound member => .of_same (same.2.2 bound member).symm⟩

end Filter

/-- An edge that is valid from three o'clock in UTC. -/
def fromThree : SpelledEdge :=
  { source := 1
    target := 2
    relType := "works_at".toList
    validFrom := some
      { fields := ⟨2024, 1, 1, 3, 0, 0, 0⟩
        offset := ⟨false, 0, 0, 0, 0⟩
        fields_valid := by decide
        offset_valid := by decide }
    validTo := none
    invalidAt := none }

/-- Half past midnight in UTC. -/
def halfPastMidnight : AwareDatetime :=
  { fields := ⟨2024, 1, 1, 0, 30, 0, 0⟩
    offset := ⟨false, 0, 0, 0, 0⟩
    fields_valid := by decide
    offset_valid := by decide }

/-- The same instant, five hours ahead of UTC. -/
def halfPastFive : Spelling halfPastMidnight.instant :=
  { fields := ⟨2024, 1, 1, 5, 30, 0, 0⟩
    offset := ⟨false, 5, 0, 0, 0⟩
    fields_valid := by decide
    offset_valid := by decide
    denotes := by decide }

/-- Written five hours ahead, the instant selects an edge that is not valid yet. -/
theorem dependsOnInstant_fiveHoursAhead :
    ¬DependsOnInstant [fromThree] ({⟨halfPastMidnight, rfl⟩, halfPastFive} : Set _) := by
  rintro ⟨same, _⟩
  have later : temporalClause halfPastMidnight.isoformat fromThree.stored = false := by decide
  have started :
      temporalClause halfPastFive.toAwareDatetime.isoformat fromThree.stored = true := by decide
  have none : selectedEdges [fromThree] halfPastMidnight = [] := by simp [selectedEdges, later]
  have one : selectedEdges [fromThree] halfPastFive.toAwareDatetime = [fromThree] := by
    simp [selectedEdges, started]
  have impossible := same _ (.inl rfl) _ (.inr rfl)
  rw [none, one] at impossible
  cases impossible

end FalkorDB

end OpenZync.Graph
