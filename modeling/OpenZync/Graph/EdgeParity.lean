import Mathlib.Data.List.Induction
import Mathlib.Order.Bounds.Basic
import OpenZync.Graph.EdgeUpsert

/-!
# Re-asserted edges

What a sequence of creates and expiries leaves of an edge in the two stores.
PostgreSQL keeps the union of the asserted ranges and opens a new row after an
expiry.  FalkorDB overwrites the bounds with the latest ones given and never
clears `invalid_at`, so it agrees only where the creates agree among themselves
and the edge was never expired.
-/

namespace OpenZync.Graph

/-- The bounds and the confidence of an active edge. -/
structure Bounds where
  validFrom : Option Time
  validTo : Option Time
  confidence : ℚ

def FalkorDB.Edge.bounds (edge : FalkorDB.Edge) : Bounds :=
  { validFrom := edge.validFrom
    validTo := edge.validTo
    confidence := edge.confidence }

def Postgres.Row.bounds (row : Postgres.Row) : Bounds :=
  { validFrom := some row.validFrom
    validTo := row.validTo
    confidence := row.confidence }

/-- The union of the asserted ranges, with the greatest confidence. -/
structure IsUnion (inputs : List RelationshipInput) (bounds : Bounds) : Prop where
  validFrom : ∃ start, bounds.validFrom = some start ∧
    IsLeast { instant | ∃ input ∈ inputs, input.startsAt = instant } start
  open_iff : bounds.validTo = none ↔ ∃ input ∈ inputs, input.validTo = none
  validTo : ∀ finish, bounds.validTo = some finish →
    IsGreatest { instant | ∃ input ∈ inputs, input.validTo = some instant } finish
  confidence : IsGreatest { certainty | ∃ input ∈ inputs, input.certainty = certainty }
    bounds.confidence

theorem IsUnion.unique {inputs : List RelationshipInput} {first second : Bounds}
    (left : IsUnion inputs first) (right : IsUnion inputs second) : first = second := by
  obtain ⟨start, starts, least⟩ := left.validFrom
  obtain ⟨start', starts', least'⟩ := right.validFrom
  have sameStart : first.validFrom = second.validFrom := by
    rw [starts, starts', least.unique least']
  have sameEnd : first.validTo = second.validTo := by
    have openAlike : first.validTo = none ↔ second.validTo = none :=
      left.open_iff.trans right.open_iff.symm
    cases ends : first.validTo with
    | none => exact (openAlike.mp ends).symm
    | some finish =>
        cases ends' : second.validTo with
        | none => exact absurd (openAlike.mpr ends') (by simp [ends])
        | some finish' => rw [(left.validTo finish ends).unique (right.validTo finish' ends')]
  have sameConfidence := left.confidence.unique right.confidence
  cases first
  cases second
  simp only at sameStart sameEnd sameConfidence
  rw [sameStart, sameEnd, sameConfidence]

theorem IsUnion.of_perm {inputs order : List RelationshipInput} {bounds : Bounds}
    (union : IsUnion order bounds) (perm : order.Perm inputs) : IsUnion inputs bounds := by
  obtain ⟨validFrom, open_iff, validTo, confidence⟩ := union
  simp only [perm.mem_iff] at validFrom open_iff validTo confidence
  exact ⟨validFrom, open_iff, validTo, confidence⟩

theorem attained_snoc {α : Type} {Attains : RelationshipInput → α → Prop}
    {inputs : List RelationshipInput} {input : RelationshipInput} {value : α}
    (single : ∀ attained, Attains input attained ↔ attained = value) :
    { attained | ∃ given ∈ inputs ++ [input], Attains given attained } =
      insert value { attained | ∃ given ∈ inputs, Attains given attained } := by
  ext attained
  simp only [List.mem_append, List.mem_singleton, Set.mem_ofPred_eq, Set.mem_insert_iff]
  constructor
  · rintro ⟨given, member | rfl, attains⟩
    · exact .inr ⟨given, member, attains⟩
    · exact .inl ((single attained).mp attains)
  · rintro (same | ⟨given, member, attains⟩)
    · exact ⟨input, .inr rfl, (single attained).mpr same⟩
    · exact ⟨given, .inl member, attains⟩

theorem isUnion_singleton (input : RelationshipInput) :
    IsUnion [input] (Postgres.insertion input).bounds := by
  refine ⟨⟨input.startsAt, rfl, ?_⟩, by simp [Postgres.insertion, Postgres.Row.bounds], ?_, ?_⟩
  · simp
  · intro finish ends
    have given : input.validTo = some finish := ends
    simp [given]
  · simp [Postgres.insertion, Postgres.Row.bounds]

theorem Postgres.unionEnd_eq_none {stored given : Option Time} :
    unionEnd stored given = none ↔ stored = none ∨ given = none := by
  cases stored <;> cases given <;> simp [unionEnd]

theorem Postgres.unionEnd_eq_some {stored given : Option Time} {finish : Time}
    (ends : unionEnd stored given = some finish) :
    ∃ former latter, stored = some former ∧ given = some latter ∧ finish = max former latter := by
  cases stored with
  | none => cases given <;> simp [unionEnd] at ends
  | some former =>
      cases given with
      | none => simp [unionEnd] at ends
      | some latter => exact ⟨former, latter, rfl, rfl, by simpa [unionEnd] using ends.symm⟩

/-- The upsert unites the stored range with the given one. -/
theorem IsUnion.doUpdate {inputs : List RelationshipInput} {row : Postgres.Row}
    (union : IsUnion inputs row.bounds) (input : RelationshipInput) :
    IsUnion (inputs ++ [input]) (Postgres.doUpdate row input).bounds := by
  obtain ⟨⟨start, starts, least⟩, open_iff, validTo, confidence⟩ := union
  have stored : row.validFrom = start := Option.some.inj starts
  subst stored
  refine ⟨⟨min row.validFrom input.startsAt, rfl, ?_⟩, ?_, ?_, ?_⟩
  · have single : ∀ attained, input.startsAt = attained ↔ attained = input.startsAt :=
      fun _ => eq_comm
    rw [attained_snoc single, min_comm]
    exact least.insert _
  · calc (Postgres.doUpdate row input).bounds.validTo = none
        ↔ row.validTo = none ∨ input.validTo = none := Postgres.unionEnd_eq_none
      _ ↔ (∃ given ∈ inputs, given.validTo = none) ∨ input.validTo = none :=
          or_congr_left open_iff
      _ ↔ ∃ given ∈ inputs ++ [input], given.validTo = none := by
          simp [or_and_right, exists_or]
  · intro finish ends
    obtain ⟨former, latter, stored, given, rfl⟩ := Postgres.unionEnd_eq_some ends
    have single : ∀ attained, input.validTo = some attained ↔ attained = latter := by
      simp [given, eq_comm]
    rw [attained_snoc single, max_comm]
    exact (validTo former stored).insert _
  · have single : ∀ attained, input.certainty = attained ↔ attained = input.certainty :=
      fun _ => eq_comm
    rw [attained_snoc single]
    have greatest := confidence.insert input.certainty
    rw [max_comm] at greatest
    exact greatest

theorem Postgres.run_snoc (operations : List EdgeOperation) (operation : EdgeOperation) :
    run (operations ++ [operation]) = perform (run operations) operation := by
  simp [run]

theorem FalkorDB.run_snoc (operations : List EdgeOperation) (operation : EdgeOperation) :
    run (operations ++ [operation]) = perform (run operations) operation := by
  simp [run]

theorem Postgres.run_creates {inputs : List RelationshipInput} (nonempty : inputs ≠ []) :
    ∃ row, run (inputs.map .create) = [row] ∧ row.isActive = true ∧
      IsUnion inputs row.bounds := by
  induction inputs using List.reverseRecOn with
  | nil => exact absurd rfl nonempty
  | append_singleton inputs input induction =>
      rw [List.map_append, List.map_singleton, run_snoc]
      by_cases first : inputs = []
      · subst first
        exact ⟨insertion input, rfl, rfl, isUnion_singleton input⟩
      · obtain ⟨row, rows, active, union⟩ := induction first
        refine ⟨doUpdate row input, ?_, active, union.doUpdate input⟩
        rw [rows, perform, upsert, if_pos active]

theorem Postgres.active_creates {inputs : List RelationshipInput} (nonempty : inputs ≠ []) :
    ∃ row, active (inputs.map .create) = some row ∧ IsUnion inputs row.bounds := by
  obtain ⟨row, rows, isActive, union⟩ := run_creates nonempty
  refine ⟨row, ?_, union⟩
  rw [active, rows, List.find?_cons, isActive]

/-- A stored bound that some input gave, or that none did. -/
structure GivenBy (bound : RelationshipInput → Option Time) (inputs : List RelationshipInput)
    (stored : Option Time) : Prop where
  attained : ∀ instant, stored = some instant → ∃ input ∈ inputs, bound input = some instant
  omitted : stored = none → ∀ input ∈ inputs, bound input = none

theorem givenBy_singleton (bound : RelationshipInput → Option Time) (input : RelationshipInput) :
    GivenBy bound [input] (bound input) := by
  constructor
  · intro instant given
    exact ⟨input, by simp, given⟩
  · simp

theorem GivenBy.overwrite {bound : RelationshipInput → Option Time}
    {inputs : List RelationshipInput} {stored : Option Time}
    (given : GivenBy bound inputs stored) (input : RelationshipInput) :
    GivenBy bound (inputs ++ [input])
      (if (bound input).isSome then bound input else stored) := by
  cases latest : bound input with
  | some instant =>
      refine ⟨?_, by simp⟩
      intro instant' same
      exact ⟨input, by simp, by simpa [latest] using same⟩
  | none =>
      constructor
      · intro instant same
        obtain ⟨former, member, gave⟩ := given.attained instant (by simpa using same)
        exact ⟨former, by simp [member], gave⟩
      · intro missing former member
        rcases List.mem_append.mp member with early | late
        · exact given.omitted (by simpa using missing) former early
        · rw [List.mem_singleton.mp late, latest]

/-- What creates alone leave of a FalkorDB edge: the greatest confidence, and
bounds that some of the creates gave, if any did. -/
structure FalkorDB.Merged (inputs : List RelationshipInput) (edge : Edge) : Prop where
  confidence : IsGreatest { certainty | ∃ input ∈ inputs, input.certainty = certainty }
    edge.confidence
  validFrom : GivenBy RelationshipInput.validFrom inputs edge.validFrom
  validTo : GivenBy RelationshipInput.validTo inputs edge.validTo

theorem FalkorDB.merged_onCreate (input : RelationshipInput) : Merged [input] (onCreate input) :=
  { confidence := by simp [onCreate]
    validFrom := givenBy_singleton RelationshipInput.validFrom input
    validTo := givenBy_singleton RelationshipInput.validTo input }

theorem FalkorDB.Merged.onMatch {inputs : List RelationshipInput} {edge : Edge}
    (merged : Merged inputs edge) (input : RelationshipInput) :
    Merged (inputs ++ [input]) (FalkorDB.onMatch edge input) := by
  refine ⟨?_, merged.validFrom.overwrite input, merged.validTo.overwrite input⟩
  have single : ∀ attained, input.certainty = attained ↔ attained = input.certainty :=
    fun _ => eq_comm
  have greater : (FalkorDB.onMatch edge input).confidence =
      max input.certainty edge.confidence := by
    rw [FalkorDB.onMatch, max_comm, max_def_lt]
  rw [attained_snoc single, greater]
  exact merged.confidence.insert _

theorem FalkorDB.run_creates {inputs : List RelationshipInput} (nonempty : inputs ≠ []) :
    ∃ edge, run (inputs.map .create) = some edge ∧ Merged inputs edge := by
  induction inputs using List.reverseRecOn with
  | nil => exact absurd rfl nonempty
  | append_singleton inputs input induction =>
      rw [List.map_append, List.map_singleton, run_snoc]
      by_cases first : inputs = []
      · subst first
        exact ⟨onCreate input, rfl, merged_onCreate input⟩
      · obtain ⟨edge, found, merged⟩ := induction first
        refine ⟨FalkorDB.onMatch edge input, ?_, merged.onMatch input⟩
        rw [found, perform]

theorem FalkorDB.run_creates_last (inputs : List RelationshipInput) (input : RelationshipInput) :
    ∃ edge, run ((inputs ++ [input]).map .create) = some edge ∧
      (∀ start, input.validFrom = some start → edge.validFrom = some start) ∧
      ∀ finish, input.validTo = some finish → edge.validTo = some finish := by
  rw [List.map_append, List.map_singleton, run_snoc]
  cases run (inputs.map .create) with
  | none => exact ⟨onCreate input, rfl, fun _ => id, fun _ => id⟩
  | some edge =>
      refine ⟨FalkorDB.onMatch edge input, rfl, ?_, ?_⟩
      · intro start given
        simp [FalkorDB.onMatch, given]
      · intro finish given
        simp [FalkorDB.onMatch, given]

/-- Whether the operation expires an active edge with this identifier. -/
def EdgeOperation.expires (edgeId : Uuid) : EdgeOperation → Bool
  | .create _ => false
  | .expireRelationship relationshipId _ => edgeId == relationshipId
  | .expireRelationshipsMatching _ => true

/-- No operation after the first create expires the edge it made. -/
def Unexpired : List EdgeOperation → Prop
  | [] => True
  | .create first :: rest => ∀ operation ∈ rest, operation.expires first.relId = false
  | .expireRelationship _ _ :: rest => Unexpired rest
  | .expireRelationshipsMatching _ :: rest => Unexpired rest

/-- The identifier of an edge is that of its first create, and one expiry is
enough to end it for good. -/
theorem FalkorDB.foldl_perform_some (operations : List EdgeOperation) (edge : Edge) :
    ∃ result, operations.foldl perform (some edge) = some result ∧
      (result.invalidAt = none ↔
        edge.invalidAt = none ∧ ∀ operation ∈ operations, operation.expires edge.id = false) := by
  induction operations generalizing edge with
  | nil => exact ⟨edge, rfl, by simp⟩
  | cons operation operations induction =>
      rw [List.foldl_cons]
      cases operation with
      | create input =>
          obtain ⟨result, found, invalid⟩ := induction (FalkorDB.onMatch edge input)
          refine ⟨result, found, invalid.trans ?_⟩
          simp [EdgeOperation.expires, FalkorDB.onMatch]
      | expireRelationship relationshipId now =>
          by_cases hit : edge.id = relationshipId
          · obtain ⟨result, found, invalid⟩ := induction (expire now edge)
            refine ⟨result, by simpa [perform, hit] using found, invalid.trans ?_⟩
            cases stored : edge.invalidAt <;> simp [EdgeOperation.expires, expire, stored, hit]
          · obtain ⟨result, found, invalid⟩ := induction edge
            refine ⟨result, by simpa [perform, hit] using found, invalid.trans ?_⟩
            simp [EdgeOperation.expires, hit]
      | expireRelationshipsMatching atTime =>
          obtain ⟨result, found, invalid⟩ := induction (expire atTime edge)
          refine ⟨result, found, invalid.trans ?_⟩
          cases stored : edge.invalidAt <;> simp [EdgeOperation.expires, expire, stored]

theorem FalkorDB.active_after_create (history : List EdgeOperation) (last : RelationshipInput) :
    (∃ edge, run (history ++ [.create last]) = some edge ∧ edge.invalidAt = none) ↔
      Unexpired history := by
  induction history with
  | nil =>
      refine ⟨fun _ => trivial, fun _ => ⟨onCreate last, rfl, rfl⟩⟩
  | cons operation history induction =>
      cases operation with
      | create first =>
          obtain ⟨result, found, invalid⟩ :=
            foldl_perform_some (history ++ [.create last]) (onCreate first)
          have ran : run (.create first :: history ++ [.create last]) = some result := found
          rw [ran, Unexpired]
          constructor
          · rintro ⟨edge, same, active⟩ operation member
            cases same
            exact (invalid.mp active).2 operation (by simp [member])
          · intro unexpired
            refine ⟨result, rfl, invalid.mpr ⟨rfl, fun operation member => ?_⟩⟩
            rcases List.mem_append.mp member with early | late
            · exact unexpired operation early
            · rw [List.mem_singleton.mp late, EdgeOperation.expires]
      | expireRelationship relationshipId now => exact induction
      | expireRelationshipsMatching atTime => exact induction

/-- The creates agree on the bounds they give: one start, no later than the
instant of a create that gives none, and one end or none at all. -/
structure SameBounds (inputs : List RelationshipInput) : Prop where
  given : ∃ input ∈ inputs, input.validFrom.isSome
  validFrom : ∀ input ∈ inputs, ∀ other ∈ inputs, ∀ start,
    input.validFrom = some start → start ≤ other.startsAt
  validTo : ∀ input ∈ inputs, ∀ other ∈ inputs, input.validTo = other.validTo

/-- In every order of the creates both stores hold the same bounds, the union
of those given. -/
def AlikeInEveryOrder (inputs : List RelationshipInput) : Prop :=
  ∃ bounds, IsUnion inputs bounds ∧ ∀ order : List RelationshipInput, order.Perm inputs →
    (FalkorDB.run (order.map .create)).map FalkorDB.Edge.bounds = some bounds ∧
      (Postgres.active (order.map .create)).map Postgres.Row.bounds = some bounds

theorem FalkorDB.Merged.isUnion {inputs : List RelationshipInput} {edge : Edge}
    (merged : Merged inputs edge) (same : SameBounds inputs) : IsUnion inputs edge.bounds := by
  obtain ⟨giver, member, gave⟩ := same.given
  obtain ⟨start, starts⟩ : ∃ start, edge.validFrom = some start := by
    cases stored : edge.validFrom with
    | none => simp [merged.validFrom.omitted stored giver member] at gave
    | some start => exact ⟨start, rfl⟩
  obtain ⟨starter, starterMember, starterGave⟩ := merged.validFrom.attained start starts
  refine ⟨⟨start, starts, ?_, ?_⟩, ?_, ?_, merged.confidence⟩
  · exact ⟨starter, starterMember, by simp [RelationshipInput.startsAt, starterGave]⟩
  · rintro instant ⟨other, otherMember, rfl⟩
    exact same.validFrom starter starterMember other otherMember start starterGave
  · constructor
    · intro missing
      exact ⟨giver, member, merged.validTo.omitted missing giver member⟩
    · rintro ⟨other, otherMember, omitted⟩
      cases stored : edge.validTo with
      | none => exact stored
      | some finish =>
          obtain ⟨ender, enderMember, enderGave⟩ := merged.validTo.attained finish stored
          rw [same.validTo ender enderMember other otherMember, omitted] at enderGave
          cases enderGave
  · intro finish ends
    obtain ⟨ender, enderMember, enderGave⟩ := merged.validTo.attained finish ends
    refine ⟨⟨ender, enderMember, enderGave⟩, ?_⟩
    rintro instant ⟨other, otherMember, gave⟩
    rw [same.validTo other otherMember ender enderMember, enderGave] at gave
    exact (Option.some.inj gave).ge

theorem alikeInEveryOrder_of_sameBounds {inputs : List RelationshipInput}
    (same : SameBounds inputs) : AlikeInEveryOrder inputs := by
  have nonempty : inputs ≠ [] := by
    obtain ⟨input, member, _⟩ := same.given
    exact List.ne_nil_of_mem member
  obtain ⟨row, _, union⟩ := Postgres.active_creates nonempty
  refine ⟨row.bounds, union, fun order perm => ?_⟩
  have ordered : order ≠ [] := fun empty => nonempty (by simpa [empty] using perm.symm)
  obtain ⟨edge, found, merged⟩ := FalkorDB.run_creates ordered
  obtain ⟨row', active, union'⟩ := Postgres.active_creates ordered
  have sameOrdered : SameBounds order := by
    obtain ⟨given, validFrom, validTo⟩ := same
    simp only [← perm.mem_iff] at given validFrom validTo
    exact ⟨given, validFrom, validTo⟩
  rw [found, active]
  refine ⟨congrArg some ?_, congrArg some ?_⟩
  · exact ((merged.isUnion sameOrdered).of_perm perm).unique union
  · exact (union'.of_perm perm).unique union

/-- Any of the creates may come last, and then its bounds are those of the
edge. -/
theorem AlikeInEveryOrder.sameBounds {inputs : List RelationshipInput} (nonempty : inputs ≠ [])
    (alike : AlikeInEveryOrder inputs) : SameBounds inputs := by
  obtain ⟨bounds, union, agree⟩ := alike
  obtain ⟨least, starts, isLeast⟩ := union.validFrom
  have last : ∀ input ∈ inputs,
      (∀ start, input.validFrom = some start → bounds.validFrom = some start) ∧
        ∀ finish, input.validTo = some finish → bounds.validTo = some finish := by
    intro input member
    have perm : (inputs.erase input ++ [input]).Perm inputs :=
      List.perm_append_comm.trans (List.perm_cons_erase member).symm
    obtain ⟨edge, found, validFrom, validTo⟩ :=
      FalkorDB.run_creates_last (inputs.erase input) input
    have same := (agree _ perm).1
    rw [found] at same
    have edgeBounds : edge.bounds = bounds := Option.some.inj same
    rw [← edgeBounds]
    exact ⟨validFrom, validTo⟩
  have ends : ∀ input ∈ inputs, input.validTo = bounds.validTo := by
    intro input member
    cases given : input.validTo with
    | none => exact (union.open_iff.mpr ⟨input, member, given⟩).symm
    | some finish => exact ((last input member).2 finish given).symm
  refine ⟨?_, ?_, ?_⟩
  · obtain ⟨edge, found, merged⟩ := FalkorDB.run_creates nonempty
    have same := (agree inputs (List.Perm.refl inputs)).1
    rw [found] at same
    have edgeBounds : edge.bounds = bounds := Option.some.inj same
    have stored : edge.validFrom = some least := by
      rw [← edgeBounds] at starts
      exact starts
    obtain ⟨input, member, gave⟩ := merged.validFrom.attained least stored
    exact ⟨input, member, by simp [gave]⟩
  · intro input member other otherMember start gave
    have same := (last input member).1 start gave
    rw [starts] at same
    cases same
    exact isLeast.2 ⟨other, otherMember, rfl⟩
  · intro input member other otherMember
    rw [ends input member, ends other otherMember]

/-- After a create the edge of the key is active, and the creates of the
sequence leave the same bounds in both stores whatever their order. -/
def ReassertedAlike (history : List EdgeOperation) (last : RelationshipInput) : Prop :=
  (∃ edge, FalkorDB.run (history ++ [.create last]) = some edge ∧ edge.invalidAt = none) ∧
    AlikeInEveryOrder (creates (history ++ [.create last]))

/-- Re-asserting makes the edge active and keeps the stores alike exactly where
the edge was never expired and all creates give the same bounds. -/
theorem reassertedAlike_iff (history : List EdgeOperation) (last : RelationshipInput) :
    ReassertedAlike history last ↔
      Unexpired history ∧ SameBounds (creates (history ++ [.create last])) := by
  have nonempty : creates (history ++ [.create last]) ≠ [] := by
    simp [creates]
  rw [ReassertedAlike, FalkorDB.active_after_create]
  constructor
  · rintro ⟨unexpired, alike⟩
    exact ⟨unexpired, alike.sameBounds nonempty⟩
  · rintro ⟨unexpired, same⟩
    exact ⟨unexpired, alikeInEveryOrder_of_sameBounds same⟩

/-- An assertion valid from 10 on, with an end or without. -/
def assertion (relId : Uuid) (validTo : Option Time) : RelationshipInput :=
  { relId := relId
    properties := []
    confidence := none
    validFrom := some 10
    validTo := validTo
    now := 30 }

/-- An expired edge stays expired when it is asserted again, and an assertion
without end does not extend one that ends at 20. -/
theorem not_reassertedAlike :
    ¬ ReassertedAlike [.create (assertion 1 none), .expireRelationshipsMatching 20]
        (assertion 2 none) ∧
      ¬ ReassertedAlike [.create (assertion 1 (some 20))] (assertion 2 none) := by
  constructor
  · rintro ⟨⟨edge, found, active⟩, _⟩
    cases found
    cases active
  · rintro ⟨_, bounds, _, agree⟩
    obtain ⟨falkor, postgres⟩ :=
      agree [assertion 1 (some 20), assertion 2 none] (List.Perm.refl _)
    have same := falkor.trans postgres.symm
    cases congrArg (Option.map Bounds.validTo) same

end OpenZync.Graph
