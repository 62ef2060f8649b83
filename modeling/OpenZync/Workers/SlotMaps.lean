import OpenZync.Workers.RelatedRows

/-!
# The slot map

A slot is mapped to the last row that is related to its fact.  The slot map is right
when the last row of every content was created from a fact with the texts of the
last one handed over with that content; two triples with one text, of which the
second is kept out of the store, give the row of the first to the slot of the
second.
-/

namespace OpenZync.Workers.ExtractFacts

open OpenZync.Facts OpenZync.Library

/-- The columns of the row hold the triple. -/
def HasTriple (row : Fact) (triple : Triple) : Prop :=
  row.subject = some triple.subject ∧ row.predicate = some triple.predicate ∧
    row.object = some triple.object

instance (row : Fact) (triple : Triple) : Decidable (HasTriple row triple) :=
  inferInstanceAs (Decidable (_ ∧ _ ∧ _))

/-- Every mapped slot has the row with the triple that was stored for it. -/
def SlotMapRight (casing : Casing) (request : FactsRequest) (result : ProcessedFacts) : Prop :=
  ∀ mapped ∈ result.slotMap, ∀ row ∈ mapped.2,
    ∃ output ∈ request.parsed[mapped.1 - 1]?,
      HasTriple row (trimmed (resolvedTriple casing request.knownEntities output.triple))

instance (casing : Casing) (request : FactsRequest) (result : ProcessedFacts) :
    Decidable (SlotMapRight casing request result) :=
  inferInstanceAs (Decidable (∀ mapped ∈ result.slotMap, ∀ row ∈ mapped.2,
    ∃ output ∈ request.parsed[mapped.1 - 1]?, _))

/-- The last entry inserted with the content of a fact that is the last of its
content has the texts of that fact. -/
def FactsRequest.LastsAgree (casing : Casing) (store : FactStore) (request : FactsRequest) :
    Prop :=
  ∀ input ∈ request.resolvedFacts casing,
    request.lastHanded casing input.content = some input →
      ∀ entry ∈ request.lastInserted casing store input.content,
        entry.triple = trimmed input.triple

instance (casing : Casing) (store : FactStore) (request : FactsRequest) :
    Decidable (request.LastsAgree casing store) :=
  inferInstanceAs (Decidable (∀ input ∈ request.resolvedFacts casing, _ → _))

section

variable {casing : Casing} {request : FactsRequest} {store : FactStore}
variable {result : ProcessedFacts}

theorem hasTriple_of_rowOf {ctx : BatchCtx} {entry : Entry} {row : Fact}
    (rowOf : RowOf ctx entry row) (triple : Triple) :
    HasTriple row triple ↔ entry.triple = triple := by
  obtain ⟨subject, predicate, object⟩ := triple
  rw [rowOf]
  simp [HasTriple, Entry.triple, rowFor, Entry.toFact]

theorem slotsOf_eq_find? (rows : List Fact) (slot : Nat) :
    (request.slotsOf casing rows).get? slot =
      rows.reverse.find? fun row =>
        decide ((request.inputOf casing row).map FactDict.slot = some slot) := by
  induction rows using List.reverseRecOn with
  | nil => rfl
  | append_singleton rows last induction =>
      rw [FactsRequest.slotsOf, List.foldl_append, ← FactsRequest.slotsOf, List.foldl_cons,
        List.foldl_nil, List.reverse_append, List.reverse_singleton, List.singleton_append,
        List.find?_cons, ← induction]
      cases related : request.inputOf casing last with
      | none => simp
      | some input =>
          simp only [Option.map_some, Option.some_inj]
          rw [Library.Dict.get?_set]
          by_cases same : input.slot = slot
          · simp [same]
          · simp [same, Ne.symm same]

theorem slotsOf_lastHanded {input : FactDict} {content : Text}
    (last : request.lastHanded casing content = some input) (rows : List Fact) :
    (request.slotsOf casing rows).get? input.slot =
      rows.reverse.find? fun row => decide (row.content = content) := by
  have sameTest : (fun row : Fact =>
      decide ((request.inputOf casing row).map FactDict.slot = some input.slot)) =
        fun row => decide (row.content = content) := by
    funext row
    rw [decide_eq_decide, inputOf_eq, Option.map_eq_some_iff]
    constructor
    · rintro ⟨other, found, sameSlot⟩
      obtain ⟨handed, ofContent⟩ := lastHanded_eq_some last
      obtain ⟨otherHanded, ofRow⟩ := lastHanded_eq_some found
      rw [← ofRow, eq_of_slot otherHanded handed sameSlot, ofContent]
    · intro ofContent
      exact ⟨input, ofContent ▸ last, rfl⟩
  rw [slotsOf_eq_find?, sameTest]

/-- The slot map of a response is right when the last rows agree with the last
facts handed over, and only then. -/
theorem slotMap_right_iff
    (processed : processFactsOutput casing store request = .ok result) :
    SlotMapRight casing request result ↔ request.LastsAgree casing store := by
  obtain ⟨_, _, _, slotMap, _⟩ := processed_ok processed
  constructor
  · intro right input handed last entry inserted
    obtain ⟨above, below, output, found, triple⟩ := output_of_handed handed
    have rows := last_created processed input.content
    rw [inserted] at rows
    obtain ⟨row, isLast, rowOf⟩ : ∃ row, (result.newFacts.reverse.find? fun row =>
        decide (row.content = input.content)) = some row ∧
          RowOf (request.ingestCall casing).ctx entry row := by
      generalize (result.newFacts.reverse.find? fun row =>
        decide (row.content = input.content)) = created at rows
      cases rows with
      | some rowOf => exact ⟨_, rfl, rowOf⟩
    rw [← slotsOf_lastHanded last] at isLast
    have mapped : (input.slot, some row) ∈ result.slotMap := by
      rw [slotMap, ← isLast]
      exact List.mem_map_of_mem (List.mem_range'_1.mpr (by omega))
    obtain ⟨other, otherFound, rowTriple⟩ := right _ mapped row rfl
    rw [Option.mem_def, found, Option.some_inj] at otherFound
    rw [← hasTriple_of_rowOf rowOf, triple, otherFound]
    exact rowTriple
  · intro agree mapped member row found
    rw [slotMap] at member
    obtain ⟨slot, _, rfl⟩ := List.mem_map.mp member
    replace found : (request.slotsOf casing result.newFacts).get? slot = some row := found
    have first := found
    rw [slotsOf_eq_find?] at first
    obtain ⟨input, related, rfl⟩ := Option.map_eq_some_iff.mp (lookup_some first).2
    rw [inputOf_eq] at related
    obtain ⟨handed, content⟩ := lastHanded_eq_some related
    obtain ⟨_, _, output, parsed, triple⟩ := output_of_handed handed
    refine ⟨output, parsed, ?_⟩
    rw [← content] at related
    have rows := last_created processed input.content
    rw [← slotsOf_lastHanded related, found] at rows
    generalize inserted : request.lastInserted casing store input.content = entry at rows
    cases rows with
    | some rowOf =>
        rw [hasTriple_of_rowOf rowOf, ← triple]
        exact agree input handed related _ inserted

end

/-- New York is big, with the words of the subject and the predicate split in two
places. -/
def newYork : Triple :=
  ⟨"New York".toList, "is".toList, "big".toList⟩

def newYorkSplit : Triple :=
  ⟨"New".toList, "York is".toList, "big".toList⟩

/-- The two splittings in one response. -/
def bothSplittings : FactsRequest :=
  .ofFacts none [.ofTriple newYork none, .ofTriple newYorkSplit none]

/-- In an empty store both are inserted, and the second slot has its own row. -/
theorem slotMap_right_iff_empty :
    ∃ result, processFactsOutput Casing.ascii FactStore.empty bothSplittings = .ok result ∧
      SlotMapRight Casing.ascii bothSplittings result := by
  obtain ⟨result, processed, _⟩ := @exists_ok _ _
    (processFactsOutput Casing.ascii FactStore.empty bothSplittings) (fun _ => true)
    (by decide +kernel)
  exact ⟨result, processed, (slotMap_right_iff processed).mpr (by decide +kernel)⟩

/-- An earlier response said the second for a later time, so its row is kept out
and its slot is given the row of the first. -/
theorem slotMap_newYork :
    ¬ ∀ (casing : Casing) (store : FactStore) (request : FactsRequest) (result : ProcessedFacts),
      processFactsOutput casing store request = .ok result →
        SlotMapRight casing request result := by
  intro right
  obtain ⟨earlier, _, later⟩ := @exists_ok _ _
    (processFactsOutput Casing.ascii FactStore.empty
      (.ofFacts none [.ofTriple newYorkSplit (some 90)]))
    (fun earlier => (processFactsOutput Casing.ascii earlier.store bothSplittings).toOption.any
      fun result => decide (¬ SlotMapRight Casing.ascii bothSplittings result))
    (by decide +kernel)
  obtain ⟨result, processed, wrong⟩ := exists_ok later
  exact of_decide_eq_true wrong (right Casing.ascii earlier.store bothSplittings result processed)

end OpenZync.Workers.ExtractFacts
