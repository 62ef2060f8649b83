import OpenZync.Graph.GraphCursors

/-!
# Following the cursors of the graph

Names, predicates and contents are visited as they are listed unless a page ends
in a tie of a descending listing.  The cursor of a listing by type holds no type
at all, and the one of a listing by creation time holds a text where a
timestamp is compared.
-/

namespace OpenZync.Graph.Listings

open OpenZync.Library
open OpenZync.Repositories

variable {ν ρ : Type} {codec : JsonCodec ν} {listing : GraphListing ρ ν} {reqSort : Text}
  {reqDir : SortDir} {row : ρ}

section Least

variable {collation : Collation} {value : ρ → Text} {id : ρ → Uuid} {dir : SortDir}
  {other : ρ}

/-- A text column in its listing's order. -/
def textOrder (collation : Collation) (value : ρ → Text) (id : ρ → Uuid) (dir : SortDir) :
    Keyset ρ :=
  { Value := Text
    order := collation.order
    value := fun row => some (value row)
    id := id
    direction := dir
    tieOrder := .asc
    tieCompare := dir }

/-- The text of a row is the empty one, to the database. -/
def Untyped (collation : Collation) (value : ρ → Text) (row : ρ) : Prop :=
  collation.order.eqv [] (value row) = true

/-- What makes the empty text separate in place of the row's own: it is the
row's own, or all that is left has it, with smaller identifiers. -/
def EmptyEnd (collation : Collation) (value : ρ → Text) (id : ρ → Uuid) (dir : SortDir) (row : ρ)
    (after : List ρ) : Prop :=
  match dir with
  | .asc => Untyped collation value row
  | .desc => ¬ Untyped collation value row ∧
      ∀ other ∈ after, Untyped collation value other ∧ id other < id row

theorem untyped_iff : Untyped collation value row ↔ collation.order.le (value row) [] = true := by
  rw [Untyped, SqlOrder.eqv, collation.emptyFirst, Bool.true_and]

theorem comparison_empty_asc {cId : Uuid} :
    (textOrder collation value id .asc).passes ([] : Text) cId other = true ↔
      ¬ Untyped collation value other ∨ cId < id other := by
  rw [untyped_iff]
  simp only [Keyset.passes, textOrder, SqlOrder.ahead, SqlOrder.eqv, SqlOrder.nat,
    collation.emptyFirst, Bool.true_and]
  by_cases least : collation.order.le (value other) [] = true
  · simp [least]
  · simp [least]

theorem comparison_empty_desc {cId : Uuid} :
    (textOrder collation value id .desc).passes ([] : Text) cId other = true ↔
      Untyped collation value other ∧ id other < cId := by
  rw [untyped_iff]
  simp [Keyset.passes, textOrder, SqlOrder.ahead, SqlOrder.eqv, SqlOrder.nat,
    collation.emptyFirst]

/-- Of two rows of an ascending listing the earlier one has the empty text when
the later one has it, and of a descending listing the later one. -/
theorem tied_of_untyped {first second : ρ}
    (order : (textOrder collation value id dir).precedes first second = true)
    (least : match dir with
      | .asc => Untyped collation value second
      | .desc => Untyped collation value first) :
    collation.order.eqv (value first) (value second) = true := by
  rcases Keyset.valueOrder_of_precedes order with ahead | same
  · cases dir with
    | asc =>
        have le := collation.order.trans _ _ _ (untyped_iff.mp least)
          (collation.emptyFirst (value first))
        simp [Keyset.valueAhead, textOrder, SqlOrder.ahead, le] at ahead
    | desc =>
        have le := collation.order.trans _ _ _ (untyped_iff.mp least)
          (collation.emptyFirst (value second))
        simp [Keyset.valueAhead, textOrder, SqlOrder.ahead, le] at ahead
  · exact same

/-- Rows without a text come in the order of their identifiers. -/
theorem id_lt_of_untyped {first second : ρ}
    (order : (textOrder collation value id dir).precedes first second = true)
    (apart : id first ≠ id second)
    (least : match dir with
      | .asc => Untyped collation value second
      | .desc => Untyped collation value first) : id first < id second := by
  have ahead := Keyset.ahead_of_tied order apart (tied_of_untyped order least)
  simpa [textOrder, SqlOrder.ahead, SqlOrder.nat] using ahead

section Ends

variable {before after : List ρ}

theorem comparison_empty_late
    (distinct : (textOrder collation value id .asc).Distinct (before ++ row :: after))
    (ordered : (before ++ row :: after).Pairwise fun first second =>
      (textOrder collation value id .asc).precedes first second = true) :
    ∀ other ∈ after,
      (textOrder collation value id .asc).passes ([] : Text) (id row) other = true := by
  intro other member
  have order := (List.pairwise_cons.mp (List.pairwise_append.mp ordered).2.1).1 other member
  have apart := distinct.id_ne other (List.mem_append_right _ member)
  rw [comparison_empty_asc]
  by_cases untyped : Untyped collation value other
  · exact Or.inr (id_lt_of_untyped order apart untyped)
  · exact Or.inl untyped

theorem filter_empty_iff
    (distinct : (textOrder collation value id dir).Distinct (before ++ row :: after))
    (ordered : (before ++ row :: after).Pairwise fun first second =>
      (textOrder collation value id dir).precedes first second = true)
    (left : after ≠ []) :
    (before ++ row :: after).filter
        ((textOrder collation value id dir).passes ([] : Text) (id row)) = after ↔
      EmptyEnd collation value id dir row after := by
  obtain ⟨_, tail, across⟩ := List.pairwise_append.mp ordered
  have tail := (List.pairwise_cons.mp tail).1
  have apart := distinct.id_ne
  have across := fun other member => across other member row List.mem_cons_self
  rw [filter_eq_after_iff distinct.nodup]
  simp only [List.forall_mem_append, List.forall_mem_singleton]
  cases dir with
  | asc =>
      have late := comparison_empty_late distinct ordered
      simp only [← Bool.not_eq_true, comparison_empty_asc, not_or, not_not, not_lt] at late ⊢
      constructor
      · intro selected
        exact selected.1.2.1
      · intro untyped
        refine ⟨⟨fun other member => ?_, untyped, Nat.le_refl _⟩, late⟩
        have apart := (apart other (List.mem_append_left _ member)).symm
        have same := tied_of_untyped (across other member) untyped
        exact ⟨SqlOrder.eqv_trans untyped (SqlOrder.eqv_symm same),
          Nat.le_of_lt (id_lt_of_untyped (across other member) apart untyped)⟩
  | desc =>
      simp only [← Bool.not_eq_true, comparison_empty_desc, not_and, not_lt]
      constructor
      · rintro ⟨_, late⟩
        refine ⟨fun untyped => ?_, late⟩
        obtain ⟨other, others, rfl⟩ := List.exists_cons_of_ne_nil left
        have early := id_lt_of_untyped (tail other List.mem_cons_self)
          (apart other (List.mem_append_right _ List.mem_cons_self)) untyped
        exact Nat.lt_asymm early (late other List.mem_cons_self).2
      · rintro ⟨typed, late⟩
        refine ⟨⟨fun other member untyped => ?_, fun untyped => absurd untyped typed⟩, late⟩
        have same := tied_of_untyped (across other member) untyped
        exact absurd (SqlOrder.eqv_trans untyped same) typed

end Ends

theorem chainsAlong_empty {rows : List ρ}
    (distinct : (textOrder collation value id dir).Distinct rows) :
    ChainsAlong (fun row => (textOrder collation value id dir).passes ([] : Text) (id row))
      ((textOrder collation value id dir).sorted rows) := by
  cases dir with
  | asc =>
      intro before row after split _ _ last member _ _
      have ordered := (textOrder collation value id .asc).pairwise_sorted rows
      have distinct := distinct.sorted
      rw [split] at distinct ordered
      exact comparison_empty_late distinct ordered last member
  | desc =>
      apply ChainsAlong.of_trans
      intro first second third left right
      rw [comparison_empty_desc] at left right ⊢
      exact ⟨right.1, Nat.lt_trans right.2 left.2⟩

end Least

section Conditions

/-- By name, predicate or content: ascending, or nothing ties with the last row of
a page with more to come. -/
def TextEnds (collation : Collation) (value : ρ → Text) (id : ρ → Uuid) (dir : SortDir)
    (limit : Nat) (rows : List ρ) : Prop :=
  dir = .asc ∨ (textOrder collation value id dir).UntiedEnds (min limit 200 + 1) (min limit 200)
    ((textOrder collation value id dir).sorted rows)

/-- By type: at every page end with more to come the empty text separates. -/
def EmptyEnds (collation : Collation) (value : ρ → Text) (id : ρ → Uuid) (dir : SortDir)
    (limit : Nat) (rows : List ρ) : Prop :=
  AtPageEnds (min limit 200 + 1) (min limit 200) ((textOrder collation value id dir).sorted rows)
    fun _ => EmptyEnd collation value id dir

/-- A timestamp column in its listing's order. -/
def timeOrder (value : ρ → Option Datetime) (id : ρ → Uuid) (dir : SortDir) : Keyset ρ :=
  { Value := Datetime
    order := Datetime.order
    value := value
    id := id
    direction := dir
    tieOrder := .asc
    tieCompare := dir }

/-- By creation time: one page, or the driver reads timestamps and at every page
end with more to come the row's own value separates. -/
def TimeEnds (binding : TimestampBinding) (value : ρ → Option Datetime) (id : ρ → Uuid)
    (rank : ρ → Nat) (dir : SortDir) (limit : Nat) (rows : List ρ) : Prop :=
  rows.length ≤ min limit 200 ∨ binding = .reads ∧
    AtPageEnds (min limit 200 + 1) (min limit 200)
      (((timeOrder value id dir).ranked rank).sorted rows) (timeOrder value id dir).RankedEnd

variable {collation : Collation} {binding : TimestampBinding} {limit : Nat}
  {sort : Option SortSpec} {rank : ρ → Nat} {rows : List ρ}

theorem binds_text {value text : ρ → Text}
    (written : listing.sortVal reqSort (listing.toItem row) = .string (text row)) :
    Binds listing (textKey collation value) reqSort (fun row => some (text row)) row := by
  constructor
  · rw [written]
    exact .string _
  · rw [written]
    rfl

theorem visitsOnce_iff_textEnds {value : ρ → Text}
    (asked : requested sort "created_at".toList listing.defaultDir = (reqSort, reqDir))
    (allowed : listing.whitelist reqSort = some (textKey collation value)) (positive : 1 ≤ limit)
    (distinct : (rows.map listing.id).Nodup)
    (written : ∀ row, listing.sortVal reqSort (listing.toItem row) = .string (value row)) :
    VisitsOnce (fun cursor => listing.page codec listing.id rows limit cursor sort) rows ↔
      TextEnds collation value listing.id reqDir limit rows := by
  have binds := fun row => @binds_text _ _ listing _ row collation value value (written row)
  have distinct : (textOrder collation value listing.id reqDir).Distinct rows := distinct
  have pages := @pages_of_binds _ _ codec _ _ _ _ _ sort listing.id rows _ asked allowed positive
    distinct binds
  rw [visitsOnce_iff_sorted (textOrder collation value listing.id reqDir)]
  refine (Keyset.visits_perm_iff_untiedEnds distinct pages ?_).trans ?_
  · intro row
    simp [textOrder]
  · rw [TextEnds]
    exact or_congr_left eq_comm

theorem visitsOnce_iff_emptyEnds {value : ρ → Text}
    (asked : requested sort "created_at".toList listing.defaultDir = (reqSort, reqDir))
    (allowed : listing.whitelist reqSort = some (textKey collation value)) (positive : 1 ≤ limit)
    (distinct : (rows.map listing.id).Nodup)
    (written : ∀ row, listing.sortVal reqSort (listing.toItem row) = .string []) :
    VisitsOnce (fun cursor => listing.page codec listing.id rows limit cursor sort) rows ↔
      EmptyEnds collation value listing.id reqDir limit rows := by
  have binds := fun row => @binds_text _ _ listing _ row collation value (fun _ => []) (written row)
  have distinct : (textOrder collation value listing.id reqDir).Distinct rows := distinct
  have pages := @pages_of_binds _ _ codec _ _ _ _ _ sort listing.id rows _ asked allowed positive
    distinct binds
  have ordered := (textOrder collation value listing.id reqDir).pairwise_sorted rows
  have apart := distinct.sorted
  rw [visitsOnce_iff_sorted (textOrder collation value listing.id reqDir)]
  refine (pages.visits_perm_iff apart.nodup (chainsAlong_empty distinct)).trans ?_
  refine (separatesAtPages_iff_atPageEnds pages.fits).trans ?_
  apply atPageEnds_congr (Nat.lt_succ_self _)
  intro before row after split left
  have same := split
  change (textOrder collation value listing.id reqDir).sorted rows = _ at same
  rw [same] at ordered apart
  rw [split]
  exact filter_empty_iff apart ordered left

theorem page_refused {value : ρ → Option Datetime}
    (asked : requested sort "created_at".toList listing.defaultDir = (reqSort, reqDir))
    (allowed : listing.whitelist reqSort = some (timestampKey .refuses value))
    (written : listing.sortVal reqSort (listing.toItem row) = isoOrNull (value row))
    {page : List ρ × Option Text}
    (fetched : listing.page codec rank rows limit
      (some (listing.nextCursor codec reqSort reqDir row)) sort = .ok page) :
    page = ([], none) := by
  cases held : value row with
  | none =>
      have null : listing.sortVal reqSort (listing.toItem row) = .null := by
        rw [written, held]
        rfl
      have predicate : listing.predicate codec (timestampKey .refuses value) reqSort reqDir
          (some (listing.nextCursor codec reqSort reqDir row)) = .ok fun _ => false := by
        rw [predicate_nextCursor (by rw [null]; exact .null), null]
        rfl
      rw [page_of_predicate asked allowed predicate, List.filter_false] at fetched
      cases fetched
      rfl
  | some datetime =>
      have text : listing.sortVal reqSort (listing.toItem row) = .string (isoformat datetime) := by
        rw [written, held]
        rfl
      have predicate : listing.predicate codec (timestampKey .refuses value) reqSort reqDir
          (some (listing.nextCursor codec reqSort reqDir row)) = .error .externalService := by
        rw [predicate_nextCursor (by rw [text]; exact .string _), text]
        rfl
      rw [page_of_error asked allowed predicate] at fetched
      cases fetched

theorem binds_timestamp {value : ρ → Option Datetime}
    (written : listing.sortVal reqSort (listing.toItem row) = isoOrNull (value row)) :
    Binds listing (timestampKey .reads value) reqSort
      (timestampKey .reads value : GraphColumn ρ ν).value row := by
  constructor
  · rw [written]
    cases value row with
    | none => exact .null
    | some datetime => exact .string _
  · change _ = some (value row)
    rw [written]
    cases value row with
    | none => rfl
    | some datetime =>
        change (fromisoformat (isoformat datetime)).map some = _
        rw [fromisoformat_isoformat]
        rfl

theorem visitsOnce_iff_timeEnds {value : ρ → Option Datetime}
    (asked : requested sort "created_at".toList listing.defaultDir = (reqSort, reqDir))
    (allowed : listing.whitelist reqSort = some (timestampKey binding value))
    (positive : 1 ≤ limit) (distinct : (rows.map rank).Nodup)
    (written : ∀ row, listing.sortVal reqSort (listing.toItem row) = isoOrNull (value row)) :
    VisitsOnce (fun cursor => listing.page codec rank rows limit cursor sort) rows ↔
      TimeEnds binding value listing.id rank reqDir limit rows := by
  have distinct : ((timeOrder value listing.id reqDir).ranked rank).Distinct rows := distinct
  have length : (((timeOrder value listing.id reqDir).ranked rank).sorted rows).length =
      rows.length := (List.perm_insertionSort _ rows).length_eq
  rw [visitsOnce_iff_sorted ((timeOrder value listing.id reqDir).ranked rank), TimeEnds]
  cases binding with
  | refuses =>
      have first := @page_of_predicate _ _ codec _ _ _ _ limit sort rank rows none _ asked allowed
        rfl
      rw [List.filter_true] at first
      refine (visits_perm_iff_short first ?_ (by omega) (Nat.lt_succ_self _)).trans ?_
      · intro row _ page fetched
        exact page_refused asked allowed (written row) fetched
      · rw [length, Nat.lt_succ_iff]
        simp
  | reads =>
      have pages := @pages_of_binds _ _ codec _ _ _ _ limit sort rank rows _ asked allowed
        positive distinct fun row => binds_timestamp (written row)
      rw [comparison_eq_beyond] at pages
      refine (Keyset.visits_perm_iff_rankedEnds distinct pages (Nat.lt_succ_self _)).trans ?_
      constructor
      · intro ends
        exact Or.inr ⟨rfl, ends⟩
      · rintro (short | ⟨_, ends⟩)
        · intro before row after _ pages _ enough
          rw [length] at enough
          omega
        · exact ends

end Conditions

section Listings

variable {collation : Collation} {binding : TimestampBinding} {limit : Nat}

/-- When the cursors of `list_entities` visit every row. -/
def EntityEnds (collation : Collation) (binding : TimestampBinding) (sort : Option SortSpec)
    (limit : Nat) (rows : List (ListedEntity ν)) : Prop :=
  let (reqSort, reqDir) := requested sort "created_at".toList .asc
  if reqSort = "name".toList then
    TextEnds collation ListedEntity.name ListedEntity.id reqDir limit rows
  else if reqSort = "entity_type".toList then
    EmptyEnds collation ListedEntity.entityType ListedEntity.id reqDir limit rows
  else TimeEnds binding ListedEntity.createdAt ListedEntity.id ListedEntity.id reqDir limit rows

/-- When the cursors of `list_entity_edges` visit every row. -/
def EdgeEnds (collation : Collation) (binding : TimestampBinding)
    {edges : Table (@ListedEdge.id ν)} (ties : TieOrder edges) (sort : Option SortSpec)
    (limit : Nat) (rows : List (ListedEdge ν)) : Prop :=
  let (reqSort, reqDir) := requested sort "created_at".toList .desc
  if reqSort = "predicate".toList then
    TextEnds collation ListedEdge.relationshipType ListedEdge.id reqDir limit rows
  else TimeEnds binding ListedEdge.createdAt ListedEdge.id (ties.of sort) reqDir limit rows

/-- When the cursors of `get_observations` visit every row. -/
def ObservationEnds (collation : Collation) (binding : TimestampBinding)
    (sort : Option SortSpec) (limit : Nat) (rows : List (ListedObservation ν)) : Prop :=
  let (reqSort, reqDir) := requested sort "created_at".toList .asc
  if reqSort = "name".toList then
    TextEnds collation ListedObservation.content ListedObservation.id reqDir limit rows
  else
    TimeEnds binding (fun row => some row.createdAt) ListedObservation.id ListedObservation.id
      reqDir limit rows

theorem graphNodeSortable_key {key : Text} (allowed : (graphNodeSortable collation binding key :
    Option (GraphColumn (ListedEntity ν) ν)) ≠ none) :
    key = "name".toList ∨ key = "created_at".toList ∨ key = "entity_type".toList := by
  rw [graphNodeSortable] at allowed
  split_ifs at allowed with name created type
  · exact Or.inl name
  · exact Or.inr (Or.inl created)
  · exact Or.inr (Or.inr type)
  · exact absurd rfl allowed

theorem graphEdgeSortable_key {key : Text} (allowed : (graphEdgeSortable collation binding key :
    Option (GraphColumn (ListedEdge ν) ν)) ≠ none) :
    key = "created_at".toList ∨ key = "predicate".toList := by
  rw [graphEdgeSortable] at allowed
  split_ifs at allowed with created predicate
  · exact Or.inl created
  · exact Or.inr predicate
  · exact absurd rfl allowed

theorem observationSortable_key {key : Text}
    (allowed : (observationSortable collation binding key :
      Option (GraphColumn (ListedObservation ν) ν)) ≠ none) :
    key = "name".toList ∨ key = "created_at".toList := by
  rw [observationSortable] at allowed
  split_ifs at allowed with name created
  · exact Or.inl name
  · exact Or.inr created
  · exact absurd rfl allowed

theorem TieOrder.of_custom {edges : Table (@ListedEdge.id ν)} (ties : TieOrder edges)
    {sort : Option SortSpec} {key : Text} {dir : SortDir}
    (asked : requested sort "created_at".toList .desc = (key, dir))
    (custom : key ≠ "created_at".toList) : ties.of sort = ListedEdge.id := by
  rw [TieOrder.of, if_neg]
  intro unsorted
  apply custom
  have default := (congrArg Prod.fst asked).symm
  cases sort with
  | none => exact default
  | some spec =>
      obtain ⟨sortBy, sortDir⟩ := spec
      cases sortBy with
      | none => exact default
      | some sortBy => cases unsorted

theorem entities_visited_iff (codec : JsonCodec ν) (positive : 1 ≤ limit)
    (entities : Table (@ListedEntity.id ν)) (orgId projectId : Uuid) (entityType : Option Text)
    (sort : Option SortSpec)
    (allowed : (graphNodeSortable collation binding (requested sort "created_at".toList .asc).1 :
      Option (GraphColumn (ListedEntity ν) ν)) ≠ none) :
    VisitsOnce (fun cursor => listEntities collation binding codec entities orgId projectId
        entityType limit cursor sort) (entityRows entities orgId projectId entityType) ↔
      EntityEnds collation binding sort limit (entityRows entities orgId projectId entityType) := by
  have distinct : ((entityRows entities orgId projectId entityType).map ListedEntity.id).Nodup :=
    (List.filter_sublist.map _).nodup entities.primaryKey
  rcases asked : requested sort "created_at".toList .asc with ⟨reqSort, reqDir⟩
  rw [asked] at allowed
  simp only [EntityEnds, asked]
  have asked : requested sort "created_at".toList
      (entityListing collation binding : GraphListing (ListedEntity ν) ν).defaultDir =
        (reqSort, reqDir) := asked
  rcases graphNodeSortable_key allowed with rfl | rfl | rfl
  · exact visitsOnce_iff_textEnds asked rfl positive distinct fun _ => rfl
  · rw [if_neg (by decide), if_neg (by decide)]
    exact visitsOnce_iff_timeEnds asked rfl positive distinct fun _ => rfl
  · rw [if_neg (by decide), if_pos rfl]
    exact visitsOnce_iff_emptyEnds asked rfl positive distinct fun _ => rfl

theorem edges_visited_iff (codec : JsonCodec ν) (positive : 1 ≤ limit)
    (edges : Table (@ListedEdge.id ν)) (ties : TieOrder edges) (orgId projectId entityId : Uuid)
    (predicate : Option Text) (sort : Option SortSpec)
    (allowed : (graphEdgeSortable collation binding (requested sort "created_at".toList .desc).1 :
      Option (GraphColumn (ListedEdge ν) ν)) ≠ none) :
    VisitsOnce (fun cursor => listEntityEdges collation binding codec edges ties orgId projectId
        entityId predicate limit cursor sort) (edgeRows edges orgId projectId entityId predicate) ↔
      EdgeEnds collation binding ties sort limit
        (edgeRows edges orgId projectId entityId predicate) := by
  have identified : ((edgeRows edges orgId projectId entityId predicate).map ListedEdge.id).Nodup :=
    (List.filter_sublist.map _).nodup edges.primaryKey
  have ranked : ((edgeRows edges orgId projectId entityId predicate).map (ties.of sort)).Nodup := by
    rw [TieOrder.of]
    split
    · exact (List.filter_sublist.map _).nodup ties.distinct
    · exact identified
  rcases asked : requested sort "created_at".toList .desc with ⟨reqSort, reqDir⟩
  rw [asked] at allowed
  simp only [EdgeEnds, asked]
  have asked : requested sort "created_at".toList
      (edgeListing collation binding : GraphListing (ListedEdge ν) ν).defaultDir =
        (reqSort, reqDir) := asked
  rcases graphEdgeSortable_key allowed with rfl | rfl
  · rw [if_neg (by decide)]
    exact visitsOnce_iff_timeEnds asked rfl positive ranked fun _ => rfl
  · rw [if_pos rfl]
    simp only [listEntityEdges, ties.of_custom asked (by decide)]
    exact visitsOnce_iff_textEnds asked rfl positive identified fun _ => rfl

theorem observations_visited_iff (codec : JsonCodec ν) (positive : 1 ≤ limit)
    (observations : Table (@ListedObservation.id ν)) (orgId projectId : Uuid)
    (subjectEntityId : Option Uuid) (observationType : Option Text) (sort : Option SortSpec)
    (allowed : (observationSortable collation binding
      (requested sort "created_at".toList .asc).1 :
        Option (GraphColumn (ListedObservation ν) ν)) ≠ none) :
    VisitsOnce (fun cursor => getObservations collation binding codec observations orgId projectId
        subjectEntityId observationType limit cursor sort)
        (observationRows observations orgId projectId subjectEntityId observationType) ↔
      ObservationEnds collation binding sort limit
        (observationRows observations orgId projectId subjectEntityId observationType) := by
  have distinct : ((observationRows observations orgId projectId subjectEntityId
      observationType).map ListedObservation.id).Nodup :=
    (List.filter_sublist.map _).nodup observations.primaryKey
  rcases asked : requested sort "created_at".toList .asc with ⟨reqSort, reqDir⟩
  rw [asked] at allowed
  simp only [ObservationEnds, asked]
  have asked : requested sort "created_at".toList
      (observationListing collation binding : GraphListing (ListedObservation ν) ν).defaultDir =
        (reqSort, reqDir) := asked
  rcases observationSortable_key allowed with rfl | rfl
  · rw [if_pos rfl]
    exact visitsOnce_iff_textEnds asked rfl positive distinct fun _ => rfl
  · rw [if_neg (by decide)]
    exact visitsOnce_iff_timeEnds asked rfl positive distinct fun _ => rfl

/-- Following the cursors of the three listings visits every row once exactly when
the page ends are as the sort key needs them. -/
theorem graphListings_visited_iff (codec : JsonCodec ν) (collation : Collation)
    (binding : TimestampBinding) {limit : Nat} (positive : 1 ≤ limit) (orgId projectId : Uuid)
    (sort : Option SortSpec) :
    (∀ (entities : Table (@ListedEntity.id ν)) (entityType : Option Text),
      (graphNodeSortable collation binding (requested sort "created_at".toList .asc).1 :
        Option (GraphColumn (ListedEntity ν) ν)) ≠ none →
      (VisitsOnce (fun cursor => listEntities collation binding codec entities orgId projectId
          entityType limit cursor sort) (entityRows entities orgId projectId entityType) ↔
        EntityEnds collation binding sort limit
          (entityRows entities orgId projectId entityType))) ∧
    (∀ (edges : Table (@ListedEdge.id ν)) (ties : TieOrder edges) (entityId : Uuid)
        (predicate : Option Text),
      (graphEdgeSortable collation binding (requested sort "created_at".toList .desc).1 :
        Option (GraphColumn (ListedEdge ν) ν)) ≠ none →
      (VisitsOnce (fun cursor => listEntityEdges collation binding codec edges ties orgId
          projectId entityId predicate limit cursor sort)
          (edgeRows edges orgId projectId entityId predicate) ↔
        EdgeEnds collation binding ties sort limit
          (edgeRows edges orgId projectId entityId predicate))) ∧
    ∀ (observations : Table (@ListedObservation.id ν)) (subjectEntityId : Option Uuid)
        (observationType : Option Text),
      (observationSortable collation binding (requested sort "created_at".toList .asc).1 :
        Option (GraphColumn (ListedObservation ν) ν)) ≠ none →
      (VisitsOnce (fun cursor => getObservations collation binding codec observations orgId
          projectId subjectEntityId observationType limit cursor sort)
          (observationRows observations orgId projectId subjectEntityId observationType) ↔
        ObservationEnds collation binding sort limit
          (observationRows observations orgId projectId subjectEntityId observationType)) := by
  refine ⟨fun entities entityType allowed => ?_,
    fun edges ties entityId predicate allowed => ?_,
    fun observations subjectEntityId observationType allowed => ?_⟩
  · exact entities_visited_iff codec positive entities orgId projectId entityType sort allowed
  · exact edges_visited_iff codec positive edges ties orgId projectId entityId predicate sort
      allowed
  · exact observations_visited_iff codec positive observations orgId projectId subjectEntityId
      observationType sort allowed

end Listings

theorem utf8Bytes_ne_nil {text : Text} (present : text ≠ []) : utf8Bytes text ≠ [] := by
  intro empty
  have read := utf8Text_utf8Bytes text
  rw [empty] at read
  have nothing := utf8Text_utf8Bytes []
  exact present (Option.some.inj (read.symm.trans nothing))

theorem intText_ne_nil (value : Int) : intText value ≠ [] := by
  cases value with
  | ofNat value => exact Nat.toDigits_ne_nil
  | negSucc value => simp [intText]

/-- A codec that reads objects of texts and nulls. -/
def flatCodec : JsonCodec Int :=
  { dumps := fun value => utf8Bytes (Json.render intText value)
    loads := fun bytes => (utf8Text bytes).bind Json.readFlat
    present := fun value => utf8Bytes_ne_nil (Json.render_ne_nil intText_ne_nil value)
    roundTrip := by
      intro members scalars _
      rw [utf8Text_utf8Bytes, Option.bind_some, Json.readFlat_render _ scalars] }

/-- The order of code points puts the empty text first. -/
def plainCollation : Collation :=
  { order := codePoints
    emptyFirst := by
      intro text
      apply decide_eq_true
      apply le_of_not_gt
      intro before
      cases before }

def firstPerson : ListedEntity Int :=
  { id := 1
    idBound := one_lt_idBound
    organizationId := 7
    projectId := 3
    name := "ada".toList
    entityType := "person".toList
    summary := none
    attributes := []
    createdAt := some datetimeMin }

def secondPerson : ListedEntity Int :=
  { firstPerson with
    id := 2
    idBound := two_lt_idBound
    name := "bob".toList }

def twoPersons : Table (@ListedEntity.id Int) :=
  { rows := [firstPerson, secondPerson]
    primaryKey := by decide }

def byType : Option SortSpec :=
  some { sortBy := some "entity_type".toList, sortDir := .asc }

theorem graphListings_visited_twoPersons :
    VisitsOnce (fun cursor => listEntities plainCollation .refuses flatCodec twoPersons 7 3 none 1
        cursor byType) (entityRows twoPersons 7 3 none) ↔
      EntityEnds plainCollation .refuses byType 1 (entityRows twoPersons 7 3 none) :=
  (graphListings_visited_iff flatCodec plainCollation .refuses (Nat.le_refl 1) 7 3 byType).1
    twoPersons none (by decide)

/-- By type, one entity a page: the second page is the first one again. -/
theorem secondPerson_lost :
    entityRows twoPersons 7 3 none = [firstPerson, secondPerson] ∧
      ¬ VisitsOnce (fun cursor => listEntities plainCollation .refuses flatCodec twoPersons 7 3
        none 1 cursor byType) (entityRows twoPersons 7 3 none) := by
  refine ⟨rfl, fun visited => ?_⟩
  have ends : EmptyEnds plainCollation ListedEntity.entityType ListedEntity.id .asc 1
      (entityRows twoPersons 7 3 none) :=
    (entities_visited_iff flatCodec (Nat.le_refl 1) twoPersons 7 3 none byType (by decide)).mp
      visited
  have untyped : codePoints.eqv [] firstPerson.entityType = true :=
    ends [] firstPerson [secondPerson] rfl 0 rfl (Nat.le_refl 2)
  exact absurd untyped (by decide)

def firstEdge : ListedEdge Int :=
  { id := 1
    idBound := one_lt_idBound
    organizationId := 7
    projectId := 3
    sourceId := 5
    targetId := 6
    relationshipType := "knows".toList
    properties := .object []
    fact := none
    confidence := 1
    validFrom := none
    validTo := none
    invalidAt := none
    createdAt := some datetimeMin }

def twoEdges : Table (@ListedEdge.id Int) :=
  { rows := [firstEdge, { firstEdge with id := 2, idBound := two_lt_idBound }]
    primaryKey := by decide }

/-- Edges that tie come as they were created. -/
def insertionOrder : TieOrder twoEdges :=
  { rank := ListedEdge.id
    distinct := by decide }

/-- Without a sort the page is filled as the database breaks the tie. -/
example :
    (listEntityEdges plainCollation .refuses flatCodec twoEdges insertionOrder 7 3 5 none 1 none
        none).toOption.map (fun page => page.1.map ListedEdge.id) = some [1] := by
  decide +kernel

end OpenZync.Graph.Listings
