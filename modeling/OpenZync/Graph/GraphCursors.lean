import OpenZync.Graph.GraphListings

/-!
# The cursors of the graph's listings

What is read back from the cursor of a row, and the pages of a listing whose
cursors bind a value of the column.
-/

namespace OpenZync.Graph.Listings

open OpenZync.Library
open OpenZync.Repositories

variable {ν ρ : Type} {codec : JsonCodec ν} {listing : GraphListing ρ ν}
  {column : GraphColumn ρ ν} {reqSort : Text} {reqDir : SortDir} {row : ρ}

section Cursors

theorem subscript_id (listing : GraphListing ρ ν) (row : ρ) :
    subscript (listing.toItem row) "id".toList = .string (Text.ofUuid (listing.id row)) := by
  rw [subscript, listing.identified, Option.getD_some]

theorem nextCursor_ne_nil (codec : JsonCodec ν) (listing : GraphListing ρ ν) (reqSort : Text)
    (reqDir : SortDir) (row : ρ) : listing.nextCursor codec reqSort reqDir row ≠ [] :=
  Base64Url.encodeStandard_ne_nil (codec.present _)

theorem decode_nextCursor (scalar : (listing.sortVal reqSort (listing.toItem row)).Scalar)
    (defaultSort : Text) (defaultDir : SortDir) :
    decodeSortKeysetCursor codec (listing.nextCursor codec reqSort reqDir row) defaultSort
        defaultDir =
      some (.string reqSort, .string reqDir.text, listing.sortVal reqSort (listing.toItem row),
        listing.id row) := by
  have read := codec.roundTrip
    [("s".toList, .string reqSort), ("d".toList, .string reqDir.text),
      ("c".toList, listing.sortVal reqSort (listing.toItem row)),
      ("i".toList, .string (Text.ofUuid (listing.id row)))]
    (by
      intro member listed
      simp only [List.mem_cons, List.not_mem_nil, or_false] at listed
      rcases listed with rfl | rfl | rfl | rfl
      · exact .string _
      · exact .string _
      · exact scalar
      · exact .string _)
    (by simp)
  rw [GraphListing.nextCursor, decodeSortKeysetCursor]
  simp only [subscript_id, Base64Url.decodeStandard_encodeStandard, read, Option.bind_eq_bind,
    Option.bind_some]
  simp [memberOf, readUuid_ofUuid (listing.idBound row)]

theorem predicate_nextCursor (scalar : (listing.sortVal reqSort (listing.toItem row)).Scalar) :
    listing.predicate codec column reqSort reqDir
        (some (listing.nextCursor codec reqSort reqDir row)) =
      match column.bind (listing.sortVal reqSort (listing.toItem row)) with
      | none => .error .externalService
      | some bound => .ok (column.comparison listing.id reqDir bound (listing.id row)) := by
  have decoded := @decode_nextCursor _ _ codec listing reqSort reqDir row scalar
    "created_at".toList listing.defaultDir
  obtain ⟨c, text, shown⟩ := List.exists_cons_of_ne_nil
    (nextCursor_ne_nil codec listing reqSort reqDir row)
  rw [shown] at decoded ⊢
  have matched : (isText (.string reqSort : Json ν) reqSort &&
      isText (.string reqDir.text : Json ν) reqDir.text) = true := by
    simp [isText]
  rw [GraphListing.predicate, decoded]
  · exact if_pos matched
  · intro empty
    cases empty

end Cursors

section Pages

variable {limit : Nat} {sort : Option SortSpec} {rank : ρ → Nat} {rows : List ρ}

theorem resolveGraphSort_allowed {whitelist : Text → Option (GraphColumn ρ ν)}
    (allowed : whitelist reqSort = some column) (defaultSort : Text) (defaultDir : SortDir) :
    resolveGraphSort whitelist (some reqSort) reqDir defaultSort defaultDir =
      .ok (column, reqDir) := by
  simp [resolveGraphSort, allowed]

theorem page_of_predicate {cursor : Option Text} {kept : ρ → Bool}
    (asked : requested sort "created_at".toList listing.defaultDir = (reqSort, reqDir))
    (allowed : listing.whitelist reqSort = some column)
    (predicate : listing.predicate codec column reqSort reqDir cursor = .ok kept) :
    listing.page codec rank rows limit cursor sort =
      .ok (pageOf (min limit 200 + 1) (min limit 200) (listing.nextCursor codec reqSort reqDir)
        (((column.keyset listing.id reqDir).ranked rank).sorted (rows.filter kept))) := by
  simp only [GraphListing.page, asked, resolveGraphSort_allowed allowed, predicate]
  rfl

theorem page_of_error {cursor : Option Text} {error : GraphListError ν}
    (asked : requested sort "created_at".toList listing.defaultDir = (reqSort, reqDir))
    (allowed : listing.whitelist reqSort = some column)
    (predicate : listing.predicate codec column reqSort reqDir cursor = .error error) :
    listing.page codec rank rows limit cursor sort = .error error := by
  simp only [GraphListing.page, asked, resolveGraphSort_allowed allowed, predicate]
  rfl

/-- The cursor of a row binds a value. -/
structure Binds (listing : GraphListing ρ ν) (column : GraphColumn ρ ν) (reqSort : Text)
    (bound : ρ → Option column.Value) (row : ρ) : Prop where
  scalar : (listing.sortVal reqSort (listing.toItem row)).Scalar
  bind : column.bind (listing.sortVal reqSort (listing.toItem row)) = some (bound row)

theorem pages_of_binds {bound : ρ → Option column.Value}
    (asked : requested sort "created_at".toList listing.defaultDir = (reqSort, reqDir))
    (allowed : listing.whitelist reqSort = some column) (positive : 1 ≤ limit)
    (distinct : ((column.keyset listing.id reqDir).ranked rank).Distinct rows)
    (binds : ∀ row, Binds listing column reqSort bound row) :
    Pages (fun cursor => listing.page codec rank rows limit cursor sort) (min limit 200 + 1)
      (min limit 200) (listing.nextCursor codec reqSort reqDir)
      (fun row => column.comparison listing.id reqDir (bound row) (listing.id row))
      (((column.keyset listing.id reqDir).ranked rank).sorted rows) := by
  have fetched : ∀ cursor kept, listing.predicate codec column reqSort reqDir cursor = .ok kept →
      listing.page codec rank rows limit cursor sort =
        .ok (pageOf (min limit 200 + 1) (min limit 200) (listing.nextCursor codec reqSort reqDir)
          (((column.keyset listing.id reqDir).ranked rank).sorted (rows.filter kept))) :=
    fun cursor kept => page_of_predicate asked allowed
  apply Pages.of_conditions distinct.sorted_filter fetched rfl _ (by omega) (Nat.le_succ _)
  intro row _
  rw [predicate_nextCursor (binds row).scalar, (binds row).bind]

/-- Following the cursors visits the rows, each once. -/
def VisitsOnce {ε : Type} (fetch : Option Text → Except ε (List ρ × Option Text))
    (rows : List ρ) : Prop :=
  ∃ visited, Visits fetch none visited ∧ visited.Perm rows

theorem visitsOnce_iff_sorted {ε : Type}
    {fetch : Option Text → Except ε (List ρ × Option Text)} (keyset : Keyset ρ) :
    VisitsOnce fetch rows ↔ ∃ visited, Visits fetch none visited ∧
      visited.Perm (keyset.sorted rows) := by
  have perm : (keyset.sorted rows).Perm rows := List.perm_insertionSort _ rows
  apply exists_congr
  intro visited
  apply and_congr_right
  intro _
  exact ⟨fun same => same.trans perm.symm, fun same => same.trans perm⟩

theorem comparison_eq_beyond (column : GraphColumn ρ ν) (id : ρ → Uuid) (dir : SortDir) :
    (fun row => column.comparison id dir (column.value row) (id row)) =
      (column.keyset id dir).beyond := by
  funext row other
  have held : (column.keyset id dir).value row = column.value row := rfl
  rw [GraphColumn.comparison.eq_def, Keyset.beyond, held]
  cases column.value row with
  | none => rfl
  | some value => rfl

end Pages

end OpenZync.Graph.Listings
