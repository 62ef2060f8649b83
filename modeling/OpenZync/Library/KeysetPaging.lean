import Mathlib.Data.List.Basic
import Mathlib.Data.List.Nodup

/-!
# Keyset paging

A listing is fetched page by page.  A page that is not the last one hands out a
cursor for its last row, and the next fetch takes the rows that the cursor
selects.  Following the cursors visits the listing exactly when at every page
end with more to come the cursor selects the rows that are left.
-/

namespace OpenZync.Library

section Paging

variable {ρ χ ε : Type}

/-- The rows of a page and the cursor of the next one: `limit` rows were asked
for, and `size` of them are kept when all of them came. -/
def pageOf (limit size : Nat) (encode : ρ → χ) (rows : List ρ) : List ρ × Option χ :=
  let fetched := rows.take limit
  if fetched.length = limit then
    (fetched.take size, (fetched.take size).getLast?.map encode)
  else (fetched, none)

/-- Following the cursors from one on, until there is none, visits the rows. -/
inductive Visits (fetch : Option χ → Except ε (List ρ × Option χ)) :
    Option χ → List ρ → Prop where
  | last {cursor : Option χ} {rows : List ρ} (page : fetch cursor = .ok (rows, none)) :
      Visits fetch cursor rows
  | more {cursor : Option χ} {rows later : List ρ} {next : χ}
      (page : fetch cursor = .ok (rows, some next)) (rest : Visits fetch (some next) later) :
      Visits fetch cursor (rows ++ later)

/-- Every fetch takes its page from the listing: the first one from all of it,
the next ones from what the cursor's row selects. -/
structure Pages (fetch : Option χ → Except ε (List ρ × Option χ)) (limit size : Nat)
    (encode : ρ → χ) (selects : ρ → ρ → Bool) (listing : List ρ) : Prop where
  first : fetch none = .ok (pageOf limit size encode listing)
  next : ∀ row ∈ listing,
    fetch (some (encode row)) = .ok (pageOf limit size encode (listing.filter (selects row)))
  positive : 0 < size
  fits : size ≤ limit

/-- The rows that are left after some of them are those the cursor selects. -/
def Separates (selects : ρ → ρ → Bool) (listing : List ρ) (taken : Nat) : Prop :=
  ∀ row ∈ (listing.take taken).getLast?, listing.filter (selects row) = listing.drop taken

/-- The cursor separates at every page end with more to come. -/
def SeparatesAtPages (limit size : Nat) (selects : ρ → ρ → Bool) (listing : List ρ) : Prop :=
  ∀ pages, pages * size + limit ≤ listing.length →
    Separates selects listing ((pages + 1) * size)

section Steps

variable {fetch : Option χ → Except ε (List ρ × Option χ)} {limit size : Nat} {encode : ρ → χ}
  {selects : ρ → ρ → Bool} {listing rows : List ρ} {cursor : Option χ}

theorem pageOf_short (short : rows.length < limit) :
    pageOf limit size encode rows = (rows, none) := by
  have whole : rows.take limit = rows := List.take_of_length_le (Nat.le_of_lt short)
  rw [pageOf, whole]
  exact if_neg (Nat.ne_of_lt short)

theorem pageOf_long (long : limit ≤ rows.length) (fits : size ≤ limit) :
    pageOf limit size encode rows =
      (rows.take size, (rows.take size).getLast?.map encode) := by
  have full : (rows.take limit).length = limit := by
    rw [List.length_take, Nat.min_eq_left long]
  have kept : (rows.take limit).take size = rows.take size := by
    rw [List.take_take, Nat.min_eq_left fits]
  simp only [pageOf, kept]
  exact if_pos full

/-- No more rows are kept than are fetched. -/
theorem pageOf_min (rows : List ρ) :
    pageOf limit size encode rows = pageOf limit (min size limit) encode rows := by
  simp only [pageOf]
  split
  · rename_i full
    have cut : (rows.take limit).take size = (rows.take limit).take (min size limit) := by
      rw [List.take_eq_take_min, full]
    rw [cut]
  · rfl

theorem exists_getLast?_take (rows : List ρ) {taken : Nat} (positive : 0 < taken)
    (enough : taken ≤ rows.length) : ∃ row, (rows.take taken).getLast? = some row := by
  have present : (rows.take taken) ≠ [] := by
    intro empty
    have none : (rows.take taken).length = 0 := by rw [empty]; rfl
    rw [List.length_take] at none
    omega
  exact ⟨_, List.getLast?_eq_some_getLast present⟩

theorem Visits.short (page : fetch cursor = .ok (pageOf limit size encode rows))
    (short : rows.length < limit) : Visits fetch cursor rows := by
  rw [pageOf_short short] at page
  exact .last page

theorem Visits.long {row : ρ} {later : List ρ}
    (page : fetch cursor = .ok (pageOf limit size encode rows)) (long : limit ≤ rows.length)
    (fits : size ≤ limit) (last : (rows.take size).getLast? = some row)
    (rest : Visits fetch (some (encode row)) later) :
    Visits fetch cursor (rows.take size ++ later) := by
  rw [pageOf_long long fits, last] at page
  exact .more page rest

theorem Visits.inv {visited : List ρ} (visits : Visits fetch cursor visited)
    (page : fetch cursor = .ok (pageOf limit size encode rows)) (positive : 0 < size)
    (fits : size ≤ limit) :
    (rows.length < limit ∧ visited = rows) ∨
      limit ≤ rows.length ∧ ∃ row later, (rows.take size).getLast? = some row ∧
        visited = rows.take size ++ later ∧ Visits fetch (some (encode row)) later := by
  by_cases long : limit ≤ rows.length
  · right
    obtain ⟨row, last⟩ := exists_getLast?_take rows positive (Nat.le_trans fits long)
    rw [pageOf_long long fits, last] at page
    refine ⟨long, row, ?_⟩
    cases visits with
    | last page' =>
        rw [page] at page'
        cases page'
    | @more _ shown later next page' rest =>
        rw [page] at page'
        cases page'
        exact ⟨later, last, rfl, rest⟩
  · left
    have short := Nat.lt_of_not_le long
    rw [pageOf_short short] at page
    refine ⟨short, ?_⟩
    cases visits with
    | last page' =>
        rw [page] at page'
        cases page'
        rfl
    | more page' rest =>
        rw [page] at page'
        cases page'

end Steps

theorem Visits.unique {fetch : Option χ → Except ε (List ρ × Option χ)} {cursor : Option χ}
    {first second : List ρ} (left : Visits fetch cursor first)
    (right : Visits fetch cursor second) : first = second := by
  induction left generalizing second with
  | last page =>
      cases right with
      | last page' =>
          rw [page] at page'
          cases page'
          rfl
      | more page' rest =>
          rw [page] at page'
          cases page'
  | more page _ induction =>
      cases right with
      | last page' =>
          rw [page] at page'
          cases page'
      | more page' rest =>
          rw [page] at page'
          cases page'
          rw [induction rest]

section Listing

variable {fetch : Option χ → Except ε (List ρ × Option χ)} {limit size : Nat} {encode : ρ → χ}
  {selects : ρ → ρ → Bool} {listing : List ρ}

/-- A selection of a listing is what comes after a row exactly when it takes each
of these, and neither the row nor one before. -/
theorem filter_eq_after_iff {p : ρ → Bool} {before after : List ρ} {row : ρ}
    (nodup : (before ++ row :: after).Nodup) :
    (before ++ row :: after).filter p = after ↔
      (∀ other ∈ before ++ [row], p other = false) ∧ ∀ other ∈ after, p other = true := by
  rw [List.append_cons] at nodup ⊢
  rw [List.filter_append]
  constructor
  · intro same
    constructor
    · intro other member
      rw [← Bool.not_eq_true]
      intro selected
      have late : other ∈ after := by
        rw [← same]
        exact List.mem_append_left _ (List.mem_filter.mpr ⟨member, selected⟩)
      exact (List.disjoint_of_nodup_append nodup) member late
    · intro other member
      rw [← same] at member
      rcases List.mem_append.mp member with early | late
      · exact List.of_mem_filter early
      · exact List.of_mem_filter late
  · rintro ⟨early, late⟩
    rw [List.filter_eq_self.mpr late, List.filter_eq_nil_iff.mpr]
    · rfl
    · intro other member
      rw [early other member]
      exact Bool.false_ne_true

/-- The rows after one are taken alone, with what it means that those before are not
taken and that those after are. -/
theorem filter_eq_after_congr {p : ρ → Bool} {before after : List ρ} {row : ρ}
    (nodup : (before ++ row :: after).Nodup) (self : p row = false) {Early Late : ρ → Prop}
    (early : ∀ other ∈ before, (p other = false ↔ Early other))
    (late : ∀ other ∈ after, (p other = true ↔ Late other)) :
    (before ++ row :: after).filter p = after ↔
      (∀ other ∈ before, Early other) ∧ ∀ other ∈ after, Late other := by
  rw [filter_eq_after_iff nodup]
  simp only [List.forall_mem_append, List.forall_mem_singleton, self, and_true]
  exact and_congr (forall₂_congr early) (forall₂_congr late)

theorem visits_perm_iff_short (first : fetch none = .ok (pageOf limit size encode listing))
    (fruitless : ∀ row ∈ listing, ∀ page, fetch (some (encode row)) = .ok page → page = ([], none))
    (positive : 0 < size) (more : size < limit) :
    (∃ visited, Visits fetch none visited ∧ visited.Perm listing) ↔ listing.length < limit := by
  constructor
  · rintro ⟨visited, visits, perm⟩
    rcases visits.inv first positive (Nat.le_of_lt more) with
      ⟨short, _⟩ | ⟨_, row, later, last, parts, further⟩
    · exact short
    · have member : row ∈ listing := List.mem_of_mem_take (List.mem_of_getLast? last)
      cases further with
      | last page =>
          have nothing : later = [] := congrArg Prod.fst (fruitless row member _ page)
          have shown := perm.length_eq
          rw [parts, nothing, List.append_nil, List.length_take] at shown
          omega
      | more page _ =>
          have nothing := fruitless row member _ page
          cases congrArg Prod.snd nothing
  · intro short
    exact ⟨listing, .short first short, List.Perm.refl listing⟩

theorem getLast?_page {taken : Nat} (positive : 0 < size)
    (enough : taken + size ≤ listing.length) :
    ((listing.drop taken).take size).getLast? = (listing.take (taken + size)).getLast? := by
  have parts : listing.take (taken + size) =
      listing.take taken ++ (listing.drop taken).take size := List.take_add
  have present : (listing.drop taken).take size ≠ [] := by
    intro empty
    have none : ((listing.drop taken).take size).length = 0 := by rw [empty]; rfl
    rw [List.length_take, List.length_drop] at none
    omega
  rw [parts, List.getLast?_append_of_ne_nil _ present]

theorem Pages.visits_drop (pages : Pages fetch limit size encode selects listing)
    (separates : SeparatesAtPages limit size selects listing) (seen : Nat) {cursor : Option χ}
    (page : fetch cursor = .ok (pageOf limit size encode (listing.drop (seen * size)))) :
    Visits fetch cursor (listing.drop (seen * size)) := by
  by_cases long : limit ≤ (listing.drop (seen * size)).length
  · have enough : seen * size + limit ≤ listing.length := by
      have positive := pages.positive
      have fits := pages.fits
      rw [List.length_drop] at long
      omega
    have next : (seen + 1) * size = seen * size + size := Nat.succ_mul seen size
    obtain ⟨row, last⟩ := exists_getLast?_take (listing.drop (seen * size)) pages.positive
      (Nat.le_trans pages.fits long)
    have last' : (listing.take ((seen + 1) * size)).getLast? = some row := by
      rw [next, ← getLast?_page pages.positive
        (Nat.le_trans (Nat.add_le_add_left pages.fits _) enough)]
      exact last
    have stored : row ∈ listing := List.mem_of_mem_take (List.mem_of_getLast? last')
    have page' := pages.next row stored
    rw [separates seen enough row last'] at page'
    have shorter : listing.length - (seen + 1) * size < listing.length - seen * size := by
      have positive := pages.positive
      have fits := pages.fits
      omega
    have rest := pages.visits_drop separates (seen + 1) page'
    have visits := Visits.long page long pages.fits last rest
    rw [next, ← List.drop_drop, List.take_append_drop] at visits
    exact visits
  · exact .short page (Nat.lt_of_not_le long)
termination_by listing.length - seen * size

/-- Along the listing a selection by a selected row is a selection: of the rows
after one, those that a selected one selects. -/
def ChainsAlong (selects : ρ → ρ → Bool) (listing : List ρ) : Prop :=
  ∀ before row after, listing = before ++ row :: after →
    ∀ middle ∈ after, ∀ last ∈ after, selects row middle = true → selects middle last = true →
      selects row last = true

theorem ChainsAlong.of_trans (trans : ∀ first second third, selects first second = true →
    selects second third = true → selects first third = true) : ChainsAlong selects listing :=
  fun _ row _ _ middle _ last _ => trans row middle last

theorem Pages.selected_of_visits (pages : Pages fetch limit size encode selects listing)
    (chains : ChainsAlong selects listing) {before after : List ρ} {row : ρ}
    (parts : listing = before ++ row :: after) {later : List ρ} {middle : ρ}
    (stored : middle ∈ row :: after) (within : later ⊆ after)
    (chain : ∀ last ∈ after, selects middle last = true → selects row last = true)
    (visits : Visits fetch (some (encode middle)) later) :
    ∀ last ∈ later, selects row last = true := by
  have listed : middle ∈ listing := by
    rw [parts]
    exact List.mem_append_right _ stored
  rcases visits.inv (pages.next middle listed) pages.positive pages.fits with
    ⟨_, whole⟩ | ⟨long, next, rest, isLast, visited, further⟩
  · intro last member
    apply chain last (within member)
    rw [whole] at member
    exact List.of_mem_filter member
  · have shown : ∀ last ∈ (listing.filter (selects middle)).take size,
        last ∈ after ∧ selects row last = true := by
      intro last member
      have present : last ∈ after := within (visited ▸ List.mem_append_left _ member)
      exact ⟨present, chain last present (List.of_mem_filter (List.mem_of_mem_take member))⟩
    obtain ⟨nextLater, nextSelected⟩ := shown next (List.mem_of_getLast? isLast)
    have shorter : rest.length < later.length := by
      have positive := pages.positive
      rw [visited, List.length_append, List.length_take,
        Nat.min_eq_left (Nat.le_trans pages.fits long)]
      omega
    have selected := pages.selected_of_visits chains parts (List.mem_cons_of_mem _ nextLater)
      (fun last member => within (visited ▸ List.mem_append_right _ member))
      (fun last present => chains before row after parts next nextLater last present nextSelected)
      further
    intro last member
    rw [visited] at member
    rcases List.mem_append.mp member with page | remaining
    · exact (shown last page).2
    · exact selected last remaining
termination_by later.length

theorem Visits.head_mem {p : ρ → Bool} {cursor : Option χ} {visited rows : List ρ} {row : ρ}
    (visits : Visits fetch cursor visited)
    (page : fetch cursor = .ok (pageOf limit size encode (listing.filter p))) (positive : 0 < size)
    (fits : size ≤ limit) (front : listing.filter p = row :: rows) : row ∈ visited := by
  rcases visits.inv page positive fits with ⟨_, whole⟩ | ⟨_, _, _, _, parts, _⟩
  · rw [whole, front]
    exact List.mem_cons_self
  · obtain ⟨size, rfl⟩ := Nat.exists_eq_succ_of_ne_zero (Nat.ne_of_gt positive)
    rw [parts, front, List.take_succ_cons]
    exact List.mem_cons_self

theorem Pages.filter_eq_of_visits (pages : Pages fetch limit size encode selects listing)
    (nodup : listing.Nodup) (chains : ChainsAlong selects listing) {before after : List ρ} {row : ρ}
    (parts : listing = before ++ row :: after) {visited : List ρ}
    (visits : Visits fetch (some (encode row)) visited) (left : visited.Perm after) :
    listing.filter (selects row) = after := by
  have listed : row ∈ listing := by
    rw [parts]
    exact List.mem_append_right _ List.mem_cons_self
  have selected := pages.selected_of_visits chains parts List.mem_cons_self left.subset
    (fun _ _ same => same) visits
  have held : after.filter (selects row) = after := by
    rw [List.filter_eq_self]
    intro other member
    exact selected other (left.mem_iff.mpr member)
  have whole : listing.filter (selects row) = (before ++ [row]).filter (selects row) ++ after := by
    have regrouped : listing = (before ++ [row]) ++ after := by simp [parts]
    rw [regrouped, List.filter_append, held]
  cases early : (before ++ [row]).filter (selects row) with
  | nil => rw [whole, early, List.nil_append]
  | cons other others =>
      rw [early, List.cons_append] at whole
      have late : other ∈ after := left.mem_iff.mp
        (visits.head_mem (pages.next row listed) pages.positive pages.fits whole)
      have taken : other ∈ before ++ [row] := List.mem_of_mem_filter (early ▸ List.mem_cons_self)
      have nodup' : ((before ++ [row]) ++ after).Nodup := by simpa [parts] using nodup
      exact absurd late ((List.disjoint_of_nodup_append nodup') taken)

theorem Pages.separates_of_visits (pages : Pages fetch limit size encode selects listing)
    (nodup : listing.Nodup) (chains : ChainsAlong selects listing) (seen : Nat)
    {cursor : Option χ} {visited : List ρ}
    (page : fetch cursor = .ok (pageOf limit size encode (listing.drop (seen * size))))
    (visits : Visits fetch cursor visited) (left : visited.Perm (listing.drop (seen * size))) :
    ∀ later, seen ≤ later → later * size + limit ≤ listing.length →
      Separates selects listing ((later + 1) * size) := by
  have next : (seen + 1) * size = seen * size + size := Nat.succ_mul seen size
  have positive := pages.positive
  rcases visits.inv page pages.positive pages.fits with
    ⟨short, _⟩ | ⟨long, row, rest, last, parts, further⟩
  · intro later reached enough
    have more := Nat.mul_le_mul_right size reached
    rw [List.length_drop] at short
    omega
  · have enough : seen * size + size ≤ listing.length := by
      have fits := pages.fits
      rw [List.length_drop] at long
      omega
    have dropped : (listing.drop (seen * size)).drop size = listing.drop ((seen + 1) * size) := by
      rw [List.drop_drop, next]
    have left' : rest.Perm (listing.drop ((seen + 1) * size)) := by
      have whole : listing.drop (seen * size) =
          (listing.drop (seen * size)).take size ++ listing.drop ((seen + 1) * size) := by
        rw [← dropped, List.take_append_drop]
      rw [parts] at left
      exact (List.perm_append_left_iff _).mp (left.trans (List.Perm.of_eq whole))
    have last' : (listing.take ((seen + 1) * size)).getLast? = some row := by
      rw [next, ← getLast?_page pages.positive enough]
      exact last
    obtain ⟨before, taken⟩ := List.getLast?_eq_some_iff.mp last'
    have whole : listing = before ++ row :: listing.drop ((seen + 1) * size) := by
      have split := (List.take_append_drop ((seen + 1) * size) listing).symm
      rw [taken, List.append_assoc, List.singleton_append] at split
      exact split
    have separated := pages.filter_eq_of_visits nodup chains whole further left'
    have stored : row ∈ listing := List.mem_of_mem_take (List.mem_of_getLast? last')
    have page' := pages.next row stored
    rw [separated] at page'
    have shorter : listing.length - (seen + 1) * size < listing.length - seen * size := by omega
    have later' := pages.separates_of_visits nodup chains (seen + 1) page' further left'
    intro later reached fullPage
    rcases Nat.eq_or_lt_of_le reached with rfl | beyond
    · intro other ends
      rw [last'] at ends
      obtain rfl := Option.some.inj ends
      exact separated
    · exact later' later beyond fullPage
termination_by listing.length - seen * size

/-- Following the cursors visits the rows of the listing, each once, exactly when
the cursors separate. -/
theorem Pages.visits_perm_iff (pages : Pages fetch limit size encode selects listing)
    (nodup : listing.Nodup) (chains : ChainsAlong selects listing) :
    (∃ visited, Visits fetch none visited ∧ visited.Perm listing) ↔
      SeparatesAtPages limit size selects listing := by
  have whole : listing.drop (0 * size) = listing := by rw [Nat.zero_mul, List.drop_zero]
  have first := pages.first
  rw [← whole] at first
  constructor
  · rintro ⟨visited, visits, perm⟩ seen enough
    rw [← whole] at perm
    exact pages.separates_of_visits nodup chains 0 first visits perm seen (Nat.zero_le seen) enough
  · intro separates
    have visits := pages.visits_drop separates 0 first
    rw [whole] at visits
    exact ⟨listing, visits, List.Perm.refl listing⟩

theorem Pages.visits_iff (pages : Pages fetch limit size encode selects listing)
    (nodup : listing.Nodup) (chains : ChainsAlong selects listing) :
    Visits fetch none listing ↔ SeparatesAtPages limit size selects listing := by
  constructor
  · intro visits
    exact (pages.visits_perm_iff nodup chains).mp ⟨listing, visits, List.Perm.refl listing⟩
  · intro separates
    have whole : listing.drop (0 * size) = listing := by rw [Nat.zero_mul, List.drop_zero]
    have visits := pages.visits_drop separates 0 (whole.symm ▸ pages.first)
    rw [whole] at visits
    exact visits

/-- A property of every page end with more to come: of the rows before it, its
own row and the rows that are left. -/
def AtPageEnds (limit size : Nat) (listing : List ρ) (P : List ρ → ρ → List ρ → Prop) : Prop :=
  ∀ before row after, listing = before ++ row :: after →
    ∀ pages, before.length + 1 = (pages + 1) * size → pages * size + limit ≤ listing.length →
      P before row after

theorem separatesAtPages_iff_atPageEnds (fits : size ≤ limit) :
    SeparatesAtPages limit size selects listing ↔
      AtPageEnds limit size listing fun _ row after => listing.filter (selects row) = after := by
  constructor
  · intro separates before row after split pages reached enough
    have here := separates pages enough
    have front : (before ++ row :: after).take (before.length + 1) = before ++ [row] := by
      rw [List.append_cons]
      exact List.take_left' (by simp)
    have back : (before ++ row :: after).drop (before.length + 1) = after := by
      rw [List.append_cons]
      exact List.drop_left' (by simp)
    rw [Separates, ← reached, split, front, back, ← split] at here
    exact here row (by simp)
  · intro ends pages enough row last
    obtain ⟨before, taken⟩ := List.getLast?_eq_some_iff.mp last
    have next : (pages + 1) * size = pages * size + size := Nat.succ_mul pages size
    have reached : before.length + 1 = (pages + 1) * size := by
      have lengths := congrArg List.length taken
      rw [List.length_take, List.length_append, List.length_singleton] at lengths
      omega
    have split := (List.take_append_drop ((pages + 1) * size) listing).symm
    rw [taken, List.append_assoc, List.singleton_append] at split
    exact ends before row _ split pages reached enough

/-- Properties that agree where rows are left hold at the same page ends. -/
theorem atPageEnds_congr {P Q : List ρ → ρ → List ρ → Prop} (more : size < limit)
    (same : ∀ before row after, listing = before ++ row :: after → after ≠ [] →
      (P before row after ↔ Q before row after)) :
    AtPageEnds limit size listing P ↔ AtPageEnds limit size listing Q := by
  have left : ∀ before row after, listing = before ++ row :: after →
      ∀ pages, before.length + 1 = (pages + 1) * size → pages * size + limit ≤ listing.length →
        after ≠ [] := by
    intro before row after split pages reached enough nothing
    have lengths := congrArg List.length split
    have next : (pages + 1) * size = pages * size + size := Nat.succ_mul pages size
    rw [nothing, List.length_append, List.length_singleton] at lengths
    omega
  constructor
  · intro ends before row after split pages reached enough
    exact (same before row after split (left before row after split pages reached enough)).mp
      (ends before row after split pages reached enough)
  · intro ends before row after split pages reached enough
    exact (same before row after split (left before row after split pages reached enough)).mpr
      (ends before row after split pages reached enough)

theorem Pages.of_conditions {ε : Type} {fetch : Option χ → Except ε (List ρ × Option χ)}
    {condition : Option χ → Except ε (ρ → Bool)} {arrange : List ρ → List ρ} {rows : List ρ}
    (commutes : ∀ p, arrange (rows.filter p) = (arrange rows).filter p)
    (fetched : ∀ cursor kept, condition cursor = .ok kept →
      fetch cursor = .ok (pageOf limit size encode (arrange (rows.filter kept))))
    (first : condition none = .ok fun _ => true)
    (next : ∀ row ∈ arrange rows, condition (some (encode row)) = .ok (selects row))
    (positive : 0 < size) (fits : size ≤ limit) :
    Pages fetch limit size encode selects (arrange rows) := by
  refine ⟨?_, ?_, positive, fits⟩
  · have page := fetched none _ first
    rw [List.filter_true] at page
    exact page
  · intro row member
    have page := fetched _ _ (next row member)
    rw [commutes] at page
    exact page

end Listing

end Paging

end OpenZync.Library
