import Mathlib.Algebra.Order.BigOperators.Group.List
import Mathlib.Algebra.Order.Group.Nat
import Mathlib.Data.List.Nodup
import Mathlib.Data.List.Perm.Subperm
import Mathlib.Data.Nat.Find

/-!
# Walks and breadth-first search

The walks along a relation by their length, and the least length of a walk to a
place.  Another relation has the same least lengths when it keeps the layers of
the first.

A queue of places with their depths.  A place is visited when it is taken from
the queue for the first time; up to a limit its neighbours are queued one deeper.
The places come out with their distances.
-/

namespace OpenZync.Library

section Walks

variable {ν : Type} {R : ν → ν → Prop} {start place : ν}

/-- A walk of some length. -/
inductive Walk (R : ν → ν → Prop) (start : ν) : ν → Nat → Prop where
  | stay : Walk R start start 0
  | step {place next : ν} {length : Nat} :
      Walk R start place length → R place next → Walk R start next (length + 1)

/-- The least length of a walk. -/
def IsDistance (R : ν → ν → Prop) (start place : ν) (distance : Nat) : Prop :=
  Walk R start place distance ∧ ∀ length, Walk R start place length → distance ≤ length

/-- The distances up to a limit, each place once. -/
structure IsBall (R : ν → ν → Prop) (limit : Nat) (start : ν) (found : List (ν × Nat)) :
    Prop where
  distinct : (found.map Prod.fst).Nodup
  mem_iff : ∀ place distance, (place, distance) ∈ found ↔
    IsDistance R start place distance ∧ distance ≤ limit

theorem Walk.eq_of_zero (walk : Walk R start place 0) : place = start := by
  cases walk
  rfl

theorem Walk.first_step {length : Nat} (walk : Walk R start place length) :
    place = start ∨ ∃ next, R start next := by
  induction walk with
  | stay => exact Or.inl rfl
  | @step place next length walk edge induction =>
      rcases induction with rfl | moved
      · exact Or.inr ⟨next, edge⟩
      · exact Or.inr moved

theorem Walk.exists_prefix {short length : Nat} (walk : Walk R start place length)
    (fits : short ≤ length) : ∃ passed, Walk R start passed short := by
  induction walk with
  | stay =>
      rw [Nat.le_zero] at fits
      exact ⟨start, fits ▸ .stay⟩
  | @step place next length walk edge induction =>
      rcases Nat.lt_or_eq_of_le fits with shorter | same
      · exact induction (Nat.le_of_lt_succ shorter)
      · exact ⟨next, same ▸ walk.step edge⟩

theorem isDistance_self (start : ν) : IsDistance R start start 0 :=
  ⟨.stay, fun length _ => Nat.zero_le length⟩

theorem IsDistance.unique {first second : Nat} (left : IsDistance R start place first)
    (right : IsDistance R start place second) : first = second :=
  Nat.le_antisymm (left.2 second right.1) (right.2 first left.1)

theorem Walk.exists_distance {length : Nat} (walk : Walk R start place length) :
    ∃ distance ≤ length, IsDistance R start place distance := by
  classical
  have reached : ∃ length, Walk R start place length := ⟨length, walk⟩
  exact ⟨Nat.find reached, Nat.find_min' reached walk, Nat.find_spec reached,
    fun _ other => Nat.find_min' reached other⟩

/-- Two relations that agree wherever a walk comes have the same walks. -/
theorem Walk.of_agree {S : ν → ν → Prop} {Inside : ν → Prop} (inside : Inside start)
    (stays : ∀ place next, Inside place → R place next → Inside next)
    (agree : ∀ place next, Inside place → R place next → S place next) {length : Nat}
    (walk : Walk R start place length) : Inside place ∧ Walk S start place length := by
  induction walk with
  | stay => exact ⟨inside, .stay⟩
  | step _ edge induction =>
      exact ⟨stays _ _ induction.1 edge, induction.2.step (agree _ _ induction.1 edge)⟩

theorem IsBall.congr {S : ν → ν → Prop} {limit : Nat} {found : List (ν × Nat)}
    (ball : IsBall R limit start found)
    (same : ∀ place length, Walk R start place length ↔ Walk S start place length) :
    IsBall S limit start found := by
  refine ⟨ball.distinct, fun place distance => ?_⟩
  rw [ball.mem_iff, IsDistance, IsDistance, same]
  simp only [same]

/-- Up to a limit, `R` leads from no layer of `S` past the next one, and into every
layer from the one before. -/
structure KeepsLayers (R S : ν → ν → Prop) (limit : Nat) (start : ν) : Prop where
  near : ∀ place next distance, IsDistance S start place distance → distance < limit →
    R place next → ∃ length ≤ distance + 1, Walk S start next length
  entered : ∀ next distance, IsDistance S start next (distance + 1) → distance < limit →
    ∃ place, IsDistance S start place distance ∧ R place next

variable {S : ν → ν → Prop} {limit : Nat}

/-- Before every place on a shortest walk stands one that is one nearer. -/
theorem IsDistance.exists_before {next : ν} {distance : Nat}
    (last : IsDistance R start next (distance + 1)) :
    ∃ place, IsDistance R start place distance ∧ R place next := by
  obtain ⟨walk, least⟩ := last
  cases walk with
  | @step place _ _ walk edge =>
      refine ⟨place, ⟨walk, ?_⟩, edge⟩
      intro length shorter
      exact Nat.le_of_succ_le_succ (least (length + 1) (shorter.step edge))

theorem KeepsLayers.refl (R : ν → ν → Prop) (limit : Nat) (start : ν) :
    KeepsLayers R R limit start := by
  constructor
  · intro place next distance reached _ edge
    exact ⟨distance + 1, le_rfl, reached.1.step edge⟩
  · intro next distance reached _
    exact reached.exists_before

theorem KeepsLayers.walk_le (keeps : KeepsLayers R S limit start) {length : Nat}
    (walk : Walk R start place length) (fits : length ≤ limit) :
    ∃ shorter ≤ length, Walk S start place shorter := by
  induction walk with
  | stay => exact ⟨0, le_rfl, .stay⟩
  | @step place next length walk edge induction =>
      obtain ⟨shorter, bound, other⟩ := induction (Nat.le_of_succ_le fits)
      obtain ⟨distance, nearer, least⟩ := other.exists_distance
      obtain ⟨further, near, reached⟩ := keeps.near place next distance least (by omega) edge
      exact ⟨further, by omega, reached⟩

theorem KeepsLayers.walk (keeps : KeepsLayers R S limit start) {distance : Nat}
    (reached : IsDistance S start place distance) (fits : distance ≤ limit) :
    Walk R start place distance := by
  induction distance generalizing place with
  | zero =>
      rw [reached.1.eq_of_zero]
      exact .stay
  | succ distance induction =>
      obtain ⟨before, earlier, edge⟩ := keeps.entered place distance reached fits
      exact (induction earlier (Nat.le_of_succ_le fits)).step edge

theorem sameDistances_iff :
    (∀ place distance, distance ≤ limit →
        (IsDistance R start place distance ↔ IsDistance S start place distance)) ↔
      KeepsLayers R S limit start := by
  constructor
  · intro same
    constructor
    · intro place next distance reached below edge
      have walk := ((same place distance (Nat.le_of_lt below)).mpr reached).1.step edge
      obtain ⟨least, bound, nearest⟩ := walk.exists_distance
      exact ⟨least, bound, ((same next least (by omega)).mp nearest).1⟩
    · intro next distance reached below
      obtain ⟨place, earlier, edge⟩ := ((same next (distance + 1) below).mpr reached).exists_before
      exact ⟨place, (same place distance (Nat.le_of_lt below)).mp earlier, edge⟩
  · intro keeps place distance fits
    constructor
    · rintro ⟨walk, least⟩
      obtain ⟨shorter, bound, other⟩ := keeps.walk_le walk fits
      obtain ⟨nearest, nearer, reached⟩ := other.exists_distance
      have back := least nearest (keeps.walk reached (by omega))
      rw [Nat.le_antisymm back (nearer.trans bound)]
      exact reached
    · intro reached
      refine ⟨keeps.walk reached fits, ?_⟩
      intro length walk
      rcases Nat.lt_or_ge limit length with beyond | within
      · exact fits.trans (Nat.le_of_lt beyond)
      · obtain ⟨shorter, bound, other⟩ := keeps.walk_le walk within
        exact (reached.2 shorter other).trans bound

end Walks

section Search

variable {ν : Type} [DecidableEq ν]

/-- The visited places with their depths, from the first one on, and the queue. -/
structure Search (ν : Type) where
  visited : List (ν × Nat)
  queue : List (ν × Nat)

namespace Search

def start (place : ν) : Search ν :=
  { visited := []
    queue := [(place, 0)] }

def Visits (search : Search ν) (place : ν) : Prop :=
  place ∈ search.visited.map Prod.fst

instance (search : Search ν) (place : ν) : Decidable (search.Visits place) :=
  inferInstanceAs (Decidable (place ∈ search.visited.map Prod.fst))

/-- The neighbours that are queued behind a place. -/
def behind (neighbours : ν → List ν) (limit : Nat) (search : Search ν) (place : ν)
    (depth : Nat) : List (ν × Nat) :=
  if limit ≤ depth then []
  else ((neighbours place).filter fun next => ¬ search.Visits next).map fun next =>
    (next, depth + 1)

/-- Mark a place as visited. -/
def mark (search : Search ν) (place : ν) (depth : Nat) (queue : List (ν × Nat)) : Search ν :=
  { visited := search.visited ++ [(place, depth)]
    queue := queue }

/-- Take the first place from the queue. -/
def take (neighbours : ν → List ν) (limit : Nat) (search : Search ν) (place : ν) (depth : Nat)
    (queue : List (ν × Nat)) : Search ν :=
  if search.Visits place then { search with queue := queue }
  else
    let marked := search.mark place depth queue
    { marked with queue := queue ++ marked.behind neighbours limit place depth }

/-- Search on until the queue is empty. -/
def run (neighbours : ν → List ν) (limit : Nat) : Nat → Search ν → Option (List (ν × Nat))
  | 0, _ => none
  | fuel + 1, search =>
      match search.queue with
      | [] => some search.visited
      | (place, depth) :: queue =>
          run neighbours limit fuel (search.take neighbours limit place depth queue)

/-- What holds of a search after every place it takes. -/
structure Sound (neighbours : ν → List ν) (limit : Nat) (start : ν) (search : Search ν) :
    Prop where
  distinct : (search.visited.map Prod.fst).Nodup
  distances : ∀ entry ∈ search.visited,
    IsDistance (fun place next => next ∈ neighbours place) start entry.1 entry.2
  within : ∀ entry ∈ search.visited, entry.2 ≤ limit
  queued : ∀ entry ∈ search.queue,
    Walk (fun place next => next ∈ neighbours place) start entry.1 entry.2 ∧ entry.2 ≤ limit
  level : ∃ level, ∀ entry ∈ search.queue, level ≤ entry.2 ∧ entry.2 ≤ level + 1
  ordered : search.queue.Pairwise fun first second => first.2 ≤ second.2
  begun : search.Visits start ∨ (start, 0) ∈ search.queue
  closed : ∀ entry ∈ search.visited, entry.2 < limit → ∀ next ∈ neighbours entry.1,
    search.Visits next ∨ (next, entry.2 + 1) ∈ search.queue

variable {neighbours : ν → List ν} {limit : Nat} {start : ν} {search : Search ν}

omit [DecidableEq ν] in
theorem sound_start (neighbours : ν → List ν) (limit : Nat) (place : ν) :
    Sound neighbours limit place (Search.start place) :=
  { distinct := by simp [Search.start]
    distances := by simp [Search.start]
    within := by simp [Search.start]
    queued := by
      simp only [Search.start, List.mem_singleton, forall_eq]
      exact ⟨.stay, Nat.zero_le limit⟩
    level := ⟨0, by simp [Search.start]⟩
    ordered := List.pairwise_singleton _ _
    begun := Or.inr List.mem_cons_self
    closed := by simp [Search.start] }

omit [DecidableEq ν] in
/-- A walk that is shorter than what is queued leads to a visited place. -/
theorem Sound.reached (sound : Sound neighbours limit start search) {bound : Nat}
    (queue : ∀ entry ∈ search.queue, bound ≤ entry.2) (capped : bound ≤ limit + 1) {place : ν}
    {length : Nat} (walk : Walk (fun place next => next ∈ neighbours place) start place length) :
    (∃ depth ≤ length, (place, depth) ∈ search.visited) ∨ bound ≤ length := by
  have visited : ∀ {place : ν} {length : Nat},
      Walk (fun place next => next ∈ neighbours place) start place length →
        search.Visits place → ∃ depth ≤ length, (place, depth) ∈ search.visited := by
    intro place length walk visits
    obtain ⟨entry, member, rfl⟩ := List.mem_map.mp visits
    exact ⟨entry.2, (sound.distances entry member).2 length walk, member⟩
  induction walk with
  | stay =>
      rcases sound.begun with visits | waits
      · exact Or.inl (visited .stay visits)
      · exact Or.inr (queue _ waits)
  | @step place next length walk edge induction =>
      rcases induction with ⟨depth, short, member⟩ | far
      · rcases Nat.lt_or_ge depth limit with inside | deep
        · rcases sound.closed _ member inside next edge with visits | waits
          · exact Or.inl (visited (walk.step edge) visits)
          · have near := queue _ waits
            exact Or.inr (Nat.le_trans near (Nat.succ_le_succ short))
        · exact Or.inr (by omega)
      · exact Or.inr (Nat.le_succ_of_le far)

omit [DecidableEq ν] in
/-- A place that is taken for the first time has its distance for depth. -/
theorem Sound.distance_of_first (sound : Sound neighbours limit start search) {place : ν}
    {depth : Nat} {queue : List (ν × Nat)} (first : search.queue = (place, depth) :: queue)
    (unvisited : ¬ search.Visits place) :
    IsDistance (fun place next => next ∈ neighbours place) start place depth ∧ depth ≤ limit := by
  have ordered := sound.ordered
  rw [first, List.pairwise_cons] at ordered
  obtain ⟨walk, shallow⟩ := sound.queued (place, depth) (first ▸ List.mem_cons_self)
  refine ⟨⟨walk, fun length other => ?_⟩, shallow⟩
  have front : ∀ entry ∈ search.queue, depth ≤ entry.2 := by
    rw [first, List.forall_mem_cons]
    exact ⟨Nat.le_refl depth, ordered.1⟩
  rcases sound.reached front (Nat.le_succ_of_le shallow) other with ⟨_, _, member⟩ | near
  · exact absurd (List.mem_map_of_mem member) unvisited
  · exact near

omit [DecidableEq ν] in
theorem Sound.skip (sound : Sound neighbours limit start search) {place : ν} {depth : Nat}
    {queue : List (ν × Nat)} (first : search.queue = (place, depth) :: queue)
    (visits : search.Visits place) :
    Sound neighbours limit start { search with queue := queue } := by
  have later : ∀ entry ∈ queue, entry ∈ search.queue := fun entry member =>
    first ▸ List.mem_cons_of_mem _ member
  have gone : ∀ {next : ν} {deep : Nat}, search.Visits next ∨ (next, deep) ∈ search.queue →
      search.Visits next ∨ (next, deep) ∈ queue := by
    intro next deep seen
    rw [first, List.mem_cons, Prod.mk.injEq] at seen
    rcases seen with seen | ⟨rfl, rfl⟩ | waits
    · exact Or.inl seen
    · exact Or.inl visits
    · exact Or.inr waits
  obtain ⟨level, levels⟩ := sound.level
  exact
    { distinct := sound.distinct
      distances := sound.distances
      within := sound.within
      queued := fun entry member => sound.queued entry (later entry member)
      level := ⟨level, fun entry member => levels entry (later entry member)⟩
      ordered := (first ▸ sound.ordered).of_cons
      begun := gone sound.begun
      closed := fun entry member inside next edge =>
        gone (sound.closed entry member inside next edge) }

omit [DecidableEq ν] in
theorem visits_mark {place next : ν} {depth : Nat} {queue : List (ν × Nat)} :
    (search.mark place depth queue).Visits next ↔ search.Visits next ∨ next = place := by
  simp [Visits, mark]

theorem mem_behind {place : ν} {depth : Nat} {entry : ν × Nat} :
    entry ∈ search.behind neighbours limit place depth ↔
      depth < limit ∧ entry.1 ∈ neighbours place ∧ ¬ search.Visits entry.1 ∧
        entry.2 = depth + 1 := by
  rw [behind]
  split
  · rename_i deep
    simp [Nat.not_lt_of_le deep]
  · rename_i inside
    obtain ⟨next, other⟩ := entry
    simp only [List.mem_map, List.mem_filter, decide_eq_true_eq, Prod.mk.injEq]
    constructor
    · rintro ⟨next, ⟨edge, unvisited⟩, rfl, rfl⟩
      exact ⟨Nat.lt_of_not_le inside, edge, unvisited, rfl⟩
    · rintro ⟨_, edge, unvisited, rfl⟩
      exact ⟨next, ⟨edge, unvisited⟩, rfl, rfl⟩

omit [DecidableEq ν] in
theorem nodup_mark {place : ν} {depth : Nat} (queue : List (ν × Nat))
    (distinct : (search.visited.map Prod.fst).Nodup) (unvisited : ¬ search.Visits place) :
    ((search.mark place depth queue).visited.map Prod.fst).Nodup := by
  simp only [mark, List.map_append, List.map_singleton]
  rw [List.nodup_append_comm, List.singleton_append, List.nodup_cons]
  exact ⟨unvisited, distinct⟩

omit [DecidableEq ν] in
theorem forall_mem_mark {place : ν} {depth : Nat} {queue : List (ν × Nat)}
    {P : ν × Nat → Prop} (earlier : ∀ entry ∈ search.visited, P entry) (last : P (place, depth)) :
    ∀ entry ∈ (search.mark place depth queue).visited, P entry := by
  intro entry member
  rcases List.mem_append.mp member with before | marked
  · exact earlier entry before
  · rw [List.mem_singleton.mp marked]
    exact last

/-- What is queued behind a place is equally deep. -/
theorem pairwise_behind {place : ν} {depth : Nat} :
    (search.behind neighbours limit place depth).Pairwise fun first second =>
      first.2 ≤ second.2 := by
  rw [List.pairwise_iff_forall_sublist]
  intro one other pair
  have one' := mem_behind.mp (pair.subset List.mem_cons_self)
  have other' := mem_behind.mp (pair.subset (List.mem_cons_of_mem _ List.mem_cons_self))
  exact Nat.le_of_eq (one'.2.2.2.trans other'.2.2.2.symm)

omit [DecidableEq ν] in
/-- The queue has two depths at most, the one of its first entry and the next. -/
theorem Sound.levels (sound : Sound neighbours limit start search) {place : ν} {depth : Nat}
    {queue : List (ν × Nat)} (first : search.queue = (place, depth) :: queue) :
    ∀ entry ∈ queue, depth ≤ entry.2 ∧ entry.2 ≤ depth + 1 := by
  intro entry member
  have ordered := sound.ordered
  rw [first, List.pairwise_cons] at ordered
  obtain ⟨level, levels⟩ := sound.level
  rw [first, List.forall_mem_cons] at levels
  exact ⟨ordered.1 entry member,
    Nat.le_trans (levels.2 entry member).2 (Nat.succ_le_succ levels.1.1)⟩

theorem Sound.visit (sound : Sound neighbours limit start search) {place : ν} {depth : Nat}
    {queue : List (ν × Nat)} (first : search.queue = (place, depth) :: queue)
    (unvisited : ¬ search.Visits place) :
    Sound neighbours limit start
      { search.mark place depth queue with
        queue :=
          queue ++ (search.mark place depth queue).behind neighbours limit place depth } := by
  obtain ⟨distance, shallow⟩ := sound.distance_of_first first unvisited
  have gone : ∀ {next : ν} {deep : Nat}, search.Visits next ∨ (next, deep) ∈ search.queue →
      (search.mark place depth queue).Visits next ∨ (next, deep) ∈
        queue ++ (search.mark place depth queue).behind neighbours limit place depth := by
    intro next deep seen
    rw [first, List.mem_cons, Prod.mk.injEq] at seen
    rw [visits_mark, List.mem_append]
    rcases seen with seen | ⟨rfl, rfl⟩ | waits
    · exact Or.inl (Or.inl seen)
    · exact Or.inl (Or.inr rfl)
    · exact Or.inr (Or.inl waits)
  refine ⟨nodup_mark queue sound.distinct unvisited, forall_mem_mark sound.distances distance,
    forall_mem_mark sound.within shallow, ?_, ⟨depth, ?_⟩, ?_, gone sound.begun,
    forall_mem_mark ?_ ?_⟩
  · intro entry member
    rcases List.mem_append.mp member with waits | next
    · exact sound.queued entry (first ▸ List.mem_cons_of_mem _ waits)
    · obtain ⟨inside, edge, _, deep⟩ := mem_behind.mp next
      rw [deep]
      exact ⟨distance.1.step edge, inside⟩
  · intro entry member
    rcases List.mem_append.mp member with waits | next
    · exact sound.levels first entry waits
    · rw [(mem_behind.mp next).2.2.2]
      exact ⟨Nat.le_succ depth, Nat.le_refl _⟩
  · refine List.pairwise_append.mpr ⟨(first ▸ sound.ordered).of_cons, pairwise_behind, ?_⟩
    intro entry waits other next
    rw [(mem_behind.mp next).2.2.2]
    exact (sound.levels first entry waits).2
  · intro entry earlier inside next edge
    exact gone (sound.closed entry earlier inside next edge)
  · intro inside next edge
    by_cases seen : (search.mark place depth queue).Visits next
    · exact Or.inl seen
    · right
      exact List.mem_append_right _ (mem_behind.mpr ⟨inside, edge, seen, rfl⟩)

theorem Sound.take (sound : Sound neighbours limit start search) {place : ν} {depth : Nat}
    {queue : List (ν × Nat)} (first : search.queue = (place, depth) :: queue) :
    Sound neighbours limit start (search.take neighbours limit place depth queue) := by
  rw [Search.take]
  split
  · rename_i visits
    exact sound.skip first visits
  · rename_i unvisited
    exact sound.visit first unvisited

/-- Once the queue is empty, all distances are found. -/
theorem Sound.isBall (sound : Sound neighbours limit start search) (empty : search.queue = []) :
    IsBall (fun place next => next ∈ neighbours place) limit start search.visited := by
  refine ⟨sound.distinct, fun place distance => ⟨fun member => ?_, ?_⟩⟩
  · exact ⟨sound.distances _ member, sound.within _ member⟩
  · rintro ⟨⟨walk, least⟩, near⟩
    have queue : ∀ entry ∈ search.queue, limit + 1 ≤ entry.2 := by
      rw [empty]
      simp
    rcases sound.reached queue (Nat.le_refl _) walk with ⟨depth, short, member⟩ | far
    · have same := (sound.distances _ member).unique ⟨walk, least⟩
      rw [← same]
      exact member
    · omega

theorem run_isBall {fuel : Nat} {found : List (ν × Nat)}
    (sound : Sound neighbours limit start search)
    (result : run neighbours limit fuel search = some found) :
    IsBall (fun place next => next ∈ neighbours place) limit start found := by
  induction fuel generalizing search with
  | zero => cases result
  | succ fuel induction =>
      rw [run] at result
      split at result
      · rename_i empty
        cases result
        exact sound.isBall empty
      · rename_i first
        exact induction (sound.take first) result

/-- The search stays among finitely many places. -/
structure Confined (neighbours : ν → List ν) (places : List ν) (search : Search ν) : Prop where
  closed : ∀ place ∈ places, ∀ next ∈ neighbours place, next ∈ places
  distinct : (search.visited.map Prod.fst).Nodup
  visited : ∀ entry ∈ search.visited, entry.1 ∈ places
  queued : ∀ entry ∈ search.queue, entry.1 ∈ places

/-- How often places are taken from the queue at most, where none has more than
`width` neighbours. -/
def patience (places : List ν) (width : Nat) (search : Search ν) : Nat :=
  (places.length - search.visited.length) * (width + 1) + search.queue.length

variable {places : List ν}

omit [DecidableEq ν] in
theorem Confined.length_visited (confined : Confined neighbours places search) :
    search.visited.length ≤ places.length := by
  have inside : search.visited.map Prod.fst ⊆ places := by
    intro place member
    obtain ⟨entry, visited, rfl⟩ := List.mem_map.mp member
    exact confined.visited entry visited
  have fits := (List.subperm_of_subset confined.distinct inside).length_le
  rw [List.length_map] at fits
  exact fits

theorem length_behind_le (neighbours : ν → List ν) (limit : Nat) (search : Search ν) (place : ν)
    (depth : Nat) :
    (search.behind neighbours limit place depth).length ≤ (neighbours place).length := by
  rw [behind]
  split
  · exact Nat.zero_le _
  · rw [List.length_map]
    exact List.length_filter_le _ _

theorem Confined.take (confined : Confined neighbours places search) (limit : Nat) {width : Nat}
    (narrow : ∀ place ∈ places, (neighbours place).length ≤ width) {place : ν} {depth : Nat}
    {queue : List (ν × Nat)} (first : search.queue = (place, depth) :: queue) :
    Confined neighbours places (search.take neighbours limit place depth queue) ∧
      patience places width (search.take neighbours limit place depth queue) <
        patience places width search := by
  have inside : place ∈ places := confined.queued (place, depth) (first ▸ List.mem_cons_self)
  have later : ∀ entry ∈ queue, entry.1 ∈ places := fun entry member =>
    confined.queued entry (first ▸ List.mem_cons_of_mem _ member)
  rw [Search.take]
  split
  · refine ⟨⟨confined.closed, confined.distinct, confined.visited, later⟩, ?_⟩
    rw [patience, patience, first, List.length_cons]
    exact Nat.lt_succ_self _
  · rename_i unvisited
    have marked : Confined neighbours places
        { search.mark place depth queue with
          queue :=
            queue ++ (search.mark place depth queue).behind neighbours limit place depth } := by
      refine ⟨confined.closed, nodup_mark queue confined.distinct unvisited,
        forall_mem_mark confined.visited inside, ?_⟩
      intro entry member
      rcases List.mem_append.mp member with waits | next
      · exact later entry waits
      · exact confined.closed place inside entry.1 (mem_behind.mp next).2.1
    refine ⟨marked, ?_⟩
    have fits := marked.length_visited
    have few := Nat.le_trans
      (length_behind_le neighbours limit (search.mark place depth queue) place depth)
      (narrow place inside)
    obtain ⟨rest, room⟩ := Nat.exists_eq_add_of_le fits
    simp only [mark, List.length_append, List.length_singleton] at room
    have before : places.length - search.visited.length = rest + 1 := by omega
    have after : places.length - (search.visited.length + 1) = rest := by omega
    simp only [patience, first, List.length_append, List.length_cons]
    simp only [mark, List.length_append, List.length_singleton, before, after, Nat.succ_mul]
      at few ⊢
    omega

theorem run_some {width : Nat}
    (narrow : ∀ place ∈ places, (neighbours place).length ≤ width)
    (confined : Confined neighbours places search) {fuel : Nat}
    (enough : patience places width search < fuel) :
    ∃ found, ∀ more, run neighbours limit (fuel + more) search = some found := by
  induction fuel generalizing search with
  | zero => exact absurd enough (Nat.not_lt_zero _)
  | succ fuel induction =>
      match queue : search.queue with
      | [] =>
          refine ⟨search.visited, fun more => ?_⟩
          rw [Nat.succ_add, run, queue]
      | (place, depth) :: rest =>
          obtain ⟨next, less⟩ := confined.take limit narrow queue
          obtain ⟨found, result⟩ := induction next (by omega)
          refine ⟨found, fun more => ?_⟩
          rw [Nat.succ_add, run, queue]
          exact result more

/-- Among finitely many places the search ends, with all distances up to its limit. -/
theorem exists_run (neighbours : ν → List ν) (limit : Nat) {places : List ν}
    (closed : ∀ place ∈ places, ∀ next ∈ neighbours place, next ∈ places) {start : ν}
    (inside : start ∈ places) :
    ∃ found, IsBall (fun place next => next ∈ neighbours place) limit start found ∧
      ∃ enough, ∀ fuel, enough ≤ fuel →
        run neighbours limit fuel (Search.start start) = some found := by
  let width := (places.map fun place => (neighbours place).length).sum
  have narrow : ∀ place ∈ places, (neighbours place).length ≤ width := fun place member =>
    List.single_le_sum (fun _ _ => Nat.zero_le _) _ (List.mem_map_of_mem member)
  have confined : Confined neighbours places (Search.start start) :=
    { closed := closed
      distinct := by simp [Search.start]
      visited := by simp [Search.start]
      queued := by simpa [Search.start] using inside }
  let enough := patience places width (Search.start start) + 1
  obtain ⟨found, result⟩ : ∃ found, ∀ more,
      run neighbours limit (enough + more) (Search.start start) = some found :=
    run_some narrow confined (Nat.lt_succ_self _)
  refine ⟨found, run_isBall (sound_start neighbours limit start) (result 0), enough, ?_⟩
  intro fuel fits
  rw [← Nat.add_sub_cancel' fits]
  exact result _

end Search

end Search

end OpenZync.Library
