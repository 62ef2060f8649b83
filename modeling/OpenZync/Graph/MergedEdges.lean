import OpenZync.Graph.EntityMerge

/-!
# Where the edges of merged entities end

Which keys hold an active edge after a merge.  One query is described for
arbitrary selections; the two queries of a type compose to `rewireType`, types
do not interfere, and the whole merge follows.
-/

namespace OpenZync.Graph

/-- Some edge of the key is stored. -/
def Present (edges : List EntityEdge) (key : EntityKey) : Prop :=
  ∃ edge ∈ edges, edge.key = key

/-- Some edge of the key is active. -/
def Active (edges : List EntityEdge) (key : EntityKey) : Prop :=
  ∃ edge ∈ edges, edge.key = key ∧ edge.isActive = true

theorem Active.present {edges : List EntityEdge} {key : EntityKey} (active : Active edges key) :
    Present edges key := by
  obtain ⟨edge, member, same, _⟩ := active
  exact ⟨edge, member, same⟩

theorem present_append {first second : List EntityEdge} {key : EntityKey} :
    Present (first ++ second) key ↔ Present first key ∨ Present second key := by
  simp [Present, or_and_right, exists_or]

theorem active_append {first second : List EntityEdge} {key : EntityKey} :
    Active (first ++ second) key ↔ Active first key ∨ Active second key := by
  simp [Active, or_and_right, exists_or]

section Query

variable {edges : List EntityEdge} {selects : EntityEdge → Bool}
variable {moved : EntityEdge → EntityEdge} {key : EntityKey}

theorem present_foldl_mergeRow {rows created : List EntityEdge} :
    Present (rows.foldl (mergeRow edges moved) created) key ↔
      Present created key ∨ ¬ Present edges key ∧ ∃ row ∈ rows, (moved row).key = key := by
  induction rows generalizing created with
  | nil => simp
  | cons row rows induction =>
      rw [List.foldl_cons, induction, mergeRow]
      split
      · rename_i found
        have matched : Present edges (moved row).key ∨ Present created (moved row).key := by
          simpa [Present] using found
        constructor
        · rintro (old | ⟨free, later, member, same⟩)
          · exact .inl old
          · exact .inr ⟨free, later, by simp [member], same⟩
        · rintro (old | ⟨free, later, member, same⟩)
          · exact .inl old
          · rcases List.mem_cons.mp member with rfl | member
            · rw [same] at matched
              exact .inl (matched.resolve_left free)
            · exact .inr ⟨free, later, member, same⟩
      · rename_i missing
        have free : ¬ Present edges (moved row).key := by
          intro present
          apply missing
          obtain ⟨edge, member, same⟩ := present
          exact List.any_eq_true.mpr ⟨edge, by simp [member], by simp [same]⟩
        rw [present_append]
        constructor
        · rintro ((old | new) | ⟨free', later, member, same⟩)
          · exact .inl old
          · have same : (moved row).key = key := by simpa [Present] using new
            rw [same] at free
            exact .inr ⟨free, row, by simp, same⟩
          · exact .inr ⟨free', later, by simp [member], same⟩
        · rintro (old | ⟨free', later, member, same⟩)
          · exact .inl (.inl old)
          · rcases List.mem_cons.mp member with rfl | member
            · exact .inl (.inr ⟨moved later, by simp, same⟩)
            · exact .inr ⟨free', later, member, same⟩

theorem mem_foldl_mergeRow {rows created : List EntityEdge} {edge : EntityEdge}
    (member : edge ∈ rows.foldl (mergeRow edges moved) created) :
    edge ∈ created ∨ ∃ row ∈ rows, edge = moved row := by
  induction rows generalizing created with
  | nil => exact .inl member
  | cons row rows induction =>
      rw [List.foldl_cons] at member
      rcases induction member with early | ⟨later, laterMember, same⟩
      · rw [mergeRow] at early
        split at early
        · exact .inl early
        · rcases List.mem_append.mp early with old | new
          · exact .inl old
          · exact .inr ⟨row, by simp, List.mem_singleton.mp new⟩
      · exact .inr ⟨later, by simp [laterMember], same⟩

theorem present_rewire :
    Present (rewire selects moved edges) key ↔
      (∃ edge ∈ edges, edge.key = key ∧ selects edge = false) ∨
        ¬ Present edges key ∧ ∃ row ∈ edges, selects row = true ∧ (moved row).key = key := by
  rw [rewire, present_append, present_foldl_mergeRow]
  simp [Present, and_assoc, and_comm, and_left_comm]

theorem active_rewire (movedActive : ∀ edge, (moved edge).isActive = true) :
    Active (rewire selects moved edges) key ↔
      (∃ edge ∈ edges, edge.key = key ∧ selects edge = false ∧ edge.isActive = true) ∨
        ¬ Present edges key ∧ ∃ row ∈ edges, selects row = true ∧ (moved row).key = key := by
  have created : Active ((edges.filter selects).foldl (mergeRow edges moved) []) key ↔
      Present ((edges.filter selects).foldl (mergeRow edges moved) []) key := by
    refine ⟨Active.present, ?_⟩
    rintro ⟨edge, member, same⟩
    refine ⟨edge, member, same, ?_⟩
    rcases mem_foldl_mergeRow member with early | ⟨row, _, rfl⟩
    · cases early
    · exact movedActive row
  rw [rewire, active_append, created, present_foldl_mergeRow]
  simp [Present, Active, and_assoc, and_comm, and_left_comm]

/-- Where the selection and the new place depend on the keys, so does the
outcome. -/
theorem active_rewire_keys (Selected : EntityKey → Prop) (move : EntityKey → EntityKey)
    (selected : ∀ edge, selects edge = true ↔ Selected edge.key ∧ edge.isActive = true)
    (movedKey : ∀ edge, (moved edge).key = move edge.key)
    (movedActive : ∀ edge, (moved edge).isActive = true) :
    Active (rewire selects moved edges) key ↔
      Active edges key ∧ ¬ Selected key ∨
        ¬ Present edges key ∧ ∃ former, Selected former ∧ Active edges former ∧
          move former = key := by
  rw [active_rewire movedActive]
  apply or_congr
  · constructor
    · rintro ⟨edge, member, rfl, kept, active⟩
      refine ⟨⟨edge, member, rfl, active⟩, fun chosen => ?_⟩
      rw [(selected edge).mpr ⟨chosen, active⟩] at kept
      cases kept
    · rintro ⟨⟨edge, member, rfl, active⟩, kept⟩
      refine ⟨edge, member, rfl, ?_, active⟩
      rw [← Bool.not_eq_true]
      exact fun chosen => kept ((selected edge).mp chosen).1
  · apply and_congr_right
    intro _
    constructor
    · rintro ⟨row, member, chosen, same⟩
      obtain ⟨chosenKey, active⟩ := (selected row).mp chosen
      exact ⟨row.key, chosenKey, ⟨row, member, rfl, active⟩, by rw [← movedKey, same]⟩
    · rintro ⟨former, chosen, ⟨row, member, rfl, active⟩, same⟩
      exact ⟨row, member, (selected row).mpr ⟨chosen, active⟩, by rw [movedKey, same]⟩

end Query

section Merge

variable {canonicalId : Uuid} {mergedIds : List Uuid} {edges : List EntityEdge}
variable {source target : Uuid} {relType queried : EdgeType}

/-- The incoming query empties the keys into merged entities, except those from
the canonical one, and fills the free keys into the canonical one. -/
theorem active_incoming :
    Active (rewire (selectsIncoming canonicalId mergedIds queried) (movedIncoming canonicalId)
        edges) (source, target, relType) ↔
      Active edges (source, target, relType) ∧
          ¬ (target ∈ mergedIds ∧ relType = queried ∧ source ≠ canonicalId) ∨
        ¬ Present edges (source, target, relType) ∧ target = canonicalId ∧
          relType = queried ∧ source ≠ canonicalId ∧
          ∃ merged ∈ mergedIds, Active edges (source, merged, relType) := by
  have selected : ∀ edge, selectsIncoming canonicalId mergedIds queried edge = true ↔
      (edge.key.2.1 ∈ mergedIds ∧ edge.key.2.2 = queried ∧ edge.key.1 ≠ canonicalId) ∧
        edge.isActive = true := by
    intro edge
    simp [selectsIncoming, EntityEdge.key, and_assoc, Subtype.ext_iff]
  rw [active_rewire_keys
    (fun key => key.2.1 ∈ mergedIds ∧ key.2.2 = queried ∧ key.1 ≠ canonicalId)
    (fun key => (key.1, canonicalId, key.2.2)) selected (fun _ => rfl) fun _ => rfl]
  apply or_congr_right
  apply and_congr_right
  intro _
  constructor
  · rintro ⟨⟨former, merged, formerType⟩, ⟨member, rfl, different⟩, active, same⟩
    cases same
    exact ⟨rfl, rfl, different, merged, member, active⟩
  · rintro ⟨rfl, rfl, different, merged, member, active⟩
    exact ⟨(source, merged, relType), ⟨member, rfl, different⟩, active, rfl⟩

/-- The outgoing query empties the keys out of merged entities, except those to
the canonical one, and fills the free keys out of the canonical one. -/
theorem active_outgoing :
    Active (rewire (selectsOutgoing canonicalId mergedIds queried) (movedOutgoing canonicalId)
        edges) (source, target, relType) ↔
      Active edges (source, target, relType) ∧
          ¬ (source ∈ mergedIds ∧ relType = queried ∧ target ≠ canonicalId) ∨
        ¬ Present edges (source, target, relType) ∧ source = canonicalId ∧
          relType = queried ∧ target ≠ canonicalId ∧
          ∃ merged ∈ mergedIds, Active edges (merged, target, relType) := by
  have selected : ∀ edge, selectsOutgoing canonicalId mergedIds queried edge = true ↔
      (edge.key.1 ∈ mergedIds ∧ edge.key.2.2 = queried ∧ edge.key.2.1 ≠ canonicalId) ∧
        edge.isActive = true := by
    intro edge
    simp [selectsOutgoing, EntityEdge.key, and_assoc, Subtype.ext_iff]
  rw [active_rewire_keys
    (fun key => key.1 ∈ mergedIds ∧ key.2.2 = queried ∧ key.2.1 ≠ canonicalId)
    (fun key => (canonicalId, key.2.1, key.2.2)) selected (fun _ => rfl) fun _ => rfl]
  apply or_congr_right
  apply and_congr_right
  intro _
  constructor
  · rintro ⟨⟨merged, former, formerType⟩, ⟨member, rfl, different⟩, active, same⟩
    cases same
    exact ⟨rfl, rfl, different, merged, member, active⟩
  · rintro ⟨rfl, rfl, different, merged, member, active⟩
    exact ⟨(merged, target, relType), ⟨member, rfl, different⟩, active, rfl⟩

/-- What lies between the canonical entity and another one is left alone by the
incoming query. -/
theorem present_incoming (different : target ≠ canonicalId) :
    Present (rewire (selectsIncoming canonicalId mergedIds queried) (movedIncoming canonicalId)
        edges) (canonicalId, target, relType) ↔
      Present edges (canonicalId, target, relType) := by
  rw [present_rewire]
  constructor
  · rintro (⟨edge, member, same, _⟩ | ⟨_, row, _, _, same⟩)
    · exact ⟨edge, member, same⟩
    · have landed : canonicalId = target := congrArg (fun key => key.2.1) same
      exact absurd landed.symm different
  · rintro ⟨edge, member, same⟩
    refine .inl ⟨edge, member, same, ?_⟩
    have start : edge.source = canonicalId := congrArg Prod.fst same
    simp [selectsIncoming, start]

/-- The queries of one type leave the keys of the others alone. -/
theorem active_rewireType_of_ne (different : relType ≠ queried) :
    Active (rewireType canonicalId mergedIds edges queried) (source, target, relType) ↔
      Active edges (source, target, relType) := by
  rw [rewireType, active_outgoing, active_incoming]
  simp [different]

theorem present_rewire_of_ne {selects : EntityEdge → Bool} {moved : EntityEdge → EntityEdge}
    (different : relType ≠ queried)
    (selected : ∀ edge, selects edge = true → edge.relType = queried)
    (movedType : ∀ edge, (moved edge).relType = edge.relType) :
    Present (rewire selects moved edges) (source, target, relType) ↔
      Present edges (source, target, relType) := by
  rw [present_rewire]
  constructor
  · rintro (⟨edge, member, same, _⟩ | ⟨_, row, _, chosen, same⟩)
    · exact ⟨edge, member, same⟩
    · have landed : (moved row).relType = relType := congrArg (fun key => key.2.2) same
      rw [movedType, selected row chosen] at landed
      exact absurd landed.symm different
  · rintro ⟨edge, member, same⟩
    refine .inl ⟨edge, member, same, ?_⟩
    rw [← Bool.not_eq_true]
    intro chosen
    have kept : edge.relType = relType := congrArg (fun key => key.2.2) same
    exact different (kept.symm.trans (selected edge chosen))

theorem present_rewireType_of_ne (different : relType ≠ queried) :
    Present (rewireType canonicalId mergedIds edges queried) (source, target, relType) ↔
      Present edges (source, target, relType) := by
  have incoming : ∀ edge, selectsIncoming canonicalId mergedIds queried edge = true →
      edge.relType = queried := by
    intro edge chosen
    simp only [selectsIncoming, Bool.and_eq_true, beq_iff_eq] at chosen
    exact chosen.1.1.2
  have outgoing : ∀ edge, selectsOutgoing canonicalId mergedIds queried edge = true →
      edge.relType = queried := by
    intro edge chosen
    simp only [selectsOutgoing, Bool.and_eq_true, beq_iff_eq] at chosen
    exact chosen.1.1.2
  have movedIn : ∀ edge, (movedIncoming canonicalId edge).relType = edge.relType :=
    fun _ => rfl
  have movedOut : ∀ edge, (movedOutgoing canonicalId edge).relType = edge.relType :=
    fun _ => rfl
  rw [rewireType, present_rewire_of_ne different outgoing movedOut,
    present_rewire_of_ne different incoming movedIn]

/-- When a key holds an active edge after the queries of its type. -/
def Rewired (canonicalId : Uuid) (mergedIds : List Uuid) (edges : List EntityEdge)
    (source target : Uuid) (relType : EdgeType) : Prop :=
  (Active edges (source, target, relType) ∧ ¬ (target ∈ mergedIds ∧ source ≠ canonicalId) ∨
      ¬ Present edges (source, target, relType) ∧ target = canonicalId ∧
        source ≠ canonicalId ∧ ∃ merged ∈ mergedIds, Active edges (source, merged, relType)) ∧
    ¬ (source ∈ mergedIds ∧ target ≠ canonicalId) ∨
  ¬ Present edges (source, target, relType) ∧ source = canonicalId ∧ target ≠ canonicalId ∧
    target ∉ mergedIds ∧ ∃ merged ∈ mergedIds, Active edges (merged, target, relType)

theorem active_rewireType (outside : canonicalId ∉ mergedIds) :
    Active (rewireType canonicalId mergedIds edges relType) (source, target, relType) ↔
      Rewired canonicalId mergedIds edges source target relType := by
  rw [rewireType, active_outgoing, active_incoming, Rewired]
  apply or_congr
  · simp
  · constructor
    · rintro ⟨free, rfl, _, different, merged, member, active⟩
      rw [present_incoming different] at free
      rw [active_incoming] at active
      rcases active with ⟨active, kept⟩ | ⟨_, same, _⟩
      · refine ⟨free, rfl, different, fun inside => ?_, merged, member, active⟩
        exact kept ⟨inside, rfl, fun same => outside (same ▸ member)⟩
      · exact absurd same different
    · rintro ⟨free, rfl, different, kept, merged, member, active⟩
      rw [present_incoming different]
      refine ⟨free, rfl, rfl, different, merged, member, ?_⟩
      rw [active_incoming]
      exact .inl ⟨active, fun inside => kept inside.1⟩

theorem active_foldl_rewireType (outside : canonicalId ∉ mergedIds) {types : List EdgeType}
    (distinct : types.Nodup) :
    Active (types.foldl (rewireType canonicalId mergedIds) edges) (source, target, relType) ↔
      relType ∈ types ∧ Rewired canonicalId mergedIds edges source target relType ∨
        relType ∉ types ∧ Active edges (source, target, relType) := by
  induction types generalizing edges with
  | nil => simp
  | cons queried types induction =>
      rw [List.foldl_cons, induction distinct.of_cons]
      by_cases same : relType = queried
      · subst same
        have last : relType ∉ types := (List.nodup_cons.mp distinct).1
        simp [last, active_rewireType outside]
      · have rewired : Rewired canonicalId mergedIds
            (rewireType canonicalId mergedIds edges queried) source target relType ↔
            Rewired canonicalId mergedIds edges source target relType := by
          simp only [Rewired, active_rewireType_of_ne same, present_rewireType_of_ne same]
        simp [same, rewired, active_rewireType_of_ne same]

theorem mem_distinctTypes :
    relType ∈ distinctTypes canonicalId mergedIds edges ↔
      ∃ source target, Active edges (source, target, relType) ∧
        (source ∈ mergedIds ∧ target ≠ canonicalId ∨
          target ∈ mergedIds ∧ source ≠ canonicalId) := by
  simp only [distinctTypes, List.mem_dedup, List.mem_map, List.mem_filter, Bool.and_eq_true,
    Bool.or_eq_true, List.contains_iff_mem, bne_iff_ne]
  constructor
  · rintro ⟨edge, ⟨member, active, touches⟩, rfl⟩
    exact ⟨edge.source, edge.target, ⟨edge, member, rfl, active⟩, touches⟩
  · rintro ⟨source, target, ⟨edge, member, same, active⟩, touches⟩
    cases same
    exact ⟨edge, ⟨member, active, touches⟩, rfl⟩

end Merge

/-- The entity an entity becomes. -/
def mergeImage (canonicalId : Uuid) (mergedIds : List Uuid) (id : Uuid) : Uuid :=
  if id ∈ mergedIds then canonicalId else id

/-- No active edge is left at a merged entity, and every active edge is active
between the images of its endpoints, unless they are both the canonical
entity. -/
structure EdgesMoved (canonicalId : Uuid) (mergedIds : List Uuid)
    (before after : List EntityEdge) : Prop where
  detached : ∀ source target relType, Active after (source, target, relType) →
    source ∉ mergedIds ∧ target ∉ mergedIds
  moved : ∀ source target relType, Active before (source, target, relType) →
    ¬ (mergeImage canonicalId mergedIds source = canonicalId ∧
      mergeImage canonicalId mergedIds target = canonicalId) →
    Active after (mergeImage canonicalId mergedIds source,
      mergeImage canonicalId mergedIds target, relType)

/-- No active edge joins a merged entity and the canonical one, an edge among
merged entities finds an edge from its source to the canonical entity, and
every other edge to be moved finds its new place free or active. -/
structure Mergeable (canonicalId : Uuid) (mergedIds : List Uuid) (edges : List EntityEdge) :
    Prop where
  toCanonical : ∀ merged ∈ mergedIds, ∀ relType, ¬ Active edges (merged, canonicalId, relType)
  fromCanonical : ∀ merged ∈ mergedIds, ∀ relType, ¬ Active edges (canonicalId, merged, relType)
  among : ∀ source ∈ mergedIds, ∀ target ∈ mergedIds, ∀ relType,
    Active edges (source, target, relType) → Present edges (source, canonicalId, relType)
  incoming : ∀ merged ∈ mergedIds, ∀ source relType, source ∉ mergedIds →
    source ≠ canonicalId → Active edges (source, merged, relType) →
    Present edges (source, canonicalId, relType) → Active edges (source, canonicalId, relType)
  outgoing : ∀ merged ∈ mergedIds, ∀ target relType, target ∉ mergedIds →
    target ≠ canonicalId → Active edges (merged, target, relType) →
    Present edges (canonicalId, target, relType) → Active edges (canonicalId, target, relType)

/-- The edges a merge leaves. -/
def mergedEdges (canonicalId : Uuid) (mergedIds : List Uuid) (edges : List EntityEdge) :
    List EntityEdge :=
  (distinctTypes canonicalId mergedIds edges).foldl (rewireType canonicalId mergedIds) edges

section Outcome

variable {canonicalId : Uuid} {mergedIds : List Uuid} {edges : List EntityEdge}
variable {source target : Uuid} {relType : EdgeType}

theorem active_mergedEdges (outside : canonicalId ∉ mergedIds) :
    Active (mergedEdges canonicalId mergedIds edges) (source, target, relType) ↔
      relType ∈ distinctTypes canonicalId mergedIds edges ∧
          Rewired canonicalId mergedIds edges source target relType ∨
        relType ∉ distinctTypes canonicalId mergedIds edges ∧
          Active edges (source, target, relType) :=
  active_foldl_rewireType outside (List.nodup_dedup _)

theorem active_mergedEdges_of_kept (outside : canonicalId ∉ mergedIds)
    (active : Active edges (source, target, relType))
    (intoKept : ¬ (target ∈ mergedIds ∧ source ≠ canonicalId))
    (outOfKept : ¬ (source ∈ mergedIds ∧ target ≠ canonicalId)) :
    Active (mergedEdges canonicalId mergedIds edges) (source, target, relType) := by
  rw [active_mergedEdges outside]
  by_cases rewired : relType ∈ distinctTypes canonicalId mergedIds edges
  · exact .inl ⟨rewired, .inl ⟨.inl ⟨active, intoKept⟩, outOfKept⟩⟩
  · exact .inr ⟨rewired, active⟩

theorem active_mergedEdges_incoming (outside : canonicalId ∉ mergedIds) {merged : Uuid}
    (member : merged ∈ mergedIds) (different : source ≠ canonicalId)
    (active : Active edges (source, merged, relType))
    (free : ¬ Present edges (source, canonicalId, relType)) :
    Active (mergedEdges canonicalId mergedIds edges) (source, canonicalId, relType) := by
  have rewired : relType ∈ distinctTypes canonicalId mergedIds edges :=
    mem_distinctTypes.mpr ⟨source, merged, active, .inr ⟨member, different⟩⟩
  rw [active_mergedEdges outside]
  refine .inl ⟨rewired, .inl ⟨.inr ⟨free, rfl, different, merged, member, active⟩, ?_⟩⟩
  exact fun kept => kept.2 rfl

theorem active_mergedEdges_outgoing (outside : canonicalId ∉ mergedIds) {merged : Uuid}
    (member : merged ∈ mergedIds) (different : target ≠ canonicalId) (kept : target ∉ mergedIds)
    (active : Active edges (merged, target, relType))
    (free : ¬ Present edges (canonicalId, target, relType)) :
    Active (mergedEdges canonicalId mergedIds edges) (canonicalId, target, relType) := by
  have rewired : relType ∈ distinctTypes canonicalId mergedIds edges :=
    mem_distinctTypes.mpr ⟨merged, target, active, .inl ⟨member, different⟩⟩
  rw [active_mergedEdges outside]
  exact .inl ⟨rewired, .inr ⟨free, rfl, different, kept, merged, member, active⟩⟩

theorem Mergeable.detached (outside : canonicalId ∉ mergedIds)
    (mergeable : Mergeable canonicalId mergedIds edges)
    (active : Active (mergedEdges canonicalId mergedIds edges) (source, target, relType)) :
    source ∉ mergedIds ∧ target ∉ mergedIds := by
  rw [active_mergedEdges outside] at active
  rcases active with ⟨_, ⟨⟨former, intoKept⟩ | ⟨free, rfl, _, merged, member, former⟩, outOfKept⟩ |
      ⟨_, rfl, _, kept, _⟩⟩ | ⟨untouched, former⟩
  · constructor
    · intro inside
      have same : target = canonicalId := by
        by_contra different
        exact outOfKept ⟨inside, different⟩
      subst same
      exact mergeable.toCanonical source inside relType former
    · intro inside
      have same : source = canonicalId := by
        by_contra different
        exact intoKept ⟨inside, different⟩
      subst same
      exact mergeable.fromCanonical target inside relType former
  · refine ⟨fun inside => free ?_, outside⟩
    exact mergeable.among source inside merged member relType former
  · exact ⟨outside, kept⟩
  · rw [mem_distinctTypes] at untouched
    constructor
    · intro inside
      have same : target = canonicalId := by
        by_contra different
        exact untouched ⟨source, target, former, .inl ⟨inside, different⟩⟩
      subst same
      exact mergeable.toCanonical source inside relType former
    · intro inside
      have same : source = canonicalId := by
        by_contra different
        exact untouched ⟨source, target, former, .inr ⟨inside, different⟩⟩
      subst same
      exact mergeable.fromCanonical target inside relType former

theorem Mergeable.moved (outside : canonicalId ∉ mergedIds)
    (mergeable : Mergeable canonicalId mergedIds edges)
    (active : Active edges (source, target, relType))
    (apart : ¬ (mergeImage canonicalId mergedIds source = canonicalId ∧
      mergeImage canonicalId mergedIds target = canonicalId)) :
    Active (mergedEdges canonicalId mergedIds edges)
      (mergeImage canonicalId mergedIds source, mergeImage canonicalId mergedIds target,
        relType) := by
  by_cases sourceMerged : source ∈ mergedIds
  · by_cases targetMerged : target ∈ mergedIds
    · simp [mergeImage, sourceMerged, targetMerged] at apart
    · simp only [mergeImage, sourceMerged, targetMerged, if_true, if_false, true_and] at apart ⊢
      by_cases free : Present edges (canonicalId, target, relType)
      · apply active_mergedEdges_of_kept outside
        · exact mergeable.outgoing source sourceMerged target relType targetMerged apart active
            free
        · exact fun kept => targetMerged kept.1
        · exact fun kept => outside kept.1
      · exact active_mergedEdges_outgoing outside sourceMerged apart targetMerged active free
  · by_cases targetMerged : target ∈ mergedIds
    · simp only [mergeImage, sourceMerged, targetMerged, if_true, if_false, and_true] at apart ⊢
      by_cases free : Present edges (source, canonicalId, relType)
      · apply active_mergedEdges_of_kept outside
        · exact mergeable.incoming target targetMerged source relType sourceMerged apart active
            free
        · exact fun kept => outside kept.1
        · exact fun kept => sourceMerged kept.1
      · exact active_mergedEdges_incoming outside targetMerged apart active free
    · simp only [mergeImage, sourceMerged, targetMerged, if_false]
      apply active_mergedEdges_of_kept outside active
      · exact fun kept => targetMerged kept.1
      · exact fun kept => sourceMerged kept.1

theorem EdgesMoved.mergeable (outside : canonicalId ∉ mergedIds)
    (arrived : EdgesMoved canonicalId mergedIds edges
      (mergedEdges canonicalId mergedIds edges)) :
    Mergeable canonicalId mergedIds edges := by
  refine ⟨?_, ?_, ?_, ?_, ?_⟩
  · intro merged member relType active
    have stays := active_mergedEdges_of_kept outside active (fun kept => outside kept.1)
      (fun kept => kept.2 rfl)
    exact (arrived.detached _ _ _ stays).1 member
  · intro merged member relType active
    have stays := active_mergedEdges_of_kept outside active (fun kept => kept.2 rfl)
      (fun kept => outside kept.1)
    exact (arrived.detached _ _ _ stays).2 member
  · intro source sourceMember target targetMember relType active
    by_contra free
    have different : source ≠ canonicalId := fun same => outside (same ▸ sourceMember)
    have made := active_mergedEdges_incoming outside targetMember different active free
    exact (arrived.detached _ _ _ made).1 sourceMember
  · intro merged member source relType kept different active present
    have came := arrived.moved source merged relType active
    simp only [mergeImage, member, kept, if_true, if_false, and_true] at came
    rcases (active_mergedEdges outside).mp (came different) with
      ⟨_, ⟨⟨former, _⟩ | ⟨free, _⟩, _⟩ | ⟨_, same, _⟩⟩ | ⟨_, former⟩
    · exact former
    · exact absurd present free
    · exact absurd same different
    · exact former
  · intro merged member target relType kept different active present
    have came := arrived.moved merged target relType active
    simp only [mergeImage, member, kept, if_true, if_false, true_and] at came
    rcases (active_mergedEdges outside).mp (came different) with
      ⟨_, ⟨⟨former, _⟩ | ⟨_, same, _⟩, _⟩ | ⟨free, _⟩⟩ | ⟨_, former⟩
    · exact former
    · exact absurd same different
    · exact absurd present free
    · exact former

theorem edgesMoved_iff (outside : canonicalId ∉ mergedIds) :
    EdgesMoved canonicalId mergedIds edges (mergedEdges canonicalId mergedIds edges) ↔
      Mergeable canonicalId mergedIds edges := by
  constructor
  · exact EdgesMoved.mergeable outside
  · intro mergeable
    exact
      { detached := fun _ _ _ => mergeable.detached outside
        moved := fun _ _ _ => mergeable.moved outside }

end Outcome

/-- A merge of stored entities into another one succeeds, and moves every edge
exactly if they are mergeable. -/
theorem mergeEntities_moves_edges_iff (graph : EntityGraph) (canonicalId : Uuid)
    (mergedIds : List Uuid)
    (stored : ∀ id ∈ canonicalId :: mergedIds, id ∈ graph.nodes.map EntityNode.id)
    (outside : canonicalId ∉ mergedIds) :
    (∃ merged result, mergeEntities graph canonicalId mergedIds = .ok (merged, result) ∧
        EdgesMoved canonicalId mergedIds graph.edges merged.edges) ↔
      Mergeable canonicalId mergedIds graph.edges := by
  have found : ((canonicalId :: mergedIds).filter fun id =>
      !(graph.nodes.map EntityNode.id).contains id).isEmpty = true := by
    rw [List.isEmpty_iff, List.filter_eq_nil_iff]
    intro id member
    simpa using stored id member
  rw [mergeEntities, if_pos found, ← edgesMoved_iff outside]
  constructor
  · rintro ⟨merged, result, same, moved⟩
    cases same
    exact moved
  · intro moved
    exact ⟨_, _, rfl, moved⟩

/-- A small graph: the entities 1, 2 and 3. -/
def entityNodes : List EntityNode :=
  [{ id := 1, isMerged := false, mergedInto := none },
    { id := 2, isMerged := false, mergedInto := none },
    { id := 3, isMerged := false, mergedInto := none }]

/-- An edge of type `KNOWS` as `create_relationship` makes it. -/
def knows (source target : Uuid) (invalidAt : Option Time) : EntityEdge :=
  { source := source
    target := target
    relType := ⟨"KNOWS".toList, by decide⟩
    sourceId := source
    targetId := target
    data :=
      { id := 10 * source + target
        properties := []
        confidence := 1
        validFrom := some 5
        validTo := none
        invalidAt := invalidAt } }

theorem active_singleton {edge : EntityEdge} {key : EntityKey} (active : Active [edge] key) :
    edge.key = key := by
  obtain ⟨found, member, same, _⟩ := active
  rw [← List.mem_singleton.mp member]
  exact same

/-- The edge of a third entity arrives at the canonical one. -/
theorem mergeEntities_moves_third_edge :
    ∃ merged result,
      mergeEntities { nodes := entityNodes, edges := [knows 3 2 none] } 1 [2] =
          .ok (merged, result) ∧
        EdgesMoved 1 [2] [knows 3 2 none] merged.edges := by
  apply (mergeEntities_moves_edges_iff { nodes := entityNodes, edges := [knows 3 2 none] } 1 [2]
    (by decide) (by decide)).mpr
  refine ⟨?_, ?_, ?_, ?_, ?_⟩
  · intro merged member relType active
    cases active_singleton active
  · intro merged member relType active
    cases active_singleton active
  · intro source sourceMember target targetMember relType active
    cases active_singleton active
    exact absurd sourceMember (by decide)
  · rintro merged member source relType _ _ active ⟨edge, found, same⟩
    rw [List.mem_singleton.mp found] at same
    cases same
  · intro merged member target relType _ _ active
    cases active_singleton active
    exact absurd member (by decide)

/-- An edge from a merged entity to the canonical one stays where it is, and an
edge whose new place is taken by an expired one is lost. -/
theorem mergeEntities_misses_edges :
    ¬ (∃ merged result,
        mergeEntities { nodes := entityNodes, edges := [knows 2 1 none] } 1 [2] =
            .ok (merged, result) ∧
          EdgesMoved 1 [2] [knows 2 1 none] merged.edges) ∧
      ¬ ∃ merged result,
        mergeEntities { nodes := entityNodes, edges := [knows 3 1 (some 7), knows 3 2 none] }
            1 [2] = .ok (merged, result) ∧
          EdgesMoved 1 [2] [knows 3 1 (some 7), knows 3 2 none] merged.edges := by
  constructor
  · rintro ⟨merged, result, same, moved⟩
    cases same
    have left : Active (mergedEdges 1 [2] [knows 2 1 none]) (knows 2 1 none).key :=
      ⟨knows 2 1 none, by decide, rfl, rfl⟩
    exact absurd (moved.detached _ _ _ left).1 (by decide)
  · rintro ⟨merged, result, same, moved⟩
    cases same
    obtain ⟨edge, member, same, active⟩ := moved.moved 3 2 (knows 3 2 none).relType
      ⟨knows 3 2 none, by decide, rfl, rfl⟩ (by decide)
    have only : mergedEdges 1 [2] [knows 3 1 (some 7), knows 3 2 none] =
        [knows 3 1 (some 7)] := by decide
    have found : edge = knows 3 1 (some 7) := by
      rw [← List.mem_singleton, ← only]
      exact member
    rw [found] at active
    cases active

end OpenZync.Graph
