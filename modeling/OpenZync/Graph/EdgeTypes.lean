import OpenZync.Graph.EdgeTypeQueries

/-!
# An edge type names the edges it made

A name that `_sanitize_edge_type` accepts is read back from both queries: from
the merge as its type, from the other as it is.  The two differ where the name
ends with a line feed.
-/

namespace OpenZync.Graph.FalkorDB

open Library

variable {space : CypherSpace} {world : World} {index : Nat} {source target : Uuid}
  {name stem : Text} {input : RelationshipInput} {atTime : Time} {session : Session}

/-! ### The calls -/

theorem inPlace_mergeQuery (stored : storedEdgeType name = some stem) :
    inPlace mergeHead mergeTail (readLabel space (mergeQuery name)) = some stem := by
  rw [readLabel_mergeQuery space stored, inPlace_some]

theorem inPlace_expireQuery (stored : storedEdgeType name = some stem) :
    inPlace expireHead expireTail (readString (expireQuery name)) = some name := by
  rw [readString_expireQuery stored, inPlace_some]

namespace Session

/-- What comes of a query that is read. -/
theorem query_some (text relType : Text) (effect : Text → EdgeGraph → EdgeGraph) :
    query world index text (some relType) effect session =
      match world.fates index with
      | .answered =>
          ({ sent := session.sent ++ [text], graph := effect relType session.graph }, .ok relType)
      | .refused =>
          ({ sent := session.sent ++ [text], graph := session.graph }, .error .externalService)
      | .lost =>
          ({ sent := session.sent ++ [text], graph := effect relType session.graph },
            .error .externalService) := by
  unfold query
  cases world.fates index <;> rfl

theorem sanitize_accepts (stored : storedEdgeType name = some stem) :
    Attempt.ofExcept (sanitizeEdgeType name) session = (session, .ok name) := by
  rw [sanitizeEdgeType_of_stored stored]
  rfl

theorem sanitize_refuses (unsafeName : storedEdgeType name = none) :
    Attempt.ofExcept (sanitizeEdgeType name) session =
      (session, .error (.unsafeEdgeType name)) := by
  rw [sanitizeEdgeType_of_none unsafeName]
  rfl

/-- An accepted name is merged with the label that is read, as `createRelationship`
merges it. -/
theorem createRelationship_of_stored (connected : world.connected = true)
    (stored : storedEdgeType name = some stem) :
    createRelationship space world index source target name input session =
      ({ sent := session.sent ++ [mergeQuery name]
         graph := (FalkorDB.createRelationship world index source target name input
           session.graph).1 },
        (FalkorDB.createRelationship world index source target name input session.graph).2) := by
  simp only [createRelationship, FalkorDB.createRelationship, connected, stored, Bool.not_true,
    Bool.false_eq_true, if_false]
  refine (Attempt.bind_of_ok (sanitize_accepts stored)).trans ?_
  rw [inPlace_mergeQuery stored]
  have asked : query world index (mergeQuery name) (some stem)
      (fun relType => merge world ⟨source, target, relType⟩ input) session = _ :=
    query_some (mergeQuery name) stem _
  cases fate : world.fates index with
  | answered =>
      rw [fate] at asked
      have merged : Attempt.remote .answered RelationshipFailure.externalService
          (merge world ⟨source, target, stem⟩ input) session.graph =
            (merge world ⟨source, target, stem⟩ input session.graph, .ok ()) :=
        rfl
      refine (Attempt.bind_of_ok asked).trans ?_
      rw [Attempt.read_bind, Attempt.bind_of_ok merged, Attempt.read_bind]
      dsimp only
      cases (if world.hasEnds ⟨source, target, stem⟩ then
        merge world ⟨source, target, stem⟩ input session.graph ⟨source, target, stem⟩
        else none) with
      | none => rfl
      | some edge => rfl
  | refused =>
      rw [fate] at asked
      exact Attempt.bind_of_error asked
  | lost =>
      rw [fate] at asked
      exact Attempt.bind_of_error asked

theorem expireRelationshipsMatching_of_stored (connected : world.connected = true)
    (answered : world.fates index = .answered) (stored : storedEdgeType name = some stem) :
    expireRelationshipsMatching world index source target name atTime session =
      ({ sent := session.sent ++ [expireQuery name]
         graph := expireMatching ⟨source, target, name⟩ atTime session.graph },
        .ok (activeCount ⟨source, target, name⟩ session.graph)) := by
  have asked : query world index (expireQuery name) (some name)
      (fun relType => expireMatching ⟨source, target, relType⟩ atTime) session = _ :=
    query_some (expireQuery name) name _
  rw [answered] at asked
  simp only [expireRelationshipsMatching, connected, Bool.not_true, Bool.false_eq_true, if_false]
  refine (Attempt.bind_of_ok (sanitize_accepts stored)).trans ?_
  rw [inPlace_expireQuery stored, Attempt.read_bind]
  exact Attempt.bind_of_ok asked

/-- A name that is not accepted sends nothing. -/
theorem createRelationship_of_none (unsafeName : storedEdgeType name = none) :
    ∃ failure, createRelationship space world index source target name input session =
      (session, .error failure) := by
  unfold createRelationship
  split
  · exact ⟨_, rfl⟩
  · exact ⟨.unsafeEdgeType name, Attempt.bind_of_error (sanitize_refuses unsafeName)⟩

theorem expireRelationshipsMatching_of_none (unsafeName : storedEdgeType name = none) :
    ∃ failure, expireRelationshipsMatching world index source target name atTime session =
      (session, .error failure) := by
  unfold expireRelationshipsMatching
  split
  · exact ⟨_, rfl⟩
  · exact ⟨.unsafeEdgeType name, Attempt.bind_of_error (sanitize_refuses unsafeName)⟩

theorem meets_query (text : Text) (read : Option Text)
    (effect : Text → EdgeGraph → EdgeGraph) :
    Attempt.Meets (fun _ => True) (query world index text read effect)
      (fun relType _ => read = some relType) fun _ _ => True := by
  refine Attempt.meets_change_bind (fun _ => True) (fun _ _ => trivial) ?_
  cases read with
  | none => exact Attempt.meets_fail _ fun _ _ => trivial
  | some relType =>
      exact Attempt.meets_remote_bind (fun _ => True) (fun _ _ _ => trivial)
        (fun _ _ _ => trivial) (fun _ _ _ => trivial) (Attempt.meets_pure _ fun _ _ => rfl)

theorem meets_createRelationship :
    Attempt.Meets (fun _ => True)
      (createRelationship space world index source target name input)
      (fun created after => ∃ stem, storedEdgeType name = some stem ∧
        created.key = ⟨source, target, stem⟩ ∧ after.graph created.key = some created.edge)
      fun _ _ => True := by
  refine Attempt.meets_ite (fun _ => Attempt.meets_fail _ fun _ _ => trivial) fun _ => ?_
  refine Attempt.meets_ofExcept (fun safeType accepted => ?_) fun _ _ _ _ => trivial
  obtain ⟨rfl, stem, stored⟩ := sanitizeEdgeType_eq_ok_iff.mp accepted
  dsimp only
  rw [inPlace_mergeQuery stored]
  refine (meets_query _ _ _).bind fun relType => Attempt.meets_read fun rows => ?_
  cases rows with
  | none => exact Attempt.meets_fail _ fun _ _ => trivial
  | some edge =>
      refine Attempt.meets_pure _ fun after known => ⟨stem, stored, ?_⟩
      obtain ⟨read, found⟩ := known
      cases read
      exact ⟨rfl, (Option.ite_none_right_eq_some.mp found).2⟩

end Session

theorem expire_eq (edge : Edge) :
    expire atTime edge = { edge with invalidAt := some (edge.invalidAt.getD atTime) } := by
  unfold expire
  split
  · rename_i active
    rw [Option.isNone_iff_eq_none.mp active]
    rfl
  · rename_i closed
    cases edge with
    | mk id properties confidence validFrom validTo invalidAt =>
        cases invalidAt with
        | none => exact absurd rfl closed
        | some instant => rfl

/-! ### What becomes of an edge type -/

/-- Both calls raise before they send a query. -/
def RaisesUnsent (space : CypherSpace) (name : Text) : Prop :=
  ∀ (world : World) (index : Nat) (source target : Uuid) (session : Session),
    (∀ input, ∃ failure,
      Session.createRelationship space world index source target name input session =
        (session, .error failure)) ∧
    ∀ atTime, ∃ failure,
      Session.expireRelationshipsMatching world index source target name atTime session =
        (session, .error failure)

/-- `expire_relationships_matching` with the name closes the edge of the key
whenever it is answered, and counts it unless it was closed before. -/
def ClosedBy (name : Text) (source target : Uuid) (key : EdgeKey) : Prop :=
  ∀ (world : World) (index : Nat) (atTime : Time) (session : Session) (edge : Edge),
    world.connected = true → world.fates index = .answered → session.graph key = some edge →
      ∃ after,
        Session.expireRelationshipsMatching world index source target name atTime session =
          (after, .ok (if edge.invalidAt.isNone then 1 else 0)) ∧
        after.graph key = some { edge with invalidAt := some (edge.invalidAt.getD atTime) }

/-- The name is safe, is the label of the query that creates an edge, and closes
every edge that it created. -/
structure Usable (space : CypherSpace) (name : Text) : Prop where
  safe : isSafeEdgeType name = true
  label : ∀ (world : World) (index : Nat) (source target : Uuid) (input : RelationshipInput)
    (session : Session), world.connected = true →
      ∃ text,
        (Session.createRelationship space world index source target name input session).1.sent =
          session.sent ++ [text] ∧
        readLabel space text = some (mergeHead, name, mergeTail)
  closes : ∀ (world : World) (index : Nat) (source target : Uuid) (input : RelationshipInput)
    (session after : Session) (created : CreatedRelationship Edge),
      Session.createRelationship space world index source target name input session =
        (after, .ok created) →
      after.graph created.key = some created.edge ∧ ClosedBy name source target created.key

theorem raisesUnsent_of_none (unsafeName : storedEdgeType name = none) :
    RaisesUnsent space name :=
  fun _ _ _ _ _ => ⟨fun _ => Session.createRelationship_of_none unsafeName,
    fun _ => Session.expireRelationshipsMatching_of_none unsafeName⟩

/-- The string of the one query is the label of the other. -/
theorem closedBy_of_safe (safe : isSafeEdgeType name = true) :
    ClosedBy name source target ⟨source, target, name⟩ := by
  intro world index atTime session edge connected answered found
  have stored : storedEdgeType name = some name :=
    storedEdgeType_eq_some_iff.mpr ⟨safe, .inl rfl⟩
  have called : Session.expireRelationshipsMatching world index source target name atTime session =
      _ :=
    Session.expireRelationshipsMatching_of_stored connected answered stored
  rw [activeCount, found] at called
  refine ⟨_, called, ?_⟩
  change expireMatching _ _ _ _ = _
  rw [expireMatching, found, Function.update_self, Option.map_some, expire_eq]

theorem usable_of_safe (safe : isSafeEdgeType name = true) : Usable space name := by
  have stored : storedEdgeType name = some name :=
    storedEdgeType_eq_some_iff.mpr ⟨safe, .inl rfl⟩
  refine ⟨safe, ?_, ?_⟩
  · intro world index source target input session connected
    refine ⟨mergeQuery name, ?_, readLabel_mergeQuery space stored⟩
    rw [Session.createRelationship_of_stored connected stored]
  · intro world index source target input session after created returned
    obtain ⟨stem, stored', key, found⟩ := Session.meets_createRelationship.of_ok trivial returned
    rw [stored] at stored'
    obtain rfl := Option.some.inj stored'
    exact ⟨found, key ▸ closedBy_of_safe safe⟩

/-- A server that answers every query and has every entity. -/
def answering : World :=
  { parseId := fun _ => none
    hasEntity := fun _ => true
    newId := fun _ => 0
    now := fun _ => 0
    connected := true
    fates := fun _ => .answered }

theorem not_closedBy_of_lineFeed (safe : isSafeEdgeType stem = true) :
    ¬ ClosedBy (stem ++ ['\n']) source target ⟨source, target, stem⟩ := by
  intro closed
  have stored : storedEdgeType (stem ++ ['\n']) = some stem :=
    storedEdgeType_eq_some_iff.mpr ⟨safe, .inr rfl⟩
  let key : EdgeKey := ⟨source, target, stem⟩
  let edge := onCreate ⟨0, [], none, none, none, 0⟩
  let session : Session := { sent := [], graph := fun _ => some edge }
  obtain ⟨after, called, stays⟩ := closed answering 0 0 session edge rfl rfl rfl
  rw [Session.expireRelationshipsMatching_of_stored rfl rfl stored] at called
  have other : key ≠ ⟨source, target, stem ++ ['\n']⟩ := by
    intro same
    have lengths := congrArg List.length (congrArg EdgeKey.relationshipType same)
    simp [key] at lengths
  have untouched : after.graph key = some edge := by
    rw [← (Prod.mk.inj called).1]
    exact Function.update_of_ne other _ _
  rw [untouched] at stays
  have instants : (none : Option Time) = some _ :=
    congrArg Edge.invalidAt (Option.some.inj stays)
  cases instants

/-- Such a name is accepted and not usable. -/
theorem lineFeed_unusable (safe : isSafeEdgeType stem = true) :
    ¬ (RaisesUnsent space (stem ++ ['\n']) ∨ Usable space (stem ++ ['\n'])) := by
  have stored : storedEdgeType (stem ++ ['\n']) = some stem :=
    storedEdgeType_eq_some_iff.mpr ⟨safe, .inr rfl⟩
  rintro (raises | usable)
  · obtain ⟨failure, raised⟩ := (raises answering 0 0 0 ⟨[], fun _ => none⟩).2 0
    rw [Session.expireRelationshipsMatching_of_stored rfl rfl stored] at raised
    cases raised
  · exact lineFeed_not_mem usable.safe (by simp)

/-- Every edge type is refused by both calls or usable with both, but for a safe
name with a line feed behind it. -/
theorem edgeType_usable_iff (space : CypherSpace) (name : Text) :
    RaisesUnsent space name ∨ Usable space name ↔
      ¬ ∃ stem, isSafeEdgeType stem = true ∧ name = stem ++ ['\n'] := by
  constructor
  · rintro outcome ⟨stem, safe, rfl⟩
    exact lineFeed_unusable safe outcome
  · intro noLineFeed
    cases stored : storedEdgeType name with
    | none => exact .inl (raisesUnsent_of_none stored)
    | some stem =>
        obtain ⟨safe, rfl | rfl⟩ := storedEdgeType_eq_some_iff.mp stored
        · exact .inr (usable_of_safe safe)
        · exact absurd ⟨stem, safe, rfl⟩ noLineFeed

/-- Blanks, tabs and line ends. -/
def blanks : CypherSpace :=
  { isSpace := fun c => c == ' ' || c == '\t' || c == '\n' || c == '\r'
    isSpace_lineFeed := rfl
    not_isSpace_of_isWord := by
      intro c word
      by_contra space
      simp only [Bool.not_eq_false, Bool.or_eq_true, beq_iff_eq] at space
      rcases space with ((rfl | rfl) | rfl) | rfl <;> cases word }

/-- An edge that is created as `knows` with a line feed stays open. -/
theorem knows_lineFeed_unusable :
    (∃ after created,
      Session.createRelationship blanks answering 0 1 2 "knows\n".toList
          ⟨7, [], none, none, none, 0⟩ ⟨[], fun _ => none⟩ = (after, .ok created) ∧
        created.key = ⟨1, 2, "knows".toList⟩ ∧ created.edge.invalidAt = none ∧
        ¬ ClosedBy "knows\n".toList 1 2 created.key) ∧
    ¬ (RaisesUnsent blanks "knows\n".toList ∨ Usable blanks "knows\n".toList) := by
  have spelled : "knows\n".toList = "knows".toList ++ ['\n'] := by decide
  have stored : storedEdgeType ("knows".toList ++ ['\n']) = some "knows".toList := by decide
  have safe : isSafeEdgeType "knows".toList = true := by decide
  have created : (FalkorDB.createRelationship answering 0 1 2 ("knows".toList ++ ['\n'])
      ⟨7, [], none, none, none, 0⟩ fun _ => none).2 =
        .ok ⟨⟨1, 2, "knows".toList⟩, onCreate ⟨7, [], none, none, none, 0⟩⟩ := by
    rfl
  have called : Session.createRelationship blanks answering 0 1 2 ("knows".toList ++ ['\n'])
      ⟨7, [], none, none, none, 0⟩ ⟨[], fun _ => none⟩ = _ :=
    Session.createRelationship_of_stored rfl stored
  rw [created] at called
  rw [spelled]
  exact ⟨⟨_, _, called, rfl, rfl, not_closedBy_of_lineFeed safe⟩, lineFeed_unusable safe⟩

end OpenZync.Graph.FalkorDB
