import OpenZync.Retrieval.Fusion

/-!
# Reranking

Both rerankers score the contents of the candidates and put the candidates in
the order of the scores.  Candidates without content are not sent to the model.
The local one counts the scores off against the candidates that were sent; the
remote one looks them up by the positions of all candidates.
-/

namespace OpenZync.Retrieval

open OpenZync.Library

/-- A candidate with its `content` and its `reranker_score`. -/
structure Candidate (β : Type) where
  content : Option Text
  rerankerScore : Option ℚ
  item : β
deriving DecidableEq

section Rerankers

variable {β : Type}

/-- `c.get("content")`, where it counts as true. -/
def Candidate.text (candidate : Candidate β) : Option Text :=
  candidate.content.filter fun text => !text.isEmpty

def Candidate.scored (candidate : Candidate β) (score : ℚ) : Candidate β :=
  { candidate with rerankerScore := some score }

/-- `round(float(score), 6)` -/
def roundScore (score : ℚ) : ℚ :=
  binary64.fl (roundDecimal 6 score)

/-- The contents that the model gets. -/
def documents (candidates : List (Candidate β)) : List Text :=
  candidates.filterMap Candidate.text

/-- The best score first; a missing one counts as zero. -/
def byScore (candidates : List (Candidate β)) : List (Candidate β) :=
  candidates.insertionSort fun first second =>
    second.rerankerScore.getD 0 ≤ first.rerankerScore.getD 0

/-- The loop over the candidates with `score_idx`; a score that is missing raises
`IndexError`. -/
def attachScores : List (Candidate β) → List ℚ → Option (List (Candidate β))
  | [], _ => some []
  | candidate :: candidates, scores =>
      match candidate.text with
      | none => (attachScores candidates scores).map (candidate.scored 0 :: ·)
      | some _ =>
          match scores with
          | [] => none
          | score :: scores =>
              (attachScores candidates scores).map (candidate.scored (roundScore score) :: ·)

/-- `index_scores`: of two scores of an index the later one counts. -/
def indexScores (results : List (Nat × ℚ)) (index : Nat) : Option ℚ :=
  (results.reverse.find? fun result => result.1 = index).map Prod.snd

/-- The scores that the remote reranker gives, by the positions of the candidates. -/
def positionScores (results : List (Nat × ℚ)) (candidates : List (Candidate β)) :
    List (Candidate β) :=
  candidates.zipIdx.map fun entry =>
    entry.1.scored (roundScore ((indexScores results entry.2).getD 0))

/-- What both rerankers do around their models. -/
def rerankWith (score : List (Candidate β) → Option (List (Candidate β)))
    (candidates : List (Candidate β)) (topN : Int) : Option (List (Candidate β)) :=
  if candidates = [] then some []
  else if documents candidates = [] then
    some (sliceTo topN (candidates.map fun candidate => candidate.scored 0))
  else (score candidates).map fun scored => sliceTo topN (byScore scored)

/-- `SentenceTransformersReranker.rerank`; the model may raise. -/
def SentenceTransformersReranker.rerank (predict : List Text → Option (List ℚ))
    (candidates : List (Candidate β)) (topN : Int) : Option (List (Candidate β)) :=
  rerankWith (fun candidates => (predict (documents candidates)).bind (attachScores candidates))
    candidates topN

/-- `CohereReranker.rerank`; the service may raise, and answers with the indexes
and the scores of the best documents. -/
def CohereReranker.rerank (service : List Text → Int → Option (List (Nat × ℚ)))
    (candidates : List (Candidate β)) (topN : Int) : Option (List (Candidate β)) :=
  rerankWith (fun candidates => (service (documents candidates) topN).map fun results =>
    positionScores results candidates) candidates topN

end Rerankers

section OwnScores

variable {β : Type}

/-- The scores of the candidates when every document has the number that it has
among the documents; `sent` of them stand before. -/
def ownScores (score : Nat → ℚ) : List (Candidate β) → Nat → List (Candidate β)
  | [], _ => []
  | candidate :: candidates, sent =>
      match candidate.text with
      | none => candidate.scored 0 :: ownScores score candidates sent
      | some _ =>
          candidate.scored (roundScore (score sent)) :: ownScores score candidates (sent + 1)

/-- Candidates without content stand behind the others. -/
def ContentFirst (candidates : List (Candidate β)) : Prop :=
  candidates.Pairwise fun first second => second.text.isSome = true → first.text.isSome = true

instance (candidates : List (Candidate β)) : Decidable (ContentFirst candidates) :=
  inferInstanceAs (Decidable (candidates.Pairwise fun first second =>
    second.text.isSome = true → first.text.isSome = true))

/-- The score of a document, zero where the service left it out. -/
def resultScore (results : List (Nat × ℚ)) (index : Nat) : ℚ :=
  (indexScores results index).getD 0

theorem roundScore_zero : roundScore 0 = 0 := by
  decide +kernel

theorem roundScore_one : roundScore 1 = 1 := by
  decide +kernel

theorem documents_cons_none {candidate : Candidate β} (none : candidate.text = none)
    (candidates : List (Candidate β)) :
    documents (candidate :: candidates) = documents candidates :=
  List.filterMap_cons_none none

theorem documents_cons_some {candidate : Candidate β} {text : Text}
    (found : candidate.text = some text) (candidates : List (Candidate β)) :
    documents (candidate :: candidates) = text :: documents candidates :=
  List.filterMap_cons_some found

theorem attachScores_eq (candidates : List (Candidate β)) {score : Nat → ℚ} {scores : List ℚ}
    {sent : Nat} (enough : scores.length = (documents candidates).length)
    (numbered : ∀ index, ∀ value ∈ scores[index]?, score (sent + index) = value) :
    attachScores candidates scores = some (ownScores score candidates sent) := by
  induction candidates generalizing scores sent with
  | nil => rfl
  | cons candidate candidates induction =>
      cases found : candidate.text with
      | none =>
          rw [documents_cons_none found] at enough
          simp only [attachScores, ownScores, found, induction enough numbered, Option.map_some]
      | some text =>
          rw [documents_cons_some found] at enough
          cases scores with
          | nil => cases enough
          | cons value scores =>
              have first : score sent = value := numbered 0 value rfl
              have rest : ∀ index, ∀ value ∈ scores[index]?,
                  score (sent + 1 + index) = value := by
                intro index value member
                rw [Nat.add_assoc, Nat.add_comm 1 index]
                exact numbered (index + 1) value member
              simp only [attachScores, ownScores, found, first,
                induction (Nat.succ.inj enough) rest, Option.map_some]

theorem resultScore_eq_zero {results : List (Nat × ℚ)} {index : Nat}
    (absent : ∀ result ∈ results, result.1 ≠ index) : resultScore results index = 0 := by
  have nothing : results.reverse.find? (fun result => result.1 = index) = none := by
    rw [List.find?_eq_none]
    intro result member
    simpa using absent result (List.mem_reverse.mp member)
  simp only [resultScore, indexScores, nothing, Option.map_none, Option.getD_none]

theorem ContentFirst.documents_eq_nil {candidate : Candidate β} {candidates : List (Candidate β)}
    (first : ContentFirst (candidate :: candidates)) (none : candidate.text = none) :
    documents candidates = [] := by
  apply List.filterMap_eq_nil_iff.mpr
  intro later member
  cases found : later.text with
  | none => rfl
  | some text =>
      have content := (List.pairwise_cons.mp first).1 later member (by rw [found]; rfl)
      rw [none] at content
      cases content

/-- Where the contents stand first, a position below the number of documents is the
number of a document; `position` and `sent` stand apart only when no document is left. -/
theorem positionScores_of_contentFirst (results : List (Nat × ℚ)) :
    ∀ (candidates : List (Candidate β)) (position sent : Nat),
      ContentFirst candidates →
      (documents candidates ≠ [] → position = sent) →
      (∀ result ∈ results, result.1 < position + (documents candidates).length) →
      ((candidates.zipIdx position).map fun entry =>
          entry.1.scored (roundScore (resultScore results entry.2))) =
        ownScores (resultScore results) candidates sent := by
  intro candidates
  induction candidates with
  | nil =>
      intros
      rfl
  | cons candidate candidates induction =>
      intro position sent first same bound
      have later : ContentFirst candidates := (List.pairwise_cons.mp first).2
      rw [List.zipIdx_cons, List.map_cons]
      cases found : candidate.text with
      | none =>
          have empty : documents candidates = [] := first.documents_eq_nil found
          rw [documents_cons_none found, empty] at bound
          have score : resultScore results position = 0 :=
            resultScore_eq_zero fun result member => (bound result member).ne
          have rest := induction (position + 1) sent later
            (fun nonempty => absurd empty nonempty)
            (fun result member => by
              rw [empty]
              exact Nat.lt_succ_of_lt (bound result member))
          simp only [ownScores, found, score, roundScore_zero, rest]
      | some text =>
          rw [documents_cons_some found] at bound same
          have here : position = sent := same (List.cons_ne_nil _ _)
          have rest := induction (position + 1) (sent + 1) later
            (fun _ => congrArg (· + 1) here)
            (fun result member => by
              have less := bound result member
              rw [List.length_cons] at less
              omega)
          simp only [ownScores, found, here, ← rest]

/-- A candidate without content gets no score by its content. -/
theorem score_of_mem_ownScores {score : Nat → ℚ} {candidates : List (Candidate β)} {sent : Nat}
    {candidate : Candidate β} (member : candidate ∈ ownScores score candidates sent)
    (none : candidate.text = none) : candidate.rerankerScore = some 0 := by
  induction candidates generalizing sent with
  | nil => cases member
  | cons other candidates induction =>
      cases found : other.text with
      | none =>
          simp only [ownScores, found, List.mem_cons] at member
          rcases member with rfl | later
          · rfl
          · exact induction later
      | some text =>
          simp only [ownScores, found, List.mem_cons] at member
          rcases member with rfl | later
          · rw [show (other.scored _).text = other.text from rfl, found] at none
            cases none
          · exact induction later

theorem exists_early_of_not_contentFirst {candidates : List (Candidate β)}
    (early : ¬ ContentFirst candidates) :
    ∃ before candidate later,
      candidates = before ++ candidate :: later ∧
      candidate.text = none ∧
      before.length < (documents candidates).length := by
  induction candidates with
  | nil => exact absurd List.Pairwise.nil early
  | cons candidate candidates induction =>
      cases found : candidate.text with
      | none =>
          refine ⟨[], candidate, candidates, rfl, found, ?_⟩
          rw [documents_cons_none found]
          apply List.length_pos_of_ne_nil
          intro empty
          apply early
          have nothing : ∀ later ∈ candidates, later.text = none :=
            List.filterMap_eq_nil_iff.mp empty
          have textless : ∀ later ∈ candidates, ¬ later.text.isSome = true := by
            intro later member content
            rw [nothing later member] at content
            cases content
          exact List.pairwise_cons.mpr
            ⟨fun later member content => absurd content (textless later member),
              List.pairwise_of_forall_mem_list fun _ _ later member content =>
                absurd content (textless later member)⟩
      | some text =>
          have rest : ¬ ContentFirst candidates := by
            intro first
            exact early (List.pairwise_cons.mpr ⟨fun _ _ _ => by rw [found]; rfl, first⟩)
          obtain ⟨before, other, later, rfl, none, less⟩ := induction rest
          refine ⟨candidate :: before, other, later, rfl, none, ?_⟩
          rw [documents_cons_some found]
          exact Nat.succ_lt_succ less

theorem byScore_perm (candidates : List (Candidate β)) : (byScore candidates).Perm candidates :=
  List.perm_insertionSort _ candidates

theorem sliceTo_of_length {α : Type} {items : List α} {length : Nat}
    (same : items.length = length) : sliceTo length items = items := by
  rw [← same]
  simp [sliceTo]

theorem length_positionScores (results : List (Nat × ℚ)) (candidates : List (Candidate β)) :
    (positionScores results candidates).length = candidates.length := by
  rw [positionScores, List.length_map, List.length_zipIdx]

theorem length_ownScores (score : Nat → ℚ) (candidates : List (Candidate β)) (sent : Nat) :
    (ownScores score candidates sent).length = candidates.length := by
  induction candidates generalizing sent with
  | nil => rfl
  | cons candidate candidates induction =>
      cases found : candidate.text with
      | none => simp only [ownScores, found, List.length_cons, induction]
      | some text => simp only [ownScores, found, List.length_cons, induction]

theorem mem_positionScores (before : List (Candidate β)) (candidate : Candidate β)
    (later : List (Candidate β)) :
    candidate.scored 1 ∈ positionScores [(before.length, 1)] (before ++ candidate :: later) := by
  refine List.mem_map.mpr ⟨(candidate, before.length), ?_, ?_⟩
  · rw [List.mk_mem_zipIdx_iff_getElem?, List.getElem?_append_right (Nat.le_refl _), Nat.sub_self,
      List.getElem?_cons_zero]
  · simp [indexScores, roundScore_one]

/-- Reranking where every candidate gets the score of its own content. -/
def rerankByContent (scores : Option (Nat → ℚ)) (candidates : List (Candidate β)) (topN : Int) :
    Option (List (Candidate β)) :=
  rerankWith (fun candidates => scores.map fun score => ownScores score candidates 0)
    candidates topN

/-- A service that answers with the indexes of documents it was sent. -/
def AnswersDocuments (service : List Text → Int → Option (List (Nat × ℚ))) : Prop :=
  ∀ sent topN, ∀ results ∈ service sent topN, ∀ result ∈ results, result.1 < sent.length

/-- The service that finds only one of the documents, with the score one. -/
def oneDocument (index : Nat) (sent : List Text) (_ : Int) : Option (List (Nat × ℚ)) :=
  some (if index < sent.length then [(index, 1)] else [])

theorem answersDocuments_oneDocument (index : Nat) : AnswersDocuments (oneDocument index) := by
  intro sent topN results found result member
  cases found
  split at member
  next less =>
      rw [List.mem_singleton.mp member]
      exact less
  next => cases member

/-- The local reranker always scores each candidate by its own content.  The remote one
does so, whatever the service answers, exactly when no candidate without content stands
before one with content. -/
theorem rerankers_score_contents (candidates : List (Candidate β)) :
    (∀ (predict : List Text → Option (List ℚ)) (topN : Int),
      (∀ scores ∈ predict (documents candidates),
        scores.length = (documents candidates).length) →
      SentenceTransformersReranker.rerank predict candidates topN =
        rerankByContent ((predict (documents candidates)).map fun scores index =>
          scores.getD index 0) candidates topN) ∧
    ((∀ (service : List Text → Int → Option (List (Nat × ℚ))) (topN : Int),
      AnswersDocuments service →
      CohereReranker.rerank service candidates topN =
        rerankByContent ((service (documents candidates) topN).map resultScore)
          candidates topN) ↔
      ContentFirst candidates) := by
  refine ⟨?_, ?_, ?_⟩
  · intro predict topN complete
    have same : (predict (documents candidates)).bind (attachScores candidates) =
        ((predict (documents candidates)).map fun scores index => scores.getD index 0).map
          fun score => ownScores score candidates 0 := by
      cases answer : predict (documents candidates) with
      | none => rfl
      | some scores =>
          refine attachScores_eq candidates (complete scores answer) ?_
          intro index value member
          rw [Nat.zero_add]
          change scores.getD index 0 = value
          rw [List.getD_eq_getElem?_getD, Option.mem_def.mp member, Option.getD_some]
    simp only [SentenceTransformersReranker.rerank, rerankByContent, rerankWith, same]
  · intro agree
    by_contra early
    obtain ⟨before, candidate, later, rfl, none, less⟩ := exists_early_of_not_contentFirst early
    have nonempty : documents (before ++ candidate :: later) ≠ [] := by
      intro empty
      rw [empty] at less
      exact Nat.not_lt_zero _ less
    have same := agree (oneDocument before.length)
      (before ++ candidate :: later).length (answersDocuments_oneDocument _)
    simp only [CohereReranker.rerank, rerankByContent, rerankWith, nonempty, if_false,
      List.append_ne_nil_of_right_ne_nil before (List.cons_ne_nil candidate later),
      oneDocument, less, if_true, Option.map_some, Option.some.injEq] at same
    rw [sliceTo_of_length (by rw [(byScore_perm _).length_eq, length_positionScores]),
      sliceTo_of_length (by rw [(byScore_perm _).length_eq, length_ownScores])] at same
    have scored : candidate.scored 1 ∈
        positionScores [(before.length, 1)] (before ++ candidate :: later) :=
      mem_positionScores before candidate later
    have own := (byScore_perm _).mem_iff.mp (same ▸ (byScore_perm _).mem_iff.mpr scored)
    have zero : (candidate.scored 1).rerankerScore = some 0 := score_of_mem_ownScores own none
    cases zero
  · intro first service topN answers
    have same : ((service (documents candidates) topN).map fun results =>
          positionScores results candidates) =
        ((service (documents candidates) topN).map resultScore).map
          fun score => ownScores score candidates 0 := by
      cases answer : service (documents candidates) topN with
      | none => rfl
      | some results =>
          refine congrArg some (positionScores_of_contentFirst results candidates 0 0 first
            (fun _ => rfl) ?_)
          intro result member
          rw [Nat.zero_add]
          exact answers _ _ results answer result member
    simp only [CohereReranker.rerank, rerankByContent, rerankWith, same]

end OwnScores

end OpenZync.Retrieval
