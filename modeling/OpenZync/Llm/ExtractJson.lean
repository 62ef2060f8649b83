import OpenZync.Library.FirstOccurrence
import OpenZync.Text

/-!
# JSON in the output of a language model

`_extract_json` and its copy `parse_extraction_json`: a markdown fence is taken
off, the first bracket is looked for, and what starts with it is parsed.

The copies agree on every text.  A document is recovered from the texts that may
surround it when it has no fence inside and nothing but whitespace follows it.
-/

namespace OpenZync.Llm

open OpenZync.Library Text

/-- The brackets that open an object and an array. -/
def Opens (c : Char) : Prop :=
  c = '\x7b' ∨ c = '['

/-- The whitespace of JSON. -/
def JsonSpace (c : Char) : Prop :=
  c = ' ' ∨ c = '\t' ∨ c = '\n' ∨ c = '\r'

instance (c : Char) : Decidable (Opens c) :=
  inferInstanceAs (Decidable (_ ∨ _))

instance (c : Char) : Decidable (JsonSpace c) :=
  inferInstanceAs (Decidable (_ ∨ _))

/-- `orjson.loads`, without a value where it raises.  It parses complete documents:
an object or array that is followed by more than whitespace is none. -/
structure JsonLibrary (V : Type) where
  loads : Text → Option V
  complete : ∀ document trailing, (∀ c ∈ document.head?, Opens c) →
    (loads document).isSome → (loads (document ++ trailing)).isSome →
      ∀ c ∈ trailing, JsonSpace c

/-- Three backquotes. -/
def fence : Text := ['\x60', '\x60', '\x60']

def jsonFence : Text := fence ++ "json".toList

/-- `text.split(fence, 1)[0]` -/
def beforeFence (text : Text) : Text :=
  match splitFirst fence text with
  | some (inside, _) => inside
  | none => text

/-- The branches that strip a fence, the same in both copies. -/
def unfence (text : Text) : Text :=
  match splitFirst jsonFence text with
  | some (_, after) => strip (beforeFence after)
  | none =>
      match splitFirst fence text with
      | some (_, after) => strip (beforeFence after)
      | none => text

/-- `text.find(c)` -/
def findChar (c : Char) (text : Text) : Int :=
  match text.idxOf? c with
  | some position => position
  | none => -1

/-- The loop of `_extract_json` over the two brackets. -/
def jsonStart (text : Text) : Int :=
  ['\x7b', '['].foldl (fun start c =>
    let position := findChar c text
    if 0 ≤ position ∧ (start < 0 ∨ position < start) then position else start) (-1)

/-- The two searches of `parse_extraction_json`. -/
def braceStart (text : Text) : Int :=
  let brace := findChar '\x7b' text
  let bracket := findChar '[' text
  if 0 ≤ bracket ∧ (brace < 0 ∨ bracket < brace) then bracket else brace

section

variable {V : Type} (library : JsonLibrary V)

/-- `text[start:]`, parsed; nothing without a start. -/
def loadsFrom (text : Text) (start : Int) : Option V :=
  if start < 0 then none else library.loads (text.drop start.toNat)

/-- `LLMBackend._extract_json` -/
def extractJson (text : Text) : Option V :=
  let text := strip (unfence text)
  loadsFrom library text (jsonStart text)

/-- `parse_extraction_json` -/
def parseExtractionJson (raw : Text) : Option V :=
  let text := unfence (strip raw)
  loadsFrom library text (braceStart text)

end

section Stripping

variable {text leading trailing : Text}

def Blank (text : Text) : Prop :=
  ∀ c ∈ text, isSpace c = true

theorem strip_append_left (blank : Blank leading) : strip (leading ++ text) = strip text := by
  rw [strip, List.dropWhile_append_of_pos blank, strip]

theorem strip_append_right (blank : Blank trailing) : strip (text ++ trailing) = strip text := by
  rw [strip, strip, List.dropWhile_append]
  split
  · rename_i empty
    rw [List.isEmpty_iff.mp empty, List.dropWhile_eq_nil_iff.mpr blank]
  · rw [List.reverse_append, List.dropWhile_append_of_pos]
    exact fun c member => blank c (List.mem_reverse.mp member)

/-- What is stripped is whitespace at both ends. -/
theorem strip_surrounded (text : Text) :
    ∃ leading trailing, Blank leading ∧ Blank trailing ∧
      text = leading ++ (strip text ++ trailing) := by
  refine ⟨text.takeWhile isSpace, (text.dropWhile isSpace).rtakeWhile isSpace, ?_, ?_, ?_⟩
  · exact fun c member => List.mem_takeWhile_imp member
  · exact fun c member => List.mem_rtakeWhile_imp member
  · have whole : strip text ++ (text.dropWhile isSpace).rtakeWhile isSpace =
        text.dropWhile isSpace := List.rdropWhile_append_rtakeWhile
    rw [whole, List.takeWhile_append_dropWhile]

/-- A text whose ends are no whitespace. -/
structure Solid (text : Text) : Prop where
  first : ∀ c ∈ text.head?, isSpace c = false
  last : ∀ c ∈ text.getLast?, isSpace c = false

theorem dropWhile_append_of_head (first : ∀ c ∈ text.head?, isSpace c = false) :
    (leading ++ text).dropWhile isSpace = leading.dropWhile isSpace ++ text := by
  have kept : text.dropWhile isSpace = text := by
    cases text with
    | nil => rfl
    | cons c rest => rw [List.dropWhile_cons_of_neg (by rw [first c rfl]; nofun)]
  rw [List.dropWhile_append]
  split
  · rename_i empty
    rw [List.isEmpty_iff.mp empty, kept]
    rfl
  · rfl

theorem rdropWhile_append_of_last (last : ∀ c ∈ text.getLast?, isSpace c = false)
    (trailing : Text) :
    (text ++ trailing).rdropWhile isSpace = text ++ trailing.rdropWhile isSpace := by
  have reversed : (trailing.reverse ++ text.reverse).dropWhile isSpace =
      trailing.reverse.dropWhile isSpace ++ text.reverse := by
    refine dropWhile_append_of_head fun c member => last c ?_
    rwa [List.head?_reverse] at member
  rw [List.rdropWhile, List.reverse_append, reversed, List.reverse_append, List.reverse_reverse]
  rfl

theorem strip_around (solid : Solid text) (nonempty : text ≠ []) (leading trailing : Text) :
    strip (leading ++ (text ++ trailing)) =
      leading.dropWhile isSpace ++ (text ++ trailing.rdropWhile isSpace) := by
  have first : ∀ c ∈ (text ++ trailing).head?, isSpace c = false := by
    intro c member
    rw [List.head?_append_of_ne_nil _ nonempty] at member
    exact solid.first c member
  have last : ∀ c ∈ (leading.dropWhile isSpace ++ text).getLast?, isSpace c = false := by
    intro c member
    rw [List.getLast?_append_of_ne_nil _ nonempty] at member
    exact solid.last c member
  have stripped := rdropWhile_append_of_last last trailing
  rw [List.append_assoc, List.append_assoc] at stripped
  rw [← stripped, ← dropWhile_append_of_head first]
  rfl

end Stripping

section Agreement

variable {text : Text}

theorem jsonFence_solid : ∀ c ∈ jsonFence, isSpace c = false := by
  have all : jsonFence.all (fun c => !isSpace c) = true := by decide
  intro c member
  simpa using List.all_eq_true.mp all c member

theorem fence_solid : ∀ c ∈ fence, isSpace c = false :=
  fun c member => jsonFence_solid c (List.mem_append_left _ member)

theorem splitFirst_stripped (marker : Text) {first : Char} {rest : Text}
    (shape : marker = first :: rest) (solid : ∀ c ∈ marker, isSpace c = false)
    {leading trailing : Text} (blank : Blank leading) (blank' : Blank trailing) (text : Text) :
    splitFirst marker (leading ++ (text ++ trailing)) =
      (splitFirst marker text).map fun split => (leading ++ split.1, split.2 ++ trailing) := by
  have disjoint : ∀ c ∈ trailing, c ∉ marker := by
    intro c member inMarker
    exact absurd ((solid c inMarker).symm.trans (blank' c member)) nofun
  have absent : first ∉ leading := by
    intro member
    have inMarker : first ∈ marker := by rw [shape]; exact List.mem_cons_self
    exact absurd ((solid first inMarker).symm.trans (blank first member)) nofun
  subst shape
  rw [splitFirst_append_left rest leading (text ++ trailing) absent,
    splitFirst_append_right (List.cons_ne_nil first rest) disjoint, Option.map_map]
  rfl

theorem strip_beforeFence {trailing : Text} (blank : Blank trailing) (text : Text) :
    strip (beforeFence (text ++ trailing)) = strip (beforeFence text) := by
  have split := splitFirst_stripped fence rfl fence_solid (show Blank [] from nofun) blank
    text
  rw [List.nil_append] at split
  rw [beforeFence, beforeFence, split]
  cases splitFirst fence text with
  | none => exact strip_append_right blank
  | some found => rfl

/-- Stripping before the fence is taken off leaves what stripping afterwards
does. -/
theorem unfence_strip (text : Text) : unfence (strip text) = strip (unfence text) := by
  obtain ⟨leading, trailing, blank, blank', whole⟩ := strip_surrounded text
  have splitJson := splitFirst_stripped jsonFence rfl jsonFence_solid blank blank'
    (strip text)
  have splitFence := splitFirst_stripped fence rfl fence_solid blank blank'
    (strip text)
  rw [← whole] at splitJson splitFence
  rw [unfence, unfence, splitJson, splitFence]
  cases splitFirst jsonFence (strip text) with
  | some found => simp only [Option.map_some, strip_beforeFence blank', strip_strip]
  | none =>
      cases splitFirst fence (strip text) with
      | some found => simp only [Option.map_some, Option.map_none, strip_beforeFence blank',
          strip_strip]
      | none => rfl

theorem findChar_of_neg {c : Char} (missing : findChar c text < 0) : findChar c text = -1 := by
  revert missing
  rw [findChar]
  cases text.idxOf? c with
  | none => exact fun _ => rfl
  | some position => exact fun impossible => absurd impossible (by simp)

/-- The loop over the brackets finds what the two searches do. -/
theorem jsonStart_eq (text : Text) : jsonStart text = braceStart text := by
  rw [jsonStart, braceStart]
  simp only [List.foldl_cons, List.foldl_nil]
  by_cases found : 0 ≤ findChar '{' text
  · simp [found]
  · have missing := findChar_of_neg (Int.lt_of_not_ge found)
    simp [missing]

/-- Both copies return the same on every text. -/
theorem parseExtractionJson_eq {V : Type} (library : JsonLibrary V) (text : Text) :
    parseExtractionJson library text = extractJson library text := by
  rw [parseExtractionJson, extractJson, unfence_strip, jsonStart_eq]

end Agreement

section Recovery

variable {V : Type} {library : JsonLibrary V} {document before after : Text} {value : V}

/-- A text without the brackets and the backquote. -/
def Plain (text : Text) : Prop :=
  ∀ c ∈ text, ¬ Opens c ∧ c ≠ '\x60'

instance (text : Text) : Decidable (Plain text) :=
  List.decidableBAll _ text

/-- The serialisation of an object or an array. -/
structure Serialises (library : JsonLibrary V) (value : V) (document : Text) : Prop where
  loads : library.loads document = some value
  opens : ∃ c ∈ document.head?, Opens c
  closes : ∃ c ∈ document.getLast?, c = '\x7d' ∨ c = ']'

theorem Opens.solid {c : Char} (opens : Opens c) : isSpace c = false ∧ c ∉ jsonFence := by
  rcases opens with rfl | rfl <;> decide

theorem JsonSpace.isSpace {c : Char} (space : JsonSpace c) : isSpace c = true := by
  rcases space with rfl | rfl | rfl | rfl <;> decide

theorem Serialises.solid (serialises : Serialises library value document) : Solid document where
  first := by
    intro c member
    obtain ⟨other, first, opens⟩ := serialises.opens
    rw [Option.mem_unique member first]
    exact opens.solid.1
  last := by
    intro c member
    obtain ⟨other, last, closes⟩ := serialises.closes
    rw [Option.mem_unique member last]
    rcases closes with rfl | rfl <;> decide

theorem Serialises.nonempty (serialises : Serialises library value document) :
    document ≠ [] := by
  rintro rfl
  obtain ⟨c, first, _⟩ := serialises.opens
  cases first

theorem findChar_of_head (c : Char) (rest : Text) : findChar c (c :: rest) = 0 := by
  simp [findChar, List.idxOf?_cons]

theorem findChar_behind {c d : Char} (different : d ≠ c) (rest : Text) :
    findChar c (d :: rest) = -1 ∨ 0 < findChar c (d :: rest) := by
  rw [findChar, List.idxOf?_cons, if_neg (by simpa using different)]
  cases rest.idxOf? c with
  | none => exact .inl rfl
  | some position => exact .inr (by simp)

theorem findChar_append {c : Char} (absent : c ∉ before) (text : Text) :
    findChar c (before ++ text) =
      if findChar c text < 0 then -1 else before.length + findChar c text := by
  have found : (before ++ text).idxOf? c = (text.idxOf? c).map (before.length + ·) := by
    induction before with
    | nil => simp
    | cons d before induction =>
        have different : d ≠ c := fun same => absent (same ▸ List.mem_cons_self)
        rw [List.cons_append, List.idxOf?_cons, if_neg (by simpa using different),
          induction fun member => absent (List.mem_cons_of_mem d member), Option.map_map]
        congr 1
        funext position
        simp only [Function.comp_apply, List.length_cons]
        omega
  rw [findChar, found, findChar]
  cases text.idxOf? c with
  | none => rfl
  | some position => simp

/-- The search starts the document at its own bracket. -/
theorem jsonStart_append {c : Char} (plain : ∀ c ∈ before, ¬ Opens c) (opens : Opens c)
    (rest : Text) : jsonStart (before ++ c :: rest) = before.length := by
  have noBrace : '\x7b' ∉ before := fun member => plain _ member (.inl rfl)
  have noBracket : '[' ∉ before := fun member => plain _ member (.inr rfl)
  rw [jsonStart_eq, braceStart, findChar_append noBrace, findChar_append noBracket]
  rcases opens with rfl | rfl
  · rcases findChar_behind (c := '[') (by decide : '\x7b' ≠ '[') rest with missing | later
    · simp [findChar_of_head, missing]
    · rw [findChar_of_head]
      split_ifs <;> omega
  · rcases findChar_behind (c := '\x7b') (by decide : '[' ≠ '\x7b') rest with missing | later
    · simp [findChar_of_head, missing]
    · rw [findChar_of_head]
      split_ifs <;> omega

/-- What is parsed starts with the document. -/
theorem loadsFrom_append (library : JsonLibrary V) {before : Text} {c : Char}
    (plain : ∀ c ∈ before, ¬ Opens c) (opens : Opens c) (rest : Text) :
    loadsFrom library (before ++ c :: rest) (jsonStart (before ++ c :: rest)) =
      library.loads (c :: rest) := by
  rw [jsonStart_append plain opens, loadsFrom, if_neg (by omega), Int.toNat_natCast,
    List.drop_left]

theorem loadsFrom_opens (library : JsonLibrary V) {c : Char} (opens : Opens c) (rest : Text) :
    loadsFrom library (c :: rest) (jsonStart (c :: rest)) = library.loads (c :: rest) :=
  loadsFrom_append library (show ∀ c ∈ ([] : Text), ¬ Opens c from nofun) opens rest

theorem unfence_of_unfenced (plain : Plain before) (plain' : Plain after)
    (unfenced : ¬ fence <:+: document) :
    unfence (before ++ (document ++ after)) = before ++ (document ++ after) := by
  have noFence : splitFirst fence (before ++ (document ++ after)) = none := by
    rw [fence, splitFirst_append_left _ before _ fun member => (plain _ member).2 rfl,
      splitFirst_append_right (List.cons_ne_nil _ _), ← fence,
      splitFirst_eq_none.mpr unfenced]
    · rfl
    · intro c member inFence
      refine (plain' c member).2 ?_
      simpa using inFence
  have noJsonFence : splitFirst jsonFence (before ++ (document ++ after)) = none := by
    rw [splitFirst_eq_none] at noFence ⊢
    exact fun occurs => noFence ((List.prefix_append fence "json".toList).isInfix.trans occurs)
  rw [unfence, noJsonFence, noFence]

/-- Without a fence the document is parsed with all that follows it but the
whitespace at the end. -/
theorem extractJson_of_unfenced (serialises : Serialises library value document)
    (plain : Plain before) (plain' : Plain after) (unfenced : ¬ fence <:+: document) :
    extractJson library (before ++ (document ++ after)) =
      library.loads (document ++ after.rdropWhile isSpace) := by
  rw [extractJson, unfence_of_unfenced plain plain' unfenced,
    strip_around serialises.solid serialises.nonempty]
  obtain ⟨c, first, opens⟩ := serialises.opens
  cases document with
  | nil => cases first
  | cons d rest =>
      obtain rfl : d = c := Option.some.inj first
      refine loadsFrom_append library (fun e member => (plain e ?_).1) opens _
      exact (List.dropWhile_suffix isSpace).subset member

/-- The text with the document in a fence for JSON. -/
def inJsonFence (before document after : Text) : Text :=
  before ++ (jsonFence ++ '\n' :: (document ++ '\n' :: (fence ++ after)))

/-- What follows the opening fence is cut at the next one. -/
theorem extractJson_inJsonFence (plain : Plain before) :
    extractJson library (inJsonFence before document after) =
      let text := strip (beforeFence ('\n' :: (document ++ '\n' :: (fence ++ after))))
      loadsFrom library text (jsonStart text) := by
  have opened : splitFirst jsonFence (inJsonFence before document after) =
      some (before, '\n' :: (document ++ '\n' :: (fence ++ after))) := by
    have start := splitFirst_append_left (['\x60', '\x60'] ++ "json".toList) before
      (jsonFence ++ '\n' :: (document ++ '\n' :: (fence ++ after)))
      fun member => (plain '\x60' member).2 rfl
    have found := splitFirst_of_prefix (show jsonFence ≠ [] by decide)
      ('\n' :: (document ++ '\n' :: (fence ++ after)))
    refine start.trans ((congrArg _ found).trans ?_)
    rw [Option.map_some, List.append_nil]
  rw [extractJson, unfence, opened]
  simp only [strip_strip]

theorem extractJson_of_fenced (serialises : Serialises library value document)
    (plain : Plain before) (unfenced : ¬ fence <:+: document) :
    extractJson library (inJsonFence before document after) = some value := by
  have inside : beforeFence ('\n' :: (document ++ '\n' :: (fence ++ after))) =
      ['\n'] ++ (document ++ ['\n']) := by
    have absent : ¬ fence <:+: '\n' :: document := by
      rw [List.infix_cons_iff]
      rintro (starts | occurs)
      · exact absurd (List.cons_prefix_cons.mp starts).1 (by decide)
      · exact unfenced occurs
    rw [beforeFence, ← List.cons_append, splitFirst_of_absent absent (by decide)]
    rfl
  rw [extractJson_inJsonFence plain, inside, strip_around serialises.solid serialises.nonempty]
  obtain ⟨c, first, opens⟩ := serialises.opens
  cases document with
  | nil => cases first
  | cons d rest =>
      obtain rfl : d = c := Option.some.inj first
      have parsed := loadsFrom_opens library opens rest
      have blank : isSpace '\n' = true := by decide
      simpa [List.rdropWhile, blank] using parsed.trans serialises.loads

theorem Serialises.loads_start {start more : Text}
    (serialises : Serialises library value (start ++ more)) (nonempty : start ≠ [])
    {c : Char} (member : c ∈ more) (solid : ¬ JsonSpace c) : library.loads start = none := by
  obtain ⟨d, first, opens⟩ := serialises.opens
  rw [List.head?_append_of_ne_nil _ nonempty] at first
  rw [← Option.not_isSome_iff_eq_none]
  intro parsed
  refine solid (library.complete start more ?_ parsed ?_ c member)
  · intro e member
    rw [Option.mem_unique member first]
    exact opens
  · rw [serialises.loads]
    rfl

/-- The line break before a document is stripped, and what follows it. -/
theorem strip_newline {d : Char} (solid : isSpace d = false) (start : Text) :
    strip (['\n'] ++ d :: start) = d :: start.rdropWhile isSpace := by
  have blank : Blank ['\n'] := by
    intro c member
    rw [List.mem_singleton.mp member]
    decide
  have last : ∀ c ∈ [d].getLast?, isSpace c = false := by
    intro c member
    rw [← Option.some.inj member]
    exact solid
  have kept : (d :: start).dropWhile isSpace = d :: start := by
    rw [List.dropWhile_cons_of_neg (by rw [solid]; nofun)]
  have dropped := rdropWhile_append_of_last last start
  rw [strip_append_left blank]
  exact (congrArg (List.rdropWhile isSpace) kept).trans dropped

theorem beforeFence_of_fenced {start rest : Text} (after : Text)
    (split : splitFirst fence document = some (start, rest)) :
    beforeFence ('\n' :: (document ++ '\n' :: (fence ++ after))) = ['\n'] ++ start := by
  have other : '\x60' ∉ ['\n'] := by decide
  have found := splitFirst_append_left ['\x60', '\x60'] ['\n']
    (document ++ '\n' :: (fence ++ after)) other
  rw [← fence, splitFirst_append_of_some split] at found
  exact congrArg (fun split => match split with
    | some (inside, _) => inside
    | none => '\n' :: (document ++ '\n' :: (fence ++ after))) found

theorem extractJson_of_cut (after : Text) (serialises : Serialises library value document)
    (plain : Plain before) (fenced : fence <:+: document) :
    extractJson library (inJsonFence before document after) = none := by
  obtain ⟨⟨start, rest⟩, split⟩ := Option.isSome_iff_exists.mp (splitFirst_isSome.mpr fenced)
  have inside := beforeFence_of_fenced after split
  obtain rfl := splitFirst_append split
  obtain ⟨c, first, opens⟩ := serialises.opens
  cases start with
  | nil =>
      obtain rfl : '\x60' = c := Option.some.inj first
      exact absurd opens (by decide)
  | cons d start =>
      obtain rfl : d = c := Option.some.inj first
      have whole : d :: start ++ (fence ++ rest) = (d :: start.rdropWhile isSpace) ++
          (start.rtakeWhile isSpace ++ (fence ++ rest)) := by
        rw [List.cons_append, List.cons_append, ← List.append_assoc (start.rdropWhile isSpace),
          List.rdropWhile_append_rtakeWhile]
      rw [whole] at serialises
      rw [extractJson_inJsonFence plain, inside, strip_newline opens.solid.1]
      refine (loadsFrom_opens library opens (start.rdropWhile isSpace)).trans ?_
      refine serialises.loads_start (List.cons_ne_nil _ _) (c := '\x60') ?_ (by decide)
      exact List.mem_append_right _ (by simp [fence])

/-- The value is recovered from the document behind other text, between other
texts, and in a fence. -/
structure Recovered (library : JsonLibrary V) (value : V) (before document after : Text) :
    Prop where
  behind : extractJson library (before ++ document) = some value
  between : extractJson library (before ++ document ++ after) = some value
  fenced : extractJson library (inJsonFence before document after) = some value

/-- A document is recovered, and both copies agree, exactly when the document has
no fence inside and only whitespace follows it. -/
theorem recovered_and_agree_iff (serialises : Serialises library value document)
    (plain : Plain before) (plain' : Plain after) :
    (Recovered library value before document after ∧
      ∀ text, parseExtractionJson library text = extractJson library text) ↔
        ¬ fence <:+: document ∧ Blank after := by
  constructor
  · rintro ⟨recovered, _⟩
    have unfenced : ¬ fence <:+: document := by
      intro fenced
      have cut := extractJson_of_cut after serialises plain fenced
      exact absurd (cut.symm.trans recovered.fenced) nofun
    refine ⟨unfenced, ?_⟩
    have parsed := extractJson_of_unfenced serialises plain plain' unfenced
    rw [← List.append_assoc, recovered.between] at parsed
    rw [Blank, ← List.rdropWhile_eq_nil_iff]
    by_contra left
    have space := library.complete document (after.rdropWhile isSpace) ?_
      (by rw [serialises.loads]; rfl) (by rw [← parsed]; rfl) _ (List.getLast_mem left)
    · exact List.rdropWhile_last_not isSpace after left space.isSpace
    · intro c first
      obtain ⟨d, same, opens⟩ := serialises.opens
      rw [Option.mem_unique first same]
      exact opens
  · rintro ⟨unfenced, blank⟩
    have recovers : ∀ trailing, Plain trailing → Blank trailing →
        extractJson library (before ++ (document ++ trailing)) = some value := by
      intro trailing plainTrailing blankTrailing
      rw [extractJson_of_unfenced serialises plain plainTrailing unfenced,
        List.rdropWhile_eq_nil_iff.mpr blankTrailing, List.append_nil, serialises.loads]
    refine ⟨⟨?_, ?_, extractJson_of_fenced serialises plain unfenced⟩,
      parseExtractionJson_eq library⟩
    · simpa using recovers [] nofun nofun
    · rw [List.append_assoc]
      exact recovers after plain' blank

/-- A library that knows the empty object. -/
def emptyObjects : JsonLibrary (List (Text × Text)) where
  loads := fun text => if text = ['\x7b', '\x7d'] then some [] else none
  complete := by
    intro document trailing _ parsed parsed' c member
    have empty : document = ['\x7b', '\x7d'] := by
      by_contra other
      simp [other] at parsed
    have whole : document ++ trailing = ['\x7b', '\x7d'] := by
      by_contra other
      simp [other] at parsed'
    rw [empty] at whole
    have none : trailing = [] := by simpa using whole
    rw [none] at member
    cases member

theorem emptyObjects_serialises : Serialises emptyObjects [] ['\x7b', '\x7d'] where
  loads := rfl
  opens := ⟨'\x7b', rfl, .inl rfl⟩
  closes := ⟨'\x7d', rfl, .inl rfl⟩

theorem emptyObject_recovered :
    (Recovered emptyObjects [] "Here: ".toList ['\x7b', '\x7d'] "\n".toList ∧
      ∀ text, parseExtractionJson emptyObjects text = extractJson emptyObjects text) ↔
        ¬ fence <:+: ['\x7b', '\x7d'] ∧ Blank "\n".toList :=
  recovered_and_agree_iff emptyObjects_serialises (by decide) (by decide)

/-- With a word after the object nothing is recovered. -/
theorem emptyObject_notRecovered :
    Serialises emptyObjects [] ['\x7b', '\x7d'] ∧ Plain " done".toList ∧
      ¬ Recovered emptyObjects [] [] ['\x7b', '\x7d'] " done".toList := by
  refine ⟨emptyObjects_serialises, by decide, ?_⟩
  intro recovered
  have lost : extractJson emptyObjects ([] ++ ['\x7b', '\x7d'] ++ " done".toList) = none := by
    decide
  exact absurd (lost.symm.trans recovered.between) nofun

end Recovery

end OpenZync.Llm
