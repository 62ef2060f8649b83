import OpenZync.Library.Json

/-!
# Reading JSON

A reader of the compact rendering of objects whose members are texts and nulls,
and one of every value, where a reader of the numbers is given.  What is rendered
is read back, so that two values with one rendering are equal.
-/

namespace OpenZync.Library.Json

universe u

variable {ν : Type u}

/-- The characters of a string after its opening quote, and what follows. -/
def readChars : Nat → List Char → Option (List Char × List Char)
  | 0, _ => none
  | fuel + 1, text =>
      match text with
      | '"' :: rest => some ([], rest)
      | text =>
          (unescapeChar text).bind fun read =>
            (readChars fuel read.2).map fun later => (read.1 :: later.1, later.2)

def readString : List Char → Option (List Char × List Char)
  | '"' :: rest => readChars rest.length rest
  | _ => none

/-- A string or null. -/
def readScalar : List Char → Option (Json ν × List Char)
  | 'n' :: 'u' :: 'l' :: 'l' :: rest => some (.null, rest)
  | text => (readString text).map fun read => (.string read.1, read.2)

/-- A key, a colon and a string or null. -/
def readMember (text : List Char) : Option ((List Char × Json ν) × List Char) :=
  match readString text with
  | some (key, ':' :: rest) => (readScalar rest).map fun read => ((key, read.1), read.2)
  | _ => none

/-- The members after the first one, and what follows the object. -/
def readMembers : Nat → List Char → Option (List (List Char × Json ν) × List Char)
  | 0, _ => none
  | fuel + 1, text =>
      match text with
      | '\x7d' :: rest => some ([], rest)
      | ',' :: rest =>
          (readMember rest).bind fun read =>
            (readMembers fuel read.2).map fun later => (read.1 :: later.1, later.2)
      | _ => none

/-- An object that is the whole text. -/
def readFlat : List Char → Option (Json ν)
  | ['\x7b', '\x7d'] => some (.object [])
  | '\x7b' :: text =>
      match readMember text with
      | none => none
      | some (first, rest) =>
          match readMembers rest.length rest with
          | some (members, []) => some (.object (first :: members))
          | _ => none
  | _ => none

/-- A string or null. -/
inductive Scalar : Json ν → Prop where
  | null : Scalar .null
  | string (value : List Char) : Scalar (.string value)

theorem escapeChar_ne_nil (c : Char) : escapeChar c ≠ [] := by
  intro empty
  have read := unescapeChar_escapeChar c []
  rw [empty] at read
  cases read

theorem length_le_escaped (value : List Char) :
    value.length ≤ (value.flatMap escapeChar).length := by
  induction value with
  | nil => exact Nat.le_refl 0
  | cons c value induction =>
      have positive := List.length_pos_iff.mpr (escapeChar_ne_nil c)
      rw [List.flatMap_cons, List.length_append, List.length_cons]
      omega

theorem readChars_escaped {fuel : Nat} (value rest : List Char) (enough : value.length < fuel) :
    readChars fuel (value.flatMap escapeChar ++ '"' :: rest) = some (value, rest) := by
  induction value generalizing fuel with
  | nil =>
      obtain ⟨fuel, rfl⟩ := Nat.exists_eq_succ_of_ne_zero (Nat.ne_of_gt enough)
      rfl
  | cons c value induction =>
      obtain ⟨fuel, rfl⟩ := Nat.exists_eq_succ_of_ne_zero (Nat.ne_of_gt (Nat.zero_lt_of_lt enough))
      rw [List.flatMap_cons, List.append_assoc, readChars]
      · rw [unescapeChar_escapeChar, Option.bind_some,
          induction (Nat.lt_of_succ_lt_succ enough)]
        rfl
      · intro later same
        exact escapeChar_ne_quote c _ later same

theorem readString_render (value rest : List Char) :
    readString (renderString value ++ rest) = some (value, rest) := by
  have shape : renderString value ++ rest = '"' :: (value.flatMap escapeChar ++ '"' :: rest) := by
    simp [renderString]
  have enough : value.length < (value.flatMap escapeChar ++ '"' :: rest).length := by
    have escaped := length_le_escaped value
    rw [List.length_append, List.length_cons]
    omega
  rw [shape, readString, readChars_escaped value rest enough]

theorem readScalar_render (literal : ν → List Char) {value : Json ν} (scalar : value.Scalar)
    (rest : List Char) : readScalar (render literal value ++ rest) = some (value, rest) := by
  cases scalar with
  | null => rfl
  | string value =>
      have quoted : render literal (.string value) ++ rest =
          '"' :: (value.flatMap escapeChar ++ '"' :: rest) := by
        simp [render, renderString]
      have read := readString_render value rest
      rw [show renderString value ++ rest = '"' :: (value.flatMap escapeChar ++ '"' :: rest) by
        simp [renderString]] at read
      rw [quoted, readScalar, read]
      · rfl
      · intro later same
        cases same

theorem render_ne_nil {literal : ν → List Char} (written : ∀ number, literal number ≠ [])
    (value : Json ν) : render literal value ≠ [] := by
  cases value with
  | null => simp [render]
  | bool value => cases value <;> simp [render]
  | number value => simpa [render] using written value
  | string value => simp [render, renderString]
  | array items => cases items <;> simp [render]
  | object members => rcases members with _ | ⟨⟨key, value⟩, members⟩ <;> simp [render]

theorem readMember_render (literal : ν → List Char) (key : List Char) {value : Json ν}
    (scalar : value.Scalar) (rest : List Char) :
    readMember (renderString key ++ ':' :: (render literal value ++ rest)) =
      some ((key, value), rest) := by
  rw [readMember, readString_render]
  change (readScalar (render literal value ++ rest)).map (fun read => ((key, read.1), read.2)) = _
  rw [readScalar_render literal scalar]
  rfl

theorem length_renderMembers (literal : ν → List Char) (members : List (List Char × Json ν)) :
    members.length < (renderMembers literal members).length := by
  induction members with
  | nil => exact Nat.zero_lt_one
  | cons member members induction =>
      obtain ⟨key, value⟩ := member
      simp only [renderMembers, List.length_cons, List.length_append]
      omega

theorem readMembers_render (literal : ν → List Char) {fuel : Nat}
    {members : List (List Char × Json ν)} (scalars : ∀ member ∈ members, member.2.Scalar)
    (enough : members.length < fuel) :
    readMembers fuel (renderMembers literal members) = some (members, []) := by
  induction members generalizing fuel with
  | nil =>
      obtain ⟨fuel, rfl⟩ := Nat.exists_eq_succ_of_ne_zero (Nat.ne_of_gt enough)
      rfl
  | cons member members induction =>
      obtain ⟨key, value⟩ := member
      obtain ⟨fuel, rfl⟩ := Nat.exists_eq_succ_of_ne_zero (Nat.ne_of_gt (Nat.zero_lt_of_lt enough))
      have shape : renderMembers literal ((key, value) :: members) =
          ',' :: (renderString key ++ ':' ::
            (render literal value ++ renderMembers literal members)) := by
        simp [renderMembers]
      have later := induction (fun other member => scalars other (List.mem_cons_of_mem _ member))
        (Nat.lt_of_succ_lt_succ enough)
      rw [shape, readMembers, readMember_render literal key (scalars _ List.mem_cons_self),
        Option.bind_some, later]
      rfl

theorem readFlat_render (literal : ν → List Char) {members : List (List Char × Json ν)}
    (scalars : ∀ member ∈ members, member.2.Scalar) :
    readFlat (render literal (.object members)) = some (.object members) := by
  cases members with
  | nil => rfl
  | cons member members =>
      obtain ⟨key, value⟩ := member
      have shape : render literal (.object ((key, value) :: members)) =
          '\x7b' :: (renderString key ++ ':' ::
            (render literal value ++ renderMembers literal members)) := by
        simp [render]
      have later := readMembers_render literal (fun other member =>
        scalars other (List.mem_cons_of_mem _ member)) (length_renderMembers literal members)
      rw [shape, readFlat]
      · rw [readMember_render literal key (scalars _ List.mem_cons_self)]
        dsimp only
        rw [later]
      · intro same
        cases same

section Values

/-- The text after a number: none, or the next item, or the end of a container. -/
def Delimited : List Char → Prop
  | [] => True
  | c :: _ => c = ',' ∨ c = ']' ∨ c = '\x7d'

/-- A literal is read back before a delimiter, and opens like no other value. -/
structure ReadsNumbers (literal : ν → List Char)
    (readNumber : List Char → Option (ν × List Char)) : Prop where
  read : ∀ value rest, Delimited rest → readNumber (literal value ++ rest) = some (value, rest)
  opening : ∀ value, ∃ c text, literal value = c :: text ∧
    c ∉ ['n', 't', 'f', '"', '[', '\x7b', ']', '\x7d']

variable (readNumber : List Char → Option (ν × List Char))

/-- The value of a word, where the rest of it follows. -/
def readWord (word : List Char) (value : Json ν) (text : List Char) :
    Option (Json ν × List Char) :=
  if word.isPrefixOf text then some (value, text.drop word.length) else none

mutual

/-- Any value, and what follows it. -/
def readValue : Nat → List Char → Option (Json ν × List Char)
  | 0, _ => none
  | _ + 1, [] => none
  | fuel + 1, c :: rest =>
      if c = 'n' then readWord ['u', 'l', 'l'] .null rest
      else if c = 't' then readWord ['r', 'u', 'e'] (.bool true) rest
      else if c = 'f' then readWord ['a', 'l', 's', 'e'] (.bool false) rest
      else if c = '"' then
        (readChars rest.length rest).map fun read => (.string read.1, read.2)
      else if c = '[' then
        if rest.head? = some ']' then some (.array [], rest.tail)
        else (readValue fuel rest).bind fun first =>
          (readItems fuel first.2).map fun later => (.array (first.1 :: later.1), later.2)
      else if c = '\x7b' then
        if rest.head? = some '\x7d' then some (.object [], rest.tail)
        else (readEntry fuel rest).bind fun first =>
          (readEntries fuel first.2).map fun later => (.object (first.1 :: later.1), later.2)
      else (readNumber (c :: rest)).map fun read => (.number read.1, read.2)

/-- The items after the first one, and what follows the array. -/
def readItems : Nat → List Char → Option (List (Json ν) × List Char)
  | 0, _ => none
  | _ + 1, [] => none
  | fuel + 1, c :: rest =>
      if c = ']' then some ([], rest)
      else if c = ',' then
        (readValue fuel rest).bind fun first =>
          (readItems fuel first.2).map fun later => (first.1 :: later.1, later.2)
      else none

/-- A member with any value. -/
def readEntry : Nat → List Char → Option ((List Char × Json ν) × List Char)
  | 0, _ => none
  | fuel + 1, text =>
      (readString text).bind fun key =>
        if key.2.head? = some ':' then
          (readValue fuel key.2.tail).map fun read => ((key.1, read.1), read.2)
        else none

/-- The members after the first one, and what follows the object. -/
def readEntries : Nat → List Char → Option (List (List Char × Json ν) × List Char)
  | 0, _ => none
  | _ + 1, [] => none
  | fuel + 1, c :: rest =>
      if c = '\x7d' then some ([], rest)
      else if c = ',' then
        (readEntry fuel rest).bind fun first =>
          (readEntries fuel first.2).map fun later => (first.1 :: later.1, later.2)
      else none

end

/-- A value that is the whole text. -/
def loads (text : List Char) : Option (Json ν) :=
  match readValue readNumber text.length text with
  | some (value, []) => some value
  | _ => none

variable {readNumber} {literal : ν → List Char}

/-- The value is read back from its rendering before a delimiter, and what it
begins with is not what ends an array. -/
structure Rereads (readNumber : List Char → Option (ν × List Char)) (literal : ν → List Char)
    (value : Json ν) : Prop where
  opens : ∀ rest, (render literal value ++ rest).head? ≠ some ']'
  read : ∀ (fuel : Nat) (rest : List Char), (render literal value).length ≤ fuel →
    Delimited rest →
      readValue readNumber fuel (render literal value ++ rest) = some (value, rest)

theorem delimited_renderItems (items : List (Json ν)) (rest : List Char) :
    Delimited (renderItems literal items ++ rest) := by
  cases items with
  | nil => exact .inr (.inl rfl)
  | cons item items =>
      simp only [renderItems, List.cons_append]
      exact .inl rfl

theorem delimited_renderMembers (members : List (List Char × Json ν)) (rest : List Char) :
    Delimited (renderMembers literal members ++ rest) := by
  cases members with
  | nil => exact .inr (.inr rfl)
  | cons member members =>
      obtain ⟨key, value⟩ := member
      simp only [renderMembers, List.cons_append]
      exact .inl rfl

theorem readItems_render {items : List (Json ν)}
    (each : ∀ item ∈ items, Rereads readNumber literal item) {fuel : Nat} (rest : List Char)
    (enough : (renderItems literal items).length ≤ fuel) :
    readItems readNumber fuel (renderItems literal items ++ rest) = some (items, rest) := by
  induction items generalizing fuel with
  | nil =>
      obtain ⟨fuel, rfl⟩ := Nat.exists_eq_succ_of_ne_zero (Nat.ne_of_gt enough)
      rfl
  | cons item items induction =>
      have shape : renderItems literal (item :: items) ++ rest =
          ',' :: (render literal item ++ (renderItems literal items ++ rest)) := by
        simp [renderItems]
      simp only [renderItems, List.cons_append, List.length_cons, List.length_append] at enough
      obtain ⟨fuel, rfl⟩ := Nat.exists_eq_succ_of_ne_zero (Nat.ne_of_gt (Nat.zero_lt_of_lt enough))
      have first : readValue readNumber fuel
          (render literal item ++ (renderItems literal items ++ rest)) =
          some (item, renderItems literal items ++ rest) :=
        (each item List.mem_cons_self).read _ _ (by omega) (delimited_renderItems items rest)
      have later : readItems readNumber fuel (renderItems literal items ++ rest) =
          some (items, rest) :=
        induction (fun other member => each other (List.mem_cons_of_mem _ member)) (by omega)
      rw [shape, readItems, if_neg (by decide), if_pos rfl, first, Option.bind_some, later]
      rfl

theorem readEntry_render {key : List Char} {value : Json ν}
    (rereads : Rereads readNumber literal value) {fuel : Nat} {rest : List Char}
    (enough : (renderString key ++ ':' :: render literal value).length ≤ fuel)
    (delimited : Delimited rest) :
    readEntry readNumber fuel (renderString key ++ ':' :: (render literal value ++ rest)) =
      some ((key, value), rest) := by
  rw [List.length_append, List.length_cons] at enough
  obtain ⟨fuel, rfl⟩ := Nat.exists_eq_succ_of_ne_zero (show fuel ≠ 0 by omega)
  have read : readValue readNumber fuel (render literal value ++ rest) = some (value, rest) :=
    rereads.read _ _ (by omega) delimited
  rw [readEntry, readString_render, Option.bind_some]
  dsimp only
  rw [List.head?_cons, if_pos rfl, List.tail_cons, read]
  rfl

theorem readEntries_render {members : List (List Char × Json ν)}
    (each : ∀ member ∈ members, Rereads readNumber literal member.2) {fuel : Nat}
    (rest : List Char) (enough : (renderMembers literal members).length ≤ fuel) :
    readEntries readNumber fuel (renderMembers literal members ++ rest) =
      some (members, rest) := by
  induction members generalizing fuel with
  | nil =>
      obtain ⟨fuel, rfl⟩ := Nat.exists_eq_succ_of_ne_zero (Nat.ne_of_gt enough)
      rfl
  | cons member members induction =>
      obtain ⟨key, value⟩ := member
      have shape : renderMembers literal ((key, value) :: members) ++ rest =
          ',' :: (renderString key ++ ':' ::
            (render literal value ++ (renderMembers literal members ++ rest))) := by
        simp [renderMembers]
      simp only [renderMembers, List.cons_append, List.length_cons, List.length_append] at enough
      obtain ⟨fuel, rfl⟩ := Nat.exists_eq_succ_of_ne_zero (show fuel ≠ 0 by omega)
      have rereads : Rereads readNumber literal value := each (key, value) List.mem_cons_self
      have delimits : Delimited (renderMembers literal members ++ rest) :=
        delimited_renderMembers members rest
      have short : (renderString key ++ ':' :: render literal value).length ≤ fuel := by
        rw [List.length_append, List.length_cons]
        omega
      have first := readEntry_render rereads short delimits
      have later : readEntries readNumber fuel (renderMembers literal members ++ rest) =
          some (members, rest) :=
        induction (fun other member => each other (List.mem_cons_of_mem _ member)) (by omega)
      rw [shape, readEntries, if_neg (by decide), if_pos rfl, first, Option.bind_some, later]
      rfl

theorem rereads_null : Rereads readNumber literal (.null : Json ν) := by
  refine ⟨fun rest => by simp [render], ?_⟩
  intro fuel rest enough delimited
  obtain ⟨fuel, rfl⟩ := Nat.exists_eq_succ_of_ne_zero (Nat.ne_of_gt (Nat.zero_lt_of_lt enough))
  rfl

theorem rereads_bool (value : Bool) : Rereads readNumber literal (.bool value : Json ν) := by
  refine ⟨fun rest => by cases value <;> simp [render], ?_⟩
  intro fuel rest enough delimited
  have positive : 0 < fuel := by
    cases value <;> exact Nat.zero_lt_of_lt enough
  obtain ⟨fuel, rfl⟩ := Nat.exists_eq_succ_of_ne_zero (Nat.ne_of_gt positive)
  cases value <;> rfl

theorem rereads_number (reads : ReadsNumbers literal readNumber) (value : ν) :
    Rereads readNumber literal (.number value) := by
  obtain ⟨c, text, written, other⟩ := reads.opening value
  simp only [List.mem_cons, List.not_mem_nil, or_false, not_or] at other
  obtain ⟨null, yes, no, quote, bracket, brace, closing, -⟩ := other
  refine ⟨fun rest => by simpa [render, written] using closing, ?_⟩
  intro fuel rest enough delimited
  have read := reads.read value rest delimited
  rw [render, written, List.length_cons] at enough
  obtain ⟨fuel, rfl⟩ := Nat.exists_eq_succ_of_ne_zero (Nat.ne_of_gt (Nat.zero_lt_of_lt enough))
  rw [written, List.cons_append] at read
  rw [render, written, List.cons_append, readValue, if_neg null, if_neg yes, if_neg no,
    if_neg quote, if_neg bracket, if_neg brace, read]
  rfl

theorem rereads_string (value : List Char) :
    Rereads readNumber literal (.string value : Json ν) := by
  refine ⟨fun rest => by simp [render, renderString], ?_⟩
  intro fuel rest enough delimited
  have read := readString_render value rest
  have shape : renderString value ++ rest = '"' :: (value.flatMap escapeChar ++ '"' :: rest) := by
    simp [renderString]
  rw [render, renderString, List.cons_append, List.length_cons] at enough
  obtain ⟨fuel, rfl⟩ := Nat.exists_eq_succ_of_ne_zero (Nat.ne_of_gt (Nat.zero_lt_of_lt enough))
  rw [shape, readString] at read
  rw [render, shape, readValue, if_neg (by decide), if_neg (by decide), if_neg (by decide),
    if_pos rfl, read]
  rfl

theorem rereads_array {items : List (Json ν)}
    (each : ∀ item ∈ items, Rereads readNumber literal item) :
    Rereads readNumber literal (.array items) := by
  refine ⟨fun rest => by cases items <;> simp [render], ?_⟩
  intro fuel rest enough delimited
  cases items with
  | nil =>
      obtain ⟨fuel, rfl⟩ := Nat.exists_eq_succ_of_ne_zero (Nat.ne_of_gt (Nat.zero_lt_of_lt enough))
      rfl
  | cons item items =>
      have shape : render literal (.array (item :: items)) ++ rest =
          '[' :: (render literal item ++ (renderItems literal items ++ rest)) := by
        simp [render]
      simp only [render, List.cons_append, List.length_cons, List.length_append] at enough
      obtain ⟨fuel, rfl⟩ := Nat.exists_eq_succ_of_ne_zero (show fuel ≠ 0 by omega)
      have first : readValue readNumber fuel
          (render literal item ++ (renderItems literal items ++ rest)) =
          some (item, renderItems literal items ++ rest) :=
        (each item List.mem_cons_self).read _ _ (by omega) (delimited_renderItems items rest)
      have later : readItems readNumber fuel (renderItems literal items ++ rest) =
          some (items, rest) :=
        readItems_render (fun other member => each other (List.mem_cons_of_mem _ member)) rest
          (by omega)
      rw [shape, readValue, if_neg (by decide), if_neg (by decide), if_neg (by decide),
        if_neg (by decide), if_pos rfl, if_neg ((each item List.mem_cons_self).opens _), first,
        Option.bind_some, later]
      rfl

theorem rereads_object {members : List (List Char × Json ν)}
    (each : ∀ member ∈ members, Rereads readNumber literal member.2) :
    Rereads readNumber literal (.object members) := by
  refine ⟨fun rest => by rcases members with _ | ⟨⟨key, value⟩, members⟩ <;> simp [render], ?_⟩
  intro fuel rest enough delimited
  cases members with
  | nil =>
      obtain ⟨fuel, rfl⟩ := Nat.exists_eq_succ_of_ne_zero (Nat.ne_of_gt (Nat.zero_lt_of_lt enough))
      rfl
  | cons member members =>
      obtain ⟨key, value⟩ := member
      have shape : render literal (.object ((key, value) :: members)) ++ rest =
          '\x7b' :: (renderString key ++ ':' ::
            (render literal value ++ (renderMembers literal members ++ rest))) := by
        simp [render]
      have opening : (renderString key ++ ':' ::
          (render literal value ++ (renderMembers literal members ++ rest))).head? ≠
          some '\x7d' := by
        simp [renderString]
      simp only [render, List.cons_append, List.length_cons, List.length_append] at enough
      obtain ⟨fuel, rfl⟩ := Nat.exists_eq_succ_of_ne_zero (show fuel ≠ 0 by omega)
      have rereads : Rereads readNumber literal value := each (key, value) List.mem_cons_self
      have delimits : Delimited (renderMembers literal members ++ rest) :=
        delimited_renderMembers members rest
      have short : (renderString key ++ ':' :: render literal value).length ≤ fuel := by
        rw [List.length_append, List.length_cons]
        omega
      have first := readEntry_render rereads short delimits
      have later : readEntries readNumber fuel (renderMembers literal members ++ rest) =
          some (members, rest) :=
        readEntries_render (fun other member => each other (List.mem_cons_of_mem _ member)) rest
          (by omega)
      rw [shape, readValue, if_neg (by decide), if_neg (by decide), if_neg (by decide),
        if_neg (by decide), if_neg (by decide), if_pos rfl, if_neg opening, first,
        Option.bind_some, later]
      rfl

mutual

theorem rereads (reads : ReadsNumbers literal readNumber) :
    ∀ value : Json ν, Rereads readNumber literal value
  | .null => rereads_null
  | .bool value => rereads_bool value
  | .number value => rereads_number reads value
  | .string value => rereads_string value
  | .array items => rereads_array (rereads_items reads items)
  | .object members => rereads_object (rereads_members reads members)

theorem rereads_items (reads : ReadsNumbers literal readNumber) :
    ∀ items : List (Json ν), ∀ item ∈ items, Rereads readNumber literal item
  | [] => fun _ member => absurd member List.not_mem_nil
  | item :: items => List.forall_mem_cons.mpr ⟨rereads reads item, rereads_items reads items⟩

theorem rereads_members (reads : ReadsNumbers literal readNumber) :
    ∀ members : List (List Char × Json ν), ∀ member ∈ members,
      Rereads readNumber literal member.2
  | [] => fun _ member => absurd member List.not_mem_nil
  | (_, value) :: members =>
      List.forall_mem_cons.mpr ⟨rereads reads value, rereads_members reads members⟩

end

theorem NumberFree.rereads {value : Json ν} (free : value.NumberFree) :
    Rereads readNumber literal value := by
  induction free with
  | null => exact rereads_null
  | bool value => exact rereads_bool value
  | string value => exact rereads_string value
  | array free induction => exact rereads_array induction
  | object free induction => exact rereads_object induction

theorem Rereads.loads {value : Json ν} (rereads : Rereads readNumber literal value) :
    loads readNumber (render literal value) = some value := by
  have read := rereads.read _ [] (Nat.le_refl _) True.intro
  rw [List.append_nil] at read
  rw [Json.loads, read]

theorem loads_render (reads : ReadsNumbers literal readNumber) (value : Json ν) :
    loads readNumber (render literal value) = some value :=
  (rereads reads value).loads

theorem NumberFree.render_inj {value other : Json ν} (free : value.NumberFree)
    (otherFree : other.NumberFree) (same : render literal value = render literal other) :
    value = other := by
  have read := (@NumberFree.rereads ν (fun _ => none) literal _ free).loads
  rw [same, otherFree.rereads.loads] at read
  exact (Option.some.inj read).symm

/-- Two values with one canonical rendering are the same up to the order of members. -/
theorem sortKeys_eq_of_dumps (reads : ReadsNumbers literal readNumber) {first second : Json ν}
    (same : dumps literal first = dumps literal second) : sortKeys first = sortKeys second := by
  have read := loads_render reads (sortKeys first)
  rw [show render literal (sortKeys first) = render literal (sortKeys second) from same,
    loads_render reads] at read
  exact (Option.some.inj read).symm

end Values

section Naturals

/-- The decimal digits a text begins with. -/
def readNat (text : List Char) : Option (Nat × List Char) :=
  some (Nat.ofDigitChars 10 (text.takeWhile Char.isDigit) 0, text.dropWhile Char.isDigit)

theorem readsNumbers_readNat : ReadsNumbers (Nat.toDigits 10) readNat := by
  have digits : ∀ value : Nat, ∀ c ∈ Nat.toDigits 10 value, c.isDigit = true :=
    fun value c member => Nat.isDigit_of_mem_toDigits (by decide) (by decide) member
  refine ⟨?_, ?_⟩
  · intro value rest delimited
    have stop : rest.takeWhile Char.isDigit = [] ∧ rest.dropWhile Char.isDigit = rest := by
      cases rest with
      | nil => exact ⟨rfl, rfl⟩
      | cons c rest =>
          have other : c.isDigit = false := by
            rcases delimited with rfl | rfl | rfl <;> decide
          simp [other]
    rw [readNat, List.takeWhile_append_of_pos (digits value),
      List.dropWhile_append_of_pos (digits value), stop.1, stop.2, List.append_nil,
      Nat.ofDigitChars_ten_toDigits]
  · intro value
    obtain ⟨c, text, written⟩ := List.exists_cons_of_ne_nil
      (show Nat.toDigits 10 value ≠ [] from Nat.toDigits_ne_nil)
    refine ⟨c, text, written, ?_⟩
    have digit : c.isDigit = true := digits value c (by rw [written]; exact List.mem_cons_self)
    intro member
    simp only [List.mem_cons, List.not_mem_nil, or_false] at member
    rcases member with rfl | rfl | rfl | rfl | rfl | rfl | rfl | rfl <;> cases digit

end Naturals

section NumberTexts

/-- The characters of which a JSON number is written. -/
def numberChars : List Char :=
  "0123456789+-.eE".toList

/-- A number as it is written, so that `1` and `1.0` are two. -/
structure NumberText where
  text : List Char
  present : text ≠ []
  plain : ∀ c ∈ text, c ∈ numberChars

theorem NumberText.ext {first second : NumberText} (same : first.text = second.text) :
    first = second := by
  cases first
  cases second
  cases same
  rfl

/-- The number a text begins with. -/
def readNumberText (text : List Char) : Option (NumberText × List Char) :=
  if present : text.takeWhile (· ∈ numberChars) ≠ [] then
    some (⟨text.takeWhile (· ∈ numberChars), present,
      fun c member => of_decide_eq_true (List.all_eq_true.mp List.all_takeWhile c member)⟩,
      text.dropWhile (· ∈ numberChars))
  else none

theorem readsNumbers_readNumberText : ReadsNumbers NumberText.text readNumberText := by
  refine ⟨?_, ?_⟩
  · intro value rest delimited
    have plain : ∀ c ∈ value.text, decide (c ∈ numberChars) = true :=
      fun c member => decide_eq_true (value.plain c member)
    have stop : rest.takeWhile (· ∈ numberChars) = [] ∧
        rest.dropWhile (· ∈ numberChars) = rest := by
      cases rest with
      | nil => exact ⟨rfl, rfl⟩
      | cons c rest =>
          have other : c ∉ numberChars := by
            rcases delimited with rfl | rfl | rfl <;> decide
          simp [other]
    have taken : (value.text ++ rest).takeWhile (· ∈ numberChars) = value.text := by
      rw [List.takeWhile_append_of_pos plain, stop.1, List.append_nil]
    have left : (value.text ++ rest).dropWhile (· ∈ numberChars) = rest := by
      rw [List.dropWhile_append_of_pos plain, stop.2]
    rw [readNumberText, dif_pos (by rw [taken]; exact value.present), left]
    congr 2
    exact NumberText.ext taken
  · intro value
    obtain ⟨c, text, written⟩ := List.exists_cons_of_ne_nil value.present
    refine ⟨c, text, written, ?_⟩
    have number : c ∈ numberChars := value.plain c (by rw [written]; exact List.mem_cons_self)
    have apart : numberChars.all
        (· ∉ ['n', 't', 'f', '"', '[', '\x7b', ']', '\x7d']) = true := by
      decide
    exact of_decide_eq_true (List.all_eq_true.mp apart c number)

end NumberTexts

end OpenZync.Library.Json
