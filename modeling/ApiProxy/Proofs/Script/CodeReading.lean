import ApiProxy.Proofs.Script.ModelLine

/-! Generated code read back from its front. A reader takes what it reads off a text and gives what stands behind it, so
readers are put together in the order in which the code is written. What may stand behind an item has to be told apart
from the item itself: behind an identifier stands no character of one, and behind a type nothing that would go on with
it. A type has one name in it; the marks of arrays and the ends of dictionaries stand behind the name, from the inside
out. -/

namespace ApiProxy.Script

/-! ### Readers -/

abbrev Reader (α : Type) := StateT (List Char) Option α

variable {α β : Type}

theorem Reader.bind_of {reader : Reader α} {next : α → Reader β} {text rest : List Char} {value : α}
    (h : reader text = some (value, rest)) : (reader >>= next) text = next value rest := by
  show (reader text).bind _ = _
  rw [h]
  rfl

theorem Reader.bind_of_none {reader : Reader α} {text : List Char} (h : reader text = none)
    (next : α → Reader β) : (reader >>= next) text = none := by
  show (reader text).bind _ = _
  rw [h]
  rfl

/-- Reads what has to stand there. -/
def skip (mark : String) : Reader Unit := fun text => (text.dropPrefix? mark.toList).map fun rest => ((), rest)

theorem skip_append (mark : String) (rest : List Char) : skip mark (mark.toList ++ rest) = some ((), rest) := by
  rw [skip, dropPrefix?_append]
  rfl

theorem Reader.skip_bind (mark : String) (rest : List Char) (next : Unit → Reader β) :
    (skip mark >>= next) (mark.toList ++ rest) = next () rest :=
  Reader.bind_of (skip_append mark rest)

/-- A mark is not found in front of a text that begins otherwise. -/
theorem skip_eq_none {mark : String} {rest : List Char} (hmark : mark.toList ≠ [])
    (h : rest.head? ≠ mark.toList.head?) : skip mark rest = none := by
  rw [skip]
  cases hlist : mark.toList with
  | nil => exact absurd hlist hmark
  | cons first more =>
      rw [hlist] at h
      cases rest with
      | nil => rfl
      | cons c rest =>
          have hc : (c == first) = false := by
            rw [beq_eq_false_iff_ne]
            rintro rfl
            exact h rfl
          rw [List.dropPrefix?, hc]
          rfl

/-- Reads an item if one stands there. -/
def attempt (reader : Reader α) : Reader (Option α) := fun text =>
  match reader text with
  | some (value, rest) => some (some value, rest)
  | none => some (none, text)

theorem attempt_of_some {reader : Reader α} {text rest : List Char} {value : α}
    (h : reader text = some (value, rest)) : attempt reader text = some (some value, rest) := by
  rw [attempt, h]

theorem attempt_of_none {reader : Reader α} {text : List Char} (h : reader text = none) :
    attempt reader text = some (none, text) := by
  rw [attempt, h]

/-- Reads items for as long as there are any. -/
def readAll (item : Reader α) (text : List Char) : Option (List α × List Char) :=
  match item text with
  | some (value, rest) =>
    if rest.length < text.length then (readAll item rest).map fun read => (value :: read.1, read.2)
    else some ([], text)
  | none => some ([], text)
termination_by text.length

/-- Items that are written one behind the other are all read, if the last one is told apart from what follows. -/
theorem readAll_flatMap {print : α → List Char} {reading : α → β} {item : Reader β} (ends : List Char → Prop)
    {values : List α} {rest : List Char} (hne : ∀ value ∈ values, print value ≠ [])
    (hitem : ∀ value ∈ values, ∀ rest, ends rest → item (print value ++ rest) = some (reading value, rest))
    (hends : ∀ value ∈ values, ∀ rest, ends (print value ++ rest)) (hrest : ends rest) (hstop : item rest = none) :
    readAll item (values.flatMap print ++ rest) = some (values.map reading, rest) := by
  induction values with
  | nil =>
      rw [List.flatMap_nil, List.nil_append, readAll, hstop]
      rfl
  | cons value values ih =>
      rw [List.forall_mem_cons] at hne hitem hends
      have hlater : ends (values.flatMap print ++ rest) := by
        cases values with
        | nil => exact hrest
        | cons next values =>
            rw [List.flatMap_cons, List.append_assoc]
            exact hends.2 next List.mem_cons_self _
      have hshorter : (values.flatMap print ++ rest).length <
          (print value ++ (values.flatMap print ++ rest)).length := by
        have hpositive := List.length_pos_iff.mpr hne.1
        rw [List.length_append, List.length_append, List.length_append]
        omega
      rw [List.flatMap_cons, List.append_assoc, readAll, hitem.1 _ hlater]
      dsimp only
      rw [if_pos hshorter, ih hne.2 hitem.2 hends.2]
      rfl

/-- Reads items with commas between them. -/
def separated (item : Reader α) : Reader (List α) := do
  match ← attempt item with
  | none => pure []
  | some first =>
    let others ← readAll do
      skip ", "
      item
    pure (first :: others)

theorem intercalate_cons_eq_flatMap (separator first : List Char) (others : List (List Char)) :
    separator.intercalate (first :: others) = first ++ others.flatMap fun other => separator ++ other := by
  induction others generalizing first with
  | nil => rw [List.intercalate_singleton, List.flatMap_nil, List.append_nil]
  | cons other others ih => rw [List.intercalate_cons_cons, ih, List.flatMap_cons, List.append_assoc,
      List.append_assoc]

theorem toList_intercalate_comma {print : α → String} (first : α) (others : List α) :
    (", ".intercalate ((first :: others).map print)).toList =
      (print first).toList ++ others.flatMap fun other => ", ".toList ++ (print other).toList := by
  rw [String.toList_intercalate, List.map_cons, List.map_cons, intercalate_cons_eq_flatMap, List.map_map,
    List.flatMap_map]
  rfl

theorem separated_intercalate {print : α → String} {reading : α → β} {item : Reader β} (ends : List Char → Prop)
    {values : List α} {rest : List Char}
    (hitem : ∀ value ∈ values, ∀ rest, ends rest →
      item ((print value).toList ++ rest) = some (reading value, rest))
    (hends : ∀ rest, ends (',' :: rest)) (hrest : ends rest) (hstop : item rest = none)
    (hcomma : rest.head? ≠ some ',') :
    separated item ((", ".intercalate (values.map print)).toList ++ rest) = some (values.map reading, rest) := by
  cases values with
  | nil =>
      show separated item rest = _
      rw [separated, Reader.bind_of (attempt_of_none hstop)]
      rfl
  | cons first others =>
      rw [List.forall_mem_cons] at hitem
      have hmark : ∀ other rest, ends ((", ".toList ++ (print other).toList) ++ rest) := fun other rest => hends _
      have hfirst : ends ((others.flatMap fun other => ", ".toList ++ (print other).toList) ++ rest) := by
        cases others with
        | nil => exact hrest
        | cons next others =>
            rw [List.flatMap_cons, List.append_assoc]
            exact hmark next _
      have hnone : (do skip ", "; item : Reader β) rest = none :=
        Reader.bind_of_none (skip_eq_none (by decide) hcomma) _
      have hothers : readAll (do skip ", "; item)
          ((others.flatMap fun other => ", ".toList ++ (print other).toList) ++ rest) =
            some (others.map reading, rest) := by
        refine readAll_flatMap ends (fun _ _ => List.cons_ne_nil _ _) ?_ (fun other _ => hmark other) hrest hnone
        intro other hother rest hrest
        rw [List.append_assoc, Reader.skip_bind]
        exact hitem.2 other hother rest hrest
      rw [toList_intercalate_comma, List.append_assoc, separated,
        Reader.bind_of (attempt_of_some (hitem.1 _ hfirst))]
      dsimp only
      rw [Reader.bind_of hothers]
      rfl

/-! ### Identifiers -/

def readIdentifier : Reader String := fun text =>
  let name := String.ofList (text.takeWhile isIdentifierPart)
  if isIdentifier name then some (name, text.dropWhile isIdentifierPart) else none

/-- No character of an identifier stands in front. -/
def EndsIdentifier (rest : List Char) : Prop := ∀ c ∈ rest.head?, isIdentifierPart c = false

theorem takeWhile_of_endsIdentifier {rest : List Char} (h : EndsIdentifier rest) :
    rest.takeWhile isIdentifierPart = [] ∧ rest.dropWhile isIdentifierPart = rest := by
  cases rest with
  | nil => exact ⟨rfl, rfl⟩
  | cons c rest =>
      have hc : isIdentifierPart c = false := h c rfl
      simp [hc]

theorem readIdentifier_append {name : String} (h : isIdentifier name = true) {rest : List Char}
    (hrest : EndsIdentifier rest) : readIdentifier (name.toList ++ rest) = some (name, rest) := by
  have hparts : ∀ c ∈ name.toList, isIdentifierPart c = true := fun _ => isIdentifierPart_of_mem h
  obtain ⟨htake, hdrop⟩ := takeWhile_of_endsIdentifier hrest
  simp only [readIdentifier, List.takeWhile_append_of_pos hparts, List.dropWhile_append_of_pos hparts, htake, hdrop,
    List.append_nil, String.ofList_toList, if_pos h]

theorem readIdentifier_of_endsIdentifier {rest : List Char} (h : EndsIdentifier rest) : readIdentifier rest = none := by
  simp only [readIdentifier, (takeWhile_of_endsIdentifier h).1]
  rfl

/-- A word with a mark behind it is not taken for the beginning of an identifier that goes on otherwise. -/
theorem skip_eq_none_of_identifier (word : List Char) (mark : Char) (more : List Char) {name : String}
    {rest : List Char} (hword : word.all isIdentifierPart = true) (hmark : isIdentifierPart mark = false)
    (h : isIdentifier name = true) (hrest : EndsIdentifier rest) (hother : rest.head? ≠ some mark) :
    skip (String.ofList (word ++ mark :: more)) (name.toList ++ rest) = none := by
  rw [skip, String.toList_ofList, Option.map_eq_none_iff, Option.eq_none_iff_forall_ne_some]
  intro tail htail
  obtain ⟨front, htext, hfront⟩ := List.dropPrefix?_eq_some_iff.mp htail
  have hparts : ∀ c ∈ name.toList, isIdentifierPart c = true := fun _ => isIdentifierPart_of_mem h
  rw [eq_of_beq hfront, List.append_assoc, List.cons_append] at htext
  have htake := congrArg (List.takeWhile isIdentifierPart) htext
  rw [List.takeWhile_append_of_pos hparts, (takeWhile_of_endsIdentifier hrest).1, List.append_nil,
    List.takeWhile_append_of_pos (List.all_eq_true.mp hword), List.takeWhile_cons_of_neg (by simp [hmark]),
    List.append_nil] at htake
  rw [htake] at htext
  exact hother (by rw [List.append_cancel_left htext]; rfl)

/-! ### Types -/

/-- A type as its text tells it: a name, and what is made of the type with that name. -/
inductive TypeReading where
  | named (name : String)
  | list (element : TypeReading)
  | dictionary (value : TypeReading)
deriving DecidableEq, Repr

namespace TypeReading

def name : TypeReading → String
  | named name => name
  | list element => element.name
  | dictionary value => value.name

end TypeReading

/-- Reads the marks behind a type as far as they belong to it; `opened` is the number of dictionaries that are not
ended yet. -/
def readMarks (opened : Nat) (type : TypeReading) : Reader TypeReading
  | '[' :: ']' :: rest => readMarks opened (.list type) rest
  | '>' :: rest =>
    match opened with
    | 0 => some (type, '>' :: rest)
    | outer + 1 => readMarks outer (.dictionary type) rest
  | rest => if opened = 0 then some (type, rest) else none

theorem length_dropPrefix?_lt {front text rest : List Char} (hne : front ≠ [])
    (h : text.dropPrefix? front = some rest) : rest.length < text.length := by
  obtain ⟨twin, rfl, htwin⟩ := List.dropPrefix?_eq_some_iff.mp h
  have hpositive := List.length_pos_iff.mpr hne
  rw [eq_of_beq htwin, List.length_append]
  omega

def readTypeBehind (opened : Nat) (text : List Char) : Option (TypeReading × List Char) :=
  match _hfront : text.dropPrefix? "Record<string, ".toList with
  | some rest => readTypeBehind (opened + 1) rest
  | none => (readIdentifier text).bind fun read => readMarks opened (.named read.1) read.2
termination_by text.length
decreasing_by exact length_dropPrefix?_lt (by decide) _hfront

def readType : Reader TypeReading := readTypeBehind 0

def TypeExpr.reading : TypeExpr → TypeReading
  | primitive name => .named name
  | declared identifier => .named identifier
  | list element => .list element.reading
  | dictionary value => .dictionary value.reading

/-- What stands behind a type does not go on with it. -/
def EndsType (rest : List Char) : Prop := ∀ c ∈ rest.head?, c ∈ [',', ')', ' ', '>']

theorem EndsType.readMarks_eq {rest : List Char} (h : EndsType rest) (type : TypeReading) :
    readMarks 0 type rest = some (type, rest) := by
  rw [readMarks.eq_def]
  split
  next => exact absurd (h _ rfl) (by decide)
  next => rfl
  next => rfl

theorem readTypeBehind_name {name : String} (h : isIdentifier name = true) {rest : List Char}
    (hrest : EndsIdentifier rest) (hangle : rest.head? ≠ some '<') (opened : Nat) :
    readTypeBehind opened (name.toList ++ rest) = readMarks opened (.named name) rest := by
  have hskip : skip "Record<string, " (name.toList ++ rest) = none :=
    skip_eq_none_of_identifier "Record".toList '<' "string, ".toList (by decide) (by decide) h hrest hangle
  have hfront : (name.toList ++ rest).dropPrefix? "Record<string, ".toList = none := Option.map_eq_none_iff.mp hskip
  rw [readTypeBehind]
  split
  next _ hsome =>
    rw [hfront] at hsome
    cases hsome
  next => rw [readIdentifier_append h hrest, Option.bind_some]

/-- What may stand behind the name in a type: a mark that belongs to it, or what ends it. -/
def EndsName (rest : List Char) : Prop := ∀ c ∈ rest.head?, c ∈ [',', ')', ' ', '>', '[']

theorem EndsName.endsIdentifier {rest : List Char} (h : EndsName rest) : EndsIdentifier rest := by
  have hmarks : [',', ')', ' ', '>', '['].all (!isIdentifierPart ·) = true := by decide
  intro c hc
  simpa using List.all_eq_true.mp hmarks c (h c hc)

theorem EndsName.head_ne {rest : List Char} (h : EndsName rest) : rest.head? ≠ some '<' := fun hangle =>
  absurd (h _ hangle) (by decide)

theorem EndsType.endsName {rest : List Char} (h : EndsType rest) : EndsName rest := fun c hc => by
  have hmark := h c hc
  simp only [List.mem_cons, List.not_mem_nil, or_false] at hmark ⊢
  tauto

/-- The text of a type is read up to the marks that stand behind it. -/
theorem readTypeBehind_text {type : TypeExpr} (h : isIdentifier type.reading.name = true) {rest : List Char}
    (hrest : EndsName rest) (opened : Nat) :
    readTypeBehind opened (type.text.toList ++ rest) = readMarks opened type.reading rest := by
  induction type generalizing opened rest with
  | primitive name => exact readTypeBehind_name h hrest.endsIdentifier hrest.head_ne opened
  | declared identifier => exact readTypeBehind_name h hrest.endsIdentifier hrest.head_ne opened
  | list element ih =>
      have hmark : EndsName ('[' :: ']' :: rest) := by
        intro c hc
        cases hc
        decide
      have htext : (TypeExpr.list element).text.toList ++ rest = element.text.toList ++ '[' :: ']' :: rest := by
        rw [TypeExpr.text, String.toList_append, List.append_assoc]
        rfl
      rw [htext, ih h hmark]
      rfl
  | dictionary value ih =>
      have hmark : EndsName ('>' :: rest) := by
        intro c hc
        cases hc
        decide
      have htext : (TypeExpr.dictionary value).text.toList ++ rest =
          "Record<string, ".toList ++ (value.text.toList ++ '>' :: rest) := by
        rw [TypeExpr.text, String.toList_append, String.toList_append, List.append_assoc, List.append_assoc]
        rfl
      have hfront := dropPrefix?_append "Record<string, ".toList (value.text.toList ++ '>' :: rest)
      rw [htext, readTypeBehind]
      split
      next found hsome =>
        obtain rfl := Option.some.inj (hfront.symm.trans hsome)
        rw [ih h hmark]
        rfl
      next hnone =>
        rw [hfront] at hnone
        cases hnone

theorem readType_text {type : TypeExpr} (h : isIdentifier type.reading.name = true) {rest : List Char}
    (hrest : EndsType rest) : readType (type.text.toList ++ rest) = some (type.reading, rest) := by
  rw [readType, readTypeBehind_text h hrest.endsName, hrest.readMarks_eq]

end ApiProxy.Script
