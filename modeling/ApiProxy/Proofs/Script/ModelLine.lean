import Mathlib.Data.List.Basic
import ApiProxy.Proofs.Json.Scalars
import ApiProxy.Proofs.Names.Identifiers
import ApiProxy.Proofs.Script.TypeExpr
import ApiProxy.Script.ModelFile

/-! The lines of the model file, and what can be read off each of them alone. A name that is no identifier is quoted,
and a quotation holds no line feed and ends at its own mark, so nothing that a name or a text of the schema holds can
end a line, a name or a value. The text of a type has neither a semicolon nor a bar, so the end of a field's line is
told apart from its type. -/

namespace ApiProxy.Script

/-! ### Reading a line -/

/-- A field as its line tells it: the name, the text of the type, and whether `null` may stand in its place. -/
structure FieldReading where
  name : String
  type : String
  isNullable : Bool
deriving DecidableEq, Repr

/-- A declaration as its lines tell it. -/
inductive DeclarationReading where
  | interface (identifier : String) (fields : List FieldReading)
  | enumeration (identifier : String) (members : List Member)
deriving DecidableEq

def DeclarationReading.identifier : DeclarationReading → String
  | interface identifier _ => identifier
  | enumeration identifier _ => identifier

/-- Reads a name and gives what stands behind it: a name in quotation marks is decoded, any other name is the
identifier that stands there. -/
def readKey : List Char → Option (String × List Char)
  | '"' :: text =>
    match Json.readQuotation {} text with
    | .closed (some name) rest => some (name, rest)
    | _ => none
  | text =>
    let name := String.ofList (text.takeWhile isIdentifierPart)
    if isIdentifier name then some (name, text.dropWhile isIdentifierPart) else none

def indentation : List Char := [' ', ' ']

def nullMark : List Char := " | null".toList

def readField (line : List Char) : Option FieldReading := do
  let (name, rest) ← readKey (← line.dropPrefix? indentation)
  let type ← (← rest.dropPrefix? [':', ' ']).dropSuffix? [';']
  match type.dropSuffix? nullMark with
  | some bare => pure ⟨name, String.ofList bare, true⟩
  | none => pure ⟨name, String.ofList type, false⟩

def readMember (line : List Char) : Option Member := do
  let (name, rest) ← readKey (← line.dropPrefix? indentation)
  match Json.scalar (← rest.dropPrefix? [' ', '=', ' ']) with
  | (.text (some value), some [',']) => pure ⟨name, .text value⟩
  | (.number (some (.integer value)), some [',']) => pure ⟨name, .integer (Int64.ofInt value)⟩
  | _ => none

/-- Reads the identifier that a line opens a declaration for. -/
def readOpening (keyword : String) (line : List Char) : Option String := do
  let identifier := String.ofList (← (← line.dropPrefix? keyword.toList).dropSuffix? [' ', '\x7b'])
  if isIdentifier identifier then pure identifier else none

/-! ### Names -/

theorem dropPrefix?_append (front rest : List Char) : (front ++ rest).dropPrefix? front = some rest :=
  List.dropPrefix?_append_of_beq rest (beq_self_eq_true front)

theorem dropSuffix?_append (front tail : List Char) : (front ++ tail).dropSuffix? tail = some front :=
  List.dropSuffix?_eq_some_iff.mpr ⟨tail, rfl, beq_self_eq_true tail⟩

section Key

variable {mark : Char} (hmark : isIdentifierPart mark = false) (rest : List Char)

include hmark

theorem takeWhile_identifier {identifier : List Char} (hparts : ∀ c ∈ identifier, isIdentifierPart c = true) :
    (identifier ++ mark :: rest).takeWhile isIdentifierPart = identifier ∧
      (identifier ++ mark :: rest).dropWhile isIdentifierPart = mark :: rest := by
  rw [List.takeWhile_append_of_pos hparts, List.dropWhile_append_of_pos hparts]
  simp [hmark]

theorem readKey_of_isIdentifier {name : String} (h : isIdentifier name = true) :
    readKey (name.toList ++ mark :: rest) = some (name, mark :: rest) := by
  obtain ⟨c, tail, hname, hstart, _⟩ := exists_cons_of_isIdentifier h
  have hquote : c ≠ '"' := by
    rintro rfl
    exact absurd hstart (by decide)
  have hparts : ∀ d ∈ name.toList, isIdentifierPart d = true := fun d => isIdentifierPart_of_mem h
  obtain ⟨htake, hdrop⟩ := takeWhile_identifier hmark rest hparts
  rw [hname, List.cons_append] at htake hdrop ⊢
  rw [readKey]
  · rw [htake, hdrop, ← hname, String.ofList_toList, if_pos h]
  · rintro text heq
    exact hquote (List.cons.inj heq).1

end Key

theorem toList_quote_append (text : String) (rest : List Char) :
    (Json.quote text).toList ++ rest = '"' :: (text.toList.flatMap Json.escape ++ '"' :: rest) := by
  simp [Json.quote, Json.quoted]

theorem readKey_quote (name : String) (rest : List Char) :
    readKey ((Json.quote name).toList ++ rest) = some (name, rest) := by
  rw [toList_quote_append, readKey, Json.readQuotation_text]

/-- A name is read back from the key that stands for it, up to a mark that goes on with no identifier. -/
theorem readKey_propertyKey (name : String) {mark : Char} (hmark : isIdentifierPart mark = false)
    (rest : List Char) : readKey ((propertyKey name).toList ++ mark :: rest) = some (name, mark :: rest) := by
  by_cases h : isIdentifier name = true
  · rw [propertyKey, if_pos h]
    exact readKey_of_isIdentifier hmark rest h
  · rw [propertyKey, if_neg h]
    exact readKey_quote name (mark :: rest)

/-! ### No line feed -/

theorem lineFeed_notMem_escape (c : Char) : '\n' ∉ Json.escape c := by
  by_cases hcontrol : c.toNat < 0x20
  · have hall : ∀ code < 0x20, '\n' ∉ Json.escape (Char.ofNat code) := by decide
    have hescape := hall c.toNat hcontrol
    rwa [Char.ofNat_toNat] at hescape
  · have hc : '\n' ≠ c := by
      rintro rfl
      exact hcontrol (by decide)
    unfold Json.escape
    split_ifs <;> simp [hc]

theorem lineFeed_notMem_quote (text : String) : '\n' ∉ (Json.quote text).toList := by
  rw [Json.quote, String.toList_ofList, Json.quoted]
  simp [lineFeed_notMem_escape]

theorem lineFeed_notMem_of_isIdentifier {name : String} (h : isIdentifier name = true) : '\n' ∉ name.toList := by
  intro hmem
  have hpart := isIdentifierPart_of_mem h hmem
  exact absurd hpart (by decide)

theorem lineFeed_notMem_propertyKey (name : String) : '\n' ∉ (propertyKey name).toList := by
  rw [propertyKey]
  split_ifs with h
  · exact lineFeed_notMem_of_isIdentifier h
  · exact lineFeed_notMem_quote name

/-! ### Types -/

/-- The characters that the text of a type is made of. -/
def isTypeChar (c : Char) : Bool := isIdentifierPart c || c ∈ ['[', ']', '<', '>', ',', ' ']

/-- The text of a type holds nothing that could end a line, or pass for the mark of a field that may be null. -/
def TypeExpr.IsPlain (type : TypeExpr) : Prop := ∀ c ∈ type.text.toList, isTypeChar c = true

theorem primitiveName_plain {id name : String} {kind : PrimitiveKind} (h : primitiveName id kind = .ok name) :
    (TypeExpr.primitive name).IsPlain := by
  have hnames : ∀ name ∈ ["string", "number", "boolean", "Blob", "any"], name.toList.all isTypeChar = true := by
    decide
  apply List.all_eq_true.mp
  apply hnames
  cases kind <;> cases h <;> decide

theorem Written.isPlain {types : TypeMap} {names : TypeNames} {id : String} {type : TypeExpr}
    (hnames : ∀ id name, isIdentifier (names.identifier id name) = true) (h : Written types names id type) :
    type.IsPlain := by
  induction h with
  | primitive _ hname => exact primitiveName_plain hname
  | @array _ _ element _ _ ih =>
      intro c hc
      have htext : (TypeExpr.list element).text = element.text ++ "[]" := rfl
      rw [htext, String.toList_append] at hc
      rcases List.mem_append.mp hc with hc | hc
      · exact ih c hc
      · have hmarks : ∀ c ∈ "[]".toList, isTypeChar c = true := List.all_eq_true.mp (by decide)
        exact hmarks c hc
  | @dictionary _ _ value _ _ ih =>
      intro c hc
      have htext : (TypeExpr.dictionary value).text = "Record<string, " ++ value.text ++ ">" := rfl
      have hmarks : ∀ c ∈ "Record<string, ".toList ++ ">".toList, isTypeChar c = true :=
        List.all_eq_true.mp (by decide)
      rw [htext, String.toList_append, String.toList_append] at hc
      rcases List.mem_append.mp hc with hc | hc
      · rcases List.mem_append.mp hc with hc | hc
        · exact hmarks c (List.mem_append_left _ hc)
        · exact ih c hc
      · exact hmarks c (List.mem_append_right _ hc)
  | reference _ _ ih => exact ih
  | @declared id name _ _ _ =>
      intro c hc
      have hpart := isIdentifierPart_of_mem (hnames id name) hc
      rw [isTypeChar, hpart, Bool.true_or]

theorem TypeExpr.IsPlain.notMem {type : TypeExpr} (h : type.IsPlain) {c : Char} (hc : isTypeChar c = false) :
    c ∉ type.text.toList := by
  intro hmem
  rw [h c hmem] at hc
  cases hc

/-! ### Fields -/

/-- The line of a field, without the line feed. -/
def fieldText (name : String) (type : TypeExpr) (isNullable : Bool) : List Char :=
  indentation ++ ((propertyKey name).toList ++
    ([':', ' '] ++ ((type.text.toList ++ if isNullable then nullMark else []) ++ [';'])))

theorem toList_fieldLine (name : String) (type : TypeExpr) (isNullable : Bool) :
    (fieldLine name type isNullable).toList = fieldText name type isNullable ++ ['\n'] := by
  rw [fieldLine]
  simp only [String.toList_append, fieldText, List.append_assoc]
  cases isNullable <;> rfl

theorem lineFeed_notMem_fieldText (name : String) {type : TypeExpr} (h : type.IsPlain) (isNullable : Bool) :
    '\n' ∉ fieldText name type isNullable := by
  have hkey := lineFeed_notMem_propertyKey name
  have htype : '\n' ∉ type.text.toList := h.notMem (by decide)
  have hnull : '\n' ∉ if isNullable then nullMark else [] := by cases isNullable <;> decide
  simp [fieldText, indentation, hkey, htype, hnull]

/-- Whether `null` may stand in place of a field is told by the end of its line, since no bar stands in a type. -/
theorem dropSuffix?_nullMark {type : TypeExpr} (h : type.IsPlain) : type.text.toList.dropSuffix? nullMark = none := by
  rw [Option.eq_none_iff_forall_ne_some]
  intro front hfront
  obtain ⟨tail, htext, htail⟩ := List.dropSuffix?_eq_some_iff.mp hfront
  have hbar : '|' ∈ type.text.toList := by
    rw [htext, eq_of_beq htail]
    exact List.mem_append_right front (by decide)
  exact h.notMem (by decide) hbar

theorem readField_fieldText (name : String) {type : TypeExpr} (h : type.IsPlain) (isNullable : Bool) :
    readField (fieldText name type isNullable) = some ⟨name, type.text, isNullable⟩ := by
  have hkey (rest : List Char) :
      readKey ((propertyKey name).toList ++ ([':', ' '] ++ rest)) = some (name, [':', ' '] ++ rest) :=
    readKey_propertyKey name (by decide) (' ' :: rest)
  rw [readField, fieldText, dropPrefix?_append]
  simp only [Option.bind_eq_bind, Option.bind_some, hkey, dropPrefix?_append, dropSuffix?_append]
  cases isNullable with
  | true => rw [if_pos rfl, dropSuffix?_append]; simp
  | false => rw [if_neg Bool.false_ne_true, List.append_nil, dropSuffix?_nullMark h]; simp

/-! ### Members -/

/-- The line of a member, without the line feed. -/
def memberText (member : Member) : List Char :=
  indentation ++ ((propertyKey member.name).toList ++
    ([' ', '=', ' '] ++ ((memberValueText member.value).toList ++ [','])))

theorem toList_memberLine (member : Member) : (memberLine member).toList = memberText member ++ ['\n'] := by
  simp [memberLine, memberText, indentation]

theorem lineFeed_notMem_toString (value : Int) : '\n' ∉ (toString value).toList := by
  intro hmem
  have hdigits : ∀ n, '\n' ∉ Nat.toDigits 10 n := by
    intro n hmem
    have hdigit := Json.isDigit_of_mem_toDigits hmem
    exact absurd hdigit (by decide)
  cases value with
  | ofNat n =>
      rw [Json.toList_toString_ofNat] at hmem
      exact hdigits n hmem
  | negSucc n =>
      rw [Json.toList_toString_negSucc] at hmem
      rcases List.mem_cons.mp hmem with heq | hmem
      · exact absurd heq (by decide)
      · exact hdigits (n + 1) hmem

theorem lineFeed_notMem_memberText (member : Member) : '\n' ∉ memberText member := by
  have hkey := lineFeed_notMem_propertyKey member.name
  have hvalue : '\n' ∉ (memberValueText member.value).toList := by
    cases member.value with
    | integer value => exact lineFeed_notMem_toString value.toInt
    | text value => exact lineFeed_notMem_quote value
  simp [memberText, indentation, hkey, hvalue]

theorem scalar_quote (text : String) (rest : List Char) :
    Json.scalar ((Json.quote text).toList ++ rest) = (.text (some text), some rest) := by
  rw [toList_quote_append, Json.scalar, Json.readQuotation_text]

theorem readMember_memberText (member : Member) : readMember (memberText member) = some member := by
  obtain ⟨name, value⟩ := member
  have hkey (rest : List Char) :
      readKey ((propertyKey name).toList ++ ([' ', '=', ' '] ++ rest)) = some (name, [' ', '=', ' '] ++ rest) :=
    readKey_propertyKey name (by decide) ('=' :: ' ' :: rest)
  rw [readMember, memberText, dropPrefix?_append]
  simp only [Option.bind_eq_bind, Option.bind_some, hkey, dropPrefix?_append]
  cases value with
  | text value => rw [memberValueText, scalar_quote]; rfl
  | integer value =>
      have hrange : Json.InRange value.toInt := by
        constructor
        · exact value.le_toInt
        · have hhigh := value.toInt_lt
          unfold Json.largestWord
          omega
      have hcomma : Json.EndsNumber [','] := by
        intro c hc
        cases hc
        decide
      rw [memberValueText, Json.scalar_integer hrange hcomma]
      simp

/-! ### Openings -/

/-- The first line of a declaration, without the line feed. -/
def openingText (keyword identifier : String) : List Char :=
  keyword.toList ++ (identifier.toList ++ [' ', '\x7b'])

theorem readOpening_openingText (keyword : String) {identifier : String} (h : isIdentifier identifier = true) :
    readOpening keyword (openingText keyword identifier) = some identifier := by
  rw [readOpening, openingText, dropPrefix?_append]
  simp only [Option.bind_eq_bind, Option.bind_some, dropSuffix?_append, String.ofList_toList, if_pos h]
  rfl

theorem lineFeed_notMem_openingText {keyword identifier : String} (hkeyword : '\n' ∉ keyword.toList)
    (h : isIdentifier identifier = true) : '\n' ∉ openingText keyword identifier := by
  have hidentifier := lineFeed_notMem_of_isIdentifier h
  simp [openingText, hkeyword, hidentifier]

end ApiProxy.Script
