import ApiProxy.Proofs.Script.CodeReading
import ApiProxy.Proofs.Script.UrlLiteral

/-! A generated function read back from its text. What the reader finds is the signature with its question marks, the
parts of the URL, the guarded blocks that append to the query, and the body; all else has to stand in the text just as
it is expected. The text of a function is told apart from whatever follows it, so the functions of a file are read one
after the other. -/

namespace ApiProxy.Script

/-! ### What a function tells -/

structure SignatureReading where
  identifier : String
  type : TypeReading
  presence : Presence
deriving DecidableEq, Repr

/-- A function as its text tells it. -/
structure FunctionReading where
  name : String
  signature : List SignatureReading
  result? : Option TypeReading
  method : HttpMethod
  url : List UrlPart
  sendsQuery : Bool
  query : List QueryEntry
  data? : Option String

namespace FunctionReading

/-- The identifiers that a function mentions behind its signature. -/
def mentioned (function : FunctionReading) : List String :=
  function.url.filterMap UrlPart.identifier? ++ function.query.map QueryEntry.identifier ++ function.data?.toList

/-- The types that a function names, in the order of their appearance. -/
def types (function : FunctionReading) : List TypeReading :=
  function.signature.map SignatureReading.type ++ function.result?.toList

end FunctionReading

def SignatureEntry.reading (entry : SignatureEntry) : SignatureReading :=
  ⟨entry.identifier, entry.type.reading, entry.presence⟩

def ClientFunction.reading (function : ClientFunction) : FunctionReading where
  name := function.name
  signature := function.signature.map SignatureEntry.reading
  result? := function.result?.map TypeExpr.reading
  method := function.method
  url := function.url
  sendsQuery := !function.query.isEmpty
  query := function.query
  data? := function.data?

/-! ### The parts of a function -/

def readEntry : Reader SignatureReading := do
  let identifier ← readIdentifier
  let question? ← attempt (skip "?")
  skip ": "
  let type ← readType
  let undefined? ← attempt (skip " | undefined")
  match question?, undefined? with
  | none, none => pure ⟨identifier, type, .required⟩
  | none, some () => pure ⟨identifier, type, .maybeUndefined⟩
  | some (), none => pure ⟨identifier, type, .optional⟩
  | some (), some () => failure

def readQuotation : Reader String
  | '"' :: text =>
    match Json.readQuotation {} text with
    | .closed (some value) rest => some (value, rest)
    | _ => none
  | _ => none

/-- Reads a block that appends a parameter to the query: the parameter is tested twice, and it is the same one that is
appended, as a whole or element by element. -/
def readQueryEntry : Reader QueryEntry := do
  skip "  if ("
  let identifier ← readIdentifier
  skip " !== undefined && "
  skip identifier
  skip " !== null) \x7b\n"
  match ← attempt (skip "    for (const element of ") with
  | some () =>
    skip identifier
    skip ") \x7b\n"
    skip "      searchParams.append("
    let name ← readQuotation
    skip ", String(element));\n"
    skip "    \x7d\n"
    skip "  \x7d\n"
    pure ⟨identifier, name, true⟩
  | none =>
    skip "    searchParams.append("
    let name ← readQuotation
    skip ", String("
    skip identifier
    skip "));\n"
    skip "  \x7d\n"
    pure ⟨identifier, name, false⟩

def readQuery : Reader (List QueryEntry) := do
  match ← attempt (skip "  const searchParams = new URLSearchParams();\n") with
  | none => pure []
  | some () =>
    let entries ← readAll readQueryEntry
    skip "  const queryString = searchParams.toString();\n"
    pure entries

def readMethod : Reader HttpMethod := do
  match HttpMethod.ofName? (← readIdentifier) with
  | some method => pure method
  | none => failure

/-- Reads the code of a value in a URL. -/
def readValue : Reader UrlPart := do
  match ← attempt (skip "encodeURIComponent(String(") with
  | some () =>
    let identifier ← readIdentifier
    skip "))"
    pure (.value identifier false)
  | none =>
    let identifier ← readIdentifier
    skip " === undefined || "
    skip identifier
    skip " === null ? \"\" : "
    skip "encodeURIComponent(String("
    skip identifier
    skip "))"
    pure (.value identifier true)

def urlPart? : TemplatePiece → Option UrlPart
  | .text meaning => some (.literal (String.ofList meaning))
  | .substitution code =>
    match readValue code with
    | some (part, []) => some part
    | _ => none

/-- The parts of a URL, and whether the code of the query stands behind them. -/
def urlParts? : List TemplatePiece → Option (List UrlPart × Bool)
  | [] => some ([], false)
  | piece :: pieces =>
    match urlPart? piece with
    | some part => (urlParts? pieces).map fun read => (part :: read.1, read.2)
    | none => if piece :: pieces = queryPieces true then some ([], true) else none

def readUrl : Reader (List UrlPart × Bool) := fun text =>
  (readTemplate text).bind fun read => (urlParts? read.1).map fun url => (url, read.2)

def readData : Reader (Option String) := attempt do
  skip "    data: "
  let identifier ← readIdentifier
  skip ",\n"
  pure identifier

/-- Reads a function that hands its request to the helper of that name; the type of its result stands in it twice. -/
def readFunction (helper : String) : Reader FunctionReading := do
  skip "export function "
  let name ← readIdentifier
  skip "("
  let signature ← separated readEntry
  skip "): Promise<"
  let result ← readType
  skip "> \x7b\n"
  let query ← readQuery
  skip "  return "
  skip helper
  skip "<"
  let twin ← readType
  skip ">(\x7b\n"
  skip "    method: \""
  let method ← readMethod
  skip "\",\n"
  skip "    url: "
  let (url, sendsQuery) ← readUrl
  skip ",\n"
  let data? ← readData
  skip "  \x7d);\n\x7d\n"
  if twin = result then
    let result? := if result = .named "void" then none else some result
    pure { name, signature, result?, method, url, sendsQuery, query, data? }
  else failure

/-! ### Signatures -/

theorem head?_append_of_any {mark : String} {p : Char → Bool} (h : mark.toList.head?.any p = true) (rest : List Char) :
    ∀ c ∈ (mark.toList ++ rest).head?, p c = true := by
  cases hmark : mark.toList with
  | nil =>
      rw [hmark] at h
      cases h
  | cons first more =>
      rw [hmark] at h
      intro c hc
      cases hc
      exact h

theorem endsIdentifier_append {mark : String} (hmark : mark.toList.head?.any (!isIdentifierPart ·) = true)
    (rest : List Char) : EndsIdentifier (mark.toList ++ rest) := fun c hc => by
  simpa using head?_append_of_any hmark rest c hc

theorem endsType_append {mark : String} (hmark : mark.toList.head?.any (· ∈ [',', ')', ' ', '>']) = true)
    (rest : List Char) : EndsType (mark.toList ++ rest) := fun c hc => by
  simpa using head?_append_of_any hmark rest c hc

/-- What stands behind an entry of a signature. -/
def EndsEntry (rest : List Char) : Prop := ∀ c ∈ rest.head?, c ∈ [',', ')']

theorem EndsEntry.endsType {rest : List Char} (h : EndsEntry rest) : EndsType rest := fun c hc => by
  have hmark := h c hc
  simp only [List.mem_cons, List.not_mem_nil, or_false] at hmark ⊢
  tauto

theorem EndsEntry.skip_eq_none {rest : List Char} (h : EndsEntry rest) : skip " | undefined" rest = none := by
  apply Script.skip_eq_none (by decide)
  intro hhead
  exact absurd (h ' ' hhead) (by decide)

theorem readEntry_text {entry : SignatureEntry} (hidentifier : isIdentifier entry.identifier = true)
    (htype : isIdentifier entry.type.reading.name = true) {rest : List Char} (hrest : EndsEntry rest) :
    readEntry (entry.text.toList ++ rest) = some (entry.reading, rest) := by
  obtain ⟨identifier, type, presence⟩ := entry
  have hcolon (behind : List Char) : EndsIdentifier (": ".toList ++ behind) := endsIdentifier_append (by decide) _
  have hquestion (behind : List Char) : EndsIdentifier ("?".toList ++ behind) := endsIdentifier_append (by decide) _
  have hplain (behind : List Char) : attempt (skip "?") (": ".toList ++ behind) = some (none, ": ".toList ++ behind) :=
    attempt_of_none (skip_eq_none (by decide) (by simp))
  have hend : attempt (skip " | undefined") rest = some (none, rest) := attempt_of_none hrest.skip_eq_none
  cases presence with
  | required =>
      have htext : (SignatureEntry.text ⟨identifier, type, .required⟩).toList ++ rest =
          identifier.toList ++ (": ".toList ++ (type.text.toList ++ rest)) := by
        simp only [SignatureEntry.text, String.toList_append, List.append_assoc, -String.reduceToList]
      rw [htext, readEntry, Reader.bind_of (readIdentifier_append hidentifier (hcolon _)), Reader.bind_of (hplain _),
        Reader.skip_bind, Reader.bind_of (readType_text htype hrest.endsType), Reader.bind_of hend]
      rfl
  | maybeUndefined =>
      have htext : (SignatureEntry.text ⟨identifier, type, .maybeUndefined⟩).toList ++ rest =
          identifier.toList ++ (": ".toList ++ (type.text.toList ++ (" | undefined".toList ++ rest))) := by
        simp only [SignatureEntry.text, String.toList_append, List.append_assoc, -String.reduceToList]
      have hbar : EndsType (" | undefined".toList ++ rest) := endsType_append (by decide) _
      rw [htext, readEntry, Reader.bind_of (readIdentifier_append hidentifier (hcolon _)), Reader.bind_of (hplain _),
        Reader.skip_bind, Reader.bind_of (readType_text htype hbar),
        Reader.bind_of (attempt_of_some (skip_append " | undefined" rest))]
      rfl
  | optional =>
      have hmarks : "?: ".toList = "?".toList ++ ": ".toList := rfl
      have htext : (SignatureEntry.text ⟨identifier, type, .optional⟩).toList ++ rest =
          identifier.toList ++ ("?".toList ++ (": ".toList ++ (type.text.toList ++ rest))) := by
        simp only [SignatureEntry.text, String.toList_append, List.append_assoc, hmarks, -String.reduceToList]
      rw [htext, readEntry, Reader.bind_of (readIdentifier_append hidentifier (hquestion _)),
        Reader.bind_of (attempt_of_some (skip_append "?" _)), Reader.skip_bind,
        Reader.bind_of (readType_text htype hrest.endsType), Reader.bind_of hend]
      rfl

/-! ### Queries -/

theorem readQuotation_quote (text : String) (rest : List Char) :
    readQuotation ((Json.quote text).toList ++ rest) = some (text, rest) := by
  rw [toList_quote_append, readQuotation, Json.readQuotation_text]

theorem readQueryEntry_text {entry : QueryEntry} (h : isIdentifier entry.identifier = true) (rest : List Char) :
    readQueryEntry (entry.text.toList ++ rest) = some (entry, rest) := by
  obtain ⟨identifier, name, isList⟩ := entry
  have hspace (behind : List Char) : EndsIdentifier (" !== undefined && ".toList ++ behind) :=
    endsIdentifier_append (by decide) _
  cases isList with
  | true =>
      have htext : (QueryEntry.text ⟨identifier, name, true⟩).toList ++ rest =
          "  if (".toList ++ (identifier.toList ++ (" !== undefined && ".toList ++ (identifier.toList ++
            (" !== null) \x7b\n".toList ++ ("    for (const element of ".toList ++ (identifier.toList ++
            (") \x7b\n".toList ++ ("      searchParams.append(".toList ++ ((Json.quote name).toList ++
            (", String(element));\n".toList ++ ("    \x7d\n".toList ++ ("  \x7d\n".toList ++ rest)))))))))))) := by
        simp only [QueryEntry.text, if_true, String.toList_append, List.append_assoc, -String.reduceToList]
      rw [htext, readQueryEntry, Reader.skip_bind, Reader.bind_of (readIdentifier_append h (hspace _)),
        Reader.skip_bind, Reader.skip_bind, Reader.skip_bind, Reader.bind_of (attempt_of_some (skip_append _ _))]
      dsimp only
      rw [Reader.skip_bind, Reader.skip_bind, Reader.skip_bind, Reader.bind_of (readQuotation_quote name _),
        Reader.skip_bind, Reader.skip_bind, Reader.skip_bind]
      rfl
  | false =>
      have htext : (QueryEntry.text ⟨identifier, name, false⟩).toList ++ rest =
          "  if (".toList ++ (identifier.toList ++ (" !== undefined && ".toList ++ (identifier.toList ++
            (" !== null) \x7b\n".toList ++ ("    searchParams.append(".toList ++ ((Json.quote name).toList ++
            (", String(".toList ++ (identifier.toList ++ ("));\n".toList ++ ("  \x7d\n".toList ++
            rest)))))))))) := by
        simp only [QueryEntry.text, Bool.false_eq_true, if_false, String.toList_append, List.append_assoc,
          -String.reduceToList]
      have hnone (behind : List Char) :
          skip "    for (const element of " ("    searchParams.append(".toList ++ behind) = none := rfl
      rw [htext, readQueryEntry, Reader.skip_bind, Reader.bind_of (readIdentifier_append h (hspace _)),
        Reader.skip_bind, Reader.skip_bind, Reader.skip_bind, Reader.bind_of (attempt_of_none (hnone _))]
      dsimp only
      rw [Reader.skip_bind, Reader.bind_of (readQuotation_quote name _), Reader.skip_bind, Reader.skip_bind,
        Reader.skip_bind, Reader.skip_bind]
      rfl

variable {function : ClientFunction}

/-- The blocks of a query are all read, up to where the request is handed on. -/
theorem readQuery_text (h : ∀ entry ∈ function.query, isIdentifier entry.identifier = true) (rest : List Char) :
    readQuery (function.queryText.toList ++ ("  return ".toList ++ rest)) =
      some (function.query, "  return ".toList ++ rest) := by
  cases hquery : function.query.isEmpty with
  | true =>
      have htext : function.queryText = "" := if_pos hquery
      have hnone : skip "  const searchParams = new URLSearchParams();\n" ("  return ".toList ++ rest) = none := rfl
      rw [htext, List.isEmpty_iff.mp hquery]
      show readQuery ("  return ".toList ++ rest) = _
      rw [readQuery, Reader.bind_of (attempt_of_none hnone)]
      rfl
  | false =>
      have htext : function.queryText.toList ++ ("  return ".toList ++ rest) =
          "  const searchParams = new URLSearchParams();\n".toList ++
            ((function.query.flatMap fun entry => entry.text.toList) ++
            ("  const queryString = searchParams.toString();\n".toList ++ ("  return ".toList ++ rest))) := by
        rw [ClientFunction.queryText, hquery]
        simp only [Bool.false_eq_true, if_false, String.toList_append, List.append_assoc, String.toList_join,
          List.flatMap_map, -String.reduceToList]
      have hstop (behind : List Char) :
          readQueryEntry ("  const queryString = searchParams.toString();\n".toList ++ behind) = none := rfl
      have hentries (behind : List Char) : readAll readQueryEntry
          ((function.query.flatMap fun entry => entry.text.toList) ++
            ("  const queryString = searchParams.toString();\n".toList ++ behind)) =
            some (function.query.map id, "  const queryString = searchParams.toString();\n".toList ++ behind) := by
        refine readAll_flatMap (fun _ => True) ?_ ?_ (fun _ _ _ => trivial) trivial (hstop behind)
        · intro entry _
          simp [QueryEntry.text]
        · exact fun entry hentry rest _ => readQueryEntry_text (h entry hentry) rest
      rw [htext, readQuery, Reader.bind_of (attempt_of_some (skip_append _ _))]
      dsimp only
      rw [Reader.bind_of (hentries _), Reader.skip_bind, List.map_id]
      rfl

/-! ### Requests -/

theorem readMethod_name (method : HttpMethod) (rest : List Char) :
    readMethod (method.name.toList ++ ("\",\n".toList ++ rest)) = some (method, "\",\n".toList ++ rest) := by
  have hname : isIdentifier method.name = true := by cases method <;> decide
  have hmethod : HttpMethod.ofName? method.name = some method := by cases method <;> decide
  have hend : EndsIdentifier ("\",\n".toList ++ rest) := endsIdentifier_append (by decide) _
  rw [readMethod, Reader.bind_of (readIdentifier_append hname hend), hmethod]
  rfl

theorem toList_encodedValue (identifier : String) : (encodedValue identifier).toList =
    "encodeURIComponent(String(".toList ++ (identifier.toList ++ "))".toList) := by
  unfold encodedValue
  rw [String.toList_append, String.toList_append, List.append_assoc]

theorem readValue_code {identifier : String} (h : isIdentifier identifier = true) (isOptional : Bool) :
    readValue (valueCode identifier isOptional).toList = some (.value identifier isOptional, []) := by
  cases isOptional with
  | false =>
      have hend : EndsIdentifier "))".toList := fun c hc => by
        cases hc
        decide
      rw [valueCode, toList_encodedValue, readValue, Reader.bind_of (attempt_of_some (skip_append _ _))]
      dsimp only
      rw [Reader.bind_of (readIdentifier_append h hend)]
      rfl
  | true =>
      have htext : (valueCode identifier true).toList =
          identifier.toList ++ (" === undefined || ".toList ++ (identifier.toList ++ (" === null ? \"\" : ".toList ++
            ("encodeURIComponent(String(".toList ++ (identifier.toList ++ ("))".toList ++ [])))))) := by
        simp only [valueCode, toList_encodedValue, String.toList_append, List.append_assoc, List.append_nil,
          -String.reduceToList]
      have hend (behind : List Char) : EndsIdentifier (" === undefined || ".toList ++ behind) :=
        endsIdentifier_append (by decide) _
      have hnone (behind : List Char) : skip "encodeURIComponent(String("
          (identifier.toList ++ (" === undefined || ".toList ++ behind)) = none :=
        skip_eq_none_of_identifier "encodeURIComponent".toList '(' "String(".toList (by decide) (by decide) h
          (hend behind) (by simp)
      rw [htext, readValue, Reader.bind_of (attempt_of_none (hnone _))]
      dsimp only
      rw [Reader.bind_of (readIdentifier_append h (hend _)), Reader.skip_bind, Reader.skip_bind, Reader.skip_bind,
        Reader.skip_bind, Reader.skip_bind, Reader.skip_bind]
      rfl

theorem urlPart?_piece {part : UrlPart} (h : ∀ identifier ∈ part.identifier?, isIdentifier identifier = true) :
    urlPart? part.piece = some part := by
  cases part with
  | literal text =>
      show some (UrlPart.literal (String.ofList text.toList)) = _
      rw [String.ofList_toList]
  | value identifier isOptional =>
      have hread := readValue_code (h identifier rfl) isOptional
      rw [UrlPart.piece, urlPart?, hread]

theorem urlParts?_pieces {parts : List UrlPart}
    (h : ∀ identifier ∈ parts.filterMap UrlPart.identifier?, isIdentifier identifier = true) (hasQuery : Bool) :
    urlParts? (parts.map UrlPart.piece ++ queryPieces hasQuery) = some (parts, hasQuery) := by
  induction parts with
  | nil => cases hasQuery <;> decide +kernel
  | cons part parts ih =>
      have hpart : ∀ identifier ∈ part.identifier?, isIdentifier identifier = true := fun identifier hidentifier =>
        h identifier (List.mem_filterMap.mpr ⟨part, List.mem_cons_self, hidentifier⟩)
      have hlater := ih fun identifier hidentifier => by
        obtain ⟨other, hother, hvalue⟩ := List.mem_filterMap.mp hidentifier
        exact h identifier (List.mem_filterMap.mpr ⟨other, List.mem_cons_of_mem part hother, hvalue⟩)
      rw [List.map_cons, List.cons_append, urlParts?, urlPart?_piece hpart, hlater]
      rfl

theorem readData_text (h : ∀ identifier ∈ function.data?, isIdentifier identifier = true) (rest : List Char) :
    readData (function.dataText.toList ++ ("  \x7d);\n\x7d\n".toList ++ rest)) =
      some (function.data?, "  \x7d);\n\x7d\n".toList ++ rest) := by
  cases hdata : function.data? with
  | none =>
      have htext : function.dataText = "" := by rw [ClientFunction.dataText, hdata]
      have hnone : skip "    data: " ("  \x7d);\n\x7d\n".toList ++ rest) = none := rfl
      rw [htext]
      exact attempt_of_none (Reader.bind_of_none hnone _)
  | some identifier =>
      have htext : function.dataText.toList ++ ("  \x7d);\n\x7d\n".toList ++ rest) = "    data: ".toList ++
          (identifier.toList ++ (",\n".toList ++ ("  \x7d);\n\x7d\n".toList ++ rest))) := by
        rw [ClientFunction.dataText, hdata]
        simp only [String.toList_append, List.append_assoc, -String.reduceToList]
      have hend (behind : List Char) : EndsIdentifier (",\n".toList ++ behind) := endsIdentifier_append (by decide) _
      rw [htext]
      apply attempt_of_some
      rw [Reader.skip_bind, Reader.bind_of (readIdentifier_append (h identifier hdata) (hend _)), Reader.skip_bind]
      rfl

/-! ### Whole functions -/

namespace ClientFunction

/-- The names in a function are identifiers, its types are no `void`, and its URL is read by its parts. -/
structure IsPlain (function : ClientFunction) : Prop where
  name : isIdentifier function.name = true
  signature : ∀ entry ∈ function.signature, isIdentifier entry.identifier = true
  types : ∀ type ∈ function.types, isIdentifier type.reading.name = true ∧ type.reading.name ≠ "void"
  mentioned : ∀ identifier ∈ function.mentioned, isIdentifier identifier = true
  url : ∀ rest, readTemplate (function.urlText.toList ++ rest) =
    some (function.url.map UrlPart.piece ++ queryPieces (!function.query.isEmpty), rest)

/-- What stands for the result of a function; `void` reads like a type of that name. -/
def resultType (function : ClientFunction) : TypeExpr := function.result?.getD (.primitive "void")

theorem resultText_eq (function : ClientFunction) : function.resultText = function.resultType.text := by
  rw [resultText, resultType]
  cases function.result? <;> rfl

namespace IsPlain

variable (h : function.IsPlain)

include h

theorem isIdentifier_resultType : isIdentifier function.resultType.reading.name = true := by
  rw [resultType]
  cases hresult : function.result? with
  | none => decide
  | some type => exact (h.types type (by simp [ClientFunction.types, hresult])).1

theorem result?_eq :
    (if function.resultType.reading = .named "void" then none else some function.resultType.reading) =
      function.result?.map TypeExpr.reading := by
  rw [resultType]
  cases hresult : function.result? with
  | none => rfl
  | some type =>
      have hvoid : type.reading ≠ .named "void" := fun hvoid =>
        (h.types type (by simp [ClientFunction.types, hresult])).2 (congrArg TypeReading.name hvoid)
      exact if_neg hvoid

theorem separated_signature (rest : List Char) :
    separated readEntry ((", ".intercalate (function.signature.map SignatureEntry.text)).toList ++
        ("): Promise<".toList ++ rest)) =
      some (function.signature.map SignatureEntry.reading, "): Promise<".toList ++ rest) := by
  apply separated_intercalate EndsEntry
  · intro entry hentry behind hbehind
    have htype : entry.type ∈ function.types := List.mem_append_left _ (List.mem_map_of_mem hentry)
    exact readEntry_text (h.signature entry hentry) (h.types _ htype).1 hbehind
  · intro behind c hc
    cases hc
    decide
  · exact fun c hc => of_decide_eq_true (head?_append_of_any (p := (· ∈ [',', ')'])) (by decide) rest c hc)
  · have hend : EndsIdentifier ("): Promise<".toList ++ rest) := endsIdentifier_append (by decide) rest
    exact Reader.bind_of_none (readIdentifier_of_endsIdentifier hend) _
  · simp

theorem readUrl_text (rest : List Char) :
    readUrl (function.urlText.toList ++ rest) = some ((function.url, !function.query.isEmpty), rest) := by
  have hparts : urlParts? (function.url.map UrlPart.piece ++ queryPieces (!function.query.isEmpty)) =
      some (function.url, !function.query.isEmpty) :=
    urlParts?_pieces (fun identifier hidentifier =>
      h.mentioned identifier (List.mem_append_left _ (List.mem_append_left _ hidentifier))) _
  rw [readUrl, h.url, Option.bind_some, hparts]
  rfl

/-- The text of a function is read as the function that it is, up to what follows it. -/
theorem readFunction_text (helper : Helper) (rest : List Char) :
    readFunction helper.name ((function.text helper).toList ++ rest) = some (function.reading, rest) := by
  have htext : (function.text helper).toList ++ rest = "export function ".toList ++ (function.name.toList ++
      ("(".toList ++ ((", ".intercalate (function.signature.map SignatureEntry.text)).toList ++
      ("): Promise<".toList ++ (function.resultType.text.toList ++ ("> \x7b\n".toList ++ (function.queryText.toList ++
      ("  return ".toList ++ (helper.name.toList ++ ("<".toList ++ (function.resultType.text.toList ++
      (">(\x7b\n".toList ++ ("    method: \"".toList ++ (function.method.name.toList ++ ("\",\n".toList ++
      ("    url: ".toList ++ (function.urlText.toList ++ (",\n".toList ++ (function.dataText.toList ++
      ("  \x7d);\n\x7d\n".toList ++ rest)))))))))))))))))))) := by
    unfold ClientFunction.text
    simp only [resultText_eq, String.toList_append, List.append_assoc, -String.reduceToList]
  have hparenthesis (behind : List Char) : EndsIdentifier ("(".toList ++ behind) := endsIdentifier_append (by decide) _
  have hresult (behind : List Char) : EndsType ("> \x7b\n".toList ++ behind) := endsType_append (by decide) behind
  have htwin (behind : List Char) : EndsType (">(\x7b\n".toList ++ behind) := endsType_append (by decide) behind
  have hquery : ∀ entry ∈ function.query, isIdentifier entry.identifier = true := fun entry hentry =>
    h.mentioned _ (List.mem_append_left _ (List.mem_append_right _ (List.mem_map_of_mem hentry)))
  have hdata : ∀ identifier ∈ function.data?, isIdentifier identifier = true := fun identifier hidentifier =>
    h.mentioned _ (List.mem_append_right _ (Option.mem_toList.mpr hidentifier))
  rw [htext, readFunction, Reader.skip_bind, Reader.bind_of (readIdentifier_append h.name (hparenthesis _)),
    Reader.skip_bind, Reader.bind_of (h.separated_signature _), Reader.skip_bind,
    Reader.bind_of (readType_text h.isIdentifier_resultType (hresult _)), Reader.skip_bind,
    Reader.bind_of (readQuery_text hquery _), Reader.skip_bind, Reader.skip_bind, Reader.skip_bind,
    Reader.bind_of (readType_text h.isIdentifier_resultType (htwin _)),
    Reader.skip_bind, Reader.skip_bind, Reader.bind_of (readMethod_name _ _), Reader.skip_bind, Reader.skip_bind,
    Reader.bind_of (h.readUrl_text _)]
  dsimp only
  rw [Reader.skip_bind, Reader.bind_of (readData_text hdata _), Reader.skip_bind, if_pos rfl, h.result?_eq]
  rfl

end IsPlain

end ClientFunction

end ApiProxy.Script
