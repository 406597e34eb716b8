import ApiProxy.Proofs.Names.Identifiers
import ApiProxy.Proofs.Route.Alternation
import ApiProxy.Proofs.Script.TemplateLiteral
import ApiProxy.Proofs.Script.Wiring

/-! The URL literal of a function. It falls apart into the segments of the URL template that it was made of: the code
of a substitution closes what it opens, and literal text never reaches the text of another literal, because a
placeholder always stands between them. -/

namespace ApiProxy.Script

/-! ### The code of a substitution -/

/-- The code that puts a value into a URL. -/
def valueCode (identifier : String) : Bool → String
  | false => encodedValue identifier
  | true => identifier ++ " === undefined || " ++ identifier ++ " === null ? \"\" : " ++ encodedValue identifier

/-- The code that puts the query behind a URL. -/
def queryCode : String := "queryString ? `?$\x7bqueryString\x7d` : \"\""

theorem neutral_identifier {identifier : String} (h : ∀ c ∈ identifier.toList, isIdentifierPart c = true) :
    Neutral identifier.toList := by
  have hmarks : ['{', '}', '"', '\'', '`'].all (!isIdentifierPart ·) = true := by decide
  refine neutral_of_plain fun c hc hmark => ?_
  have hforeign := List.all_eq_true.mp hmarks c hmark
  rw [h c hc] at hforeign
  cases hforeign

theorem neutral_encodedValue {identifier : String} (h : ∀ c ∈ identifier.toList, isIdentifierPart c = true) :
    Neutral (encodedValue identifier).toList := by
  have hfront : Neutral "encodeURIComponent(String(".toList := neutral_of_plain (by simp)
  have hback : Neutral "))".toList := neutral_of_plain (by simp)
  unfold encodedValue
  rw [String.toList_append, String.toList_append]
  exact (hfront.append (neutral_identifier h)).append hback

theorem neutral_valueCode {identifier : String} (h : ∀ c ∈ identifier.toList, isIdentifierPart c = true)
    (isOptional : Bool) : Neutral (valueCode identifier isOptional).toList := by
  have hidentifier := neutral_identifier h
  cases isOptional with
  | false => exact neutral_encodedValue h
  | true =>
      have hundefined : Neutral " === undefined || ".toList := neutral_of_plain (by simp)
      have hnull : Neutral " === null ? ".toList := neutral_of_plain (by simp)
      have helse : Neutral " : ".toList := neutral_of_plain (by simp)
      have hempty : Neutral " === null ? \"\" : ".toList := (hnull.append neutral_emptyString).append helse
      have htest := ((hidentifier.append hundefined).append hidentifier).append hempty
      simp only [valueCode, String.toList_append, -String.reduceToList]
      exact htest.append (neutral_encodedValue h)

/-- The nested literal of the query ends before the substitution that holds it. -/
theorem readCode_queryCode (rest : List Char) :
    readCode [] (queryCode.toList ++ '}' :: rest) = some (queryCode.toList, rest) := by
  simp [queryCode, readCode, nextFrames, codeFrames]

/-! ### The URL of a function -/

variable {types : TypeMap} {names : TypeNames} {helper : Helper} {action : Action} {binding : Binding}
  {controllerName : String} {function : ClientFunction} {identifiers : List String} {rest : List Char}

/-- What a part of a URL is read as. -/
def UrlPart.piece : UrlPart → TemplatePiece
  | literal text => .text text.toList
  | value identifier isOptional => .substitution (valueCode identifier isOptional).toList

def queryPieces (hasQuery : Bool) : List TemplatePiece :=
  if hasQuery then [.substitution queryCode.toList] else []

theorem toList_value (identifier : String) (isOptional : Bool) :
    (UrlPart.value identifier isOptional).text.toList =
      '$' :: '{' :: ((valueCode identifier isOptional).toList ++ ['}']) := by
  cases isOptional <;> simp [UrlPart.text, valueCode]

/-- The parts of a URL end in front of a segment that is no literal. -/
theorem endsText_parts {segments : List Route.Segment} {parts : List UrlPart}
    (h : List.Forall₂ (WritesSegment action identifiers) segments parts)
    (hhead : ∀ segment ∈ segments.head?, segment.isLiteral ≠ true) (hrest : EndsText rest) :
    EndsText (parts.flatMap (fun part => part.text.toList) ++ rest) := by
  cases h with
  | nil => exact hrest
  | cons hsegment _ =>
      cases hsegment with
      | literal text => exact absurd rfl (hhead _ rfl)
      | placeholder mark _ _ _ =>
          rw [List.flatMap_cons, toList_value]
          exact .opening _

/-- Each part of a URL is read as a piece of its own, since no two literals stand side by side. -/
theorem readPieces_parts {segments : List Route.Segment} {parts : List UrlPart} {pieces : List TemplatePiece}
    {last : List Char} (h : List.Forall₂ (WritesSegment action identifiers) segments parts)
    (halternating : Route.Alternating segments)
    (hnonempty : ∀ text, Route.Segment.literal text ∈ segments → text.toList ≠ [])
    (hidentifiers : ∀ identifier ∈ identifiers, ∀ c ∈ identifier.toList, isIdentifierPart c = true)
    (hends : EndsText rest) (hrest : readPieces rest = some (pieces, last)) :
    readPieces (parts.flatMap (fun part => part.text.toList) ++ rest) =
      some (parts.map UrlPart.piece ++ pieces, last) := by
  induction h with
  | nil => exact hrest
  | @cons segment part segments parts hsegment hparts ih =>
      obtain ⟨hneighbour, halternating⟩ := List.isChain_cons.mp halternating
      have hlater := ih halternating fun text htext => hnonempty text (List.mem_cons_of_mem _ htext)
      rw [List.flatMap_cons, List.append_assoc]
      cases hsegment with
      | literal text =>
          have hends := endsText_parts hparts (fun next hnext hliteral => hneighbour next hnext ⟨rfl, hliteral⟩) hends
          have hmeaning : textPieces text.toList = [.text text.toList] :=
            if_neg fun hempty => hnonempty text List.mem_cons_self (List.isEmpty_iff.mp hempty)
          rw [UrlPart.text, templateText, String.toList_ofList, readPieces_escapeTemplate _ hends, hlater, hmeaning]
          rfl
      | placeholder mark _ _ hidentifier =>
          have hcode := neutral_valueCode (hidentifiers _ (List.mem_of_getElem? hidentifier))
          rw [toList_value, List.cons_append, List.cons_append, List.append_assoc, List.singleton_append,
            readPieces_substitution ((hcode _).readCode_eq _), hlater]
          rfl

theorem readTemplate_urlText (h : List.Forall₂ (WritesSegment action identifiers) (Route.segments action.template)
      function.url)
    (hidentifiers : ∀ identifier ∈ identifiers, ∀ c ∈ identifier.toList, isIdentifierPart c = true)
    (rest : List Char) :
    readTemplate (function.urlText.toList ++ rest) =
      some (function.url.map UrlPart.piece ++ queryPieces (!function.query.isEmpty), rest) := by
  have hparts {source : List Char} {pieces : List TemplatePiece} (hends : EndsText source)
      (hsource : readPieces source = some (pieces, rest)) :
      readPieces (function.url.flatMap (fun part => part.text.toList) ++ source) =
        some (function.url.map UrlPart.piece ++ pieces, rest) :=
    readPieces_parts h (Route.alternating_segments action.template) (fun _ => Route.literal_ne_nil) hidentifiers
      hends hsource
  cases hquery : function.query.isEmpty with
  | true =>
      have htext : function.urlText.toList ++ rest =
          '`' :: (function.url.flatMap (fun part => part.text.toList) ++ '`' :: rest) := by
        simp [ClientFunction.urlText, hquery, String.toList_join, List.flatMap_map]
      rw [htext]
      exact hparts (.closing rest) (readPieces_closing rest)
  | false =>
      have htext : function.urlText.toList ++ rest = '`' :: (function.url.flatMap (fun part => part.text.toList) ++
          '$' :: '{' :: (queryCode.toList ++ '}' :: '`' :: rest)) := by
        simp [ClientFunction.urlText, hquery, String.toList_join, List.flatMap_map, queryCode]
      have hsubstitution := readPieces_substitution (readCode_queryCode ('`' :: rest))
      rw [readPieces_closing] at hsubstitution
      rw [htext]
      exact hparts (.opening _) hsubstitution

theorem query_isEmpty_eq {name : String} (hbind : action.bind controllerName = .ok binding)
    (hfunction : clientFunction types names helper name action binding = .ok function) :
    function.query.isEmpty = (action.boundTo .query).isEmpty := by
  obtain ⟨_, _, _, _, _, hquery, _⟩ := clientFunction_eq_ok_iff.mp hfunction
  have hlength := (Outcome.mapM_eq_ok_iff.mp hquery).length_eq
  rw [(bind_eq_ok_iff.mp hbind).2.2.1] at hlength
  rw [← action.parameters_placedAs .query, Bool.eq_iff_iff, List.isEmpty_iff_length_eq_zero,
    List.isEmpty_iff_length_eq_zero, List.length_map, hlength]

/-- Literal text of a URL template never ends the template literal that it is written into, and opens no substitution
in it: it is read back as it was, up to what is written behind it. So the URL literal of a function ends where it is
closed, and holds one substitution for each placeholder of the template, in order, with the literal texts in between,
and behind them one for the query exactly if the action has query parameters. -/
theorem url_literal_keeps_template {name : String} (hbind : action.bind controllerName = .ok binding)
    (hfunction : clientFunction types names helper name action binding = .ok function) :
    (∀ text, escapeTemplate text = replaceAll ['$', '{'] ['\\', '$', '{']
      (replaceAll ['`'] ['\\', '`'] (replaceAll ['\\'] ['\\', '\\'] text))) ∧
    (∀ text rest, EndsText rest → readText (escapeTemplate text ++ rest) = (text, rest)) ∧
    List.Forall₂ (WritesSegment action (parameterIdentifiers action helper)) (Route.segments action.template)
      function.url ∧
    ∀ rest, readTemplate (function.urlText.toList ++ rest) =
      some (function.url.map UrlPart.piece ++ queryPieces (!(action.boundTo .query).isEmpty), rest) := by
  obtain ⟨_, _, _, _, hurl, _, _⟩ := clientFunction_eq_ok_iff.mp hfunction
  have hwrites := hurl ▸ url_of_bind helper hbind
  refine ⟨escapeTemplate_eq_replaceAll, fun text rest => readText_escapeTemplate text, hwrites, fun rest => ?_⟩
  rw [← query_isEmpty_eq hbind hfunction]
  exact readTemplate_urlText hwrites
    (fun _ hidentifier _ => isIdentifierPart_of_mem_parameterIdentifiers hidentifier) rest

/-- An action whose template would end the literal, and comes close to opening a substitution. -/
def stockTag : Action :=
  ⟨"tag", .get, "/tags/`$\x7bid\x7d\\", [⟨"id", .path, "Int", false⟩, ⟨"page", .query, "Int", true⟩], none⟩

def stockTagBinding : Binding :=
  ⟨[.literal "/tags/`$", .parameter ⟨0, ⟨"id", .path, "Int", false⟩⟩, .literal "\\"],
    [⟨1, ⟨"page", .query, "Int", true⟩⟩], none, []⟩

def stockTagFunction : ClientFunction where
  name := "tag"
  signature := [⟨"id", .primitive "number", .required⟩, ⟨"page", .primitive "number", .optional⟩]
  result? := none
  method := .get
  url := [.literal "/tags/`$", .value "id" false, .literal "\\"]
  query := [⟨"page", "page", false⟩]
  data? := none

theorem clientFunction_stockTag :
    clientFunction stockTypes .empty {} "tag" stockTag stockTagBinding = .ok stockTagFunction := by
  have hidentifiers : parameterIdentifiers stockTag {} = ["id", "page"] := by decide +kernel
  rw [clientFunction_eq_ok_iff, hidentifiers]
  refine ⟨rfl, rfl, ?_, rfl, rfl, ?_, rfl⟩
  · show signature stockTypes .empty [⟨"id", .path, "Int", false⟩, ⟨"page", .query, "Int", true⟩] ["id", "page"] = _
    rw [signature, signature, typeExpr, typeExpr_stockNumber .empty [] (by simp)]
    rfl
  · refine Outcome.mapM_eq_ok_iff.mpr (.cons ?_ .nil)
    rw [queryEntry, isArray_stockNumber]
    rfl

theorem stock_url_literal_keeps_template :
    stockTag.bind "Stock" = .ok stockTagBinding ∧
      clientFunction stockTypes .empty {} "tag" stockTag stockTagBinding = .ok stockTagFunction ∧
      EndsText ['`'] ∧ readText (escapeTemplate "\\$\x7b`$".toList ++ ['`']) = ("\\$\x7b`$".toList, ['`']) ∧
      readTemplate (stockTagFunction.urlText.toList ++ [',']) =
        some ([.text "/tags/`$".toList, .substitution "encodeURIComponent(String(id))".toList, .text ['\\'],
          .substitution queryCode.toList], [',']) := by
  have hbind : stockTag.bind "Stock" = .ok stockTagBinding := by decide +kernel
  obtain ⟨_, htext, _, hread⟩ := url_literal_keeps_template hbind clientFunction_stockTag
  exact ⟨hbind, clientFunction_stockTag, .closing [], htext _ _ (.closing []), hread [',']⟩

end ApiProxy.Script
