import ApiProxy.Unicode.Letter

/-! URL templates of actions. A template is literal text with placeholders in braces; a placeholder may carry
leading asterisks, a constraint after a colon and a question mark at its end. Braces that enclose no name are
literal text, and an opening brace counts only when no further one follows before the closing one. -/

namespace ApiProxy.Route

open Unicode

inductive Segment where
  | literal (text : String)
  | placeholder (name : String) (isOptional : Bool)
deriving DecidableEq, Repr

/-- Takes one question mark off the end of a text. -/
def takeQuestionMark (text : List Char) : List Char × Bool :=
  if text.getLast? = some '?' then (text.dropLast, true) else (text, false)

/-- The name and the optional mark written between a pair of braces. -/
def placeholder? (inner : List Char) : Option (List Char × Bool) :=
  let (marked, isOptional) := takeQuestionMark (trim inner)
  let name := trim ((marked.takeWhile (· ≠ ':')).dropWhile (· = '*'))
  if name.isEmpty then none else some (name, isOptional)

def literalSegments (text : List Char) : List Segment :=
  if text.isEmpty then [] else [.literal (String.ofList text)]

/-- The text that an opening brace and what follows it amount to while no placeholder is closed. -/
def unclosed : Option (List Char) → List Char
  | none => []
  | some inner => '{' :: inner

/-- `passed` is the literal text since the last placeholder, `inner` the text after the latest opening
brace that is still open. -/
def scan (passed : List Char) (inner : Option (List Char)) : List Char → List Segment
  | [] => literalSegments (passed ++ unclosed inner)
  | '{' :: rest => scan (passed ++ unclosed inner) (some []) rest
  | '}' :: rest =>
    match inner with
    | none => scan (passed ++ ['}']) none rest
    | some text =>
      match placeholder? text with
      | some (name, isOptional) =>
        literalSegments passed ++
          .placeholder (String.ofList name) isOptional :: scan [] none rest
      | none => scan (passed ++ unclosed inner ++ ['}']) none rest
  | c :: rest =>
    match inner with
    | none => scan (passed ++ [c]) none rest
    | some text => scan passed (some (text ++ [c])) rest

def segments (template : String) : List Segment := scan [] none template.toList

end ApiProxy.Route
