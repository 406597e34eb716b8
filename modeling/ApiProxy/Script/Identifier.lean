import ApiProxy.Json.Value

/-! Names of the generated script. A numbered list of candidates is searched for one that is not taken yet; since the
list of taken names is finite, looking at one candidate more than it has entries is enough. An identifier is made of
ASCII letters, digits, `_` and `$` and does not start with a digit. Any name of the schema is turned into one by
replacing what may not stand in it; words with a meaning of their own get an underscore at the end. -/

namespace ApiProxy

def firstFree (taken : List String) (candidate : Nat → String) : String :=
  match (List.range (taken.length + 1)).find? fun k => candidate k ∉ taken with
  | some k => candidate k
  | none => candidate 0

/-- The name itself, then the name followed by 2, by 3 and so on. -/
def numbered (name : String) : Nat → String
  | 0 => name
  | k + 1 => name ++ toString (k + 2)

/-- The name followed by `count` underscores. -/
def padded (name : String) (count : Nat) : String := name ++ String.ofList (List.replicate count '_')

def freshName (taken : List String) (name : String) : String := firstFree taken (numbered name)

/-- Chooses a fresh name for each request in turn; every chosen name is taken from then on. -/
def freshNames (taken : List String) : List String → List String
  | [] => []
  | name :: names =>
    let chosen := freshName taken name
    chosen :: freshNames (chosen :: taken) names

namespace Script

/-- The language of the script. It is asked for by its name in small letters, or by the extension of its files. -/
def languageName : String := "TypeScript"

def extension : String := "ts"

/-- Words that no declaration of the generated script may be named. -/
def reservedWords : List String := [
  "any", "as", "await", "boolean", "break", "case", "catch", "class", "const", "continue",
  "debugger", "declare", "default", "delete", "do", "else", "enum", "export", "extends",
  "false", "finally", "for", "function", "if", "implements", "import", "in", "instanceof",
  "interface", "let", "new", "never", "null", "number", "object", "package", "private",
  "protected", "public", "return", "static", "string", "super", "switch", "symbol", "this",
  "throw", "true", "try", "type", "typeof", "undefined", "unknown", "var", "void", "while",
  "with", "yield"]

/-- Global names that the generated code itself refers to. -/
def runtimeGlobals : List String :=
  ["Blob", "Promise", "Record", "String", "URLSearchParams", "encodeURIComponent"]

def isIdentifierStart (c : Char) : Bool := c.isAlpha || c = '_' || c = '$'

def isIdentifierPart (c : Char) : Bool := c.isAlphanum || c = '_' || c = '$'

def isIdentifier (name : String) : Bool :=
  match name.toList with
  | [] => false
  | c :: rest => isIdentifierStart c && rest.all isIdentifierPart

def replaceForbidden (name : List Char) : List Char :=
  name.map fun c => if isIdentifierPart c then c else '_'

/-- Puts an underscore in front of a text that is empty or starts with a digit. -/
def guardStart (text : List Char) : List Char :=
  match text with
  | [] => ['_']
  | c :: _ => if c.isDigit then '_' :: text else text

def sanitize (name : String) : String :=
  let text := String.ofList (guardStart (replaceForbidden name.toList))
  if text ∈ reservedWords then text ++ "_" else text

/-- The identifier that a declared type asks for. -/
def typeIdentifier (name : String) : String := sanitize name

/-- A member name, bare where the syntax allows it and quoted otherwise. -/
def propertyKey (name : String) : String := if isIdentifier name then name else Json.quote name

end Script

end ApiProxy
