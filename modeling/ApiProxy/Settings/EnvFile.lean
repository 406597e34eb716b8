import ApiProxy.Settings.CommandLine
import ApiProxy.Unicode.Letter

/-! Files that set environment variables. An assignment goes over several lines while a quotation is open. Values
may be quoted, escape characters by a backslash and mention variables that are set already. The first line
that cannot be read ends the file; what stands before it counts, but never replaces a variable. -/

namespace ApiProxy.Settings.EnvFile

open Unicode

/-! ### Lines -/

/-- What the reader of lines is inside of. -/
inductive Inside where
  | words
  | blanks
  | escape
  | strong
  | strongEscape
  | weak
  | weakEscape
deriving DecidableEq, Repr

def Inside.afterWord : Char → Inside
  | '\\' => escape
  | '"' => weak
  | '\'' => strong
  | _ => words

def Inside.next (inside : Inside) (c : Char) : Inside :=
  match inside with
  | words => if isBlank c && c ≠ '\n' && c ≠ '\r' then blanks else afterWord c
  | blanks => afterWord c
  | escape => words
  | weak => if c = '\\' then weakEscape else if c = '"' then words else weak
  | weakEscape => weak
  | strong => if c = '\\' then strongEscape else if c = '\'' then words else strong
  | strongEscape => strong

/-- Reads a line up to a comment; tells whether there is one, and where the line ends otherwise. -/
def scan (inside : Inside) : List Char → List Char × Option Inside
  | [] => ([], some inside)
  | c :: rest =>
    if inside = .blanks && c = '#' then ([], none)
    else
      match scan (inside.next c) rest with
      | (read, ending) => (c :: read, ending)

/-- Lines with the line feeds that end them. -/
def physicalLines : List Char → List (List Char)
  | [] => []
  | c :: rest =>
    if c = '\n' then ['\n'] :: physicalLines rest
    else
      match physicalLines rest with
      | [] => [[c]]
      | line :: lines => (c :: line) :: lines

def withoutLineEnd (line : List Char) : List Char :=
  match line.reverse with
  | '\n' :: '\r' :: rest => rest.reverse
  | '\n' :: rest => rest.reverse
  | _ => line

def isComment (line : List Char) : Bool := (trimStart line).head? = some '#'

/-- Joins lines while a quotation or an escape is open; at the end of the file none may be. -/
def logicalLines (inside : Inside) (before : List Char) : List (List Char) → List (Option (List Char))
  | [] => if inside = .words then [] else [none]
  | line :: lines =>
    if isComment (before ++ line) then some [] :: logicalLines .words [] lines
    else
      match scan inside line with
      | (read, none) => some (before ++ read) :: logicalLines .words [] lines
      | (_, some .words) => some (withoutLineEnd (before ++ line)) :: logicalLines .words [] lines
      | (_, some inside) => logicalLines inside (before ++ line) lines

/-! ### Values -/

/-- How the next character of a value is taken. `isWeak` tells whether a weak quotation is open. -/
inductive ValueMode where
  | text (isWeak : Bool)
  | strong
  | escape (isWeak : Bool)
  | mention (isWeak : Bool) (name : List Char)
  | bracedMention (isWeak : Bool) (name : List Char)
  | ending
deriving DecidableEq, Repr

structure ValueReading where
  mode : ValueMode := .text false
  output : List Char := []
deriving DecidableEq, Repr

def valueOf (environment : Environment) (name : List Char) : List Char :=
  ((environment.lookup (String.ofList name)).getD "").toList

def ValueReading.push (reading : ValueReading) (c : Char) : ValueReading :=
  { reading with output := reading.output ++ [c] }

def ValueReading.text (reading : ValueReading) (isWeak : Bool) (c : Char) : ValueReading :=
  if c = '$' then { reading with mode := .mention isWeak [] }
  else if c = '\\' then { reading with mode := .escape isWeak }
  else if c = '"' then { reading with mode := .text !isWeak }
  else if isWeak then reading.push c
  else if c = '\'' then { reading with mode := .strong }
  else if c = ' ' || c = '\t' then { reading with mode := .ending }
  else reading.push c

def escaped? (c : Char) : Option Char :=
  if c ∈ ['\\', '\'', '"', '$', ' '] then some c else if c = 'n' then some '\n' else none

/-- Ends the mention of a variable; the character behind it is taken as it is. -/
def ValueReading.endMention (environment : Environment) (reading : ValueReading) (isWeak : Bool)
    (name : List Char) (c : Char) : ValueReading :=
  let output := reading.output ++ valueOf environment name
  if c = '$' then ⟨.mention isWeak [], output⟩ else ⟨.text isWeak, output ++ [c]⟩

def ValueReading.take (environment : Environment) (reading : ValueReading) (c : Char) : Option ValueReading :=
  match reading.mode with
  | .text isWeak => some (reading.text isWeak c)
  | .strong => some (if c = '\'' then { reading with mode := .text false } else reading.push c)
  | .escape isWeak => (escaped? c).map fun c => ⟨.text isWeak, reading.output ++ [c]⟩
  | .mention isWeak name =>
    if isAlphanumeric c then some { reading with mode := .mention isWeak (name ++ [c]) }
    else if c = '\x7b' && name.isEmpty then some { reading with mode := .bracedMention isWeak [] }
    else some (reading.endMention environment isWeak name c)
  | .bracedMention isWeak name =>
    if c = '\x7d' then some ⟨.text isWeak, reading.output ++ valueOf environment name⟩
    else some { reading with mode := .bracedMention isWeak (name ++ [c]) }
  | .ending => if c = ' ' || c = '\t' then some reading else none

/-- Reads a value; behind a blank that ends it only blanks or a comment may follow. -/
def readValue (environment : Environment) (reading : ValueReading) : List Char → Option ValueReading
  | [] => some reading
  | c :: rest =>
    if reading.mode = .ending && c = '#' then some reading
    else (reading.take environment c).bind fun reading => readValue environment reading rest

def value? (environment : Environment) (text : List Char) : Option (List Char) :=
  (readValue environment {} text).bind fun reading =>
    match reading.mode with
    | .text isWeak => if isWeak then none else some reading.output
    | .escape isWeak => if isWeak then none else some reading.output
    | .mention isWeak name => if isWeak then none else some (reading.output ++ valueOf environment name)
    | .ending => some reading.output
    | .strong => none
    | .bracedMention .. => none

/-! ### Assignments -/

def isKeyCharacter (c : Char) : Bool := c.isAlphanum || c = '_' || c = '.'

def cutKey? (text : List Char) : Option (List Char × List Char) :=
  if text.head?.any fun c => c.isAlpha || c = '_' then
    match text.span isKeyCharacter with
    | (key, rest) => some (key, trimStart rest)
  else none

def cutEquals? (text : List Char) : Option (List Char) :=
  match text with
  | '=' :: rest => some rest
  | _ => none

/-- The word `export` in front of a key has no meaning, but it can be a key. -/
def cutAssignment? (text : List Char) : Option (List Char × List Char) := do
  let (key, rest) ← cutKey? text
  match cutEquals? rest with
  | some value => some (key, value)
  | none =>
    if key = "export".toList then
      let (key, rest) ← cutKey? rest
      some (key, ← cutEquals? rest)
    else none

/-- The assignment on a line that is not blank. -/
def assignment? (environment : Environment) (line : List Char) : Option (String × String) := do
  let (key, text) ← cutAssignment? line
  let text := trimStart text
  let value ← if text.isEmpty || isComment text then some [] else value? environment text
  some (String.ofList key, String.ofList value)

def set (environment : Environment) (assignment : String × String) : Environment :=
  if (environment.lookup assignment.1).isSome then environment else environment ++ [assignment]

def loadLines (environment : Environment) : List (Option (List Char)) → Environment
  | [] => environment
  | none :: _ => environment
  | some line :: lines =>
    let line := trim line
    if line.isEmpty || isComment line then loadLines environment lines
    else
      match assignment? environment line with
      | some assignment => loadLines (set environment assignment) lines
      | none => environment

def withoutByteOrderMark (text : List Char) : List Char :=
  match text with
  | '\uFEFF' :: rest => rest
  | _ => text

def load (environment : Environment) (text : String) : Environment :=
  loadLines environment (logicalLines .words [] (physicalLines (withoutByteOrderMark text.toList)))

end ApiProxy.Settings.EnvFile
