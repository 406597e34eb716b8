import ApiProxy.Pieces

/-! Settings files in TOML. A document is a table of keys; keys with dots and headers in brackets open tables
inside it. Strings, integers, arrays and tables keep their values. Floats, booleans and dates are recognised
but not told apart, and lists of tables written with double brackets are not accepted, since no setting
is one. -/

namespace ApiProxy.Settings.Toml

/-- A table that is only implied, by a header below it or by a key with dots, may still be opened by its own
header or extended by further keys with dots, respectively. -/
inductive Value where
  | text (value : String)
  | integer (value : Int)
  | other
  | array (items : List Value)
  | inline (entries : List (String × Value))
  | table (entries : List (String × Value)) (isImplied isDotted : Bool)

abbrev Table := List (String × Value)

/-- A reader takes what it reads off the front of a text. -/
abbrev Reader (α : Type) := List Char → Option (α × List Char)

def isSpace (c : Char) : Bool := c = ' ' || c = '\t'

def skipSpace (text : List Char) : List Char := text.dropWhile isSpace

/-- Characters that may stand in comments and strings. -/
def isPlain (c : Char) : Bool := c = '\t' || (0x20 ≤ c.toNat && c.toNat ≠ 0x7F)

def newline? : List Char → Option (List Char)
  | '\n' :: rest => some rest
  | '\r' :: '\n' :: rest => some rest
  | _ => none

def skipComment (text : List Char) : List Char :=
  match text with
  | '#' :: rest => rest.dropWhile isPlain
  | _ => text

/-- Leaves out spaces, comments and line ends. -/
def skipLines : Nat → List Char → List Char
  | 0, text => text
  | allowance + 1, text =>
    let text := skipComment (skipSpace text)
    match newline? text with
    | some rest => skipLines allowance rest
    | none => text

/-! ### Strings -/

def hexValue? (c : Char) : Option Nat :=
  if c.isDigit then some (c.toNat - 48)
  else if 'a' ≤ c && c ≤ 'f' then some (c.toNat - 87)
  else if 'A' ≤ c && c ≤ 'F' then some (c.toNat - 55)
  else none

def codeOf? (digits : List Char) : Option Char := do
  let values ← digits.mapM hexValue?
  let code := values.foldl (fun code digit => code * 16 + digit) 0
  if code.isValidChar then some (Char.ofNat code) else none

def readCode (count : Nat) (text : List Char) : Option (Char × List Char) :=
  if text.length < count then none
  else (codeOf? (text.take count)).map fun c => (c, text.drop count)

/-- Reads an escape behind its backslash. -/
def readEscape : Reader Char
  | 'b' :: rest => some ('\x08', rest)
  | 't' :: rest => some ('\t', rest)
  | 'n' :: rest => some ('\n', rest)
  | 'f' :: rest => some ('\x0c', rest)
  | 'r' :: rest => some ('\r', rest)
  | '"' :: rest => some ('"', rest)
  | '\\' :: rest => some ('\\', rest)
  | 'u' :: rest => readCode 4 rest
  | 'U' :: rest => readCode 8 rest
  | _ => none

def escapeAfter (escapes : Bool) (c : Char) : Bool := escapes && c = '\\'

/-- Reads a string on one line up to its closing mark; `read` holds the characters so far, the latest
first. -/
def readLine (mark : Char) (escapes : Bool) (read : List Char) : Nat → Reader String
  | 0, _ => none
  | _ + 1, [] => none
  | allowance + 1, c :: rest =>
    if c = mark then some (String.ofList read.reverse, rest)
    else if escapeAfter escapes c then
      (readEscape rest).bind fun (meant, rest) => readLine mark escapes (meant :: read) allowance rest
    else if isPlain c then readLine mark escapes (c :: read) allowance rest
    else none

def skipBlankLines : List Char → List Char
  | '\r' :: '\n' :: rest => skipBlankLines rest
  | c :: rest => if isSpace c || c = '\n' then skipBlankLines rest else c :: rest
  | [] => []

/-- Reads a string over several lines up to three closing marks, in front of which two more may stand. A line
end behind a backslash is left out together with the blanks that follow it. -/
def readLinesString (mark : Char) (escapes : Bool) (read : List Char) : Nat → Reader String
  | 0, _ => none
  | _ + 1, [] => none
  | allowance + 1, c :: rest =>
    if c = mark then
      let marks := ((c :: rest).takeWhile (· = mark)).length
      let kept := if marks < 3 then marks else min 2 (marks - 3)
      let read := List.replicate kept mark ++ read
      if marks < 3 then readLinesString mark escapes read allowance (rest.drop (marks - 1))
      else some (String.ofList read.reverse, rest.drop (kept + 2))
    else if escapeAfter escapes c then
      match newline? (skipSpace rest) with
      | some rest => readLinesString mark escapes read allowance (skipBlankLines rest)
      | none => (readEscape rest).bind fun (meant, rest) => readLinesString mark escapes (meant :: read) allowance rest
    else
      match newline? (c :: rest) with
      | some rest => readLinesString mark escapes ('\n' :: read) allowance rest
      | none => if isPlain c then readLinesString mark escapes (c :: read) allowance rest else none

def dropNewline (text : List Char) : List Char := (newline? text).getD text

def readString (text : List Char) : Option (String × List Char) :=
  match text with
  | '"' :: '"' :: '"' :: rest => readLinesString '"' true [] (rest.length + 1) (dropNewline rest)
  | '\'' :: '\'' :: '\'' :: rest => readLinesString '\'' false [] (rest.length + 1) (dropNewline rest)
  | '"' :: rest => readLine '"' true [] (rest.length + 1) rest
  | '\'' :: rest => readLine '\'' false [] (rest.length + 1) rest
  | _ => none

/-! ### Keys -/

def isBareKeyChar (c : Char) : Bool := c.isAlphanum || c = '-' || c = '_'

def readSimpleKey (text : List Char) : Option (String × List Char) :=
  match text with
  | '"' :: rest => readLine '"' true [] (rest.length + 1) rest
  | '\'' :: rest => readLine '\'' false [] (rest.length + 1) rest
  | _ =>
    let key := text.takeWhile isBareKeyChar
    if key.isEmpty then none else some (String.ofList key, text.dropWhile isBareKeyChar)

/-- Reads a key with its dots, and the spaces around it. -/
def readKey : Nat → Reader (List String)
  | 0, _ => none
  | allowance + 1, text => do
    let (key, rest) ← readSimpleKey (skipSpace text)
    match skipSpace rest with
    | '.' :: rest =>
      let (keys, rest) ← readKey allowance rest
      some (key :: keys, rest)
    | rest => some ([key], rest)

/-! ### Numbers and other scalars -/

/-- The value of digits that may be grouped by single underscores. -/
def grouped? (base : Nat) (text : List Char) : Option Nat := do
  let parts := pieces (· = '_') text
  if parts.any List.isEmpty then none
  let digits ← parts.flatten.mapM hexValue?
  if digits.all (· < base) then some (digits.foldl (fun value digit => value * base + digit) 0) else none

def signed (text : List Char) : Bool × List Char :=
  match text with
  | '-' :: rest => (true, rest)
  | '+' :: rest => (false, rest)
  | _ => (false, text)

/-- A decimal number without superfluous zeros in front. -/
def decimal? (text : List Char) : Option Nat :=
  match text with
  | '0' :: _ :: _ => none
  | _ => grouped? 10 text

def integer? (token : List Char) : Option Int :=
  let value? : Option Int :=
    match token with
    | '0' :: 'x' :: digits => (grouped? 16 digits).map Int.ofNat
    | '0' :: 'o' :: digits => (grouped? 8 digits).map Int.ofNat
    | '0' :: 'b' :: digits => (grouped? 2 digits).map Int.ofNat
    | _ =>
      let (isNegative, digits) := signed token
      (decimal? digits).map fun value => if isNegative then -(value : Int) else value
  value?.filter fun value => -0x8000000000000000 ≤ value && value < 0x8000000000000000

def isFloat (token : List Char) : Bool :=
  let (_, body) := signed token
  if body = ['i', 'n', 'f'] || body = ['n', 'a', 'n'] then true
  else
    let isExponent (c : Char) : Bool := c = 'e' || c = 'E'
    let mantissa := body.takeWhile fun c => !isExponent c
    let exponent := body.dropWhile fun c => !isExponent c
    let whole := mantissa.takeWhile (· ≠ '.')
    let fraction := mantissa.dropWhile (· ≠ '.')
    let isExponentFine := exponent.isEmpty || (grouped? 10 (signed exponent.tail).2).isSome
    let isFractionFine := fraction.isEmpty || (grouped? 10 fraction.tail).isSome
    (decimal? whole).isSome && isFractionFine && isExponentFine && !(fraction.isEmpty && exponent.isEmpty)

/-- Numbers of fixed width between given bounds, apart from each other by a mark. -/
def numbers? (mark : Char) (widths : List Nat) (bounds : List (Nat × Nat)) (text : List Char) : Bool :=
  let parts := pieces (· = mark) text
  parts.length = widths.length &&
    (parts.zip (widths.zip bounds)).all fun (part, width, low, high) =>
      part.length = width && part.all Char.isDigit &&
        (let value := part.foldl (fun value c => value * 10 + (c.toNat - 48)) 0
         low ≤ value && value ≤ high)

def isDate (text : List Char) : Bool := numbers? '-' [4, 2, 2] [(0, 9999), (1, 12), (1, 31)] text

def isTime (text : List Char) : Bool :=
  let whole := text.takeWhile (· ≠ '.')
  let fraction := text.dropWhile (· ≠ '.')
  numbers? ':' [2, 2, 2] [(0, 23), (0, 59), (0, 60)] whole &&
    (fraction.isEmpty || (fraction.length > 1 && fraction.tail.all Char.isDigit))

def isOffset (text : List Char) : Bool :=
  match text with
  | ['Z'] => true
  | ['z'] => true
  | '+' :: rest => numbers? ':' [2, 2] [(0, 23), (0, 59)] rest
  | '-' :: rest => numbers? ':' [2, 2] [(0, 23), (0, 59)] rest
  | _ => text.isEmpty

def isMoment (token : List Char) : Bool :=
  let timed (text : List Char) : Bool :=
    let isTimeChar (c : Char) : Bool := c.isDigit || c = ':' || c = '.'
    isTime (text.takeWhile isTimeChar) && isOffset (text.dropWhile isTimeChar)
  isDate token || isTime token ||
    (isDate (token.take 10) &&
      match token.drop 10 with
      | 'T' :: rest => timed rest
      | 't' :: rest => timed rest
      | _ => false)

def isTokenChar (c : Char) : Bool := c.isAlphanum || c = '+' || c = '-' || c = '_' || c = '.' || c = ':'

def readScalar (text : List Char) : Option (Value × List Char) :=
  let token := text.takeWhile isTokenChar
  let rest := text.dropWhile isTokenChar
  match integer? token with
  | some value => some (.integer value, rest)
  | none =>
    if token = "true".toList || token = "false".toList || isFloat token || isMoment token then some (.other, rest)
    else none

/-! ### Tables -/

def replaceEntry (key : String) (value : Value) (table : Table) : Table :=
  table.map fun entry => if entry.1 = key then (key, value) else entry

/-- Adds a value under a key with dots in front. The tables on the way must not have been opened by a header,
and the last of them must stem from a key with dots. -/
def addDotted : List String → String → Value → Table → Option Table
  | [], key, value, table => if (table.lookup key).isSome then none else some (table ++ [(key, value)])
  | step :: steps, key, value, table =>
    match table.lookup step with
    | none => (addDotted steps key value []).map fun inner => table ++ [(step, .table inner true true)]
    | some (.table inner true isDotted) =>
      if steps.isEmpty && !isDotted then none
      else (addDotted steps key value inner).map fun inner => replaceEntry step (.table inner true isDotted) table
    | some _ => none

/-- Opens the table of a header. -/
def openTable : List String → Table → Option Table
  | [], _ => none
  | [key], table =>
    match table.lookup key with
    | none => some (table ++ [(key, .table [] false false)])
    | some (.table inner true false) => some (replaceEntry key (.table inner false false) table)
    | some _ => none
  | step :: steps, table =>
    match table.lookup step with
    | none => (openTable steps []).map fun inner => table ++ [(step, .table inner true false)]
    | some (.table inner isImplied isDotted) =>
      (openTable steps inner).map fun inner => replaceEntry step (.table inner isImplied isDotted) table
    | some _ => none

/-- Adds a value inside the table of a header. -/
def addUnder : List String → List String → String → Value → Table → Option Table
  | [], dotted, key, value, table => addDotted dotted key value table
  | step :: steps, dotted, key, value, table =>
    match table.lookup step with
    | some (.table inner isImplied isDotted) =>
      (addUnder steps dotted key value inner).map fun inner =>
        replaceEntry step (.table inner isImplied isDotted) table
    | _ => none

def addKey (header keys : List String) (value : Value) (table : Table) : Option Table :=
  match keys.reverse with
  | [] => none
  | key :: dotted => addUnder header dotted.reverse key value table

/-! ### Values and documents -/

mutual

def readValue : Nat → Reader Value
  | 0, _ => none
  | allowance + 1, text =>
    match text with
    | '[' :: rest => (readItems allowance rest).map fun (items, rest) => (.array items, rest)
    | '{' :: rest =>
      match skipSpace rest with
      | '}' :: rest => some (.inline [], rest)
      | rest => (readInline allowance [] rest).map fun (table, rest) => (.inline table, rest)
    | '"' :: _ => (readString text).map fun (value, rest) => (.text value, rest)
    | '\'' :: _ => (readString text).map fun (value, rest) => (.text value, rest)
    | _ => readScalar text

/-- Reads items up to the closing bracket; a comma may stand behind the last one. -/
def readItems : Nat → Reader (List Value)
  | 0, _ => none
  | allowance + 1, text =>
    match skipLines text.length text with
    | ']' :: rest => some ([], rest)
    | text => do
      let (item, rest) ← readValue allowance text
      match skipLines rest.length rest with
      | ']' :: rest => some ([item], rest)
      | ',' :: rest =>
        let (items, rest) ← readItems allowance rest
        some (item :: items, rest)
      | _ => none

def readInline : Nat → Table → Reader Table
  | 0, _, _ => none
  | allowance + 1, table, text => do
    let (keys, rest) ← readKey text.length text
    match rest with
    | '=' :: rest =>
      let (value, rest) ← readValue allowance (skipSpace rest)
      let table ← addKey [] keys value table
      match skipSpace rest with
      | '}' :: rest => some (table, rest)
      | ',' :: rest => readInline allowance table rest
      | _ => none
    | _ => none

end

/-- What must follow an entry on its line: nothing but a comment. -/
def endLine? (text : List Char) : Option (List Char) :=
  match skipComment (skipSpace text) with
  | [] => some []
  | text => newline? text

/-- Reads the lines of a document; `header` is the path of the table that is open. -/
def readEntries : Nat → List String → Table → List Char → Option Table
  | 0, _, _, _ => none
  | allowance + 1, header, table, text =>
    match skipLines text.length text with
    | [] => some table
    | '[' :: rest => do
      let (path, rest) ← readKey rest.length rest
      match rest with
      | ']' :: rest =>
        let table ← openTable path table
        readEntries allowance path table (← endLine? rest)
      | _ => none
    | text => do
      let (keys, rest) ← readKey text.length text
      match rest with
      | '=' :: rest =>
        let (value, rest) ← readValue (2 * rest.length + 2) (skipSpace rest)
        let table ← addKey header keys value table
        readEntries allowance header table (← endLine? rest)
      | _ => none

def read (text : String) : Option Table :=
  let body := match text.toList with
    | '\uFEFF' :: rest => rest
    | body => body
  readEntries (body.length + 1) [] [] body

end ApiProxy.Settings.Toml
