import ApiProxy.Json.Tree

/-! Reading a text into a tree. The functions on single tokens follow the text character by character; a
value is read with one unit of allowance per nested call. Of two nested calls at least one takes a character
off the text, so two units per character are enough. -/

namespace ApiProxy.Json

def isBlank (c : Char) : Bool := c = ' ' || c = '\t' || c = '\n' || c = '\r'

def skipBlanks (text : List Char) : List Char := text.dropWhile isBlank

/-- A value and, unless it is broken, the text behind it. -/
abbrev Reading := Tree × Option (List Char)

def brokenBy (opening : Opening) (fault : Fault) : Reading := (.broken opening fault fault, none)

/-- The fault of a text that goes on, or does not, where something else was needed. -/
def faultAt : List Char → Fault
  | [] => .truncated
  | _ :: _ => .malformed

/-- Reads the rest of a literal name. -/
def readLiteral (value : Tree) : List Char → List Char → Reading
  | [], text => (value, some text)
  | _ :: _, [] => brokenBy .scalar .truncated
  | c :: expected, d :: text => if c = d then readLiteral value expected text else brokenBy .scalar .malformed

/-! ### Strings -/

inductive Quotation where
  | closed (value : Option String) (rest : List Char)
  | broken (whenRead whenSkipped : Fault)

def simpleEscape : Char → Option Char
  | '"' => some '"'
  | '\\' => some '\\'
  | '/' => some '/'
  | 'b' => some '\x08'
  | 'f' => some '\x0c'
  | 'n' => some '\n'
  | 'r' => some '\r'
  | 't' => some '\t'
  | _ => none

def hexValue? (c : Char) : Option Nat :=
  if c.isDigit then some (c.toNat - 48)
  else if 'a' ≤ c && c ≤ 'f' then some (c.toNat - 87)
  else if 'A' ≤ c && c ≤ 'F' then some (c.toNat - 55)
  else none

def hexCode? (a b c d : Char) : Option Nat := do
  let a ← hexValue? a
  let b ← hexValue? b
  let c ← hexValue? c
  let d ← hexValue? d
  pure (((a * 16 + b) * 16 + c) * 16 + d)

/-- The state of a string while it is read: the characters so far, the latest first, a leading surrogate that
still needs its partner, and whether all surrogates before it found theirs. -/
structure Partial where
  read : List Char := []
  leading : Option Nat := none
  paired : Bool := true

/-- A leading surrogate that is followed by anything but its partner stays alone. -/
def Partial.settled (sofar : Partial) : Bool := sofar.paired && sofar.leading.isNone

def Partial.push (sofar : Partial) (c : Char) : Partial := ⟨c :: sofar.read, none, sofar.settled⟩

def Partial.pushCode (sofar : Partial) (code : Nat) : Partial :=
  if 0xD800 ≤ code && code ≤ 0xDBFF then ⟨sofar.read, some code, sofar.settled⟩
  else if 0xDC00 ≤ code && code ≤ 0xDFFF then
    match sofar.leading with
    | some leading =>
      ⟨Char.ofNat ((leading - 0xD800) * 0x400 + (code - 0xDC00) + 0x10000) :: sofar.read, none, sofar.paired⟩
    | none => ⟨sofar.read, none, false⟩
  else sofar.push (Char.ofNat code)

def Partial.value (sofar : Partial) : Option String :=
  if sofar.settled then some (String.ofList sofar.read.reverse) else none

def Partial.truncated (sofar : Partial) : Quotation :=
  .broken (if sofar.paired then .truncated else .malformed) .truncated

/-- Reads a string behind its opening quotation mark. -/
def readQuotation (sofar : Partial) : List Char → Quotation
  | [] => sofar.truncated
  | '"' :: rest => .closed sofar.value rest
  | '\\' :: 'u' :: a :: b :: c :: d :: rest =>
    match hexCode? a b c d with
    | some code => readQuotation (sofar.pushCode code) rest
    | none => .broken .malformed .malformed
  | '\\' :: 'u' :: short =>
    if (String.ofList short).utf8ByteSize < 4 then sofar.truncated else .broken .malformed .malformed
  | ['\\'] => sofar.truncated
  | '\\' :: c :: rest =>
    match simpleEscape c with
    | some meant => readQuotation (sofar.push meant) rest
    | none => .broken .malformed .malformed
  | c :: rest =>
    if c.toNat < 0x20 then .broken .malformed .malformed else readQuotation (sofar.push c) rest

/-! ### Numbers -/

def digitValue (c : Char) : Nat := c.toNat - 48

def takeDigits (text : List Char) : List Nat × List Char :=
  ((text.takeWhile Char.isDigit).map digitValue, text.dropWhile Char.isDigit)

/-- A number that lacks a digit at the end of the text may still be completed when it is read. -/
def brokenNumber (text : List Char) : Reading := (.broken .scalar (faultAt text) .malformed, none)

def numberTree (numeral : Numeral) (rest : List Char) : Reading := (.number numeral.value?, some rest)

def readExponent (numeral : Numeral) (text : List Char) : Reading :=
  let (isNegative, text) : Bool × List Char :=
    match text with
    | '-' :: rest => (true, rest)
    | '+' :: rest => (false, rest)
    | _ => (false, text)
  match takeDigits text with
  | ([], rest) => brokenNumber rest
  | (digits, rest) => numberTree { numeral with exponent := some (isNegative, digits) } rest

def readFraction (numeral : Numeral) (text : List Char) : Reading :=
  match takeDigits text with
  | ([], rest) => brokenNumber rest
  | (digits, rest) =>
    let numeral := { numeral with fraction := some digits }
    match rest with
    | 'e' :: rest => readExponent numeral rest
    | 'E' :: rest => readExponent numeral rest
    | _ => numberTree numeral rest

def readNumber (isNegative : Bool) (text : List Char) : Reading :=
  match takeDigits text with
  | ([], rest) => brokenNumber rest
  | (0 :: _ :: _, _) => brokenBy .scalar .malformed
  | (digits, rest) =>
    let numeral : Numeral := ⟨isNegative, digits, none, none⟩
    match rest with
    | '.' :: rest => readFraction numeral rest
    | 'e' :: rest => readExponent numeral rest
    | 'E' :: rest => readExponent numeral rest
    | _ => numberTree numeral rest

/-! ### Values -/

def scalar (text : List Char) : Reading :=
  match text with
  | 'n' :: rest => readLiteral .null ['u', 'l', 'l'] rest
  | 't' :: rest => readLiteral (.boolean true) ['r', 'u', 'e'] rest
  | 'f' :: rest => readLiteral (.boolean false) ['a', 'l', 's', 'e'] rest
  | '-' :: rest => readNumber true rest
  | '"' :: rest =>
    match readQuotation {} rest with
    | .closed value rest => (.text value, some rest)
    | .broken whenRead whenSkipped => (.broken .quotation whenRead whenSkipped, none)
  | c :: _ => if c.isDigit then readNumber false text else brokenBy .nothing .malformed
  | [] => brokenBy .nothing .truncated

/-- What stands in a place that is kept for a key in quotation marks. -/
def keyFound (text : List Char) : Except Fault Found :=
  match text with
  | '[' :: _ => .ok .sequence
  | '{' :: _ => .ok .map
  | _ => (scalar text).1.found

mutual

def readValue : Nat → List Char → Reading
  | 0, _ => brokenBy .nothing .truncated
  | allowance + 1, text =>
    match skipBlanks text with
    | '[' :: rest =>
      let (items, ending, rest) := readItems allowance true rest
      (.array items ending, rest)
    | '{' :: rest =>
      let (members, ending, rest) := readMembers allowance true rest
      (.object members ending, rest)
    | text => scalar text

/-- The items up to the closing bracket; a comma is due in front of every item but the first. -/
def readItems : Nat → Bool → List Char → List Tree × Ending × Option (List Char)
  | 0, _, _ => ([], .stopped .truncated, none)
  | allowance + 1, isFirst, text =>
    match skipBlanks text with
    | [] => ([], .stopped .truncated, none)
    | c :: rest =>
      if c = ']' then ([], .closed, some rest)
      else if isFirst || c = ',' then
        match readValue allowance (if isFirst then c :: rest else rest) with
        | (item, none) => ([item], .stopped .malformed, none)
        | (item, some rest) =>
          let (items, ending, rest) := readItems allowance false rest
          (item :: items, ending, rest)
      else ([], .stopped .malformed, none)

def readMembers : Nat → Bool → List Char → List (Key × Tree) × Ending × Option (List Char)
  | 0, _, _ => ([], .stopped .truncated, none)
  | allowance + 1, isFirst, text =>
    match skipBlanks text with
    | [] => ([], .stopped .truncated, none)
    | c :: rest =>
      if c = '\x7d' then ([], .closed, some rest)
      else if isFirst || c = ',' then
        match skipBlanks (if isFirst then c :: rest else rest) with
        | '"' :: rest =>
          match readQuotation {} rest with
          | .broken whenRead whenSkipped =>
            ([(.broken whenRead whenSkipped, .null)], .stopped .malformed, none)
          | .closed key rest =>
            match skipBlanks rest with
            | ':' :: rest =>
              match readValue allowance rest with
              | (value, none) => ([(.text key, value)], .stopped .malformed, none)
              | (value, some rest) =>
                let (members, ending, rest) := readMembers allowance false rest
                ((.text key, value) :: members, ending, rest)
            | rest => ([(.text key, (brokenBy .nothing (faultAt rest)).1)], .stopped .malformed, none)
        | rest => ([(.other (faultAt rest) (keyFound rest), .null)], .stopped .malformed, none)
      else ([], .stopped .malformed, none)

end

/-- A whole text: its tree, and whether nothing but blanks follows. -/
structure Document where
  root : Tree
  isComplete : Bool

def Document.ofText (text : List Char) : Document :=
  match readValue (2 * text.length + 2) text with
  | (root, some rest) => ⟨root, (skipBlanks rest).isEmpty⟩
  | (root, none) => ⟨root, true⟩

end ApiProxy.Json
