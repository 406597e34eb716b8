import ApiProxy.Json.Number
import ApiProxy.Unicode.Visible

/-! What a document says. A text that stops making sense still has a tree: everything in front of the fault is
there, and the fault stands where reading stopped. A reader that walks the tree in the order of the text thus
meets its own objections and the faults of the text in the order in which they are written. -/

namespace ApiProxy.Json

inductive Fault where
  /-- The text is no document whatever follows. -/
  | malformed
  /-- The text ends too early. -/
  | truncated
deriving DecidableEq, Repr

/-- What a reader found in a place where it expected something else. -/
inductive Found where
  | null
  | boolean (value : Bool)
  | number (value : Number)
  | text (value : String)
  | sequence
  | map
deriving DecidableEq, Repr

/-- What a broken value starts with. -/
inductive Opening where
  | nothing
  | scalar
  | quotation
deriving DecidableEq, Repr

/-- Whether brackets that were opened are closed again, or what is wrong in place of a comma or the closing
bracket. -/
inductive Ending where
  | closed
  | stopped (fault : Fault)
deriving DecidableEq, Repr

/-- A string whose surrogate escapes do not pair up can be skipped, but has no value. -/
inductive Key where
  | text (value : Option String)
  | broken (whenRead whenSkipped : Fault)
  | other (fault : Fault) (found : Except Fault Found)

/-- A broken value has two faults: a value that is only skipped is checked less closely than one that is
read. A number without a value is out of range. -/
inductive Tree where
  | null
  | boolean (value : Bool)
  | number (value : Option Number)
  | text (value : Option String)
  | array (items : List Tree) (ending : Ending)
  | object (members : List (Key × Tree)) (ending : Ending)
  | broken (opening : Opening) (whenRead whenSkipped : Fault)

def Tree.found : Tree → Except Fault Found
  | .null => .ok .null
  | .boolean value => .ok (.boolean value)
  | .number (some value) => .ok (.number value)
  | .number none => .error .malformed
  | .text (some value) => .ok (.text value)
  | .text none => .error .malformed
  | .array _ _ => .ok .sequence
  | .object _ _ => .ok .map
  | .broken _ whenRead _ => .error whenRead

def hexadecimal (code : Nat) : String := String.ofList (Nat.toDigits 16 code)

/-- A character inside the quotation of a message. -/
def shown (c : Char) : String :=
  if c = '\x00' then "\\0"
  else if c = '\t' then "\\t"
  else if c = '\r' then "\\r"
  else if c = '\n' then "\\n"
  else if c = '\\' then "\\\\"
  else if c = '"' then "\\\""
  else if Unicode.isShownAsCode c then "\\u\x7b" ++ hexadecimal c.toNat ++ "\x7d"
  else c.toString

def Found.describe : Found → String
  | .null => "null"
  | .boolean value => s!"boolean `{value}`"
  | .number value => value.describe
  | .text value => "string \"" ++ String.join (value.toList.map shown) ++ "\""
  | .sequence => "sequence"
  | .map => "map"

end ApiProxy.Json
