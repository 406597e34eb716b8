import ApiProxy.Json.Tree

/-! Values to be written as a document. They are printed without blanks, members in their given order, and strings in
quotation marks. -/

namespace ApiProxy.Json

/-! ### Quotations

The two characters that would end or disturb a quotation are escaped by a backslash, control characters are written by
their short names or as four hexadecimal digits, and every other character stands for itself. -/

def hexDigit (value : Nat) : Char := "0123456789abcdef".toList.getD value '0'

def escape (c : Char) : List Char :=
  if c = '"' then ['\\', '"']
  else if c = '\\' then ['\\', '\\']
  else if c = '\x08' then ['\\', 'b']
  else if c = '\t' then ['\\', 't']
  else if c = '\n' then ['\\', 'n']
  else if c = '\x0c' then ['\\', 'f']
  else if c = '\r' then ['\\', 'r']
  else if c.toNat < 0x20 then ['\\', 'u', '0', '0', hexDigit (c.toNat / 16), hexDigit (c.toNat % 16)]
  else [c]

def quoted (text : List Char) : List Char := '"' :: text.flatMap escape ++ ['"']

def quote (text : String) : String := String.ofList (quoted text.toList)

/-! ### Documents -/

inductive Value where
  | boolean (value : Bool)
  | integer (value : Int)
  | text (value : String)
  | array (items : List Value)
  | object (members : List (String × Value))

namespace Value

mutual

def print : Value → List Char
  | boolean true => "true".toList
  | boolean false => "false".toList
  | integer value => (toString value).toList
  | text value => quoted value.toList
  | array items => '[' :: printItems items ++ [']']
  | object members => '\x7b' :: printMembers members ++ ['\x7d']

def printItems : List Value → List Char
  | [] => []
  | [item] => item.print
  | item :: items => item.print ++ ',' :: printItems items

def printMembers : List (String × Value) → List Char
  | [] => []
  | [(name, value)] => quoted name.toList ++ ':' :: value.print
  | (name, value) :: members => quoted name.toList ++ ':' :: value.print ++ ',' :: printMembers members

end

def toText (value : Value) : String := String.ofList value.print

end Value

end ApiProxy.Json
