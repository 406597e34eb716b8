/-! Percent codes. A character that may not stand for itself is written as the bytes of its UTF-8 form, each as
a percent sign and two hexadecimal digits. Which characters these are depends on the part of the URL. -/

namespace ApiProxy.Url

def upperHexDigit (value : Nat) : Char := "0123456789ABCDEF".toList.getD value '0'

def percentByte (byte : UInt8) : List Char :=
  ['%', upperHexDigit (byte.toNat / 16), upperHexDigit (byte.toNat % 16)]

def percentEncode (isEncoded : Char → Bool) (text : List Char) : List Char :=
  text.flatMap fun c => if isEncoded c then (String.utf8EncodeChar c).flatMap percentByte else [c]

def hexValue? (c : Char) : Option Nat :=
  if '0' ≤ c && c ≤ '9' then some (c.toNat - 48)
  else if 'a' ≤ c && c ≤ 'f' then some (c.toNat - 87)
  else if 'A' ≤ c && c ≤ 'F' then some (c.toNat - 55)
  else none

/-- A percent sign that no two digits follow stands for itself. -/
def percentDecode : List Char → List UInt8
  | [] => []
  | '%' :: high :: low :: rest =>
    match hexValue? high, hexValue? low with
    | some high, some low => UInt8.ofNat (high * 16 + low) :: percentDecode rest
    | _, _ => String.utf8EncodeChar '%' ++ percentDecode (high :: low :: rest)
  | c :: rest => String.utf8EncodeChar c ++ percentDecode rest

/-- Characters outside the printable ASCII range are encoded everywhere. -/
def isUnprintable (c : Char) : Bool := c.toNat < 0x20 || 0x7E < c.toNat

def isEncodedInQuery (c : Char) : Bool := isUnprintable c || c ∈ [' ', '"', '#', '<', '>']

def isEncodedInSpecialQuery (c : Char) : Bool := isEncodedInQuery c || c = '\''

def isEncodedInFragment (c : Char) : Bool := isUnprintable c || c ∈ [' ', '"', '<', '>', '`']

def isEncodedInPath (c : Char) : Bool := isEncodedInFragment c || c ∈ ['#', '?', '\x7b', '\x7d']

def isEncodedInCredentials (c : Char) : Bool :=
  isEncodedInPath c || c ∈ ['/', ':', ';', '=', '@', '[', '\\', ']', '^', '|']

end ApiProxy.Url
