import ApiProxy.Pieces
import ApiProxy.Url.Coding

/-! Numeric addresses of hosts. A name whose last part is a number is an IPv4 address of up to four parts in
decimal, octal or hexadecimal form, the last of which fills the bytes that the others leave. An IPv6 address
has eight pieces of four hexadecimal digits; one run of zeros may be left out, and the last two pieces may be
written like an IPv4 address. -/

namespace ApiProxy.Url

/-- The digits in front of which there is nothing to read count as zero. -/
def number? (radix : Nat) (digits : List Char) : Option Nat :=
  digits.foldlM (fun value c => (hexValue? c).bind fun digit =>
    if digit < radix then some (value * radix + digit) else none) 0

def ipv4Number? (text : List Char) : Option Nat :=
  match text with
  | [] => none
  | '0' :: 'x' :: digits => number? 16 digits
  | '0' :: 'X' :: digits => number? 16 digits
  | '0' :: digit :: digits => number? 8 (digit :: digits)
  | digits => number? 10 digits

/-- The parts of a host name; a dot at its end is not counted. -/
def hostParts (name : List Char) : List (List Char) :=
  let parts := pieces (· = '.') name
  if parts.getLast? = some [] && 1 < parts.length then parts.dropLast else parts

def endsInNumber (name : List Char) : Bool :=
  match (hostParts name).getLast? with
  | none => false
  | some part => (!part.isEmpty && part.all Char.isDigit) || (ipv4Number? part).isSome

def ipv4? (name : List Char) : Option Nat := do
  let numbers ← (hostParts name).mapM ipv4Number?
  let count := numbers.length
  let last ← numbers.getLast?
  if 4 < count || numbers.dropLast.any (255 < ·) || Nat.pow 256 (5 - count) ≤ last then none
  else some ((numbers.dropLast.foldl (fun value number => value * 256 + number) 0) * Nat.pow 256 (5 - count) + last)

def ipv4Text (address : Nat) : String :=
  let byte (place : Nat) : String := toString (address / Nat.pow 256 place % 256)
  ".".intercalate [byte 3, byte 2, byte 1, byte 0]

/-- A byte in decimal digits, without zeros in front. -/
def plainByte? (digits : List Char) : Option Nat :=
  match digits with
  | [] => none
  | '0' :: _ :: _ => none
  | digits => (number? 10 digits).filter (· ≤ 255)

def embeddedIpv4? (text : List Char) : Option (List Nat) := do
  match ← (pieces (· = '.') text).mapM plainByte? with
  | [a, b, c, d] => some [a * 256 + b, c * 256 + d]
  | _ => none

def ipv6Piece? (digits : List Char) : Option Nat :=
  if digits.isEmpty || 4 < digits.length then none else number? 16 digits

def ipv6Pieces? (mayEndInIpv4 : Bool) : List (List Char) → Option (List Nat)
  | [] => some []
  | [text] =>
    if mayEndInIpv4 && text.contains '.' then embeddedIpv4? text else (ipv6Piece? text).map fun piece => [piece]
  | text :: texts => do
    let piece ← ipv6Piece? text
    let others ← ipv6Pieces? mayEndInIpv4 texts
    some (piece :: others)

/-- Cuts an address where zeros are left out. -/
def cutAtGap : List Char → List Char × Option (List Char)
  | ':' :: ':' :: rest => ([], some rest)
  | [] => ([], none)
  | c :: rest =>
    match cutAtGap rest with
    | (front, back) => (c :: front, back)

def ipv6Side? (mayEndInIpv4 : Bool) (text : List Char) : Option (List Nat) :=
  if text.isEmpty then some [] else ipv6Pieces? mayEndInIpv4 (pieces (· = ':') text)

def ipv6? (text : List Char) : Option (List Nat) := do
  match cutAtGap text with
  | (whole, none) =>
    let found ← ipv6Side? true whole
    if found.length = 8 then some found else none
  | (front, some back) =>
    let before ← ipv6Side? false front
    let behind ← ipv6Side? true back
    let count := before.length + behind.length
    if count ≤ 7 then some (before ++ List.replicate (8 - count) 0 ++ behind) else none

def zerosInFront (numbers : List Nat) : Nat := (numbers.takeWhile (· = 0)).length

/-- The first of the longest runs of zeros, as its place and its length. -/
def longestZeroRun (numbers : List Nat) : Nat × Nat :=
  (List.range numbers.length).foldl (fun best place =>
    let length := zerosInFront (numbers.drop place)
    if best.2 < length then (place, length) else best) (0, 0)

def ipv6Text (address : List Nat) : String :=
  let shown (part : List Nat) : String :=
    ":".intercalate (part.map fun number => String.ofList (Nat.toDigits 16 number))
  match longestZeroRun address with
  | (place, length) =>
    if length < 2 then shown address
    else shown (address.take place) ++ "::" ++ shown (address.drop (place + length))

end ApiProxy.Url
