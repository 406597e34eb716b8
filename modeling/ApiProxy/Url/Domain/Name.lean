import ApiProxy.Pieces
import ApiProxy.Unicode.Normal
import ApiProxy.Url.Domain.Character
import ApiProxy.Url.Domain.Mapping
import ApiProxy.Url.Domain.Punycode

/-! Internationalized host names in their ASCII form, by Unicode Technical Standard 46 without the transitional
mapping. A name is mapped and normalized; each of its labels has to be valid and to obey the rule on directions, and a
label that is not ASCII is written in Punycode. -/

namespace ApiProxy.Url.Domain

open Unicode

def aceMark : List Char := ['x', 'n', '-', '-']

def followsVirama (before : List Char) : Bool := before.head?.any fun c => combiningClass c = 9

/-- Whether letters join across a place in a label, whose first half is reversed. -/
def joinsAcross (before after : List Char) : Bool :=
  (before.dropWhile isTransparent).head?.any joinsNext && (after.dropWhile isTransparent).head?.any joinsPrevious

/-- Joiners stand behind a virama, non-joiners also between letters that would join. -/
def joinersFit (before : List Char) : List Char → Bool
  | [] => true
  | c :: after =>
    (if c = joiner then followsVirama before
      else if c = nonJoiner then followsVirama before || joinsAcross before after
      else true) && joinersFit (c :: before) after

/-- What every label has to be: normalized, made of characters that are mapped to themselves, and neither cut by a dot
nor begun by a mark or by the sign of Punycode. -/
def isValid (label : List Char) : Bool :=
  normalized label == label && !aceMark.isPrefixOf label && !label.contains '.' && !label.head?.any isMark &&
    label.all (fun c => isAdmitted c && mapped c == [c]) && joinersFit [] label

/-- A label that is written in Punycode must need it. -/
def decodeLabel? (text : List Char) : Option (List Char) :=
  if text.all Punycode.isAscii then (Punycode.decode? text).filter fun label => !label.all Punycode.isAscii else none

def unicodeLabel? (label : List Char) : Option (List Char) :=
  let shown? := if aceMark.isPrefixOf label then decodeLabel? (label.drop aceMark.length) else some label
  shown?.filter isValid

/-- The rule on directions for a label of a name that is written from right to left somewhere. -/
def obeysDirection (label : List Char) : Bool :=
  let directions := label.map direction
  let last? := (directions.reverse.dropWhile (· = .nonspacing)).head?
  match directions.head? with
  | none => true
  | some .rightToLeft =>
    !directions.contains .leftToRight && !(directions.contains .arabicNumber && directions.contains .europeanNumber)
      && last? ∈ [some .rightToLeft, some .arabicNumber, some .europeanNumber]
  | some .leftToRight =>
    !directions.contains .rightToLeft && !directions.contains .arabicNumber
      && last? ∈ [some .leftToRight, some .europeanNumber]
  | some _ => false

def hasRightToLeft (label : List Char) : Bool :=
  label.any fun c => direction c = .rightToLeft || direction c = .arabicNumber

def asciiLabel (label : List Char) : List Char :=
  if label.all Punycode.isAscii then label else aceMark ++ Punycode.encode label

/-- Characters that have a meaning of their own in a URL cannot be part of a name. -/
def isForbidden (c : Char) : Bool :=
  c.toNat ≤ 0x20 || c.toNat = 0x7F || c ∈ ['%', '#', '/', ':', '<', '>', '?', '@', '[', '\\', ']', '^', '|']

def toAscii? (name : List Char) : Option (List Char) := do
  if !name.all isAdmitted then none
  let labels ← (pieces (· = '.') (normalized (name.flatMap mapped))).mapM unicodeLabel?
  if labels.any hasRightToLeft && !labels.all obeysDirection then none
  let ascii := joinPieces '.' (labels.map asciiLabel)
  if ascii.any isForbidden then none else some ascii

end ApiProxy.Url.Domain
