import ApiProxy.Unicode.CombiningClass
import ApiProxy.Unicode.Decomposition

/-! Normalization Form C. A text is decomposed, its marks are put into the order of their combining classes,
and each character then takes up those that follow it and compose with it, unless a mark of at least the same
class stands between them. -/

namespace ApiProxy.Unicode

def isSyllable (code : Nat) : Bool := 0xAC00 ≤ code && code ≤ 0xD7A3

/-- The letters of a Hangul syllable. -/
def syllableLetters (code : Nat) : List Nat :=
  let place := code - 0xAC00
  let letters := [0x1100 + place / 588, 0x1161 + place % 588 / 28]
  if place % 28 = 0 then letters else letters ++ [0x11A7 + place % 28]

def halves? (code : Nat) : Option (Nat × Nat) :=
  composingPairs.findSome? fun pairs =>
    (pairs.wholes.find? fun entry => entry.2 == code).map fun entry => (entry.1, pairs.second)

def decomposeStep (code : Nat) : List Nat :=
  if isSyllable code then syllableLetters code
  else
    match halves? code with
    | some (first, second) => [first, second]
    | none =>
      match singleton? singletons code with
      | some value => [value]
      | none =>
        match separations.find? fun separation => separation.code == code with
        | some separation => separation.values
        | none => [code]

/-- No character has more than three marks on it, so three steps take it apart. -/
def decompose (code : Nat) : List Nat :=
  ((decomposeStep code).flatMap decomposeStep).flatMap decomposeStep

/-- Lets a mark pass those marks of a higher class that stand directly before it; the text is reversed. -/
def settle (mark : Char) : List Char → List Char
  | [] => [mark]
  | last :: earlier =>
    if 0 < combiningClass mark && combiningClass mark < combiningClass last then last :: settle mark earlier
    else mark :: last :: earlier

def inOrder (text : List Char) : List Char := (text.foldl (fun earlier c => settle c earlier) []).reverse

def composeSyllable? (first second : Nat) : Option Nat :=
  if 0x1100 ≤ first && first ≤ 0x1112 && 0x1161 ≤ second && second ≤ 0x1175 then
    some (0xAC00 + (first - 0x1100) * 588 + (second - 0x1161) * 28)
  else if isSyllable first && (first - 0xAC00) % 28 = 0 && 0x11A8 ≤ second && second ≤ 0x11C2 then
    some (first + (second - 0x11A7))
  else none

def compose? (first second : Char) : Option Char :=
  let whole? := composeSyllable? first.toNat second.toNat <|>
    (composingPairs.find? fun pairs => pairs.second == second.toNat).bind fun pairs =>
      pairs.wholes.lookup first.toNat
  whole?.map Char.ofNat

/-- Composes what follows a character; the marks that it has not taken up are kept in order. -/
def composeAfter (base : Char) (marks : List Char) : List Char → List Char
  | [] => base :: marks
  | c :: rest =>
    let isBlocked := marks.getLast?.any fun mark => combiningClass c ≤ combiningClass mark
    match if isBlocked then none else compose? base c with
    | some whole => composeAfter whole marks rest
    | none =>
      if combiningClass c = 0 then base :: marks ++ composeAfter c [] rest
      else composeAfter base (marks ++ [c]) rest

def composeAll (text : List Char) : List Char :=
  let marks := text.takeWhile fun c => combiningClass c ≠ 0
  match text.drop marks.length with
  | [] => marks
  | base :: rest => marks ++ composeAfter base [] rest

def normalized (text : List Char) : List Char :=
  composeAll (inOrder ((text.flatMap fun c => decompose c.toNat).map Char.ofNat))

end ApiProxy.Unicode
