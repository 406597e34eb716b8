/-! Punycode. The ASCII characters of a label come first; then, in the order of their code points, the places
of the others, each as the number of steps from the one before in digits of base 36. How many digits a number
takes is estimated from the numbers before it. -/

namespace ApiProxy.Url.Domain.Punycode

def digit (value : Nat) : Char := "abcdefghijklmnopqrstuvwxyz0123456789".toList.getD value 'a'

def digitValue? (c : Char) : Option Nat :=
  if 'a' ≤ c && c ≤ 'z' then some (c.toNat - 97)
  else if 'A' ≤ c && c ≤ 'Z' then some (c.toNat - 65)
  else if '0' ≤ c && c ≤ '9' then some (c.toNat - 22)
  else none

/-- A digit below the threshold of its place ends a number. -/
def threshold (bias place : Nat) : Nat :=
  if place ≤ bias then 1 else if bias + 26 ≤ place then 26 else place - bias

theorem threshold_bounds (bias place : Nat) : 1 ≤ threshold bias place ∧ threshold bias place ≤ 26 := by
  unfold threshold
  split
  · omega
  · split <;> omega

def biasOf (place delta : Nat) : Nat :=
  if 455 < delta then biasOf (place + 36) (delta / 35) else place + 36 * delta / (delta + 38)
termination_by delta
decreasing_by omega

def adapt (delta count : Nat) (isFirst : Bool) : Nat :=
  let scaled := if isFirst then delta / 700 else delta / 2
  biasOf 0 (scaled + scaled / count)

def number (bias place value : Nat) : List Char :=
  let least := threshold bias place
  if value < least then [digit value]
  else digit (least + (value - least) % (36 - least)) :: number bias (place + 36) ((value - least) / (36 - least))
termination_by value
decreasing_by
  have bounds := threshold_bounds bias place
  have := Nat.div_le_self (value - threshold bias place) (36 - threshold bias place)
  omega

structure Encoder where
  output : List Char
  delta : Nat
  bias : Nat
  handled : Nat
deriving DecidableEq, Repr

/-- Passes one character of the label while the places of `code` are written. -/
def Encoder.pass (asciiCount code : Nat) (encoder : Encoder) (c : Char) : Encoder :=
  if c.toNat < code then { encoder with delta := encoder.delta + 1 }
  else if c.toNat = code then
    { output := encoder.output ++ number encoder.bias 36 encoder.delta
      delta := 0
      bias := adapt encoder.delta (encoder.handled + 1) (encoder.handled = asciiCount)
      handled := encoder.handled + 1 }
  else encoder

/-- Writes the places of all characters from `first` on. -/
def Encoder.passAll (asciiCount : Nat) (label : List Char) (encoder : Encoder) (first : Nat) : List Nat → Encoder
  | [] => encoder
  | code :: codes =>
    let stepped := { encoder with delta := encoder.delta + (code - first) * (encoder.handled + 1) }
    let passed := label.foldl (Encoder.pass asciiCount code) stepped
    Encoder.passAll asciiCount label { passed with delta := passed.delta + 1 } (code + 1) codes

def isAscii (c : Char) : Bool := c.toNat < 0x80

def encode (label : List Char) : List Char :=
  let ascii := label.filter isAscii
  let codes := (((label.filter fun c => !isAscii c).map Char.toNat).mergeSort).eraseDups
  let encoder := Encoder.passAll ascii.length label ⟨[], 0, 72, ascii.length⟩ 0x80 codes
  (if ascii.isEmpty then [] else ascii ++ ['-']) ++ encoder.output

/-- Reads a number, adding it to `value`; gives back the rest of the text. -/
def readNumber? (bias place weight value : Nat) : List Char → Option (Nat × List Char)
  | [] => none
  | c :: rest =>
    (digitValue? c).bind fun read =>
      let least := threshold bias place
      if read < least then some (value + read * weight, rest)
      else readNumber? bias (place + 36) (weight * (36 - least)) (value + read * weight) rest

theorem readNumber?_rest_lt {text rest : List Char} {bias place weight value total : Nat}
    (read : readNumber? bias place weight value text = some (total, rest)) : rest.length < text.length := by
  induction text generalizing place weight value with
  | nil => simp [readNumber?] at read
  | cons c tail ih =>
    simp only [readNumber?, Option.bind_eq_some_iff] at read
    obtain ⟨found, _, read⟩ := read
    split at read
    · simp only [Option.some.injEq, Prod.mk.injEq] at read
      simp [read.2]
    · have := ih read
      simp only [List.length_cons]
      omega

/-- Puts characters at the places that are read, from the character `code` and the place `place` on. -/
def insertAll? (label : List Char) (code place bias : Nat) (text : List Char) : Option (List Char) :=
  if text.isEmpty then some label
  else
    match _h : readNumber? bias 36 1 place text with
    | none => none
    | some (total, rest) =>
      let count := label.length + 1
      let next := code + total / count
      if next.isValidChar then
        let spot := total % count
        insertAll? (label.take spot ++ Char.ofNat next :: label.drop spot) next (spot + 1)
          (adapt (total - place) count (place = 0)) rest
      else none
termination_by text.length
decreasing_by exact readNumber?_rest_lt _h

/-- The ASCII characters stand in front of the last hyphen, if anything does. -/
def decode? (text : List Char) : Option (List Char) :=
  match text.reverse.span (· ≠ '-') with
  | (numbers, _ :: ascii) =>
    if ascii.isEmpty then insertAll? [] 0x80 0 72 text
    else insertAll? ascii.reverse 0x80 0 72 numbers.reverse
  | (_, []) => insertAll? [] 0x80 0 72 text

end ApiProxy.Url.Domain.Punycode
