/-! Bytes as characters. A first byte announces how many bytes follow it and in which bounds the next of them
lies; surrogates and needlessly long forms are outside these bounds. Where the announced bytes do not come,
those that did come are given up together, and reading goes on behind them. -/

namespace ApiProxy.Unicode

structure Announcement where
  bits : Nat
  count : Nat
  low : Nat
  high : Nat
deriving DecidableEq, Repr

def announcement? (lead : Nat) : Option Announcement :=
  if lead < 0x80 then some ⟨lead, 0, 0, 0⟩
  else if lead < 0xC2 then none
  else if lead < 0xE0 then some ⟨lead - 0xC0, 1, 0x80, 0xBF⟩
  else if lead = 0xE0 then some ⟨0, 2, 0xA0, 0xBF⟩
  else if lead = 0xED then some ⟨0xD, 2, 0x80, 0x9F⟩
  else if lead < 0xF0 then some ⟨lead - 0xE0, 2, 0x80, 0xBF⟩
  else if lead = 0xF0 then some ⟨0, 3, 0x90, 0xBF⟩
  else if lead < 0xF4 then some ⟨lead - 0xF0, 3, 0x80, 0xBF⟩
  else if lead = 0xF4 then some ⟨4, 3, 0x80, 0x8F⟩
  else none

/-- The bytes that come as announced, at most `count` of them. -/
def announced (low high : Nat) : Nat → List UInt8 → List Nat
  | count + 1, byte :: bytes =>
    if low ≤ byte.toNat && byte.toNat ≤ high then byte.toNat :: announced 0x80 0xBF count bytes else []
  | _, _ => []

/-- The characters that bytes stand for, with `none` for each fault. -/
def characters : List UInt8 → List (Option Char)
  | [] => []
  | lead :: bytes =>
    match announcement? lead.toNat with
    | none => none :: characters bytes
    | some expected =>
      let found := announced expected.low expected.high expected.count bytes
      let code := found.foldl (fun code byte => code * 64 + (byte - 0x80)) expected.bits
      let character := if found.length = expected.count then some (Char.ofNat code) else none
      character :: characters (bytes.drop found.length)
termination_by bytes => bytes.length
decreasing_by all_goals simp only [List.length_drop, List.length_cons]; omega

def decode? (bytes : List UInt8) : Option (List Char) := (characters bytes).mapM id

/-- Shows each fault as the replacement character. -/
def decodeLossy (bytes : List UInt8) : List Char := (characters bytes).map (·.getD '\uFFFD')

end ApiProxy.Unicode
