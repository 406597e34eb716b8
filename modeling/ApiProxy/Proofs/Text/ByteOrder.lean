import Mathlib.Tactic.SplitIfs
import Mathlib.Data.String.Basic

/-! The order of texts is the order of their UTF-8 bytes. A longer encoding has the greater first byte, and
codes of one length are compared digit by digit, six bits to a digit, so the encoding of the smaller character
is smaller whatever follows it. -/

namespace ApiProxy

/-- The bytes of a text in UTF-8. -/
def utf8Bytes (text : String) : List UInt8 := text.toUTF8.data.toList

theorem utf8Bytes_eq (text : String) : utf8Bytes text = text.toList.flatMap String.utf8EncodeChar := by
  rw [utf8Bytes, String.toUTF8_eq_toByteArray, ← String.utf8Encode_toList]
  simp [List.utf8Encode]

theorem toNat_ofNat_of_lt {code : Nat} (h : code < 256) : (UInt8.ofNat code).toNat = code := by
  rw [UInt8.toNat_ofNat', Nat.mod_eq_of_lt h]

theorem ofNat_lt_ofNat {a b : Nat} (ha : a < 256) (hb : b < 256) :
    UInt8.ofNat a < UInt8.ofNat b ↔ a < b := by
  rw [UInt8.lt_iff_toNat_lt, toNat_ofNat_of_lt ha, toNat_ofNat_of_lt hb]

theorem ofNat_eq_ofNat {a b : Nat} (ha : a < 256) (hb : b < 256) :
    UInt8.ofNat a = UInt8.ofNat b ↔ a = b := by
  rw [← UInt8.toNat_inj, toNat_ofNat_of_lt ha, toNat_ofNat_of_lt hb]

theorem code_lt (c : Char) : c.val.toNat < 0x110000 := by
  have hvalid := c.valid
  simp only [UInt32.isValidChar, Nat.isValidChar] at hvalid
  omega

/-- Of two numbers in base 64 the smaller one has the smaller leading part, or the same one and the smaller
last digit. -/
theorem leading_lt_or_last_lt {m n : Nat} (h : m < n) :
    m / 64 < n / 64 ∨ m / 64 = n / 64 ∧ m % 64 < n % 64 := by
  omega

theorem encode_append_lt {c d : Char} (h : c < d) (after after' : List UInt8) :
    String.utf8EncodeChar c ++ after < String.utf8EncodeChar d ++ after' := by
  have hcode : c.val.toNat < d.val.toNat := h
  have hbound : d.val.toNat < 0x110000 := code_lt d
  unfold String.utf8EncodeChar
  generalize c.val.toNat = m at *
  generalize d.val.toNat = n at *
  have hm : m / 4096 = m / 64 / 64 ∧ m / 262144 = m / 64 / 64 / 64 := by omega
  have hn : n / 4096 = n / 64 / 64 ∧ n / 262144 = n / 64 / 64 / 64 := by omega
  have hfirst : m / 64 / 64 / 64 < 8 ∧ n / 64 / 64 / 64 < 8 := by omega
  have hlast := leading_lt_or_last_lt hcode
  have hthird : m / 64 < n / 64 → _ := leading_lt_or_last_lt
  have hsecond : m / 64 / 64 < n / 64 / 64 → _ := leading_lt_or_last_lt
  dsimp only
  rw [hm.1, hm.2, hn.1, hn.2, Nat.mod_eq_of_lt hfirst.1, Nat.mod_eq_of_lt hfirst.2]
  -- one goal for each pair of lengths; those in which the smaller code is longer contradict `hcode`
  split_ifs <;>
    simp (disch := omega) only [List.cons_append, List.nil_append, List.cons_lt_cons_iff, ofNat_lt_ofNat,
      ofNat_eq_ofNat] <;>
    omega

theorem encode_ne_nil (c : Char) : String.utf8EncodeChar c ≠ [] := by
  unfold String.utf8EncodeChar
  dsimp only
  split_ifs <;> simp

theorem flatMap_encode_lt {left right : List Char} (h : left < right) :
    left.flatMap String.utf8EncodeChar < right.flatMap String.utf8EncodeChar := by
  induction left generalizing right with
  | nil =>
      cases right with
      | nil => exact absurd h (List.not_lt_nil [])
      | cons d right =>
          rw [List.flatMap_nil, List.flatMap_cons]
          cases hd : String.utf8EncodeChar d with
          | nil => exact absurd hd (encode_ne_nil d)
          | cons byte bytes => exact List.nil_lt_cons byte _
  | cons c left ih =>
      cases right with
      | nil => exact absurd h (List.not_lt_nil _)
      | cons d right =>
          rw [List.flatMap_cons, List.flatMap_cons]
          rcases List.cons_lt_cons_iff.mp h with hlt | ⟨rfl, hrest⟩
          · exact encode_append_lt hlt _ _
          · exact List.append_left_lt (ih hrest)

theorem utf8Bytes_lt {a b : String} (h : a < b) : utf8Bytes a < utf8Bytes b := by
  rw [utf8Bytes_eq, utf8Bytes_eq]
  exact flatMap_encode_lt h

end ApiProxy
