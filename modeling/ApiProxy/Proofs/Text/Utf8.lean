import ApiProxy.Proofs.Text.ByteOrder
import ApiProxy.Unicode.Utf8

/-! Reading the bytes of a text back. The bytes of a character are announced by the first of them, so a text is read
as it was written; and no byte of ASCII is ever taken for a part of another character, so whatever stands before
such a byte is read without regard to it. -/

namespace ApiProxy.Unicode

theorem length_announced_le (low high count : Nat) (bytes : List UInt8) :
    (announced low high count bytes).length ≤ bytes.length := by
  induction bytes generalizing low high count with
  | nil => cases count <;> exact Nat.le_refl 0
  | cons byte bytes ih =>
      cases count with
      | zero => exact Nat.zero_le _
      | succ count =>
          rw [announced]
          split
          · exact Nat.succ_le_succ (ih 0x80 0xBF count)
          · exact Nat.zero_le _

theorem announced_append_ascii {low high : Nat} (hlow : 0x80 ≤ low) (count : Nat) {bytes : List UInt8}
    {byte : UInt8} (hbyte : byte.toNat < 0x80) (rest : List UInt8) :
    announced low high count (bytes ++ byte :: rest) = announced low high count bytes := by
  induction bytes generalizing low high count with
  | nil =>
      cases count with
      | zero => rfl
      | succ count =>
          rw [List.nil_append, announced, if_neg]
          · rfl
          · have hless : ¬low ≤ byte.toNat := by omega
            simp [hless]
  | cons first bytes ih =>
      cases count with
      | zero => rfl
      | succ count => simp only [List.cons_append, announced, ih (Nat.le_refl 0x80)]

theorem announcement?_low {lead : Nat} {expected : Announcement} (h : announcement? lead = some expected) :
    0x80 ≤ expected.low ∨ expected.count = 0 := by
  unfold announcement? at h
  grind

theorem characters_ascii {byte : UInt8} (hbyte : byte.toNat < 0x80) (rest : List UInt8) :
    characters (byte :: rest) = some (Char.ofNat byte.toNat) :: characters rest := by
  rw [characters]
  simp [announcement?, hbyte, announced]

/-- A byte of ASCII stands for itself wherever it comes. -/
theorem characters_append_ascii {byte : UInt8} (hbyte : byte.toNat < 0x80) (bytes rest : List UInt8) :
    characters (bytes ++ byte :: rest) =
      characters bytes ++ some (Char.ofNat byte.toNat) :: characters rest := by
  fun_induction characters bytes with
  | case1 => exact characters_ascii hbyte rest
  | case2 lead bytes hnone ih =>
      rw [List.cons_append, characters, hnone]
      simp only [ih, List.cons_append]
  | case3 lead bytes expected hsome found code character ih =>
      have hfound : announced expected.low expected.high expected.count (bytes ++ byte :: rest) = found := by
        rcases announcement?_low hsome with hlow | hcount
        · exact announced_append_ascii hlow _ hbyte rest
        · simp only [found, hcount, announced]
      rw [List.cons_append, characters, hsome]
      simp only [hfound]
      rw [List.drop_append_of_le_length (length_announced_le _ _ _ _), ih]
      simp only [character, dite_eq_ite]
      rfl

theorem announced_ofNat (low high code : Nat) (hlow : low ≤ code) (hhigh : code ≤ high) (hbound : high < 256)
    (count : Nat) (bytes : List UInt8) :
    announced low high (count + 1) (UInt8.ofNat code :: bytes) = code :: announced 0x80 0xBF count bytes := by
  have hcode : (UInt8.ofNat code).toNat = code := toNat_ofNat_of_lt (Nat.lt_of_le_of_lt hhigh hbound)
  rw [announced, hcode, if_pos]
  simp [hlow, hhigh]

theorem announced_digit (code count : Nat) (bytes : List UInt8) :
    announced 0x80 0xBF (count + 1) (UInt8.ofNat (code % 64 + 128) :: bytes) =
      (code % 64 + 128) :: announced 0x80 0xBF count bytes :=
  announced_ofNat 0x80 0xBF _ (by omega) (by omega) (by omega) count bytes

/-- A character whose bytes all come as announced. -/
theorem characters_of_announced (bytes rest : List UInt8) {lead : Nat} {expected : Announcement} {found : List Nat}
    (hlead : lead < 256) (h : announcement? lead = some expected)
    (hfound : announced expected.low expected.high expected.count (bytes ++ rest) = found)
    (hcount : found.length = expected.count) (hlength : bytes.length = expected.count) :
    characters (UInt8.ofNat lead :: (bytes ++ rest)) =
      some (Char.ofNat (found.foldl (fun code byte => code * 64 + (byte - 0x80)) expected.bits)) ::
        characters rest := by
  rw [characters, toNat_ofNat_of_lt hlead, h]
  simp only [hfound, hcount, if_pos]
  rw [← hlength, List.drop_left]

theorem announcement?_two : ∀ digit < 32, 2 ≤ digit →
    announcement? (digit + 0xC0) = some ⟨digit, 1, 0x80, 0xBF⟩ := by
  decide

theorem announcement?_three : ∀ digit < 16, announcement? (digit + 0xE0) =
    some ⟨digit, 2, if digit = 0 then 0xA0 else 0x80, if digit = 0xD then 0x9F else 0xBF⟩ := by
  decide

theorem announcement?_four : ∀ digit < 5, announcement? (digit + 0xF0) =
    some ⟨digit, 3, if digit = 0 then 0x90 else 0x80, if digit = 4 then 0x8F else 0xBF⟩ := by
  decide

/-- The bytes of a character are read as that character, whatever follows them. -/
theorem characters_encodeChar (c : Char) (rest : List UInt8) :
    characters (String.utf8EncodeChar c ++ rest) = some c :: characters rest := by
  have hbound := code_lt c
  have hvalid := c.valid
  have hchar : Char.ofNat c.val.toNat = c := c.ofNat_toNat
  simp only [UInt32.isValidChar, Nat.isValidChar] at hvalid
  unfold String.utf8EncodeChar
  generalize c.val.toNat = code at *
  subst hchar
  dsimp only
  split_ifs with hone htwo hthree
  · have hbyte : (UInt8.ofNat code).toNat = code := toNat_ofNat_of_lt (by omega)
    have hascii := characters_ascii (Nat.lt_of_le_of_lt (Nat.le_of_eq hbyte) (by omega)) rest
    rwa [hbyte] at hascii
  · have hlead := announcement?_two (code / 64 % 32) (by omega) (by omega)
    refine (characters_of_announced [_] rest (by omega) hlead (announced_digit code 0 rest) rfl rfl).trans ?_
    refine congrArg (fun code => some (Char.ofNat code) :: characters rest) ?_
    show code / 64 % 32 * 64 + (code % 64 + 128 - 0x80) = code
    omega
  · have hlead := announcement?_three (code / 4096 % 16) (by omega)
    have hsecond := announced_ofNat (if code / 4096 % 16 = 0 then 0xA0 else 0x80)
      (if code / 4096 % 16 = 0xD then 0x9F else 0xBF) (code / 64 % 64 + 128)
      (by split_ifs <;> omega) (by split_ifs <;> omega) (by split_ifs <;> omega) 1
      (UInt8.ofNat (code % 64 + 128) :: rest)
    rw [announced_digit] at hsecond
    refine (characters_of_announced [_, _] rest (by omega) hlead hsecond rfl rfl).trans ?_
    refine congrArg (fun code => some (Char.ofNat code) :: characters rest) ?_
    show (code / 4096 % 16 * 64 + (code / 64 % 64 + 128 - 0x80)) * 64 + (code % 64 + 128 - 0x80) = code
    omega
  · have hlead := announcement?_four (code / 262144 % 8) (by omega)
    have hsecond := announced_ofNat (if code / 262144 % 8 = 0 then 0x90 else 0x80)
      (if code / 262144 % 8 = 4 then 0x8F else 0xBF) (code / 4096 % 64 + 128)
      (by split_ifs <;> omega) (by split_ifs <;> omega) (by split_ifs <;> omega) 2
      (UInt8.ofNat (code / 64 % 64 + 128) :: UInt8.ofNat (code % 64 + 128) :: rest)
    rw [announced_digit, announced_digit] at hsecond
    refine (characters_of_announced [_, _, _] rest (by omega) hlead hsecond rfl rfl).trans ?_
    refine congrArg (fun code => some (Char.ofNat code) :: characters rest) ?_
    show ((code / 262144 % 8 * 64 + (code / 4096 % 64 + 128 - 0x80)) * 64 + (code / 64 % 64 + 128 - 0x80)) * 64 +
      (code % 64 + 128 - 0x80) = code
    omega

theorem decode?_encode (text : List Char) : decode? (text.flatMap String.utf8EncodeChar) = some text := by
  rw [decode?]
  induction text with
  | nil => simp [characters]
  | cons c text ih =>
      rw [List.flatMap_cons, characters_encodeChar, List.mapM_cons, ih]
      rfl

theorem decodeLossy_encode_append (text : List Char) (bytes : List UInt8) :
    decodeLossy (text.flatMap String.utf8EncodeChar ++ bytes) = text ++ decodeLossy bytes := by
  induction text with
  | nil => rfl
  | cons c text ih =>
      rw [decodeLossy, List.flatMap_cons, List.append_assoc, characters_encodeChar, List.map_cons]
      exact congrArg (c :: ·) ih

theorem decodeLossy_append_ascii {byte : UInt8} (hbyte : byte.toNat < 0x80) (bytes rest : List UInt8) :
    decodeLossy (bytes ++ byte :: rest) =
      decodeLossy bytes ++ Char.ofNat byte.toNat :: decodeLossy rest := by
  rw [decodeLossy, characters_append_ascii hbyte, List.map_append, List.map_cons]
  rfl

end ApiProxy.Unicode
