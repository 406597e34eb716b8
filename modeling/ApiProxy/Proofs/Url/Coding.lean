import ApiProxy.Proofs.Text.Utf8
import ApiProxy.Url.Coding

/-! Percent codes are read back. A text is its own decoding once it is encoded, provided that the percent sign is
encoded with it; and a text that is cut in front of a character that is no hexadecimal digit is decoded in two
halves. -/

namespace ApiProxy.Url

variable {isEncoded : Char → Bool}

theorem hexValue?_upperHexDigit : ∀ value < 16, hexValue? (upperHexDigit value) = some value := by
  decide

theorem upperHexDigit_isAlphanum : ∀ value < 16, (upperHexDigit value).isAlphanum = true := by
  decide

/-- Encoding a text brings in percent signs and digits only. -/
theorem mem_percentEncode_cases {text : List Char} {c : Char} (h : c ∈ percentEncode isEncoded text) :
    c = '%' ∨ c.isAlphanum = true ∨ c ∈ text ∧ isEncoded c = false := by
  obtain ⟨d, hd, hc⟩ := List.mem_flatMap.mp h
  split at hc
  · obtain ⟨byte, _, hbyte⟩ := List.mem_flatMap.mp hc
    have hlt : byte.toNat < 256 := byte.toNat_lt
    simp only [percentByte, List.mem_cons, List.not_mem_nil, or_false] at hbyte
    rcases hbyte with rfl | rfl | rfl
    · exact Or.inl rfl
    · exact Or.inr (Or.inl (upperHexDigit_isAlphanum _ (by omega)))
    · exact Or.inr (Or.inl (upperHexDigit_isAlphanum _ (by omega)))
  · next hplain =>
      cases List.mem_singleton.mp hc
      exact Or.inr (Or.inr ⟨hd, Bool.eq_false_iff.mpr hplain⟩)

theorem mem_percentEncode {text : List Char} {c : Char} (h : c ∈ percentEncode isEncoded text) :
    c = '%' ∨ c.isAlphanum = true ∨ isEncoded c = false :=
  (mem_percentEncode_cases h).imp_right (Or.imp_right And.right)

theorem percentDecode_percentByte (byte : UInt8) (rest : List Char) :
    percentDecode (percentByte byte ++ rest) = byte :: percentDecode rest := by
  have hbyte : byte.toNat < 256 := byte.toNat_lt
  rw [percentByte, List.cons_append, List.cons_append, List.cons_append, List.nil_append, percentDecode,
    hexValue?_upperHexDigit _ (by omega), hexValue?_upperHexDigit _ (by omega)]
  have hsum : byte.toNat / 16 * 16 + byte.toNat % 16 = byte.toNat := by omega
  simp only [hsum, UInt8.ofNat_toNat]

theorem percentDecode_bytes (bytes : List UInt8) (rest : List Char) :
    percentDecode (bytes.flatMap percentByte ++ rest) = bytes ++ percentDecode rest := by
  induction bytes with
  | nil => rfl
  | cons byte bytes ih =>
      rw [List.flatMap_cons, List.append_assoc, percentDecode_percentByte, ih, List.cons_append]

theorem percentDecode_cons {c : Char} (hc : c ≠ '%') (rest : List Char) :
    percentDecode (c :: rest) = String.utf8EncodeChar c ++ percentDecode rest := by
  rw [percentDecode]
  rintro high low after rfl
  exact absurd rfl hc

theorem percentDecode_percentEncode (hpercent : isEncoded '%' = true) (text rest : List Char) :
    percentDecode (percentEncode isEncoded text ++ rest) =
      text.flatMap String.utf8EncodeChar ++ percentDecode rest := by
  induction text with
  | nil => rfl
  | cons c text ih =>
      rw [percentEncode] at ih ⊢
      rw [List.flatMap_cons, List.flatMap_cons, List.append_assoc, List.append_assoc, ← ih]
      split
      · exact percentDecode_bytes _ _
      · next hplain =>
          refine percentDecode_cons ?_ _
          rintro rfl
          exact hplain hpercent

theorem none_or_none {high low : Option Nat} (h : ∀ first second, high = some first → low = some second → False) :
    high = none ∨ low = none := by
  cases high with
  | none => exact Or.inl rfl
  | some first =>
      cases low with
      | none => exact Or.inr rfl
      | some second => exact (h first second rfl rfl).elim

theorem percentDecode_percent {rest : List Char}
    (h : ∀ high low after, rest = high :: low :: after → hexValue? high = none ∨ hexValue? low = none) :
    percentDecode ('%' :: rest) = String.utf8EncodeChar '%' ++ percentDecode rest := by
  match rest with
  | [] => simp [percentDecode]
  | [c] => simp [percentDecode]
  | high :: low :: after =>
      rw [percentDecode]
      split
      · next hhigh hlow => simp [hhigh, hlow] at h
      · rfl

/-- A character that is no hexadecimal digit is not reached by a percent sign in front of it. -/
theorem percentDecode_append {c : Char} (hc : hexValue? c = none) (front back : List Char) :
    percentDecode (front ++ c :: back) = percentDecode front ++ percentDecode (c :: back) := by
  fun_induction percentDecode front with
  | case1 => rfl
  | case2 high low rest _ _ hlow hhigh ih =>
      simp only [List.cons_append, percentDecode, hhigh, hlow, ih]
  | case3 high low rest hnone ih =>
      rw [List.append_assoc, ← ih, List.cons_append, percentDecode_percent]
      rintro _ _ _ ⟨⟩
      exact none_or_none hnone
  | case4 d rest hshort ih =>
      by_cases hd : d = '%'
      · subst hd
        rw [List.cons_append, percentDecode_percent, ih, List.append_assoc]
        -- fewer than two characters stand between the percent sign and `c`
        intro high low after heq
        match rest with
        | [] =>
            cases heq
            exact Or.inl hc
        | [_] =>
            cases heq
            exact Or.inr hc
        | high :: low :: rest => exact (hshort high low rest rfl rfl).elim
      · rw [List.cons_append, percentDecode_cons hd, ih, List.append_assoc]

theorem percentDecode_eq_nil_iff {text : List Char} : percentDecode text = [] ↔ text = [] := by
  fun_cases percentDecode text <;> simp_all

/-! ### Texts that are encoded already -/

/-- A set of characters that leaves out what codes are written with. -/
def SparesCodes (isEncoded : Char → Bool) : Prop := ∀ c, c = '%' ∨ c.isAlphanum = true → isEncoded c = false

theorem isUnprintable_of_isAlphanum {c : Char} (h : c.isAlphanum = true) : isUnprintable c = false := by
  have hbounds : (decide (c.val ≥ 'A'.val ∧ c.val ≤ 'Z'.val) || decide (c.val ≥ 'a'.val) && decide (c.val ≤ 'z'.val) ||
      decide (c.val ≥ '0'.val) && decide (c.val ≤ '9'.val)) = true := h
  have hcode : c.toNat = c.val.toNat := rfl
  simp only [Bool.or_eq_true, Bool.and_eq_true, decide_eq_true_eq, ge_iff_le, UInt32.le_iff_toNat_le, Char.reduceVal,
    UInt32.reduceToNat] at hbounds
  simp only [isUnprintable, Bool.or_eq_false_iff, decide_eq_false_iff_not]
  omega

theorem sparesCodes_unprintable : SparesCodes isUnprintable := by
  rintro c (rfl | hc)
  · rfl
  · exact isUnprintable_of_isAlphanum hc

/-- Marks that codes are not written with may be encoded too. -/
theorem SparesCodes.or_marks (h : SparesCodes isEncoded) {marks : List Char}
    (hmarks : marks.all fun mark => mark ≠ '%' && !mark.isAlphanum) :
    SparesCodes fun c => isEncoded c || decide (c ∈ marks) := by
  intro c hc
  have hmark : c ∉ marks := by
    intro hmem
    have hplain := List.all_eq_true.mp hmarks c hmem
    simp only [Bool.and_eq_true, decide_eq_true_eq, Bool.not_eq_true'] at hplain
    rcases hc with rfl | hc
    · exact hplain.1 rfl
    · rw [hplain.2] at hc
      cases hc
  exact Bool.or_eq_false_iff.mpr ⟨h c hc, decide_eq_false hmark⟩

theorem sparesCodes_query : SparesCodes isEncodedInQuery := sparesCodes_unprintable.or_marks (by decide)

theorem sparesCodes_specialQuery : SparesCodes isEncodedInSpecialQuery := by
  intro c hc
  have hquotation : ['\''].all fun mark => mark ≠ '%' && !mark.isAlphanum := by decide
  simpa [isEncodedInSpecialQuery] using sparesCodes_query.or_marks hquotation c hc

theorem sparesCodes_fragment : SparesCodes isEncodedInFragment := sparesCodes_unprintable.or_marks (by decide)

theorem sparesCodes_path : SparesCodes isEncodedInPath := sparesCodes_fragment.or_marks (by decide)

theorem sparesCodes_credentials : SparesCodes isEncodedInCredentials := sparesCodes_path.or_marks (by decide)

/-- A printable character of ASCII, and no blank. -/
def IsVisible (c : Char) : Prop := 0x20 < c.toNat ∧ c.toNat < 0x7F

instance (c : Char) : Decidable (IsVisible c) := inferInstanceAs (Decidable (_ ∧ _))

theorem isVisible_of_printable {c : Char} (h : isUnprintable c = false) (hblank : c ≠ ' ') : IsVisible c := by
  have hcode : c.toNat ≠ 0x20 := fun hcode => hblank (Char.toNat_inj.mp hcode)
  simp only [isUnprintable, Bool.or_eq_false_iff, decide_eq_false_iff_not] at h
  exact ⟨by omega, by omega⟩

theorem isVisible_of_fragment {c : Char} (h : isEncodedInFragment c = false) : IsVisible c := by
  simp only [isEncodedInFragment, Bool.or_eq_false_iff, decide_eq_false_iff_not, List.mem_cons, not_or] at h
  exact isVisible_of_printable h.1 h.2.1

theorem isVisible_of_specialQuery {c : Char} (h : isEncodedInSpecialQuery c = false) : IsVisible c ∧ c ≠ '#' := by
  simp only [isEncodedInSpecialQuery, isEncodedInQuery, Bool.or_eq_false_iff, decide_eq_false_iff_not, List.mem_cons,
    not_or] at h
  exact ⟨isVisible_of_printable h.1.1 h.1.2.1, h.1.2.2.2.1⟩

theorem isVisible_of_path {c : Char} (h : isEncodedInPath c = false) : IsVisible c ∧ c ∉ ['#', '?'] := by
  simp only [isEncodedInPath, Bool.or_eq_false_iff, decide_eq_false_iff_not, List.mem_cons, not_or] at h
  exact ⟨isVisible_of_fragment h.1, by simp [h.2]⟩

theorem isVisible_of_credentials {c : Char} (h : isEncodedInCredentials c = false) :
    IsVisible c ∧ c ∉ ['#', '?', '/', ':', '@', '\\'] := by
  simp only [isEncodedInCredentials, Bool.or_eq_false_iff, decide_eq_false_iff_not, List.mem_cons, not_or] at h
  obtain ⟨hvisible, hmarks⟩ := isVisible_of_path h.1
  simp only [List.mem_cons, List.not_mem_nil, or_false, not_or] at hmarks
  exact ⟨hvisible, by simp [h.2, hmarks]⟩

theorem isEncoded_of_mem_percentEncode (h : SparesCodes isEncoded) {text : List Char} {c : Char}
    (hc : c ∈ percentEncode isEncoded text) : isEncoded c = false := by
  rcases mem_percentEncode hc with hpercent | halphanum | hplain
  · exact h c (Or.inl hpercent)
  · exact h c (Or.inr halphanum)
  · exact hplain

theorem percentEncode_of_plain {text : List Char} (h : ∀ c ∈ text, isEncoded c = false) :
    percentEncode isEncoded text = text := by
  induction text with
  | nil => rfl
  | cons c text ih =>
      rw [List.forall_mem_cons] at h
      rw [percentEncode] at ih ⊢
      rw [List.flatMap_cons, ih h.2, h.1]
      rfl

theorem exists_percentEncode_cons {c : Char} (hc : isEncoded c = true) (text : List Char) :
    ∃ tail, percentEncode isEncoded (c :: text) = '%' :: tail := by
  cases hbytes : String.utf8EncodeChar c with
  | nil => exact absurd hbytes String.utf8EncodeChar_ne_nil
  | cons byte bytes =>
      rw [percentEncode, List.flatMap_cons, if_pos hc, hbytes, List.flatMap_cons, percentByte]
      exact ⟨_, rfl⟩

theorem percentEncode_cons_plain {c : Char} (hc : isEncoded c = false) (text : List Char) :
    percentEncode isEncoded (c :: text) = c :: percentEncode isEncoded text := by
  rw [percentEncode, List.flatMap_cons, hc]
  rfl

/-- No digits of a code are brought behind a percent sign that had none. -/
theorem percentEncode_fault {text : List Char}
    (h : ∀ high low after, text = high :: low :: after → hexValue? high = none ∨ hexValue? low = none) :
    ∀ high low after, percentEncode isEncoded text = high :: low :: after →
      hexValue? high = none ∨ hexValue? low = none := by
  intro high low after htext
  cases text with
  | nil => cases htext
  | cons c text =>
      cases hc : isEncoded c with
      | true =>
          obtain ⟨tail, htail⟩ := exists_percentEncode_cons hc text
          rw [htail, List.cons.injEq] at htext
          exact Or.inl (htext.1 ▸ rfl)
      | false =>
          rw [percentEncode_cons_plain hc, List.cons.injEq] at htext
          cases text with
          | nil => cases htext.2
          | cons d text =>
              cases hd : isEncoded d with
              | true =>
                  obtain ⟨tail, htail⟩ := exists_percentEncode_cons hd text
                  rw [htail, List.cons.injEq] at htext
                  exact Or.inr (htext.2.1 ▸ rfl)
              | false =>
                  rw [percentEncode_cons_plain hd, List.cons.injEq] at htext
                  exact h high low text (by rw [htext.1, htext.2.1])

theorem exists_ascii {c : Char} (h : c.toNat < 128) : ∃ code < 128, c = Char.ofNat code :=
  ⟨c.toNat, h, c.ofNat_toNat.symm⟩

theorem toNat_lt_of_hexValue? {c : Char} {value : Nat} (h : hexValue? c = some value) : c.toNat < 128 := by
  have hcode : c.toNat = c.val.toNat := rfl
  have hbounds : ('9'.val.toNat, 'F'.val.toNat, 'f'.val.toNat) = (57, 70, 102) := rfl
  simp only [Prod.mk.injEq] at hbounds
  simp only [hexValue?, Bool.and_eq_true, decide_eq_true_eq, Char.le_def, UInt32.le_iff_toNat_le] at h
  split_ifs at h <;> omega

theorem isAlphanum_of_hexValue? {c : Char} {value : Nat} (h : hexValue? c = some value) : c.isAlphanum = true := by
  have hdigits : ∀ code < 128, ∀ value ∈ hexValue? (Char.ofNat code), (Char.ofNat code).isAlphanum = true := by
    decide +kernel
  obtain ⟨code, hcode, rfl⟩ := exists_ascii (toNat_lt_of_hexValue? h)
  exact hdigits code hcode value h

/-- Encoding what codes are not written with does not change what a text stands for. -/
theorem percentDecode_percentEncode_of_spares (h : SparesCodes isEncoded) (text : List Char) :
    percentDecode (percentEncode isEncoded text) = percentDecode text := by
  fun_induction percentDecode text with
  | case1 => rfl
  | case2 high low rest _ _ hlow hhigh ih =>
      rw [percentEncode_cons_plain (h _ (Or.inl rfl)),
        percentEncode_cons_plain (h _ (Or.inr (isAlphanum_of_hexValue? hhigh))),
        percentEncode_cons_plain (h _ (Or.inr (isAlphanum_of_hexValue? hlow)))]
      simp only [percentDecode, hhigh, hlow, ih]
  | case3 high low rest hnone ih =>
      rw [percentEncode_cons_plain (h _ (Or.inl rfl)), percentDecode_percent (percentEncode_fault ?_), ih]
      rintro _ _ _ ⟨⟩
      exact none_or_none hnone
  | case4 c rest hshort ih =>
      by_cases hpercent : c = '%'
      · subst hpercent
        rw [percentEncode_cons_plain (h _ (Or.inl rfl)), percentDecode_percent (percentEncode_fault ?_), ih]
        rintro high low after rfl
        exact (hshort high low after rfl rfl).elim
      · cases hc : isEncoded c with
        | true =>
            rw [percentEncode, List.flatMap_cons, if_pos hc, percentDecode_bytes]
            exact congrArg _ ih
        | false => rw [percentEncode_cons_plain hc, percentDecode_cons hpercent, ih]

end ApiProxy.Url
