import Mathlib.Data.List.TakeWhile
import Mathlib.Tactic.FinCases
import ApiProxy.Json.Reader
import ApiProxy.Json.Value

/-! Strings and whole numbers read back as they were printed. A character is read off its escape whatever stands
behind it, so a string ends at its own quotation mark; a number ends where no digit, point or exponent follows. -/

namespace ApiProxy.Json

/-! ### Strings -/

/-- A string of which some characters have been read and no surrogate is left alone. -/
def Partial.sound (read : List Char) : Partial := ⟨read, none, true⟩

theorem push_sound (read : List Char) (c : Char) : (Partial.sound read).push c = .sound (c :: read) := rfl

theorem hexCode?_control : ∀ code < 0x20,
    hexCode? '0' '0' (hexDigit (code / 16)) (hexDigit (code % 16)) = some code := by decide

theorem readQuotation_simpleEscape {read : List Char} {c meant : Char} (hc : c ≠ 'u')
    (h : simpleEscape c = some meant) (rest : List Char) :
    readQuotation (.sound read) ('\\' :: c :: rest) = readQuotation (.sound (meant :: read)) rest := by
  rw [readQuotation, h]
  · exact congrArg (readQuotation · rest) (push_sound read meant)
  · exact fun a b d e later heq => absurd heq hc
  · exact hc

theorem readQuotation_plain {read : List Char} {c : Char} (hquote : c ≠ '"') (hescape : c ≠ '\\')
    (hcontrol : ¬c.toNat < 0x20) (rest : List Char) :
    readQuotation (.sound read) (c :: rest) = readQuotation (.sound (c :: read)) rest := by
  rw [readQuotation, if_neg hcontrol]
  · exact congrArg (readQuotation · rest) (push_sound read c)
  · exact hquote
  all_goals
    intros
    contradiction

theorem readQuotation_control (read : List Char) {code : Nat} (h : code < 0x20) (rest : List Char) :
    readQuotation (.sound read) ('\\' :: 'u' :: '0' :: '0' :: hexDigit (code / 16) :: hexDigit (code % 16) :: rest) =
      readQuotation (.sound (Char.ofNat code :: read)) rest := by
  have hpush : (Partial.sound read).pushCode code = .sound (Char.ofNat code :: read) := by
    rw [Partial.pushCode, if_neg (by simp; omega), if_neg (by simp; omega), push_sound]
  rw [readQuotation, hexCode?_control code h]
  exact congrArg (readQuotation · rest) hpush

/-- The escape of a character stands for the character. -/
theorem readQuotation_escape (read : List Char) (c : Char) (rest : List Char) :
    readQuotation (.sound read) (escape c ++ rest) = readQuotation (.sound (c :: read)) rest := by
  by_cases hshort : c ∈ ['"', '\\', '\x08', '\t', '\n', '\x0c', '\r']
  · fin_cases hshort <;> exact readQuotation_simpleEscape (by decide) rfl rest
  · simp only [List.mem_cons, List.not_mem_nil, or_false, not_or] at hshort
    obtain ⟨hquote, hescape, hback, htab, hline, hfeed, hreturn⟩ := hshort
    rw [escape, if_neg hquote, if_neg hescape, if_neg hback, if_neg htab, if_neg hline, if_neg hfeed, if_neg hreturn]
    split_ifs with hcontrol
    · have hread := readQuotation_control read hcontrol rest
      rwa [Char.ofNat_toNat] at hread
    · exact readQuotation_plain hquote hescape hcontrol rest

theorem readQuotation_escaped (read text rest : List Char) :
    readQuotation (.sound read) (text.flatMap escape ++ '"' :: rest) =
      .closed (some (String.ofList (read.reverse ++ text))) rest := by
  induction text generalizing read with
  | nil =>
      rw [List.flatMap_nil, List.nil_append, readQuotation, List.append_nil]
      rfl
  | cons c text ih =>
      rw [List.flatMap_cons, List.append_assoc, readQuotation_escape, ih, List.reverse_cons, List.append_assoc,
        List.singleton_append]

theorem readQuotation_text (text : String) (rest : List Char) :
    readQuotation {} (text.toList.flatMap escape ++ '"' :: rest) = .closed (some text) rest := by
  have hread := readQuotation_escaped [] text.toList rest
  rwa [List.reverse_nil, List.nil_append, String.ofList_toList] at hread

/-! ### Numbers -/

/-- No digit, point or exponent follows that would go on with a number. -/
def EndsNumber (rest : List Char) : Prop := ∀ c ∈ rest.head?, c.isDigit = false ∧ c ∉ ['.', 'e', 'E']

theorem EndsNumber.head_isDigit {rest : List Char} (h : EndsNumber rest) : ∀ c ∈ rest.head?, c.isDigit = false :=
  fun c hc => (h c hc).1

theorem takeDigits_append {digits rest : List Char} (hdigits : ∀ c ∈ digits, c.isDigit = true)
    (hrest : ∀ c ∈ rest.head?, c.isDigit = false) : takeDigits (digits ++ rest) = (digits.map digitValue, rest) := by
  have hstop : rest.takeWhile Char.isDigit = [] ∧ rest.dropWhile Char.isDigit = rest := by
    cases rest with
    | nil => exact ⟨rfl, rfl⟩
    | cons c rest =>
        rw [List.takeWhile_cons, List.dropWhile_cons, hrest c rfl]
        exact ⟨rfl, rfl⟩
  rw [takeDigits, List.takeWhile_append_of_pos hdigits, List.dropWhile_append_of_pos hdigits, hstop.1, hstop.2,
    List.append_nil]

theorem le_foldl_digits (value : Nat) (digits : List Nat) :
    value ≤ digits.foldl (fun value digit => value * 10 + digit) value := by
  induction digits generalizing value with
  | nil => exact Nat.le_refl value
  | cons digit digits ih => exact Nat.le_trans (by omega) (ih (value * 10 + digit))

/-- All digits are taken up if their value is within the limit. -/
theorem collect_eq {limit value : Nat} {digits : List Nat}
    (h : digits.foldl (fun value digit => value * 10 + digit) value ≤ limit) :
    collect limit value digits = (digits.foldl (fun value digit => value * 10 + digit) value, []) := by
  induction digits generalizing value with
  | nil => rfl
  | cons digit digits ih =>
      rw [collect, if_pos (Nat.le_trans (le_foldl_digits _ digits) h)]
      exact ih h

theorem foldl_digitValue (n : Nat) :
    ((Nat.toDigits 10 n).map digitValue).foldl (fun value digit => value * 10 + digit) 0 = n := by
  have hvalue : Nat.ofDigitChars 10 (Nat.toDigits 10 n) 0 = n := Nat.ofDigitChars_ten_toDigits
  rw [Nat.ofDigitChars_eq_foldl] at hvalue
  rw [List.foldl_map]
  simpa [digitValue, Nat.mul_comm] using hvalue

theorem isDigit_of_mem_toDigits {n : Nat} {c : Char} (hc : c ∈ Nat.toDigits 10 n) : c.isDigit = true :=
  Nat.isDigit_of_mem_toDigits (by decide) (by decide) hc

theorem head?_toDigits_ne {n : Nat} (h : 0 < n) : (Nat.toDigits 10 n).head? ≠ some '0' := by
  induction n using Nat.strong_induction_on with
  | _ n ih =>
    by_cases hsmall : n < 10
    · rw [Nat.toDigits_of_lt_base hsmall]
      have hdigits : ∀ digit < 10, 0 < digit → digit.digitChar ≠ '0' := by decide
      exact fun heq => hdigits n hsmall h (Option.some.inj heq)
    · rw [Nat.toDigits_of_base_le (by decide) (by omega), List.head?_append_of_ne_nil _ Nat.toDigits_ne_nil]
      exact ih (n / 10) (by omega) (by omega)

theorem digitValue_ne_zero {c : Char} (hdigit : c.isDigit = true) (hc : c ≠ '0') : digitValue c ≠ 0 := by
  have hbounds : '0'.val ≤ c.val ∧ c.val ≤ '9'.val := by simpa [Char.isDigit] using hdigit
  have hne : c.toNat ≠ '0'.toNat := fun heq => hc (Char.toNat_inj.mp heq)
  have hlow : '0'.toNat ≤ c.toNat := hbounds.1
  have hzero : '0'.toNat = 48 := rfl
  rw [digitValue]
  omega

/-- The numeral of a natural number. -/
def numeralOf (isNegative : Bool) (n : Nat) : Numeral := ⟨isNegative, (Nat.toDigits 10 n).map digitValue, none, none⟩

/-- The digits of a natural number have no zero in front, unless it stands alone. -/
theorem map_digitValue_ne (n second : Nat) (later : List Nat) :
    (Nat.toDigits 10 n).map digitValue ≠ 0 :: second :: later := by
  intro heq
  obtain ⟨c, digits, hdigits, hzero, htail⟩ := List.map_eq_cons_iff.mp heq
  have hc : c.isDigit = true := isDigit_of_mem_toDigits (hdigits ▸ List.mem_cons_self)
  rcases Nat.eq_zero_or_pos n with rfl | hpos
  · rw [Nat.toDigits_zero] at hdigits
    cases hdigits
    cases htail
  · have hhead := head?_toDigits_ne hpos
    rw [hdigits] at hhead
    exact digitValue_ne_zero hc (fun heq => hhead (congrArg some heq)) hzero

theorem readNumber_toDigits (isNegative : Bool) (n : Nat) {rest : List Char} (hrest : EndsNumber rest) :
    readNumber isNegative (Nat.toDigits 10 n ++ rest) = numberTree (numeralOf isNegative n) rest := by
  rw [readNumber, takeDigits_append (fun _ => isDigit_of_mem_toDigits) hrest.head_isDigit, numeralOf]
  split
  next heq => exact absurd (List.map_eq_nil_iff.mp (Prod.mk.inj heq).1) Nat.toDigits_ne_nil
  next second later _ heq => exact absurd (Prod.mk.inj heq).1 (map_digitValue_ne n second later)
  next heq =>
    cases heq
    cases rest with
    | nil => rfl
    | cons c rest =>
        have hmarks := (hrest c rfl).2
        split
        next heq => cases heq; exact absurd (by decide) hmarks
        next heq => cases heq; exact absurd (by decide) hmarks
        next heq => cases heq; exact absurd (by decide) hmarks
        next => rfl

theorem value?_numeralOf {n : Nat} (h : n ≤ largestWord) : (numeralOf false n).value? = some (.integer n) := by
  have hcollect : collect largestWord 0 ((Nat.toDigits 10 n).map digitValue) = (n, []) := by
    rw [collect_eq ((foldl_digitValue n).symm ▸ h), foldl_digitValue]
  rw [numeralOf, Numeral.value?, hcollect]
  rfl

theorem value?_numeralOf_negative {n : Nat} (hpos : 0 < n) (h : n ≤ 0x8000000000000000) :
    (numeralOf true n).value? = some (.integer (-n)) := by
  have hlimit : n ≤ largestWord := Nat.le_trans h (by decide)
  have hcollect : collect largestWord 0 ((Nat.toDigits 10 n).map digitValue) = (n, []) := by
    rw [collect_eq ((foldl_digitValue n).symm ▸ hlimit), foldl_digitValue]
  rw [numeralOf, Numeral.value?, hcollect]
  simp [hpos, h]

/-- The integers that a document keeps as they are. -/
def InRange (value : Int) : Prop := -0x8000000000000000 ≤ value ∧ value ≤ largestWord

theorem scalar_digits {c : Char} (h : c.isDigit = true) (text : List Char) :
    scalar (c :: text) = readNumber false (c :: text) := by
  rw [scalar.eq_def]
  split <;> simp_all

theorem toList_toString_ofNat (n : Nat) : (toString (Int.ofNat n)).toList = Nat.toDigits 10 n := Nat.toList_repr

theorem toList_toString_negSucc (n : Nat) :
    (toString (Int.negSucc n)).toList = '-' :: Nat.toDigits 10 (n + 1) := by
  show ("-" ++ Nat.repr (n + 1)).toList = _
  rw [String.toList_append, Nat.toList_repr]
  rfl

theorem scalar_integer {value : Int} (hvalue : InRange value) {rest : List Char} (hrest : EndsNumber rest) :
    scalar ((toString value).toList ++ rest) = (.number (some (.integer value)), some rest) := by
  obtain ⟨hlow, hhigh⟩ := hvalue
  cases value with
  | ofNat n =>
      have hread := readNumber_toDigits false n hrest
      rw [numberTree, value?_numeralOf (Int.ofNat_le.mp hhigh)] at hread
      rw [toList_toString_ofNat]
      cases hcases : Nat.toDigits 10 n with
      | nil => exact absurd hcases Nat.toDigits_ne_nil
      | cons c digits =>
          have hc : c.isDigit = true := isDigit_of_mem_toDigits (hcases ▸ List.mem_cons_self)
          rw [hcases] at hread
          rw [List.cons_append, scalar_digits hc]
          exact hread
  | negSucc n =>
      have hsize : n + 1 ≤ 0x8000000000000000 := by
        rw [Int.negSucc_eq] at hlow
        omega
      have hread := readNumber_toDigits true (n + 1) hrest
      rw [numberTree, value?_numeralOf_negative (Nat.succ_pos n) hsize] at hread
      rw [toList_toString_negSucc, List.cons_append, scalar, hread, Int.negSucc_eq]
      rfl

end ApiProxy.Json
