import ApiProxy.Proofs.Json.Scalars

/-! Values without brackets, taken off the front of a text. What is taken off is a token: it stands for the same value
whatever else comes behind it, as long as that does not go on with a number. -/

namespace ApiProxy.Json

/-- The text behind a value is what is left of a text once a token has been taken off it, and the token stands for the
same value whatever else comes behind it. -/
def TakesToken (read : List Char → Reading) (text : List Char) (tree : Tree) (rest : List Char) : Prop :=
  ∃ token, text = token ++ rest ∧ ∀ other, EndsNumber other → read (token ++ other) = (tree, some other)

theorem readLiteral_takesToken {value tree : Tree} {expected text rest : List Char}
    (h : readLiteral value expected text = (tree, some rest)) :
    TakesToken (readLiteral value expected) text tree rest := by
  fun_induction readLiteral value expected text with
  | case1 text =>
      cases h
      exact ⟨[], rfl, fun _ _ => rfl⟩
  | case2 => cases h
  | case3 expected c text ih =>
      obtain ⟨token, rfl, htoken⟩ := ih h
      refine ⟨c :: token, rfl, fun other hother => ?_⟩
      rw [List.cons_append, readLiteral, if_pos rfl, htoken other hother]
  | case4 => cases h

theorem readQuotation_closed {sofar : Partial} {text rest : List Char} {value : Option String}
    (h : readQuotation sofar text = .closed value rest) :
    ∃ body, text = body ++ rest ∧ ∀ other, readQuotation sofar (body ++ other) = .closed value other := by
  fun_induction readQuotation sofar text with
  | case2 sofar text =>
      cases h
      exact ⟨['"'], rfl, fun _ => by rw [List.singleton_append, readQuotation]⟩
  | case3 sofar a b c d text code hcode ih =>
      obtain ⟨body, rfl, hbody⟩ := ih h
      refine ⟨'\\' :: 'u' :: a :: b :: c :: d :: body, rfl, fun other => ?_⟩
      simp only [List.cons_append, readQuotation, hcode, hbody]
  | case8 sofar c text hlong hc meant hmeant ih =>
      obtain ⟨body, rfl, hbody⟩ := ih h
      refine ⟨'\\' :: c :: body, rfl, fun other => ?_⟩
      rw [List.cons_append, List.cons_append, readQuotation, hmeant]
      · exact hbody other
      · exact fun _ _ _ _ _ heq => absurd heq hc
      · exact hc
  | case11 sofar c text hquote hlong hshort hend hescape hcontrol ih =>
      have hc : c ≠ '\\' := by
        rintro rfl
        cases text with
        | nil => exact hend rfl rfl
        | cons d text => exact hescape d text rfl rfl
      obtain ⟨body, rfl, hbody⟩ := ih h
      refine ⟨c :: body, rfl, fun other => ?_⟩
      rw [List.cons_append, readQuotation, if_neg hcontrol]
      · exact hbody other
      · exact hquote
      all_goals
        intros
        contradiction
  | case1 | case4 | case5 | case6 | case7 | case9 | case10 => cases h

/-- Digits are taken off as long as they last. -/
theorem exists_digits_of_takeDigits {text rest : List Char} {value : Nat} {values : List Nat}
    (h : takeDigits text = (value :: values, rest)) :
    ∃ c digits, text = c :: digits ++ rest ∧ c.isDigit = true ∧
      ∀ other, (∀ d ∈ other.head?, d.isDigit = false) → takeDigits (c :: digits ++ other) = (value :: values, other) := by
  obtain ⟨hvalues, rfl⟩ := Prod.mk.inj h
  obtain ⟨c, digits, hdigits, hvalue, hlater⟩ := List.map_eq_cons_iff.mp hvalues
  have hall : ∀ d ∈ c :: digits, d.isDigit = true := fun _ hd => List.mem_takeWhile_imp (hdigits ▸ hd)
  refine ⟨c, digits, ?_, hall c List.mem_cons_self, fun other hother => ?_⟩
  · rw [← hdigits, List.takeWhile_append_dropWhile]
  · rw [takeDigits_append hall hother, List.map_cons, hvalue, hlater]

/-- The part of an exponent behind its sign. -/
def readPower (numeral : Numeral) (isNegative : Bool) (text : List Char) : Reading :=
  match takeDigits text with
  | ([], rest) => brokenNumber rest
  | (digits, rest) => numberTree { numeral with exponent := some (isNegative, digits) } rest

theorem readExponent_unsigned (numeral : Numeral) {c : Char} (hminus : c ≠ '-') (hplus : c ≠ '+') (text : List Char) :
    readExponent numeral (c :: text) = readPower numeral false (c :: text) := by
  rw [readExponent.eq_def]
  split
  next isNegative digits heq =>
    split at heq
    next hcons => cases hcons; exact absurd rfl hminus
    next hcons => cases hcons; exact absurd rfl hplus
    next => cases heq; rfl

theorem readPower_takesToken {numeral : Numeral} {isNegative : Bool} {tree : Tree} {text rest : List Char}
    (h : readPower numeral isNegative text = (tree, some rest)) :
    ∃ c digits, text = c :: digits ++ rest ∧ c.isDigit = true ∧
      ∀ other, EndsNumber other → readPower numeral isNegative (c :: digits ++ other) = (tree, some other) := by
  rw [readPower] at h
  split at h
  next => cases h
  next values remaining hne htake =>
    obtain ⟨value, later, rfl⟩ := List.exists_cons_of_ne_nil hne
    cases h
    obtain ⟨c, digits, htext, hc, hdigits⟩ := exists_digits_of_takeDigits htake
    refine ⟨c, digits, htext, hc, fun other hother => ?_⟩
    rw [readPower, hdigits other hother.head_isDigit]
    rfl

theorem readExponent_takesToken {numeral : Numeral} {tree : Tree} {text rest : List Char}
    (h : readExponent numeral text = (tree, some rest)) : TakesToken (readExponent numeral) text tree rest := by
  cases text with
  | nil => cases h
  | cons sign text =>
      by_cases hminus : sign = '-'
      · subst hminus
        obtain ⟨c, digits, rfl, -, hdigits⟩ := @readPower_takesToken numeral true _ _ _ h
        exact ⟨'-' :: c :: digits, rfl, hdigits⟩
      · by_cases hplus : sign = '+'
        · subst hplus
          obtain ⟨c, digits, rfl, -, hdigits⟩ := @readPower_takesToken numeral false _ _ _ h
          exact ⟨'+' :: c :: digits, rfl, hdigits⟩
        · rw [readExponent_unsigned numeral hminus hplus] at h
          obtain ⟨c, digits, htext, hc, hdigits⟩ := readPower_takesToken h
          cases (List.cons.inj htext).1
          refine ⟨sign :: digits, htext, fun other hother => ?_⟩
          rw [List.cons_append, readExponent_unsigned numeral hminus hplus]
          exact hdigits other hother

/-- The part of a number behind the digits of its fraction. -/
def readScale (numeral : Numeral) (text : List Char) : Reading :=
  match text with
  | 'e' :: rest => readExponent numeral rest
  | 'E' :: rest => readExponent numeral rest
  | _ => numberTree numeral text

/-- The part of a number behind its first digits. -/
def readDecimals (numeral : Numeral) (text : List Char) : Reading :=
  match text with
  | '.' :: rest => readFraction numeral rest
  | 'e' :: rest => readExponent numeral rest
  | 'E' :: rest => readExponent numeral rest
  | _ => numberTree numeral text

theorem readScale_of_endsNumber (numeral : Numeral) {rest : List Char} (h : EndsNumber rest) :
    readScale numeral rest = numberTree numeral rest := by
  rw [readScale.eq_def]
  split
  next => exact absurd (by decide) (h 'e' rfl).2
  next => exact absurd (by decide) (h 'E' rfl).2
  next => rfl

theorem readDecimals_of_endsNumber (numeral : Numeral) {rest : List Char} (h : EndsNumber rest) :
    readDecimals numeral rest = numberTree numeral rest := by
  rw [readDecimals.eq_def]
  split
  next => exact absurd (by decide) (h '.' rfl).2
  next => exact absurd (by decide) (h 'e' rfl).2
  next => exact absurd (by decide) (h 'E' rfl).2
  next => rfl

/-- A token that stands behind digits and does not go on with them. -/
def TakesDigitless (read : List Char → Reading) (text : List Char) (tree : Tree) (rest : List Char) : Prop :=
  ∃ token, text = token ++ rest ∧ ∀ other, EndsNumber other →
    read (token ++ other) = (tree, some other) ∧ ∀ c ∈ (token ++ other).head?, c.isDigit = false

theorem TakesToken.digitless {read later : List Char → Reading} {text rest : List Char} {tree : Tree}
    (h : TakesToken later text tree rest) {mark : Char} (hmark : mark.isDigit = false)
    (hread : ∀ text, read (mark :: text) = later text) : TakesDigitless read (mark :: text) tree rest := by
  obtain ⟨token, rfl, htoken⟩ := h
  refine ⟨mark :: token, rfl, fun other hother => ⟨(hread _).trans (htoken other hother), fun c hc => ?_⟩⟩
  cases hc
  exact hmark

theorem readScale_takesToken {numeral : Numeral} {tree : Tree} {text rest : List Char}
    (h : readScale numeral text = (tree, some rest)) : TakesDigitless (readScale numeral) text tree rest := by
  rw [readScale.eq_def] at h
  split at h
  next => exact (readExponent_takesToken h).digitless (by decide) fun _ => rfl
  next => exact (readExponent_takesToken h).digitless (by decide) fun _ => rfl
  next =>
    cases h
    exact ⟨[], rfl, fun other hother => ⟨readScale_of_endsNumber numeral hother, hother.head_isDigit⟩⟩

theorem readFraction_takesToken {numeral : Numeral} {tree : Tree} {text rest : List Char}
    (h : readFraction numeral text = (tree, some rest)) : TakesToken (readFraction numeral) text tree rest := by
  rw [readFraction] at h
  split at h
  next => cases h
  next values remaining hne htake =>
    obtain ⟨value, later, rfl⟩ := List.exists_cons_of_ne_nil hne
    obtain ⟨c, digits, rfl, -, hdigits⟩ := exists_digits_of_takeDigits htake
    obtain ⟨token, rfl, htoken⟩ := readScale_takesToken h
    refine ⟨c :: digits ++ token, by rw [List.append_assoc], fun other hother => ?_⟩
    obtain ⟨hread, hhead⟩ := htoken other hother
    rw [List.append_assoc, readFraction, hdigits _ hhead]
    exact hread

theorem readDecimals_takesToken {numeral : Numeral} {tree : Tree} {text rest : List Char}
    (h : readDecimals numeral text = (tree, some rest)) : TakesDigitless (readDecimals numeral) text tree rest := by
  rw [readDecimals.eq_def] at h
  split at h
  next => exact (readFraction_takesToken h).digitless (by decide) fun _ => rfl
  next => exact (readExponent_takesToken h).digitless (by decide) fun _ => rfl
  next => exact (readExponent_takesToken h).digitless (by decide) fun _ => rfl
  next =>
    cases h
    exact ⟨[], rfl, fun other hother => ⟨readDecimals_of_endsNumber numeral hother, hother.head_isDigit⟩⟩

theorem readNumber_takesToken {isNegative : Bool} {tree : Tree} {text rest : List Char}
    (h : readNumber isNegative text = (tree, some rest)) :
    ∃ c token, text = c :: token ++ rest ∧ c.isDigit = true ∧
      ∀ other, EndsNumber other → readNumber isNegative (c :: token ++ other) = (tree, some other) := by
  rw [readNumber] at h
  split at h
  next => cases h
  next => cases h
  next values remaining hne hzero htake =>
    obtain ⟨value, later, rfl⟩ := List.exists_cons_of_ne_nil hne
    obtain ⟨c, digits, rfl, hc, hdigits⟩ := exists_digits_of_takeDigits htake
    have hdecimals : readDecimals ⟨isNegative, value :: later, none, none⟩ remaining = (tree, some rest) := h
    obtain ⟨token, rfl, htoken⟩ := readDecimals_takesToken hdecimals
    refine ⟨c, digits ++ token, by simp, hc, fun other hother => ?_⟩
    obtain ⟨hread, hhead⟩ := htoken other hother
    rw [← List.cons_append, List.append_assoc, readNumber, hdigits _ hhead]
    split
    next heq => cases heq
    next heq => cases heq; exact absurd rfl (hzero _ _)
    next heq =>
      cases heq
      exact hread

theorem TakesToken.cons {read later : List Char → Reading} {text rest : List Char} {tree : Tree}
    (h : TakesToken later text tree rest) {mark : Char} (hread : ∀ text, read (mark :: text) = later text) :
    TakesToken read (mark :: text) tree rest := by
  obtain ⟨token, rfl, htoken⟩ := h
  exact ⟨mark :: token, rfl, fun other hother => (hread _).trans (htoken other hother)⟩

theorem scalar_takesToken {tree : Tree} {text rest : List Char} (h : scalar text = (tree, some rest)) :
    TakesToken scalar text tree rest := by
  rw [scalar.eq_def] at h
  split at h
  next => exact (readLiteral_takesToken h).cons fun _ => rfl
  next => exact (readLiteral_takesToken h).cons fun _ => rfl
  next => exact (readLiteral_takesToken h).cons fun _ => rfl
  next =>
    obtain ⟨c, token, rfl, -, htoken⟩ := readNumber_takesToken h
    exact ⟨'-' :: c :: token, rfl, htoken⟩
  next =>
    split at h
    next value remaining hread =>
      cases h
      obtain ⟨body, rfl, hbody⟩ := readQuotation_closed hread
      refine ⟨'"' :: body, rfl, fun other _ => ?_⟩
      rw [List.cons_append, scalar, hbody]
    next => cases h
  next =>
    split at h
    next =>
      obtain ⟨c, token, htext, hc, htoken⟩ := readNumber_takesToken h
      refine ⟨c :: token, htext, fun other hother => ?_⟩
      rw [List.cons_append, scalar_digits hc]
      exact htoken other hother
    next => cases h
  next => cases h

end ApiProxy.Json
