import Mathlib.Algebra.Group.Nat.Defs
import Mathlib.Data.List.Forall2
import ApiProxy.Proofs.Outcome
import ApiProxy.Proofs.Text.Pieces
import ApiProxy.Url.Address

/-! Addresses are read back from their texts. An IPv4 address is written as its four bytes, and an IPv6 address as its
pieces around the zeros that are left out, the number of which follows from the others. -/

namespace ApiProxy.Url

variable {radix n : Nat} {c : Char} {digits text : List Char} {numbers : List Nat}

/-! ### Numbers -/

theorem hexValue?_digitChar : ∀ digit < 16, hexValue? (Nat.digitChar digit) = some digit := by decide

theorem exists_digit_of_mem_toDigits (hradix : 1 < radix) (hc : c ∈ Nat.toDigits radix n) :
    ∃ digit < radix, c = Nat.digitChar digit := by
  induction n using Nat.strong_induction_on with
  | _ n ih =>
      by_cases hsmall : n < radix
      · rw [Nat.toDigits_of_lt_base hsmall, List.mem_singleton] at hc
        exact ⟨n, hsmall, hc⟩
      · rw [Nat.toDigits_of_base_le hradix (by omega), List.mem_append, List.mem_singleton] at hc
        rcases hc with hc | hc
        · exact ih _ (Nat.div_lt_self (by omega) hradix) hc
        · exact ⟨n % radix, Nat.mod_lt _ (by omega), hc⟩

theorem number?_concat (front : List Char) {value digit : Nat} (hfront : number? radix front = some value)
    (hc : hexValue? c = some digit) (hdigit : digit < radix) :
    number? radix (front ++ [c]) = some (value * radix + digit) := by
  rw [number?] at hfront ⊢
  rw [List.foldlM_append, hfront]
  simp [hc, hdigit]

theorem number?_toDigits (hradix : 1 < radix) (hle : radix ≤ 16) (n : Nat) :
    number? radix (Nat.toDigits radix n) = some n := by
  induction n using Nat.strong_induction_on with
  | _ n ih =>
      by_cases hsmall : n < radix
      · have hdigit := hexValue?_digitChar n (by omega)
        have hempty : number? radix [] = some 0 := rfl
        rw [Nat.toDigits_of_lt_base hsmall, ← List.nil_append [n.digitChar], number?_concat [] hempty hdigit hsmall]
        simp
      · have hmod : n % radix < radix := Nat.mod_lt _ (by omega)
        rw [Nat.toDigits_of_base_le hradix (by omega), number?_concat _ (ih _ (Nat.div_lt_self (by omega) hradix))
          (hexValue?_digitChar _ (by omega)) hmod, Nat.div_add_mod']

theorem number?_lt (h : number? radix digits = some n) : n < radix ^ digits.length := by
  have hfold : ∀ value total, digits.foldlM (fun value c => (hexValue? c).bind fun digit =>
      if digit < radix then some (value * radix + digit) else none) value = some total →
      total < (value + 1) * radix ^ digits.length := by
    clear h
    induction digits with
    | nil =>
        rintro value total ⟨⟩
        simp
    | cons c digits ih =>
        intro value total h
        rw [List.foldlM_cons, Option.bind_eq_bind, Option.bind_eq_some_iff] at h
        obtain ⟨next, hnext, hrest⟩ := h
        obtain ⟨digit, _, hdigit⟩ := Option.bind_eq_some_iff.mp hnext
        split_ifs at hdigit with hless
        rw [Option.some.injEq] at hdigit
        have hbound : next + 1 ≤ (value + 1) * radix := by
          rw [← hdigit, Nat.add_mul]
          omega
        calc total < (next + 1) * radix ^ digits.length := ih next total hrest
          _ ≤ (value + 1) * radix * radix ^ digits.length := Nat.mul_le_mul_right _ hbound
          _ = (value + 1) * radix ^ (c :: digits).length := by
            rw [List.length_cons, Nat.pow_succ, Nat.mul_assoc, Nat.mul_comm radix]
  simpa using hfold 0 n h

theorem ne_of_mem_toDigits (hradix : 1 < radix) (hle : radix ≤ 16) (hc : c ∈ Nat.toDigits radix n) :
    c ∉ [':', '.', '[', ']', '%'] := by
  have hdigits : ∀ digit < 16, Nat.digitChar digit ∉ [':', '.', '[', ']', '%'] := by decide
  obtain ⟨digit, hdigit, rfl⟩ := exists_digit_of_mem_toDigits hradix hc
  exact hdigits digit (Nat.lt_of_lt_of_le hdigit hle)

/-! ### Four bytes -/

/-- The bytes of an address, the highest one first. -/
def addressBytes (address : Nat) : List Nat := [3, 2, 1, 0].map fun place => address / Nat.pow 256 place % 256

theorem lt_of_mem_addressBytes {address byte : Nat} (h : byte ∈ addressBytes address) : byte < 256 := by
  obtain ⟨place, _, rfl⟩ := List.mem_map.mp h
  exact Nat.mod_lt _ (by decide)

theorem toList_ipv4Text (address : Nat) :
    (ipv4Text address).toList = joinPieces '.' ((addressBytes address).map (Nat.toDigits 10)) := by
  rw [ipv4Text, String.toList_intercalate, joinPieces]
  congr 1
  simp [addressBytes, Nat.toList_repr]

theorem hostParts_ipv4Text (address : Nat) :
    hostParts (ipv4Text address).toList = (addressBytes address).map (Nat.toDigits 10) := by
  have hpieces : pieces (· = '.') (ipv4Text address).toList = (addressBytes address).map (Nat.toDigits 10) := by
    rw [toList_ipv4Text]
    apply pieces_joinPieces
    · simp [addressBytes]
    · intro part hpart hdot
      obtain ⟨byte, _, rfl⟩ := List.mem_map.mp hpart
      exact ne_of_mem_toDigits (by decide) (by decide) hdot (by decide)
  rw [hostParts, hpieces]
  simp [addressBytes, Nat.toDigits_ne_nil]

theorem ipv4Number?_toDigits : ∀ byte < 256, ipv4Number? (Nat.toDigits 10 byte) = some byte := by decide +kernel

theorem endsInNumber_ipv4Text (address : Nat) : endsInNumber (ipv4Text address).toList = true := by
  have hlast : (hostParts (ipv4Text address).toList).getLast? =
      some (Nat.toDigits 10 (address / Nat.pow 256 0 % 256)) := by
    rw [hostParts_ipv4Text]
    rfl
  rw [endsInNumber, hlast]
  dsimp only
  rw [ipv4Number?_toDigits _ (Nat.mod_lt _ (by decide))]
  exact Bool.or_true _

theorem ipv4?_ipv4Text {address : Nat} (h : address < 256 ^ 4) : ipv4? (ipv4Text address).toList = some address := by
  have hnumbers : ((addressBytes address).map (Nat.toDigits 10)).mapM ipv4Number? = some (addressBytes address) := by
    rw [Outcome.mapM_eq_some_iff, List.forall₂_map_left_iff, List.forall₂_same]
    exact fun byte hbyte => ipv4Number?_toDigits byte (lt_of_mem_addressBytes hbyte)
  have hbytes : addressBytes address =
      [address / 16777216 % 256, address / 65536 % 256, address / 256 % 256, address % 256] := by
    simp [addressBytes]
  rw [ipv4?, hostParts_ipv4Text, hnumbers, hbytes]
  have hsmall : ∀ value, ¬255 < value % 256 := fun value => by omega
  simp [hsmall]
  omega

theorem foldl_bytes_lt {bytes : List Nat} (h : ∀ byte ∈ bytes, byte ≤ 255) (value : Nat) :
    bytes.foldl (fun value number => value * 256 + number) value < (value + 1) * 256 ^ bytes.length := by
  induction bytes generalizing value with
  | nil => simp
  | cons byte bytes ih =>
      rw [List.forall_mem_cons] at h
      have hbound : value * 256 + byte + 1 ≤ (value + 1) * 256 := by
        rw [Nat.add_mul]
        omega
      calc (byte :: bytes).foldl (fun value number => value * 256 + number) value
          < (value * 256 + byte + 1) * 256 ^ bytes.length := ih h.2 _
        _ ≤ (value + 1) * 256 * 256 ^ bytes.length := Nat.mul_le_mul_right _ hbound
        _ = (value + 1) * 256 ^ (byte :: bytes).length := by
          rw [List.length_cons, Nat.pow_succ, Nat.mul_assoc, Nat.mul_comm 256]

theorem ipv4?_lt {name : List Char} {address : Nat} (h : ipv4? name = some address) : address < 256 ^ 4 := by
  rw [ipv4?] at h
  obtain ⟨numbers, _, hrest⟩ := Option.bind_eq_some_iff.mp h
  obtain ⟨last, hlast, hvalue⟩ := Option.bind_eq_some_iff.mp hrest
  split_ifs at hvalue with hbad
  rw [Option.some.injEq] at hvalue
  simp only [Bool.or_eq_true, decide_eq_true_eq, not_or, Nat.not_lt, Nat.not_le, List.any_eq_true, not_exists,
    not_and] at hbad
  obtain ⟨⟨hcount, hbytes⟩, hlastLt⟩ := hbad
  have hne : numbers ≠ [] := by
    rintro rfl
    cases hlast
  have hlength : numbers.dropLast.length + (5 - numbers.length) = 4 := by
    have hpositive := List.length_pos_of_ne_nil hne
    rw [List.length_dropLast]
    omega
  have hfold := foldl_bytes_lt hbytes 0
  rw [Nat.zero_add, Nat.one_mul] at hfold
  rw [← hvalue]
  generalize numbers.dropLast.foldl (fun value number => value * 256 + number) 0 = front at hfold ⊢
  calc front * Nat.pow 256 (5 - numbers.length) + last < (front + 1) * 256 ^ (5 - numbers.length) := by
        rw [Nat.add_mul, Nat.one_mul]
        exact Nat.add_lt_add_left hlastLt _
    _ ≤ 256 ^ numbers.dropLast.length * 256 ^ (5 - numbers.length) := Nat.mul_le_mul_right _ hfold
    _ = 256 ^ 4 := by rw [← Nat.pow_add, hlength]

/-! ### Eight pieces -/

/-- Pieces of an address, written one after the other. -/
def piecesText (numbers : List Nat) : List Char := joinPieces ':' (numbers.map (Nat.toDigits 16))

theorem toList_shown (numbers : List Nat) :
    (":".intercalate (numbers.map fun number => String.ofList (Nat.toDigits 16 number))).toList =
      piecesText numbers := by
  rw [String.toList_intercalate, piecesText, joinPieces, List.map_map]
  simp [Function.comp_def]

theorem digits_free {part : List Char} (h : part ∈ numbers.map (Nat.toDigits 16)) :
    part ≠ [] ∧ ':' ∉ part ∧ '.' ∉ part := by
  obtain ⟨number, _, rfl⟩ := List.mem_map.mp h
  refine ⟨Nat.toDigits_ne_nil, fun hc => ?_, fun hc => ?_⟩
  · exact ne_of_mem_toDigits (by decide) (by decide) hc (by decide)
  · exact ne_of_mem_toDigits (by decide) (by decide) hc (by decide)

theorem ipv6Piece?_toDigits (h : n < 65536) : ipv6Piece? (Nat.toDigits 16 n) = some n := by
  have hlength : (Nat.toDigits 16 n).length ≤ 4 := (Nat.length_toDigits_le_iff (by decide) (by decide)).mpr h
  have hne : (Nat.toDigits 16 n).isEmpty = false := List.isEmpty_eq_false_iff.mpr Nat.toDigits_ne_nil
  rw [ipv6Piece?, hne, number?_toDigits (by decide) (by decide)]
  simp [Nat.not_lt.mpr hlength]

theorem ipv6Pieces?_toDigits (h : ∀ n ∈ numbers, n < 65536) (mayEndInIpv4 : Bool) :
    ipv6Pieces? mayEndInIpv4 (numbers.map (Nat.toDigits 16)) = some numbers := by
  induction numbers with
  | nil => rfl
  | cons n numbers ih =>
      rw [List.forall_mem_cons] at h
      cases numbers with
      | nil =>
          have hdot : '.' ∉ Nat.toDigits 16 n := fun hc =>
            ne_of_mem_toDigits (by decide) (by decide) hc (by decide)
          simp [ipv6Pieces?, hdot, ipv6Piece?_toDigits h.1]
      | cons next numbers =>
          rw [List.map_cons, List.map_cons, ipv6Pieces?, ipv6Piece?_toDigits h.1, ← List.map_cons, ih h.2]
          · rfl
          · simp

theorem piecesText_eq_nil_iff : piecesText numbers = [] ↔ numbers = [] := by
  constructor
  · intro h
    cases numbers with
    | nil => rfl
    | cons n numbers => cases numbers <;> simp [piecesText, joinPieces, List.intercalate_cons_cons] at h
  · rintro rfl
    rfl

theorem ipv6Side?_piecesText (h : ∀ n ∈ numbers, n < 65536) (mayEndInIpv4 : Bool) :
    ipv6Side? mayEndInIpv4 (piecesText numbers) = some numbers := by
  by_cases hnil : numbers = []
  · subst hnil
    rfl
  · have htext : (piecesText numbers).isEmpty = false :=
      List.isEmpty_eq_false_iff.mpr fun htext => hnil (piecesText_eq_nil_iff.mp htext)
    have hpieces : pieces (· = ':') (piecesText numbers) = numbers.map (Nat.toDigits 16) :=
      pieces_joinPieces (fun hmap => hnil (List.map_eq_nil_iff.mp hmap)) fun _ hpart => (digits_free hpart).2.1
    rw [ipv6Side?, htext, hpieces, ipv6Pieces?_toDigits h]
    rfl

/-- Only two colons together are a gap. -/
theorem cutAtGap_cons {rest : List Char} (h : c = ':' → rest.head? ≠ some ':') :
    cutAtGap (c :: rest) = (c :: (cutAtGap rest).1, (cutAtGap rest).2) := by
  rw [cutAtGap]
  rintro rest' rfl rfl
  exact h rfl rfl

theorem cutAtGap_append {part : List Char} (h : ':' ∉ part) (tail : List Char) :
    cutAtGap (part ++ tail) = (part ++ (cutAtGap tail).1, (cutAtGap tail).2) := by
  induction part with
  | nil => rfl
  | cons c part ih =>
      rw [List.mem_cons, not_or] at h
      rw [List.cons_append, cutAtGap_cons fun hc => absurd hc.symm h.1, ih h.2]
      rfl

theorem piecesText_cons_cons (n next : Nat) (numbers : List Nat) :
    piecesText (n :: next :: numbers) = Nat.toDigits 16 n ++ ':' :: piecesText (next :: numbers) := by
  simp [piecesText, joinPieces, List.intercalate_cons_cons]

theorem head?_piecesText (n : Nat) (numbers : List Nat) (tail : List Char) :
    (piecesText (n :: numbers) ++ tail).head? ≠ some ':' := by
  have hbegins : ∃ rest, piecesText (n :: numbers) ++ tail = Nat.toDigits 16 n ++ rest := by
    cases numbers with
    | nil => exact ⟨tail, by simp [piecesText, joinPieces]⟩
    | cons next numbers => exact ⟨_, by rw [piecesText_cons_cons, List.append_assoc]⟩
  obtain ⟨rest, hrest⟩ := hbegins
  rw [hrest, List.head?_append_of_ne_nil _ Nat.toDigits_ne_nil]
  exact fun hc => ne_of_mem_toDigits (by decide) (by decide) (List.mem_of_head? hc) (by decide)

theorem cutAtGap_piecesText (numbers : List Nat) (tail : List Char) :
    cutAtGap (piecesText numbers ++ tail) = (piecesText numbers ++ (cutAtGap tail).1, (cutAtGap tail).2) := by
  induction numbers with
  | nil => rfl
  | cons n numbers ih =>
      have hcolon : ':' ∉ Nat.toDigits 16 n := fun hc =>
        ne_of_mem_toDigits (by decide) (by decide) hc (by decide)
      cases numbers with
      | nil =>
          rw [piecesText, List.map_singleton, joinPieces, List.intercalate_singleton]
          exact cutAtGap_append hcolon tail
      | cons next numbers =>
          rw [piecesText_cons_cons, List.append_assoc, cutAtGap_append hcolon, List.cons_append,
            cutAtGap_cons fun _ => head?_piecesText next numbers tail, ih]
          simp

/-- The run that is left out is made of zeros. -/
theorem longestZeroRun_spec (numbers : List Nat) :
    zerosInFront (numbers.drop (longestZeroRun numbers).1) = (longestZeroRun numbers).2 ∨
      (longestZeroRun numbers).2 = 0 := by
  rw [longestZeroRun]
  refine List.foldlRecOn (motive := fun best : Nat × Nat =>
    zerosInFront (numbers.drop best.1) = best.2 ∨ best.2 = 0) _ _ ?_ ?_
  · exact Or.inr rfl
  · intro best hbest place _
    dsimp only
    split_ifs
    · exact Or.inl rfl
    · exact hbest

theorem zeros_of_zerosInFront (numbers : List Nat) :
    numbers = List.replicate (zerosInFront numbers) 0 ++ numbers.drop (zerosInFront numbers) := by
  induction numbers with
  | nil => rfl
  | cons n numbers ih =>
      by_cases hn : n = 0
      · have hcount : zerosInFront (n :: numbers) = zerosInFront numbers + 1 := by simp [zerosInFront, hn]
        rw [hcount, List.replicate_succ, List.drop_succ_cons, List.cons_append, ← ih, hn]
      · have hcount : zerosInFront (n :: numbers) = 0 := by simp [zerosInFront, hn]
        rw [hcount]
        rfl

/-- An address around the zeros that are left out. -/
theorem ipv6?_gap {before behind : List Nat} (hbefore : ∀ n ∈ before, n < 65536) (hbehind : ∀ n ∈ behind, n < 65536)
    (hcount : before.length + behind.length ≤ 7) :
    ipv6? (piecesText before ++ ':' :: ':' :: piecesText behind) =
      some (before ++ List.replicate (8 - (before.length + behind.length)) 0 ++ behind) := by
  have hcut : cutAtGap (piecesText before ++ ':' :: ':' :: piecesText behind) =
      (piecesText before, some (piecesText behind)) := by
    rw [cutAtGap_piecesText]
    simp [cutAtGap]
  rw [ipv6?, hcut]
  dsimp only
  rw [ipv6Side?_piecesText hbefore, ipv6Side?_piecesText hbehind]
  simp [hcount]

theorem ipv6?_ipv6Text (hlength : numbers.length = 8) (h : ∀ n ∈ numbers, n < 65536) :
    ipv6? (ipv6Text numbers).toList = some numbers := by
  have hspec := longestZeroRun_spec numbers
  rw [ipv6Text]
  generalize longestZeroRun numbers = run at hspec ⊢
  obtain ⟨place, count⟩ := run
  dsimp only at hspec ⊢
  split_ifs with hshort
  · have hcut : cutAtGap (piecesText numbers) = (piecesText numbers, none) := by
      rw [← List.append_nil (piecesText numbers), cutAtGap_piecesText]
      simp [cutAtGap]
    rw [toList_shown, ipv6?, hcut]
    dsimp only
    rw [ipv6Side?_piecesText h]
    simp [hlength]
  · have hzeros : zerosInFront (numbers.drop place) = count := hspec.resolve_right (by omega)
    have hsplit : numbers = numbers.take place ++ List.replicate count 0 ++ numbers.drop (place + count) := by
      have hdrop := zeros_of_zerosInFront (numbers.drop place)
      rw [hzeros, List.drop_drop] at hdrop
      rw [List.append_assoc, ← hdrop, List.take_append_drop]
    have hlengths := congrArg List.length hsplit
    simp only [List.length_append, List.length_replicate, hlength] at hlengths
    have hcount : 8 - ((numbers.take place).length + (numbers.drop (place + count)).length) = count := by omega
    have htext : (":".intercalate ((numbers.take place).map fun number => String.ofList (Nat.toDigits 16 number)) ++
        "::" ++ ":".intercalate ((numbers.drop (place + count)).map fun number =>
          String.ofList (Nat.toDigits 16 number))).toList =
        piecesText (numbers.take place) ++ ':' :: ':' :: piecesText (numbers.drop (place + count)) := by
      rw [String.toList_append, String.toList_append, toList_shown, toList_shown, List.append_assoc]
      rfl
    rw [htext, ipv6?_gap (fun n hn => h n (List.mem_of_mem_take hn)) (fun n hn => h n (List.mem_of_mem_drop hn))
      (by omega), hcount, ← hsplit]

theorem ipv6Piece?_lt (h : ipv6Piece? digits = some n) : n < 65536 := by
  rw [ipv6Piece?] at h
  split_ifs at h with hbad
  simp only [Bool.or_eq_true, decide_eq_true_eq, not_or, Nat.not_lt] at hbad
  calc n < 16 ^ digits.length := number?_lt h
    _ ≤ 16 ^ 4 := Nat.pow_le_pow_right (by decide) hbad.2

theorem plainByte?_le (h : plainByte? digits = some n) : n ≤ 255 := by
  rw [plainByte?.eq_def] at h
  split at h
  · cases h
  · cases h
  · exact of_decide_eq_true (Option.filter_eq_some_iff.mp h).2

theorem embeddedIpv4?_lt (h : embeddedIpv4? text = some numbers) : ∀ n ∈ numbers, n < 65536 := by
  rw [embeddedIpv4?] at h
  obtain ⟨bytes, hbytes, hrest⟩ := Option.bind_eq_some_iff.mp h
  have hbound : ∀ byte ∈ bytes, byte ≤ 255 := by
    intro byte hbyte
    obtain ⟨piece, _, hpiece⟩ := exists_left_of_forall₂ (Outcome.mapM_eq_some_iff.mp hbytes) hbyte
    exact plainByte?_le hpiece
  split at hrest
  · rw [Option.some.injEq] at hrest
    subst hrest
    simp at hbound ⊢
    omega
  · cases hrest

theorem ipv6Pieces?_lt {mayEndInIpv4 : Bool} {texts : List (List Char)}
    (h : ipv6Pieces? mayEndInIpv4 texts = some numbers) : ∀ n ∈ numbers, n < 65536 := by
  induction texts generalizing numbers with
  | nil =>
      cases h
      exact fun n hn => absurd hn List.not_mem_nil
  | cons text texts ih =>
      have hpiece : ∀ {piece}, ipv6Piece? text = some piece → piece < 65536 := ipv6Piece?_lt
      cases texts with
      | nil =>
          rw [ipv6Pieces?] at h
          split_ifs at h
          · exact embeddedIpv4?_lt h
          · obtain ⟨piece, hfound, rfl⟩ := Option.map_eq_some_iff.mp h
            exact List.forall_mem_singleton.mpr (hpiece hfound)
      | cons next texts =>
          rw [ipv6Pieces?] at h
          · obtain ⟨piece, hfound, hrest⟩ := Option.bind_eq_some_iff.mp h
            obtain ⟨others, hothers, hnumbers⟩ := Option.bind_eq_some_iff.mp hrest
            cases hnumbers
            exact List.forall_mem_cons.mpr ⟨hpiece hfound, ih hothers⟩
          · simp

theorem ipv6Side?_lt {mayEndInIpv4 : Bool} (h : ipv6Side? mayEndInIpv4 text = some numbers) :
    ∀ n ∈ numbers, n < 65536 := by
  rw [ipv6Side?] at h
  split_ifs at h
  · cases h
    exact fun n hn => absurd hn List.not_mem_nil
  · exact ipv6Pieces?_lt h

/-- An address is made of eight pieces of two bytes. -/
theorem ipv6?_bounds (h : ipv6? text = some numbers) : numbers.length = 8 ∧ ∀ n ∈ numbers, n < 65536 := by
  rw [ipv6?] at h
  split at h
  · obtain ⟨found, hfound, hrest⟩ := Option.bind_eq_some_iff.mp h
    split_ifs at hrest with hlength
    cases hrest
    exact ⟨hlength, ipv6Side?_lt hfound⟩
  · obtain ⟨before, hbefore, hrest⟩ := Option.bind_eq_some_iff.mp h
    obtain ⟨behind, hbehind, hrest⟩ := Option.bind_eq_some_iff.mp hrest
    dsimp only at hrest
    split_ifs at hrest with hcount
    cases hrest
    constructor
    · simp only [List.length_append, List.length_replicate]
      omega
    · intro n hn
      rcases List.mem_append.mp hn with hn | hn
      · rcases List.mem_append.mp hn with hn | hn
        · exact ipv6Side?_lt hbefore n hn
        · rw [List.eq_of_mem_replicate hn]
          decide
      · exact ipv6Side?_lt hbehind n hn

end ApiProxy.Url
