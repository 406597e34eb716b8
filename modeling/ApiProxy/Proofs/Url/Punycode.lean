import Mathlib.Data.List.Basic
import Mathlib.Data.List.TakeDrop
import Mathlib.Data.List.TakeWhile
import Mathlib.Tactic.Ring
import ApiProxy.Url.Domain.Punycode

/-! Punycode is read back. While the places of a code point are written, the reader has all characters of smaller code
points, and those of this one in front of the place where the writer is. The steps that it has taken and those that the
writer still has to write add up to that place, so it puts the next character just there. -/

namespace ApiProxy.Url.Domain.Punycode

variable {bias place weight value n code asciiCount : Nat} {c : Char} {front back label text rest : List Char}
  {encoder : Encoder}

/-! ### Numbers -/

theorem digitValue?_digit : ∀ value < 36, digitValue? (digit value) = some value := by decide

/-- A number falls apart into its first digit and the number that the other digits are. -/
theorem first_digit {least : Nat} (hleast : least ≤ 26) (hmore : ¬n < least) :
    least + (n - least) % (36 - least) < 36 ∧
      least + (n - least) % (36 - least) + (36 - least) * ((n - least) / (36 - least)) = n := by
  have hrest : (n - least) % (36 - least) < 36 - least := Nat.mod_lt _ (by omega)
  have hdivision := Nat.mod_add_div (n - least) (36 - least)
  omega

theorem readNumber?_number (rest : List Char) :
    readNumber? bias place weight value (number bias place n ++ rest) = some (value + n * weight, rest) := by
  induction n using Nat.strong_induction_on generalizing place weight value with
  | _ n ih =>
      have hbounds := threshold_bounds bias place
      rw [number]
      split_ifs with hless
      · have hdigit : n < 36 := by omega
        rw [List.singleton_append, readNumber?, digitValue?_digit n hdigit]
        exact if_pos hless
      · obtain ⟨hdigit, hsum⟩ := first_digit hbounds.2 hless
        have hsmaller : (n - threshold bias place) / (36 - threshold bias place) < n :=
          Nat.lt_of_le_of_lt (Nat.div_le_self _ _) (by omega)
        rw [List.cons_append, readNumber?, digitValue?_digit _ hdigit, Option.bind_some]
        dsimp only
        rw [if_neg (Nat.not_lt.mpr (Nat.le_add_right _ _)), ih _ hsmaller]
        congr 2
        generalize threshold bias place = least at hsum
        calc value + (least + (n - least) % (36 - least)) * weight +
              (n - least) / (36 - least) * (weight * (36 - least))
            = value +
                (least + (n - least) % (36 - least) + (36 - least) * ((n - least) / (36 - least))) * weight := by
              ring
          _ = value + n * weight := by rw [hsum]

theorem number_ne_nil : number bias place n ≠ [] := by
  rw [number]
  split_ifs <;> simp

/-! ### The reader beside the writer -/

/-- What the reader has: the characters that it has put in their places, and where it goes on from. -/
structure Reader where
  label : List Char
  code : Nat
  place : Nat
  bias : Nat

def Reader.finish (reader : Reader) (text : List Char) : Option (List Char) :=
  insertAll? reader.label reader.code reader.place reader.bias text

/-- A text takes the reader from one state to another. -/
def Reader.Reads (reader : Reader) (text : List Char) (later : Reader) : Prop :=
  ∀ tail, reader.finish (text ++ tail) = later.finish tail

theorem Reader.Reads.trans {reader later last : Reader} {more : List Char} (h : reader.Reads text later)
    (hmore : later.Reads more last) : reader.Reads (text ++ more) last := by
  intro tail
  rw [List.append_assoc, h, hmore]

/-- The writer passes between two halves of a label, to write the places of `code`. -/
structure Beside (asciiCount code : Nat) (front back : List Char) (encoder : Encoder) (reader : Reader) : Prop where
  label : reader.label = front.filter (·.toNat ≤ code) ++ back.filter (·.toNat < code)
  handled : encoder.handled = reader.label.length
  enough : asciiCount ≤ encoder.handled
  first : reader.place = 0 ↔ encoder.handled = asciiCount
  bias : reader.bias = encoder.bias
  steps : reader.code * (reader.label.length + 1) + reader.place + encoder.delta =
    code * (reader.label.length + 1) + (front.filter (·.toNat ≤ code)).length

/-- What the writer adds to its output takes the reader along. -/
def Accompanied (asciiCount code : Nat) (front back : List Char) (encoder later : Encoder) (reader : Reader) : Prop :=
  ∃ text reader', later.output = encoder.output ++ text ∧ reader.Reads text reader' ∧
    Beside asciiCount code front back later reader'

/-- The places of a text are read as the writer has counted them. -/
theorem finish_number {reader : Reader} (hcode : reader.code + (reader.place + n) / (reader.label.length + 1) = c.toNat)
    (tail : List Char) :
    reader.finish (number reader.bias 36 n ++ tail) =
      let spot := (reader.place + n) % (reader.label.length + 1)
      insertAll? (reader.label.take spot ++ c :: reader.label.drop spot) c.toNat (spot + 1)
        (adapt n (reader.label.length + 1) (reader.place = 0)) tail := by
  have hvalid : c.toNat.isValidChar := c.valid
  have hne : (number reader.bias 36 n ++ tail).isEmpty = false := by
    rw [List.isEmpty_eq_false_iff]
    exact List.append_ne_nil_of_left_ne_nil number_ne_nil _
  rw [Reader.finish, insertAll?, if_neg (ne_true_of_eq_false hne)]
  split
  next hnone =>
    rw [readNumber?_number] at hnone
    cases hnone
  next total rest hread =>
    rw [readNumber?_number, Nat.mul_one, Option.some.injEq, Prod.mk.injEq] at hread
    obtain ⟨rfl, rfl⟩ := hread
    dsimp only
    rw [hcode, if_pos hvalid, Char.ofNat_toNat, Nat.add_sub_cancel_left]

theorem quotient_and_remainder {steps base whole part : Nat} (h : place * base + steps = whole * base + part)
    (hpart : part < base) : place + steps / base = whole ∧ steps % base = part := by
  have hbase : 0 < base := Nat.zero_lt_of_lt hpart
  constructor
  · calc place + steps / base = (place * base + steps) / base := by
          rw [Nat.add_comm (place * base), Nat.add_mul_div_right _ _ hbase, Nat.add_comm]
      _ = whole := by
          rw [h, Nat.add_comm (whole * base), Nat.add_mul_div_right _ _ hbase, Nat.div_eq_of_lt hpart, Nat.zero_add]
  · calc steps % base = (place * base + steps) % base := by rw [Nat.mul_add_mod_self_right]
      _ = part := by rw [h, Nat.mul_add_mod_self_right, Nat.mod_eq_of_lt hpart]

/-- The writer comes to a character whose place it writes. -/
theorem accompanied_written {reader : Reader} (hcode : c.toNat = code)
    (h : Beside asciiCount code front (c :: back) encoder reader) :
    Accompanied asciiCount code (front ++ [c]) back encoder
      { output := encoder.output ++ number encoder.bias 36 encoder.delta
        delta := 0
        bias := adapt encoder.delta (encoder.handled + 1) (encoder.handled = asciiCount)
        handled := encoder.handled + 1 } reader := by
  obtain ⟨hlabel, hhandled, henough, hfirst, hbias, hsteps⟩ := h
  have hbehind : (c :: back).filter (·.toNat < code) = back.filter (·.toNat < code) := by simp [hcode]
  have hfront : (front ++ [c]).filter (·.toNat ≤ code) = front.filter (·.toNat ≤ code) ++ [c] := by simp [hcode]
  rw [hbehind] at hlabel
  generalize hearlier : front.filter (·.toNat ≤ code) = earlier at hlabel hsteps hfront
  generalize hlater : back.filter (·.toNat < code) = later at hlabel
  have hspot : earlier.length < reader.label.length + 1 := by
    rw [hlabel, List.length_append]
    omega
  rw [Nat.add_assoc] at hsteps
  obtain ⟨hwhole, hpart⟩ := quotient_and_remainder hsteps hspot
  refine ⟨number encoder.bias 36 encoder.delta,
    ⟨earlier ++ c :: later, code, earlier.length + 1,
      adapt encoder.delta (encoder.handled + 1) (encoder.handled = asciiCount)⟩, rfl, fun tail => ?_, ?_⟩
  · have hflag : decide (reader.place = 0) = decide (encoder.handled = asciiCount) := decide_eq_decide.mpr hfirst
    rw [← hbias, finish_number (hwhole.trans hcode.symm)]
    dsimp only
    rw [hpart, hlabel, List.take_left, List.drop_left, hcode, hflag, Reader.finish, hhandled, hlabel]
  · constructor
    · rw [hfront, hlater, List.append_assoc, List.singleton_append]
    · rw [hhandled, hlabel]
      simp [Nat.add_assoc]
    · exact Nat.le_succ_of_le henough
    · exact iff_of_false (Nat.succ_ne_zero _) (Nat.ne_of_gt (Nat.lt_succ_of_le henough))
    · rfl
    · have hlength : (earlier ++ [c]).length = earlier.length + 1 := List.length_append
      rw [hfront, hlength]
      exact Nat.add_zero _

theorem accompanied_pass {reader : Reader} (h : Beside asciiCount code front (c :: back) encoder reader) :
    Accompanied asciiCount code (front ++ [c]) back encoder (encoder.pass asciiCount code c) reader := by
  obtain ⟨hlabel, hhandled, henough, hfirst, hbias, hsteps⟩ := h
  rw [Encoder.pass]
  split_ifs with hless hsame
  · have hle : c.toNat ≤ code := Nat.le_of_lt hless
    refine ⟨[], reader, (List.append_nil _).symm, fun tail => rfl, ?_, hhandled, henough, hfirst, hbias, ?_⟩
    · simp [hlabel, hless, hle]
    · simp only [List.filter_append, List.filter_singleton, decide_eq_true hle, List.length_append]
      exact congrArg (· + 1) hsteps
  · exact accompanied_written hsame ⟨hlabel, hhandled, henough, hfirst, hbias, hsteps⟩
  · have hgt : ¬c.toNat ≤ code := by omega
    refine ⟨[], reader, (List.append_nil _).symm, fun tail => rfl, ?_, hhandled, henough, hfirst, hbias, ?_⟩
    · simp [hlabel, hless, hgt]
    · rw [hsteps]
      simp [hgt]

theorem accompanied_foldl {reader : Reader} (h : Beside asciiCount code front back encoder reader) :
    Accompanied asciiCount code (front ++ back) [] encoder (back.foldl (Encoder.pass asciiCount code) encoder) reader := by
  induction back generalizing front encoder reader with
  | nil =>
      rw [List.append_nil]
      exact ⟨[], reader, (List.append_nil _).symm, fun tail => rfl, h⟩
  | cons c back ih =>
      obtain ⟨text, later, houtput, hreads, hbeside⟩ := accompanied_pass h
      obtain ⟨more, last, houtput', hreads', hbeside'⟩ := ih hbeside
      rw [List.append_assoc, List.singleton_append] at hbeside'
      refine ⟨text ++ more, last, ?_, hreads.trans hreads', hbeside'⟩
      rw [List.foldl_cons, houtput', houtput, List.append_assoc]

/-! ### Whole labels -/

/-- The code points to be written: all in the label from `first` on, in their order. -/
structure Ahead (label : List Char) (first : Nat) (codes : List Nat) : Prop where
  ascending : codes.Pairwise (· < ·)
  from_first : ∀ code ∈ codes, first ≤ code
  complete : ∀ c ∈ label, first ≤ c.toNat → c.toNat ∈ codes

theorem Ahead.tail {codes : List Nat} {first : Nat} (h : Ahead label first (code :: codes)) :
    Ahead label (code + 1) codes where
  ascending := h.ascending.of_cons
  from_first := fun later hlater => List.rel_of_pairwise_cons h.ascending hlater
  complete := by
    intro c hc hcode
    have hfirst := h.from_first code List.mem_cons_self
    rcases List.mem_cons.mp (h.complete c hc (by omega)) with heq | hmem
    · omega
    · exact hmem

/-- Nothing in the label lies between two code points that follow each other. -/
theorem Ahead.filter_eq {codes : List Nat} {first : Nat} (h : Ahead label first (code :: codes)) :
    label.filter (·.toNat < first) = label.filter (·.toNat < code) := by
  apply List.filter_congr
  intro c hc
  have hfirst := h.from_first code List.mem_cons_self
  rw [decide_eq_decide]
  constructor
  · omega
  · intro hless
    by_contra hge
    rcases List.mem_cons.mp (h.complete c hc (by omega)) with heq | hmem
    · omega
    · have hlater := List.rel_of_pairwise_cons h.ascending hmem
      omega

/-- Up to the next code point there is nothing to write. -/
theorem Beside.skip {codes : List Nat} {first : Nat} {reader : Reader} (hahead : Ahead label first (code :: codes))
    (h : Beside asciiCount first [] label encoder reader) :
    Beside asciiCount code [] label { encoder with delta := encoder.delta + (code - first) * (encoder.handled + 1) }
      reader := by
  obtain ⟨hlabel, hhandled, henough, hfirst, hbias, hsteps⟩ := h
  refine ⟨?_, hhandled, henough, hfirst, hbias, ?_⟩
  · rw [hlabel, hahead.filter_eq]
    rfl
  · have hle : first ≤ code := hahead.from_first code List.mem_cons_self
    have hproduct : (code - first) * (reader.label.length + 1) + first * (reader.label.length + 1) =
        code * (reader.label.length + 1) := by
      rw [← Nat.add_mul, Nat.sub_add_cancel hle]
    simp only [List.filter_nil, List.length_nil, Nat.add_zero] at hsteps ⊢
    rw [hhandled, ← Nat.add_assoc, hsteps, Nat.add_comm, hproduct]

/-- When all places of a code point are written, those of the next one are due. -/
theorem Beside.next {reader : Reader} (h : Beside asciiCount code label [] encoder reader) :
    Beside asciiCount (code + 1) [] label { encoder with delta := encoder.delta + 1 } reader := by
  obtain ⟨hlabel, hhandled, henough, hfirst, hbias, hsteps⟩ := h
  have hfilter : label.filter (·.toNat ≤ code) = label.filter (·.toNat < code + 1) :=
    List.filter_congr fun c _ => decide_eq_decide.mpr Nat.lt_succ_iff.symm
  rw [List.filter_nil, List.append_nil] at hlabel
  refine ⟨?_, hhandled, henough, hfirst, hbias, ?_⟩
  · rw [hlabel, hfilter]
    rfl
  · rw [← hlabel] at hsteps
    simp only [List.filter_nil, List.length_nil, Nat.add_zero]
    rw [← Nat.add_assoc, hsteps]
    ring

theorem finish_passAll {codes : List Nat} {first : Nat} {reader : Reader} (hahead : Ahead label first codes)
    (h : Beside asciiCount first [] label encoder reader) :
    ∃ text, (Encoder.passAll asciiCount label encoder first codes).output = encoder.output ++ text ∧
      reader.finish text = some label := by
  induction codes generalizing first encoder reader with
  | nil =>
      have hall : label.filter (·.toNat < first) = label := by
        rw [List.filter_eq_self]
        intro c hc
        by_contra hge
        exact List.not_mem_nil (hahead.complete c hc (by simpa using hge))
      refine ⟨[], (List.append_nil _).symm, ?_⟩
      rw [Reader.finish, insertAll?, if_pos List.isEmpty_nil, h.label, hall]
      rfl
  | cons code codes ih =>
      obtain ⟨text, later, houtput, hreads, hbeside⟩ := accompanied_foldl (h.skip hahead)
      obtain ⟨more, hmore, hfinish⟩ := ih hahead.tail hbeside.next
      refine ⟨text ++ more, ?_, (hreads more).trans hfinish⟩
      rw [Encoder.passAll, hmore, houtput, List.append_assoc]

theorem pairwise_eraseDups {codes : List Nat} (h : codes.Pairwise (· ≤ ·)) : codes.eraseDups.Pairwise (· < ·) := by
  induction hlength : codes.length using Nat.strong_induction_on generalizing codes with
  | _ length ih =>
      cases codes with
      | nil => exact List.Pairwise.nil
      | cons code codes =>
          have hshorter : (codes.filter fun later => !later == code).length < length := by
            have hfilter := List.length_filter_le (fun later => !later == code) codes
            rw [List.length_cons] at hlength
            omega
          rw [List.eraseDups_cons]
          refine List.pairwise_cons.mpr ⟨fun later hlater => ?_, ih _ hshorter (h.of_cons.filter _) rfl⟩
          have hmem := List.mem_filter.mp (List.mem_eraseDups.mp hlater)
          have hle : code ≤ later := List.rel_of_pairwise_cons h hmem.1
          have hne : later ≠ code := by simpa using hmem.2
          omega

/-- The code points that are written for a label. -/
def writtenCodes (label : List Char) : List Nat :=
  (((label.filter fun c => !isAscii c).map Char.toNat).mergeSort).eraseDups

theorem mem_writtenCodes : code ∈ writtenCodes label ↔ ∃ c ∈ label, isAscii c = false ∧ c.toNat = code := by
  rw [writtenCodes, List.mem_eraseDups, List.mem_mergeSort, List.mem_map]
  simp [and_assoc]

theorem ahead_writtenCodes (label : List Char) : Ahead label 0x80 (writtenCodes label) where
  ascending := by
    have hsorted : (((label.filter fun c => !isAscii c).map Char.toNat).mergeSort).Pairwise (· ≤ ·) := by
      refine (List.pairwise_mergeSort ?_ ?_ _).imp fun hle => of_decide_eq_true hle
      · simp only [decide_eq_true_eq]
        omega
      · simp only [Bool.or_eq_true, decide_eq_true_eq]
        omega
    exact pairwise_eraseDups hsorted
  from_first := by
    intro code hcode
    obtain ⟨c, _, hascii, rfl⟩ := mem_writtenCodes.mp hcode
    simpa [isAscii] using hascii
  complete := fun c hc hcode => mem_writtenCodes.mpr ⟨c, hc, by simpa [isAscii] using hcode, rfl⟩

/-- The digits that are written behind the ASCII characters of a label. -/
def digits (label : List Char) : List Char :=
  (Encoder.passAll (label.filter isAscii).length label ⟨[], 0, 72, (label.filter isAscii).length⟩ 0x80
    (writtenCodes label)).output

theorem finish_digits (label : List Char) :
    Reader.finish ⟨label.filter isAscii, 0x80, 0, 72⟩ (digits label) = some label := by
  have hbeside : Beside (label.filter isAscii).length 0x80 [] label ⟨[], 0, 72, (label.filter isAscii).length⟩
      ⟨label.filter isAscii, 0x80, 0, 72⟩ := ⟨rfl, rfl, Nat.le_refl _, iff_of_true rfl rfl, rfl, rfl⟩
  obtain ⟨text, houtput, hfinish⟩ := finish_passAll (ahead_writtenCodes label) hbeside
  have hdigits : digits label = text := houtput
  rw [hdigits, hfinish]

theorem encode_eq (label : List Char) :
    encode label = (if (label.filter isAscii).isEmpty then [] else label.filter isAscii ++ ['-']) ++ digits label := rfl

def IsDigit (c : Char) : Prop := ∃ value < 36, c = digit value

theorem isDigit_of_mem_number (h : c ∈ number bias place n) : IsDigit c := by
  induction n using Nat.strong_induction_on generalizing place with
  | _ n ih =>
      have hbounds := threshold_bounds bias place
      rw [number] at h
      split_ifs at h with hless
      · exact ⟨n, by omega, List.mem_singleton.mp h⟩
      · have hsmaller : (n - threshold bias place) / (36 - threshold bias place) < n :=
          Nat.lt_of_le_of_lt (Nat.div_le_self _ _) (by omega)
        rcases List.mem_cons.mp h with rfl | h
        · exact ⟨_, (first_digit hbounds.2 hless).1, rfl⟩
        · exact ih _ hsmaller h

theorem pass_isDigit (h : ∀ d ∈ encoder.output, IsDigit d) :
    ∀ d ∈ (encoder.pass asciiCount code c).output, IsDigit d := by
  rw [Encoder.pass]
  split_ifs
  · exact h
  · intro d hd
    rcases List.mem_append.mp hd with hd | hd
    · exact h d hd
    · exact isDigit_of_mem_number hd
  · exact h

theorem foldl_pass_isDigit (h : ∀ d ∈ encoder.output, IsDigit d) :
    ∀ d ∈ (label.foldl (Encoder.pass asciiCount code) encoder).output, IsDigit d := by
  induction label generalizing encoder with
  | nil => exact h
  | cons c label ih => exact ih (pass_isDigit h)

theorem passAll_isDigit {codes : List Nat} {first : Nat} (h : ∀ d ∈ encoder.output, IsDigit d) :
    ∀ d ∈ (Encoder.passAll asciiCount label encoder first codes).output, IsDigit d := by
  induction codes generalizing encoder first with
  | nil => exact h
  | cons code codes ih => exact ih (foldl_pass_isDigit h)

theorem isDigit_of_mem_digits (h : c ∈ digits label) : IsDigit c :=
  passAll_isDigit (fun _ hd => absurd hd List.not_mem_nil) c h

theorem IsDigit.ne_hyphen (h : IsDigit c) : c ≠ '-' := by
  have hdigits : ∀ value < 36, digit value ≠ '-' := by decide
  obtain ⟨value, hvalue, rfl⟩ := h
  exact hdigits value hvalue

theorem mem_encode (h : c ∈ encode label) : IsDigit c ∨ c = '-' ∨ (c ∈ label ∧ isAscii c = true) := by
  rw [encode_eq] at h
  split_ifs at h with hascii
  · exact Or.inl (isDigit_of_mem_digits h)
  · rcases List.mem_append.mp h with h | h
    · rcases List.mem_append.mp h with h | h
      · exact Or.inr (Or.inr (List.mem_filter.mp h))
      · exact Or.inr (Or.inl (List.mem_singleton.mp h))
    · exact Or.inl (isDigit_of_mem_digits h)

/-- What is written is read back. -/
theorem decode?_encode (label : List Char) : decode? (encode label) = some label := by
  have hhyphen : ∀ c ∈ (digits label).reverse, decide (c ≠ '-') = true := fun c hc =>
    decide_eq_true (isDigit_of_mem_digits (List.mem_reverse.mp hc)).ne_hyphen
  have hfinish : insertAll? (label.filter isAscii) 0x80 0 72 (digits label) = some label := finish_digits label
  rw [encode_eq, decode?]
  cases hascii : (label.filter isAscii).isEmpty with
  | true =>
      rw [List.isEmpty_iff.mp hascii] at hfinish
      rw [if_pos rfl, List.nil_append, List.span_eq_takeWhile_dropWhile, List.dropWhile_eq_nil_iff.mpr hhyphen]
      exact hfinish
  | false =>
      have hreverse : ((label.filter isAscii ++ ['-']) ++ digits label).reverse =
          (digits label).reverse ++ '-' :: (label.filter isAscii).reverse := by simp
      rw [if_neg Bool.false_ne_true, hreverse, List.span_eq_takeWhile_dropWhile,
        List.takeWhile_append_of_pos hhyphen, List.dropWhile_append_of_pos hhyphen]
      have hnonempty : (label.filter isAscii).reverse.isEmpty = false := by rw [List.isEmpty_reverse, hascii]
      simpa [hnonempty] using hfinish

end ApiProxy.Url.Domain.Punycode
