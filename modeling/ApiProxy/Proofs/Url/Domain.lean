import Mathlib.Data.Bool.AllAny
import ApiProxy.Proofs.Outcome
import ApiProxy.Proofs.Text.Pieces
import ApiProxy.Proofs.Unicode.LowerCase
import ApiProxy.Proofs.Unicode.Normal
import ApiProxy.Proofs.Url.Punycode
import ApiProxy.Url.Domain.Name

/-! The ASCII form of a host name is its own ASCII form. It is made of characters that are mapped to themselves, so it is
cut where it was joined; a label in ASCII was valid as it stands, and any other one is read back from its Punycode. -/

namespace ApiProxy.Url.Domain

open Unicode

variable {c : Char} {label name ascii : List Char}

/-! ### Characters that stay -/

/-- A character in ASCII that may stand in a name and that is not mapped to another one. -/
structure Stays (c : Char) : Prop where
  ascii : c.toNat < asciiEnd
  admitted : isAdmitted c = true
  mapped : mapped c = [c]

/-- Hyphens, dots, digits and small letters. -/
def plainRuns : List Run := [⟨0x2D, 0x2E, 1⟩, ⟨0x30, 0x39, 1⟩, ⟨0x61, 0x7A, 1⟩]

/-- The plain characters have a form, and none of them is a capital. -/
theorem plain_disjoint :
    runSet plainRuns &&& runSet formlessRuns = 0 ∧ runSet plainRuns &&& runSet lowerSources = 0 := by
  decide +kernel

/-- The tables by which a character is refused, ignored or mapped begin behind ASCII. -/
theorem tables_begin : (∀ run ∈ visibleRefusedRuns, asciiEnd ≤ run.first) ∧
    (∀ run ∈ ignoredRuns, asciiEnd ≤ run.first) ∧ (∀ shift ∈ shifts, asciiEnd ≤ shift.run.first) ∧
      (∀ run ∈ substitutes, asciiEnd ≤ run.code) ∧ ∀ run ∈ expansions, asciiEnd ≤ run.code := by
  decide +kernel

theorem mapped_ascii (hc : c.toNat < asciiEnd) : mapped c = toLower c := by
  obtain ⟨_, hignoredRuns, hshifts, hsubstitutes, hexpansions⟩ := tables_begin
  have hignored : covers ignoredRuns c = false := covers_eq_false_of_begin hignoredRuns hc
  have hshift : shifts.find? (fun shift => shift.run.holds c.toNat) = none := by
    rw [List.find?_eq_none]
    intro shift hshift hholds
    have hbegin := hshifts shift hshift
    simp only [Run.holds, Bool.and_eq_true, decide_eq_true_eq] at hholds
    omega
  have hsingleton : singleton? substitutes c.toNat = none := by
    rw [singleton?, List.findSome?_eq_none_iff]
    intro run hrun
    have hbegin := hsubstitutes run hrun
    exact if_pos (by omega)
  have hexpansion : expansion? c.toNat = none := by
    rw [expansion?, List.findSome?_eq_none_iff]
    intro run hrun
    have hbegin := hexpansions run hrun
    exact if_pos (by omega)
  have hcase : keepsCase c = false := by
    rw [asciiEnd] at hc
    simp only [keepsCase, Bool.and_eq_false_iff, decide_eq_false_iff_not]
    omega
  rw [mapped, hignored, hshift, hsingleton, hexpansion, hcase]
  rfl

theorem stays_of_plain (h : covers plainRuns c = true) : Stays c := by
  have hascii : c.toNat < asciiEnd := by
    obtain ⟨run, hrun, hholds⟩ := covers_iff.mp h
    have hlast : ∀ run ∈ plainRuns, run.last < asciiEnd := by decide
    simp only [Run.holds, Bool.and_eq_true, decide_eq_true_eq] at hholds
    have hrunLast := hlast run hrun
    omega
  refine ⟨hascii, ?_, ?_⟩
  · rw [isAdmitted, covers_eq_false plain_disjoint.1 h,
      covers_eq_false_of_begin tables_begin.1 hascii]
    rfl
  · rw [mapped_ascii hascii]
    apply toLower_eq_self (covers_eq_false plain_disjoint.2 h)
    rintro rfl
    exact absurd hascii (by decide)

theorem plain_of_isDigit (h : Punycode.IsDigit c) : covers plainRuns c = true ∧ c ≠ '.' := by
  have hdigits : ∀ value < 36, covers plainRuns (Punycode.digit value) = true ∧ Punycode.digit value ≠ '.' := by
    decide +kernel
  obtain ⟨value, hvalue, rfl⟩ := h
  exact hdigits value hvalue

/-! ### Labels -/

/-- A label that may be part of a name, in words. -/
structure Valid (label : List Char) : Prop where
  unmarked : aceMark.isPrefixOf label = false
  undotted : '.' ∉ label
  admitted : ∀ c ∈ label, isAdmitted c = true
  mapped : ∀ c ∈ label, mapped c = [c]

theorem valid_of_isValid (h : isValid label = true) : Valid label := by
  simp only [isValid, Bool.and_eq_true, Bool.not_eq_true', List.all_eq_true, beq_iff_eq, List.contains_eq_mem,
    decide_eq_false_iff_not] at h
  obtain ⟨⟨⟨⟨⟨_, hunmarked⟩, hundotted⟩, _⟩, hall⟩, _⟩ := h
  exact ⟨hunmarked, hundotted, fun c hc => (hall c hc).1, fun c hc => (hall c hc).2⟩

theorem isAscii_iff : Punycode.isAscii c = true ↔ c.toNat < asciiEnd := decide_eq_true_iff

theorem stays_of_mem_asciiLabel (h : Valid label) (hc : c ∈ asciiLabel label) : Stays c ∧ c ≠ '.' := by
  have hown : ∀ d ∈ label, Punycode.isAscii d = true → Stays d ∧ d ≠ '.' := fun d hd hascii =>
    ⟨⟨isAscii_iff.mp hascii, h.admitted d hd, h.mapped d hd⟩, fun hdot => h.undotted (hdot ▸ hd)⟩
  have hplain : ∀ d, covers plainRuns d = true → d ≠ '.' → Stays d ∧ d ≠ '.' := fun d hd hdot =>
    ⟨stays_of_plain hd, hdot⟩
  rw [asciiLabel] at hc
  split_ifs at hc with hascii
  · exact hown c hc (List.all_eq_true.mp hascii c hc)
  · rcases List.mem_append.mp hc with hc | hc
    · have hmark : ∀ d ∈ aceMark, covers plainRuns d = true ∧ d ≠ '.' :=
        List.all_iff_forall_prop.mp (by decide)
      exact hplain c (hmark c hc).1 (hmark c hc).2
    · rcases Punycode.mem_encode hc with hdigit | rfl | ⟨hc, hascii⟩
      · exact hplain c (plain_of_isDigit hdigit).1 (plain_of_isDigit hdigit).2
      · exact hplain '-' (by decide) (by decide)
      · exact hown c hc hascii

/-- A label is found again in its ASCII form. -/
theorem unicodeLabel?_asciiLabel (h : isValid label = true) : unicodeLabel? (asciiLabel label) = some label := by
  have hvalid := valid_of_isValid h
  cases hascii : label.all Punycode.isAscii with
  | true =>
      have hself : asciiLabel label = label := if_pos hascii
      rw [hself, unicodeLabel?, hvalid.unmarked]
      exact Option.filter_eq_some_iff.mpr ⟨rfl, h⟩
  | false =>
      have hform : asciiLabel label = aceMark ++ Punycode.encode label := if_neg (ne_true_of_eq_false hascii)
      have hmarked : aceMark.isPrefixOf (asciiLabel label) = true := by
        rw [hform, List.isPrefixOf_iff_prefix]
        exact List.prefix_append _ _
      have hdrop : (asciiLabel label).drop aceMark.length = Punycode.encode label := by
        rw [hform, List.drop_left]
      have hall : (Punycode.encode label).all Punycode.isAscii = true := by
        rw [List.all_eq_true]
        intro c hc
        have hmem : c ∈ asciiLabel label := hform ▸ List.mem_append_right aceMark hc
        exact isAscii_iff.mpr (stays_of_mem_asciiLabel hvalid hmem).1.ascii
      rw [unicodeLabel?, hmarked, hdrop, decodeLabel?, hall, Punycode.decode?_encode]
      simp [Option.filter_eq_some_iff, hascii, h]

/-! ### Names -/

theorem flatMap_mapped (h : ∀ c ∈ name, Stays c) : name.flatMap mapped = name := by
  induction name with
  | nil => rfl
  | cons c name ih =>
      rw [List.forall_mem_cons] at h
      rw [List.flatMap_cons, h.1.mapped, ih h.2]
      rfl

/-- The ASCII form that labels are joined to. -/
def joined? (labels : List (List Char)) : Option (List Char) :=
  if labels.any hasRightToLeft && !labels.all obeysDirection then none
  else if (joinPieces '.' (labels.map asciiLabel)).any isForbidden then none
  else some (joinPieces '.' (labels.map asciiLabel))

theorem toAscii?_eq (name : List Char) : toAscii? name = if !name.all isAdmitted then none
    else ((pieces (· = '.') (normalized (name.flatMap mapped))).mapM unicodeLabel?).bind joined? := by
  rw [toAscii?]
  split_ifs
  · rfl
  · refine congrArg _ (funext fun labels => ?_)
    rw [joined?]
    by_cases hdirection : (labels.any hasRightToLeft && !labels.all obeysDirection) = true
    · rw [if_pos hdirection, if_pos hdirection]
      rfl
    · rw [if_neg hdirection, if_neg hdirection]

theorem of_joined? {labels : List (List Char)} (h : joined? labels = some ascii) :
    joinPieces '.' (labels.map asciiLabel) = ascii ∧ ∀ c ∈ ascii, isForbidden c = false := by
  rw [joined?] at h
  split_ifs at h with _ hforbidden
  rw [Option.some.injEq] at h
  refine ⟨h, fun c hc => ?_⟩
  rw [h, List.any_eq_true] at hforbidden
  exact Bool.eq_false_iff.mpr fun hbad => hforbidden ⟨c, hc, hbad⟩

theorem isValid_of_unicodeLabel? {shown : List Char} (h : unicodeLabel? label = some shown) : isValid shown = true :=
  (Option.filter_eq_some_iff.mp h).2

/-- The labels of a name that has an ASCII form are valid, and joined they are the form. -/
theorem labels_of_toAscii? (h : toAscii? name = some ascii) :
    ∃ labels, labels ≠ [] ∧ (∀ label ∈ labels, isValid label = true) ∧ joined? labels = some ascii := by
  rw [toAscii?_eq] at h
  split_ifs at h
  obtain ⟨labels, hlabels, hjoined⟩ := Option.bind_eq_some_iff.mp h
  have hshown := Outcome.mapM_eq_some_iff.mp hlabels
  refine ⟨labels, ?_, fun label hlabel => ?_, hjoined⟩
  · rintro rfl
    exact pieces_ne_nil _ _ (List.forall₂_nil_right_iff.mp hshown)
  · obtain ⟨piece, _, hpiece⟩ := exists_left_of_forall₂ hshown hlabel
    exact isValid_of_unicodeLabel? hpiece

/-- A name in ASCII is cut into its labels as it stands. -/
theorem toAscii?_of_stays (h : ∀ c ∈ name, Stays c) :
    toAscii? name = ((pieces (· = '.') name).mapM unicodeLabel?).bind joined? := by
  have hadmitted : name.all isAdmitted = true := List.all_eq_true.mpr fun c hc => (h c hc).admitted
  rw [toAscii?_eq, hadmitted, flatMap_mapped h, normalized_ascii fun c hc => (h c hc).ascii]
  rfl

theorem stays_of_mem_part {labels : List (List Char)} (hvalid : ∀ label ∈ labels, isValid label = true) {part : List Char}
    (hpart : part ∈ labels.map asciiLabel) (hc : c ∈ part) : Stays c ∧ c ≠ '.' := by
  obtain ⟨label, hlabel, rfl⟩ := List.mem_map.mp hpart
  exact stays_of_mem_asciiLabel (valid_of_isValid (hvalid label hlabel)) hc

theorem stays_of_joined? {labels : List (List Char)} (hvalid : ∀ label ∈ labels, isValid label = true)
    (h : joined? labels = some ascii) : ∀ c ∈ ascii, Stays c := by
  intro c hc
  rw [← (of_joined? h).1] at hc
  rcases mem_joinPieces hc with rfl | ⟨part, hpart, hc⟩
  · exact stays_of_plain (by decide)
  · exact (stays_of_mem_part hvalid hpart hc).1

/-- What a form is joined from is found again in it. -/
theorem toAscii?_of_joined? {labels : List (List Char)} (hne : labels ≠ [])
    (hvalid : ∀ label ∈ labels, isValid label = true) (h : joined? labels = some ascii) :
    toAscii? ascii = some ascii := by
  have hpieces : pieces (· = '.') ascii = labels.map asciiLabel := by
    rw [← (of_joined? h).1]
    apply pieces_joinPieces
    · exact fun hnil => hne (List.map_eq_nil_iff.mp hnil)
    · exact fun part hpart hdot => (stays_of_mem_part hvalid hpart hdot).2 rfl
  have hlabels : (labels.map asciiLabel).mapM unicodeLabel? = some labels := by
    rw [Outcome.mapM_eq_some_iff, List.forall₂_map_left_iff, List.forall₂_same]
    exact fun label hlabel => unicodeLabel?_asciiLabel (hvalid label hlabel)
  rw [toAscii?_of_stays (stays_of_joined? hvalid h), hpieces, hlabels]
  exact h

theorem toAscii?_toAscii? (h : toAscii? name = some ascii) : toAscii? ascii = some ascii := by
  obtain ⟨labels, hne, hvalid, hjoined⟩ := labels_of_toAscii? h
  exact toAscii?_of_joined? hne hvalid hjoined

/-- A form is in ASCII, and none of its characters has a meaning of its own in a URL. -/
theorem of_toAscii? (h : toAscii? name = some ascii) :
    ∀ c ∈ ascii, c.toNat < asciiEnd ∧ isForbidden c = false := by
  obtain ⟨labels, _, hvalid, hjoined⟩ := labels_of_toAscii? h
  exact fun c hc => ⟨(stays_of_joined? hvalid hjoined c hc).ascii, (of_joined? hjoined).2 c hc⟩

/-! ### Numeric names -/

theorem marks_begin :
    (∀ run ∈ extendingRuns, asciiEnd ≤ run.first) ∧ ∀ run ∈ spacingMarkRuns, asciiEnd ≤ run.first := by
  decide +kernel

theorem isMark_ascii (hc : c.toNat < asciiEnd) : isMark c = false := by
  rw [isMark, covers_eq_false_of_begin marks_begin.1 hc, covers_eq_false_of_begin marks_begin.2 hc]
  rfl

theorem joinersFit_ascii (h : ∀ c ∈ label, c.toNat < asciiEnd) (before : List Char) : joinersFit before label = true := by
  induction label generalizing before with
  | nil => rfl
  | cons c label ih =>
      rw [List.forall_mem_cons] at h
      have hjoiner : c ≠ joiner ∧ c ≠ nonJoiner := by
        constructor
        all_goals
          rintro rfl
          exact absurd h.1 (by decide)
      rw [joinersFit, if_neg hjoiner.1, if_neg hjoiner.2, ih h.2]
      rfl

def decimalDigits : List Char := "0123456789".toList

theorem decimalDigits_plain : ∀ c ∈ decimalDigits,
    covers plainRuns c = true ∧ c ≠ '.' ∧ isForbidden c = false ∧ direction c = .europeanNumber :=
  List.all_iff_forall_prop.mp (by decide +kernel)

theorem isValid_of_decimal (h : ∀ c ∈ label, c ∈ decimalDigits) : isValid label = true := by
  have hstays : ∀ c ∈ label, Stays c := fun c hc => stays_of_plain (decimalDigits_plain c (h c hc)).1
  have hascii : ∀ c ∈ label, c.toNat < asciiEnd := fun c hc => (hstays c hc).ascii
  have hundotted : '.' ∉ label := fun hc => (decimalDigits_plain '.' (h '.' hc)).2.1 rfl
  have hmark : aceMark.isPrefixOf label = false := by
    rw [Bool.eq_false_iff, Ne, List.isPrefixOf_iff_prefix]
    intro hbegins
    exact absurd (h 'x' (hbegins.subset List.mem_cons_self)) (by decide)
  have hhead : label.head?.any isMark = false := by
    cases label with
    | nil => rfl
    | cons c label => exact isMark_ascii (hascii c List.mem_cons_self)
  have hall : label.all (fun c => isAdmitted c && mapped c == [c]) = true := by
    rw [List.all_eq_true]
    intro c hc
    rw [(hstays c hc).admitted, (hstays c hc).mapped]
    simp
  simp [isValid, normalized_ascii hascii, hundotted, hmark, hhead, hall, joinersFit_ascii hascii]

/-- A name that is made of numbers is its own form. -/
theorem toAscii?_numeric {parts : List (List Char)} (hne : parts ≠ [])
    (h : ∀ part ∈ parts, ∀ c ∈ part, c ∈ decimalDigits) :
    toAscii? (joinPieces '.' parts) = some (joinPieces '.' parts) := by
  apply toAscii?_of_joined? hne fun part hpart => isValid_of_decimal (h part hpart)
  have hself : parts.map asciiLabel = parts := by
    rw [List.map_congr_left (g := id), List.map_id]
    intro part hpart
    apply if_pos
    rw [List.all_eq_true]
    exact fun c hc => isAscii_iff.mpr (stays_of_plain (decimalDigits_plain c (h part hpart c hc)).1).ascii
  have hdirection : parts.any hasRightToLeft = false := by
    rw [List.any_eq_false]
    intro part hpart hbad
    obtain ⟨c, hc, hbad⟩ := List.any_eq_true.mp hbad
    rw [(decimalDigits_plain c (h part hpart c hc)).2.2.2] at hbad
    cases hbad
  have hallowed : (joinPieces '.' parts).any isForbidden = false := by
    rw [List.any_eq_false]
    intro c hc
    rcases mem_joinPieces hc with rfl | ⟨part, hpart, hc⟩
    · decide
    · rw [(decimalDigits_plain c (h part hpart c hc)).2.2.1]
      exact Bool.false_ne_true
  rw [joined?, hdirection, hself, hallowed]
  rfl

end ApiProxy.Url.Domain
