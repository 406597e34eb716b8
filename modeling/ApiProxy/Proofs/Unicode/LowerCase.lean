import Mathlib.Data.List.Forall2
import Mathlib.Tactic.SplitIfs
import ApiProxy.Proofs.Unicode.CodeSet
import ApiProxy.Unicode.Letter

/-! Small letters. What a character is lowered to is a small letter, which nothing lowers any further; only the dotted
capital I becomes two characters, of which the second is a mark. Some capitals have no small letter and stay as they
are. -/

namespace ApiProxy.Unicode

variable {c d : Char} {shift : Shift} {code : Nat}

/-- No character moves below the small letters of ASCII, and none out of the range of characters. -/
theorem lowerShifts_range : ∀ shift ∈ lowerShifts, 0x61 ≤ shift.run.first + shift.distance ∧
    (shift.run.last + shift.distance < 0xD800 ∨
      0xDFFF < shift.run.first + shift.distance ∧ shift.run.last + shift.distance < 0x110000) := by
  decide +kernel

theorem toNat_ofNat_apply (hshift : shift ∈ lowerShifts) (hholds : shift.run.holds code = true) :
    (Char.ofNat (shift.apply code)).toNat = shift.apply code := by
  have hrange := (lowerShifts_range shift hshift).2
  simp only [Run.holds, Bool.and_eq_true, decide_eq_true_eq] at hholds
  have hvalid : (shift.apply code).isValidChar := by
    rw [Nat.isValidChar, Shift.apply]
    omega
  have hchar : Char.ofNat (shift.apply code) = Char.ofNatAux (shift.apply code) hvalid := dif_pos hvalid
  rw [hchar]
  rfl

def lowerSources : List Run := lowerShifts.map Shift.run

def lowerImages : List Run := lowerShifts.map Shift.image

/-- The shifts lead to small letters, and none of them starts where another one ends. -/
theorem lowerImages_settled : runSet lowerImages ||| runSet lowercaseRuns = runSet lowercaseRuns ∧
    runSet lowerImages ||| runSet alphabeticRuns = runSet alphabeticRuns ∧
      runSet lowerImages &&& runSet lowerSources = 0 := by
  decide +kernel

theorem uppercase_disjoint_lowercase : runSet uppercaseRuns &&& runSet lowercaseRuns = 0 := by decide +kernel

theorem isLowercase_eq_false_of_isUppercase (h : isUppercase c = true) : isLowercase c = false :=
  covers_eq_false uppercase_disjoint_lowercase h

/-! ### One character -/

theorem find?_lowerExpansions (hdotted : c ≠ 'İ') : lowerExpansions.find? (·.1 == c.toNat) = none := by
  have hcode : c.toNat ≠ 0x130 := fun h => hdotted (Char.toNat_inj.mp h)
  simp [lowerExpansions, hcode.symm]

theorem toLower_eq_self (hsource : covers lowerSources c = false) (hdotted : c ≠ 'İ') : toLower c = [c] := by
  have hrun : lowerShifts.find? (·.run.holds c.toNat) = none := by
    rw [List.find?_eq_none]
    intro shift hshift hholds
    have hcovers : covers lowerSources c = true :=
      covers_iff.mpr ⟨shift.run, List.mem_map_of_mem hshift, hholds⟩
    rw [hsource] at hcovers
    cases hcovers
  rw [toLower, mapCase, find?_lowerExpansions hdotted, hrun]

theorem toLower_dotted :
    toLower 'İ' = ['i', '\u0307'] ∧ toLower 'i' = ['i'] ∧ toLower '\u0307' = ['\u0307'] := by
  decide +kernel

theorem toLower_sigma : toLower 'Σ' = ['σ'] ∧ toLower 'σ' = ['σ'] := by decide +kernel

/-- What a shift takes a character to is a small letter, and no shift takes that anywhere else. -/
theorem image_of_lowerShifts (hshift : shift ∈ lowerShifts) (hholds : shift.run.holds c.toNat = true) :
    covers lowercaseRuns (Char.ofNat (shift.apply c.toNat)) = true ∧
      covers alphabeticRuns (Char.ofNat (shift.apply c.toNat)) = true ∧
        covers lowerSources (Char.ofNat (shift.apply c.toNat)) = false := by
  have hfirst : 0 ≤ shift.run.first + shift.distance := by
    have hlow := (lowerShifts_range shift hshift).1
    omega
  have himage : (runSet lowerImages).testBit (Char.ofNat (shift.apply c.toNat)).toNat = true := by
    rw [testBit_runSet, toNat_ofNat_apply hshift hholds, List.any_eq_true]
    exact ⟨shift.image, List.mem_map_of_mem hshift, Shift.holds_image hfirst hholds⟩
  rw [← testBit_runSet_toNat, ← testBit_runSet_toNat, ← testBit_runSet_toNat]
  obtain ⟨hlowercase, halphabetic, hsources⟩ := lowerImages_settled
  exact ⟨testBit_of_subset hlowercase himage, testBit_of_subset halphabetic himage,
    testBit_of_disjoint hsources himage⟩

/-- A character that is lowered to another one, which is then a small letter for good. -/
structure IsMoved (c d : Char) : Prop where
  ne : toLower c ≠ [c]
  lowercase : isLowercase d = true
  alphanumeric : isAlphanumeric d = true
  settled : toLower d = [d]

theorem isMoved_of_lowerShifts (hshift : shift ∈ lowerShifts) (hholds : shift.run.holds c.toNat = true)
    (hlower : toLower c = [Char.ofNat (shift.apply c.toNat)]) : IsMoved c (Char.ofNat (shift.apply c.toNat)) := by
  obtain ⟨hlowercase, halphabetic, hsource⟩ := image_of_lowerShifts hshift hholds
  have hdotted : Char.ofNat (shift.apply c.toNat) ≠ 'İ' := by
    intro hd
    rw [hd] at hlowercase
    exact absurd hlowercase (by decide +kernel)
  constructor
  · intro hself
    have hc : covers lowerSources c = true := covers_iff.mpr ⟨shift.run, List.mem_map_of_mem hshift, hholds⟩
    rw [hlower, List.cons.injEq] at hself
    rw [hself.1, hc] at hsource
    cases hsource
  · exact hlowercase
  · rw [isAlphanumeric, isAlphabetic, halphabetic, Bool.true_or]
  · exact toLower_eq_self hsource hdotted

theorem toLower_cases (c : Char) :
    toLower c = [c] ∨ (c = 'İ' ∧ toLower c = ['i', '\u0307']) ∨ ∃ d, toLower c = [d] ∧ IsMoved c d := by
  by_cases hdotted : c = 'İ'
  · subst hdotted
    exact Or.inr (Or.inl ⟨rfl, toLower_dotted.1⟩)
  cases hfound : lowerShifts.find? (·.run.holds c.toNat) with
  | none =>
      apply Or.inl
      apply toLower_eq_self _ hdotted
      rw [Bool.eq_false_iff, Ne, covers_iff]
      rintro ⟨run, hrun, hholds⟩
      obtain ⟨shift, hshift, rfl⟩ := List.mem_map.mp hrun
      exact List.find?_eq_none.mp hfound shift hshift hholds
  | some shift =>
      have hholds := List.find?_some hfound
      have hlower : toLower c = [Char.ofNat (shift.apply c.toNat)] := by
        rw [toLower, mapCase, find?_lowerExpansions hdotted, hfound]
      exact Or.inr (Or.inr ⟨_, hlower, isMoved_of_lowerShifts (List.mem_of_find?_eq_some hfound) hholds hlower⟩)

/-! ### Words -/

/-- A capital for which there is no small letter. -/
def isUnpaired (c : Char) : Bool := isUppercase c && toLower c == [c]

/-- What may stand for a character where a word is written in small letters. A sigma has a form of its own at the end
of a word. -/
inductive Lowers : Char → Char → Prop where
  | plain {c d : Char} (h : toLower c = [d]) : Lowers c d
  | final : Lowers 'Σ' 'ς'

theorem isMoved_sigma : IsMoved 'Σ' 'ς' := by
  have hmoved : toLower 'Σ' ≠ ['Σ'] ∧ isLowercase 'ς' = true ∧ isAlphanumeric 'ς' = true ∧ toLower 'ς' = ['ς'] := by
    decide +kernel
  exact ⟨hmoved.1, hmoved.2.1, hmoved.2.2.1, hmoved.2.2.2⟩

theorem Lowers.cases (h : Lowers c d) : (d = c ∧ toLower c = [c]) ∨ IsMoved c d := by
  cases h with
  | final => exact Or.inr isMoved_sigma
  | plain h =>
      rcases toLower_cases c with hself | ⟨rfl, hdotted⟩ | ⟨image, himage, hmoved⟩
      · rw [hself, List.cons.injEq] at h
        exact Or.inl ⟨h.1.symm, hself⟩
      · rw [hdotted, List.cons.injEq] at h
        cases h.2
      · rw [himage, List.cons.injEq] at h
        exact Or.inr (h.1 ▸ hmoved)

theorem Lowers.isAlphanumeric (h : Lowers c d) (hc : isAlphanumeric c = true) : isAlphanumeric d = true := by
  rcases h.cases with ⟨rfl, _⟩ | hmoved
  · exact hc
  · exact hmoved.alphanumeric

/-- Capitals are left exactly where there are no small letters for them. -/
theorem Lowers.isUppercase_iff (h : Lowers c d) : isUppercase d = true ↔ isUnpaired c = true := by
  rw [isUnpaired, Bool.and_eq_true, beq_iff_eq]
  rcases h.cases with ⟨rfl, hself⟩ | hmoved
  · exact ⟨fun hupper => ⟨hupper, hself⟩, fun hunpaired => hunpaired.1⟩
  · refine iff_of_false (fun hupper => ?_) fun hunpaired => hmoved.ne hunpaired.2
    have hlower := isLowercase_eq_false_of_isUppercase hupper
    rw [hmoved.lowercase] at hlower
    cases hlower

theorem Lowers.isLowercase_iff (h : Lowers c d) : isLowercase d = true ↔ isLowercase c = true ∨ toLower c ≠ [c] := by
  rcases h.cases with ⟨rfl, hself⟩ | hmoved
  · simp [hself]
  · exact iff_of_true hmoved.lowercase (Or.inr hmoved.ne)

theorem Lowers.isNumeric (h : Lowers c d) (hd : isNumeric d = true) : isNumeric c = true ∨ toLower c ≠ [c] := by
  rcases h.cases with ⟨rfl, _⟩ | hmoved
  · exact Or.inl hd
  · exact Or.inr hmoved.ne

theorem Lowers.of_ne_dotted (hdotted : c ≠ 'İ') : ∃ d, toLower c = [d] ∧ Lowers c d := by
  rcases toLower_cases c with hself | ⟨rfl, _⟩ | ⟨d, hd, _⟩
  · exact ⟨c, hself, .plain hself⟩
  · exact absurd rfl hdotted
  · exact ⟨d, hd, .plain hd⟩

theorem forall₂_lowercaseAfter {word : List Char} (hdotted : 'İ' ∉ word) (before : List Char) :
    List.Forall₂ Lowers word (lowercaseAfter before word) := by
  induction word generalizing before with
  | nil => exact .nil
  | cons c rest ih =>
      rw [List.mem_cons, not_or] at hdotted
      rw [lowercaseAfter]
      by_cases hsigma : c = 'Σ'
      · subst hsigma
        rw [if_pos rfl]
        split
        · exact .cons .final (ih hdotted.2 _)
        · exact .cons (.plain toLower_sigma.1) (ih hdotted.2 _)
      · obtain ⟨d, hd, hlowers⟩ := Lowers.of_ne_dotted (Ne.symm hdotted.1)
        rw [if_neg hsigma, hd]
        exact .cons hlowers (ih hdotted.2 _)

theorem forall₂_lowercase {word : List Char} (hdotted : 'İ' ∉ word) : List.Forall₂ Lowers word (lowercase word) :=
  forall₂_lowercaseAfter hdotted []

/-- A word in small letters is not lowered any further. -/
theorem toLower_of_mem_lowercaseAfter {word before : List Char} (h : d ∈ lowercaseAfter before word) :
    toLower d = [d] := by
  induction word generalizing before with
  | nil => cases h
  | cons c rest ih =>
      rw [lowercaseAfter, List.mem_append] at h
      rcases h with h | h
      · split_ifs at h
        · cases List.mem_singleton.mp h
          exact isMoved_sigma.settled
        · cases List.mem_singleton.mp h
          exact toLower_sigma.2
        · rcases toLower_cases c with hself | ⟨rfl, hdotted⟩ | ⟨image, himage, hmoved⟩
          · rw [hself, List.mem_singleton] at h
            rw [h, hself]
          · rw [hdotted] at h
            rcases List.mem_pair.mp h with rfl | rfl
            · exact toLower_dotted.2.1
            · exact toLower_dotted.2.2
          · rw [himage, List.mem_singleton] at h
            rw [h, hmoved.settled]
      · exact ih h

theorem lowercaseAfter_eq_self {word : List Char} (h : ∀ c ∈ word, toLower c = [c]) (before : List Char) :
    lowercaseAfter before word = word := by
  induction word generalizing before with
  | nil => rfl
  | cons c rest ih =>
      rw [List.forall_mem_cons] at h
      have hsigma : c ≠ 'Σ' := by
        rintro rfl
        exact isMoved_sigma.ne h.1
      rw [lowercaseAfter, if_neg hsigma, h.1, ih h.2]
      rfl

theorem lowercase_eq_self {word : List Char} (h : ∀ c ∈ word, toLower c = [c]) : lowercase word = word :=
  lowercaseAfter_eq_self h []

end ApiProxy.Unicode
