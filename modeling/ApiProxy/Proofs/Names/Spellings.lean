import Mathlib.Data.Bool.AllAny
import Mathlib.Tactic.MkIffOfInductiveProp
import ApiProxy.Proofs.Names.KebabTwice

/-! One name in many spellings. Words of small ASCII letters and digits can be written with separators between them, with
capitals in front, or with both. Where a word begins is told by a separator in one spelling and by a capital in another,
and as every word has a second character that is no capital, both lead to the same words. So all spellings of a name
have the same kebab case and the same camel case, and so has the kebab case itself, which is one of them. -/

namespace ApiProxy

open Unicode

/-- A word of a name in small letters. Its second character tells a capital in front of it from an acronym. -/
structure Word where
  first : Char
  others : List Char
  letter : first.isLower = true
  others_ne_nil : others ≠ []
  small : ∀ c ∈ others, c.isLower = true ∨ c.isDigit = true

namespace Word

def text (word : Word) : List Char := word.first :: word.others

def capitalized (word : Word) : List Char := word.first.toUpper :: word.others

/-- A word as it stands in a name. -/
inductive Form (word : Word) : List Char → Prop where
  | small : Form word word.text
  | capital : Form word word.capitalized

end Word

/-- One or more characters that no word holds. -/
structure IsSeparator (run : List Char) : Prop where
  ne_nil : run ≠ []
  apart : ∀ c ∈ run, isAlphanumeric c = false

/-- How a name goes on behind its first word: a further word is told by a separator or by its capital. -/
inductive GoesOnWith : List Word → List Char → Prop where
  | done : GoesOnWith [] []
  | separated {word : Word} {words : List Word} {run form rest : List Char} (hrun : IsSeparator run)
      (hform : word.Form form) (hrest : GoesOnWith words rest) : GoesOnWith (word :: words) (run ++ form ++ rest)
  | capital {word : Word} {words : List Word} {rest : List Char} (hrest : GoesOnWith words rest) :
      GoesOnWith (word :: words) (word.capitalized ++ rest)

/-- The spellings of a name. -/
inductive Spells : List Word → List Char → Prop where
  | intro {word : Word} {words : List Word} {form rest : List Char} (hform : word.Form form)
      (hrest : GoesOnWith words rest) : Spells (word :: words) (form ++ rest)

/-! ### The spellings by name -/

def pascalText (words : List Word) : List Char := words.flatMap Word.capitalized

def camelText : List Word → List Char
  | [] => []
  | first :: later => first.text ++ later.flatMap Word.capitalized

def kebabText (words : List Word) : List Char := List.intercalate ['-'] (words.map Word.text)

/-- The words in small letters with the runs between them. -/
def separatedText : List Word → List (List Char) → List Char
  | first :: later, runs => first.text ++ (List.zipWith (fun run word => run ++ word.text) runs later).flatten
  | [], _ => []

theorem goesOnWith_capitals (words : List Word) : GoesOnWith words (words.flatMap Word.capitalized) := by
  induction words with
  | nil => exact .done
  | cons word words ih => exact .capital ih

theorem goesOnWith_separated {words : List Word} {runs : List (List Char)} (hlength : runs.length = words.length)
    (hruns : ∀ run ∈ runs, IsSeparator run) :
    GoesOnWith words (List.zipWith (fun run word => run ++ word.text) runs words).flatten := by
  induction words generalizing runs with
  | nil =>
      rw [List.zipWith_nil_right]
      exact .done
  | cons word words ih =>
      cases runs with
      | nil => cases hlength
      | cons run runs =>
          rw [List.forall_mem_cons] at hruns
          exact .separated hruns.1 .small (ih (Nat.succ.inj hlength) hruns.2)

theorem spells_pascalText (first : Word) (later : List Word) : Spells (first :: later) (pascalText (first :: later)) :=
  .intro .capital (goesOnWith_capitals later)

theorem spells_camelText (first : Word) (later : List Word) : Spells (first :: later) (camelText (first :: later)) :=
  .intro .small (goesOnWith_capitals later)

theorem spells_separatedText (first : Word) {later : List Word} {runs : List (List Char)}
    (hlength : runs.length = later.length) (hruns : ∀ run ∈ runs, IsSeparator run) :
    Spells (first :: later) (separatedText (first :: later) runs) :=
  .intro .small (goesOnWith_separated hlength hruns)

theorem isSeparator_hyphen : IsSeparator ['-'] where
  ne_nil := List.cons_ne_nil _ _
  apart := List.forall_mem_singleton.mpr (by decide +kernel)

/-- Kebab case is the spelling with hyphens. -/
theorem spells_kebabText (first : Word) (later : List Word) : Spells (first :: later) (kebabText (first :: later)) := by
  have htext : kebabText (first :: later) =
      separatedText (first :: later) (List.replicate later.length ['-']) := by
    rw [kebabText, separatedText]
    induction later generalizing first with
    | nil => simp
    | cons word later ih =>
        rw [List.map_cons, List.map_cons, List.intercalate_cons_cons, ← List.map_cons, ih word]
        simp [List.replicate_succ]
  rw [htext]
  apply spells_separatedText first List.length_replicate
  intro run hrun
  exact List.eq_of_mem_replicate hrun ▸ isSeparator_hyphen

/-! ### Letters and digits of ASCII -/

theorem between_iff {first last : UInt32} {c : Char} : (decide (first ≤ c.val) && decide (c.val ≤ last)) = true ↔
    first.toNat ≤ c.toNat ∧ c.toNat ≤ last.toNat := by
  rw [Bool.and_eq_true, decide_eq_true_iff, decide_eq_true_iff, UInt32.le_iff_toNat_le, UInt32.le_iff_toNat_le]
  rfl

theorem isLower_iff {c : Char} : c.isLower = true ↔ 97 ≤ c.toNat ∧ c.toNat ≤ 122 := between_iff

theorem isDigit_iff {c : Char} : c.isDigit = true ↔ 48 ≤ c.toNat ∧ c.toNat ≤ 57 := between_iff

theorem forall_between {P : Char → Prop} {first last : Nat} (h : ∀ n < last + 1, first ≤ n → P (Char.ofNat n)) {c : Char}
    (hc : first ≤ c.toNat ∧ c.toNat ≤ last) : P c := by
  have hcode := h c.toNat (Nat.lt_succ_of_le hc.2) hc.1
  rwa [Char.ofNat_toNat] at hcode

/-- A small letter with a capital of its own. -/
@[mk_iff]
structure IsPaired (c : Char) : Prop where
  alphanumeric : isAlphanumeric c = true
  lowered : toLower c = [c]
  raised : toUpper c = [c.toUpper]
  capital_alphanumeric : isAlphanumeric c.toUpper = true
  capital_uppercase : isUppercase c.toUpper = true
  capital_lowered : toLower c.toUpper = [c]
  capital_raised : toUpper c.toUpper = [c.toUpper]

theorem isPaired_of_isLower {c : Char} (h : c.isLower = true) : IsPaired c := by
  have hletters : ∀ n < 122 + 1, 97 ≤ n → IsPaired (Char.ofNat n) := by
    simp only [isPaired_iff]
    decide +kernel
  exact forall_between hletters (isLower_iff.mp h)

/-- A character that begins no word, stays as it is in small letters, and lets a capital behind it begin a word. -/
@[mk_iff]
structure IsInner (c : Char) : Prop where
  alphanumeric : isAlphanumeric c = true
  not_uppercase : isUppercase c = false
  before_capital : (isLowercase c || isNumeric c) = true
  lowered : toLower c = [c]

theorem isInner_of_small {c : Char} (h : c.isLower = true ∨ c.isDigit = true) : IsInner c := by
  have hletters : ∀ n < 122 + 1, 97 ≤ n → IsInner (Char.ofNat n) := by
    simp only [isInner_iff]
    decide +kernel
  have hdigits : ∀ n < 57 + 1, 48 ≤ n → IsInner (Char.ofNat n) := by
    simp only [isInner_iff]
    decide +kernel
  rcases h with h | h
  · exact forall_between hletters (isLower_iff.mp h)
  · exact forall_between hdigits (isDigit_iff.mp h)

namespace Word

variable (word : Word) {form : List Char}

theorem isPaired_first : IsPaired word.first := isPaired_of_isLower word.letter

theorem isInner_of_mem : ∀ c ∈ word.others, IsInner c := fun c hc => isInner_of_small (word.small c hc)

theorem Form.exists_first (h : word.Form form) : ∃ c, form = c :: word.others ∧ isAlphanumeric c = true ∧
    toLower c = [word.first] ∧ toUpper c = [word.first.toUpper] := by
  have hpaired := word.isPaired_first
  cases h with
  | small => exact ⟨_, rfl, hpaired.alphanumeric, hpaired.lowered, hpaired.raised⟩
  | capital => exact ⟨_, rfl, hpaired.capital_alphanumeric, hpaired.capital_lowered, hpaired.capital_raised⟩

end Word

/-! ### The words of a spelling -/

namespace Words

variable {rest later run form : List Char} {word : Word} {words : List Word} {forms : List (List Char)}

/-- Nothing of what follows belongs to a word in front of it that ends in a small letter or a digit. -/
def EndsWord (rest : List Char) : Prop := ∀ c ∈ rest.head?, isAlphanumeric c = false ∨ isUppercase c = true

theorem EndsWord.goesOn_eq_false (h : EndsWord rest) {c : Char} (hc : (isLowercase c || isNumeric c) = true) :
    goesOn c rest = false := by
  cases rest with
  | nil => rfl
  | cons next after =>
      rcases h next rfl with hnext | hnext
      · rw [goesOn, hnext, Bool.false_and]
      · rw [goesOn, startsWord, hnext, hc]
        simp

theorem split_append_of_inner {c : Char} (hc : isAlphanumeric c = true) (hlater : ∀ d ∈ later, IsInner d)
    (hrest : EndsWord rest) (hstop : later = [] → goesOn c rest = false) :
    split (c :: (later ++ rest)) = (c :: later) :: split rest := by
  -- along the word: nothing in `later` is a capital, so `c` is followed by its own word until `rest` begins
  induction later generalizing c with
  | nil => exact split_cons_of_not_goesOn hc (hstop rfl)
  | cons d later ih =>
      rw [List.forall_mem_cons] at hlater
      obtain ⟨hd, hlater⟩ := hlater
      have hsplit := ih hd.alphanumeric hlater fun _ => hrest.goesOn_eq_false hd.before_capital
      have hon : goesOn c (d :: later ++ rest) = true := by
        simp [goesOn, startsWord, hd.alphanumeric, hd.not_uppercase]
      obtain ⟨word, words, hword, hcons⟩ := split_cons_of_goesOn hc hon
      rw [List.cons_append, hsplit, List.cons.injEq] at hword
      rw [hcons, ← hword.1, ← hword.2]

theorem split_append_of_apart (h : ∀ c ∈ run, isAlphanumeric c = false) : split (run ++ rest) = split rest := by
  induction run with
  | nil => rfl
  | cons c run ih =>
      rw [List.forall_mem_cons] at h
      rw [List.cons_append, split_cons_of_not h.1, ih h.2]

theorem split_form_append (hform : word.Form form) (hrest : EndsWord rest) :
    split (form ++ rest) = form :: split rest := by
  obtain ⟨c, rfl, hc, -⟩ := hform.exists_first
  exact split_append_of_inner hc word.isInner_of_mem hrest fun hnil => absurd hnil word.others_ne_nil

theorem endsWord_of_goesOnWith (h : GoesOnWith words rest) : EndsWord rest := by
  intro c hc
  cases h with
  | done => cases hc
  | separated hrun _ _ =>
      obtain ⟨first, others, rfl⟩ := List.exists_cons_of_ne_nil hrun.ne_nil
      cases hc
      exact Or.inl (hrun.apart c List.mem_cons_self)
  | @capital word _ _ _ =>
      cases hc
      exact Or.inr word.isPaired_first.capital_uppercase

theorem forms_of_goesOnWith (h : GoesOnWith words rest) : List.Forall₂ Word.Form words (split rest) := by
  induction h with
  | done => exact .nil
  | separated hrun hform hrest ih =>
      rw [List.append_assoc, split_append_of_apart hrun.apart, split_form_append hform (endsWord_of_goesOnWith hrest)]
      exact .cons hform ih
  | capital hrest ih =>
      rw [split_form_append .capital (endsWord_of_goesOnWith hrest)]
      exact .cons .capital ih

theorem forms_of_spells (h : Spells words rest) : List.Forall₂ Word.Form words (split rest) := by
  obtain ⟨hform, hrest⟩ := h
  rw [split_form_append hform (endsWord_of_goesOnWith hrest)]
  exact .cons hform (forms_of_goesOnWith hrest)

/-! ### The words written again -/

theorem lowercase_form (h : word.Form form) : lowercase form = word.text := by
  obtain ⟨c, rfl, -, hlowered, -⟩ := h.exists_first
  -- the one letter whose small form depends on what stands around it
  have hsigma : c ≠ 'Σ' := by
    rintro rfl
    have hletter := word.letter
    have hlower : toLower 'Σ' = ['σ'] := by decide +kernel
    rw [← List.singleton_inj.mp (hlower.symm.trans hlowered)] at hletter
    cases hletter
  rw [lowercase, lowercaseAfter, if_neg hsigma, hlowered,
    lowercaseAfter_eq_self fun d hd => (word.isInner_of_mem d hd).lowered]
  rfl

theorem capitalize_form (h : word.Form form) : capitalize form = word.capitalized := by
  obtain ⟨c, rfl, -, -, hraised⟩ := h.exists_first
  have hothers : word.others.flatMap toLower = word.others := by
    rw [List.flatMap_congr fun d hd => (word.isInner_of_mem d hd).lowered]
    exact List.flatMap_singleton' word.others
  rw [capitalize, hraised, hothers]
  rfl

theorem map_lowercase_forms (h : List.Forall₂ Word.Form words forms) : forms.map lowercase = words.map Word.text := by
  induction h with
  | nil => rfl
  | cons hform _ ih => rw [List.map_cons, List.map_cons, lowercase_form hform, ih]

theorem flatMap_capitalize_forms (h : List.Forall₂ Word.Form words forms) :
    forms.flatMap capitalize = words.flatMap Word.capitalized := by
  induction h with
  | nil => rfl
  | cons hform _ ih => rw [List.flatMap_cons, List.flatMap_cons, capitalize_form hform, ih]

theorem kebab_of_spells (h : Spells words rest) : kebab rest = kebabText words := by
  rw [kebab, map_lowercase_forms (forms_of_spells h), kebabText]

theorem camel_of_spells (h : Spells (word :: words) rest) : camel rest = camelText (word :: words) := by
  obtain ⟨form, forms, hform, hforms, hsplit⟩ := List.forall₂_cons_left_iff.mp (forms_of_spells h)
  rw [camel, hsplit, camelText, ← lowercase_form hform, ← flatMap_capitalize_forms hforms]

end Words

/-- Words joined by separators, in Pascal case or in camel case are spellings of one name. All spellings of a name have
the same kebab case, its words with hyphens between them, and the same camel case; the kebab case has this one, too. -/
theorem spellings_agree (first : Word) (later : List Word) :
    (∀ runs : List (List Char), runs.length = later.length → (∀ run ∈ runs, IsSeparator run) →
      Spells (first :: later) (separatedText (first :: later) runs)) ∧
    Spells (first :: later) (pascalText (first :: later)) ∧
    Spells (first :: later) (camelText (first :: later)) ∧
    ∀ name : String, Spells (first :: later) name.toList →
      kebabCase name = String.ofList (kebabText (first :: later)) ∧
      camelCase name = String.ofList (camelText (first :: later)) ∧
      camelCase (kebabCase name) = camelCase name := by
  refine ⟨fun runs hlength hruns => spells_separatedText first hlength hruns, spells_pascalText first later,
    spells_camelText first later, fun name hname => ?_⟩
  have hkebab : kebabCase name = String.ofList (kebabText (first :: later)) := by
    rw [kebabCase, Words.kebab_of_spells hname]
  have hcamel : camelCase name = String.ofList (camelText (first :: later)) := by
    rw [camelCase, Words.camel_of_spells hname]
  refine ⟨hkebab, hcamel, ?_⟩
  rw [hkebab, hcamel, camelCase, String.toList_ofList, Words.camel_of_spells (spells_kebabText first later)]

def oauth2Word : Word := ⟨'o', "auth2".toList, by decide, by decide, List.all_iff_forall_prop.mp (by decide)⟩

def clientWord : Word := ⟨'c', "lient".toList, by decide, by decide, List.all_iff_forall_prop.mp (by decide)⟩

theorem oauth2_client_spellings_agree :
    separatedText [oauth2Word, clientWord] [" ._".toList] = "oauth2 ._client".toList ∧
      camelCase (kebabCase "oauth2 ._client") = camelCase "oauth2 ._client" ∧
      pascalText [oauth2Word, clientWord] = "Oauth2Client".toList ∧ kebabCase "Oauth2Client" = "oauth2-client" ∧
      camelText [oauth2Word, clientWord] = "oauth2Client".toList ∧ camelCase "oauth2Client" = "oauth2Client" := by
  obtain ⟨hseparated, hpascal, hcamel, hagree⟩ := spellings_agree oauth2Word [clientWord]
  have hrun : IsSeparator " ._".toList := ⟨by decide, List.all_iff_forall_prop.mp (by decide +kernel)⟩
  have htext := hseparated [" ._".toList] rfl (List.forall_mem_singleton.mpr hrun)
  refine ⟨by decide, (hagree "oauth2 ._client" ?_).2.2, by decide, (hagree "Oauth2Client" ?_).1, by decide,
    (hagree "oauth2Client" ?_).2.1⟩
  · exact htext
  · exact hpascal
  · exact hcamel

end ApiProxy
