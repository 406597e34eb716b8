import Mathlib.Data.List.Basic
import ApiProxy.Words

/-! The words of a name hold its letters and numbers and nothing else, and none of them is empty. So a name has a
spelling in kebab case as soon as one of its characters is a letter or a number. -/

namespace ApiProxy

open Unicode

namespace Words

theorem split_cons_of_not {c : Char} (hc : isAlphanumeric c = false) (rest : List Char) :
    split (c :: rest) = split rest := by
  rw [split.eq_def]
  exact if_neg (ne_true_of_eq_false hc)

/-- A letter or a number starts a word of its own or goes in front of the first word of what follows. -/
theorem split_cons_cases {c : Char} (hc : isAlphanumeric c = true) (rest : List Char) :
    split (c :: rest) = [c] :: split rest ∨
      ∃ word words, split rest = word :: words ∧ split (c :: rest) = (c :: word) :: words := by
  rw [split.eq_def]
  dsimp only
  rw [if_pos hc]
  split
  next next after word words hwords =>
    rw [hwords]
    split_ifs
    · exact Or.inr ⟨word, words, rfl, rfl⟩
    · exact Or.inl rfl
  next => exact Or.inl rfl

theorem flatten_split (text : List Char) : (split text).flatten = text.filter isAlphanumeric := by
  induction text with
  | nil => rfl
  | cons c rest ih =>
      by_cases hc : isAlphanumeric c = true
      · rw [List.filter_cons_of_pos hc, ← ih]
        rcases split_cons_cases hc rest with h | ⟨word, words, hrest, h⟩
        · rw [h]
          rfl
        · rw [h, hrest]
          rfl
      · rw [List.filter_cons_of_neg hc, ← ih, split_cons_of_not (eq_false_of_ne_true hc)]

theorem ne_nil_of_mem_split {text word : List Char} (h : word ∈ split text) : word ≠ [] := by
  induction text generalizing word with
  | nil => cases h
  | cons c rest ih =>
      by_cases hc : isAlphanumeric c = true
      · rcases split_cons_cases hc rest with hsplit | ⟨first, words, hrest, hsplit⟩
        · rw [hsplit] at h
          rcases List.mem_cons.mp h with rfl | h
          · exact List.cons_ne_nil c []
          · exact ih h
        · rw [hsplit] at h
          rcases List.mem_cons.mp h with rfl | h
          · exact List.cons_ne_nil c first
          · exact ih (hrest ▸ List.mem_cons_of_mem first h)
      · rw [split_cons_of_not (eq_false_of_ne_true hc)] at h
        exact ih h

theorem split_eq_nil_iff {text : List Char} : split text = [] ↔ ∀ c ∈ text, isAlphanumeric c = false := by
  have hfilter : text.filter isAlphanumeric = [] ↔ ∀ c ∈ text, isAlphanumeric c = false := by
    rw [List.filter_eq_nil_iff]
    exact forall₂_congr fun c _ => by rw [Bool.not_eq_true]
  rw [← hfilter, ← flatten_split]
  constructor
  · intro h
    rw [h]
    rfl
  · intro h
    rw [List.flatten_eq_nil_iff] at h
    exact List.eq_nil_iff_forall_not_mem.mpr fun word hword => ne_nil_of_mem_split hword (h word hword)

end Words

/-! ### Lower case -/

theorem toLower_ne_nil (c : Char) : toLower c ≠ [] := by
  have hexpansions : ∀ entry ∈ lowerExpansions, entry.2 ≠ [] := by decide
  rw [toLower, mapCase]
  split
  next codes hfound =>
    have hcodes := hexpansions _ (List.mem_of_find?_eq_some hfound)
    exact fun h => hcodes (List.map_eq_nil_iff.mp h)
  next => split <;> exact List.cons_ne_nil _ _

theorem lowercase_ne_nil {word : List Char} (h : word ≠ []) : lowercase word ≠ [] := by
  obtain ⟨c, rest, rfl⟩ := List.exists_cons_of_ne_nil h
  rw [lowercase, lowercaseAfter]
  refine List.append_ne_nil_of_left_ne_nil ?_ _
  split_ifs
  · exact List.cons_ne_nil _ _
  · exact List.cons_ne_nil _ _
  · exact toLower_ne_nil c

theorem kebab_eq_nil_iff {text : List Char} : Words.kebab text = [] ↔ ∀ c ∈ text, isAlphanumeric c = false := by
  rw [← Words.split_eq_nil_iff, Words.kebab]
  cases hsplit : Words.split text with
  | nil => simp
  | cons word words =>
      have hword : word ∈ Words.split text := hsplit ▸ List.mem_cons_self
      have hlower := lowercase_ne_nil (Words.ne_nil_of_mem_split hword)
      refine iff_of_false ?_ (List.cons_ne_nil word words)
      cases words with
      | nil => simpa using hlower
      | cons next others => simp [List.intercalate_cons_cons, hlower]

theorem kebabCase_isEmpty_iff {name : String} :
    (kebabCase name).isEmpty = true ↔ ∀ c ∈ name.toList, isAlphanumeric c = false := by
  rw [← kebab_eq_nil_iff, String.isEmpty_iff, kebabCase, String.ofList_eq_empty_iff]

end ApiProxy
