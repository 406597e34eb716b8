import ApiProxy.Proofs.Names.Words
import ApiProxy.Proofs.Text.Pieces
import ApiProxy.Proofs.Unicode.LowerCase

/-! Kebab case for all names. A word holds letters and numbers alone, and lower case brings none of the characters
into it that mean something in a path, and no hyphen. So the hyphens of a spelling are those between its words, and
as no word is empty there is none at an end and no two stand together. -/

namespace ApiProxy

open Unicode

/-- The hyphen of kebab case and the characters to which a path gives a meaning. -/
def pathMarks : List Char := ['-', '/', '\\', '.', '\x00']

theorem notMem_pathMarks_of_isAlphanumeric {c : Char} (h : isAlphanumeric c = true) : c ∉ pathMarks := by
  have hmarks : pathMarks.all (!isAlphanumeric ·) = true := by decide +kernel
  intro hc
  have hmark := List.all_eq_true.mp hmarks c hc
  rw [h] at hmark
  cases hmark

/-! ### Lower case -/

theorem notMem_pathMarks_of_mem_toLower {c d : Char} (hc : isAlphanumeric c = true) (hd : d ∈ toLower c) :
    d ∉ pathMarks := by
  rcases toLower_cases c with hself | ⟨rfl, hdotted⟩ | ⟨image, himage, hmoved⟩
  · rw [hself, List.mem_singleton] at hd
    exact hd ▸ notMem_pathMarks_of_isAlphanumeric hc
  · rw [hdotted] at hd
    rcases List.mem_pair.mp hd with rfl | rfl
    · decide
    · decide
  · rw [himage, List.mem_singleton] at hd
    exact hd ▸ notMem_pathMarks_of_isAlphanumeric hmoved.alphanumeric

theorem notMem_pathMarks_of_mem_lowercaseAfter {word : List Char} (h : ∀ c ∈ word, isAlphanumeric c = true)
    (before : List Char) {d : Char} (hd : d ∈ lowercaseAfter before word) : d ∉ pathMarks := by
  have hsigmas : 'ς' ∉ pathMarks ∧ 'σ' ∉ pathMarks := by decide
  induction word generalizing before with
  | nil => cases hd
  | cons c rest ih =>
      rw [List.forall_mem_cons] at h
      rw [lowercaseAfter, List.mem_append] at hd
      rcases hd with hd | hd
      · split_ifs at hd
        · exact List.mem_singleton.mp hd ▸ hsigmas.1
        · exact List.mem_singleton.mp hd ▸ hsigmas.2
        · exact notMem_pathMarks_of_mem_toLower h.1 hd
      · exact ih h.2 (c :: before) hd

namespace Words

theorem isAlphanumeric_of_mem_split {text word : List Char} (hword : word ∈ split text) :
    ∀ c ∈ word, isAlphanumeric c = true := by
  intro c hc
  have hflat : c ∈ text.filter isAlphanumeric := flatten_split text ▸ List.mem_flatten_of_mem hword hc
  exact (List.mem_filter.mp hflat).2

theorem kebab_parts {text part : List Char} (h : part ∈ (split text).map lowercase) :
    part ≠ [] ∧ ∀ c ∈ part, c ∉ pathMarks := by
  obtain ⟨word, hword, rfl⟩ := List.mem_map.mp h
  refine ⟨lowercase_ne_nil (ne_nil_of_mem_split hword), fun c hc => ?_⟩
  exact notMem_pathMarks_of_mem_lowercaseAfter (isAlphanumeric_of_mem_split hword) [] hc

theorem notMem_kebab {text : List Char} {mark : Char} (hmark : mark ∈ pathMarks) (hhyphen : mark ≠ '-') :
    mark ∉ kebab text := by
  intro h
  rcases mem_joinPieces h with heq | ⟨part, hpart, hc⟩
  · exact hhyphen heq
  · exact (kebab_parts hpart).2 mark hc hmark

/-- Cutting a spelling in kebab case at its hyphens gives the words back, none of which is empty. -/
theorem nil_notMem_pieces_kebab {text : List Char} (h : kebab text ≠ []) :
    [] ∉ pieces (· = '-') (kebab text) := by
  have hne : (split text).map lowercase ≠ [] := by
    intro hnil
    exact h (congrArg (List.intercalate ['-']) hnil)
  have hfree : ∀ part ∈ (split text).map lowercase, '-' ∉ part := fun part hpart hc =>
    (kebab_parts hpart).2 '-' hc List.mem_cons_self
  have hpieces : pieces (· = '-') (kebab text) = (split text).map lowercase := pieces_joinPieces hne hfree
  rw [hpieces]
  exact fun hnil => (kebab_parts hnil).1 rfl

/-- Where no piece is empty, the hyphens stand one by one between other characters. -/
theorem hyphens_between {text : List Char} (h : [] ∉ pieces (· = '-') text) :
    text.head? ≠ some '-' ∧ text.getLast? ≠ some '-' ∧ ¬['-', '-'] <:+: text := by
  have hcut : ∀ front back, text = front ++ '-' :: back →
      [] ∉ pieces (· = '-') front ∧ [] ∉ pieces (· = '-') back := by
    rintro front back rfl
    rw [pieces_append_cons (decide_eq_true rfl), List.mem_append, not_or] at h
    exact h
  refine ⟨?_, ?_, ?_⟩
  · intro hfirst
    obtain ⟨rest, hrest⟩ := List.head?_eq_some_iff.mp hfirst
    exact (hcut [] rest hrest).1 List.mem_cons_self
  · intro hlast
    obtain ⟨front, hfront⟩ := List.getLast?_eq_some_iff.mp hlast
    exact (hcut front [] hfront).2 List.mem_cons_self
  · rintro ⟨front, back, hdouble⟩
    have hsplit : text = front ++ '-' :: ('-' :: back) := by simp [← hdouble]
    refine (hcut front ('-' :: back) hsplit).2 ?_
    exact List.mem_cons_self

end Words

end ApiProxy
