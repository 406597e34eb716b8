import ApiProxy.Proofs.Names.KebabCase

/-! Kebab case of a name in kebab case. The hyphens cut the spelling where the words of the name were cut, so it stays
as it is exactly if no word falls apart when it is written in small letters. A word does that in three ways: a dotted
capital I brings a mark, which is no letter; a capital without a small letter comes to stand behind a small one; or it
comes to stand behind another such capital and in front of a small letter. -/

namespace ApiProxy

open Unicode

namespace Words

variable {text rest word : List Char} {separator c d : Char}

/-! ### Single words -/

/-- Whether the word in which `c` stands goes on behind it. -/
def goesOn (c : Char) : List Char → Bool
  | [] => false
  | next :: after => isAlphanumeric next && !startsWord c next after

theorem split_cons_of_goesOn (hc : isAlphanumeric c = true) (h : goesOn c rest = true) :
    ∃ word words, split rest = word :: words ∧ split (c :: rest) = (c :: word) :: words := by
  cases rest with
  | nil => cases h
  | cons next after =>
      have hnext : isAlphanumeric next = true := (Bool.and_eq_true_iff.mp h).1
      cases hsplit : split (next :: after) with
      | nil =>
          rw [split_eq_nil_iff.mp hsplit next List.mem_cons_self] at hnext
          cases hnext
      | cons word words =>
          refine ⟨word, words, rfl, ?_⟩
          rw [split.eq_def]
          dsimp only
          rw [if_pos hc, hsplit]
          exact if_pos h

theorem split_cons_of_not_goesOn (hc : isAlphanumeric c = true) (h : goesOn c rest = false) :
    split (c :: rest) = [c] :: split rest := by
  rw [split.eq_def]
  dsimp only
  rw [if_pos hc]
  split
  next next after word words hwords =>
    rw [hwords]
    exact if_neg (ne_true_of_eq_false h)
  next => rfl

/-- A text that is one word. -/
inductive OneWord : List Char → Prop where
  | single {c : Char} (hc : isAlphanumeric c = true) : OneWord [c]
  | cons {c : Char} {rest : List Char} (hc : isAlphanumeric c = true) (h : goesOn c rest = true)
      (hrest : OneWord rest) : OneWord (c :: rest)

theorem OneWord.split_eq (h : OneWord word) : split word = [word] := by
  induction h with
  | single hc => exact split_cons_of_not_goesOn hc rfl
  | cons hc h _ ih =>
      obtain ⟨word, words, hrest, hsplit⟩ := split_cons_of_goesOn hc h
      rw [ih, List.cons.injEq] at hrest
      rw [hsplit, ← hrest.1, ← hrest.2]

theorem OneWord.isAlphanumeric (h : OneWord word) : ∀ c ∈ word, isAlphanumeric c = true :=
  isAlphanumeric_of_mem_split (h.split_eq ▸ List.mem_singleton_self word)

/-- Where less follows, there is less to see of a new start. -/
theorem goesOn_of_begins (hbegins : word <+: rest) (hne : word ≠ []) (h : goesOn c rest = true) :
    goesOn c word = true := by
  obtain ⟨next, after, rfl⟩ := List.exists_cons_of_ne_nil hne
  obtain ⟨back, rfl⟩ := hbegins
  cases after with
  | cons third after => exact h
  | nil =>
      simp only [List.cons_append, goesOn, startsWord, Bool.and_eq_true, Bool.not_eq_true', Bool.and_eq_false_iff,
        Bool.or_eq_false_iff] at h ⊢
      refine ⟨h.1, h.2.imp_right fun hstart => ⟨hstart.1, Or.inr rfl⟩⟩

/-- The first word of a text begins it where the text begins with a letter or a number. -/
theorem first_begins {words : List (List Char)} (hc : isAlphanumeric c = true)
    (h : split (c :: rest) = word :: words) : word <+: c :: rest := by
  induction rest generalizing c word words with
  | nil =>
      rw [split_cons_of_not_goesOn hc rfl, List.cons.injEq] at h
      exact h.1 ▸ List.prefix_rfl
  | cons next after ih =>
      cases hon : goesOn c (next :: after) with
      | false =>
          rw [split_cons_of_not_goesOn hc hon, List.cons.injEq] at h
          rw [← h.1]
          exact List.prefix_append [c] _
      | true =>
          obtain ⟨first, others, hrest, hsplit⟩ := split_cons_of_goesOn hc hon
          rw [hsplit, List.cons.injEq] at h
          rw [← h.1]
          exact List.cons_prefix_cons.mpr ⟨rfl, ih (Bool.and_eq_true_iff.mp hon).1 hrest⟩

theorem oneWord_of_mem_split (h : word ∈ split text) : OneWord word := by
  induction text generalizing word with
  | nil => cases h
  | cons c rest ih =>
      by_cases hc : isAlphanumeric c = true
      · cases hon : goesOn c rest with
        | false =>
            rw [split_cons_of_not_goesOn hc hon] at h
            rcases List.mem_cons.mp h with rfl | h
            · exact .single hc
            · exact ih h
        | true =>
            obtain ⟨first, words, hrest, hsplit⟩ := split_cons_of_goesOn hc hon
            rw [hsplit] at h
            have hfirst : first ∈ split rest := hrest ▸ List.mem_cons_self
            rcases List.mem_cons.mp h with rfl | h
            · have hbegins : first <+: rest := by
                cases rest with
                | nil => cases hon
                | cons next after => exact first_begins (Bool.and_eq_true_iff.mp hon).1 hrest
              exact .cons hc (goesOn_of_begins hbegins (ne_nil_of_mem_split hfirst) hon) (ih hfirst)
            · exact ih (hrest ▸ List.mem_cons_of_mem first h)
      · rw [split_cons_of_not (eq_false_of_ne_true hc)] at h
        exact ih h

theorem oneWord_iff_split_eq : OneWord word ↔ split word = [word] :=
  ⟨OneWord.split_eq, fun h => oneWord_of_mem_split (h ▸ List.mem_singleton_self word)⟩

/-! ### Words that were joined -/

theorem split_append_cons (hseparator : isAlphanumeric separator = false) (front back : List Char) :
    split (front ++ separator :: back) = split front ++ split back := by
  induction front with
  | nil => exact split_cons_of_not hseparator back
  | cons c front ih =>
      by_cases hc : isAlphanumeric c = true
      · -- the separator is no small letter either, so `c` sees as much of a new start with it as without it
        have hon : goesOn c (front ++ separator :: back) = goesOn c front := by
          cases front with
          | nil => simp [goesOn, hseparator]
          | cons next after =>
              cases after with
              | nil => simp [goesOn, startsWord, isLowerLetter, hseparator]
              | cons third after => rfl
        cases hfront : goesOn c front with
        | false =>
            rw [hfront] at hon
            rw [List.cons_append, split_cons_of_not_goesOn hc hon, split_cons_of_not_goesOn hc hfront, ih]
            rfl
        | true =>
            rw [hfront] at hon
            obtain ⟨word, words, hsplit, hcons⟩ := split_cons_of_goesOn hc hon
            obtain ⟨first, others, hsplit', hcons'⟩ := split_cons_of_goesOn hc hfront
            rw [ih, hsplit', List.cons_append, List.cons.injEq] at hsplit
            rw [List.cons_append, hcons, hcons', List.cons_append, hsplit.1, hsplit.2]
      · have hc : isAlphanumeric c = false := eq_false_of_ne_true hc
        rw [List.cons_append, split_cons_of_not hc, split_cons_of_not hc, ih]

theorem split_joinPieces (hseparator : isAlphanumeric separator = false) (parts : List (List Char)) :
    split (joinPieces separator parts) = parts.flatMap split := by
  induction parts with
  | nil => rfl
  | cons part parts ih =>
      cases parts with
      | nil => simp [joinPieces]
      | cons next parts =>
          rw [List.flatMap_cons, ← ih, joinPieces, List.intercalate_cons_cons, List.append_assoc,
            List.singleton_append, split_append_cons hseparator]
          rfl

/-- Words are left alone by a cutting only if each of them is. -/
theorem split_eq_of_flatMap_split_eq {parts : List (List Char)} (hne : ∀ part ∈ parts, part ≠ [])
    (h : parts.flatMap split = parts) : ∀ part ∈ parts, split part = [part] := by
  have hflat : ∀ part ∈ parts, (split part).flatten = part := by
    intro part hpart
    rw [flatten_split, List.filter_eq_self]
    rw [← h, List.mem_flatMap] at hpart
    obtain ⟨other, _, hword⟩ := hpart
    exact isAlphanumeric_of_mem_split hword
  induction parts with
  | nil => simp
  | cons part parts ih =>
      rw [List.forall_mem_cons] at hne hflat ⊢
      rw [List.flatMap_cons] at h
      have hpart : split part = [part] := by
        cases hsplit : split part with
        | nil => exact absurd (hsplit ▸ hflat.1).symm hne.1
        | cons word words =>
            rw [hsplit, List.cons_append, List.cons.injEq] at h
            have hwords : words.flatten = [] := by
              have hjoin := hflat.1
              rw [hsplit, h.1, List.flatten_cons] at hjoin
              exact List.append_right_eq_self.mp hjoin
            have hnil : words = [] := by
              rw [List.eq_nil_iff_forall_not_mem]
              intro other hother
              have hmem : other ∈ split part := hsplit ▸ List.mem_cons_of_mem word hother
              exact ne_nil_of_mem_split hmem (List.flatten_eq_nil_iff.mp hwords other hother)
            rw [h.1, hnil]
      rw [hpart, List.singleton_append, List.cons.injEq] at h
      exact ⟨hpart, ih hne.2 h.2 hflat.2⟩

theorem kebab_kebab (text : List Char) :
    kebab (kebab text) = joinPieces '-' (((split text).map lowercase).flatMap split) := by
  have hsplit : split (kebab text) = ((split text).map lowercase).flatMap split :=
    split_joinPieces (by decide +kernel) _
  have hlower : ∀ word ∈ split (kebab text), lowercase word = word := by
    intro word hword
    rw [hsplit, List.mem_flatMap] at hword
    obtain ⟨part, hpart, hword⟩ := hword
    obtain ⟨origin, _, rfl⟩ := List.mem_map.mp hpart
    apply lowercase_eq_self
    intro d hd
    have hfilter : d ∈ (lowercase origin).filter isAlphanumeric :=
      flatten_split (lowercase origin) ▸ List.mem_flatten_of_mem hword hd
    exact toLower_of_mem_lowercaseAfter (List.mem_of_mem_filter hfilter)
  calc kebab (kebab text) = joinPieces '-' ((split (kebab text)).map lowercase) := rfl
    _ = joinPieces '-' (split (kebab text)) := by rw [List.map_congr_left hlower, List.map_id']
    _ = joinPieces '-' (((split text).map lowercase).flatMap split) := by rw [hsplit]

theorem kebab_kebab_eq_iff {text : List Char} :
    kebab (kebab text) = kebab text ↔ ∀ word ∈ split text, OneWord (lowercase word) := by
  rw [kebab_kebab]
  constructor
  · intro h word hword
    have hpart : lowercase word ∈ (split text).map lowercase := List.mem_map_of_mem hword
    have hcut : ((split text).map lowercase).flatMap split ≠ [] := by
      intro hnil
      rw [hnil] at h
      have hsplit := split_eq_nil_iff.mpr (kebab_eq_nil_iff.mp h.symm)
      exact List.ne_nil_of_mem hword hsplit
    have hhyphen : ∀ part ∈ ((split text).map lowercase).flatMap split, '-' ∉ part := by
      intro part hpart hmem
      obtain ⟨lowered, _, hpart⟩ := List.mem_flatMap.mp hpart
      exact notMem_pathMarks_of_isAlphanumeric (isAlphanumeric_of_mem_split hpart '-' hmem) List.mem_cons_self
    have hparts : ((split text).map lowercase).flatMap split = (split text).map lowercase := by
      rw [← pieces_joinPieces hcut hhyphen, h]
      exact pieces_joinPieces (List.ne_nil_of_mem hpart) fun part hpart hmem =>
        (kebab_parts hpart).2 '-' hmem List.mem_cons_self
    have hne : ∀ part ∈ (split text).map lowercase, part ≠ [] := fun part hpart => (kebab_parts hpart).1
    exact oneWord_iff_split_eq.mpr (split_eq_of_flatMap_split_eq hne hparts _ hpart)
  · intro h
    have hparts : ∀ part ∈ (split text).map lowercase, split part = [part] := by
      intro part hpart
      obtain ⟨word, hword, rfl⟩ := List.mem_map.mp hpart
      exact (h word hword).split_eq
    rw [List.flatMap_congr hparts, List.flatMap_singleton']
    rfl

/-! ### Words in small letters -/

/-- What a word needs to stay one word in small letters. -/
structure StaysWhole (word : List Char) : Prop where
  undotted : 'İ' ∉ word
  behind_lowered : ∀ a b, [a, b] <:+: word → toLower a ≠ [a] → isUnpaired b = false
  behind_unpaired : ∀ a b c, [a, b, c] <:+: word → isUnpaired a = true → isUnpaired b = true → toLower c = [c]

theorem mark_mem_lowercaseAfter (h : 'İ' ∈ word) (before : List Char) : '\u0307' ∈ lowercaseAfter before word := by
  induction word generalizing before with
  | nil => cases h
  | cons c rest ih =>
      rw [lowercaseAfter, List.mem_append]
      rcases List.mem_cons.mp h with rfl | h
      · left
        rw [if_neg (by decide), toLower_dotted.1]
        exact List.mem_cons_of_mem _ List.mem_cons_self
      · exact Or.inr (ih h _)

/-- A small letter goes on in front of the same letters as the letter it is for, but for those that keep their capital
form. -/
theorem goesOn_lowered {a b a' b' : Char} {after after' : List Char} (ha : Lowers a a') (hb : Lowers b b')
    (hafter : List.Forall₂ Lowers after after') (halphanumeric : ∀ c ∈ after, isAlphanumeric c = true)
    (h : goesOn a (b :: after) = true) :
    goesOn a' (b' :: after') = true ↔ (toLower a ≠ [a] → isUnpaired b = false) ∧
      ∀ c, after.head? = some c → isUnpaired a = true → isUnpaired b = true → toLower c = [c] := by
  obtain ⟨hbword, hstart⟩ := Bool.and_eq_true_iff.mp h
  have hb'word : isAlphanumeric b' = true := hb.isAlphanumeric hbword
  cases hunpaired : isUnpaired b with
  | false =>
      have hb'upper : isUppercase b' = false := by
        rw [Bool.eq_false_iff, Ne, hb.isUppercase_iff, hunpaired]
        exact Bool.false_ne_true
      simp [goesOn, hb'word, startsWord, hb'upper]
  | true =>
      have hb'upper : isUppercase b' = true := hb.isUppercase_iff.mpr hunpaired
      have hbupper : isUppercase b = true := (Bool.and_eq_true_iff.mp hunpaired).1
      simp only [startsWord, hbupper, Bool.true_and, Bool.not_eq_true', Bool.or_eq_false_iff,
        Bool.and_eq_false_iff] at hstart
      obtain ⟨⟨halower, hanumeric⟩, hahead⟩ := hstart
      by_cases hlow : toLower a = [a]
      · have ha'lower : isLowercase a' = false := by
          rw [Bool.eq_false_iff, Ne, ha.isLowercase_iff, halower]
          simp [hlow]
        have ha'numeric : isNumeric a' = false := by
          rw [Bool.eq_false_iff]
          intro hnumeric
          rcases ha.isNumeric hnumeric with hnumeric | hmoved
          · rw [hanumeric] at hnumeric
            cases hnumeric
          · exact hmoved hlow
        cases hafter with
        | nil => simp [goesOn, hb'word, startsWord, ha'lower, ha'numeric, hlow]
        | @cons c c' _ _ hc _ =>
            have hcword : isAlphanumeric c = true := halphanumeric c List.mem_cons_self
            have hc'word : isAlphanumeric c' = true := hc.isAlphanumeric hcword
            have hcapital : isUnpaired a = true → isLowercase c = false := by
              intro ha
              have hupper : isUppercase a = true := (Bool.and_eq_true_iff.mp ha).1
              simpa [hupper, isLowerLetter, hcword] using hahead
            cases haunpaired : isUnpaired a with
            | false =>
                have ha'upper : isUppercase a' = false := by
                  rw [Bool.eq_false_iff, Ne, ha.isUppercase_iff, haunpaired]
                  exact Bool.false_ne_true
                simp [goesOn, hb'word, startsWord, ha'lower, ha'numeric, ha'upper, hlow]
            | true =>
                have ha'upper : isUppercase a' = true := ha.isUppercase_iff.mpr haunpaired
                have hc'lower : isLowercase c' = true ↔ toLower c ≠ [c] := by
                  rw [hc.isLowercase_iff, hcapital haunpaired]
                  simp
                simp [goesOn, hb'word, startsWord, hb'upper, ha'lower, ha'numeric, ha'upper, hlow, isLowerLetter,
                  hc'word, ← Bool.not_eq_true, hc'lower]
      · have ha'lower : isLowercase a' = true := ha.isLowercase_iff.mpr (Or.inr hlow)
        simp [goesOn, hb'word, startsWord, hb'upper, ha'lower, hlow]

theorem pair_infix_iff {a b x y : Char} {after : List Char} :
    [x, y] <:+: a :: b :: after ↔ (x = a ∧ y = b) ∨ [x, y] <:+: b :: after := by
  rw [List.infix_cons_iff, List.cons_prefix_cons, List.cons_prefix_cons]
  simp

theorem triple_infix_iff {a b x y z : Char} {after : List Char} :
    [x, y, z] <:+: a :: b :: after ↔ (x = a ∧ y = b ∧ after.head? = some z) ∨ [x, y, z] <:+: b :: after := by
  rw [List.infix_cons_iff, List.cons_prefix_cons, List.cons_prefix_cons]
  cases after with
  | nil => simp
  | cons c after => simp [List.cons_prefix_cons, eq_comm]

theorem oneWord_lowered {word word' : List Char} (h : OneWord word) (hlowers : List.Forall₂ Lowers word word') :
    OneWord word' ↔ (∀ a b, [a, b] <:+: word → toLower a ≠ [a] → isUnpaired b = false) ∧
      ∀ a b c, [a, b, c] <:+: word → isUnpaired a = true → isUnpaired b = true → toLower c = [c] := by
  induction h generalizing word' with
  | single hc =>
      obtain ⟨d, _, hd, hnil, rfl⟩ := List.forall₂_cons_left_iff.mp hlowers
      cases hnil
      refine iff_of_true (.single (hd.isAlphanumeric hc)) ⟨?_, ?_⟩
      · intro a b hwithin
        exact absurd hwithin.length_le (by simp)
      · intro a b c hwithin
        exact absurd hwithin.length_le (by simp)
  | @cons a rest ha hon hrest ih =>
      cases rest with
      | nil => cases hon
      | cons b after =>
          obtain ⟨a', rest', ha', hrest', rfl⟩ := List.forall₂_cons_left_iff.mp hlowers
          obtain ⟨b', after', hb', hafter', rfl⟩ := List.forall₂_cons_left_iff.mp hrest'
          have halphanumeric : ∀ c ∈ after, isAlphanumeric c = true := fun c hc =>
            hrest.isAlphanumeric c (List.mem_cons_of_mem b hc)
          have hstep := goesOn_lowered ha' hb' hafter' halphanumeric hon
          have hrests := ih hrest'
          have hcons : OneWord (a' :: b' :: after') ↔ goesOn a' (b' :: after') = true ∧ OneWord (b' :: after') := by
            constructor
            · intro h
              cases h with
              | cons _ hon hrest => exact ⟨hon, hrest⟩
            · intro h
              exact .cons (ha'.isAlphanumeric ha) h.1 h.2
          rw [hcons, hstep, hrests]
          simp only [pair_infix_iff, triple_infix_iff, or_imp, and_imp, forall_and, forall_eq, forall_eq_apply_imp_iff]
          constructor
          · intro h
            refine ⟨⟨h.1.1, h.2.1⟩, ?_, h.2.2⟩
            rintro _ _ c rfl rfl
            exact h.1.2 c
          · intro h
            exact ⟨⟨h.1.1, fun c => h.2.1 a b c rfl rfl⟩, h.1.2, h.2.2⟩

/-- Which words small letters leave in one piece. -/
theorem oneWord_lowercase_iff (h : OneWord word) : OneWord (lowercase word) ↔ StaysWhole word := by
  by_cases hdotted : 'İ' ∈ word
  · refine iff_of_false (fun hone => ?_) fun hwhole => hwhole.undotted hdotted
    have hmark := hone.isAlphanumeric _ (mark_mem_lowercaseAfter hdotted [])
    exact absurd hmark (by decide +kernel)
  · rw [oneWord_lowered h (forall₂_lowercase hdotted)]
    exact ⟨fun h => ⟨hdotted, h.1, h.2⟩, fun h => ⟨h.behind_lowered, h.behind_unpaired⟩⟩

theorem kebab_kebab_eq_iff_staysWhole {text : List Char} :
    kebab (kebab text) = kebab text ↔ ∀ word ∈ split text, StaysWhole word := by
  rw [kebab_kebab_eq_iff]
  exact forall₂_congr fun _ hword => oneWord_lowercase_iff (oneWord_of_mem_split hword)

end Words

theorem kebabCase_kebabCase_eq {name : String} :
    kebabCase (kebabCase name) = kebabCase name ↔ Words.kebab (Words.kebab name.toList) = Words.kebab name.toList := by
  rw [kebabCase, kebabCase, String.toList_ofList, String.ofList_inj]

/-- A name keeps its spelling in kebab case exactly if none of its words falls apart in small letters. -/
theorem kebabCase_kebabCase_iff (name : String) :
    kebabCase (kebabCase name) = kebabCase name ↔ ∀ word ∈ Words.split name.toList, Words.StaysWhole word := by
  rw [kebabCase_kebabCase_eq, Words.kebab_kebab_eq_iff_staysWhole]

/-- The mark that comes with the small letter of a dotted capital I cuts the name the second time. -/
theorem kebabCase_cuts_dotted_again : kebabCase "İd" = "i\u0307d" ∧ kebabCase (kebabCase "İd") = "i-d" ∧
    kebabCase (kebabCase "İd") ≠ kebabCase "İd" := by
  decide +kernel

/-- Names whose capitals all have a small letter of their own, the names in ASCII among them, keep their spelling. -/
theorem kebabCase_kebabCase {name : String} (hdotted : 'İ' ∉ name.toList)
    (hunpaired : ∀ c ∈ name.toList, isUnpaired c = false) : kebabCase (kebabCase name) = kebabCase name := by
  rw [kebabCase_kebabCase_eq, Words.kebab_kebab_eq_iff_staysWhole]
  intro word hword
  have hmem : ∀ c ∈ word, c ∈ name.toList := by
    intro c hc
    have hfilter : c ∈ name.toList.filter isAlphanumeric :=
      Words.flatten_split name.toList ▸ List.mem_flatten_of_mem hword hc
    exact List.mem_of_mem_filter hfilter
  constructor
  · exact fun h => hdotted (hmem _ h)
  · intro a b hwithin _
    exact hunpaired b (hmem b (hwithin.subset (by simp)))
  · intro a b c hwithin _ hb
    rw [hunpaired b (hmem b (hwithin.subset (by simp)))] at hb
    cases hb

end ApiProxy
