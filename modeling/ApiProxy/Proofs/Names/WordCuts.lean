import ApiProxy.Proofs.Names.KebabTwice

/-! Where a name is cut into words. The words hold the letters and numbers of the name in their order, so each of these
falls into one of the words. Two of them fall into different words if something else stands between them; two
neighbours do exactly if the second is a capital behind a small letter or a number, or a capital behind a capital and in
front of a small letter. -/

namespace ApiProxy

open Unicode

namespace Words

variable {words : List (List Char)} {text front rest back : List Char} {a b c : Char}
  {place other number : Nat}

/-! ### The word at a place -/

/-- The character at a place of a text falls into the word of this number: the letters and numbers in front of it are
those of the words before and of the front of that word. -/
def HoldsAt (words : List (List Char)) (text : List Char) (place number : Nat) : Prop :=
  ∃ c front back, text[place]? = some c ∧ words[number]? = some (front ++ c :: back) ∧
    (words.take number).flatten ++ front = (text.take place).filter isAlphanumeric

/-- How many characters are in the words before the one of this number. -/
def offset (words : List (List Char)) (number : Nat) : Nat := (words.take number).flatten.length

/-- How many letters and numbers stand in front of a place. -/
def rank (text : List Char) (place : Nat) : Nat := ((text.take place).filter isAlphanumeric).length

theorem offset_mono (words : List (List Char)) (h : number ≤ other) : offset words number ≤ offset words other := by
  obtain ⟨between, hbetween⟩ := List.take_prefix_take_left (l := words) h
  rw [offset, offset, ← hbetween, List.flatten_append, List.length_append]
  exact Nat.le_add_right _ _

theorem offset_succ {word : List Char} (h : words[number]? = some word) :
    offset words (number + 1) = offset words number + word.length := by
  rw [offset, List.take_add_one, h, List.flatten_append, List.length_append]
  simp [offset]

theorem offset_append_length (before after : List (List Char)) :
    offset (before ++ after) before.length = before.flatten.length := by
  rw [offset, List.take_left]

theorem HoldsAt.bounds (h : HoldsAt words text place number) :
    offset words number ≤ rank text place ∧ rank text place < offset words (number + 1) := by
  obtain ⟨c, front, back, -, hword, hfront⟩ := h
  have hrank : rank text place = offset words number + front.length := by
    rw [rank, ← hfront, List.length_append, offset]
  rw [hrank, offset_succ hword, List.length_append, List.length_cons]
  omega

theorem HoldsAt.unique (h : HoldsAt words text place number) (hother : HoldsAt words text place other) :
    number = other := by
  obtain ⟨hlow, hhigh⟩ := h.bounds
  obtain ⟨hlow', hhigh'⟩ := hother.bounds
  rcases Nat.lt_trichotomy number other with hlt | heq | hgt
  · have hmono := offset_mono words (Nat.add_one_le_of_lt hlt)
    omega
  · exact heq
  · have hmono := offset_mono words (Nat.add_one_le_of_lt hgt)
    omega

theorem exists_word_of_flatten (h : words.flatten = front ++ c :: back) :
    ∃ number early late, words[number]? = some (early ++ c :: late) ∧ (words.take number).flatten ++ early = front := by
  induction words generalizing front with
  | nil => simp at h
  | cons word words ih =>
      have hlater : ∀ later, front = word ++ later → words.flatten = later ++ c :: back →
          ∃ number early late, (word :: words)[number]? = some (early ++ c :: late) ∧
            ((word :: words).take number).flatten ++ early = front := by
        rintro later rfl hflatten
        obtain ⟨number, early, late, hword, hfront⟩ := ih hflatten
        refine ⟨number + 1, early, late, hword, ?_⟩
        rw [List.take_succ_cons, List.flatten_cons, List.append_assoc, hfront]
      rw [List.flatten_cons] at h
      rcases List.append_eq_append_iff.mp h with ⟨later, hfront, hflatten⟩ | ⟨late, hword, hlate⟩
      · exact hlater later hfront hflatten
      · cases late with
        | nil => exact hlater [] (by rw [hword, List.append_nil, List.append_nil]) hlate.symm
        | cons d late =>
            rw [List.cons_append, List.cons.injEq] at hlate
            exact ⟨0, front, late, by rw [hword, hlate.1]; rfl, rfl⟩

theorem exists_split_of_getElem? (h : text[place]? = some c) :
    ∃ front back, text = front ++ c :: back ∧ front.length = place := by
  obtain ⟨hplace, rfl⟩ := List.getElem?_eq_some_iff.mp h
  refine ⟨text.take place, text.drop (place + 1), ?_, List.length_take_of_le (Nat.le_of_lt hplace)⟩
  rw [← List.drop_eq_getElem_cons hplace, List.take_append_drop]

/-- Each letter or number of a text falls into one of the words that hold them all. -/
theorem exists_holdsAt (hwords : words.flatten = text.filter isAlphanumeric) (hplace : text[place]? = some c)
    (hc : isAlphanumeric c = true) : ∃ number, HoldsAt words text place number := by
  obtain ⟨front, back, rfl, rfl⟩ := exists_split_of_getElem? hplace
  rw [List.filter_append, List.filter_cons_of_pos hc] at hwords
  obtain ⟨number, early, late, hword, hfront⟩ := exists_word_of_flatten hwords
  exact ⟨number, c, early, late, hplace, hword, by rw [hfront, List.take_left]⟩

/-- The characters at two places fall into different words. -/
def FallApart (words : List (List Char)) (text : List Char) (place other : Nat) : Prop :=
  ∃ number another, HoldsAt words text place number ∧ HoldsAt words text other another ∧ number ≠ another

/-! ### Cuts -/

/-- No word reaches across the place behind `front`. -/
def CutBehind (front rest : List Char) : Prop :=
  ∃ before after, split (front ++ rest) = before ++ after ∧ before.flatten = front.filter isAlphanumeric

theorem cutBehind_of_separator (hc : isAlphanumeric c = false) (front back : List Char) :
    CutBehind front (c :: back) :=
  ⟨split front, split back, split_append_cons hc front back, flatten_split front⟩

theorem CutBehind.cons (h : CutBehind front rest) (hfront : front.filter isAlphanumeric ≠ []) (c : Char) :
    CutBehind (c :: front) rest := by
  obtain ⟨before, after, hsplit, hflatten⟩ := h
  by_cases hc : isAlphanumeric c = true
  · rw [CutBehind, List.cons_append, List.filter_cons_of_pos hc, ← hflatten]
    rcases split_cons_cases hc (front ++ rest) with hcons | ⟨word, words, hwords, hcons⟩
    · exact ⟨[c] :: before, after, by rw [hcons, hsplit]; rfl, rfl⟩
    · cases before with
      | nil => exact absurd hflatten.symm hfront
      | cons first before =>
          rw [hsplit, List.cons_append, List.cons.injEq] at hwords
          exact ⟨(c :: first) :: before, after, by rw [hcons, ← hwords.1, ← hwords.2]; rfl, rfl⟩
  · have hc : isAlphanumeric c = false := eq_false_of_ne_true hc
    refine ⟨before, after, ?_, ?_⟩
    · rw [List.cons_append, split_cons_of_not hc, hsplit]
    · rw [List.filter_cons_of_neg (ne_true_of_eq_false hc), hflatten]

theorem cutBehind_of_not_goesOn (ha : isAlphanumeric a = true) (hon : goesOn a rest = false) (front : List Char) :
    CutBehind (front ++ [a]) rest := by
  induction front with
  | nil =>
      refine ⟨[[a]], split rest, split_cons_of_not_goesOn ha hon, ?_⟩
      rw [List.nil_append, List.filter_cons_of_pos ha]
      rfl
  | cons c front ih =>
      apply ih.cons
      rw [List.filter_append, List.filter_cons_of_pos ha]
      simp

/-- Neighbours between which a word goes on stand side by side in it. -/
theorem exists_common_word (ha : isAlphanumeric a = true) (hon : goesOn a (b :: back) = true) (front : List Char) :
    ∃ before early late after, split (front ++ a :: b :: back) = before ++ (early ++ a :: b :: late) :: after ∧
      before.flatten ++ early = front.filter isAlphanumeric := by
  induction front with
  | nil =>
      obtain ⟨word, words, hrest, hsplit⟩ := split_cons_of_goesOn ha hon
      obtain ⟨tail, htail⟩ := first_begins (Bool.and_eq_true_iff.mp hon).1 hrest
      cases word with
      | nil => exact absurd rfl (ne_nil_of_mem_split (hrest ▸ List.mem_cons_self))
      | cons d late =>
          rw [List.cons_append, List.cons.injEq] at htail
          rw [htail.1] at hsplit
          exact ⟨[], [], late, words, hsplit, rfl⟩
  | cons c front ih =>
      obtain ⟨before, early, late, after, hsplit, hfront⟩ := ih
      by_cases hc : isAlphanumeric c = true
      · rw [List.cons_append, List.filter_cons_of_pos hc, ← hfront]
        rcases split_cons_cases hc (front ++ a :: b :: back) with hcons | ⟨word, words, hwords, hcons⟩
        · exact ⟨[c] :: before, early, late, after, by rw [hcons, hsplit]; rfl, rfl⟩
        · rw [hsplit] at hwords
          cases before with
          | nil =>
              rw [List.nil_append, List.cons.injEq] at hwords
              exact ⟨[], c :: early, late, after, by rw [hcons, ← hwords.1, ← hwords.2]; rfl, rfl⟩
          | cons first before =>
              rw [List.cons_append, List.cons.injEq] at hwords
              exact ⟨(c :: first) :: before, early, late, after, by rw [hcons, ← hwords.1, ← hwords.2]; rfl, rfl⟩
      · have hc : isAlphanumeric c = false := eq_false_of_ne_true hc
        refine ⟨before, early, late, after, ?_, ?_⟩
        · rw [List.cons_append, split_cons_of_not hc, hsplit]
        · rw [List.filter_cons_of_neg (ne_true_of_eq_false hc), hfront]

/-! ### Places on either side of a cut -/

theorem rank_mono (text : List Char) (h : place ≤ other) : rank text place ≤ rank text other :=
  ((List.take_sublist_take_left h).filter isAlphanumeric).length_le

theorem rank_succ (hplace : text[place]? = some c) (hc : isAlphanumeric c = true) :
    rank text (place + 1) = rank text place + 1 := by
  rw [rank, List.take_add_one, hplace, List.filter_append, List.length_append]
  simp [rank, hc]

theorem CutBehind.fallApart (h : CutBehind front rest) (hplace : place < front.length) (hother : front.length ≤ other)
    (ha : (front ++ rest)[place]? = some a) (hb : (front ++ rest)[other]? = some b)
    (haletter : isAlphanumeric a = true) (hbletter : isAlphanumeric b = true) :
    FallApart (split (front ++ rest)) (front ++ rest) place other := by
  obtain ⟨number, hnumber⟩ := exists_holdsAt (flatten_split _) ha haletter
  obtain ⟨another, hanother⟩ := exists_holdsAt (flatten_split _) hb hbletter
  refine ⟨number, another, hnumber, hanother, ?_⟩
  obtain ⟨before, after, hsplit, hflatten⟩ := h
  have hcut : offset (split (front ++ rest)) before.length = rank (front ++ rest) front.length := by
    rw [hsplit, offset_append_length, hflatten, rank, List.take_left]
  -- the words before the cut reach beyond the first place, but not beyond the second
  have hbelow : number < before.length := by
    by_contra hge
    have hoffset := offset_mono (split (front ++ rest)) (Nat.le_of_not_lt hge)
    have hrank := rank_mono (front ++ rest) (Nat.add_one_le_of_lt hplace)
    rw [rank_succ ha haletter] at hrank
    have hbounds := hnumber.bounds
    omega
  have habove : before.length ≤ another := by
    by_contra hlt
    have hoffset := offset_mono (split (front ++ rest)) (Nat.add_one_le_of_lt (Nat.lt_of_not_le hlt))
    have hrank := rank_mono (front ++ rest) hother
    have hbounds := hanother.bounds
    omega
  omega

theorem fallApart_of_separator {between last : Nat} (hplace : place < between) (hlast : between < last)
    (ha : text[place]? = some a) (hbetween : text[between]? = some c) (hb : text[last]? = some b)
    (haletter : isAlphanumeric a = true) (hc : isAlphanumeric c = false) (hbletter : isAlphanumeric b = true) :
    FallApart (split text) text place last := by
  obtain ⟨front, back, rfl, rfl⟩ := exists_split_of_getElem? hbetween
  exact (cutBehind_of_separator hc front back).fallApart hplace (Nat.le_of_lt hlast) ha hb haletter hbletter

/-- Neighbours between which a word goes on fall into one word. -/
theorem exists_common_number (haletter : isAlphanumeric a = true) (hon : goesOn a (b :: back) = true)
    (front : List Char) :
    ∃ number, HoldsAt (split (front ++ a :: b :: back)) (front ++ a :: b :: back) front.length number ∧
      HoldsAt (split (front ++ a :: b :: back)) (front ++ a :: b :: back) (front.length + 1) number := by
  have ha : (front ++ a :: b :: back)[front.length]? = some a := by simp
  have hb : (front ++ a :: b :: back)[front.length + 1]? = some b := by simp
  obtain ⟨before, early, late, after, hsplit, hfront⟩ := exists_common_word haletter hon front
  have hword : (split (front ++ a :: b :: back))[before.length]? = some (early ++ a :: b :: late) := by
    rw [hsplit, List.getElem?_append_right (Nat.le_refl _), Nat.sub_self]
    rfl
  have hbefore : (split (front ++ a :: b :: back)).take before.length = before := by rw [hsplit, List.take_left]
  refine ⟨before.length, ⟨a, early, b :: late, ha, hword, ?_⟩, b, early ++ [a], late, hb, ?_, ?_⟩
  · rw [hbefore, hfront, List.take_left]
  · rw [hword, List.append_assoc]
    rfl
  · rw [hbefore, ← List.append_assoc, hfront, List.take_add_one, ha, List.take_left, List.filter_append]
    simp [haletter]

/-- Neighbours fall into different words exactly if no word goes on between them. -/
theorem fallApart_iff_not_goesOn (haletter : isAlphanumeric a = true) (hbletter : isAlphanumeric b = true)
    (front back : List Char) :
    FallApart (split (front ++ a :: b :: back)) (front ++ a :: b :: back) front.length (front.length + 1) ↔
      goesOn a (b :: back) = false := by
  constructor
  · rintro ⟨number, another, hnumber, hanother, hne⟩
    rw [← Bool.not_eq_true]
    intro hon
    obtain ⟨common, hfirst, hsecond⟩ := exists_common_number haletter hon front
    exact hne ((hnumber.unique hfirst).trans (hanother.unique hsecond).symm)
  · intro hon
    have hcut := cutBehind_of_not_goesOn haletter hon front
    rw [List.append_cons]
    exact hcut.fallApart (by simp) (by simp) (by simp) (by simp) haletter hbletter

/-- Case turns between two neighbours: the second is a capital, behind a small letter or a number, or behind a capital
and in front of a small letter. -/
def CaseTurns (a b : Char) (next? : Option Char) : Prop :=
  isUppercase b = true ∧ (isLowercase a = true ∨ isNumeric a = true) ∨
    isUppercase a = true ∧ isUppercase b = true ∧
      ∃ next, next? = some next ∧ isAlphanumeric next = true ∧ isLowercase next = true

theorem not_goesOn_iff (hbletter : isAlphanumeric b = true) (a : Char) (back : List Char) :
    goesOn a (b :: back) = false ↔ CaseTurns a b back.head? := by
  rw [CaseTurns, goesOn, hbletter, Bool.true_and, Bool.not_eq_false', startsWord]
  cases back with
  | nil => simp [and_comm]
  | cons c back =>
      simp only [Bool.and_eq_true, Bool.or_eq_true, List.head?_cons, Option.any_some, isLowerLetter, Option.some.injEq,
        exists_eq_left']
      tauto

end Words

theorem map_toList_splitWords (name : String) : (splitWords name).map String.toList = Words.split name.toList := by
  rw [splitWords, List.map_map]
  simp [Function.comp_def]

theorem join_splitWords (name : String) :
    String.join (splitWords name) = String.ofList (name.toList.filter isAlphanumeric) := by
  rw [← String.toList_inj, String.toList_join, List.flatMap_def, map_toList_splitWords, Words.flatten_split,
    String.toList_ofList]

theorem empty_notMem_splitWords (name : String) : "" ∉ splitWords name := by
  intro hempty
  have hnil : [] ∈ Words.split name.toList := map_toList_splitWords name ▸ List.mem_map_of_mem hempty
  exact Words.ne_nil_of_mem_split hnil rfl

/-- The characters at two places of a name fall into different words. -/
def FallApart (name : String) (place other : Nat) : Prop :=
  Words.FallApart ((splitWords name).map String.toList) name.toList place other

theorem fallApart_next_iff {name : String} {place : Nat} {a b : Char} (ha : name.toList[place]? = some a)
    (hb : name.toList[place + 1]? = some b) (haletter : isAlphanumeric a = true) (hbletter : isAlphanumeric b = true) :
    FallApart name place (place + 1) ↔ Words.CaseTurns a b name.toList[place + 2]? := by
  obtain ⟨front, rest, htext, rfl⟩ := Words.exists_split_of_getElem? ha
  obtain ⟨back, rfl⟩ : ∃ back, rest = b :: back := by
    rw [htext] at hb
    cases rest with
    | nil => simp at hb
    | cons d back => exact ⟨back, by simpa using hb⟩
  have hnext : name.toList[front.length + 2]? = back.head? := by
    rw [htext, List.getElem?_append_right (Nat.le_add_right _ _), Nat.add_sub_cancel_left, List.head?_eq_getElem?]
    rfl
  rw [FallApart, map_toList_splitWords, hnext, htext, Words.fallApart_iff_not_goesOn haletter hbletter,
    Words.not_goesOn_iff hbletter]

/-- The words of a name are its letters and numbers, none of the words is empty, and each letter or number falls into
one of them. Two neighbours fall into different words exactly where case turns: at a capital behind a small letter or a
number, or behind a capital and in front of a small letter. What is separated by anything else always does. -/
theorem words_part_where_case_turns (name : String) :
    String.join (splitWords name) = String.ofList (name.toList.filter isAlphanumeric) ∧
    "" ∉ splitWords name ∧
    (∀ place c, name.toList[place]? = some c → isAlphanumeric c = true →
      ∃! number, Words.HoldsAt ((splitWords name).map String.toList) name.toList place number) ∧
    (∀ place a b, name.toList[place]? = some a → name.toList[place + 1]? = some b →
      isAlphanumeric a = true → isAlphanumeric b = true →
      (FallApart name place (place + 1) ↔ Words.CaseTurns a b name.toList[place + 2]?)) ∧
    ∀ first between last a c b, first < between → between < last → name.toList[first]? = some a →
      name.toList[between]? = some c → name.toList[last]? = some b → isAlphanumeric a = true →
      isAlphanumeric c = false → isAlphanumeric b = true → FallApart name first last := by
  refine ⟨join_splitWords name, empty_notMem_splitWords name, ?_, fun _ _ _ => fallApart_next_iff, ?_⟩
  · intro place c hplace hc
    rw [map_toList_splitWords]
    obtain ⟨number, hnumber⟩ := Words.exists_holdsAt (Words.flatten_split name.toList) hplace hc
    exact ⟨number, hnumber, fun _ hother => hother.unique hnumber⟩
  · intro first between last a c b hbefore hafter ha hbetween hb haletter hc hbletter
    rw [FallApart, map_toList_splitWords]
    exact Words.fallApart_of_separator hbefore hafter ha hbetween hb haletter hc hbletter

/-- An acronym is cut in front of its last capital, though not between the capitals before. -/
theorem acronym_parts_before_last_capital :
    splitWords "HTTPÜber v2X" = ["HTTP", "Über", "v2", "X"] ∧ FallApart "HTTPÜber v2X" 3 4 ∧
      ¬FallApart "HTTPÜber v2X" 2 3 ∧ FallApart "HTTPÜber v2X" 7 9 := by
  obtain ⟨-, -, -, hnext, hseparated⟩ := words_part_where_case_turns "HTTPÜber v2X"
  refine ⟨by decide +kernel, ?_, ?_, ?_⟩
  · refine (hnext 3 'P' 'Ü' rfl rfl (by decide +kernel) (by decide +kernel)).mpr (Or.inr ?_)
    exact ⟨by decide +kernel, by decide +kernel, 'b', rfl, by decide +kernel, by decide +kernel⟩
  · rw [hnext 2 'T' 'P' rfl rfl (by decide +kernel) (by decide +kernel)]
    rintro (⟨-, hfirst⟩ | ⟨-, -, c, hc, -, hlower⟩)
    · exact absurd hfirst (by decide +kernel)
    · obtain rfl : 'Ü' = c := Option.some.inj hc
      exact absurd hlower (by decide +kernel)
  · exact hseparated 7 8 9 'r' ' ' 'v' (by decide) (by decide) rfl rfl rfl (by decide +kernel) (by decide +kernel)
      (by decide +kernel)

end ApiProxy
