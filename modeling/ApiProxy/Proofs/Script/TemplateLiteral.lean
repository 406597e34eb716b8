import Mathlib.Data.List.Basic
import ApiProxy.Script.ApiFile

/-! Template literals read back. In the text of a literal a backslash takes the next character as it is, a backtick
ends the literal and `${` opens a substitution, whose code ends at the brace that closes it; the code may hold
strings, braces and further literals of its own. Text of a URL template is escaped so that it is read back unchanged
up to what is written behind it. -/

namespace ApiProxy.Script

/-! ### Reading -/

/-- A stretch of a template literal: text by its meaning, or a substitution by its code. -/
inductive TemplatePiece where
  | text (meaning : List Char)
  | substitution (code : List Char)
deriving DecidableEq, Repr

/-- Reads text up to where it ends and gives what it means, together with all that follows. -/
def readText : List Char → List Char × List Char
  | [] => ([], [])
  | '`' :: rest => ([], '`' :: rest)
  | '$' :: '{' :: rest => ([], '$' :: '{' :: rest)
  | '\\' :: c :: rest => (c :: (readText rest).1, (readText rest).2)
  | c :: rest => (c :: (readText rest).1, (readText rest).2)

/-- What a character of code stands in, apart from the substitution itself. In a string or a template a backslash
leads to `escaped`, and in a template a dollar sign in front of a brace to `opening`. -/
inductive Frame where
  | brace
  | quotation (mark : Char)
  | template
  | escaped
  | opening
deriving DecidableEq, Repr

/-- The frames behind a character of code, the innermost first. -/
def codeFrames (frames : List Frame) (c : Char) : List Frame :=
  if c = '{' then .brace :: frames
  else if c = '"' || c = '\'' then .quotation c :: frames
  else if c = '`' then .template :: frames
  else frames

/-- The frames behind a character, given the frames it stands in and the character that follows it. -/
def nextFrames (frames : List Frame) (c : Char) (next : Option Char) : List Frame :=
  match frames with
  | [] => codeFrames frames c
  | .brace :: outer => if c = '}' then outer else codeFrames frames c
  | .quotation mark :: outer => if c = '\\' then .escaped :: frames else if c = mark then outer else frames
  | .template :: outer =>
    if c = '\\' then .escaped :: frames
    else if c = '`' then outer
    else if c = '$' && next = some '{' then .opening :: frames
    else frames
  | .escaped :: outer => outer
  | .opening :: outer => .brace :: outer

/-- Reads the code of a substitution up to the brace that closes it, and gives what follows that brace. -/
def readCode (frames : List Frame) : List Char → Option (List Char × List Char)
  | [] => none
  | c :: rest =>
    if frames = [] ∧ c = '}' then some ([], rest)
    else (readCode (nextFrames frames c rest.head?) rest).map fun read => (c :: read.1, read.2)

def textPieces (meaning : List Char) : List TemplatePiece := if meaning.isEmpty then [] else [.text meaning]

theorem length_readText_le (source : List Char) : (readText source).2.length ≤ source.length := by
  fun_induction readText source with
  | case1 => exact Nat.le_refl _
  | case2 => exact Nat.le_refl _
  | case3 => exact Nat.le_refl _
  | case4 c rest ih => exact Nat.le_succ_of_le (Nat.le_succ_of_le ih)
  | case5 c rest _ _ _ ih => exact Nat.le_succ_of_le ih

theorem length_readCode_lt {frames : List Frame} {source code rest : List Char}
    (h : readCode frames source = some (code, rest)) : rest.length < source.length := by
  induction source generalizing frames code with
  | nil => cases h
  | cons c source ih =>
      rw [readCode] at h
      split at h
      · cases h
        exact Nat.lt_succ_self _
      · obtain ⟨read, hread, hresult⟩ := Option.map_eq_some_iff.mp h
        cases hresult
        exact Nat.lt_succ_of_lt (ih hread)

/-- Reads a template literal behind the backtick that opens it, and gives what follows the one that ends it. -/
def readPieces (source : List Char) : Option (List TemplatePiece × List Char) :=
  match _htext : readText source with
  | (meaning, '`' :: rest) => some (textPieces meaning, rest)
  | (meaning, '$' :: '{' :: opened) =>
    match _hcode : readCode [] opened with
    | some (code, rest) =>
      (readPieces rest).map fun read => (textPieces meaning ++ .substitution code :: read.1, read.2)
    | none => none
  | _ => none
termination_by source.length
decreasing_by
  have hlength := length_readText_le source
  have hrest := length_readCode_lt _hcode
  simp only [_htext, List.length_cons] at hlength
  omega

def readTemplate : List Char → Option (List TemplatePiece × List Char)
  | '`' :: source => readPieces source
  | _ => none

/-! ### Text -/

/-- What follows literal text inside a template literal: its end or a substitution. -/
inductive EndsText : List Char → Prop where
  | closing (rest : List Char) : EndsText ('`' :: rest)
  | opening (rest : List Char) : EndsText ('$' :: '{' :: rest)

theorem EndsText.readText_eq {rest : List Char} (h : EndsText rest) : readText rest = ([], rest) := by
  cases h <;> rfl

theorem EndsText.head_ne {rest : List Char} (h : EndsText rest) : rest.head? ≠ some '{' := by
  cases h <;> simp

theorem readText_cons {c : Char} {rest : List Char} (hbacktick : c ≠ '`') (hbackslash : c ≠ '\\')
    (hopening : c = '$' → rest.head? ≠ some '{') :
    readText (c :: rest) = (c :: (readText rest).1, (readText rest).2) := by
  rw [readText.eq_def]
  split
  next heq => cases heq
  next heq => exact absurd (List.cons.inj heq).1 hbacktick
  next heq =>
    obtain ⟨hc, rfl⟩ := List.cons.inj heq
    exact absurd rfl (hopening hc)
  next heq => exact absurd (List.cons.inj heq).1 hbackslash
  next heq =>
    cases heq
    rfl

/-- Escaped text starts with a brace only if the text does. -/
theorem head?_escapeTemplate_append {text rest : List Char} (htext : text.head? ≠ some '{')
    (hrest : rest.head? ≠ some '{') : (escapeTemplate text ++ rest).head? ≠ some '{' := by
  fun_cases escapeTemplate text with
  | case1 => exact hrest
  | case2 rest => simp
  | case3 rest => simp
  | case4 rest => simp
  | case5 c rest => exact htext

/-- Escaped text is read as the text, and reading stops where the text stopped. -/
theorem readText_escapeTemplate (text : List Char) {rest : List Char} (h : EndsText rest) :
    readText (escapeTemplate text ++ rest) = (text, rest) := by
  fun_induction escapeTemplate text with
  | case1 => exact h.readText_eq
  | case2 text ih => simp [readText, ih]
  | case3 text ih => simp [readText, ih]
  | case4 text ih =>
      have hbrace : readText ('{' :: (escapeTemplate text ++ rest)) = ('{' :: text, rest) := by
        rw [readText_cons (by decide) (by decide) (by simp), ih]
      simp only [List.cons_append]
      rw [readText, hbrace]
  | case5 c text hbackslash hbacktick hopening ih =>
      rw [List.cons_append, readText_cons hbacktick hbackslash, ih]
      rintro rfl
      refine head?_escapeTemplate_append ?_ h.head_ne
      intro hhead
      obtain ⟨others, rfl⟩ := List.head?_eq_some_iff.mp hhead
      exact hopening others rfl rfl

/-! ### One kind of character after the other -/

/-- Puts a replacement in the place of every occurrence of a pattern, from the left. -/
def replaceAll (pattern replacement : List Char) : List Char → List Char
  | [] => []
  | c :: rest =>
    if pattern.isPrefixOf (c :: rest) then
      replacement ++ replaceAll pattern replacement (rest.drop (pattern.length - 1))
    else c :: replaceAll pattern replacement rest
termination_by text => text.length

/-- The escapes that come before that of the openings. -/
def escapeMark (c : Char) : List Char :=
  if c = '\\' then ['\\', '\\'] else if c = '`' then ['\\', '`'] else [c]

theorem replaceAll_singleton (mark : Char) (replacement text : List Char) :
    replaceAll [mark] replacement text = text.flatMap fun c => if c = mark then replacement else [c] := by
  induction text with
  | nil => rw [replaceAll]; rfl
  | cons c text ih =>
      rw [replaceAll, List.flatMap_cons]
      by_cases hc : c = mark
      · simp [hc, ih]
      · have hne : mark ≠ c := fun heq => hc heq.symm
        simp [hc, hne, ih]

theorem replaceAll_marks (text : List Char) :
    replaceAll ['`'] ['\\', '`'] (replaceAll ['\\'] ['\\', '\\'] text) = text.flatMap escapeMark := by
  rw [replaceAll_singleton, replaceAll_singleton, List.flatMap_assoc]
  refine congrArg (text.flatMap ·) (funext fun c => ?_)
  rw [escapeMark]
  split_ifs <;> simp_all

theorem replaceAll_opening_cons {c : Char} {text : List Char} (h : c = '$' → text.head? ≠ some '{') :
    replaceAll ['$', '{'] ['\\', '$', '{'] (c :: text) = c :: replaceAll ['$', '{'] ['\\', '$', '{'] text := by
  rw [replaceAll, if_neg]
  rw [List.isPrefixOf_iff_prefix]
  rintro ⟨rest, hrest⟩
  cases hrest
  exact h rfl rfl

theorem replaceAll_opening (replacement text : List Char) :
    replaceAll ['$', '{'] replacement ('$' :: '{' :: text) =
      replacement ++ replaceAll ['$', '{'] replacement text := by
  rw [replaceAll, if_pos (by simp)]
  rfl

theorem head?_flatMap_escapeMark {text : List Char} (h : text.head? ≠ some '{') :
    (text.flatMap escapeMark).head? ≠ some '{' := by
  cases text with
  | nil => simp
  | cons c text =>
      rw [List.flatMap_cons, escapeMark]
      split_ifs
      · simp
      · simp
      · exact h

/-- Escaping a text once through is the same as escaping its backslashes, then its backticks, then its openings. -/
theorem escapeTemplate_eq_replaceAll (text : List Char) :
    escapeTemplate text = replaceAll ['$', '{'] ['\\', '$', '{']
      (replaceAll ['`'] ['\\', '`'] (replaceAll ['\\'] ['\\', '\\'] text)) := by
  rw [replaceAll_marks]
  fun_induction escapeTemplate text with
  | case1 => rw [List.flatMap_nil, replaceAll]
  | case2 text ih =>
      rw [ih, List.flatMap_cons]
      show _ = replaceAll _ _ ('\\' :: '\\' :: text.flatMap escapeMark)
      rw [replaceAll_opening_cons (by simp), replaceAll_opening_cons (by simp)]
  | case3 text ih =>
      rw [ih, List.flatMap_cons]
      show _ = replaceAll _ _ ('\\' :: '`' :: text.flatMap escapeMark)
      rw [replaceAll_opening_cons (by simp), replaceAll_opening_cons (by simp)]
  | case4 text ih =>
      rw [ih, List.flatMap_cons, List.flatMap_cons]
      show _ = replaceAll _ _ ('$' :: '{' :: text.flatMap escapeMark)
      rw [replaceAll_opening]
      rfl
  | case5 c text hbackslash hbacktick hopening ih =>
      have hmark : escapeMark c = [c] := by rw [escapeMark, if_neg hbackslash, if_neg hbacktick]
      rw [ih, List.flatMap_cons, hmark, List.singleton_append, replaceAll_opening_cons]
      rintro rfl
      refine head?_flatMap_escapeMark fun hhead => ?_
      obtain ⟨others, rfl⟩ := List.head?_eq_some_iff.mp hhead
      exact hopening others rfl rfl

/-! ### Substitutions -/

/-- Code that leaves nothing open and closes nothing. -/
structure Neutral (code : List Char) : Prop where
  passes : ∀ rest, readCode [] (code ++ rest) = (readCode [] rest).map fun read => (code ++ read.1, read.2)

theorem Neutral.append {front back : List Char} (hfront : Neutral front) (hback : Neutral back) :
    Neutral (front ++ back) := by
  refine ⟨fun rest => ?_⟩
  rw [List.append_assoc, hfront.passes, hback.passes, Option.map_map]
  simp only [Function.comp_def, List.append_assoc]

theorem neutral_of_plain {code : List Char} (h : ∀ c ∈ code, c ∉ ['{', '}', '"', '\'', '`']) : Neutral code := by
  refine ⟨fun rest => ?_⟩
  induction code with
  | nil => simp
  | cons c code ih =>
      rw [List.forall_mem_cons] at h
      obtain ⟨hplain, hcode⟩ := h
      simp only [List.mem_cons, List.not_mem_nil, or_false, not_or] at hplain
      obtain ⟨hopen, hclose, hdouble, hsingle, hbacktick⟩ := hplain
      have hframes : codeFrames [] c = [] := by simp [codeFrames, hopen, hdouble, hsingle, hbacktick]
      rw [List.cons_append, readCode, if_neg fun hend => hclose hend.2]
      simp only [nextFrames]
      rw [hframes, ih hcode, Option.map_map]
      rfl

theorem neutral_emptyString : Neutral ['"', '"'] := by
  refine ⟨fun rest => ?_⟩
  simp only [List.cons_append, List.nil_append]
  rw [readCode, if_neg (by simp), readCode, if_neg (by simp), Option.map_map]
  rfl

theorem Neutral.readCode_eq {code : List Char} (h : Neutral code) (rest : List Char) :
    readCode [] (code ++ '}' :: rest) = some (code, rest) := by
  rw [h.passes, readCode, if_pos ⟨rfl, rfl⟩, Option.map_some, List.append_nil]

/-! ### Pieces -/

variable {source meaning code opened rest : List Char}

theorem readPieces_of_closing (h : readText source = (meaning, '`' :: rest)) :
    readPieces source = some (textPieces meaning, rest) := by
  rw [readPieces]
  split
  next heq =>
    cases h.symm.trans heq
    rfl
  next heq => cases h.symm.trans heq
  next hnone _ => exact absurd h (hnone _ _)

theorem readPieces_of_opening (h : readText source = (meaning, '$' :: '{' :: opened))
    (hcode : readCode [] opened = some (code, rest)) :
    readPieces source =
      (readPieces rest).map fun read => (textPieces meaning ++ .substitution code :: read.1, read.2) := by
  rw [readPieces]
  split
  next heq => cases h.symm.trans heq
  next heq =>
    cases h.symm.trans heq
    split
    next heq =>
      cases hcode.symm.trans heq
      rfl
    next heq => cases hcode.symm.trans heq
  next _ hnone => exact absurd h (hnone _ _)

theorem readPieces_of_unread (h : readText source = (meaning, '$' :: '{' :: opened))
    (hcode : readCode [] opened = none) : readPieces source = none := by
  rw [readPieces]
  split
  next heq => cases h.symm.trans heq
  next heq =>
    cases h.symm.trans heq
    split
    next heq => cases hcode.symm.trans heq
    next => rfl
  next _ hnone => exact absurd h (hnone _ _)

/-- Escaped text comes in front of the pieces of what follows it, as the text that it was. -/
theorem readPieces_escapeTemplate (text : List Char) (h : EndsText rest) :
    readPieces (escapeTemplate text ++ rest) =
      (readPieces rest).map fun read => (textPieces text ++ read.1, read.2) := by
  have htext := readText_escapeTemplate text h
  have hnothing := h.readText_eq
  cases h with
  | closing rest =>
      rw [readPieces_of_closing htext, readPieces_of_closing hnothing, Option.map_some]
      simp [textPieces]
  | opening opened =>
      cases hcode : readCode [] opened with
      | none =>
          rw [readPieces_of_unread htext hcode, readPieces_of_unread hnothing hcode]
          rfl
      | some read =>
          rw [readPieces_of_opening htext hcode, readPieces_of_opening hnothing hcode, Option.map_map]
          rfl

theorem readPieces_substitution (h : readCode [] (code ++ '}' :: rest) = some (code, rest)) :
    readPieces ('$' :: '{' :: (code ++ '}' :: rest)) =
      (readPieces rest).map fun read => (.substitution code :: read.1, read.2) := by
  have hnothing : readText ('$' :: '{' :: (code ++ '}' :: rest)) = ([], '$' :: '{' :: (code ++ '}' :: rest)) := rfl
  exact readPieces_of_opening hnothing h

theorem readPieces_closing (rest : List Char) : readPieces ('`' :: rest) = some ([], rest) := by
  have hnothing : readText ('`' :: rest) = ([], '`' :: rest) := rfl
  exact readPieces_of_closing hnothing

end ApiProxy.Script
