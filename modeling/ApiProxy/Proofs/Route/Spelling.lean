import ApiProxy.Proofs.Route.Segmentation

/-! URL templates as they are written. A placeholder may be spelled with white space inside its braces, with asterisks in
front of its name, with a constraint behind a colon and with a question mark. The reader takes these off in the opposite
order, so that what is left is the name, and the template is cut again into the parts it was put together from. -/

namespace ApiProxy.Route

open Unicode

/-! ### Parts -/

/-- A name that stands for itself between braces. -/
structure IsPlaceholderName (name : List Char) : Prop where
  ne_nil : name ≠ []
  free : BraceFree name
  colon : ':' ∉ name
  blank_first : ∀ c ∈ name.head?, isBlank c = false
  blank_last : ∀ c ∈ name.getLast?, isBlank c = false
  star : name.head? ≠ some '*'
  mark : name.getLast? ≠ some '?'

/-- What may stand behind the colon of a placeholder. It may be empty. -/
structure IsConstraint (text : List Char) : Prop where
  free : BraceFree text
  blank_last : ∀ c ∈ text.getLast?, isBlank c = false
  mark : text.getLast? ≠ some '?'

/-- How a placeholder is written: its name, with all that may stand around it between the braces. -/
structure Spelling where
  front : List Char
  stars : Nat
  name : List Char
  constraint? : Option (List Char)
  isOptional : Bool
  back : List Char
  blank_front : ∀ c ∈ front, isBlank c = true
  name_fits : IsPlaceholderName name
  constraint_fits : ∀ constraint ∈ constraint?, IsConstraint constraint
  blank_back : ∀ c ∈ back, isBlank c = true

namespace Spelling

def constraintText (spelling : Spelling) : List Char :=
  match spelling.constraint? with
  | some constraint => ':' :: constraint
  | none => []

def markText (spelling : Spelling) : List Char := if spelling.isOptional then ['?'] else []

/-- The spelling without the mark and the white space. -/
def body (spelling : Spelling) : List Char :=
  List.replicate spelling.stars '*' ++ spelling.name ++ spelling.constraintText

def inner (spelling : Spelling) : List Char :=
  spelling.front ++ (spelling.body ++ spelling.markText) ++ spelling.back

end Spelling

/-- A part of a template as it is written. -/
inductive Part where
  | literal (text : List Char) (hne : text ≠ []) (hfree : BraceFree text)
  | placeholder (spelling : Spelling)

namespace Part

def text : Part → List Char
  | literal text _ _ => text
  | placeholder spelling => braced spelling.inner

def segment : Part → Segment
  | literal text _ _ => .literal (String.ofList text)
  | placeholder spelling => .placeholder (String.ofList spelling.name) spelling.isOptional

end Part

def template (parts : List Part) : String := String.ofList (parts.flatMap Part.text)

/-! ### White space -/

theorem trim_append {front text back : List Char} (hfront : ∀ c ∈ front, isBlank c = true)
    (hback : ∀ c ∈ back, isBlank c = true) (hne : text ≠ []) (hfirst : ∀ c ∈ text.head?, isBlank c = false)
    (hlast : ∀ c ∈ text.getLast?, isBlank c = false) : trim (front ++ text ++ back) = text := by
  have hstart : trimStart (front ++ text ++ back) = text ++ back := by
    obtain ⟨c, later, rfl⟩ := List.exists_cons_of_ne_nil hne
    rw [trimStart, List.append_assoc, List.dropWhile_append_of_pos hfront, List.cons_append,
      List.dropWhile_cons_of_neg (by simpa using hfirst c rfl)]
  have hend : trimEnd (text ++ back) = text := by
    rcases List.eq_nil_or_concat text with rfl | ⟨earlier, c, rfl⟩
    · exact absurd rfl hne
    · have hc : isBlank c = false := hlast c (by simp)
      rw [trimEnd, List.reverse_append, List.dropWhile_append_of_pos (by simpa using hback), List.concat_eq_append,
        List.reverse_append, List.reverse_singleton, List.singleton_append,
        List.dropWhile_cons_of_neg (by simpa using hc), List.reverse_cons, List.reverse_reverse]
  rw [trim, hstart, hend]

theorem IsPlaceholderName.trim_eq {name : List Char} (h : IsPlaceholderName name) : trim name = name := by
  have htrim := trim_append (List.forall_mem_nil _) (List.forall_mem_nil _) h.ne_nil h.blank_first h.blank_last
  rwa [List.nil_append, List.append_nil] at htrim

/-! ### Braces -/

theorem braceFree_of_blank {text : List Char} (h : ∀ c ∈ text, isBlank c = true) : BraceFree text := by
  constructor
  · exact fun hmem => absurd (h _ hmem) (by decide)
  · exact fun hmem => absurd (h _ hmem) (by decide)

namespace Spelling

variable (spelling : Spelling)

theorem braceFree_inner : BraceFree spelling.inner := by
  have hstars : BraceFree (List.replicate spelling.stars '*') := by
    constructor
    · exact fun hmem => absurd (List.eq_of_mem_replicate hmem) (by decide)
    · exact fun hmem => absurd (List.eq_of_mem_replicate hmem) (by decide)
  have hconstraint : BraceFree spelling.constraintText := by
    rw [constraintText]
    split
    next constraint hsome =>
      exact braceFree_cons_iff.mpr ⟨by decide, by decide, (spelling.constraint_fits constraint hsome).free⟩
    · exact braceFree_nil
  have hmark : BraceFree spelling.markText := by
    rw [markText]
    split
    · exact braceFree_cons_iff.mpr ⟨by decide, by decide, braceFree_nil⟩
    · exact braceFree_nil
  have hbody : BraceFree spelling.body := (hstars.append spelling.name_fits.free).append hconstraint
  exact ((braceFree_of_blank spelling.blank_front).append (hbody.append hmark)).append
    (braceFree_of_blank spelling.blank_back)

/-! ### Reading a placeholder -/

theorem body_ne_nil : spelling.body ≠ [] := by
  simp [body, spelling.name_fits.ne_nil]

theorem isBlank_body_head : ∀ c ∈ spelling.body.head?, isBlank c = false := by
  intro c hc
  rw [body, List.append_assoc] at hc
  cases hstars : spelling.stars with
  | zero =>
      obtain ⟨first, later, hname⟩ := List.exists_cons_of_ne_nil spelling.name_fits.ne_nil
      rw [hstars, hname] at hc
      cases hc
      exact spelling.name_fits.blank_first c (by rw [hname]; rfl)
  | succ stars =>
      rw [hstars, List.replicate_succ] at hc
      cases hc
      decide

/-- The last character of a constraint, or the colon in front of an empty one, or the last one of the name. -/
theorem body_last : ∀ c ∈ spelling.body.getLast?, isBlank c = false ∧ c ≠ '?' := by
  intro c hc
  have hname : ∀ c ∈ spelling.name.getLast?, isBlank c = false ∧ c ≠ '?' := fun c hc =>
    ⟨spelling.name_fits.blank_last c hc, fun heq => spelling.name_fits.mark (heq ▸ hc)⟩
  cases hconstraint : spelling.constraint? with
  | none =>
      rw [body, constraintText, hconstraint, List.append_nil,
        List.getLast?_append_of_ne_nil _ spelling.name_fits.ne_nil] at hc
      exact hname c hc
  | some constraint =>
      have hfits := spelling.constraint_fits constraint hconstraint
      rw [body, constraintText, hconstraint, List.getLast?_append_of_ne_nil _ (List.cons_ne_nil _ _)] at hc
      cases constraint with
      | nil =>
          cases hc
          decide
      | cons first later =>
          rw [List.getLast?_cons_cons] at hc
          exact ⟨hfits.blank_last c hc, fun heq => hfits.mark (heq ▸ hc)⟩

theorem trim_inner : trim spelling.inner = spelling.body ++ spelling.markText := by
  apply trim_append spelling.blank_front spelling.blank_back
  · simp [spelling.body_ne_nil]
  · intro c hc
    rw [List.head?_append_of_ne_nil _ spelling.body_ne_nil] at hc
    exact spelling.isBlank_body_head c hc
  · intro c hc
    rw [markText] at hc
    split at hc
    · rw [List.getLast?_append_of_ne_nil _ (List.cons_ne_nil _ _)] at hc
      cases hc
      decide
    · rw [List.append_nil] at hc
      exact (spelling.body_last c hc).1

theorem takeQuestionMark_marked :
    takeQuestionMark (spelling.body ++ spelling.markText) = (spelling.body, spelling.isOptional) := by
  rw [takeQuestionMark, markText]
  cases spelling.isOptional with
  | true => simp
  | false =>
      have hmark : spelling.body.getLast? ≠ some '?' := fun heq => (spelling.body_last '?' heq).2 rfl
      simp [hmark]

theorem takeWhile_body :
    spelling.body.takeWhile (· ≠ ':') = List.replicate spelling.stars '*' ++ spelling.name := by
  have hcolon : ∀ c ∈ List.replicate spelling.stars '*' ++ spelling.name, decide (c ≠ ':') = true := by
    intro c hc
    apply decide_eq_true
    rintro rfl
    rcases List.mem_append.mp hc with hstar | hname
    · exact absurd (List.eq_of_mem_replicate hstar) (by decide)
    · exact spelling.name_fits.colon hname
  rw [body, List.takeWhile_append_of_pos hcolon, constraintText]
  split <;> simp

theorem dropWhile_stars :
    (List.replicate spelling.stars '*' ++ spelling.name).dropWhile (· = '*') = spelling.name := by
  obtain ⟨first, later, hname⟩ := List.exists_cons_of_ne_nil spelling.name_fits.ne_nil
  have hfirst : first ≠ '*' := by
    have hstar := spelling.name_fits.star
    rw [hname] at hstar
    simpa using hstar
  rw [List.dropWhile_append_of_pos (by simp), hname, List.dropWhile_cons_of_neg (by simpa using hfirst)]

theorem placeholder_inner : placeholder? spelling.inner = some (spelling.name, spelling.isOptional) := by
  rw [placeholder?, trim_inner, takeQuestionMark_marked]
  show (if (trim ((spelling.body.takeWhile (· ≠ ':')).dropWhile (· = '*'))).isEmpty then _ else _) = _
  rw [takeWhile_body, dropWhile_stars, spelling.name_fits.trim_eq, if_neg]
  simpa using spelling.name_fits.ne_nil

end Spelling

/-! ### Scanning part by part -/

theorem scan_braceFree {text : List Char} (h : BraceFree text) (passed rest : List Char) :
    scan passed none (text ++ rest) = scan (passed ++ text) none rest := by
  induction text generalizing passed with
  | nil => rw [List.append_nil, List.nil_append]
  | cons c text ih =>
      obtain ⟨hopen, hclose, hfree⟩ := braceFree_cons_iff.mp h
      rw [List.cons_append, scan, ih hfree, List.append_assoc, List.singleton_append]
      · exact hopen
      · exact hclose

theorem scan_inner_braceFree {text : List Char} (h : BraceFree text) (passed inner rest : List Char) :
    scan passed (some inner) (text ++ rest) = scan passed (some (inner ++ text)) rest := by
  induction text generalizing inner with
  | nil => rw [List.append_nil, List.nil_append]
  | cons c text ih =>
      obtain ⟨hopen, hclose, hfree⟩ := braceFree_cons_iff.mp h
      rw [List.cons_append, scan, ih hfree, List.append_assoc, List.singleton_append]
      · exact hopen
      · exact hclose

theorem scan_braced {inner name : List Char} {mark : Bool} (hfree : BraceFree inner)
    (hname : placeholder? inner = some (name, mark)) (passed rest : List Char) :
    scan passed none (braced inner ++ rest) =
      literalSegments passed ++ .placeholder (String.ofList name) mark :: scan [] none rest := by
  rw [braced, List.cons_append, scan, unclosed, List.append_nil, List.append_assoc,
    scan_inner_braceFree hfree, List.nil_append, List.singleton_append, scan, hname]

/-- Literal text ends where a placeholder begins, or the template ends. -/
theorem scan_parts {parts : List Part} (passed : List Char)
    (hfirst : ∀ part ∈ parts.head?, part.segment.isLiteral = false) :
    scan passed none (parts.flatMap Part.text) =
      literalSegments passed ++ scan [] none (parts.flatMap Part.text) := by
  cases parts with
  | nil => simp [scan, unclosed, literalSegments]
  | cons part later =>
      cases part with
      | literal text hne hfree => cases hfirst _ rfl
      | placeholder spelling =>
          have hscan := scan_braced spelling.braceFree_inner spelling.placeholder_inner
          rw [List.flatMap_cons, Part.text, hscan, hscan]
          rfl

theorem scan_template {parts : List Part} (h : Alternating (parts.map Part.segment)) :
    scan [] none (parts.flatMap Part.text) = parts.map Part.segment := by
  -- along the parts; a literal is kept by the scanner, and put out by the placeholder behind it or by the end
  induction parts with
  | nil => rfl
  | cons part later ih =>
      obtain ⟨hnext, hlater⟩ := List.isChain_cons.mp h
      rw [List.flatMap_cons, List.map_cons]
      cases part with
      | literal text hne hfree =>
          have hfirst : ∀ part ∈ later.head?, part.segment.isLiteral = false := by
            intro part hpart
            have hapart := hnext part.segment (by simpa using ⟨part, hpart, rfl⟩)
            simpa [Part.segment, Segment.isLiteral] using hapart
          rw [Part.text, scan_braceFree hfree, List.nil_append, scan_parts text hfirst, ih hlater, literalSegments,
            if_neg (by simpa using hne)]
          rfl
      | placeholder spelling =>
          rw [Part.text, scan_braced spelling.braceFree_inner spelling.placeholder_inner, ih hlater]
          rfl

/-- A template is cut into the parts it is written with, however its placeholders are spelled, exactly if no two of its
literals stand side by side. -/
theorem segments_template_iff (parts : List Part) :
    segments (template parts) = parts.map Part.segment ↔ Alternating (parts.map Part.segment) := by
  constructor
  · intro heq
    rw [← heq]
    exact alternating_segments _
  · intro h
    rw [segments, template, String.toList_ofList]
    exact scan_template h

theorem isPlaceholderName_day : IsPlaceholderName "first day".toList where
  ne_nil := by decide
  free := ⟨by decide, by decide⟩
  colon := by decide
  blank_first := fun _ hc => Option.some_inj.mp hc ▸ (by decide : isBlank 'f' = false)
  blank_last := fun _ hc => Option.some_inj.mp hc ▸ (by decide : isBlank 'y' = false)
  star := by decide
  mark := by decide

theorem isConstraint_range : IsConstraint "range(1,9)".toList where
  free := ⟨by decide, by decide⟩
  blank_last := fun _ hc => Option.some_inj.mp hc ▸ (by decide : isBlank ')' = false)
  mark := by decide

theorem isConstraint_nil : IsConstraint [] where
  free := braceFree_nil
  blank_last := fun _ hc => by cases hc
  mark := by decide

/-- A name with everything around it that there may be. -/
def dayRange : Spelling where
  front := [' ']
  stars := 2
  name := "first day".toList
  constraint? := some "range(1,9)".toList
  isOptional := true
  back := ['\t', ' ']
  blank_front := List.all_eq_true.mp (by decide)
  name_fits := isPlaceholderName_day
  constraint_fits := fun _ h => Option.some_inj.mp h ▸ isConstraint_range
  blank_back := List.all_eq_true.mp (by decide)

/-- A name with an empty constraint. -/
def dayPlain : Spelling where
  front := []
  stars := 0
  name := "first day".toList
  constraint? := some []
  isOptional := false
  back := []
  blank_front := List.forall_mem_nil _
  name_fits := isPlaceholderName_day
  constraint_fits := fun _ h => Option.some_inj.mp h ▸ isConstraint_nil
  blank_back := List.forall_mem_nil _

def reportParts : List Part :=
  [.literal "/report/".toList (by decide) ⟨by decide, by decide⟩, .placeholder dayRange, .placeholder dayPlain]

theorem report_template_cut_again :
    template reportParts = "/report/\x7b **first day:range(1,9)?\t \x7d\x7bfirst day:\x7d" ∧
      Alternating (reportParts.map Part.segment) ∧ segments (template reportParts) =
        [.literal "/report/", .placeholder "first day" true, .placeholder "first day" false] := by
  have halternating : Alternating (reportParts.map Part.segment) := by
    simp [Alternating, reportParts, Part.segment, Segment.isLiteral]
  exact ⟨by decide, halternating, (segments_template_iff reportParts).mpr halternating⟩

end ApiProxy.Route
