import ApiProxy.Proofs.Route.Alternation

/-! A URL template falls apart into what its segments stand for. Nothing is lost or taken twice, and a pair of braces
around a name is a placeholder wherever it stands: the scanner keeps the text since the last placeholder, and in that
text no such pair is complete, so a pair can only be completed by the closing brace that is read next. -/

namespace ApiProxy.Route

def BraceFree (text : List Char) : Prop := '{' ∉ text ∧ '}' ∉ text

theorem BraceFree.append {front back : List Char} (hfront : BraceFree front) (hback : BraceFree back) :
    BraceFree (front ++ back) :=
  ⟨List.not_mem_append hfront.1 hback.1, List.not_mem_append hfront.2 hback.2⟩

theorem braceFree_nil : BraceFree [] := ⟨List.not_mem_nil, List.not_mem_nil⟩

theorem braceFree_cons_iff {c : Char} {text : List Char} :
    BraceFree (c :: text) ↔ c ≠ '{' ∧ c ≠ '}' ∧ BraceFree text := by
  constructor
  · rintro ⟨hopen, hclose⟩
    rw [List.mem_cons, not_or] at hopen hclose
    exact ⟨Ne.symm hopen.1, Ne.symm hclose.1, hopen.2, hclose.2⟩
  · rintro ⟨hopen, hclose, hfree⟩
    exact ⟨List.not_mem_cons_of_ne_of_not_mem hopen.symm hfree.1,
      List.not_mem_cons_of_ne_of_not_mem hclose.symm hfree.2⟩

def braced (inner : List Char) : List Char := '{' :: (inner ++ ['}'])

/-- The stretch of a template that stands for a segment. -/
inductive Source : Segment → List Char → Prop where
  | literal (text : String) : Source (.literal text) text.toList
  | placeholder {inner name : List Char} {mark : Bool} (hfree : BraceFree inner)
      (hname : placeholder? inner = some (name, mark)) :
      Source (.placeholder (String.ofList name) mark) (braced inner)

/-- The text cut into segments, each with its stretch; every pair of braces that encloses a name and no brace has a
segment of its own. -/
structure Cut (text : List Char) (parts : List (Segment × List Char)) : Prop where
  source : ∀ part ∈ parts, Source part.1 part.2
  joined : parts.flatMap Prod.snd = text
  complete : ∀ front inner back name mark, text = front ++ braced inner ++ back → BraceFree inner →
    placeholder? inner = some (name, mark) →
      ∃ before after, parts = before ++ (.placeholder (String.ofList name) mark, braced inner) :: after ∧
        before.flatMap Prod.snd = front

/-! ### Text without placeholders -/

/-- No pair of braces of the text encloses a name. -/
def Quiet (text : List Char) : Prop :=
  ∀ front inner back, text = front ++ braced inner ++ back → BraceFree inner → placeholder? inner = none

theorem braced_append (front inner back : List Char) :
    front ++ braced inner ++ back = (front ++ '{' :: inner) ++ '}' :: back := by simp [braced]

theorem quiet_nil : Quiet [] := by
  intro front inner back h
  simp [braced] at h

/-- A pair of braces ends where its closing brace stands. -/
theorem quiet_append_singleton {text : List Char} (h : Quiet text) {c : Char}
    (hlast : ∀ front inner, text = front ++ '{' :: inner → BraceFree inner → c = '}' → placeholder? inner = none) :
    Quiet (text ++ [c]) := by
  intro front inner back heq hfree
  rw [braced_append] at heq
  rcases List.eq_nil_or_concat back with rfl | ⟨back, last, rfl⟩
  · obtain ⟨htext, hc⟩ := List.append_inj' heq rfl
    exact hlast front inner htext hfree (List.singleton_inj.mp hc)
  · have heq : text ++ [c] = (front ++ braced inner ++ back) ++ [last] := by simpa [braced] using heq
    exact h front inner back (List.append_inj' heq rfl).1 hfree

theorem Quiet.append_singleton {text : List Char} (h : Quiet text) {c : Char} (hc : c ≠ '}') : Quiet (text ++ [c]) :=
  quiet_append_singleton h fun _ _ _ _ heq => absurd heq hc

/-- The same mark in two places of one text: it is one place, or one lies behind the other. -/
theorem same_mark_cases {c : Char} {front back front' back' : List Char} (h : front ++ c :: back = front' ++ c :: back') :
    (front = front' ∧ back = back') ∨ (∃ between, front' = front ++ c :: between ∧ back = between ++ c :: back') ∨
      ∃ between, front = front' ++ c :: between ∧ back' = between ++ c :: back := by
  rcases List.append_eq_append_iff.mp h with ⟨middle, rfl, hback⟩ | ⟨middle, rfl, hback⟩
  all_goals
    cases middle with
    | nil => simp_all
    | cons d between =>
        rw [List.cons_append, List.cons.injEq] at hback
        obtain ⟨rfl, rfl⟩ := hback
        simp

/-- The text after the latest opening brace is determined by the whole text. -/
theorem opening_inj {front front' inner inner' : List Char} (hfree : '{' ∉ inner) (hfree' : '{' ∉ inner')
    (h : front ++ '{' :: inner = front' ++ '{' :: inner') : front = front' ∧ inner = inner' := by
  rcases same_mark_cases h with hsame | ⟨between, -, rfl⟩ | ⟨between, -, rfl⟩
  · exact hsame
  · exact absurd (List.mem_append_right between List.mem_cons_self) hfree
  · exact absurd (List.mem_append_right between List.mem_cons_self) hfree'

/-- An opening brace without a closing one behind it stands behind every closing brace. -/
theorem opening_behind {seen later front inner : List Char} (hfree : '}' ∉ inner)
    (h : seen ++ '}' :: later = front ++ '{' :: inner) :
    ∃ between, front = seen ++ '}' :: between ∧ later = between ++ '{' :: inner := by
  rcases List.append_eq_append_iff.mp h with ⟨middle, rfl, hback⟩ | ⟨middle, rfl, hback⟩
  · cases middle with
    | nil => cases hback
    | cons c between =>
        rw [List.cons_append, List.cons.injEq] at hback
        obtain ⟨rfl, rfl⟩ := hback
        exact ⟨between, rfl, rfl⟩
  · cases middle with
    | nil => cases hback
    | cons c between =>
        rw [List.cons_append, List.cons.injEq] at hback
        obtain ⟨rfl, rfl⟩ := hback
        exact absurd (List.mem_append_right between List.mem_cons_self) hfree

/-- What the scanner keeps: a text in which no placeholder is complete, and what follows its latest opening brace if
no closing brace came since. -/
structure Kept (passed : List Char) (inner : Option (List Char)) : Prop where
  quiet : Quiet (passed ++ unclosed inner)
  free : ∀ text ∈ inner, BraceFree text
  opened : ∀ front text, passed ++ unclosed inner = front ++ '{' :: text → BraceFree text → inner = some text

theorem kept_nil : Kept [] none where
  quiet := quiet_nil
  free := fun _ h => by cases h
  opened := fun front text h => by simp [unclosed] at h

variable {passed : List Char} {inner : Option (List Char)}

theorem Kept.open (h : Kept passed inner) : Kept (passed ++ unclosed inner) (some []) where
  quiet := h.quiet.append_singleton (by decide)
  free := fun _ h => by
    cases h
    exact braceFree_nil
  opened := fun front text heq hfree =>
    congrArg some (opening_inj List.not_mem_nil hfree.1 heq).2

/-- Behind a closing brace no brace is open. -/
theorem not_opened_close (text front inner : List Char) (hfree : BraceFree inner) :
    text ++ ['}'] ≠ front ++ '{' :: inner := by
  intro heq
  rcases List.eq_nil_or_concat inner with rfl | ⟨inner, last, rfl⟩
  · cases (List.append_inj' heq rfl).2
  · have heq : text ++ ['}'] = (front ++ '{' :: inner) ++ [last] := by simpa using heq
    cases (List.append_inj' heq rfl).2
    exact hfree.2 (by simp)

theorem Kept.close (h : Kept passed inner) (hreject : ∀ text ∈ inner, placeholder? text = none) :
    Kept (passed ++ unclosed inner ++ ['}']) none where
  quiet := by
    rw [unclosed, List.append_nil]
    exact quiet_append_singleton h.quiet fun front text heq hfree _ => hreject text (h.opened front text heq hfree)
  free := fun _ h => by cases h
  opened := fun front text heq hfree => by
    rw [unclosed, List.append_nil] at heq
    exact absurd heq (not_opened_close _ front text hfree)

theorem Kept.push (h : Kept passed none) {c : Char} (hopen : c ≠ '{') (hclose : c ≠ '}') :
    Kept (passed ++ [c]) none where
  quiet := by
    have hquiet := h.quiet.append_singleton hclose
    rwa [unclosed, List.append_nil] at hquiet ⊢
  free := fun _ h => by cases h
  opened := fun front text heq hfree => by
    rw [unclosed, List.append_nil] at heq
    rcases List.eq_nil_or_concat text with rfl | ⟨text, last, rfl⟩
    · exact absurd (List.singleton_inj.mp (List.append_inj' heq rfl).2) hopen
    · have heq : passed ++ [c] = (front ++ '{' :: text) ++ [last] := by simpa using heq
      have hshort : BraceFree text := ⟨fun hmem => hfree.1 (by simp [hmem]), fun hmem => hfree.2 (by simp [hmem])⟩
      have hpassed : passed ++ unclosed none = front ++ '{' :: text := by
        rw [unclosed, List.append_nil]
        exact (List.append_inj' heq rfl).1
      cases h.opened front text hpassed hshort

theorem Kept.pushInner {text : List Char} (h : Kept passed (some text)) {c : Char} (hopen : c ≠ '{') (hclose : c ≠ '}') :
    Kept passed (some (text ++ [c])) where
  quiet := by
    have hquiet := h.quiet.append_singleton hclose
    simpa [unclosed] using hquiet
  free := fun _ htext => by
    cases htext
    obtain ⟨hleft, hright⟩ := h.free text rfl
    exact ⟨by simp [hleft, hopen.symm], by simp [hright, hclose.symm]⟩
  opened := fun front other heq hfree => by
    obtain ⟨hleft, -⟩ := h.free text rfl
    have hlonger : '{' ∉ text ++ [c] := by simp [hleft, hopen.symm]
    exact congrArg some (opening_inj hlonger hfree.1 heq).2

/-! ### The parts -/

/-- A stretch of literal text with its segment, if it has one. -/
def literalParts (text : List Char) : List (Segment × List Char) :=
  (literalSegments text).map fun segment => (segment, text)

theorem map_fst_literalParts (text : List Char) : (literalParts text).map Prod.fst = literalSegments text := by
  rw [literalParts, List.map_map]
  exact List.map_id _

theorem flatMap_snd_literalParts (text : List Char) : (literalParts text).flatMap Prod.snd = text := by
  cases text with
  | nil => rfl
  | cons c text => exact List.append_nil _

theorem source_of_mem_literalParts {text : List Char} {part : Segment × List Char} (h : part ∈ literalParts text) :
    Source part.1 part.2 := by
  cases text with
  | nil => cases h
  | cons c text =>
      cases List.mem_singleton.mp h
      have hsource := Source.literal (String.ofList (c :: text))
      rwa [String.toList_ofList] at hsource

theorem cut_literalParts {text : List Char} (h : Quiet text) : Cut text (literalParts text) where
  source := fun _ => source_of_mem_literalParts
  joined := flatMap_snd_literalParts text
  complete := fun front inner back name mark heq hfree hname => by
    rw [h front inner back heq hfree] at hname
    cases hname

/-- The first placeholder stands behind the text that was kept, and every further one behind it. -/
theorem Cut.cons_placeholder {inner name rest : List Char} {mark : Bool} {parts : List (Segment × List Char)}
    (hkept : Kept passed (some inner)) (hname : placeholder? inner = some (name, mark)) (hrest : Cut rest parts) :
    Cut (passed ++ braced inner ++ rest)
      (literalParts passed ++ (.placeholder (String.ofList name) mark, braced inner) :: parts) where
  source := by
    intro part hpart
    rcases List.mem_append.mp hpart with hliteral | hpart
    · exact source_of_mem_literalParts hliteral
    · rcases List.mem_cons.mp hpart with rfl | hpart
      · exact .placeholder (hkept.free inner rfl) hname
      · exact hrest.source part hpart
  joined := by
    rw [List.flatMap_append, flatMap_snd_literalParts, List.flatMap_cons, hrest.joined, List.append_assoc]
  complete := by
    intro front other back name' mark' heq hfree hname'
    have hseen : passed ++ unclosed (some inner) = passed ++ '{' :: inner := rfl
    rw [braced_append, braced_append] at heq
    rcases same_mark_cases heq with ⟨hsame, -⟩ | ⟨between, hlater, hback⟩ | ⟨between, hearlier, -⟩
    · cases hkept.opened front other hsame hfree
      obtain ⟨rfl, -⟩ := opening_inj hfree.1 hfree.1 hsame
      rw [hname'] at hname
      cases hname
      exact ⟨literalParts passed, parts, rfl, flatMap_snd_literalParts passed⟩
    · obtain ⟨later, rfl, rfl⟩ := opening_behind hfree.2 hlater.symm
      obtain ⟨before, after, rfl, hbefore⟩ := hrest.complete later other back name' mark'
        (by rw [hback, braced_append]) hfree hname'
      refine ⟨literalParts passed ++ (.placeholder (String.ofList name) mark, braced inner) :: before, after, ?_, ?_⟩
      · simp
      · rw [List.flatMap_append, flatMap_snd_literalParts, List.flatMap_cons, hbefore]
        simp [braced]
    · have hnone := hkept.quiet front other between (by rw [hseen, hearlier, braced_append]) hfree
      rw [hname'] at hnone
      cases hnone

theorem exists_cut_scan (hkept : Kept passed inner) (text : List Char) :
    ∃ parts, parts.map Prod.fst = scan passed inner text ∧ Cut (passed ++ unclosed inner ++ text) parts := by
  -- along the template; what is kept grows by the character that is read
  fun_induction scan passed inner text with
  | case1 passed inner =>
      rw [List.append_nil]
      exact ⟨literalParts _, map_fst_literalParts _, cut_literalParts hkept.quiet⟩
  | case2 passed inner rest ih =>
      simpa [unclosed] using ih hkept.open
  | case3 passed rest ih =>
      have hclosed := hkept.close fun text htext => by cases htext
      rw [unclosed, List.append_nil] at hclosed
      simpa [unclosed] using ih hclosed
  | case4 passed rest inner name mark hname ih =>
      obtain ⟨parts, hparts, hcut⟩ := ih kept_nil
      refine ⟨_, ?_, by simpa [unclosed, braced] using hcut.cons_placeholder hkept hname⟩
      rw [List.map_append, map_fst_literalParts, List.map_cons, hparts]
  | case5 passed rest inner hnone ih =>
      simpa [unclosed] using ih (hkept.close fun text htext => by cases htext; exact hnone)
  | case6 passed c rest hopen hclose ih =>
      simpa [unclosed] using ih (hkept.push hopen hclose)
  | case7 passed c rest hopen hclose inner ih =>
      simpa [unclosed] using ih (hkept.pushInner hopen hclose)

/-- A template is the stretches of its segments one behind the other: a literal stands for itself, a placeholder for a
pair of braces that encloses its name and no brace. Every such pair is a placeholder. Literals are not empty, and no
two of them stand side by side. -/
theorem segments_cut_template (template : String) :
    (∃ parts, parts.map Prod.fst = segments template ∧ Cut template.toList parts) ∧
      (∀ text, Segment.literal text ∈ segments template → text ≠ "") ∧ Alternating (segments template) := by
  refine ⟨?_, ?_, alternating_segments template⟩
  · exact exists_cut_scan kept_nil template.toList
  · rintro text htext rfl
    exact literal_ne_nil htext rfl

/-- A template whose braces are nested, empty or without partner. -/
def tangled : String := "\x7ba\x7b\x7bid?\x7d/\x7b?\x7dx\x7b*p:q\x7d\x7d"

theorem tangled_cut_into_segments :
    ∃ parts : List (Segment × List Char),
      parts.map Prod.fst = [.literal "\x7ba\x7b", .placeholder "id" true, .literal "/\x7b?\x7dx",
        .placeholder "p" false, .literal "\x7d"] ∧
      parts.flatMap Prod.snd = tangled.toList ∧
      ∃ before after, parts = before ++ (.placeholder "p" false, braced "*p:q".toList) :: after ∧
        before.flatMap Prod.snd = "\x7ba\x7b\x7bid?\x7d/\x7b?\x7dx".toList := by
  obtain ⟨⟨parts, hparts, hcut⟩, -⟩ := segments_cut_template tangled
  have hfree : BraceFree "*p:q".toList := ⟨by decide, by decide⟩
  refine ⟨parts, hparts.trans (by decide), hcut.joined, ?_⟩
  exact hcut.complete _ "*p:q".toList ['\x7d'] ['p'] false (by decide) hfree (by decide)

end ApiProxy.Route
