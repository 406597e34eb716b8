import ApiProxy.Pieces
import Mathlib.Data.List.TakeDrop
import Mathlib.Data.List.TakeWhile

/-! Cutting texts that were put together. A text falls apart at a separator wherever it stands, and a stretch
without separators stays in one piece, the last one of what stands before it. -/

namespace ApiProxy

variable {separator : Char} {front back text : List Char} {isSeparator : Char → Bool}

theorem pieces_append_cons {c : Char} (hc : isSeparator c = true) (front back : List Char) :
    pieces isSeparator (front ++ c :: back) = pieces isSeparator front ++ pieces isSeparator back := by
  induction front with
  | nil => simp [pieces, hc]
  | cons d front ih =>
      rw [List.cons_append, pieces, pieces, ih]
      split
      · rfl
      · cases hpieces : pieces isSeparator front with
        | nil => exact absurd hpieces (pieces_ne_nil _ front)
        | cons piece others => rfl

theorem pieces_of_free (h : ∀ c ∈ text, isSeparator c = false) : pieces isSeparator text = [text] := by
  induction text with
  | nil => rfl
  | cons c text ih =>
      rw [List.forall_mem_cons] at h
      rw [pieces, ih h.2, h.1]
      rfl

theorem isSeparator_of_mem_pieces {piece : List Char} (h : piece ∈ pieces isSeparator text) {c : Char} (hc : c ∈ piece) :
    isSeparator c = false := by
  induction text generalizing piece with
  | nil =>
      rw [pieces, List.mem_singleton] at h
      rw [h] at hc
      cases hc
  | cons d text ih =>
      rw [pieces] at h
      split_ifs at h with hseparator
      · rcases List.mem_cons.mp h with rfl | h
        · cases hc
        · exact ih h hc
      · cases hpieces : pieces isSeparator text with
        | nil => exact absurd hpieces (pieces_ne_nil _ text)
        | cons first others =>
            rw [hpieces] at h ih
            rcases List.mem_cons.mp h with rfl | h
            · rcases List.mem_cons.mp hc with rfl | hc
              · exact eq_false_of_ne_true hseparator
              · exact ih List.mem_cons_self hc
            · exact ih (List.mem_cons_of_mem first h) hc

theorem pieces_append_of_free (isSeparator : Char → Bool) (front : List Char) :
    ∃ early last, ∀ tail, (∀ c ∈ tail, isSeparator c = false) →
      pieces isSeparator (front ++ tail) = early ++ [last ++ tail] := by
  induction front with
  | nil => exact ⟨[], [], fun tail h => pieces_of_free h⟩
  | cons c front ih =>
      obtain ⟨early, last, happend⟩ := ih
      by_cases hc : isSeparator c = true
      · refine ⟨[] :: early, last, fun tail h => ?_⟩
        rw [List.cons_append, pieces, if_pos hc, happend tail h]
        rfl
      · cases early with
        | nil =>
            refine ⟨[], c :: last, fun tail h => ?_⟩
            rw [List.cons_append, pieces, if_neg hc, happend tail h]
            rfl
        | cons piece others =>
            refine ⟨(c :: piece) :: others, last, fun tail h => ?_⟩
            rw [List.cons_append, pieces, if_neg hc, happend tail h]
            rfl

/-- Cutting undoes joining where no part holds a separator of its own. -/
theorem pieces_joinPieces {parts : List (List Char)} (hne : parts ≠ []) (hfree : ∀ part ∈ parts, separator ∉ part) :
    pieces (· = separator) (joinPieces separator parts) = parts := by
  have hpieces : ∀ part ∈ parts, pieces (· = separator) part = [part] := by
    intro part hpart
    refine pieces_of_free fun c hc => decide_eq_false ?_
    rintro rfl
    exact hfree part hpart hc
  induction parts with
  | nil => exact absurd rfl hne
  | cons part parts ih =>
      cases parts with
      | nil =>
          rw [joinPieces, List.intercalate_singleton]
          exact hpieces part List.mem_cons_self
      | cons next parts =>
          rw [List.forall_mem_cons] at hfree hpieces
          rw [joinPieces, List.intercalate_cons_cons, List.append_assoc, List.singleton_append,
            pieces_append_cons (decide_eq_true rfl), hpieces.1]
          exact congrArg (part :: ·) (ih (List.cons_ne_nil _ _) hfree.2 hpieces.2)

/-- Lines that each end with a separator are cut into just these lines. -/
theorem pieces_lines {lines : List (List Char)} (hfree : ∀ line ∈ lines, separator ∉ line) (rest : List Char) :
    pieces (· = separator) ((lines.flatMap fun line => line ++ [separator]) ++ rest) =
      lines ++ pieces (· = separator) rest := by
  induction lines with
  | nil => rfl
  | cons line lines ih =>
      rw [List.forall_mem_cons] at hfree
      have hline : pieces (· = separator) line = [line] := by
        apply pieces_of_free
        intro c hc
        apply decide_eq_false
        rintro rfl
        exact hfree.1 hc
      rw [List.flatMap_cons, List.append_assoc, List.append_assoc, List.singleton_append,
        pieces_append_cons (decide_eq_true rfl), hline, ih hfree.2]
      rfl

theorem mem_joinPieces {parts : List (List Char)} {c : Char} (h : c ∈ joinPieces separator parts) :
    c = separator ∨ ∃ part ∈ parts, c ∈ part := by
  induction parts with
  | nil => cases h
  | cons part parts ih =>
      cases parts with
      | nil =>
          rw [joinPieces, List.intercalate_singleton] at h
          exact Or.inr ⟨part, List.mem_cons_self, h⟩
      | cons next parts =>
          rw [joinPieces, List.intercalate_cons_cons, List.append_assoc, List.singleton_append, List.mem_append,
            List.mem_cons] at h
          rcases h with hpart | heq | hlater
          · exact Or.inr ⟨part, List.mem_cons_self, hpart⟩
          · exact Or.inl heq
          · rcases ih hlater with heq | ⟨other, hother, hc⟩
            · exact Or.inl heq
            · exact Or.inr ⟨other, List.mem_cons_of_mem _ hother, hc⟩

theorem ne_of_notMem (h : separator ∉ text) : ∀ c ∈ text, decide (c ≠ separator) = true := by
  intro c hc
  refine decide_eq_true ?_
  rintro rfl
  exact h hc

theorem cutAt_append (h : separator ∉ front) (back : List Char) :
    cutAt separator (front ++ separator :: back) = (front, some back) := by
  have hfront := ne_of_notMem h
  rw [cutAt, List.span_eq_takeWhile_dropWhile, List.takeWhile_append_of_pos hfront,
    List.dropWhile_append_of_pos hfront]
  simp

theorem cutAt_of_notMem (h : separator ∉ text) : cutAt separator text = (text, none) := by
  have htext := ne_of_notMem h
  rw [cutAt, List.span_eq_takeWhile_dropWhile, List.takeWhile_eq_self_iff.mpr htext,
    List.dropWhile_eq_nil_iff.mpr htext]

/-- What comes behind a separator does not change what stands before the first one. -/
theorem cutAt_append_fst (h : separator ∈ front) (back : List Char) :
    (cutAt separator (front ++ back)).1 = (cutAt separator front).1 := by
  obtain ⟨before, after, rfl, hbefore⟩ := List.eq_append_cons_of_mem h
  rw [List.append_assoc, List.cons_append, cutAt_append hbefore, cutAt_append hbefore]

end ApiProxy
