import Mathlib.Data.List.Chain
import ApiProxy.Route

/-! Literal text of a URL template comes in whole stretches: no literal segment is empty, and no two of them stand
side by side, since a literal ends only where a placeholder or the template does. -/

namespace ApiProxy.Route

def Segment.isLiteral : Segment → Bool
  | literal _ => true
  | placeholder _ _ => false

/-- Of two neighbours at most one is literal text. -/
def Alternating (segments : List Segment) : Prop :=
  segments.IsChain fun segment next => ¬(segment.isLiteral = true ∧ next.isLiteral = true)

theorem alternating_literalSegments (text : List Char) : Alternating (literalSegments text) := by
  rw [literalSegments]
  split
  · exact .nil
  · exact .singleton _

theorem Alternating.cons_placeholder {name : String} {mark : Bool} {segments : List Segment}
    (h : Alternating segments) (text : List Char) :
    Alternating (literalSegments text ++ .placeholder name mark :: segments) := by
  have hplaceholder : Alternating (.placeholder name mark :: segments) := by
    refine List.isChain_cons.mpr ⟨?_, h⟩
    rintro next _ ⟨hliteral, _⟩
    cases hliteral
  rw [literalSegments]
  split
  · exact hplaceholder
  · refine .cons_cons ?_ hplaceholder
    rintro ⟨_, hliteral⟩
    cases hliteral

theorem alternating_scan (passed : List Char) (inner : Option (List Char)) (text : List Char) :
    Alternating (scan passed inner text) := by
  -- along the template; only a closed placeholder puts out segments before the end
  fun_induction scan passed inner text with
  | case1 => exact alternating_literalSegments _
  | case2 _ _ _ ih => exact ih
  | case3 _ _ ih => exact ih
  | case4 _ _ _ _ _ _ ih => exact ih.cons_placeholder _
  | case5 _ _ _ _ ih => exact ih
  | case6 _ _ _ _ _ ih => exact ih
  | case7 _ _ _ _ _ _ ih => exact ih

theorem alternating_segments (template : String) : Alternating (segments template) :=
  alternating_scan [] none template.toList

theorem literal_ne_nil_of_mem {text : List Char} {literal : String}
    (h : Segment.literal literal ∈ literalSegments text) : literal.toList ≠ [] := by
  rw [literalSegments] at h
  split at h
  · cases h
  next htext =>
    cases List.mem_singleton.mp h
    rw [String.toList_ofList]
    exact fun heq => htext (List.isEmpty_iff.mpr heq)

theorem literal_ne_nil_of_scan {passed : List Char} {inner : Option (List Char)} {text : List Char}
    {literal : String} (h : Segment.literal literal ∈ scan passed inner text) : literal.toList ≠ [] := by
  fun_induction scan passed inner text with
  | case1 => exact literal_ne_nil_of_mem h
  | case2 _ _ _ ih => exact ih h
  | case3 _ _ ih => exact ih h
  | case4 _ _ _ _ _ _ ih =>
      rcases List.mem_append.mp h with hfront | hlater
      · exact literal_ne_nil_of_mem hfront
      · rcases List.mem_cons.mp hlater with heq | hlater
        · cases heq
        · exact ih hlater
  | case5 _ _ _ _ ih => exact ih h
  | case6 _ _ _ _ _ ih => exact ih h
  | case7 _ _ _ _ _ _ ih => exact ih h

/-- Literal segments of a template are never empty. -/
theorem literal_ne_nil {template literal : String} (h : Segment.literal literal ∈ segments template) :
    literal.toList ≠ [] :=
  literal_ne_nil_of_scan h

end ApiProxy.Route
