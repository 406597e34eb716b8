import Mathlib.Data.List.Basic

/-! Lines of a script. Four characters end a line; a carriage return and the line feed behind it end one line
together, so lines can only be counted piece by piece where no such pair is cut. -/

namespace ApiProxy

def isLineTerminator (c : Char) : Bool := c = '\n' || c = '\r' || c = '\u2028' || c = '\u2029'

/-- How many lines a text ends. -/
def lineCount : List Char → Nat
  | [] => 0
  | '\r' :: '\n' :: rest => lineCount rest + 1
  | c :: rest => lineCount rest + if isLineTerminator c then 1 else 0

/-- What follows the first line of a text. -/
def afterLine : List Char → List Char
  | [] => []
  | '\r' :: '\n' :: rest => rest
  | c :: rest => if isLineTerminator c then rest else afterLine rest

/-- A text without a line terminator. -/
def Unbroken (text : List Char) : Prop := ∀ c ∈ text, isLineTerminator c = false

instance (text : List Char) : Decidable (Unbroken text) := List.decidableBAll _ text

/-- A text that makes one line with a line feed behind it: a carriage return at its end still belongs to the line
feed. -/
def IsLine (text : List Char) : Prop := Unbroken text ∨ ∃ stem, Unbroken stem ∧ text = stem ++ ['\r']

theorem unbroken_append {text rest : List Char} : Unbroken (text ++ rest) ↔ Unbroken text ∧ Unbroken rest := by
  simp only [Unbroken, List.mem_append, or_imp, forall_and]

theorem lineCount_cons {c : Char} {rest : List Char} (h : c ≠ '\r' ∨ rest.head? ≠ some '\n') :
    lineCount (c :: rest) = lineCount rest + if isLineTerminator c then 1 else 0 := by
  rw [lineCount]
  rintro tail rfl rfl
  simp at h

/-- Lines are counted piece by piece unless the cut goes through a carriage return and its line feed. -/
theorem lineCount_append {text rest : List Char} (h : text.getLast? ≠ some '\r' ∨ rest.head? ≠ some '\n') :
    lineCount (text ++ rest) = lineCount text + lineCount rest := by
  fun_induction lineCount text with
  | case1 => simp
  | case2 tail ih =>
      have htail : tail.getLast? ≠ some '\r' ∨ rest.head? ≠ some '\n' := by
        refine h.imp_left fun hlast htail => hlast ?_
        simp [List.getLast?_cons, htail]
      show lineCount (tail ++ rest) + 1 = _
      rw [ih htail, Nat.add_right_comm]
  | case3 c tail hpair ih =>
      have htail : tail.getLast? ≠ some '\r' ∨ rest.head? ≠ some '\n' := by
        refine h.imp_left fun hlast htail => hlast ?_
        simp [List.getLast?_cons, htail]
      have hcut : c ≠ '\r' ∨ (tail ++ rest).head? ≠ some '\n' := by
        by_contra hboth
        push Not at hboth
        obtain ⟨rfl, hhead⟩ := hboth
        cases tail with
        | nil => simp_all
        | cons d tail =>
            cases Option.some.inj hhead
            exact hpair tail rfl rfl
      rw [List.cons_append, lineCount_cons hcut, ih htail, Nat.add_right_comm]

theorem lineCount_eq_zero_iff {text : List Char} : lineCount text = 0 ↔ Unbroken text := by
  fun_induction lineCount text with
  | case1 => simp [Unbroken]
  | case2 tail ih => simp [Unbroken, isLineTerminator]
  | case3 c tail hpair ih =>
      rw [Nat.add_eq_zero_iff, ih, Unbroken, Unbroken, List.forall_mem_cons, and_comm]
      simp

theorem lineCount_append_lineFeed {text : List Char} : lineCount (text ++ ['\n']) = 1 ↔ IsLine text := by
  rcases text.eq_nil_or_concat with rfl | ⟨stem, last, rfl⟩
  · exact iff_of_true rfl (Or.inl fun _ h => absurd h List.not_mem_nil)
  · by_cases hlast : last = '\r'
    · subst hlast
      have hline : IsLine (stem ++ ['\r']) ↔ Unbroken stem := by
        constructor
        · rintro (hunbroken | ⟨other, hother, heq⟩)
          · exact (unbroken_append.mp hunbroken).1
          · rw [List.append_cancel_right heq]
            exact hother
        · exact fun hstem => Or.inr ⟨stem, hstem, rfl⟩
      have hcount : lineCount ((stem ++ ['\r']) ++ ['\n']) = lineCount stem + 1 := by
        rw [List.append_assoc]
        exact lineCount_append (Or.inr (by simp))
      rw [List.concat_eq_append, hline, hcount, ← lineCount_eq_zero_iff, Nat.add_eq_right]
    · have hline : IsLine (stem ++ [last]) ↔ Unbroken (stem ++ [last]) := by
        refine ⟨?_, Or.inl⟩
        rintro (hunbroken | ⟨other, _, heq⟩)
        · exact hunbroken
        · have hsame := congrArg List.getLast? heq
          simp [hlast] at hsame
      have hcount : lineCount ((stem ++ [last]) ++ ['\n']) = lineCount (stem ++ [last]) + 1 :=
        lineCount_append (Or.inl (by simp [hlast]))
      rw [List.concat_eq_append, hline, hcount, ← lineCount_eq_zero_iff, Nat.add_eq_right]

theorem isLine_append {front text : List Char} (hfront : front.getLast? ≠ some '\r') :
    IsLine (front ++ text) ↔ Unbroken front ∧ IsLine text := by
  constructor
  · rintro (hline | ⟨stem, hstem, heq⟩)
    · exact ⟨(unbroken_append.mp hline).1, Or.inl (unbroken_append.mp hline).2⟩
    · rcases text.eq_nil_or_concat with rfl | ⟨middle, last, rfl⟩
      · rw [List.append_nil] at heq
        simp [heq] at hfront
      · rw [List.concat_eq_append] at heq ⊢
        rw [← List.append_assoc] at heq
        obtain ⟨rfl, hlast⟩ := List.append_inj' heq rfl
        obtain ⟨hunbroken, hmiddle⟩ := unbroken_append.mp hstem
        exact ⟨hunbroken, Or.inr ⟨middle, hmiddle, by rw [hlast]⟩⟩
  · rintro ⟨hunbroken, hline | ⟨stem, hstem, rfl⟩⟩
    · exact Or.inl (unbroken_append.mpr ⟨hunbroken, hline⟩)
    · exact Or.inr ⟨front ++ stem, unbroken_append.mpr ⟨hunbroken, hstem⟩, (List.append_assoc _ _ _).symm⟩

theorem afterLine_append_of_unbroken {front : List Char} (h : Unbroken front) (rest : List Char) :
    afterLine (front ++ rest) = afterLine rest := by
  induction front with
  | nil => rfl
  | cons c front ih =>
      rw [Unbroken, List.forall_mem_cons] at h
      rw [List.cons_append, afterLine, if_neg (by simp [h.1])]
      · exact ih h.2
      · rintro tail rfl
        simp [isLineTerminator] at h

theorem afterLine_line {text : List Char} (h : IsLine text) (rest : List Char) :
    afterLine (text ++ '\n' :: rest) = rest := by
  rcases h with hline | ⟨stem, hstem, rfl⟩
  · rw [afterLine_append_of_unbroken hline]
    rfl
  · rw [List.append_assoc, afterLine_append_of_unbroken hstem]
    rfl

theorem lineCount_line {text : List Char} (h : Unbroken text) (rest : List Char) :
    lineCount (text ++ '\n' :: rest) = lineCount rest + 1 := by
  have hlast : text.getLast? ≠ some '\r' := by
    intro hlast
    have hreturn := h '\r' (List.mem_of_getLast? hlast)
    simp [isLineTerminator] at hreturn
  rw [lineCount_append (Or.inl hlast), lineCount_eq_zero_iff.mpr h, Nat.zero_add,
    lineCount_cons (Or.inl (by decide))]
  rfl

end ApiProxy
