import Mathlib.Data.Nat.Bitwise
import ApiProxy.Unicode.CaseMap

/-! Sets of code points as numbers: the bit at a code point tells whether it belongs to the set. Two tables of characters
are then compared by one operation on two numbers. -/

namespace ApiProxy.Unicode

variable {runs others : List Run} {c : Char} {code : Nat}

namespace Run

/-- The code points of a run, from its first one on. -/
def codes (run : Run) : List Nat :=
  ((List.range (run.last + 1 - run.first)).filter fun distance => distance % run.step == 0).map (run.first + ·)

theorem mem_codes_iff {run : Run} : code ∈ run.codes ↔ run.holds code = true := by
  simp only [codes, holds, List.mem_map, List.mem_filter, List.mem_range, Bool.and_eq_true, decide_eq_true_eq]
  constructor
  · rintro ⟨distance, ⟨hlast, hstep⟩, rfl⟩
    rw [Nat.add_sub_cancel_left]
    exact ⟨by omega, hstep⟩
  · rintro ⟨hrange, hstep⟩
    exact ⟨code - run.first, ⟨by omega, hstep⟩, by omega⟩

end Run

/-- The set of the code points of a list. -/
def codeSet (codes : List Nat) : Nat := codes.foldr (fun code set => set ||| 1 <<< code) 0

theorem testBit_codeSet {codes : List Nat} : (codeSet codes).testBit code = true ↔ code ∈ codes := by
  induction codes with
  | nil => simp [codeSet]
  | cons first rest ih =>
      have hfirst : (1 <<< first).testBit code = true ↔ code = first := by
        rw [Nat.one_shiftLeft, Nat.testBit_two_pow, decide_eq_true_eq, eq_comm]
      rw [codeSet, List.foldr_cons, Nat.testBit_or, Bool.or_eq_true, ← codeSet, ih, hfirst, List.mem_cons, or_comm]

/-- The set of the code points of a run; one without gaps is a block of bits. -/
def Run.set (run : Run) : Nat :=
  if run.step = 1 then (2 ^ (run.last + 1 - run.first) - 1) <<< run.first else codeSet run.codes

theorem Run.testBit_set {run : Run} : run.set.testBit code = run.holds code := by
  rw [set]
  split
  next hstep =>
    rw [Nat.testBit_shiftLeft, Nat.testBit_two_pow_sub_one, holds, hstep, Nat.mod_one, Bool.eq_iff_iff]
    simp only [Bool.and_eq_true, decide_eq_true_eq, beq_self_eq_true, and_true]
    omega
  next => rw [Bool.eq_iff_iff, testBit_codeSet, mem_codes_iff]

def runSet (runs : List Run) : Nat := runs.foldr (fun run set => set ||| run.set) 0

theorem testBit_runSet : (runSet runs).testBit code = runs.any (·.holds code) := by
  induction runs with
  | nil => simp [runSet]
  | cons run rest ih =>
      rw [runSet, List.foldr_cons, Nat.testBit_or, ← runSet, ih, Run.testBit_set, List.any_cons, Bool.or_comm]

theorem testBit_runSet_toNat : (runSet runs).testBit c.toNat = covers runs c := testBit_runSet

/-- Sets without a common bit have no common member. -/
theorem testBit_of_disjoint {set other : Nat} (h : set &&& other = 0) (hset : set.testBit code = true) :
    other.testBit code = false := by
  have hbit := congrArg (Nat.testBit · code) h
  simpa [Nat.testBit_and, hset] using hbit

theorem testBit_of_subset {set other : Nat} (h : set ||| other = other) (hset : set.testBit code = true) :
    other.testBit code = true := by
  rw [← h, Nat.testBit_or, hset, Bool.true_or]

theorem covers_eq_false (h : runSet runs &&& runSet others = 0) (hruns : covers runs c = true) :
    covers others c = false := by
  rw [← testBit_runSet_toNat] at hruns ⊢
  exact testBit_of_disjoint h hruns

/-! ### Shifted runs -/

/-- The run that a shift takes its own run to. -/
def Shift.image (shift : Shift) : Run := ⟨shift.apply shift.run.first, shift.apply shift.run.last, shift.run.step⟩

theorem Shift.holds_image {shift : Shift} (hfirst : 0 ≤ shift.run.first + shift.distance)
    (h : shift.run.holds code = true) : shift.image.holds (shift.apply code) = true := by
  simp only [Run.holds, image, Bool.and_eq_true, decide_eq_true_eq] at h ⊢
  obtain ⟨⟨hlow, hhigh⟩, hstep⟩ := h
  have hdistance : shift.apply code - shift.apply shift.run.first = code - shift.run.first := by
    unfold apply
    omega
  rw [hdistance]
  refine ⟨⟨?_, ?_⟩, hstep⟩
  · exact decide_eq_true (Int.toNat_le_toNat (by omega))
  · exact decide_eq_true (Int.toNat_le_toNat (by omega))

end ApiProxy.Unicode
