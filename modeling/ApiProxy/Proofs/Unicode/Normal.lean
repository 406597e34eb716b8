import ApiProxy.Unicode.Normal

/-! Texts in ASCII are normalized. Nothing in ASCII falls apart, is a mark, or composes with what stands before it, as
all tables of these begin behind it. -/

namespace ApiProxy.Unicode

variable {c d : Char} {text : List Char} {code : Nat}

def asciiEnd : Nat := 0x80

theorem composingPairs_begin : ∀ pairs ∈ composingPairs, asciiEnd ≤ pairs.second ∧
    ∀ entry ∈ pairs.wholes, asciiEnd ≤ entry.2 := by
  decide +kernel

theorem singletons_begin : ∀ run ∈ singletons, asciiEnd ≤ run.code := by decide +kernel

theorem separations_begin : ∀ separation ∈ separations, asciiEnd ≤ separation.code := by decide +kernel

theorem combiningClasses_begin : ∀ entry ∈ combiningClasses, ∀ run ∈ entry.runs, asciiEnd ≤ run.first := by
  decide +kernel

theorem covers_eq_false_of_begin {runs : List Run} {first : Nat} (hruns : ∀ run ∈ runs, first ≤ run.first)
    (hc : c.toNat < first) : covers runs c = false := by
  rw [Bool.eq_false_iff, Ne, covers_iff]
  rintro ⟨run, hrun, hholds⟩
  simp only [Run.holds, Bool.and_eq_true, decide_eq_true_eq] at hholds
  have hfirst := hruns run hrun
  omega

theorem combiningClass_ascii (hc : c.toNat < asciiEnd) : combiningClass c = 0 := by
  have hnone : combiningClasses.find? (fun entry => covers entry.runs c) = none := by
    rw [List.find?_eq_none]
    intro entry hentry
    rw [covers_eq_false_of_begin (combiningClasses_begin entry hentry) hc]
    exact Bool.false_ne_true
  rw [combiningClass, hnone]

theorem decomposeStep_ascii (hcode : code < asciiEnd) : decomposeStep code = [code] := by
  have hsyllable : isSyllable code = false := by
    rw [isSyllable, asciiEnd] at *
    simp
    omega
  have hhalves : halves? code = none := by
    rw [halves?, List.findSome?_eq_none_iff]
    intro pairs hpairs
    rw [Option.map_eq_none_iff, List.find?_eq_none]
    intro entry hentry heq
    have hbegin := (composingPairs_begin pairs hpairs).2 entry hentry
    rw [beq_iff_eq] at heq
    omega
  have hsingleton : singleton? singletons code = none := by
    rw [singleton?, List.findSome?_eq_none_iff]
    intro run hrun
    have hbegin := singletons_begin run hrun
    exact if_pos (by omega)
  have hseparation : separations.find? (fun separation => separation.code == code) = none := by
    rw [List.find?_eq_none]
    intro separation hseparation heq
    have hbegin := separations_begin separation hseparation
    rw [beq_iff_eq] at heq
    omega
  rw [decomposeStep, hsyllable, hhalves, hsingleton, hseparation]
  rfl

theorem decompose_ascii (hcode : code < asciiEnd) : decompose code = [code] := by
  simp [decompose, decomposeStep_ascii hcode]

theorem compose?_ascii (hd : d.toNat < asciiEnd) : compose? c d = none := by
  have hsyllable : composeSyllable? c.toNat d.toNat = none := by
    rw [asciiEnd] at hd
    have hsecond : ¬(0x1161 ≤ d.toNat) := by omega
    have hthird : ¬(0x11A8 ≤ d.toNat) := by omega
    simp [composeSyllable?, hsecond, hthird]
  have hpairs : composingPairs.find? (fun pairs => pairs.second == d.toNat) = none := by
    rw [List.find?_eq_none]
    intro pairs hpairs heq
    have hbegin := (composingPairs_begin pairs hpairs).1
    rw [beq_iff_eq] at heq
    omega
  rw [compose?, hsyllable, hpairs]
  rfl

theorem inOrder_ascii (h : ∀ c ∈ text, c.toNat < asciiEnd) : inOrder text = text := by
  have hfold : ∀ earlier, text.foldl (fun earlier c => settle c earlier) earlier = text.reverse ++ earlier := by
    induction text with
    | nil => exact fun earlier => rfl
    | cons c text ih =>
        rw [List.forall_mem_cons] at h
        intro earlier
        have hsettle : settle c earlier = c :: earlier := by
          cases earlier with
          | nil => rfl
          | cons last earlier =>
              rw [settle, combiningClass_ascii h.1]
              rfl
        rw [List.foldl_cons, hsettle, ih h.2]
        simp
  rw [inOrder, hfold, List.append_nil, List.reverse_reverse]

theorem composeAfter_ascii (h : ∀ c ∈ text, c.toNat < asciiEnd) (base : Char) :
    composeAfter base [] text = base :: text := by
  induction text generalizing base with
  | nil => rfl
  | cons c text ih =>
      rw [List.forall_mem_cons] at h
      rw [composeAfter]
      simp [compose?_ascii h.1, combiningClass_ascii h.1, ih h.2]

theorem composeAll_ascii (h : ∀ c ∈ text, c.toNat < asciiEnd) : composeAll text = text := by
  cases text with
  | nil => rfl
  | cons c text =>
      rw [List.forall_mem_cons] at h
      simp [composeAll, combiningClass_ascii h.1, composeAfter_ascii h.2]

theorem normalized_ascii (h : ∀ c ∈ text, c.toNat < asciiEnd) : normalized text = text := by
  have hdecomposed : (text.flatMap fun c => decompose c.toNat).map Char.ofNat = text := by
    induction text with
    | nil => rfl
    | cons c text ih =>
        rw [List.forall_mem_cons] at h
        rw [List.flatMap_cons, decompose_ascii h.1, List.map_append, ih h.2, List.map_singleton, Char.ofNat_toNat]
        rfl
  rw [normalized, hdecomposed, inOrder_ascii h, composeAll_ascii h]

end ApiProxy.Unicode
