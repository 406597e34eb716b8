import Mathlib.Data.List.Nodup
import Mathlib.Data.List.Perm.Subperm
import ApiProxy.Script.Identifier

/-! A fresh name is the first of its candidates that is not taken. Candidates that differ from each other cannot
all be taken, so there always is one, and names chosen in turn are distinct. -/

namespace ApiProxy

variable {candidate : Nat → String}

theorem exists_free (taken : List String) (hcandidate : Function.Injective candidate) :
    ∃ k < taken.length + 1, candidate k ∉ taken := by
  by_contra hnone
  push Not at hnone
  have hdistinct : ((List.range (taken.length + 1)).map candidate).Nodup :=
    List.Nodup.map hcandidate List.nodup_range
  have hsubset : (List.range (taken.length + 1)).map candidate ⊆ taken := by
    intro name hname
    obtain ⟨k, hk, rfl⟩ := List.mem_map.mp hname
    exact hnone k (List.mem_range.mp hk)
  have hlength := (hdistinct.subperm hsubset).length_le
  rw [List.length_map, List.length_range] at hlength
  omega

theorem firstFree_eq (taken : List String) (hcandidate : Function.Injective candidate) :
    ∃ k, firstFree taken candidate = candidate k ∧ candidate k ∉ taken ∧ ∀ j < k, candidate j ∈ taken := by
  obtain ⟨free, hbound, hfree⟩ := exists_free taken hcandidate
  cases hfound : (List.range (taken.length + 1)).find? fun k => candidate k ∉ taken with
  | none =>
      have htaken := List.find?_range_eq_none.mp hfound free hbound
      exact absurd hfree (by simpa using htaken)
  | some k =>
      obtain ⟨hk, _, hbefore⟩ := List.find?_range_eq_some.mp hfound
      refine ⟨k, by rw [firstFree, hfound], by simpa using hk, ?_⟩
      intro j hj
      simpa using hbefore j hj

/-- Which candidate is chosen: the one that is free where all before it are taken. -/
theorem firstFree_eq_iff (taken : List String) (hcandidate : Function.Injective candidate) {k : Nat} :
    firstFree taken candidate = candidate k ↔ candidate k ∉ taken ∧ ∀ j < k, candidate j ∈ taken := by
  obtain ⟨chosen, hchosen, hfree, hbefore⟩ := firstFree_eq taken hcandidate
  rw [hchosen, hcandidate.eq_iff]
  constructor
  · rintro rfl
    exact ⟨hfree, hbefore⟩
  · rintro ⟨hfree', hbefore'⟩
    rcases Nat.lt_trichotomy chosen k with hlt | heq | hgt
    · exact absurd (hbefore' chosen hlt) hfree
    · exact heq
    · exact absurd (hbefore k hgt) hfree'

theorem firstFree_notMem (taken : List String) (hcandidate : Function.Injective candidate) :
    firstFree taken candidate ∉ taken := by
  obtain ⟨k, hk, hfree, _⟩ := firstFree_eq taken hcandidate
  rw [hk]
  exact hfree

/-! ### Names chosen in turn -/

/-- Chooses a name for each request from the candidates for it; every chosen name is taken from then on. -/
def chosenNames (candidates : String → Nat → String) (taken : List String) : List String → List String
  | [] => []
  | name :: names =>
    let chosen := firstFree taken (candidates name)
    chosen :: chosenNames candidates (chosen :: taken) names

section Chosen

variable {candidates : String → Nat → String} {taken names : List String} {chosen word : String}

theorem length_chosenNames (candidates : String → Nat → String) (taken names : List String) :
    (chosenNames candidates taken names).length = names.length := by
  induction names generalizing taken with
  | nil => rfl
  | cons name names ih => rw [chosenNames, List.length_cons, List.length_cons, ih]

/-- To the requests at the end of a list the names chosen before them are taken too. -/
theorem chosenNames_append (candidates : String → Nat → String) (taken front back : List String) :
    chosenNames candidates taken (front ++ back) = chosenNames candidates taken front ++
      chosenNames candidates ((chosenNames candidates taken front).reverse ++ taken) back := by
  induction front generalizing taken with
  | nil => rfl
  | cons name front ih =>
      rw [List.cons_append, chosenNames, chosenNames, ih]
      simp

/-- To each request the names chosen before it are taken, besides those taken from the start. -/
theorem getElem?_chosenNames {position : Nat} {name : String} (h : names[position]? = some name) :
    (chosenNames candidates taken names)[position]? = some (firstFree
      (((chosenNames candidates taken names).take position).reverse ++ taken) (candidates name)) := by
  induction names generalizing taken position with
  | nil => cases h
  | cons first names ih =>
      rw [chosenNames]
      cases position with
      | zero =>
          cases h
          rfl
      | succ position =>
          rw [List.getElem?_cons_succ, ih h, List.take_succ_cons, List.reverse_cons, List.append_assoc]
          rfl

theorem notMem_of_mem_chosenNames (hcandidates : ∀ name, Function.Injective (candidates name))
    (h : chosen ∈ chosenNames candidates taken names) : chosen ∉ taken := by
  induction names generalizing taken with
  | nil => exact absurd h List.not_mem_nil
  | cons name names ih =>
      rw [chosenNames] at h
      rcases List.mem_cons.mp h with rfl | hlater
      · exact firstFree_notMem taken (hcandidates name)
      · exact fun htaken => ih hlater (List.mem_cons_of_mem _ htaken)

theorem nodup_chosenNames (hcandidates : ∀ name, Function.Injective (candidates name)) (taken names : List String) :
    (chosenNames candidates taken names).Nodup := by
  induction names generalizing taken with
  | nil => exact List.nodup_nil
  | cons name names ih =>
      rw [chosenNames]
      apply List.nodup_cons.mpr ⟨_, ih _⟩
      exact fun hlater => notMem_of_mem_chosenNames hcandidates hlater List.mem_cons_self

theorem exists_candidate_of_mem_chosenNames (hcandidates : ∀ name, Function.Injective (candidates name))
    (h : chosen ∈ chosenNames candidates taken names) : ∃ name ∈ names, ∃ k, chosen = candidates name k := by
  induction names generalizing taken with
  | nil => exact absurd h List.not_mem_nil
  | cons name names ih =>
      rw [chosenNames] at h
      rcases List.mem_cons.mp h with rfl | hlater
      · obtain ⟨k, hk, _⟩ := firstFree_eq taken (hcandidates name)
        exact ⟨name, List.mem_cons_self, k, hk⟩
      · obtain ⟨other, hother, hchosen⟩ := ih hlater
        exact ⟨other, List.mem_cons_of_mem name hother, hchosen⟩

/-- A word that is nothing but a first candidate goes to the first request for it, unless it is taken. -/
theorem mem_chosenNames_iff (hcandidates : ∀ name, Function.Injective (candidates name))
    (hfirst : ∀ name k, candidates name k = word → k = 0) :
    word ∈ chosenNames candidates taken names ↔ word ∉ taken ∧ ∃ name ∈ names, candidates name 0 = word := by
  constructor
  · intro h
    obtain ⟨name, hname, k, hk⟩ := exists_candidate_of_mem_chosenNames hcandidates h
    cases hfirst name k hk.symm
    exact ⟨notMem_of_mem_chosenNames hcandidates h, name, hname, hk.symm⟩
  · rintro ⟨hfree, name, hname, hword⟩
    induction names generalizing taken with
    | nil => cases hname
    | cons first names ih =>
        rw [chosenNames, List.mem_cons]
        by_cases hchosen : word = firstFree taken (candidates first)
        · exact Or.inl hchosen
        · right
          have hfree' : word ∉ firstFree taken (candidates first) :: taken := by
            rw [List.mem_cons, not_or]
            exact ⟨hchosen, hfree⟩
          apply ih hfree'
          rcases List.mem_cons.mp hname with rfl | hname
          · have hbare : firstFree taken (candidates name) = candidates name 0 := by
              apply (firstFree_eq_iff taken (hcandidates name)).mpr
              exact ⟨hword ▸ hfree, fun j hj => absurd hj (Nat.not_lt_zero j)⟩
            exact absurd (hbare.trans hword).symm hchosen
          · exact hname

end Chosen

/-! ### Numbers -/

theorem numbered_injective (name : String) : Function.Injective (numbered name) := by
  have hne : ∀ k, numbered name 0 ≠ numbered name (k + 1) := by
    intro k h
    exact Nat.repr_ne_empty (String.append_eq_left_iff.mp h.symm)
  intro j k h
  cases j with
  | zero =>
      cases k with
      | zero => rfl
      | succ k => exact absurd h (hne k)
  | succ j =>
      cases k with
      | zero => exact absurd h.symm (hne j)
      | succ k =>
          have hrepr : (j + 2).repr = (k + 2).repr := (String.append_right_inj name).mp h
          have hdigits := congrArg (fun text => Nat.ofDigitChars 10 text.toList 0) hrepr
          simp only [Nat.toList_repr, Nat.ofDigitChars_ten_toDigits] at hdigits
          omega

theorem freshName_eq_numbered (taken : List String) (name : String) : ∃ k, freshName taken name = numbered name k := by
  obtain ⟨k, hk, _⟩ := firstFree_eq taken (numbered_injective name)
  exact ⟨k, hk⟩

/-- A name is chosen as it is asked for exactly if it is not taken. -/
theorem freshName_eq_self_iff (taken : List String) (name : String) : freshName taken name = name ↔ name ∉ taken := by
  have hzero := @firstFree_eq_iff (numbered name) taken (numbered_injective name) 0
  rw [freshName]
  simpa [numbered] using hzero

theorem freshNames_eq_chosenNames (taken names : List String) :
    freshNames taken names = chosenNames numbered taken names := by
  induction names generalizing taken with
  | nil => rfl
  | cons name names ih => exact congrArg (List.cons _) (ih _)

theorem length_freshNames (taken names : List String) : (freshNames taken names).length = names.length := by
  rw [freshNames_eq_chosenNames, length_chosenNames]

theorem freshNames_append (taken front back : List String) :
    freshNames taken (front ++ back) =
      freshNames taken front ++ freshNames ((freshNames taken front).reverse ++ taken) back := by
  simp only [freshNames_eq_chosenNames]
  exact chosenNames_append numbered taken front back

theorem notMem_of_mem_freshNames {taken names : List String} {chosen : String}
    (h : chosen ∈ freshNames taken names) : chosen ∉ taken := by
  rw [freshNames_eq_chosenNames] at h
  exact notMem_of_mem_chosenNames numbered_injective h

/-- Every name that is chosen is one that was asked for, or such a name with a number. -/
theorem exists_numbered_of_mem_freshNames {taken names : List String} {chosen : String}
    (h : chosen ∈ freshNames taken names) : ∃ name ∈ names, ∃ k, chosen = numbered name k := by
  rw [freshNames_eq_chosenNames] at h
  exact exists_candidate_of_mem_chosenNames numbered_injective h

theorem nodup_freshNames (taken names : List String) : (freshNames taken names).Nodup := by
  rw [freshNames_eq_chosenNames]
  exact nodup_chosenNames numbered_injective taken names

end ApiProxy
