import ApiProxy.Proofs.Names.Fresh
import ApiProxy.Script.ApiFile

/-! The identifiers of the parameters of a function. Each is followed by as many underscores as keep it apart from
the names that the function uses itself and from the identifiers of earlier parameters, so no two parameters are
taken for each other, whatever they are called. -/

namespace ApiProxy

theorem padded_injective (name : String) : Function.Injective (padded name) := by
  intro j k h
  have hunderscores := (String.append_right_inj name).mp h
  have hlists := congrArg String.toList hunderscores
  simp only [String.toList_ofList] at hlists
  simpa using congrArg List.length hlists

namespace Script

theorem paddedNames_eq_chosenNames (taken requested : List String) :
    paddedNames taken requested = chosenNames (fun name => padded (sanitize name)) taken requested := by
  induction requested generalizing taken with
  | nil => rfl
  | cons name requested ih => exact congrArg (List.cons _) (ih _)

theorem length_paddedNames (taken requested : List String) :
    (paddedNames taken requested).length = requested.length := by
  rw [paddedNames_eq_chosenNames, length_chosenNames]

/-- To each request the identifiers chosen before it are taken, besides the names taken from the start. -/
theorem getElem?_paddedNames (taken : List String) {requested : List String} {position : Nat} {name : String}
    (h : requested[position]? = some name) :
    (paddedNames taken requested)[position]? = some (firstFree
      (((paddedNames taken requested).take position).reverse ++ taken) (padded (sanitize name))) := by
  rw [paddedNames_eq_chosenNames]
  exact getElem?_chosenNames h

theorem notMem_of_mem_paddedNames {taken requested : List String} {chosen : String}
    (h : chosen ∈ paddedNames taken requested) : chosen ∉ taken := by
  rw [paddedNames_eq_chosenNames] at h
  exact notMem_of_mem_chosenNames (fun name => padded_injective (sanitize name)) h

/-- Every identifier that is chosen is that of a name that was asked for, followed by underscores. -/
theorem exists_padded_of_mem_paddedNames {taken requested : List String} {chosen : String}
    (h : chosen ∈ paddedNames taken requested) :
    ∃ name ∈ requested, ∃ count, chosen = padded (sanitize name) count := by
  rw [paddedNames_eq_chosenNames] at h
  exact exists_candidate_of_mem_chosenNames (fun name => padded_injective (sanitize name)) h

theorem nodup_paddedNames (taken requested : List String) : (paddedNames taken requested).Nodup := by
  rw [paddedNames_eq_chosenNames]
  exact nodup_chosenNames (fun name => padded_injective (sanitize name)) taken requested

theorem length_parameterIdentifiers (action : Action) (helper : Helper) :
    action.parameters.length = (parameterIdentifiers action helper).length := by
  rw [parameterIdentifiers, length_paddedNames, List.length_map]

theorem nodup_parameterIdentifiers (action : Action) (helper : Helper) :
    (parameterIdentifiers action helper).Nodup :=
  nodup_paddedNames _ _

theorem helper_notMem_parameterIdentifiers (action : Action) (helper : Helper) :
    helper.name ∉ parameterIdentifiers action helper := by
  intro hmem
  refine notMem_of_mem_paddedNames hmem ?_
  simp

end Script

end ApiProxy
