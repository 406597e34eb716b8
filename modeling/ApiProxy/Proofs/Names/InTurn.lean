import Mathlib.Data.Finset.Insert
import ApiProxy.Proofs.Names.Identifiers

/-! Names given in turn. Whoever asks is given the first name of a list that nobody has, and it is taken from then on.
Functions and types get numbers in this way and parameters get underscores, so each name departs from the one that was
asked for no further than the names before it make it. -/

namespace ApiProxy

/-! ### Numbers -/

section Numbers

variable {taken names chosen : List String} {name word : String} {after : Finset String}

end Numbers

example : freshNames ["request", "getList2"] ["getList", "request", "getList", "request2", "getList3"] =
    ["getList", "request2", "getList3", "request22", "getList32"] := by
  decide +kernel

/-! ### Underscores -/

namespace Script

/-- The names that an identifier of a parameter must differ from: those with a meaning in the function, and the
identifiers of the parameters before it. -/
def barred (action : Action) (helper : Helper) (position : Nat) : List String :=
  ["searchParams", "queryString", "element", helper.name] ++ runtimeGlobals ++
    (parameterIdentifiers action helper).take position

theorem mem_barred_iff {action : Action} {helper : Helper} {position : Nat} {name : String} :
    name ∈ barred action helper position ↔
      name ∈ ((parameterIdentifiers action helper).take position).reverse ++
        (localNames ++ [helper.name] ++ runtimeGlobals) := by
  have hown : ["searchParams", "queryString", "element", helper.name] = localNames ++ [helper.name] := rfl
  rw [barred, hown]
  simp only [List.mem_append, List.mem_reverse]
  exact or_comm

theorem getElem?_parameterIdentifiers {action : Action} (helper : Helper) {position : Nat} {parameter : Parameter}
    (h : action.parameters[position]? = some parameter) :
    ∃ count, (parameterIdentifiers action helper)[position]? = some (padded (sanitize parameter.name) count) ∧
      padded (sanitize parameter.name) count ∉ barred action helper position ∧
      ∀ fewer < count, padded (sanitize parameter.name) fewer ∈ barred action helper position := by
  have hname : (action.parameters.map Parameter.name)[position]? = some parameter.name := by
    rw [List.getElem?_map, h, Option.map_some]
  have hchosen := getElem?_paddedNames (localNames ++ [helper.name] ++ runtimeGlobals) hname
  rw [← parameterIdentifiers] at hchosen
  obtain ⟨count, hcount, hfree, hbefore⟩ := firstFree_eq
    (((parameterIdentifiers action helper).take position).reverse ++ (localNames ++ [helper.name] ++ runtimeGlobals))
    (padded_injective (sanitize parameter.name))
  refine ⟨count, by rw [hchosen, hcount], ?_, fun fewer hfewer => mem_barred_iff.mpr (hbefore fewer hfewer)⟩
  rw [mem_barred_iff]
  exact hfree

/-- Each parameter has an identifier of its own in its place: the name of the parameter made fit, with the fewest
underscores behind it that keep it apart from the names with a meaning in the function and from the identifiers of the
parameters before it. -/
theorem parameter_identifiers_fewest_underscores (action : Action) (helper : Helper) :
    (parameterIdentifiers action helper).length = action.parameters.length ∧
    (parameterIdentifiers action helper).Nodup ∧
    ∀ position parameter, action.parameters[position]? = some parameter →
      ∃ identifier count, (parameterIdentifiers action helper)[position]? = some identifier ∧
        identifier = padded (sanitize parameter.name) count ∧ identifier ∉ barred action helper position ∧
        (∀ fewer < count, padded (sanitize parameter.name) fewer ∈ barred action helper position) ∧
        isIdentifier identifier = true ∧ identifier ∉ reservedWords := by
  refine ⟨(length_parameterIdentifiers action helper).symm, nodup_parameterIdentifiers action helper, ?_⟩
  intro position parameter hparameter
  obtain ⟨count, hidentifier, hfree, hfewer⟩ := getElem?_parameterIdentifiers helper hparameter
  have hfit := isIdentifier_of_mem_paddedNames (List.mem_of_getElem? hidentifier)
  exact ⟨_, count, hidentifier, rfl, hfree, hfewer, hfit.1, hfit.2⟩

/-- Parameters whose names run into each other when they are made fit, and into names of the function. -/
def crowdedMove : Action :=
  ⟨"move", .post, "/api/stock", [⟨"item-id", .query, "Int", false⟩, ⟨"item_id_", .query, "Int", false⟩,
    ⟨"item.id", .query, "Int", false⟩, ⟨"queryString", .query, "Int", false⟩, ⟨"delete", .query, "Int", false⟩], none⟩

theorem crowded_parameters_fewest_underscores :
    parameterIdentifiers crowdedMove {} = ["item_id", "item_id_", "item_id__", "queryString_", "delete_"] ∧
      crowdedMove.parameters[2]? = some ⟨"item.id", .query, "Int", false⟩ ∧
      ∃ identifier count, (parameterIdentifiers crowdedMove {})[2]? = some identifier ∧
        identifier = padded "item_id" count ∧ identifier ∉ barred crowdedMove {} 2 ∧
        (∀ fewer < count, padded "item_id" fewer ∈ barred crowdedMove {} 2) ∧
        isIdentifier identifier = true ∧ identifier ∉ reservedWords := by
  have hmade : sanitize "item.id" = "item_id" := by decide +kernel
  have hfewest := (parameter_identifiers_fewest_underscores crowdedMove {}).2.2 2 _ rfl
  rw [hmade] at hfewest
  exact ⟨by decide +kernel, rfl, hfewest⟩

end Script

end ApiProxy
