import ApiProxy.Proofs.Binding
import ApiProxy.Proofs.Names.Identifiers
import ApiProxy.Proofs.Script.TypeExpr
import ApiProxy.Script.Files

/-! The functions of the API file, seen by the types that they name: those of the parameters and of the result of
each action, in order. Where these can be written nothing else stands against a function of a bound action. -/

namespace ApiProxy.Script

variable {types : TypeMap} {names : TypeNames} {helper : Helper}

theorem signature_types {parameters : List Parameter} {identifiers : List String}
    (hlength : parameters.length = identifiers.length) :
    (signature types names parameters identifiers).map (List.map SignatureEntry.type) =
      (parameters.map Parameter.typeId).mapM (typeExpr types names) := by
  induction parameters generalizing identifiers with
  | nil => rfl
  | cons parameter later ih =>
      cases identifiers with
      | nil => cases hlength
      | cons identifier identifiers =>
          rw [signature, List.map_cons, List.mapM_cons, ← ih (Nat.succ.inj hlength)]
          cases typeExpr types names parameter.typeId with
          | error failure => rfl
          | ok type => cases signature types names later identifiers <;> rfl

theorem query_succeeds {action : Action} {identifiers : List String} {placed : PlacedParameter}
    {written : List TypeExpr} (hmem : placed.parameter ∈ action.parameters)
    (hwritten : (action.parameters.map Parameter.typeId).mapM (typeExpr types names) = .ok written) :
    failure? (queryEntry types identifiers placed) = none := by
  obtain ⟨type, htype⟩ := Outcome.succeeds_of_mapM hwritten (List.mem_map_of_mem hmem)
  rw [queryEntry, Outcome.failure?_map, Outcome.failure?_eq_none_iff]
  exact isArray_succeeds (written_of_typeExpr htype)

theorem query_mapM_succeeds {action : Action} {binding : Binding} (identifiers : List String)
    {written : List TypeExpr} (hquery : binding.query = action.placedAs .query)
    (hwritten : (action.parameters.map Parameter.typeId).mapM (typeExpr types names) = .ok written) :
    ∃ query, binding.query.mapM (queryEntry types identifiers) = .ok query := by
  rw [← Outcome.failure?_eq_none_iff, Outcome.failure?_mapM, List.findSome?_eq_none_iff, hquery]
  intro placed hplaced
  exact query_succeeds (parameter_mem_of_placedAs hplaced) hwritten

/-- A function names the types of its action, and it fails only with one of them. -/
theorem clientFunction_types (helper : Helper) (name : String) {action : Action} {binding : Binding}
    (hquery : binding.query = action.placedAs .query) :
    (clientFunction types names helper name action binding).map ClientFunction.types =
      action.typeIds.mapM (typeExpr types names) := by
  have htypes : (signature types names action.parameters (parameterIdentifiers action helper)).map
      (List.map SignatureEntry.type) = (action.parameters.map Parameter.typeId).mapM (typeExpr types names) :=
    signature_types (length_parameterIdentifiers action helper)
  rw [Action.typeIds, List.mapM_append, clientFunction]
  cases hsignature : signature types names action.parameters (parameterIdentifiers action helper) with
  | error failure =>
      rw [hsignature] at htypes
      exact htypes ▸ rfl
  | ok entries =>
      rw [hsignature] at htypes
      obtain ⟨query, hentries⟩ := query_mapM_succeeds (parameterIdentifiers action helper)
        hquery htypes.symm
      rw [← htypes]
      cases hreturn : action.returnType? with
      | none =>
          rw [hentries]
          rfl
      | some result =>
          simp only [Option.mapM_some, Option.toList_some, List.mapM_cons, List.mapM_nil]
          cases typeExpr types names result with
          | error failure => rfl
          | ok type =>
              rw [hentries]
              rfl

/-- An action that can be bound has a function if its types can be written. -/
theorem exists_clientFunction {controllerName : String} (helper : Helper) (name : String) {action : Action}
    {binding : Binding} (hbind : action.bind controllerName = .ok binding)
    (hwritten : ∀ id ∈ action.typeIds, ∃ type, typeExpr types names id = .ok type) :
    ∃ function, clientFunction types names helper name action binding = .ok function := by
  have hnone : failure? (action.typeIds.mapM (typeExpr types names)) = none := by
    rw [Outcome.failure?_mapM, List.findSome?_eq_none_iff]
    exact fun id hid => Outcome.failure?_eq_none_iff.mpr (hwritten id hid)
  obtain ⟨_, htypes⟩ := Outcome.failure?_eq_none_iff.mp hnone
  rw [← clientFunction_types helper name (query_of_bind hbind)] at htypes
  obtain ⟨function, hfunction, _⟩ := Outcome.map_eq_ok_iff.mp htypes
  exact ⟨function, hfunction⟩

theorem clientFunctions_types {controllerName : String} {actions : List Action} {bindings : List Binding}
    {functionNames : List String} (hlength : actions.length = functionNames.length)
    (hbound : List.Forall₂ (fun action binding => action.bind controllerName = .ok binding) actions bindings) :
    (clientFunctions types names helper functionNames (actions.zip bindings)).map
        (List.map ClientFunction.types) =
      actions.mapM fun action => action.typeIds.mapM (typeExpr types names) := by
  induction hbound generalizing functionNames with
  | nil => cases functionNames <;> rfl
  | @cons action binding actions bindings hbind hrest ih =>
      cases functionNames with
      | nil => cases hlength
      | cons name functionNames =>
          rw [List.zip_cons_cons, clientFunctions, List.mapM_cons, ← ih (Nat.succ.inj hlength),
            ← clientFunction_types helper name (query_of_bind hbind)]
          cases clientFunction types names helper name action binding with
          | error failure => rfl
          | ok function =>
              cases clientFunctions types names helper functionNames (actions.zip bindings) <;> rfl

theorem length_functionNames (names : TypeNames) (helper : Helper) (actions : List Action) :
    actions.length = (functionNames names helper actions).length := by
  rw [functionNames, length_freshNames, List.length_map]

theorem functions_types (types : TypeMap) (names : TypeNames) (helper : Helper) (controller : Controller)
    {bindings : List Binding}
    (hbound : (controller.actions.mapM fun action => action.bind controller.name) = .ok bindings) :
    (clientFunctions types names helper (functionNames names helper controller.actions)
        (controller.actions.zip bindings)).map (List.map ClientFunction.types) =
      controller.actions.mapM fun action => action.typeIds.mapM (typeExpr types names) :=
  clientFunctions_types (length_functionNames names helper controller.actions)
    (Outcome.mapM_eq_ok_iff.mp hbound)

/-- An API file fails with the first action that cannot be bound, and otherwise with the first type of a
signature that cannot be written. -/
theorem failure?_apiSource (controller : Controller) :
    failure? (apiSource types names helper controller).outcome =
      (controller.actions.findSome? fun action => failure? (action.bind controller.name)).or
        (controller.typeIds.findSome? fun id => failure? (typeExpr types names id)) := by
  have hbind := controller.outcome_bind
  rw [apiSource, Traced.outcome_bind, ← Outcome.failure?_mapM, ← hbind]
  refine Outcome.failure?_bind fun bindings hbindings => ?_
  have hfailure := congrArg failure? (functions_types types names helper controller (hbind ▸ hbindings))
  rw [Outcome.failure?_map, Outcome.failure?_mapM] at hfailure
  rw [Controller.typeIds, Outcome.findSome?_flatMap, Traced.outcome_bind, Traced.outcome_ofExcept]
  calc
    _ = failure? (clientFunctions types names helper (functionNames names helper controller.actions)
          (controller.actions.zip bindings)) := Outcome.failure?_bind_of_ok fun _ => rfl
    _ = controller.actions.findSome? fun action => failure? (action.typeIds.mapM (typeExpr types names)) :=
      hfailure
    _ = _ := by
      congr 1
      funext action
      exact Outcome.failure?_mapM _ _

theorem failure?_apiFile (helper : Helper) (selection : Selection) (controller : Controller)
    (resolved : List ResolvedType) :
    failure? (apiFile helper selection controller resolved).outcome =
      (controller.actions.findSome? fun action => failure? (action.bind controller.name)).or
        (controller.typeIds.findSome? fun id =>
          failure? (typeExpr selection.types (fileTypeNames helper resolved) id)) := by
  rw [apiFile, Traced.outcome_bind, ← failure?_apiSource]
  exact Outcome.failure?_bind_of_ok fun _ => rfl

theorem types_of_apiSource {controller : Controller} {source : ApiSource}
    (h : (apiSource types names helper controller).outcome = .ok source) :
    source.helper = helper ∧ List.Forall₂
      (fun action function => action.typeIds.mapM (typeExpr types names) = .ok (ClientFunction.types function))
      controller.actions source.functions := by
  rw [apiSource, Traced.outcome_bind] at h
  obtain ⟨bindings, hbindings, hrest⟩ := Outcome.bind_eq_ok_iff.mp h
  rw [Traced.outcome_bind] at hrest
  obtain ⟨functions, hfunctions, hsource⟩ := Outcome.bind_eq_ok_iff.mp hrest
  cases hsource
  have htypes := functions_types types names helper controller (controller.outcome_bind ▸ hbindings)
  rw [show clientFunctions types names helper _ _ = .ok functions from hfunctions] at htypes
  have hforall := Outcome.mapM_eq_ok_iff.mp htypes.symm
  rw [List.forall₂_map_right_iff] at hforall
  exact ⟨rfl, hforall⟩

/-! ### Names of functions -/

theorem isFreeName_of_mem_functionNames {name : String} {actions : List Action}
    (h : name ∈ functionNames names helper actions) :
    IsFreeName name := by
  apply isFreeName_of_mem_freshNames _ _ h
  · intro taken htaken
    rw [takenByFile, List.append_assoc]
    exact List.mem_append_left _ htaken
  · intro request hrequest
    obtain ⟨action, -, rfl⟩ := List.mem_map.mp hrequest
    exact ⟨camelCase action.name, rfl⟩

/-! ### Imports -/

theorem mem_insertSorted {name new : String} {names : List String} :
    name ∈ insertSorted new names ↔ name = new ∨ name ∈ names := by
  induction names with
  | nil => simp [insertSorted]
  | cons first rest ih =>
      rw [insertSorted]
      split_ifs with heq hlt
      · subst heq
        simp
      · rw [List.mem_cons]
      · rw [List.mem_cons, ih, List.mem_cons, or_left_comm]

theorem mem_sortedNames {name : String} {names : List String} : name ∈ sortedNames names ↔ name ∈ names := by
  induction names with
  | nil => simp [sortedNames]
  | cons first rest ih =>
      rw [List.mem_cons, ← ih]
      exact mem_insertSorted

theorem pairwise_insertSorted {new : String} {names : List String} (h : names.Pairwise (· < ·)) :
    (insertSorted new names).Pairwise (· < ·) := by
  induction names with
  | nil => exact List.pairwise_singleton _ _
  | cons first rest ih =>
      obtain ⟨hfirst, hrest⟩ := List.pairwise_cons.mp h
      rw [insertSorted]
      split_ifs with heq hlt
      · exact h
      · refine List.pairwise_cons.mpr ⟨?_, h⟩
        exact List.forall_mem_cons.mpr ⟨hlt, fun name hname => hlt.trans (hfirst name hname)⟩
      · refine List.pairwise_cons.mpr ⟨?_, ih hrest⟩
        intro name hname
        rcases mem_insertSorted.mp hname with rfl | hname
        · exact lt_of_le_of_ne (not_lt.mp hlt) (Ne.symm heq)
        · exact hfirst name hname

theorem pairwise_sortedNames (names : List String) : (sortedNames names).Pairwise (· < ·) := by
  induction names with
  | nil => exact List.Pairwise.nil
  | cons first rest ih => exact pairwise_insertSorted ih

/-- Each import is the identifier of a declared type that a signature leads to. -/
theorem exists_declared_of_mem_imports {controller : Controller} {source : ApiSource} {name : String}
    (h : (apiSource types names helper controller).outcome = .ok source)
    (hname : name ∈ source.imports) : ∃ root ∈ controller.typeIds, ∃ last, LeadsToDeclared types root last ∧
      ∃ text, names.identifier last text = name := by
  obtain ⟨-, hfunctions⟩ := types_of_apiSource h
  rw [ApiSource.imports, mem_sortedNames, List.mem_filterMap] at hname
  obtain ⟨type, htype, hdeclared⟩ := hname
  obtain ⟨function, hfunction, htype⟩ := List.mem_flatMap.mp htype
  obtain ⟨action, haction, hwritten⟩ := exists_left_of_forall₂ hfunctions hfunction
  obtain ⟨root, hroot, htype⟩ := exists_left_of_forall₂ (Outcome.mapM_eq_ok_iff.mp hwritten) htype
  obtain ⟨last, shape, text, hleads, hshape, htext, hidentifier⟩ :=
    (written_of_typeExpr htype).declared?_eq_some_iff.mp hdeclared
  exact ⟨root, List.mem_flatMap.mpr ⟨action, haction, hroot⟩, last, ⟨hleads, shape, text, hshape, htext⟩,
    text, hidentifier⟩

end ApiProxy.Script
