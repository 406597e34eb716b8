import ApiProxy.Proofs.Script.Functions
import ApiProxy.Proofs.TypeGraph.Agreement

/-! What is written for a controller, for two type graphs that agree on all that its actions lead to. Every type
that a declaration or a function asks for is one of those, so both graphs give the same text or the same report. -/

namespace ApiProxy

namespace TypeMap

variable {types otherTypes : TypeMap} {roots met : List String} {start current : String}

theorem followReferences_of_notMem (hnew : current ∉ met) :
    types.followReferences start met current =
      match types.get? current with
      | none => .error (.unknownType current)
      | some (.reference target) => types.followReferences start (current :: met) target
      | some shape => .ok (current, shape) := by
  rw [followReferences, if_neg hnew]
  split
  next hmissing => rw [hmissing]
  next hshape => rw [hshape]
  next shape hend hshape =>
    rw [hshape]
    cases shape with
    | reference target => exact (hend target rfl).elim
    | _ => rfl

theorem AgreesFrom.followReferences_eq (h : types.AgreesFrom otherTypes roots)
    (hcurrent : types.Reaches roots current) :
    otherTypes.followReferences start met current = types.followReferences start met current := by
  fun_induction followReferences types start met current with
  | case1 met current hmet => rw [followReferences, if_pos hmet]
  | case2 met current hnew hmissing =>
      rw [followReferences_of_notMem hnew, h current hcurrent, hmissing]
  | case3 met current hnew target hshape ih =>
      rw [followReferences_of_notMem hnew, h current hcurrent, hshape]
      exact ih (hcurrent.mention hshape List.mem_cons_self)
  | case4 met current hnew shape hend hshape =>
      rw [followReferences_of_notMem hnew, h current hcurrent, hshape]
      cases shape with
      | reference target => exact (hend target rfl).elim
      | _ => rfl

theorem AgreesFrom.isArray_eq (h : types.AgreesFrom otherTypes roots) (hcurrent : types.Reaches roots current) :
    otherTypes.isArray current = types.isArray current := by
  rw [isArray, isArray, resolve, resolve, h.followReferences_eq hcurrent]

end TypeMap

namespace Script

variable {types otherTypes : TypeMap} {roots met : List String} {id : String} {names : TypeNames}
  {helper : Helper} {action : Action} {controller : Controller}

theorem writeType_of_notMem (hnew : id ∉ met) :
    writeType types names met id =
      match types.get? id with
      | none => .error (.unknownType id)
      | some (.primitive kind) => (primitiveName id kind).map .primitive
      | some (.array element) => (writeType types names (id :: met) element).map .list
      | some (.dictionary value) => (writeType types names (id :: met) value).map .dictionary
      | some (.reference target) => writeType types names (id :: met) target
      | some (.structured name _) => .ok (.declared (names.identifier id name))
      | some (.enumeration name _) => .ok (.declared (names.identifier id name)) := by
  rw [writeType, if_neg hnew]
  split <;> next hfound => rw [hfound]

theorem writeType_eq (h : types.AgreesFrom otherTypes roots) (hid : types.Reaches roots id) :
    writeType otherTypes names met id = writeType types names met id := by
  fun_induction writeType types names met id with
  | case1 met id hmet => rw [writeType, if_pos hmet]
  | case2 met id hnew hmissing => rw [writeType_of_notMem hnew, h id hid, hmissing]
  | case3 met id hnew kind hshape => rw [writeType_of_notMem hnew, h id hid, hshape]
  | case4 met id hnew element hshape ih =>
      rw [writeType_of_notMem hnew, h id hid, hshape]
      exact congrArg (Except.map TypeExpr.list) (ih (hid.mention hshape List.mem_cons_self))
  | case5 met id hnew value hshape ih =>
      rw [writeType_of_notMem hnew, h id hid, hshape]
      exact congrArg (Except.map TypeExpr.dictionary) (ih (hid.mention hshape List.mem_cons_self))
  | case6 met id hnew target hshape ih =>
      rw [writeType_of_notMem hnew, h id hid, hshape]
      exact ih (hid.mention hshape List.mem_cons_self)
  | case7 met id hnew name fields hshape => rw [writeType_of_notMem hnew, h id hid, hshape]
  | case8 met id hnew name members hshape => rw [writeType_of_notMem hnew, h id hid, hshape]

theorem typeExpr_eq (h : types.AgreesFrom otherTypes roots) (hid : types.Reaches roots id) :
    typeExpr otherTypes names id = typeExpr types names id := writeType_eq h hid

/-! ### Declarations -/

theorem declare?_eq (h : types.AgreesFrom otherTypes roots) {resolved : ResolvedType}
    (hresolved : types.Reaches roots resolved.id) (hshape : types.get? resolved.id = some resolved.shape) :
    declare? otherTypes names resolved = declare? types names resolved := by
  obtain ⟨id, shape⟩ := resolved
  cases shape with
  | structured name fields =>
      have hfields : fields.mapM (declaredField otherTypes names) = fields.mapM (declaredField types names) := by
        refine Outcome.mapM_congr fun field hfield => ?_
        have hreached := hresolved.mention hshape (List.mem_map_of_mem hfield)
        rw [declaredField, declaredField, typeExpr_eq h hreached]
      exact congrArg (Except.map _) hfields
  | _ => rfl

theorem declarations_eq (h : types.AgreesFrom otherTypes roots) {resolved : List ResolvedType}
    (hclosure : types.IsClosure roots resolved) :
    declarations otherTypes names resolved = declarations types names resolved := by
  rw [declarations, declarations, Outcome.mapM_congr]
  intro type htype
  obtain ⟨hreached, hshape⟩ := hclosure.mem_iff.mp htype
  exact declare?_eq h hreached hshape

/-! ### Functions -/

theorem signature_eq (h : types.AgreesFrom otherTypes roots) {parameters : List Parameter}
    (hparameters : ∀ parameter ∈ parameters, types.Reaches roots parameter.typeId) (identifiers : List String) :
    signature otherTypes names parameters identifiers = signature types names parameters identifiers := by
  induction parameters generalizing identifiers with
  | nil => rfl
  | cons parameter later ih =>
      rw [List.forall_mem_cons] at hparameters
      cases identifiers with
      | nil => rfl
      | cons identifier identifiers => rw [signature, signature, typeExpr_eq h hparameters.1, ih hparameters.2]

theorem clientFunction_eq (h : types.AgreesFrom otherTypes roots)
    (haction : ∀ id ∈ action.typeIds, types.Reaches roots id) {controllerName : String} {binding : Binding}
    (hbind : action.bind controllerName = .ok binding) (name : String) :
    clientFunction otherTypes names helper name action binding =
      clientFunction types names helper name action binding := by
  have hparameters : ∀ parameter ∈ action.parameters, types.Reaches roots parameter.typeId := fun parameter hmem =>
    haction _ (List.mem_append_left _ (List.mem_map_of_mem hmem))
  have hresult : action.returnType?.mapM (typeExpr otherTypes names) =
      action.returnType?.mapM (typeExpr types names) := by
    cases hreturn : action.returnType? with
    | none => rfl
    | some result =>
        have hmem : result ∈ action.typeIds := List.mem_append_right _ (by simp [hreturn])
        rw [Option.mapM_some, Option.mapM_some, typeExpr_eq h (haction result hmem)]
  have hquery : binding.query.mapM (queryEntry otherTypes (parameterIdentifiers action helper)) =
      binding.query.mapM (queryEntry types (parameterIdentifiers action helper)) := by
    refine Outcome.mapM_congr fun placed hplaced => ?_
    rw [query_of_bind hbind] at hplaced
    rw [queryEntry, queryEntry, h.isArray_eq (hparameters _ (parameter_mem_of_placedAs hplaced))]
  rw [clientFunction, clientFunction, signature_eq h hparameters, hresult, hquery]

theorem clientFunctions_eq (h : types.AgreesFrom otherTypes roots) {controllerName : String}
    {actions : List Action} {bindings : List Binding}
    (hactions : ∀ action ∈ actions, ∀ id ∈ action.typeIds, types.Reaches roots id)
    (hbound : List.Forall₂ (fun action binding => action.bind controllerName = .ok binding) actions bindings)
    (functionNames : List String) :
    clientFunctions otherTypes names helper functionNames (actions.zip bindings) =
      clientFunctions types names helper functionNames (actions.zip bindings) := by
  induction hbound generalizing functionNames with
  | nil => cases functionNames <;> rfl
  | @cons action binding actions bindings hbind hrest ih =>
      rw [List.forall_mem_cons] at hactions
      cases functionNames with
      | nil => rfl
      | cons name functionNames =>
          rw [List.zip_cons_cons, clientFunctions, clientFunctions, clientFunction_eq h hactions.1 hbind,
            ih hactions.2]

theorem outcome_apiSource_eq (h : types.AgreesFrom otherTypes controller.typeIds) :
    (apiSource otherTypes names helper controller).outcome = (apiSource types names helper controller).outcome := by
  have hactions : ∀ action ∈ controller.actions, ∀ id ∈ action.typeIds, types.Reaches controller.typeIds id :=
    fun action haction id hid => .root (List.mem_flatMap.mpr ⟨action, haction, hid⟩)
  rw [apiSource, apiSource, Traced.outcome_bind, Traced.outcome_bind]
  refine Outcome.bind_congr fun bindings hbindings => ?_
  rw [controller.outcome_bind, Outcome.mapM_eq_ok_iff] at hbindings
  rw [clientFunctions_eq h hactions hbindings]

end Script

end ApiProxy
