import ApiProxy.Binding
import ApiProxy.Proofs.Outcome

/-! When the parameters of an action can be bound. Each placeholder of its URL needs a path parameter of its name,
and there is room for one parameter in the body; the first thing that is missing, in this order, is reported. -/

namespace ApiProxy

/-- A placeholder is filled by a path parameter of its name. -/
def Action.Fills (action : Action) : Route.Segment → Prop
  | .literal _ => True
  | .placeholder name _ => ∃ parameter ∈ action.boundTo .path, sameUpToCase parameter.name name = true

structure Action.Bindable (action : Action) : Prop where
  filled : ∀ segment ∈ Route.segments action.template, action.Fills segment
  oneBody : (action.boundTo .body).length ≤ 1

/-- What stands against the binding of an action, with the report of it. -/
inductive Action.Clash (action : Action) (controllerName : String) : Failure → Prop where
  | unfilled {name : String} {isOptional : Bool}
      (hfirst : First (fun segment => ¬action.Fills segment) (Route.segments action.template)
        (.placeholder name isOptional)) :
      Clash action controllerName (.missingPathParameter controllerName action.name name)
  | bodies (hfilled : ∀ segment ∈ Route.segments action.template, action.Fills segment)
      (hmany : 1 < (action.boundTo .body).length) :
      Clash action controllerName
        (.multipleBodyParameters controllerName action.name ((action.boundTo .body).map Parameter.name))

variable {action : Action} {controllerName : String} {failure : Failure}

theorem Action.Clash.not_bindable (h : action.Clash controllerName failure) : ¬action.Bindable := by
  intro hbindable
  cases h with
  | unfilled hfirst => exact hfirst.holds (hbindable.filled _ hfirst.mem)
  | bodies _ hmany => exact absurd hbindable.oneBody (Nat.not_le.mpr hmany)

theorem placedAs_find?_isSome {name : String} :
    (∃ placed, (action.placedAs .path).find? (fun placed => sameUpToCase placed.parameter.name name) =
      some placed) ↔ ∃ parameter ∈ action.boundTo .path, sameUpToCase parameter.name name = true := by
  rw [← Option.isSome_iff_exists, List.find?_isSome, ← action.parameters_placedAs .path]
  simp

theorem failure?_bindSegment (action : Action) (controllerName : String) (segment : Route.Segment) :
    (failure? (action.bindSegment controllerName segment) = none ∧ action.Fills segment) ∨
      ∃ name isOptional, segment = .placeholder name isOptional ∧ ¬action.Fills segment ∧
        failure? (action.bindSegment controllerName segment) =
          some (.missingPathParameter controllerName action.name name) := by
  cases segment with
  | literal text => exact Or.inl ⟨rfl, trivial⟩
  | placeholder name isOptional =>
      have hfills : action.Fills (.placeholder name isOptional) ↔ _ := (placedAs_find?_isSome).symm
      rw [hfills, Action.bindSegment]
      cases hfound : (action.placedAs .path).find? fun placed => sameUpToCase placed.parameter.name name with
      | some placed => exact Or.inl ⟨rfl, placed, rfl⟩
      | none =>
          refine Or.inr ⟨name, isOptional, rfl, ?_, rfl⟩
          rintro ⟨placed, hplaced⟩
          cases hplaced

theorem bindSegment_fails_iff {segment : Route.Segment} :
    (∃ failure, action.bindSegment controllerName segment = .error failure) ↔ ¬action.Fills segment := by
  simp only [← Outcome.failure?_eq_some_iff]
  rcases failure?_bindSegment action controllerName segment with
    ⟨hnone, hfills⟩ | ⟨_, _, _, hunfilled, hfailure⟩
  · refine iff_of_false ?_ (not_not.mpr hfills)
    rintro ⟨failure, hfailure⟩
    cases hnone.symm.trans hfailure
  · exact iff_of_true ⟨_, hfailure⟩ hunfilled

theorem length_placedAs (action : Action) (kind : BindingKind) :
    (action.placedAs kind).length = (action.boundTo kind).length := by
  rw [← action.parameters_placedAs kind, List.length_map]

/-- Binding tells whether an action is bindable, and why if it is not. -/
theorem bind_outcome (action : Action) (controllerName : String) :
    ((∃ binding, action.bind controllerName = .ok binding) ∧ action.Bindable) ∨
      ∃ failure, action.bind controllerName = .error failure ∧ action.Clash controllerName failure := by
  rw [Action.bind]
  cases hsegments : (Route.segments action.template).mapM (action.bindSegment controllerName) with
  | error failure =>
      obtain ⟨segment, hfirst, hfailure⟩ := Outcome.mapM_eq_error_iff.mp hsegments
      have hunfilled := hfirst.congr fun _ => bindSegment_fails_iff
      refine Or.inr ⟨failure, rfl, ?_⟩
      rcases failure?_bindSegment action controllerName segment with
        ⟨_, hfills⟩ | ⟨name, isOptional, rfl, _, hmissing⟩
      · exact absurd hfills hunfilled.holds
      · cases hmissing.symm.trans (congrArg failure? hfailure)
        exact .unfilled hunfilled
  | ok segments =>
      have hfilled : ∀ segment ∈ Route.segments action.template, action.Fills segment := by
        intro segment hsegment
        by_contra hunfilled
        obtain ⟨failure, hfailure⟩ := bindSegment_fails_iff.mpr hunfilled
        obtain ⟨bound, hbound⟩ := Outcome.succeeds_of_mapM hsegments hsegment
        cases hbound.symm.trans hfailure
      have hlength := length_placedAs action .body
      have hnames : (action.placedAs .body).map (fun placed => placed.parameter.name) =
          (action.boundTo .body).map Parameter.name := by
        rw [← action.parameters_placedAs .body, List.map_map]
        rfl
      rcases hbodies : action.placedAs .body with _ | ⟨first, _ | ⟨second, others⟩⟩
      · rw [hbodies] at hlength
        exact Or.inl ⟨⟨_, rfl⟩, hfilled, hlength ▸ Nat.zero_le 1⟩
      · rw [hbodies] at hlength
        exact Or.inl ⟨⟨_, rfl⟩, hfilled, hlength ▸ Nat.le_refl 1⟩
      · rw [hbodies] at hlength hnames
        refine Or.inr ⟨_, rfl, ?_⟩
        rw [hnames]
        refine .bodies hfilled ?_
        rw [← hlength, List.length_cons, List.length_cons]
        omega

theorem bind_succeeds_iff (controllerName : String) :
    (∃ binding, action.bind controllerName = .ok binding) ↔ action.Bindable := by
  rcases bind_outcome action controllerName with ⟨hok, hbindable⟩ | ⟨failure, herror, hclash⟩
  · exact iff_of_true hok hbindable
  · refine iff_of_false ?_ hclash.not_bindable
    rintro ⟨binding, hbinding⟩
    cases herror.symm.trans hbinding

theorem outcome_bindActions (controllerName : String) (actions : List Action) :
    (bindActions controllerName actions).outcome = actions.mapM fun action => action.bind controllerName := by
  induction actions with
  | nil => rfl
  | cons action actions ih =>
      rw [bindActions, List.mapM_cons, Traced.outcome_bind]
      have hnoting : (action.bindNoting controllerName).outcome = action.bind controllerName := by
        rw [Action.bindNoting]
        cases action.bind controllerName <;> rfl
      rw [hnoting, ← ih]
      congr 1
      funext binding
      exact Traced.outcome_bind _ _

theorem Controller.outcome_bind (controller : Controller) :
    controller.bind.outcome = controller.actions.mapM fun action => action.bind controller.name :=
  outcome_bindActions controller.name controller.actions

theorem query_of_bind {action : Action} {controllerName : String} {binding : Binding}
    (h : action.bind controllerName = .ok binding) : binding.query = action.placedAs .query := by
  obtain ⟨segments, _, hrest⟩ := Outcome.bind_eq_ok_iff.mp h
  split at hrest
  · cases hrest
  · cases hrest
    rfl

theorem parameter_mem_of_placedAs {action : Action} {kind : BindingKind} {placed : PlacedParameter}
    (h : placed ∈ action.placedAs kind) : placed.parameter ∈ action.parameters := by
  have hmem : placed.parameter ∈ action.boundTo kind := by
    rw [← action.parameters_placedAs kind]
    exact List.mem_map_of_mem h
  exact List.mem_of_mem_filter hmem

end ApiProxy
