import ApiProxy.Progress
import ApiProxy.Route
import ApiProxy.Schema.Basic
import ApiProxy.Words

/-! Where each parameter of an action goes. Parameters are known by their position, since two of them may be
equal in every other respect. A placeholder of the URL takes the first path parameter of its name, up to the
case of ASCII letters; at most one parameter may be the body. -/

namespace ApiProxy

structure PlacedParameter where
  position : Nat
  parameter : Parameter
deriving DecidableEq, Repr

def Action.placed (action : Action) : List PlacedParameter :=
  action.parameters.zipIdx.map fun entry => ⟨entry.2, entry.1⟩

def Action.placedAs (action : Action) (kind : BindingKind) : List PlacedParameter :=
  action.placed.filter (·.parameter.binding = kind)

theorem Action.parameters_placedAs (action : Action) (kind : BindingKind) :
    (action.placedAs kind).map PlacedParameter.parameter = action.boundTo kind := by
  have hplaced : action.placed.map PlacedParameter.parameter = action.parameters := by
    simp [Action.placed, Function.comp_def]
  rw [Action.boundTo, ← hplaced, List.filter_map]
  rfl

inductive BoundSegment where
  | literal (text : String)
  | parameter (placed : PlacedParameter)
deriving DecidableEq, Repr

def BoundSegment.position? : BoundSegment → Option Nat
  | literal _ => none
  | parameter placed => some placed.position

structure Binding where
  segments : List BoundSegment
  query : List PlacedParameter
  body? : Option PlacedParameter
  unplaced : List PlacedParameter
deriving DecidableEq, Repr

def Action.bindSegment (action : Action) (controllerName : String) :
    Route.Segment → Except Failure BoundSegment
  | .literal text => .ok (.literal text)
  | .placeholder name _ =>
    match (action.placedAs .path).find? fun placed => sameUpToCase placed.parameter.name name with
    | some placed => .ok (.parameter placed)
    | none => .error (.missingPathParameter controllerName action.name name)

/-- The wiring of an action, or the first thing that stands against it. -/
def Action.bind (action : Action) (controllerName : String) : Except Failure Binding := do
  let segments ← (Route.segments action.template).mapM (action.bindSegment controllerName)
  match action.placedAs .body with
  | first :: second :: others =>
    let names := (first :: second :: others).map fun placed => placed.parameter.name
    .error (.multipleBodyParameters controllerName action.name names)
  | bodies =>
    let taken := segments.filterMap BoundSegment.position?
    .ok {
      segments
      query := action.placedAs .query
      body? := bodies.head?
      unplaced := (action.placedAs .path).filter fun placed => placed.position ∉ taken }

/-- Binds an action and notes each path parameter that its URL does not mention. -/
def Action.bindNoting (action : Action) (controllerName : String) : Traced Binding :=
  match action.bind controllerName with
  | .ok binding =>
    ⟨binding.unplaced.map fun placed =>
      .unplacedParameter controllerName action.name placed.parameter.name, .ok binding⟩
  | .error failure => .ofExcept (.error failure)

def bindActions (controllerName : String) : List Action → Traced (List Binding)
  | [] => pure []
  | action :: actions => do
    let binding ← action.bindNoting controllerName
    let bindings ← bindActions controllerName actions
    pure (binding :: bindings)

def Controller.bind (controller : Controller) : Traced (List Binding) :=
  bindActions controller.name controller.actions

end ApiProxy
