import ApiProxy.Proofs.Binding
import ApiProxy.Proofs.TypeGraph.Chain
import ApiProxy.Script.Files
import ApiProxy.Unicode.Letter

/-! Which controllers files can be made for, and what else stands in the way. The files are made in five steps, and
each step has obstacles of its own; a controller is generable exactly if it meets none at any of them. -/

namespace ApiProxy

/-- A name with a letter or a number in it, which is what a path segment can be made of. -/
def HasWord (name : String) : Prop := ∃ c ∈ name.toList, Unicode.isAlphanumeric c = true

structure Selection.Generable (selection : Selection) (controller : Controller) : Prop where
  defined : ∀ id, selection.types.Reaches controller.typeIds id → selection.types.get? id ≠ none
  supported : ∀ id kind, selection.types.Reaches controller.typeIds id →
    selection.types.get? id ≠ some (.primitive (.unsupported kind))
  acyclic : ∀ id, selection.types.Reaches controller.typeIds id → ¬selection.types.Recurs id
  bindable : ∀ action ∈ controller.actions, action.Bindable
  service : HasWord selection.module.serviceName
  group : HasWord controller.groupName

inductive Step where
  | resolution
  | fields
  | binding
  | signatures
  | paths
deriving DecidableEq, Repr

/-- The steps in the order in which they are taken. -/
def Step.all : List Step := [resolution, fields, binding, signatures, paths]

theorem Step.mem_all (step : Step) : step ∈ all := by
  cases step <;> decide

/-- The types that are written at a step: those of the declared fields, and those of the signatures. -/
def Step.Writes (step : Step) (types : TypeMap) (roots : List String) (id : String) : Prop :=
  match step with
  | fields => ∃ field, types.HasField roots field ∧ field.typeId = id
  | signatures => id ∈ roots
  | _ => False

/-- What can stand in the way of a step, with the report of it. -/
inductive Obstacle (selection : Selection) (controller : Controller) : Step → Failure → Prop where
  | undefined {id : String} (hreached : selection.types.Reaches controller.typeIds id)
      (hmissing : selection.types.get? id = none) : Obstacle selection controller .resolution (.unknownType id)
  | unsupported {step : Step} {start last kind : String}
      (hwrites : step.Writes selection.types controller.typeIds start)
      (hleads : selection.types.LeadsTo start last)
      (hshape : selection.types.get? last = some (.primitive (.unsupported kind))) :
      Obstacle selection controller step (.unsupportedType last kind)
  | circular {step : Step} {start id : String}
      (hwrites : step.Writes selection.types controller.typeIds start)
      (hleads : selection.types.LeadsTo start id) (hrecurs : selection.types.Recurs id) :
      Obstacle selection controller step (.circularAlias id)
  | clash {action : Action} {failure : Failure}
      (hfirst : First (fun action => ¬action.Bindable) controller.actions action)
      (hclash : action.Clash controller.name failure) : Obstacle selection controller .binding failure
  | service (hempty : ¬HasWord selection.module.serviceName) :
      Obstacle selection controller .paths (.emptyPathSegment "remoteServiceName" selection.module.serviceName)
  | group (hservice : HasWord selection.module.serviceName) (hempty : ¬HasWord controller.groupName) :
      Obstacle selection controller .paths (.emptyPathSegment "controllerGroupName" controller.groupName)

/-- A step that something stands in the way of. -/
def Step.Blocked (selection : Selection) (controller : Controller) (step : Step) : Prop :=
  ∃ failure, Obstacle selection controller step failure

variable {selection : Selection} {controller : Controller} {step : Step} {failure : Failure}

theorem Step.Writes.reaches {types : TypeMap} {roots : List String} {id : String}
    (h : step.Writes types roots id) : types.Reaches roots id := by
  cases step with
  | fields =>
      obtain ⟨field, hfield, rfl⟩ := h
      exact hfield.reaches
  | signatures => exact .root h
  | resolution => exact absurd h not_false
  | binding => exact absurd h not_false
  | paths => exact absurd h not_false

theorem Selection.Generable.no_obstacle (h : selection.Generable controller) :
    ¬Obstacle selection controller step failure := by
  intro hobstacle
  cases hobstacle with
  | undefined hreached hmissing => exact h.defined _ hreached hmissing
  | unsupported hwrites hleads hshape => exact h.supported _ _ (hwrites.reaches.leadsTo hleads) hshape
  | circular hwrites hleads hrecurs => exact h.acyclic _ (hwrites.reaches.leadsTo hleads) hrecurs
  | clash hfirst _ => exact hfirst.holds (h.bindable _ hfirst.mem)
  | service hempty => exact hempty h.service
  | group _ hempty => exact hempty h.group

/-- Every type that is reached lies on a chain that is written at some step. -/
theorem exists_writes {types : TypeMap} {roots : List String} {id : String} (h : types.Reaches roots id) :
    ∃ (step : Step) (start : String), step.Writes types roots start ∧ types.LeadsTo start id := by
  obtain ⟨start, hleads, hroot | hfield⟩ := h.entry
  · exact ⟨.signatures, start, hroot, hleads⟩
  · exact ⟨.fields, start, hfield, hleads⟩

theorem not_generable_iff :
    ¬selection.Generable controller ↔ ∃ step, Step.Blocked selection controller step := by
  constructor
  · contrapose!
    intro hclear
    have hnone : ∀ step failure, ¬Obstacle selection controller step failure := fun step failure h =>
      hclear step ⟨failure, h⟩
    refine ⟨?_, ?_, ?_, ?_, ?_, ?_⟩
    · exact fun id hreached hmissing => hnone _ _ (.undefined hreached hmissing)
    · intro id kind hreached hshape
      obtain ⟨step, start, hwrites, hleads⟩ := exists_writes hreached
      exact hnone _ _ (.unsupported hwrites hleads hshape)
    · intro id hreached hrecurs
      obtain ⟨step, start, hwrites, hleads⟩ := exists_writes hreached
      exact hnone _ _ (.circular hwrites hleads hrecurs)
    · by_contra hactions
      push Not at hactions
      obtain ⟨action, hfirst⟩ := exists_first hactions
      rcases bind_outcome action controller.name with ⟨_, hbindable⟩ | ⟨failure, _, hclash⟩
      · exact hfirst.holds hbindable
      · exact hnone _ _ (.clash hfirst hclash)
    · by_contra hempty
      exact hnone _ _ (.service hempty)
    · by_contra hempty
      by_cases hservice : HasWord selection.module.serviceName
      · exact hnone _ _ (.group hservice hempty)
      · exact hnone _ _ (.service hservice)
  · rintro ⟨step, failure, hobstacle⟩ hgenerable
    exact hgenerable.no_obstacle hobstacle

end ApiProxy
