import ApiProxy.Generation
import ApiProxy.Proofs.Outcome

/-! The events of composed computations. What holds of every event of the parts holds of every event of the whole,
so the events of a generation are found by going through its steps once. -/

namespace ApiProxy

namespace Traced

variable {α β : Type} {p : Event → Prop}

theorem events_bind_of_ok {first : Traced α} {next : α → Traced β} {value : α} (h : first.outcome = .ok value) :
    (first >>= next).events = first.events ++ (next value).events := by
  show (first.andThen next).events = _
  rw [andThen_of_ok h, events, List.filterMap_append]
  rfl

theorem events_bind_of_error {first : Traced α} {next : α → Traced β} {failure : Failure}
    (h : first.outcome = .error failure) : (first >>= next).events = first.events := by
  show (first.andThen next).events = _
  rw [andThen_of_error h]
  rfl

theorem events_bind_pure (first : Traced α) (f : α → β) :
    (first >>= fun value => pure (f value)).events = first.events := by
  cases h : first.outcome with
  | error failure => exact events_bind_of_error h
  | ok value => exact (events_bind_of_ok h).trans (List.append_nil _)

/-- Every event that is reported has the property. -/
def Reporting (p : Event → Prop) (traced : Traced α) : Prop := ∀ event ∈ traced.events, p event

theorem reporting_ofExcept (outcome : Except Failure α) : Reporting p (ofExcept outcome) := by
  intro event hevent
  cases hevent

theorem reporting_pure (value : α) : Reporting p (pure value : Traced α) := reporting_ofExcept (.ok value)

theorem reporting_report {event : Event} (h : p event) : Reporting p (report event) := by
  intro other hother
  cases List.mem_singleton.mp hother
  exact h

theorem Reporting.bind {first : Traced α} {next : α → Traced β} (hfirst : Reporting p first)
    (hnext : ∀ value, Reporting p (next value)) : Reporting p (first >>= next) := by
  intro event hevent
  cases h : first.outcome with
  | error failure =>
      rw [events_bind_of_error h] at hevent
      exact hfirst event hevent
  | ok value =>
      rw [events_bind_of_ok h] at hevent
      rcases List.mem_append.mp hevent with hevent | hevent
      · exact hfirst event hevent
      · exact hnext value event hevent

end Traced

/-- An event of the making of files; the other two kinds tell of a written file and of the end of a run. -/
def Event.IsEarly : Event → Prop
  | .fileWritten _ => False
  | .completed _ _ => False
  | _ => True

/-- Binding and writing may give notices, but no events. -/
theorem reporting_bindActions (p : Event → Prop) (controllerName : String) (actions : List Action) :
    (bindActions controllerName actions).Reporting p := by
  induction actions with
  | nil => exact Traced.reporting_pure []
  | cons action actions ih =>
      have hnoting : (action.bindNoting controllerName).Reporting p := by
        intro event hevent
        rw [Action.bindNoting] at hevent
        cases hbind : action.bind controllerName with
        | error failure =>
            rw [hbind] at hevent
            cases hevent
        | ok binding =>
            rw [hbind, Traced.events] at hevent
            simp [List.filterMap_map, Function.comp_def, Notice.event?] at hevent
      exact hnoting.bind fun binding => ih.bind fun bindings => Traced.reporting_pure _

theorem reporting_controllerFiles (p : Event → Prop) (helper : Script.Helper) (root : FilePath) (selection : Selection)
    (controller : Controller) :
    (controllerFiles helper root selection controller).Reporting p := by
  refine (Traced.reporting_ofExcept _).bind fun resolved => ?_
  refine (Traced.reporting_ofExcept _).bind fun model => ?_
  have hsource : (Script.apiSource selection.types (Script.fileTypeNames helper resolved) helper
      controller).Reporting p := by
    refine (reporting_bindActions p controller.name controller.actions).bind fun bindings => ?_
    exact (Traced.reporting_ofExcept _).bind fun functions => Traced.reporting_pure _
  have hapi : (Script.apiFile helper selection controller resolved).Reporting p :=
    hsource.bind fun source => Traced.reporting_pure _
  refine hapi.bind fun api => ?_
  exact (Traced.reporting_ofExcept _).bind fun paths => Traced.reporting_pure _

theorem reporting_stageFile (output : StagedOutput) (file : OutputFile) :
    (stageFile output file).Reporting Event.IsEarly := by
  refine (Traced.reporting_report trivial).bind fun _ => ?_
  rcases output.stage file with ⟨staged, _ | previous⟩
  · exact Traced.reporting_pure staged
  · exact (Traced.reporting_report trivial).bind fun _ => Traced.reporting_pure staged

theorem reporting_generateFrom (helper : Script.Helper) (root : FilePath) (selection : Selection)
    (output : StagedOutput) (controllers : List Controller) :
    (generateFrom helper root selection output controllers).Reporting Event.IsEarly := by
  induction controllers generalizing output with
  | nil => exact Traced.reporting_pure output
  | cons controller controllers ih =>
      have hcontroller :
          (generateController helper root selection output controller).Reporting Event.IsEarly := by
        refine (Traced.reporting_report trivial).bind fun _ => ?_
        refine (reporting_controllerFiles _ helper root selection controller).bind fun files => ?_
        exact (reporting_stageFile _ _).bind fun staged => reporting_stageFile _ _
      exact hcontroller.bind fun staged => ih staged

end ApiProxy
