import ApiProxy.Generation
import ApiProxy.Proofs.Generation.Steps
import ApiProxy.Proofs.Names.Words
import ApiProxy.Proofs.Script.Declarations
import ApiProxy.Proofs.Script.Functions
import ApiProxy.Proofs.TypeGraph.Closure

/-! Generation succeeds exactly if every controller is generable. Each step of a controller reports an obstacle
if it has one, so what is reported in the end is the first blocked step of the first controller that is not. -/

namespace ApiProxy

variable {selection : Selection} {controller : Controller} {step : Step} {steps : List Step}
  {failure : Failure} {resolved : List ResolvedType}

/-- The report of a step: silence if it is not blocked, and otherwise one of its obstacles. -/
inductive Reports (selection : Selection) (controller : Controller) (step : Step) : Option Failure → Prop where
  | silent (hclear : ¬step.Blocked selection controller) : Reports selection controller step none
  | obstacle {failure : Failure} (h : Obstacle selection controller step failure) :
      Reports selection controller step (some failure)

/-- The report of several steps in a row, which is that of the first blocked one. -/
inductive ReportsFirst (selection : Selection) (controller : Controller) (steps : List Step) :
    Option Failure → Prop where
  | silent (hclear : ∀ step ∈ steps, ¬step.Blocked selection controller) :
      ReportsFirst selection controller steps none
  | obstacle {step : Step} {failure : Failure} (hfirst : First (Step.Blocked selection controller) steps step)
      (h : Obstacle selection controller step failure) : ReportsFirst selection controller steps (some failure)

theorem ReportsFirst.cons {report rest : Option Failure} (hfirst : Reports selection controller step report)
    (hrest : ReportsFirst selection controller steps rest) :
    ReportsFirst selection controller (step :: steps) (report.or rest) := by
  cases hfirst with
  | obstacle h => exact .obstacle (.head steps ⟨_, h⟩) h
  | silent hclear =>
      cases hrest with
      | silent hrest => exact .silent (List.forall_mem_cons.mpr ⟨hclear, hrest⟩)
      | obstacle hfound h => exact .obstacle (hfound.cons hclear) h

theorem ReportsFirst.single {report : Option Failure} (h : Reports selection controller step report) :
    ReportsFirst selection controller [step] report := by
  cases h with
  | silent hclear => exact .silent (List.forall_mem_singleton.mpr hclear)
  | obstacle h => exact .obstacle (.head [] ⟨_, h⟩) h

/-! ### The steps -/

theorem resolution_reports (selection : Selection) (controller : Controller) :
    Reports selection controller .resolution (failure? (selection.types.neededBy controller)) := by
  rcases TypeMap.closure_outcome selection.types controller.typeIds with
    ⟨found, hfound, hclosure⟩ | ⟨missing, hmissing, hreached, hundefined⟩
  · rw [TypeMap.neededBy, hfound]
    refine .silent ?_
    rintro ⟨failure, hobstacle⟩
    cases hobstacle with
    | undefined hreached hmissing => exact hclosure.get?_ne_none hreached hmissing
    | unsupported hwrites _ _ => exact hwrites
    | circular hwrites _ _ => exact hwrites
  · rw [TypeMap.neededBy, hmissing]
    exact .obstacle (.undefined hreached hundefined)

theorem Obstacle.deadEnd (h : Obstacle selection controller step failure)
    (hstep : step = .fields ∨ step = .signatures) :
    ∃ start, step.Writes selection.types controller.typeIds start ∧ selection.types.DeadEnd start failure := by
  cases h with
  | unsupported hwrites hleads hshape => exact ⟨_, hwrites, .unsupported hleads hshape⟩
  | circular hwrites hleads hrecurs => exact ⟨_, hwrites, .circular hleads hrecurs⟩
  | undefined _ _ => simp at hstep
  | clash _ _ => simp at hstep
  | service _ => simp at hstep
  | group _ _ => simp at hstep

theorem obstacle_of_deadEnd {start : String} (hclosure : selection.types.IsClosure controller.typeIds resolved)
    (hwrites : step.Writes selection.types controller.typeIds start)
    (hdead : selection.types.DeadEnd start failure) : Obstacle selection controller step failure := by
  cases hdead with
  | undefined hleads hmissing =>
      exact absurd hmissing (hclosure.get?_ne_none (hwrites.reaches.leadsTo hleads))
  | unsupported hleads hshape => exact .unsupported hwrites hleads hshape
  | circular hleads hrecurs => exact .circular hwrites hleads hrecurs

theorem writing_reports {ids : List String} (names : Script.TypeNames)
    (hclosure : selection.types.IsClosure controller.typeIds resolved)
    (hstep : step = .fields ∨ step = .signatures)
    (hids : ∀ id, id ∈ ids ↔ step.Writes selection.types controller.typeIds id) :
    Reports selection controller step
      (ids.findSome? fun id => failure? (Script.typeExpr selection.types names id)) := by
  cases hreport : ids.findSome? fun id => failure? (Script.typeExpr selection.types names id) with
  | some failure =>
      obtain ⟨id, hid, hfailure⟩ := List.exists_of_findSome?_eq_some hreport
      have hdead := Script.deadEnd_of_typeExpr (Outcome.failure?_eq_some_iff.mp hfailure)
      exact .obstacle (obstacle_of_deadEnd hclosure ((hids id).mp hid) hdead)
  | none =>
      refine .silent ?_
      rintro ⟨failure, hobstacle⟩
      obtain ⟨start, hwrites, hdead⟩ := hobstacle.deadEnd hstep
      have hnone := List.findSome?_eq_none_iff.mp hreport start ((hids start).mpr hwrites)
      exact Script.typeExpr_succeeds_iff.mp (Outcome.failure?_eq_none_iff.mp hnone) failure hdead

theorem mem_fieldTypeIds_iff (hclosure : selection.types.IsClosure controller.typeIds resolved) (id : String) :
    id ∈ resolved.flatMap ResolvedType.fieldTypeIds ↔
      Step.fields.Writes selection.types controller.typeIds id := by
  rw [List.mem_flatMap]
  constructor
  · rintro ⟨⟨owner, shape⟩, howner, hid⟩
    obtain ⟨hreached, hshape⟩ := hclosure.mem_iff.mp howner
    cases shape with
    | structured name fields =>
        obtain ⟨field, hfield, rfl⟩ := List.mem_map.mp hid
        exact ⟨field, ⟨owner, name, fields, hreached, hshape, hfield⟩, rfl⟩
    | _ => cases hid
  · rintro ⟨field, ⟨owner, name, fields, hreached, hshape, hfield⟩, rfl⟩
    have howner : (⟨owner, .structured name fields⟩ : ResolvedType) ∈ resolved :=
      hclosure.mem_iff.mpr ⟨hreached, hshape⟩
    exact ⟨_, howner, List.mem_map_of_mem hfield⟩

theorem binding_reports (selection : Selection) (controller : Controller) : Reports selection controller .binding
    (controller.actions.findSome? fun action => failure? (action.bind controller.name)) := by
  cases hreport : controller.actions.findSome? fun action => failure? (action.bind controller.name) with
  | some failure =>
      obtain ⟨action, hfirst, hfailure⟩ := Outcome.findSome?_eq_some_iff.mp hreport
      have hunbindable : First (fun action => ¬action.Bindable) controller.actions action := by
        refine hfirst.congr fun action => ?_
        rw [← bind_succeeds_iff controller.name, ← Outcome.failure?_eq_none_iff]
        exact Option.ne_none_iff_exists'.symm
      rcases bind_outcome action controller.name with ⟨_, hbindable⟩ | ⟨other, hother, hclash⟩
      · exact absurd hbindable hunbindable.holds
      · cases (congrArg failure? hother).symm.trans hfailure
        exact .obstacle (.clash hunbindable hclash)
  | none =>
      refine .silent ?_
      rintro ⟨failure, hobstacle⟩
      cases hobstacle with
      | clash hfirst _ =>
          have hnone := List.findSome?_eq_none_iff.mp hreport _ hfirst.mem
          exact hfirst.holds ((bind_succeeds_iff controller.name).mp (Outcome.failure?_eq_none_iff.mp hnone))
      | unsupported hwrites _ _ => exact hwrites
      | circular hwrites _ _ => exact hwrites

theorem pathSegment_outcome (field value : String) :
    (failure? (pathSegment field value) = none ∧ HasWord value) ∨
      failure? (pathSegment field value) = some (.emptyPathSegment field value) ∧ ¬HasWord value := by
  have hempty : (kebabCase value).isEmpty = true ↔ ¬HasWord value := by
    rw [kebabCase_isEmpty_iff, HasWord]
    simp
  by_cases hword : HasWord value
  · rw [pathSegment, if_neg (fun h => hempty.mp h hword)]
    exact Or.inl ⟨rfl, hword⟩
  · rw [pathSegment, if_pos (hempty.mpr hword)]
    exact Or.inr ⟨rfl, hword⟩

theorem failure?_outputPaths (root : FilePath) (serviceName groupName extension : String) :
    failure? (outputPaths root serviceName groupName extension) =
      (failure? (pathSegment "remoteServiceName" serviceName)).or
        (failure? (pathSegment "controllerGroupName" groupName)) := by
  rw [outputPaths]
  refine Outcome.failure?_bind fun service _ => ?_
  exact Outcome.failure?_bind_of_ok fun _ => rfl

theorem paths_reports (selection : Selection) (controller : Controller) (root : FilePath)
    (extension : String) : Reports selection controller .paths
    (failure? (outputPaths root selection.module.serviceName controller.groupName extension)) := by
  rw [failure?_outputPaths]
  rcases pathSegment_outcome "remoteServiceName" selection.module.serviceName with
    ⟨hnone, hservice⟩ | ⟨hsome, hservice⟩
  · rw [hnone, Option.none_or]
    rcases pathSegment_outcome "controllerGroupName" controller.groupName with
      ⟨hnone, hgroup⟩ | ⟨hsome, hgroup⟩
    · rw [hnone]
      refine .silent ?_
      rintro ⟨failure, hobstacle⟩
      cases hobstacle with
      | service hempty => exact hempty hservice
      | group _ hempty => exact hempty hgroup
      | unsupported hwrites _ _ => exact hwrites
      | circular hwrites _ _ => exact hwrites
    · rw [hsome]
      exact .obstacle (.group hservice hgroup)
  · rw [hsome]
    exact .obstacle (.service hservice)

/-! ### Controllers -/

theorem failure?_controllerFiles (helper : Script.Helper) (root : FilePath)
    (hresolved : selection.types.neededBy controller = .ok resolved) :
    failure? (controllerFiles helper root selection controller).outcome =
      (failure? (Script.modelFile helper selection controller resolved)).or
        ((failure? (Script.apiFile helper selection controller resolved).outcome).or
          (failure? (outputPaths root selection.module.serviceName controller.groupName Script.extension))) := by
  rw [controllerFiles, Traced.outcome_bind, Traced.outcome_ofExcept, hresolved]
  show failure? (Traced.ofExcept (Script.modelFile helper selection controller resolved) >>= _).outcome = _
  simp only [Traced.outcome_bind, Traced.outcome_ofExcept]
  refine Outcome.failure?_bind fun model _ => ?_
  refine Outcome.failure?_bind fun api _ => ?_
  exact Outcome.failure?_bind_of_ok fun _ => rfl

/-- Making the files of a controller takes the five steps in turn. -/
theorem controllerFiles_reports (helper : Script.Helper) (root : FilePath) (selection : Selection)
    (controller : Controller) :
    ReportsFirst selection controller Step.all
      (failure? (controllerFiles helper root selection controller).outcome) := by
  have hresolution := resolution_reports selection controller
  cases hresolved : selection.types.neededBy controller with
  | error failure =>
      rw [hresolved] at hresolution
      rw [controllerFiles, Traced.outcome_bind, Traced.outcome_ofExcept, hresolved]
      cases hresolution with
      | obstacle h => exact .obstacle (.head _ ⟨failure, h⟩) h
  | ok resolved =>
      have hclosure := TypeMap.closure_eq_ok_iff.mp hresolved
      have hfields := writing_reports (Script.fileTypeNames helper resolved) hclosure (Or.inl rfl)
        (mem_fieldTypeIds_iff hclosure)
      have hsignatures := writing_reports (Script.fileTypeNames helper resolved) hclosure (Or.inr rfl)
        fun id => Iff.rfl
      have hpaths := paths_reports selection controller root Script.extension
      rw [failure?_controllerFiles helper root hresolved, Script.failure?_modelFile, Script.failure?_apiFile,
        Option.or_assoc, ← Option.none_or (o := Option.or _ _)]
      rw [hresolved] at hresolution
      have hbinding := binding_reports selection controller
      exact .cons hresolution (.cons hfields (.cons hbinding (.cons hsignatures (.single hpaths))))

theorem outcome_stageFile (output : StagedOutput) (file : OutputFile) :
    (stageFile output file).outcome = .ok (output.stage file).1 := by
  rw [stageFile, Traced.outcome_bind, Traced.outcome_report]
  rcases output.stage file with ⟨staged, _ | previous⟩ <;> rfl

theorem failure?_generateController (helper : Script.Helper) (root : FilePath) (output : StagedOutput) :
    failure? (generateController helper root selection output controller).outcome =
      failure? (controllerFiles helper root selection controller).outcome := by
  rw [generateController, Traced.outcome_bind, Traced.outcome_report]
  show failure? (Traced.outcome (controllerFiles helper root selection controller >>= _)) = _
  rw [Traced.outcome_bind]
  refine Outcome.failure?_bind_of_ok fun files => ?_
  rw [Traced.outcome_bind, outcome_stageFile]
  show failure? (stageFile _ _).outcome = none
  rw [outcome_stageFile]
  rfl

theorem failure?_generateFrom (helper : Script.Helper) (root : FilePath) (selection : Selection)
    (output : StagedOutput) (controllers : List Controller) :
    failure? (generateFrom helper root selection output controllers).outcome =
      controllers.findSome? fun controller =>
        failure? (controllerFiles helper root selection controller).outcome := by
  induction controllers generalizing output with
  | nil => rfl
  | cons controller controllers ih =>
      rw [generateFrom, Traced.outcome_bind, List.findSome?_cons,
        ← failure?_generateController helper root output]
      cases (generateController helper root selection output controller).outcome with
      | ok staged => exact ih staged
      | error failure => rfl

theorem generable_iff_silent (helper : Script.Helper) (root : FilePath) :
    selection.Generable controller ↔
      failure? (controllerFiles helper root selection controller).outcome = none := by
  have hreports := controllerFiles_reports helper root selection controller
  generalize failure? (controllerFiles helper root selection controller).outcome = report at hreports ⊢
  cases hreports with
  | silent hclear =>
      refine iff_of_true ?_ rfl
      by_contra hblocked
      obtain ⟨step, hstep⟩ := not_generable_iff.mp hblocked
      exact hclear step (Step.mem_all step) hstep
  | obstacle _ h => exact iff_of_false (fun hgenerable => hgenerable.no_obstacle h) (Option.some_ne_none _)

theorem failure?_generate (helper : Script.Helper) (root : FilePath) (selection : Selection) :
    failure? (generate helper root selection).outcome =
      (selection.module.controllers.entries.map Prod.snd).findSome? fun controller =>
        failure? (controllerFiles helper root selection controller).outcome :=
  failure?_generateFrom helper root selection .empty (selection.module.controllers.entries.map Prod.snd)

theorem exists_output_iff (helper : Script.Helper) (root : FilePath) (selection : Selection) :
    (∃ output, (generate helper root selection).outcome = .ok output) ↔
      ∀ controller ∈ selection.module.controllers.entries.map Prod.snd, selection.Generable controller := by
  rw [← Outcome.failure?_eq_none_iff, failure?_generate, List.findSome?_eq_none_iff]
  exact forall₂_congr fun controller _ => (generable_iff_silent helper root).symm

/-- Files are made for a module exactly if all of its controllers are generable. Otherwise the first controller
that is not is reported, with an obstacle of the first of its steps that is blocked. -/
theorem generate_succeeds_iff_generable (helper : Script.Helper) (root : FilePath) (selection : Selection) :
    ((∃ output, (generate helper root selection).outcome = .ok output) ↔
      ∀ controller ∈ selection.module.controllers.entries.map Prod.snd, selection.Generable controller) ∧
    ((¬∀ controller ∈ selection.module.controllers.entries.map Prod.snd, selection.Generable controller) →
      ∃ controller step failure, (generate helper root selection).outcome = .error failure ∧
        First (fun controller => ¬selection.Generable controller)
          (selection.module.controllers.entries.map Prod.snd) controller ∧
        First (Step.Blocked selection controller) Step.all step ∧
        Obstacle selection controller step failure) := by
  have hgenerable := exists_output_iff helper root selection
  refine ⟨hgenerable, ?_⟩
  intro hblocked
  rw [← hgenerable, ← Outcome.failure?_eq_none_iff, ← ne_eq, Option.ne_none_iff_exists'] at hblocked
  obtain ⟨failure, hsome⟩ := hblocked
  have hfailure := (failure?_generate helper root selection).symm.trans hsome
  obtain ⟨controller, hfirst, hcontroller⟩ := Outcome.findSome?_eq_some_iff.mp hfailure
  have hreports := controllerFiles_reports helper root selection controller
  rw [hcontroller] at hreports
  cases hreports with
  | obstacle hstep hobstacle =>
      refine ⟨controller, _, failure, Outcome.failure?_eq_some_iff.mp hsome, ?_, hstep, hobstacle⟩
      refine hfirst.congr fun other => ?_
      rw [generable_iff_silent helper root, ← ne_eq, Option.ne_none_iff_exists']

/-- A record that leads back to itself, and an amount that cannot be written. -/
def ledgerTypes : TypeMap where
  entries := [("Node", .structured "Node" [⟨"parent", "Node", true⟩]),
    ("Money", .primitive (.unsupported "decimal"))]
  distinct := by decide

def treeController : Controller := ⟨"Tree", "Tree", [⟨"root", .get, "/api/tree", [], some "Node"⟩]⟩

def ledgerController : Controller :=
  ⟨"Ledger", "Ledger", [⟨"find", .get, "/api/ledger", [⟨"amount", .query, "Money", false⟩], none⟩]⟩

def ledgerSelection : Selection where
  key := "ledger"
  module := ⟨"Ledger", ⟨[("Tree", treeController), ("Ledger", ledgerController)], by decide⟩⟩
  types := ledgerTypes

theorem generate_ledger_fails :
    (¬∀ controller ∈ ledgerSelection.module.controllers.entries.map Prod.snd,
      ledgerSelection.Generable controller) ∧
    ∃ controller step failure, (generate {} ⟨"out"⟩ ledgerSelection).outcome = .error failure ∧
      First (fun controller => ¬ledgerSelection.Generable controller) [treeController, ledgerController]
        controller ∧
      First (Step.Blocked ledgerSelection controller) Step.all step ∧
      Obstacle ledgerSelection controller step failure := by
  have hblocked : ¬∀ controller ∈ ledgerSelection.module.controllers.entries.map Prod.snd,
      ledgerSelection.Generable controller := by
    intro hgenerable
    have hledger : ledgerSelection.Generable ledgerController := hgenerable ledgerController (by decide)
    have hmoney : ledgerTypes.Reaches ledgerController.typeIds "Money" := .root (by decide)
    exact hledger.supported "Money" "decimal" hmoney rfl
  exact ⟨hblocked, (generate_succeeds_iff_generable {} ⟨"out"⟩ ledgerSelection).2 hblocked⟩

end ApiProxy
