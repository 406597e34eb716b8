import ApiProxy.Proofs.Generation.Places
import ApiProxy.Proofs.Script.Agreement
import ApiProxy.Proofs.Script.ImportedNames

/-! What the texts of a controller depend on. They are rendered from the key of the module, the controller and the
types that its actions lead to, so schemas that agree on these give the same texts or the same report, and these
are what the generation of either module delivers for the controller. -/

namespace ApiProxy

/-- The texts of the two files of a controller. -/
structure Rendering where
  model : String
  api : String

variable {helper : Script.Helper} {root : FilePath} {selection other : Selection} {controller : Controller}

/-- The files of a controller as far as they do not depend on where they go. -/
def rendering (helper : Script.Helper) (selection : Selection) (controller : Controller) :
    Except Failure Rendering := do
  let resolved ← selection.types.neededBy controller
  let model ← Script.modelFile helper selection controller resolved
  let api ← (Script.apiFile helper selection controller resolved).outcome
  .ok ⟨model, api⟩

theorem outcome_controllerFiles : (controllerFiles helper root selection controller).outcome =
    rendering helper selection controller >>= fun texts =>
      (outputPaths root selection.module.serviceName controller.groupName Script.extension).map fun paths =>
        ⟨paths, texts.model, texts.api⟩ := by
  simp only [controllerFiles, rendering, Traced.outcome_bind, Traced.outcome_ofExcept, Traced.outcome_pure,
    bind_assoc]
  refine Outcome.bind_congr fun resolved _ => Outcome.bind_congr fun model _ => Outcome.bind_congr fun api _ => ?_
  cases outputPaths root selection.module.serviceName controller.groupName Script.extension <;> rfl

/-- Only the key, the controller and the types that it leads to are read. -/
theorem rendering_eq (hkey : other.key = selection.key)
    (h : selection.types.AgreesFrom other.types controller.typeIds) :
    rendering helper other controller = rendering helper selection controller := by
  rw [rendering, rendering, TypeMap.neededBy, h.closure_eq, ← TypeMap.neededBy]
  refine Outcome.bind_congr fun resolved hresolved => ?_
  have hclosure := TypeMap.closure_eq_ok_iff.mp hresolved
  have hmodel : Script.modelFile helper other controller resolved =
      Script.modelFile helper selection controller resolved := by
    rw [Script.modelFile, Script.modelFile, Script.declarations_eq h hclosure, hkey]
  have hapi : (Script.apiFile helper other controller resolved).outcome =
      (Script.apiFile helper selection controller resolved).outcome := by
    rw [Script.apiFile, Script.apiFile, Traced.outcome_bind, Traced.outcome_bind, Script.outcome_apiSource_eq h, hkey]
  rw [hmodel, hapi]

/-! ### Two schemas -/

/-- All controllers of the module other than this one have files. -/
def Selection.OthersMade (selection : Selection) (helper : Script.Helper) (root : FilePath)
    (controller : Controller) : Prop :=
  ∀ rival ∈ selection.module.controllers.entries.map Prod.snd, rival ≠ controller →
    ∃ files, (controllerFiles helper root selection rival).outcome = .ok files

/-- What becomes of the texts of a controller when its module is generated below some root. -/
structure Selection.Delivers (selection : Selection) (helper : Script.Helper) (root : FilePath)
    (controller : Controller) (texts : Except Failure Rendering) : Prop where
  reported : ∀ failure, texts = .error failure → (generate helper root selection).outcome = .error failure
  staged : ∀ rendered paths, texts = .ok rendered →
    outputPaths root selection.module.serviceName controller.groupName Script.extension = .ok paths →
    ∃ output, (generate helper root selection).outcome = .ok output ∧ (selection.Alone controller →
      output.get? paths.model = some ⟨paths.model, rendered.model, .model, controller.name⟩ ∧
      output.get? paths.api = some ⟨paths.api, rendered.api, .api, controller.name⟩)

theorem delivers (hcontroller : controller ∈ selection.module.controllers.entries.map Prod.snd)
    (hothers : selection.OthersMade helper root controller) :
    selection.Delivers helper root controller (rendering helper selection controller) := by
  have hfailures : ∀ rival ∈ selection.module.controllers.entries.map Prod.snd, ∀ failure,
      failure? (controllerFiles helper root selection rival).outcome = some failure → rival = controller := by
    intro rival hrival failure hfailure
    by_contra hne
    obtain ⟨files, hfiles⟩ := hothers rival hrival hne
    rw [hfiles] at hfailure
    cases hfailure
  constructor
  · intro failure hfailure
    have hfails : (controllerFiles helper root selection controller).outcome = .error failure := by
      rw [outcome_controllerFiles, hfailure]
      rfl
    rw [← Outcome.failure?_eq_some_iff, failure?_generate]
    refine Outcome.findSome?_eq_of_forall ?_ ⟨controller, hcontroller, Outcome.failure?_eq_some_iff.mpr hfails⟩
    intro rival hrival found hfound
    cases hfailures rival hrival found hfound
    cases hfails.symm.trans (Outcome.failure?_eq_some_iff.mp hfound)
    rfl
  · intro rendered paths hrendered hpaths
    have hfiles : (controllerFiles helper root selection controller).outcome =
        .ok ⟨paths, rendered.model, rendered.api⟩ := by
      rw [outcome_controllerFiles, hrendered, Outcome.ok_bind, hpaths]
      rfl
    have hsilent : failure? (generate helper root selection).outcome = none := by
      rw [failure?_generate, List.findSome?_eq_none_iff]
      intro rival hrival
      cases hfailure : failure? (controllerFiles helper root selection rival).outcome with
      | none => rfl
      | some failure =>
          cases hfailures rival hrival failure hfailure
          rw [hfiles] at hfailure
          cases hfailure
    obtain ⟨output, houtput⟩ := Outcome.failure?_eq_none_iff.mp hsilent
    have hplaces := get?_of_generate houtput hcontroller hfiles
    exact ⟨output, houtput, hplaces⟩

theorem types_of_select {schema : Schema} {requested : String} (h : schema.select requested = .ok selection) :
    selection.types = schema.types := by
  rw [Schema.select] at h
  cases hfound : schema.findModule? requested with
  | none =>
      rw [hfound] at h
      cases h
  | some entry =>
      rw [hfound] at h
      cases h
      rfl

/-- Schemas that have a controller in modules of one key, and that agree on the types that its actions lead to, give
the same texts for it, or the same report, whatever else they hold. Generation delivers them below any root, if it
gets past the other controllers of the module. -/
theorem rendering_depends_on_reached_types (helper : Script.Helper) {schema otherSchema : Schema}
    {requested otherRequested : String} (hselection : schema.select requested = .ok selection)
    (hother : otherSchema.select otherRequested = .ok other) (hkey : other.key = selection.key)
    (hcontroller : controller ∈ selection.module.controllers.entries.map Prod.snd)
    (hsame : controller ∈ other.module.controllers.entries.map Prod.snd)
    (hagree : schema.types.AgreesFrom otherSchema.types controller.typeIds) :
    rendering helper other controller = rendering helper selection controller ∧
      (∀ root, selection.OthersMade helper root controller →
        selection.Delivers helper root controller (rendering helper selection controller)) ∧
      ∀ root, other.OthersMade helper root controller →
        other.Delivers helper root controller (rendering helper selection controller) := by
  rw [← types_of_select hselection, ← types_of_select hother] at hagree
  have hrendering : rendering helper other controller = rendering helper selection controller :=
    rendering_eq hkey hagree
  refine ⟨hrendering, fun root => delivers hcontroller, fun root hothers => ?_⟩
  rw [← hrendering]
  exact delivers hsame hothers

def twinSchema : Schema where
  modules := ⟨[("shop", Script.twinSelection.module)], List.nodup_singleton _⟩
  types := Script.twinTypes

/-- The same controller behind another module and another controller, with the types in another order. -/
def storeSchema : Schema where
  modules := ⟨[("depot", ⟨"Depot", .empty⟩),
    ("shop", ⟨"Store", ⟨[("silent", silentController "Silent"), ("items", Script.twinController)], by decide⟩⟩)],
    by decide⟩
  types := ⟨[("Items", .array "App.Item"), ("Unused", .reference "Missing"),
    ("Other.Item", .enumeration "Item" [⟨"Open", .integer 0⟩]),
    ("App.Item", .structured "Item" [⟨"state", "Other.Item", false⟩])], by decide⟩

theorem agreesFrom_storeSchema :
    twinSchema.types.AgreesFrom storeSchema.types Script.twinController.typeIds := by
  have hclosure : Script.twinTypes.IsClosure Script.twinController.typeIds
      (Script.twinMet.mergeSort TypeMap.idBefore) :=
    TypeMap.closure_eq_ok_iff.mp (congrArg (Except.map _) Script.gather_twinTypes)
  have hall : ∀ found ∈ Script.twinMet, storeSchema.types.get? found.id = twinSchema.types.get? found.id := by
    decide
  intro id hid
  obtain ⟨found, hfound, rfl⟩ := List.mem_map.mp ((hclosure.mem_ids_iff id).mpr hid)
  exact hall found (List.mem_mergeSort.mp hfound)

theorem twin_rendering_in_storeSchema : ∃ selection,
    twinSchema.select "Shop" = .ok Script.twinSelection ∧ storeSchema.select "shop" = .ok selection ∧
      rendering {} selection Script.twinController = rendering {} Script.twinSelection Script.twinController ∧
      Script.twinSelection.Delivers {} ⟨"out"⟩ Script.twinController
        (rendering {} Script.twinSelection Script.twinController) := by
  have hselection : twinSchema.select "Shop" = .ok Script.twinSelection := rfl
  have hother : storeSchema.select "shop" = .ok ⟨"shop", _, storeSchema.types⟩ := rfl
  have hothers : Script.twinSelection.OthersMade {} ⟨"out"⟩ Script.twinController := by
    intro rival hrival hne
    exact absurd (List.mem_singleton.mp hrival) hne
  obtain ⟨hrendering, hdelivers, -⟩ := rendering_depends_on_reached_types {} hselection hother rfl
    (List.mem_singleton.mpr rfl) (by decide) agreesFrom_storeSchema
  refine ⟨_, hselection, hother, hrendering, ?_⟩
  exact hdelivers ⟨"out"⟩ hothers

end ApiProxy
