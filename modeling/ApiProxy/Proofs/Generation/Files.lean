import ApiProxy.Proofs.Generation.Success

/-! The files of a module, said without the steps that make them: what the two files of a controller hold, and how
the files of one controller after the other are staged. -/

namespace ApiProxy

variable {helper : Script.Helper} {root : FilePath} {selection : Selection} {controller : Controller}

/-- What the files of a controller are made of. -/
structure ControllerFiles.Made (helper : Script.Helper) (root : FilePath) (selection : Selection)
    (controller : Controller) (files : ControllerFiles) (resolved : List ResolvedType)
    (found : List Script.Declaration) (source : Script.ApiSource) : Prop where
  needed : selection.types.neededBy controller = .ok resolved
  declared : Script.declarations selection.types (Script.fileTypeNames helper resolved) resolved = .ok found
  written : (Script.apiSource selection.types (Script.fileTypeNames helper resolved) helper controller).outcome =
    .ok source
  paths : outputPaths root selection.module.serviceName controller.groupName Script.extension = .ok files.paths
  model : files.model = Script.banner selection.key controller.name ++ "\n" ++ Script.declarationsText found
  api : files.api = Script.banner selection.key controller.name ++ "\n" ++ source.text

theorem controllerFiles_eq_ok_iff {files : ControllerFiles} :
    (controllerFiles helper root selection controller).outcome = .ok files ↔
      ∃ resolved found source, files.Made helper root selection controller resolved found source := by
  simp only [controllerFiles, Script.apiFile, Script.modelFile, Traced.outcome_bind, Traced.outcome_ofExcept,
    Traced.outcome_pure, Outcome.bind_eq_ok_iff, Outcome.map_eq_ok_iff]
  constructor
  · rintro ⟨resolved, hresolved, _, ⟨found, hfound, rfl⟩, _, ⟨source, hsource, htext⟩, paths, hpaths, hfiles⟩
    cases htext
    cases hfiles
    exact ⟨resolved, found, source, hresolved, hfound, hsource, hpaths, rfl, rfl⟩
  · obtain ⟨paths, model, api⟩ := files
    rintro ⟨resolved, found, source, hresolved, hfound, hsource, hpaths, rfl, rfl⟩
    exact ⟨resolved, hresolved, _, ⟨found, hfound, rfl⟩, _, ⟨source, hsource, rfl⟩, paths, hpaths, rfl⟩

def ControllerFiles.modelFile (files : ControllerFiles) (controller : Controller) : OutputFile :=
  ⟨files.paths.model, files.model, .model, controller.name⟩

def ControllerFiles.apiFile (files : ControllerFiles) (controller : Controller) : OutputFile :=
  ⟨files.paths.api, files.api, .api, controller.name⟩

/-- Stages the two files of a controller. -/
def StagedOutput.stageController (output : StagedOutput) (controller : Controller) (files : ControllerFiles) :
    StagedOutput :=
  ((output.stage (files.modelFile controller)).1.stage (files.apiFile controller)).1

theorem outcome_generateController (output : StagedOutput) :
    (generateController helper root selection output controller).outcome =
      (controllerFiles helper root selection controller).outcome.map (output.stageController controller) := by
  rw [generateController, Traced.outcome_bind, Traced.outcome_report]
  show (controllerFiles helper root selection controller >>= _).outcome = _
  rw [Traced.outcome_bind]
  cases (controllerFiles helper root selection controller).outcome with
  | error failure => rfl
  | ok files =>
      show (stageFile _ _ >>= _).outcome = _
      rw [Traced.outcome_bind, outcome_stageFile]
      exact outcome_stageFile _ _

/-- The controllers one after the other, each adding its files to those of the earlier ones. -/
theorem generateFrom_eq_ok_iff {output staged : StagedOutput} {controllers : List Controller} :
    (generateFrom helper root selection output controllers).outcome = .ok staged ↔
      ∃ files, List.Forall₂ (fun controller files =>
          (controllerFiles helper root selection controller).outcome = .ok files) controllers files ∧
        (controllers.zip files).foldl (fun output made => output.stageController made.1 made.2) output = staged := by
  induction controllers generalizing output with
  | nil => simp [generateFrom, Traced.outcome_pure]
  | cons controller controllers ih =>
      rw [generateFrom, Traced.outcome_bind, outcome_generateController, Outcome.bind_eq_ok_iff]
      constructor
      · rintro ⟨next, hnext, hrest⟩
        obtain ⟨files, hfiles, rfl⟩ := Outcome.map_eq_ok_iff.mp hnext
        obtain ⟨others, hothers, hstaged⟩ := ih.mp hrest
        exact ⟨files :: others, .cons hfiles hothers, hstaged⟩
      · rintro ⟨_, hmade, hstaged⟩
        obtain ⟨files, others, hfiles, hothers, rfl⟩ := List.forall₂_cons_left_iff.mp hmade
        exact ⟨_, Outcome.map_eq_ok_iff.mpr ⟨files, hfiles, rfl⟩, ih.mpr ⟨others, hothers, hstaged⟩⟩

/-! ### Where a file comes from -/

theorem mem_files_stage {output : StagedOutput} {staged file : OutputFile}
    (h : file ∈ (output.stage staged).1.files) : file = staged ∨ file ∈ output.files := by
  obtain ⟨entries⟩ := output
  simp only [StagedOutput.stage, StagedOutput.files] at h ⊢
  induction entries with
  | nil => simpa [StagedOutput.putFile] using h
  | cons entry entries ih =>
      rw [StagedOutput.putFile] at h
      split at h
      · exact (List.mem_cons.mp h).imp_right (List.mem_cons_of_mem _)
      · rcases List.mem_cons.mp h with rfl | hlater
        · exact Or.inr List.mem_cons_self
        · exact (ih hlater).imp_right (List.mem_cons_of_mem _)

theorem mem_files_foldl {output : StagedOutput} {made : List (Controller × ControllerFiles)} {file : OutputFile}
    (h : file ∈ (made.foldl (fun output made => output.stageController made.1 made.2) output).files) :
    file ∈ output.files ∨ ∃ pair ∈ made, file = pair.2.modelFile pair.1 ∨ file = pair.2.apiFile pair.1 := by
  induction made generalizing output with
  | nil => exact Or.inl h
  | cons pair made ih =>
      rcases ih h with hbefore | ⟨later, hlater, hfile⟩
      · rcases mem_files_stage hbefore with hapi | hbefore
        · exact Or.inr ⟨pair, List.mem_cons_self, Or.inr hapi⟩
        · exact (mem_files_stage hbefore).symm.imp_right fun hmodel => ⟨pair, List.mem_cons_self, Or.inl hmodel⟩
      · exact Or.inr ⟨later, List.mem_cons_of_mem _ hlater, hfile⟩

/-- Every file that is generated is one of the two files of some controller of the module. -/
theorem mem_files_of_generate {output : StagedOutput} {file : OutputFile}
    (h : (generate helper root selection).outcome = .ok output) (hfile : file ∈ output.files) :
    ∃ controller ∈ selection.module.controllers.entries.map Prod.snd, ∃ files,
      (controllerFiles helper root selection controller).outcome = .ok files ∧
        (file = files.modelFile controller ∨ file = files.apiFile controller) := by
  obtain ⟨files, hmade, rfl⟩ := generateFrom_eq_ok_iff.mp h
  rcases mem_files_foldl hfile with hempty | ⟨⟨controller, files⟩, hpair, hfile⟩
  · cases hempty
  · obtain ⟨hcontroller, _⟩ := List.of_mem_zip hpair
    exact ⟨controller, hcontroller, files, (List.forall₂_iff_zip.mp hmade).2 hpair, hfile⟩

/-! ### A controller that asks for nothing -/

def silentController (name : String) : Controller := ⟨name, "user", []⟩

def silentSelection (key name : String) : Selection where
  key
  module := ⟨"App", ⟨[("User", silentController name)], List.nodup_singleton _⟩⟩
  types := ⟨[], List.nodup_nil⟩

def silentPaths : OutputPaths := ⟨⟨"out/app/user/model/index.ts"⟩, ⟨"out/app/user/index.ts"⟩⟩

def silentFiles (helper : Script.Helper) (key name : String) : ControllerFiles where
  paths := silentPaths
  model := Script.banner key name ++ "\n" ++ Script.declarationsText []
  api := Script.banner key name ++ "\n" ++ Script.ApiSource.text ⟨helper, []⟩

/-- The output for a module with one controller that has no actions. -/
def silentOutput (helper : Script.Helper) (key name : String) : StagedOutput :=
  StagedOutput.empty.stageController (silentController name) (silentFiles helper key name)

theorem files_silentOutput (helper : Script.Helper) (key name : String) :
    (silentOutput helper key name).files = [(silentFiles helper key name).modelFile (silentController name),
      (silentFiles helper key name).apiFile (silentController name)] := by
  have hdiffer : silentPaths.model.same silentPaths.api = false := by decide +kernel
  simp [silentOutput, StagedOutput.stageController, StagedOutput.stage, StagedOutput.empty, StagedOutput.putFile,
    StagedOutput.files, ControllerFiles.modelFile, ControllerFiles.apiFile, silentFiles, hdiffer]

theorem generate_silentSelection (helper : Script.Helper) (key name : String) :
    (generate helper ⟨"out"⟩ (silentSelection key name)).outcome = .ok (silentOutput helper key name) := by
  have hneeded : (silentSelection key name).types.neededBy (silentController name) = .ok [] := by
    show (TypeMap.gather _ [] []).map _ = _
    rw [TypeMap.gather]
    exact congrArg Except.ok List.mergeSort_nil
  have hpaths : outputPaths ⟨"out"⟩ "App" "user" Script.extension = .ok silentPaths := by decide +kernel
  have hmade : (silentFiles helper key name).Made helper ⟨"out"⟩ (silentSelection key name) (silentController name)
      [] [] ⟨helper, []⟩ := ⟨hneeded, rfl, rfl, hpaths, rfl, rfl⟩
  exact generateFrom_eq_ok_iff.mpr
    ⟨[silentFiles helper key name], .cons (controllerFiles_eq_ok_iff.mpr ⟨_, _, _, hmade⟩) .nil, rfl⟩

end ApiProxy
