import ApiProxy.Proofs.Generation.Files
import ApiProxy.Proofs.OutputPaths
import ApiProxy.Proofs.Staging.History

/-! Where the files of a controller end up. A place of the output holds the file that was staged for it last, and
only controllers of one directory have files for the same places. -/

namespace ApiProxy

variable {helper : Script.Helper} {root : FilePath} {selection : Selection} {controller : Controller}

/-- The file that a controller has for a place. -/
def ControllerFiles.at? (files : ControllerFiles) (controller : Controller) (path : FilePath) : Option OutputFile :=
  if files.paths.api.same path then some (files.apiFile controller)
  else if files.paths.model.same path then some (files.modelFile controller)
  else none

theorem StagedOutput.get?_stageController (output : StagedOutput) (controller : Controller) (files : ControllerFiles)
    (path : FilePath) :
    (output.stageController controller files).get? path = (files.at? controller path).or (output.get? path) := by
  rw [stageController, get?_stage, get?_stage, ControllerFiles.at?]
  show (if files.paths.api.same path then _ else if files.paths.model.same path then _ else _) = _
  split_ifs <;> rfl

theorem StagedOutput.get?_foldl (made : List (Controller × ControllerFiles)) (output : StagedOutput)
    (path : FilePath) :
    (made.foldl (fun output made => output.stageController made.1 made.2) output).get? path =
      (made.reverse.findSome? fun made => made.2.at? made.1 path).or (output.get? path) := by
  induction made generalizing output with
  | nil => rfl
  | cons pair made ih =>
      rw [List.foldl_cons, ih, get?_stageController, List.reverse_cons, List.findSome?_append, Option.or_assoc,
        List.findSome?_singleton]

theorem StagedOutput.get?_foldl_sole {made : List (Controller × ControllerFiles)}
    {sole : Controller × ControllerFiles} (hmem : sole ∈ made) {output : StagedOutput} {path : FilePath}
    {file : OutputFile} (hfile : sole.2.at? sole.1 path = some file)
    (hsole : ∀ pair ∈ made, pair.2.at? pair.1 path ≠ none → pair = sole) :
    (made.foldl (fun output made => output.stageController made.1 made.2) output).get? path = some file := by
  rw [get?_foldl, Outcome.findSome?_eq_of_forall]
  · rfl
  · intro pair hpair found hfound
    cases hsole pair (List.mem_reverse.mp hpair) (hfound ▸ Option.some_ne_none found)
    exact Option.some.inj (hfound.symm.trans hfile)
  · exact ⟨sole, List.mem_reverse.mpr hmem, hfile⟩

theorem paths_of_controllerFiles {files : ControllerFiles}
    (h : (controllerFiles helper root selection controller).outcome = .ok files) :
    outputPaths root selection.module.serviceName controller.groupName Script.extension = .ok files.paths := by
  obtain ⟨_, _, _, hmade⟩ := controllerFiles_eq_ok_iff.mp h
  exact hmade.paths

/-- The two files of a controller go to two places, and another one has a file for them only if it has the same
directory. -/
theorem at?_paths {files : ControllerFiles}
    (h : (controllerFiles helper root selection controller).outcome = .ok files) {rival : Controller}
    {rivalFiles : ControllerFiles}
    (hrival : (controllerFiles helper root selection rival).outcome = .ok rivalFiles) :
    rivalFiles.at? rival files.paths.model =
      (if kebabCase rival.groupName = kebabCase controller.groupName then some (rivalFiles.modelFile rival)
      else none) ∧
    rivalFiles.at? rival files.paths.api =
      (if kebabCase rival.groupName = kebabCase controller.groupName then some (rivalFiles.apiFile rival)
      else none) := by
  have hpaths := paths_of_controllerFiles h
  have hrivalPaths := paths_of_controllerFiles hrival
  have htfae := outputPaths_tfae hrivalPaths hpaths
  have hapi : rivalFiles.paths.api.same files.paths.api = true ↔
      kebabCase rival.groupName = kebabCase controller.groupName := (htfae.out 0 4).trans (and_iff_right rfl)
  have hmodel : rivalFiles.paths.model.same files.paths.model = true ↔
      kebabCase rival.groupName = kebabCase controller.groupName := (htfae.out 1 4).trans (and_iff_right rfl)
  have hcrossed := FilePath.same_eq_false (outputPaths_api_ne_model hrivalPaths hpaths)
  have hcrossed' := FilePath.same_eq_false (outputPaths_api_ne_model hpaths hrivalPaths).symm
  rw [ControllerFiles.at?, ControllerFiles.at?, hcrossed, hcrossed']
  simp [hapi, hmodel]

/-- No other controller of the module has the same directory. -/
def Selection.Alone (selection : Selection) (controller : Controller) : Prop :=
  ∀ rival ∈ selection.module.controllers.entries.map Prod.snd,
    kebabCase rival.groupName = kebabCase controller.groupName → rival = controller

/-- The files of a controller are where its paths say, unless another controller has the same directory. -/
theorem get?_of_generate {output : StagedOutput} {files : ControllerFiles}
    (h : (generate helper root selection).outcome = .ok output)
    (hcontroller : controller ∈ selection.module.controllers.entries.map Prod.snd)
    (hfiles : (controllerFiles helper root selection controller).outcome = .ok files)
    (halone : selection.Alone controller) :
    output.get? files.paths.model = some (files.modelFile controller) ∧
      output.get? files.paths.api = some (files.apiFile controller) := by
  obtain ⟨all, hmade, rfl⟩ := generateFrom_eq_ok_iff.mp h
  have hpair : (controller, files) ∈ (selection.module.controllers.entries.map Prod.snd).zip all := by
    rw [← List.map_fst_zip (le_of_eq hmade.length_eq), List.mem_map] at hcontroller
    obtain ⟨⟨controller, others⟩, hmem, rfl⟩ := hcontroller
    cases hfiles.symm.trans ((List.forall₂_iff_zip.mp hmade).2 hmem)
    exact hmem
  have hsole : ∀ pair ∈ (selection.module.controllers.entries.map Prod.snd).zip all,
      kebabCase pair.1.groupName = kebabCase controller.groupName → pair = (controller, files) := by
    rintro ⟨rival, others⟩ hmem hgroup
    cases halone rival (List.of_mem_zip hmem).1 hgroup
    cases hfiles.symm.trans ((List.forall₂_iff_zip.mp hmade).2 hmem)
    rfl
  have hat : ∀ pair ∈ (selection.module.controllers.entries.map Prod.snd).zip all, _ := fun pair hmem =>
    at?_paths hfiles ((List.forall₂_iff_zip.mp hmade).2 hmem)
  constructor
  · refine StagedOutput.get?_foldl_sole hpair ((hat _ hpair).1.trans (if_pos rfl)) fun pair hmem hfound => ?_
    rw [(hat pair hmem).1, ne_eq, ite_eq_right_iff, Classical.not_imp] at hfound
    exact hsole pair hmem hfound.1
  · refine StagedOutput.get?_foldl_sole hpair ((hat _ hpair).2.trans (if_pos rfl)) fun pair hmem hfound => ?_
    rw [(hat pair hmem).2, ne_eq, ite_eq_right_iff, Classical.not_imp] at hfound
    exact hsole pair hmem hfound.1

end ApiProxy
