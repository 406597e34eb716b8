import ApiProxy.Proofs.Binding.Positions
import ApiProxy.Proofs.Generation.Files
import ApiProxy.Proofs.Text.Lines

/-! The names in a banner. A module key and the name of a controller stand in a line comment just as they are, so
they stay in it as long as they hold no line terminator. What follows the banner is made without them: two runs
that differ in these names alone make files that differ in their banners alone. -/

namespace ApiProxy

variable {helper : Script.Helper} {root : FilePath} {first second : Selection} {controller renamed : Controller}

/-- What follows the third line of a text. -/
def fromFourthLine (text : String) : List Char := afterLine (afterLine (afterLine text.toList))

/-- Names that stay on the third line of a banner. -/
structure Script.FitsBanner (key name : String) : Prop where
  key : Unbroken key.toList
  name : IsLine name.toList

structure Controller.SameButName (controller renamed : Controller) : Prop where
  group : renamed.groupName = controller.groupName
  actions : renamed.actions = controller.actions

/-- The same module under another key, and with other names for its controllers. -/
structure Selection.SameButNames (first second : Selection) : Prop where
  types : second.types = first.types
  service : second.module.serviceName = first.module.serviceName
  controllers : List.Forall₂ Controller.SameButName (first.module.controllers.entries.map Prod.snd)
    (second.module.controllers.entries.map Prod.snd)

/-- Files of two selections at the same place that share all that follows their banners. -/
structure OutputFile.SameButBanner (first second : Selection) (file other : OutputFile) : Prop where
  path : other.path = file.path
  kind : other.kind = file.kind
  content : ∃ body, file.content = Script.banner first.key file.controller ++ "\n" ++ body ∧
    other.content = Script.banner second.key other.controller ++ "\n" ++ body

/-! ### The lines of a banner -/

namespace Script

def eslintLine : String := "/* eslint-disable */"

def warningLine : String := "// This file was generated by proxygen. Do not edit it by hand."

def namesLine (key name : String) : String := "// Module: " ++ key ++ ", controller: " ++ name

theorem banner_eq (key name : String) :
    banner key name = eslintLine ++ "\n" ++ (warningLine ++ "\n" ++ (namesLine key name ++ "\n")) := by
  have heslint : eslintLine ++ "\n" = "/* eslint-disable */\n" := by decide
  have hwarning : warningLine ++ "\n" = "// This file was generated by proxygen. Do not edit it by hand.\n" := by
    decide
  unfold banner namesLine
  rw [heslint, hwarning]
  simp only [String.append_assoc, -String.reduceAppend]

theorem unbroken_eslintLine : Unbroken eslintLine.toList := by
  decide

theorem unbroken_warningLine : Unbroken warningLine.toList := by
  decide

theorem isLine_namesLine {key name : String} : IsLine (namesLine key name).toList ↔ FitsBanner key name := by
  have hmodule : Unbroken "// Module: ".toList := by decide
  have hcontroller : Unbroken ", controller: ".toList := by decide
  simp only [namesLine, String.toList_append]
  rw [isLine_append, unbroken_append, unbroken_append]
  · exact ⟨fun ⟨⟨⟨_, hkey⟩, _⟩, hname⟩ => ⟨hkey, hname⟩,
      fun ⟨hkey, hname⟩ => ⟨⟨⟨hmodule, hkey⟩, hcontroller⟩, hname⟩⟩
  · rw [List.getLast?_append, Option.or_of_isSome (by decide)]
    decide

/-- A banner ends three lines exactly if its names fit into the third of them. -/
theorem lineCount_banner {key name : String} : lineCount (banner key name).toList = 3 ↔ FitsBanner key name := by
  have hlines : (banner key name).toList = eslintLine.toList ++ '\n' :: (warningLine.toList ++ '\n' ::
      ((namesLine key name).toList ++ ['\n'])) := by
    simp [banner_eq]
  rw [hlines, lineCount_line unbroken_eslintLine, lineCount_line unbroken_warningLine, ← isLine_namesLine,
    ← lineCount_append_lineFeed]
  omega

theorem fromFourthLine_banner {key name : String} (h : FitsBanner key name) (rest : String) :
    fromFourthLine (banner key name ++ rest) = rest.toList := by
  have hlines : (banner key name ++ rest).toList = eslintLine.toList ++ '\n' :: (warningLine.toList ++
      '\n' :: ((namesLine key name).toList ++ '\n' :: rest.toList)) := by
    simp [banner_eq]
  rw [fromFourthLine, hlines, afterLine_line (Or.inl unbroken_eslintLine),
    afterLine_line (Or.inl unbroken_warningLine), afterLine_line (isLine_namesLine.mpr h)]

end Script

theorem OutputFile.SameButBanner.fromFourthLine_eq {file other : OutputFile}
    (h : file.SameButBanner first second other) (hfile : Script.FitsBanner first.key file.controller)
    (hother : Script.FitsBanner second.key other.controller) :
    fromFourthLine other.content = fromFourthLine file.content := by
  obtain ⟨body, hcontent, hcontent'⟩ := h.content
  rw [hcontent, hcontent', String.append_assoc, String.append_assoc, Script.fromFourthLine_banner hfile,
    Script.fromFourthLine_banner hother]

/-! ### Two runs -/

namespace Controller.SameButName

theorem outcome_bind (h : controller.SameButName renamed) {bindings : List Binding}
    (hbind : controller.bind.outcome = .ok bindings) : renamed.bind.outcome = .ok bindings := by
  rw [Controller.outcome_bind, Outcome.mapM_eq_ok_iff] at hbind ⊢
  rw [h.actions]
  exact hbind.imp fun _ _ hbound => bind_rename hbound renamed.name

theorem outcome_apiSource (h : controller.SameButName renamed) {types : TypeMap} {names : Script.TypeNames}
    {source : Script.ApiSource} (hsource : (Script.apiSource types names helper controller).outcome = .ok source) :
    (Script.apiSource types names helper renamed).outcome = .ok source := by
  rw [Script.apiSource, Traced.outcome_bind] at hsource ⊢
  obtain ⟨bindings, hbindings, hrest⟩ := Outcome.bind_eq_ok_iff.mp hsource
  rw [← h.actions] at hrest
  exact Outcome.bind_eq_ok_iff.mpr ⟨bindings, h.outcome_bind hbindings, hrest⟩

end Controller.SameButName

/-- The files of a controller, and of the same controller under another name. -/
structure ControllerFiles.SameButBanner (first second : Selection) (controller renamed : Controller)
    (files others : ControllerFiles) : Prop where
  paths : others.paths = files.paths
  model : ∃ body, files.model = Script.banner first.key controller.name ++ "\n" ++ body ∧
    others.model = Script.banner second.key renamed.name ++ "\n" ++ body
  api : ∃ body, files.api = Script.banner first.key controller.name ++ "\n" ++ body ∧
    others.api = Script.banner second.key renamed.name ++ "\n" ++ body

theorem Selection.SameButNames.controllerFiles (hsame : first.SameButNames second)
    (h : controller.SameButName renamed) {files : ControllerFiles}
    (hfiles : (ApiProxy.controllerFiles helper root first controller).outcome = .ok files) :
    ∃ others, (ApiProxy.controllerFiles helper root second renamed).outcome = .ok others ∧
      files.SameButBanner first second controller renamed others := by
  obtain ⟨resolved, found, source, hmade⟩ := controllerFiles_eq_ok_iff.mp hfiles
  let others : ControllerFiles :=
    ⟨files.paths, Script.banner second.key renamed.name ++ "\n" ++ Script.declarationsText found,
      Script.banner second.key renamed.name ++ "\n" ++ source.text⟩
  refine ⟨others, controllerFiles_eq_ok_iff.mpr ⟨resolved, found, source, ?_⟩, rfl, ⟨_, hmade.model, rfl⟩,
    ⟨_, hmade.api, rfl⟩⟩
  constructor
  · have hids : renamed.typeIds = controller.typeIds := congrArg (List.flatMap Action.typeIds) h.actions
    rw [TypeMap.neededBy, hids, hsame.types]
    exact hmade.needed
  · rw [hsame.types]
    exact hmade.declared
  · rw [hsame.types]
    exact h.outcome_apiSource hmade.written
  · rw [hsame.service, h.group]
    exact hmade.paths
  · rfl
  · rfl

/-- Entries of two outputs for the same place. -/
structure SameEntry (first second : Selection) (entry other : FilePath × OutputFile) : Prop where
  place : other.1 = entry.1
  file : entry.2.SameButBanner first second other.2

theorem forall₂_putFile {file other : OutputFile} (hfile : file.SameButBanner first second other)
    {entries others : List (FilePath × OutputFile)} (h : List.Forall₂ (SameEntry first second) entries others) :
    List.Forall₂ (SameEntry first second) (StagedOutput.putFile file entries)
      (StagedOutput.putFile other others) := by
  induction h with
  | nil => exact .cons ⟨hfile.path, hfile⟩ .nil
  | @cons entry renamed entries others hentry hrest ih =>
      simp only [StagedOutput.putFile, hentry.place, hfile.path]
      split
      · exact .cons ⟨rfl, hfile⟩ hrest
      · exact .cons ⟨rfl, hentry.file⟩ ih

theorem forall₂_stageController {files others : ControllerFiles}
    (h : files.SameButBanner first second controller renamed others) {output staged : StagedOutput}
    (houtput : List.Forall₂ (SameEntry first second) output.entries staged.entries) :
    List.Forall₂ (SameEntry first second) (output.stageController controller files).entries
      (staged.stageController renamed others).entries := by
  have hmodel : (files.modelFile controller).SameButBanner first second (others.modelFile renamed) :=
    ⟨congrArg OutputPaths.model h.paths, rfl, h.model⟩
  have hapi : (files.apiFile controller).SameButBanner first second (others.apiFile renamed) :=
    ⟨congrArg OutputPaths.api h.paths, rfl, h.api⟩
  exact forall₂_putFile hapi (forall₂_putFile hmodel houtput)

theorem Selection.SameButNames.generateFrom (hsame : first.SameButNames second)
    {controllers renamings : List Controller}
    (h : List.Forall₂ Controller.SameButName controllers renamings) {output staged start : StagedOutput}
    (hstart : List.Forall₂ (SameEntry first second) output.entries start.entries)
    (hstaged : (ApiProxy.generateFrom helper root first output controllers).outcome = .ok staged) :
    ∃ other, (ApiProxy.generateFrom helper root second start renamings).outcome = .ok other ∧
      List.Forall₂ (SameEntry first second) staged.entries other.entries := by
  induction h generalizing output start with
  | nil =>
      cases hstaged
      exact ⟨start, rfl, hstart⟩
  | @cons controller renamed controllers renamings hname hrest ih =>
      rw [ApiProxy.generateFrom, Traced.outcome_bind, outcome_generateController] at hstaged
      obtain ⟨next, hnext, hstaged⟩ := Outcome.bind_eq_ok_iff.mp hstaged
      obtain ⟨files, hfiles, rfl⟩ := Outcome.map_eq_ok_iff.mp hnext
      obtain ⟨others, hothers, hsimilar⟩ := hsame.controllerFiles hname hfiles
      obtain ⟨other, hother, hentries⟩ := ih (forall₂_stageController hsimilar hstart) hstaged
      refine ⟨other, ?_, hentries⟩
      rw [ApiProxy.generateFrom, Traced.outcome_bind, outcome_generateController, hothers]
      exact hother

/-- If a module is generated, so it is under another key and with other names for its controllers. The files stand
at the same places and differ in their banners alone; their texts agree from the fourth line on where the names fit
into the third line of a banner, and a banner has three lines only then. -/
theorem names_stay_in_banner {output : StagedOutput} (hsame : first.SameButNames second)
    (h : (generate helper root first).outcome = .ok output) :
    (∀ key name, lineCount (Script.banner key name).toList = 3 ↔ Script.FitsBanner key name) ∧
      ∃ other, (generate helper root second).outcome = .ok other ∧ other.paths = output.paths ∧
        List.Forall₂ (fun file renamed => file.SameButBanner first second renamed ∧
          (Script.FitsBanner first.key file.controller → Script.FitsBanner second.key renamed.controller →
            fromFourthLine renamed.content = fromFourthLine file.content)) output.files other.files := by
  refine ⟨fun key name => Script.lineCount_banner, ?_⟩
  obtain ⟨other, hother, hentries⟩ := hsame.generateFrom hsame.controllers .nil h
  refine ⟨other, hother, ?_, ?_⟩
  · rw [StagedOutput.paths, StagedOutput.paths, eq_comm, ← List.forall₂_eq_eq_eq, List.forall₂_map_left_iff,
      List.forall₂_map_right_iff]
    exact hentries.imp fun _ _ hentry => hentry.place.symm
  · rw [StagedOutput.files, StagedOutput.files, List.forall₂_map_left_iff, List.forall₂_map_right_iff]
    exact hentries.imp fun _ _ hentry => ⟨hentry.file, hentry.file.fromFourthLine_eq⟩

theorem sameButNames_silentSelection (key name otherKey otherName : String) :
    (silentSelection key name).SameButNames (silentSelection otherKey otherName) :=
  ⟨rfl, rfl, .cons ⟨rfl, rfl⟩ .nil⟩

theorem silent_names_stay_in_banner :
    (silentSelection "app" "User").SameButNames (silentSelection "shop" "Cart") ∧
      (generate {} ⟨"out"⟩ (silentSelection "app" "User")).outcome = .ok (silentOutput {} "app" "User") ∧
      (generate {} ⟨"out"⟩ (silentSelection "shop" "Cart")).outcome = .ok (silentOutput {} "shop" "Cart") ∧
      List.Forall₂ (fun file renamed => fromFourthLine renamed.content = fromFourthLine file.content)
        (silentOutput {} "app" "User").files (silentOutput {} "shop" "Cart").files := by
  have hsame := sameButNames_silentSelection "app" "User" "shop" "Cart"
  have houtput := generate_silentSelection {} "app" "User"
  obtain ⟨_, other, hother, _, hfiles⟩ := names_stay_in_banner hsame houtput
  cases (generate_silentSelection {} "shop" "Cart").symm.trans hother
  have huser : Script.FitsBanner "app" "User" := ⟨by decide, Or.inl (by decide)⟩
  have hcart : Script.FitsBanner "shop" "Cart" := ⟨by decide, Or.inl (by decide)⟩
  rw [files_silentOutput, files_silentOutput] at hfiles ⊢
  simp only [List.forall₂_cons] at hfiles
  obtain ⟨⟨_, hmodel⟩, ⟨_, hapi⟩, _⟩ := hfiles
  exact ⟨hsame, houtput, hother, .cons (hmodel huser hcart) (.cons (hapi huser hcart) .nil)⟩

/-- A line feed in the name of a controller ends the comment that the name stands in. -/
theorem line_feed_leaves_banner :
    lineCount (Script.banner "app" "User\nalert(1)").toList = 4 ∧
      (silentSelection "app" "User").SameButNames (silentSelection "app" "User\nalert(1)") ∧ ∃ output other,
        (generate {} ⟨"out"⟩ (silentSelection "app" "User")).outcome = .ok output ∧
        (generate {} ⟨"out"⟩ (silentSelection "app" "User\nalert(1)")).outcome = .ok other ∧
        List.Forall₂ (fun file renamed =>
          fromFourthLine renamed.content = "alert(1)\n".toList ++ fromFourthLine file.content)
          output.files other.files := by
  have hcontent (rest : String) : fromFourthLine (Script.banner "app" "User\nalert(1)" ++ "\n" ++ rest) =
      "alert(1)\n".toList ++ fromFourthLine (Script.banner "app" "User" ++ "\n" ++ rest) := by
    have hbanner : Script.banner "app" "User\nalert(1)" = Script.banner "app" "User" ++ "alert(1)\n" := by
      decide +kernel
    have huser : Script.FitsBanner "app" "User" := ⟨by decide, Or.inl (by decide)⟩
    simp only [hbanner, String.append_assoc, Script.fromFourthLine_banner huser, String.toList_append]
  refine ⟨by decide +kernel, sameButNames_silentSelection _ _ _ _, _, _, generate_silentSelection {} "app" "User",
    generate_silentSelection {} "app" "User\nalert(1)", ?_⟩
  rw [files_silentOutput, files_silentOutput]
  exact .cons (hcontent _) (.cons (hcontent _) .nil)

end ApiProxy
