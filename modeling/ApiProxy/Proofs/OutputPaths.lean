import Mathlib.Data.List.TFAE
import Mathlib.Tactic.TFAE
import ApiProxy.Generation
import ApiProxy.Script.Files
import ApiProxy.Proofs.FilePath
import ApiProxy.Proofs.Generation.Success
import ApiProxy.Proofs.Names.KebabCase

/-! Where the files of a controller go, for all names. Each name becomes one directory, whatever it holds, so the
files stay below the output root; and the directories tell two controllers apart exactly if their names in kebab
case do. No file stands where another one needs a directory, and the model file is where the API file looks for
it. -/

namespace ApiProxy

/-- A text that names one directory, with hyphens between its words only. -/
structure IsSegment (text : String) : Prop extends FilePath.IsName text where
  no_backslash : '\\' ∉ text.toList
  no_nul : '\x00' ∉ text.toList
  no_hyphen_first : text.toList.head? ≠ some '-'
  no_hyphen_last : text.toList.getLast? ≠ some '-'
  no_double_hyphen : ¬['-', '-'] <:+: text.toList

theorem isSegment_kebabCase {name : String} (h : HasWord name) : IsSegment (kebabCase name) := by
  have hlist : (kebabCase name).toList = Words.kebab name.toList := String.toList_ofList
  have hne : (kebabCase name).toList ≠ [] := by
    rw [hlist, Ne, kebab_eq_nil_iff]
    simpa [HasWord] using h
  have hfree : ∀ mark ∈ pathMarks, mark ≠ '-' → mark ∉ (kebabCase name).toList := fun mark hmark hhyphen =>
    hlist ▸ Words.notMem_kebab hmark hhyphen
  have hdot : '.' ∉ (kebabCase name).toList := hfree '.' (by decide) (by decide)
  obtain ⟨hfirst, hlast, hdouble⟩ := Words.hyphens_between (Words.nil_notMem_pieces_kebab (hlist ▸ hne))
  rw [← hlist] at hfirst hlast hdouble
  exact {
    ne_empty := fun hempty => hne (by rw [hempty]; rfl)
    no_slash := hfree '/' (by decide) (by decide)
    ne_dot := fun heq => hdot (by rw [heq]; simp)
    ne_dots := fun heq => hdot (by rw [heq]; simp)
    no_backslash := hfree '\\' (by decide) (by decide)
    no_nul := hfree '\x00' (by decide) (by decide)
    no_hyphen_first := hfirst
    no_hyphen_last := hlast
    no_double_hyphen := hdouble }

/-! ### Planning -/

theorem pathSegment_of_hasWord {value : String} (h : HasWord value) (field : String) :
    pathSegment field value = .ok (kebabCase value) := by
  rw [pathSegment, if_neg]
  rw [kebabCase_isEmpty_iff]
  simpa [HasWord] using h

theorem pathSegment_of_not_hasWord {value : String} (h : ¬HasWord value) (field : String) :
    pathSegment field value = .error (.emptyPathSegment field value) := by
  rw [pathSegment, if_pos]
  rw [kebabCase_isEmpty_iff]
  simpa [HasWord] using h

/-- The files of a group in the directory of its service. -/
def OutputPaths.below (root : FilePath) (service group : String) : OutputPaths where
  model := (((root.join service).join group).join "model").join "index.ts"
  api := ((root.join service).join group).join "index.ts"

theorem outputPaths_eq_ok_iff {root : FilePath} {serviceName groupName : String} {paths : OutputPaths} :
    outputPaths root serviceName groupName Script.extension = .ok paths ↔
      HasWord serviceName ∧ HasWord groupName ∧
        paths = .below root (kebabCase serviceName) (kebabCase groupName) := by
  rw [outputPaths]
  by_cases hservice : HasWord serviceName
  · rw [pathSegment_of_hasWord hservice]
    by_cases hgroup : HasWord groupName
    · rw [pathSegment_of_hasWord hgroup]
      show Except.ok (OutputPaths.below root (kebabCase serviceName) (kebabCase groupName)) = _ ↔ _
      rw [Except.ok.injEq, eq_comm]
      exact ⟨fun h => ⟨hservice, hgroup, h⟩, fun h => h.2.2⟩
    · rw [pathSegment_of_not_hasWord hgroup]
      exact iff_of_false (by simp [bind, Except.bind]) fun h => hgroup h.2.1
  · rw [pathSegment_of_not_hasWord hservice]
    exact iff_of_false (by simp [bind, Except.bind]) fun h => hservice h.1

theorem isName_model : FilePath.IsName "model" := ⟨by decide, by simp, by decide, by decide⟩

theorem isName_index : FilePath.IsName "index.ts" := ⟨by decide, by simp, by decide, by decide⟩

/-- The specifier under which an API file imports the types of its model file. -/
def modelSpecifier : String := "./model"

/-- Where a specifier leads from a file: to the index file of the directory that it names, seen from the directory
of the file. -/
def FilePath.resolve? (file : FilePath) (specifier : String) : Option FilePath :=
  file.parent?.map fun directory => ⟨(directory.join specifier).text ++ "/index.ts"⟩

/-- A path that would have to be a directory for the other one to exist. -/
def FilePath.IsAbove (path other : FilePath) : Prop :=
  path.components <+: other.components ∧ path.components ≠ other.components

variable {root : FilePath} {service group otherService otherGroup : String}

namespace OutputPaths

theorem components_api (root : FilePath) (hservice : IsSegment service) (hgroup : IsSegment group) :
    (below root service group).api.components =
      root.components ++ [.name service, .name group, .name "index.ts"] := by
  rw [below, FilePath.components_join _ isName_index, FilePath.components_join _ hgroup.toIsName,
    FilePath.components_join _ hservice.toIsName]
  simp

theorem components_model (root : FilePath) (hservice : IsSegment service) (hgroup : IsSegment group) :
    (below root service group).model.components =
      root.components ++ [.name service, .name group, .name "model", .name "index.ts"] := by
  rw [below, FilePath.components_join _ isName_index, FilePath.components_join _ isName_model,
    FilePath.components_join _ hgroup.toIsName, FilePath.components_join _ hservice.toIsName]
  simp

/-- From the API file the specifier of its imports leads to the model file. -/
theorem resolve?_api (root : FilePath) (service : String) (hgroup : IsSegment group) :
    ∃ found, (below root service group).api.resolve? modelSpecifier = some found ∧
      found.same (below root service group).model = true := by
  have hends := FilePath.endsIn_join (root.join service) hgroup.toIsName
  have hparent := hends.parent?_join hgroup.toIsName isName_index
  have hrelative : FilePath.isAbsoluteText modelSpecifier.toList = false := by decide
  have hstretches : (FilePath.stretches ("./model" ++ "/index.ts").toList).filterMap FilePath.pieceComponent? =
      [.name "model", .name "index.ts"] := by decide +kernel
  refine ⟨_, congrArg (Option.map _) hparent, FilePath.same_iff.mpr ?_⟩
  dsimp only
  rw [hends.join_eq hgroup.toIsName hrelative, String.append_assoc, modelSpecifier,
    FilePath.components_append_slash (hends.text_ne_empty hgroup.toIsName), hstretches]
  show _ = (FilePath.join (FilePath.join _ "model") "index.ts").components
  rw [FilePath.components_join _ isName_index, FilePath.components_join _ isName_model]
  simp

theorem api_ne_model (hservice : IsSegment service) (hgroup : IsSegment group)
    (hotherService : IsSegment otherService) (hotherGroup : IsSegment otherGroup) :
    (below root service group).api.components ≠ (below root otherService otherGroup).model.components := by
  rw [components_api root hservice hgroup, components_model root hotherService hotherGroup]
  simp

/-- Both files tell the directories of two controllers apart. -/
theorem below_tfae (hservice : IsSegment service) (hgroup : IsSegment group)
    (hotherService : IsSegment otherService) (hotherGroup : IsSegment otherGroup) :
    [(below root service group).api.same (below root otherService otherGroup).api = true,
      (below root service group).model.same (below root otherService otherGroup).model = true,
      (below root service group).api = (below root otherService otherGroup).api,
      (below root service group).model = (below root otherService otherGroup).model,
      service = otherService ∧ group = otherGroup].TFAE := by
  tfae_have 1 → 5 := by
    rw [FilePath.same_iff, components_api root hservice hgroup, components_api root hotherService hotherGroup]
    simp
  tfae_have 2 → 5 := by
    rw [FilePath.same_iff, components_model root hservice hgroup, components_model root hotherService hotherGroup]
    simp
  tfae_have 5 → 3 := by
    rintro ⟨rfl, rfl⟩
    rfl
  tfae_have 5 → 4 := by
    rintro ⟨rfl, rfl⟩
    rfl
  tfae_have 3 → 1 := fun h => FilePath.same_iff.mpr (congrArg FilePath.components h)
  tfae_have 4 → 2 := fun h => FilePath.same_iff.mpr (congrArg FilePath.components h)
  tfae_finish

def files (paths : OutputPaths) : List FilePath := [paths.model, paths.api]

/-- No file stands where another one needs a directory. -/
theorem not_isAbove (hservice : IsSegment service) (hgroup : IsSegment group)
    (hotherService : IsSegment otherService) (hotherGroup : IsSegment otherGroup) {file other : FilePath}
    (hfile : file ∈ (below root service group).files)
    (hother : other ∈ (below root otherService otherGroup).files) : ¬file.IsAbove other := by
  have hapi := components_api root hservice hgroup
  have hmodel := components_model root hservice hgroup
  have hotherApi := components_api root hotherService hotherGroup
  have hotherModel := components_model root hotherService hotherGroup
  rintro ⟨hbegins, hne⟩
  rcases List.mem_pair.mp hfile with rfl | rfl <;> rcases List.mem_pair.mp hother with rfl | rfl
  · exact hne (hbegins.eq_of_length (by simp [hmodel, hotherModel]))
  · have hlength := hbegins.length_le
    simp [hmodel, hotherApi] at hlength
  · rw [hapi, hotherModel, List.prefix_append_right_inj] at hbegins
    simp at hbegins
  · exact hne (hbegins.eq_of_length (by simp [hapi, hotherApi]))

/-- The files of a controller for whose service and group there are the two directories. -/
structure Planned (root : FilePath) (service group : String) (paths : OutputPaths) : Prop where
  service_segment : IsSegment service
  group_segment : IsSegment group
  api_components : paths.api.components = root.components ++ [.name service, .name group, .name "index.ts"]
  model_components : paths.model.components =
    root.components ++ [.name service, .name group, .name "model", .name "index.ts"]
  imports_model : ∃ found, paths.api.resolve? modelSpecifier = some found ∧ found.same paths.model = true

theorem planned_below (hservice : IsSegment service) (hgroup : IsSegment group) :
    (below root service group).Planned root service group where
  service_segment := hservice
  group_segment := hgroup
  api_components := components_api root hservice hgroup
  model_components := components_model root hservice hgroup
  imports_model := resolve?_api root service hgroup

end OutputPaths

section Outcomes

variable {serviceName groupName otherServiceName otherGroupName : String} {paths others : OutputPaths}

theorem outputPaths_tfae (hpaths : outputPaths root serviceName groupName Script.extension = .ok paths)
    (hothers : outputPaths root otherServiceName otherGroupName Script.extension = .ok others) :
    [paths.api.same others.api = true, paths.model.same others.model = true, paths.api = others.api,
      paths.model = others.model,
      kebabCase serviceName = kebabCase otherServiceName ∧
        kebabCase groupName = kebabCase otherGroupName].TFAE := by
  obtain ⟨hservice, hgroup, rfl⟩ := outputPaths_eq_ok_iff.mp hpaths
  obtain ⟨hotherService, hotherGroup, rfl⟩ := outputPaths_eq_ok_iff.mp hothers
  exact OutputPaths.below_tfae (isSegment_kebabCase hservice) (isSegment_kebabCase hgroup)
    (isSegment_kebabCase hotherService) (isSegment_kebabCase hotherGroup)

theorem outputPaths_api_ne_model (hpaths : outputPaths root serviceName groupName Script.extension = .ok paths)
    (hothers : outputPaths root otherServiceName otherGroupName Script.extension = .ok others) :
    paths.api.components ≠ others.model.components := by
  obtain ⟨hservice, hgroup, rfl⟩ := outputPaths_eq_ok_iff.mp hpaths
  obtain ⟨hotherService, hotherGroup, rfl⟩ := outputPaths_eq_ok_iff.mp hothers
  exact OutputPaths.api_ne_model (isSegment_kebabCase hservice) (isSegment_kebabCase hgroup)
    (isSegment_kebabCase hotherService) (isSegment_kebabCase hotherGroup)

theorem outputPaths_not_isAbove (hpaths : outputPaths root serviceName groupName Script.extension = .ok paths)
    (hothers : outputPaths root otherServiceName otherGroupName Script.extension = .ok others) {file other : FilePath}
    (hfile : file ∈ paths.files) (hother : other ∈ others.files) : ¬file.IsAbove other := by
  obtain ⟨hservice, hgroup, rfl⟩ := outputPaths_eq_ok_iff.mp hpaths
  obtain ⟨hotherService, hotherGroup, rfl⟩ := outputPaths_eq_ok_iff.mp hothers
  exact OutputPaths.not_isAbove (isSegment_kebabCase hservice) (isSegment_kebabCase hgroup)
    (isSegment_kebabCase hotherService) (isSegment_kebabCase hotherGroup) hfile hother

end Outcomes

/-- The API file imports the types that it needs under the specifier of the model file. -/
theorem text_of_imports (source : Script.ApiSource) :
    source.text =
      "import \x7b " ++ source.helper.name ++ " \x7d from " ++ Json.quote source.helper.source ++ ";\n" ++
        (if source.imports.isEmpty then ""
        else "import type \x7b " ++ ", ".intercalate source.imports ++ " \x7d from " ++
          Json.quote modelSpecifier ++ ";\n") ++
        String.join (source.functions.map fun function => "\n" ++ function.text source.helper) := by
  have hspecifier : " \x7d from \"./model\";\n" = " \x7d from " ++ (Json.quote modelSpecifier ++ ";\n") := by
    decide +kernel
  rw [Script.ApiSource.text, Script.ApiSource.importText, hspecifier]
  simp only [String.append_assoc]

/-- Whatever the names are, either one of them has no word, or the files of the controller lie in directories of
their own below the root. The files of two controllers coincide exactly if the directories do, none stands in the
way of another, and the model file is the one that the API file imports from. -/
theorem output_paths_keep_apart (root : FilePath) (serviceName groupName : String) :
    ((∃ field value, (field, value) ∈ [("remoteServiceName", serviceName), ("controllerGroupName", groupName)] ∧
        ¬HasWord value ∧
        outputPaths root serviceName groupName Script.extension = .error (.emptyPathSegment field value)) ∨
      ∃ paths, outputPaths root serviceName groupName Script.extension = .ok paths ∧
        paths.Planned root (kebabCase serviceName) (kebabCase groupName)) ∧
    (∀ otherService otherGroup paths others,
      outputPaths root serviceName groupName Script.extension = .ok paths →
      outputPaths root otherService otherGroup Script.extension = .ok others →
      [paths.api.same others.api = true, paths.model.same others.model = true, paths.api = others.api,
        paths.model = others.model,
        kebabCase serviceName = kebabCase otherService ∧ kebabCase groupName = kebabCase otherGroup].TFAE ∧
      paths.api.same others.model = false ∧
      ∀ file ∈ paths.files, ∀ other ∈ others.files, ¬file.IsAbove other ∧ ¬other.IsAbove file) ∧
    ∀ source : Script.ApiSource, source.text =
      "import \x7b " ++ source.helper.name ++ " \x7d from " ++ Json.quote source.helper.source ++ ";\n" ++
        (if source.imports.isEmpty then ""
        else "import type \x7b " ++ ", ".intercalate source.imports ++ " \x7d from " ++
          Json.quote modelSpecifier ++ ";\n") ++
        String.join (source.functions.map fun function => "\n" ++ function.text source.helper) := by
  refine ⟨?_, ?_, text_of_imports⟩
  · by_cases hservice : HasWord serviceName
    · by_cases hgroup : HasWord groupName
      · refine Or.inr ⟨_, outputPaths_eq_ok_iff.mpr ⟨hservice, hgroup, rfl⟩, ?_⟩
        exact OutputPaths.planned_below (isSegment_kebabCase hservice) (isSegment_kebabCase hgroup)
      · refine Or.inl ⟨"controllerGroupName", groupName, by simp, hgroup, ?_⟩
        rw [outputPaths, pathSegment_of_hasWord hservice, pathSegment_of_not_hasWord hgroup]
        rfl
    · refine Or.inl ⟨"remoteServiceName", serviceName, by simp, hservice, ?_⟩
      rw [outputPaths, pathSegment_of_not_hasWord hservice]
      rfl
  · intro otherService otherGroup paths others hpaths hothers
    refine ⟨outputPaths_tfae hpaths hothers, FilePath.same_eq_false (outputPaths_api_ne_model hpaths hothers),
      fun file hfile other hother => ⟨?_, ?_⟩⟩
    · exact outputPaths_not_isAbove hpaths hothers hfile hother
    · exact outputPaths_not_isAbove hothers hpaths hother hfile

def etcPaths : OutputPaths := ⟨⟨"../out/etc/a-b/model/index.ts"⟩, ⟨"../out/etc/a-b/index.ts"⟩⟩

/-- Separators and dots in names do not lead out of the root, and names that differ in them alone meet. -/
theorem names_meet_in_etcPaths :
    outputPaths ⟨"../out/"⟩ "../etc" "a/B" Script.extension = .ok etcPaths ∧
      outputPaths ⟨"../out/"⟩ "Etc" "A_b" Script.extension = .ok etcPaths ∧
      kebabCase "../etc" = kebabCase "Etc" ∧ kebabCase "a/B" = kebabCase "A_b" := by
  have hpaths : outputPaths ⟨"../out/"⟩ "../etc" "a/B" Script.extension = .ok etcPaths := by decide +kernel
  have hothers : outputPaths ⟨"../out/"⟩ "Etc" "A_b" Script.extension = .ok etcPaths := by decide +kernel
  have htfae := ((output_paths_keep_apart ⟨"../out/"⟩ "../etc" "a/B").2.1 _ _ _ _ hpaths hothers).1
  exact ⟨hpaths, hothers, (htfae.out 2 4).mp rfl⟩

end ApiProxy
