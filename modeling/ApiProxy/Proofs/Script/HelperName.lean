import ApiProxy.Proofs.Generation.Files
import ApiProxy.Proofs.Script.ImportedNames
import ApiProxy.Proofs.Script.Wiring
import ApiProxy.Settings.Resolved

/-! The name of the helper in an API file. The settings take any name that looks like an identifier, and the names of
functions, imported types and parameters keep clear of it. Words that cannot be bound, global names that the file
refers to and local names of the functions are not ruled out: the helper is usable exactly if its name is none of
these. -/

namespace ApiProxy.Script

variable {types : TypeMap} {names : TypeNames} {helper : Helper} {controller : Controller} {action : Action}
  {binding : Binding} {function : ClientFunction} {source : ApiSource}

/-- Names that no import of a module can bind: the reserved words of the script language, and two names that strict
code keeps to itself. -/
def unbindable : List String := [
  "arguments", "await", "break", "case", "catch", "class", "const", "continue", "debugger", "default",
  "delete", "do", "else", "enum", "eval", "export", "extends", "false", "finally", "for", "function",
  "if", "implements", "import", "in", "instanceof", "interface", "let", "new", "null", "package",
  "private", "protected", "public", "return", "static", "super", "switch", "this", "throw", "true",
  "try", "typeof", "var", "void", "while", "with", "yield"]

/-- The local names that the body of a function declares. -/
def ClientFunction.locals (function : ClientFunction) : List String :=
  (if function.query.isEmpty then [] else ["searchParams", "queryString"]) ++
    if function.query.any QueryEntry.isList then ["element"] else []

/-- The local names that the function of an action comes to declare. -/
inductive HasLocal (types : TypeMap) (action : Action) : String → Prop where
  | searchParams (h : action.boundTo .query ≠ []) : HasLocal types action "searchParams"
  | queryString (h : action.boundTo .query ≠ []) : HasLocal types action "queryString"
  | element {parameter : Parameter} (h : parameter ∈ action.boundTo .query)
      (hlist : types.isArray parameter.typeId = .ok true) : HasLocal types action "element"

namespace ApiSource

/-- The helper goes by an identifier that is no function, imported type or parameter of the file. -/
structure HelperApart (source : ApiSource) : Prop where
  identifier : isIdentifier source.helper.name = true
  functions : source.helper.name ∉ source.functions.map ClientFunction.name
  imports : source.helper.name ∉ source.imports
  parameters : ∀ function ∈ source.functions,
    source.helper.name ∉ function.signature.map SignatureEntry.identifier

/-- The helper can be imported and means the same throughout the file, as the global names do. -/
structure HelperUsable (source : ApiSource) : Prop extends source.HelperApart where
  bindable : source.helper.name ∉ unbindable
  globals : source.helper.name ∉ runtimeGlobals
  locals : ∀ function ∈ source.functions, source.helper.name ∉ function.locals

end ApiSource

/-! ### Local names -/

theorem mem_locals_iff {name : String} {controllerName : String}
    (hbind : action.bind controllerName = .ok binding)
    (hfunction : clientFunction types names helper function.name action binding = .ok function) :
    name ∈ function.locals ↔ HasLocal types action name := by
  obtain ⟨_, _, _, _, _, hquery, _⟩ := clientFunction_eq_ok_iff.mp hfunction
  obtain ⟨_, _, hplaced, _⟩ := bind_eq_ok_iff.mp hbind
  rw [hplaced, Outcome.mapM_eq_ok_iff] at hquery
  have hempty : function.query = [] ↔ action.boundTo .query = [] := by
    rw [← action.parameters_placedAs, List.map_eq_nil_iff, ← List.length_eq_zero_iff, ← List.length_eq_zero_iff,
      hquery.length_eq]
  have hlist : (∃ entry ∈ function.query, entry.isList = true) ↔
      ∃ parameter ∈ action.boundTo .query, types.isArray parameter.typeId = .ok true := by
    rw [← action.parameters_placedAs]
    simp only [List.mem_map, exists_exists_and_eq_and]
    refine exists_mem_iff_of_forall₂ hquery fun placed entry hentry => ?_
    obtain ⟨isList, hisList, rfl⟩ := Outcome.map_eq_ok_iff.mp hentry
    rw [hisList]
    simp
  rw [ClientFunction.locals, List.mem_append]
  constructor
  · rintro (hname | hname)
    · split at hname
      · cases hname
      · next hsome =>
          rw [List.isEmpty_iff, hempty] at hsome
          simp only [List.mem_cons, List.not_mem_nil, or_false] at hname
          rcases hname with rfl | rfl
          · exact .searchParams hsome
          · exact .queryString hsome
    · split at hname
      · next hany =>
          obtain ⟨parameter, hparameter, harray⟩ := hlist.mp (List.any_eq_true.mp hany)
          cases List.mem_singleton.mp hname
          exact .element hparameter harray
      · cases hname
  · have hnonempty (h : action.boundTo .query ≠ []) : ¬function.query.isEmpty = true := by
      rw [List.isEmpty_iff, hempty]
      exact h
    rintro (h | h | ⟨h, harray⟩)
    · exact Or.inl (by simp [hnonempty h])
    · exact Or.inl (by simp [hnonempty h])
    · refine Or.inr ?_
      rw [if_pos (List.any_eq_true.mpr (hlist.mpr ⟨_, h, harray⟩))]
      exact List.mem_singleton_self _

/-! ### The other names of a file -/

theorem helper_notMem_functionNames (names : TypeNames) (helper : Helper) (actions : List Action) :
    helper.name ∉ functionNames names helper actions := by
  intro hmem
  refine notMem_of_mem_freshNames hmem ?_
  simp [takenByFile]

theorem helper_notMem_imports {resolved : List ResolvedType}
    (hclosure : types.IsClosure controller.typeIds resolved)
    (h : (apiSource types (fileTypeNames helper resolved) helper controller).outcome = .ok source) :
    helper.name ∉ source.imports := by
  obtain ⟨_, hfunctions⟩ := types_of_apiSource h
  intro hmem
  obtain ⟨_, _, last, _, hname⟩ := (mem_imports_iff (signatures_mention hclosure hfunctions) helper.name).mp hmem
  exact notMem_of_mem_freshNames (TypeNames.mem_assigned_of_get? hname) (by simp)

theorem helperApart_of_made {root : FilePath} {selection : Selection} {files : ControllerFiles}
    {resolved : List ResolvedType} {found : List Declaration} (hidentifier : isIdentifier helper.name = true)
    (h : files.Made helper root selection controller resolved found source) : source.HelperApart := by
  obtain ⟨rfl, hnames, hfunctions⟩ := functions_of_apiSource h.written
  refine ⟨hidentifier, ?_, ?_, ?_⟩
  · rw [hnames]
    exact helper_notMem_functionNames _ _ _
  · exact helper_notMem_imports (TypeMap.closure_eq_ok_iff.mp h.needed) h.written
  · intro function hfunction
    obtain ⟨action, _, binding, _, hmade⟩ := exists_left_of_forall₂ hfunctions hfunction
    obtain ⟨_, _, hsignature, _⟩ := clientFunction_eq_ok_iff.mp hmade
    rw [signature_identifiers (length_parameterIdentifiers action source.helper) hsignature]
    exact helper_notMem_parameterIdentifiers action source.helper

theorem helperUsable_iff (hapart : source.HelperApart)
    (h : (apiSource types names helper controller).outcome = .ok source) :
    source.HelperUsable ↔ helper.name ∉ unbindable ∧ helper.name ∉ runtimeGlobals ∧
      ∀ action ∈ controller.actions, ¬HasLocal types action helper.name := by
  obtain ⟨rfl, _, hfunctions⟩ := functions_of_apiSource h
  have hlocals : (∃ function ∈ source.functions, source.helper.name ∈ function.locals) ↔
      ∃ action ∈ controller.actions, HasLocal types action source.helper.name := by
    refine exists_mem_iff_of_forall₂ hfunctions ?_
    rintro action function ⟨binding, hbind, hmade⟩
    exact mem_locals_iff hbind hmade
  constructor
  · intro husable
    refine ⟨husable.bindable, husable.globals, fun action haction hlocal => ?_⟩
    obtain ⟨function, hfunction, hmem⟩ := hlocals.mpr ⟨action, haction, hlocal⟩
    exact husable.locals function hfunction hmem
  · rintro ⟨hbindable, hglobals, hnone⟩
    refine ⟨hapart, hbindable, hglobals, fun function hfunction hmem => ?_⟩
    obtain ⟨action, haction, hlocal⟩ := hlocals.mp ⟨function, hfunction, hmem⟩
    exact hnone action haction hlocal

end ApiProxy.Script

namespace ApiProxy

open Settings

/-- What the settings of an accepted command line and settings file are. -/
theorem Settings.merge_eq_ok_iff {line : CommandLine} {file : ConfigFile} {settings : Resolved} :
    Resolved.merge line file = .ok settings ↔
      required (line.url? <|> file.url?) "url" = .ok settings.url ∧
        required (line.module? <|> file.module?) "module" = .ok settings.module ∧
        settings.timeout ≠ 0 ∧ Script.isIdentifier settings.helper.name = true ∧
        settings.output = (line.output? <|> file.output?).getD defaultOutput ∧
        settings.target = (line.target? <|> file.target?).getD .typeScript ∧
        settings.isDryRun = line.isDryRun ∧
        settings.timeout = (line.timeout? <|> file.timeout?).getD defaultTimeout ∧ settings.helper = file.helper := by
  rw [Resolved.merge]
  constructor
  · intro h
    obtain ⟨url, hurl, h⟩ := Outcome.bind_eq_ok_iff.mp h
    obtain ⟨module, hmodule, h⟩ := Outcome.bind_eq_ok_iff.mp h
    dsimp only at h
    split at h
    · cases h
    · next htimeout =>
        split at h
        · cases h
        · next hidentifier =>
            cases h
            exact ⟨hurl, hmodule, htimeout, by simpa using hidentifier, rfl, rfl, rfl, rfl, rfl⟩
  · obtain ⟨url, module, output, target, isDryRun, timeout, helper⟩ := settings
    rintro ⟨hurl, hmodule, htimeout, hidentifier, rfl, rfl, rfl, rfl, rfl⟩
    refine Outcome.bind_eq_ok_iff.mpr ⟨url, hurl, Outcome.bind_eq_ok_iff.mpr ⟨module, hmodule, ?_⟩⟩
    dsimp only at htimeout hidentifier ⊢
    rw [if_neg htimeout, hidentifier]
    rfl

/-- In every API file that is generated under settings that were accepted, the helper goes by an identifier that no
function, imported type or parameter has; and it is usable exactly if that identifier can be bound and is neither a
global name nor a local name of a function of the file. -/
theorem helper_usable_in_api_files {line : CommandLine} {file : ConfigFile} {settings : Resolved}
    {root : FilePath} {selection : Selection} {output : StagedOutput}
    (hsettings : Resolved.merge line file = .ok settings)
    (houtput : (generate settings.helper root selection).outcome = .ok output) :
    ∀ made ∈ output.files, made.kind = .api →
      ∃ controller ∈ selection.module.controllers.entries.map Prod.snd, ∃ source : Script.ApiSource,
        made.content = Script.banner selection.key controller.name ++ "\n" ++ source.text ∧
          source.helper = file.helper ∧ source.HelperApart ∧
          (source.HelperUsable ↔ file.helper.name ∉ Script.unbindable ∧ file.helper.name ∉ Script.runtimeGlobals ∧
            ∀ action ∈ controller.actions, ¬Script.HasLocal selection.types action file.helper.name) := by
  obtain ⟨_, _, _, hidentifier, _, _, _, _, hhelper⟩ := Settings.merge_eq_ok_iff.mp hsettings
  intro made hmade hkind
  obtain ⟨controller, hcontroller, files, hfiles, hfile⟩ := mem_files_of_generate houtput hmade
  obtain ⟨resolved, found, source, hparts⟩ := controllerFiles_eq_ok_iff.mp hfiles
  have hapart := Script.helperApart_of_made hidentifier hparts
  refine ⟨controller, hcontroller, source, ?_, ?_, hapart, ?_⟩
  · rcases hfile with rfl | rfl
    · cases hkind
    · exact hparts.api
  · exact (Script.functions_of_apiSource hparts.written).1.trans hhelper
  · rw [← hhelper]
    exact Script.helperUsable_iff hapart hparts.written

def appLine : CommandLine := { url? := some "https://localhost:44300", module? := some "app" }

def appSettings (helper : Script.Helper) : Resolved where
  url := "https://localhost:44300"
  module := "app"
  output := defaultOutput
  target := .typeScript
  isDryRun := false
  timeout := defaultTimeout
  helper

theorem merge_appLine (helper : Script.Helper) (h : Script.isIdentifier helper.name = true) :
    Resolved.merge appLine { helper } = .ok (appSettings helper) := by
  have hurl : required appLine.url? "url" = .ok "https://localhost:44300" := by decide +kernel
  have hmodule : required appLine.module? "module" = .ok "app" := by decide +kernel
  exact Settings.merge_eq_ok_iff.mpr ⟨hurl, hmodule, (by decide : defaultTimeout ≠ 0), h, rfl, rfl, rfl, rfl, rfl⟩

theorem request_usable_in_silent_files :
    Resolved.merge appLine {} = .ok (appSettings {}) ∧
      (generate {} ⟨"out"⟩ (silentSelection "app" "User")).outcome = .ok (silentOutput {} "app" "User") ∧
      ∀ made ∈ (silentOutput {} "app" "User").files, made.kind = .api → ∃ source : Script.ApiSource,
        made.content = Script.banner "app" "User" ++ "\n" ++ source.text ∧ source.HelperUsable := by
  have hsettings := merge_appLine {} (by decide)
  have houtput := generate_silentSelection {} "app" "User"
  refine ⟨hsettings, houtput, fun made hmade hkind => ?_⟩
  obtain ⟨controller, hcontroller, source, hcontent, _, _, husable⟩ :=
    helper_usable_in_api_files hsettings houtput made hmade hkind
  cases List.mem_singleton.mp hcontroller
  exact ⟨source, hcontent, husable.mpr ⟨by decide, by decide, List.forall_mem_nil _⟩⟩

/-- A reserved word is accepted as the name of the helper, and imported. -/
theorem delete_is_imported : ∃ settings output,
    Resolved.merge appLine { helper := { name := "delete" } } = .ok settings ∧
      (generate settings.helper ⟨"out"⟩ (silentSelection "app" "User")).outcome = .ok output ∧
      ∃ made ∈ output.files, made.kind = .api ∧ ∃ source : Script.ApiSource,
        made.content = Script.banner "app" "User" ++ "\n" ++ source.text ∧
          source.text = "import \x7b delete \x7d from \"@/utils/request\";\n" ∧
          source.helper.name = "delete" ∧ ¬source.HelperUsable := by
  refine ⟨_, _, merge_appLine _ (by decide), generate_silentSelection { name := "delete" } "app" "User", ?_⟩
  rw [files_silentOutput]
  refine ⟨_, List.mem_cons_of_mem _ List.mem_cons_self, rfl, ⟨{ name := "delete" }, []⟩, rfl, ?_, rfl, ?_⟩
  · decide +kernel
  · exact fun husable => husable.bindable (by decide)

end ApiProxy
