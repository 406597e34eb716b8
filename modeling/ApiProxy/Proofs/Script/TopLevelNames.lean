import ApiProxy.Proofs.Script.HelperName

/-! The names at the top of an API file: the helper, the imported types and the functions. Types are named first and
keep clear of the helper; functions are named after them and keep clear of both. A number that is added to a name can
meet a name that is asked for later, which then gets a number itself, so in each of the two passes every name that
was given is taken for the rest of the pass. -/

namespace ApiProxy.Script

open TypeMap

variable {types : TypeMap} {names : TypeNames} {helper : Helper} {controller : Controller} {source : ApiSource}
  {resolved : List ResolvedType} {reserved : List String} {name : String}

/-! ### Imports and functions -/

/-- The declared types that the signatures of a controller lead to are all in the list, in whatever order and however
often. -/
def Covers (types : TypeMap) (controller : Controller) (resolved : List ResolvedType) : Prop :=
  ∀ root ∈ controller.typeIds, ∀ last, LeadsToDeclared types root last →
    ∃ declared ∈ resolved, declared.id = last ∧ declared.shape.declaredName?.isSome = true

theorem covers_of_neededBy (h : types.neededBy controller = .ok resolved) : Covers types controller resolved := by
  intro root hroot last hlast
  obtain ⟨shape, name, hmem, -, hname⟩ := mem_of_leadsToDeclared (closure_eq_ok_iff.mp h) (.root hroot) hlast
  exact ⟨_, hmem, rfl, by rw [hname]; rfl⟩

theorem mem_identifiers_of_mem_imports (hcovers : Covers types controller resolved)
    (h : (apiSource types (.assign resolved reserved) helper controller).outcome = .ok source)
    (hname : name ∈ source.imports) : name ∈ (TypeNames.assign resolved reserved).identifiers := by
  obtain ⟨root, hroot, last, hlast, text, rfl⟩ := exists_declared_of_mem_imports h hname
  obtain ⟨declared, hdeclared, rfl, hdeclaredName⟩ := hcovers root hroot last hlast
  obtain ⟨identifier, hget⟩ := (TypeNames.keepsApart resolved reserved).given_iff declared.id |>.mpr
    ⟨declared, hdeclared, rfl, hdeclaredName⟩
  rw [TypeNames.identifier_of_get? hget]
  exact TypeNames.mem_identifiers_iff.mpr ⟨declared.id, hget⟩

theorem identifier_notMem_functionNames (h : name ∈ names.identifiers) (actions : List Action) :
    name ∉ functionNames names helper actions := by
  intro hmem
  apply notMem_of_mem_freshNames hmem
  rw [takenByFile]
  simp [h]

/-! ### The file -/

namespace ApiSource

def functionNames (source : ApiSource) : List String := source.functions.map ClientFunction.name

/-- The names that are bound at the top of the file. -/
def topLevelNames (source : ApiSource) : List String :=
  source.helper.name :: (source.imports ++ source.functionNames)

/-- What holds of the names at the top of the file whatever list the types were named after. -/
structure NamesFit (source : ApiSource) : Prop where
  functions_free : ∀ name ∈ source.functionNames, IsFreeName name
  functions_distinct : source.functionNames.Nodup
  helper_apart : source.helper.name ∉ source.functionNames
  imports_distinct : source.imports.Nodup
  imports_identifiers : ∀ name ∈ source.imports, isIdentifier name = true ∧ name ∉ reservedWords

end ApiSource

theorem namesFit_of_apiSource
    (h : (apiSource types (.assign resolved reserved) helper controller).outcome = .ok source) : source.NamesFit := by
  obtain ⟨rfl, hnames, -⟩ := functions_of_apiSource h
  constructor
  · intro name hname
    rw [ApiSource.functionNames, hnames] at hname
    exact isFreeName_of_mem_functionNames hname
  · rw [ApiSource.functionNames, hnames]
    exact nodup_freshNames _ _
  · rw [ApiSource.functionNames, hnames]
    exact helper_notMem_functionNames _ _ _
  · exact (pairwise_sortedNames _).imp ne_of_lt
  · intro name hname
    obtain ⟨-, -, last, -, text, rfl⟩ := exists_declared_of_mem_imports h hname
    exact TypeNames.isIdentifier_identifier last text

theorem nodup_topLevelNames (hcovers : Covers types controller resolved)
    (h : (apiSource types (fileTypeNames helper resolved) helper controller).outcome = .ok source) :
    source.topLevelNames.Nodup := by
  have hfit := namesFit_of_apiSource h
  obtain ⟨rfl, hnames, -⟩ := functions_of_apiSource h
  have himports : ∀ name ∈ source.imports, name ∈ (fileTypeNames source.helper resolved).identifiers :=
    fun name hname => mem_identifiers_of_mem_imports hcovers h hname
  rw [ApiSource.topLevelNames, List.nodup_cons, List.mem_append, not_or]
  refine ⟨⟨?_, hfit.helper_apart⟩, ?_⟩
  · intro hmem
    exact (TypeNames.keepsApart resolved [source.helper.name]).unreserved _ (himports _ hmem)
      (List.mem_singleton_self _)
  · apply List.nodup_append.mpr ⟨hfit.imports_distinct, hfit.functions_distinct, _⟩
    rintro name himport _ hfunction rfl
    rw [ApiSource.functionNames, hnames] at hfunction
    exact identifier_notMem_functionNames (himports name himport) _ hfunction

theorem isFreeName_of_mem_imports (hcovers : Covers types controller resolved)
    (h : (apiSource types (.assign resolved reserved) helper controller).outcome = .ok source)
    (hname : name ∈ source.imports) : IsFreeName name :=
  (TypeNames.keepsApart resolved reserved).free name (mem_identifiers_of_mem_imports hcovers h hname)

/-- The names at the top of an API file, as they are read from its text, do not clash, whatever its helper, types and
actions are called, if the types were named after a list that leaves none of those out that the signatures name, as the
resolved types of the controller never do. -/
theorem top_level_names_apart (helper : Helper) (selection : Selection) (controller : Controller) :
    (∀ resolved text, (apiFile helper selection controller resolved).outcome = .ok text →
      ∃ source, (apiSource selection.types (fileTypeNames helper resolved) helper controller).outcome = .ok source ∧
        text = banner selection.key controller.name ++ "\n" ++ source.text ∧ source.helper = helper ∧
        (∃ read, readApi helper source.text = some read ∧ read.imports = source.imports ∧
          read.functions.map FunctionReading.name = source.functionNames) ∧
        source.NamesFit ∧
        (Covers selection.types controller resolved →
          source.topLevelNames.Nodup ∧ ∀ name ∈ source.imports ++ source.functionNames, IsFreeName name)) ∧
      (∀ resolved, selection.types.neededBy controller = .ok resolved →
        Covers selection.types controller resolved) ∧
      ∀ resolved reserved, TypeNames.KeepsApart resolved reserved := by
  refine ⟨?_, fun resolved => covers_of_neededBy, TypeNames.keepsApart⟩
  intro resolved text h
  rw [apiFile, Traced.outcome_bind] at h
  obtain ⟨source, hsource, htext⟩ := Outcome.bind_eq_ok_iff.mp h
  cases htext
  have hfit := namesFit_of_apiSource hsource
  have hread : ∃ read, readApi helper source.text = some read ∧ read.imports = source.imports ∧
      read.functions.map FunctionReading.name = source.functionNames :=
    ⟨source.reading, readApi_of_apiSource hsource, source.imports_reading, List.map_map⟩
  refine ⟨source, hsource, rfl, (functions_of_apiSource hsource).1, hread, hfit, fun hcovers => ?_⟩
  refine ⟨nodup_topLevelNames hcovers hsource, fun name hname => ?_⟩
  rcases List.mem_append.mp hname with himport | hfunction
  · exact isFreeName_of_mem_imports hcovers hsource himport
  · exact hfit.functions_free name hfunction

/-- A type and two actions that ask for the name of the helper and for names with a number. -/
def crowdedTypes : TypeMap where
  entries := [("App.Request", .enumeration "request" [⟨"Open", .integer 0⟩])]
  distinct := by decide

def crowdedController : Controller :=
  ⟨"Request", "Request", [⟨"request", .get, "/api/request", [], some "App.Request"⟩,
    ⟨"request3", .post, "/api/request", [], none⟩]⟩

def crowdedSelection : Selection where
  key := "app"
  module := ⟨"App", ⟨[("request", crowdedController)], by decide⟩⟩
  types := crowdedTypes

def crowdedResolved : List ResolvedType := [⟨"App.Request", .enumeration "request" [⟨"Open", .integer 0⟩]⟩]

/-- The file of the controller, by the names of its type and of its functions. -/
def crowdedSource (identifier first second : String) : ApiSource where
  helper := {}
  functions := [
    ⟨first, [], some (.declared identifier), .get, [.literal "/api/request"], [], none⟩,
    ⟨second, [], none, .post, [.literal "/api/request"], [], none⟩]

theorem apiSource_crowded {identifier first second : String}
    (hidentifier : names.identifier "App.Request" "request" = identifier)
    (hfunctions : functionNames names {} crowdedController.actions = [first, second]) :
    (apiSource crowdedTypes names {} crowdedController).outcome = .ok (crowdedSource identifier first second) := by
  have hwritten : typeExpr crowdedTypes names "App.Request" = .ok (.declared identifier) := by
    rw [typeExpr, writeType, if_neg (by simp), ← hidentifier]
    rfl
  have hbound : crowdedController.bind.outcome =
      .ok [⟨[.literal "/api/request"], [], none, []⟩, ⟨[.literal "/api/request"], [], none, []⟩] := rfl
  have hmade : clientFunctions crowdedTypes names {} [first, second]
      (crowdedController.actions.zip
        [⟨[.literal "/api/request"], [], none, []⟩, ⟨[.literal "/api/request"], [], none, []⟩]) =
      .ok (crowdedSource identifier first second).functions := by
    change (do
      let function ← clientFunction crowdedTypes names {} first _ _
      _) = _
    rw [clientFunction, Option.mapM_some, hwritten]
    rfl
  rw [apiSource, Traced.outcome_bind, hfunctions]
  refine Outcome.bind_eq_ok_iff.mpr ⟨_, hbound, ?_⟩
  rw [Traced.outcome_bind]
  exact Outcome.bind_eq_ok_iff.mpr ⟨_, hmade, rfl⟩

theorem apiFile_crowded {identifier first second : String}
    (h : (apiSource crowdedTypes (fileTypeNames {} resolved) {} crowdedController).outcome =
      .ok (crowdedSource identifier first second)) :
    (apiFile {} crowdedSelection crowdedController resolved).outcome =
      .ok (banner "app" "Request" ++ "\n" ++ (crowdedSource identifier first second).text) := by
  rw [apiFile, Traced.outcome_bind]
  exact Outcome.bind_eq_ok_iff.mpr ⟨_, h, rfl⟩

/-- The type makes way for the helper, the first function for both, and the second one for the name that the first one
was given. -/
theorem crowded_names_apart : ∃ text source,
    crowdedTypes.neededBy crowdedController = .ok crowdedResolved ∧
      (apiFile {} crowdedSelection crowdedController crowdedResolved).outcome = .ok text ∧
      text = banner "app" "Request" ++ "\n" ++ ApiSource.text source ∧
      source.topLevelNames = ["request", "request2", "request3", "request32"] ∧ source.topLevelNames.Nodup ∧
      (∃ read, readApi {} source.text = some read ∧ read.imports = ["request2"]) ∧
      ∀ name ∈ source.imports ++ source.functionNames, IsFreeName name := by
  have hresolved : crowdedTypes.neededBy crowdedController = .ok crowdedResolved := by
    show (gather crowdedTypes [] ["App.Request"]).map _ = _
    rw [gather, if_neg (by decide)]
    change (gather crowdedTypes crowdedResolved []).map _ = _
    rw [gather]
    exact congrArg Except.ok (List.mergeSort_singleton _)
  have hmade : (apiSource crowdedTypes (fileTypeNames {} crowdedResolved) {} crowdedController).outcome =
      .ok (crowdedSource "request2" "request3" "request32") := apiSource_crowded (by decide) (by decide +kernel)
  have hfound := apiFile_crowded hmade
  obtain ⟨hfile, hcovers, -⟩ := top_level_names_apart {} crowdedSelection crowdedController
  obtain ⟨source, hsource, htext, -, ⟨read, hread, himports, -⟩, -, happart⟩ := hfile crowdedResolved _ hfound
  cases hmade.symm.trans hsource
  obtain ⟨hdistinct, hfree⟩ := happart (hcovers crowdedResolved hresolved)
  exact ⟨_, _, hresolved, hfound, htext, by decide +kernel, hdistinct,
    ⟨read, hread, himports.trans (by decide +kernel)⟩, hfree⟩

/-- Without the types of the controller the file is made as well, but the type keeps the name that it asks for, which is
that of the helper. -/
theorem uncovered_names_clash : ∃ text source read,
    (apiFile {} crowdedSelection crowdedController []).outcome = .ok text ∧
      text = banner "app" "Request" ++ "\n" ++ ApiSource.text source ∧ readApi {} source.text = some read ∧
      read.imports = ["request"] ∧ source.topLevelNames = ["request", "request", "request2", "request3"] ∧
      ¬source.topLevelNames.Nodup := by
  have hmade : (apiSource crowdedTypes (fileTypeNames {} []) {} crowdedController).outcome =
      .ok (crowdedSource "request" "request2" "request3") := apiSource_crowded (by decide) (by decide +kernel)
  have himports : (crowdedSource "request" "request2" "request3").imports = ["request"] := by decide +kernel
  exact ⟨_, crowdedSource "request" "request2" "request3", _, apiFile_crowded hmade, rfl, readApi_of_apiSource hmade,
    (ApiSource.imports_reading _).trans himports, by decide +kernel, by decide +kernel⟩

end ApiProxy.Script
