import ApiProxy.Proofs.Names.TypeNames
import ApiProxy.Proofs.Script.FunctionReading

/-! An API file read back from its text: what it imports and, one behind the other, its functions. With the types named
after any list, the names in the file are identifiers, so the reader finds the functions that were made for the actions
of the controller, and what they do with their parameters can be told from the text alone. -/

namespace ApiProxy.Script

/-! ### The reader -/

/-- An API file as its text tells it; the types it imports stand on a line of their own, if there is one. -/
structure ApiReading where
  typeImports? : Option (List String)
  functions : List FunctionReading

def ApiReading.imports (api : ApiReading) : List String := api.typeImports?.getD []

def ApiSource.reading (source : ApiSource) : ApiReading where
  typeImports? := if source.imports.isEmpty then none else some source.imports
  functions := source.functions.map ClientFunction.reading

def readTypeImports : Reader (List String) := do
  skip "import type \x7b "
  let names ← separated readIdentifier
  skip " \x7d from \"./model\";\n"
  pure names

def readApiText (helper : Helper) : Reader ApiReading := do
  skip "import \x7b "
  skip helper.name
  skip " \x7d from "
  let source ← readQuotation
  skip ";\n"
  let typeImports? ← attempt readTypeImports
  let functions ← readAll do
    skip "\n"
    readFunction helper.name
  if source = helper.source then pure ⟨typeImports?, functions⟩ else failure

/-- Reads an API file without its banner, all of it, for the helper that its functions call. -/
def readApi (helper : Helper) (text : String) : Option ApiReading :=
  match readApiText helper text.toList with
  | some (api, []) => some api
  | _ => none

/-! ### Files of plain functions -/

section Source

variable {source : ApiSource} {functions : List ClientFunction}

theorem ApiSource.imports_reading (source : ApiSource) : source.reading.imports = source.imports := by
  rw [ApiReading.imports, reading]
  cases source.imports <;> rfl

/-- The functions of a file, each behind an empty line. -/
def functionsText (helper : Helper) (functions : List ClientFunction) : List Char :=
  functions.flatMap fun function => "\n".toList ++ (function.text helper).toList

theorem readAll_functionsText (h : ∀ function ∈ functions, function.IsPlain) (helper : Helper) :
    readAll (do skip "\n"; readFunction helper.name) (functionsText helper functions) =
      some (functions.map ClientFunction.reading, []) := by
  have hfunctions : readAll (do skip "\n"; readFunction helper.name) (functionsText helper functions ++ []) =
      some (functions.map ClientFunction.reading, []) := by
    refine readAll_flatMap (fun _ => True) (fun _ _ => List.cons_ne_nil _ _) ?_ (fun _ _ _ => trivial) trivial rfl
    intro function hfunction rest _
    rw [List.append_assoc, Reader.skip_bind, (h function hfunction).readFunction_text]
  rwa [List.append_nil] at hfunctions

/-- The line that imports the types. -/
def ApiSource.typeImportText (source : ApiSource) : String :=
  if source.imports.isEmpty then "" else
    "import type \x7b " ++ ", ".intercalate source.imports ++ " \x7d from \"./model\";\n"

/-- The line of the imports is found exactly if something is imported. -/
theorem attempt_readTypeImports (himports : ∀ name ∈ source.imports, isIdentifier name = true) (helper : Helper) :
    attempt readTypeImports (source.typeImportText.toList ++ functionsText helper functions) =
      some (source.reading.typeImports?, functionsText helper functions) := by
  rw [ApiSource.reading, ApiSource.typeImportText]
  cases hempty : source.imports.isEmpty with
  | true =>
      have hhead : (functionsText helper functions).head? ≠ "import type \x7b ".toList.head? := by
        cases functions with
        | nil => exact nofun
        | cons function functions =>
            rw [functionsText, List.flatMap_cons]
            simp
      exact attempt_of_none (Reader.bind_of_none (skip_eq_none (by decide) hhead) _)
  | false =>
      have hend (rest : List Char) : EndsIdentifier (" \x7d from \"./model\";\n".toList ++ rest) :=
        endsIdentifier_append (by decide) rest
      have hnames : separated readIdentifier ((", ".intercalate (source.imports.map id)).toList ++
          (" \x7d from \"./model\";\n".toList ++ functionsText helper functions)) =
            some (source.imports.map id, " \x7d from \"./model\";\n".toList ++ functionsText helper functions) := by
        refine separated_intercalate EndsIdentifier ?_ ?_ (hend _) (readIdentifier_of_endsIdentifier (hend _)) (by simp)
        · exact fun name hname rest hrest => readIdentifier_append (himports name hname) hrest
        · intro rest c hc
          cases hc
          decide
      rw [List.map_id] at hnames
      have htext : ("import type \x7b " ++ ", ".intercalate source.imports ++ " \x7d from \"./model\";\n").toList ++
          functionsText helper functions = "import type \x7b ".toList ++ ((", ".intercalate source.imports).toList ++
            (" \x7d from \"./model\";\n".toList ++ functionsText helper functions)) := by
        rw [String.toList_append, String.toList_append, List.append_assoc, List.append_assoc]
      simp only [Bool.false_eq_true, if_false]
      rw [htext]
      apply attempt_of_some
      rw [readTypeImports, Reader.skip_bind, Reader.bind_of hnames, Reader.skip_bind]
      rfl

theorem readApi_text (himports : ∀ name ∈ source.imports, isIdentifier name = true)
    (hfunctions : ∀ function ∈ source.functions, function.IsPlain) :
    readApi source.helper source.text = some source.reading := by
  have htext : source.text.toList = "import \x7b ".toList ++ (source.helper.name.toList ++
      (" \x7d from ".toList ++ ((Json.quote source.helper.source).toList ++ (";\n".toList ++
      (source.typeImportText.toList ++ functionsText source.helper source.functions))))) := by
    unfold ApiSource.text ApiSource.importText ApiSource.typeImportText functionsText
    simp only [String.toList_append, List.append_assoc, String.toList_join, List.flatMap_map, -String.reduceToList]
  have hread : readApiText source.helper source.text.toList = some (source.reading, []) := by
    rw [htext, readApiText, Reader.skip_bind, Reader.skip_bind, Reader.skip_bind,
      Reader.bind_of (readQuotation_quote _ _), Reader.skip_bind,
      Reader.bind_of (attempt_readTypeImports himports source.helper),
      Reader.bind_of (readAll_functionsText hfunctions source.helper), if_pos rfl]
    rfl
  rw [readApi, hread]

end Source

/-! ### Files of a controller -/

variable {types : TypeMap} {names : TypeNames} {helper : Helper} {action : Action} {binding : Binding}
  {controllerName : String} {controller : Controller} {function : ClientFunction} {source : ApiSource}
  {listed : List ResolvedType} {reserved : List String}

/-- The name in a type that is written is that of the primitive or declared type at the end of its chain. -/
theorem Written.name_reading {id : String} {type : TypeExpr} (h : Written types names id type) :
    ∃ last, types.LeadsTo id last ∧
      ((∃ kind, types.get? last = some (.primitive kind) ∧ PrimitiveText kind type.reading.name) ∨
        ∃ shape name, types.get? last = some shape ∧ shape.declaredName? = some name ∧
          type.reading.name = names.identifier last name) := by
  induction h with
  | primitive hshape hname => exact ⟨_, .refl, .inl ⟨_, hshape, primitiveName_eq_ok_iff.mp hname⟩⟩
  | array hshape _ ih =>
      obtain ⟨last, hleads, hlast⟩ := ih
      exact ⟨last, .head ⟨_, hshape, rfl⟩ hleads, hlast⟩
  | dictionary hshape _ ih =>
      obtain ⟨last, hleads, hlast⟩ := ih
      exact ⟨last, .head ⟨_, hshape, rfl⟩ hleads, hlast⟩
  | reference hshape _ ih =>
      obtain ⟨last, hleads, hlast⟩ := ih
      exact ⟨last, .head ⟨_, hshape, rfl⟩ hleads, hlast⟩
  | declared hshape hname => exact ⟨_, .refl, .inr ⟨_, _, hshape, hname, rfl⟩⟩

theorem PrimitiveText.isIdentifier {kind : PrimitiveKind} {name : String} (h : PrimitiveText kind name) :
    isIdentifier name = true ∧ name ≠ "void" := by
  cases h <;> decide

theorem isIdentifier_name_reading {id : String} {type : TypeExpr}
    (h : typeExpr types (.assign listed reserved) id = .ok type) :
    isIdentifier type.reading.name = true ∧ type.reading.name ≠ "void" := by
  obtain ⟨last, -, ⟨kind, -, hname⟩ | ⟨shape, name, -, -, hname⟩⟩ := (written_of_typeExpr h).name_reading
  · exact hname.isIdentifier
  · obtain ⟨hidentifier, hreserved⟩ : isIdentifier (TypeNames.identifier (.assign listed reserved) last name) = true ∧
        TypeNames.identifier (.assign listed reserved) last name ∉ reservedWords :=
      TypeNames.isIdentifier_identifier last name
    rw [hname]
    exact ⟨hidentifier, fun hvoid => hreserved (hvoid ▸ by decide)⟩

theorem isPlain_of_clientFunction (hname : isIdentifier function.name = true)
    (hbind : action.bind controllerName = .ok binding)
    (hfunction : clientFunction types (.assign listed reserved) helper function.name action binding = .ok function) :
    function.IsPlain := by
  have hplaced := placedByPosition hbind hfunction
  have hidentifiers : ∀ identifier ∈ parameterIdentifiers action helper, isIdentifier identifier = true :=
    fun identifier hmem => (isIdentifier_of_mem_paddedNames hmem).1
  have htypes : (clientFunction types (.assign listed reserved) helper function.name action binding).map
      ClientFunction.types = action.typeIds.mapM (typeExpr types (.assign listed reserved)) :=
    clientFunction_types helper function.name (query_of_bind hbind)
  rw [hfunction] at htypes
  have hwritten := Outcome.mapM_eq_ok_iff.mp htypes.symm
  constructor
  · exact hname
  · intro entry hentry
    apply hidentifiers
    rw [← hplaced.signature]
    exact List.mem_map_of_mem hentry
  · intro type htype
    obtain ⟨id, -, hid⟩ := exists_left_of_forall₂ hwritten htype
    exact isIdentifier_name_reading hid
  · exact fun identifier hmem => hidentifiers identifier (hplaced.mem_of_mentioned hmem)
  · exact readTemplate_urlText hplaced.url fun identifier hmem _ =>
      isIdentifierPart_of_mem (hidentifiers identifier hmem)

/-- What was made for a controller is read back from its text. -/
theorem readApi_of_apiSource (h : (apiSource types (.assign listed reserved) helper controller).outcome = .ok source) :
    readApi helper source.text = some source.reading := by
  obtain ⟨rfl, hnames, hfunctions⟩ := functions_of_apiSource h
  apply readApi_text
  · intro name hname
    obtain ⟨-, -, last, -, text, rfl⟩ := exists_declared_of_mem_imports h hname
    exact (TypeNames.isIdentifier_identifier last text).1
  · intro function hfunction
    obtain ⟨action, -, binding, hbind, hmade⟩ := exists_left_of_forall₂ hfunctions hfunction
    have hname : function.name ∈ source.functions.map ClientFunction.name := List.mem_map_of_mem hfunction
    rw [hnames] at hname
    exact isPlain_of_clientFunction (isFreeName_of_mem_functionNames hname).identifier hbind hmade

/-! ### Parameters by their positions -/

/-- What a function, as its text tells it, does with the parameters of its action, all told by their positions. -/
structure WiredByPosition (types : TypeMap) (names : TypeNames) (action : Action) (identifiers : List String)
    (function : FunctionReading) : Prop where
  length : identifiers.length = action.parameters.length
  distinct : identifiers.Nodup
  signature : function.signature.map SignatureReading.identifier = identifiers
  entries : ∀ position parameter entry, action.parameters[position]? = some parameter →
    function.signature[position]? = some entry →
      (∃ type, typeExpr types names parameter.typeId = .ok type ∧ entry.type = type.reading) ∧
      (entry.presence = .optional ↔ ∀ other ∈ action.parameters.drop position, other.isOptional = true) ∧
      (entry.presence = .required ↔ parameter.isOptional = false)
  optional_last : function.signature.Pairwise fun entry later =>
    entry.presence = .optional → later.presence = .optional
  url : List.Forall₂ (WritesSegment action identifiers) (Route.segments action.template) function.url
  sends_query_iff : function.sendsQuery = true ↔ action.positions .query ≠ []
  query : List.Forall₂ (Sends types action identifiers) (action.positions .query) function.query
  data : List.Forall₂ (fun position identifier => identifiers[position]? = some identifier)
    (action.positions .body) function.data?.toList
  unplaced : ∀ position ∈ action.positions .path, ∀ identifier, identifiers[position]? = some identifier →
    (∀ name mark, .placeholder name mark ∈ Route.segments action.template → ¬action.FirstOfName name position) →
    identifier ∉ function.mentioned

/-- The entries at all positions, and what their question marks have to do with each other. -/
theorem signature_reading {identifiers : List String} {entries : List SignatureEntry}
    (hlength : action.parameters.length = identifiers.length)
    (h : signature types names action.parameters identifiers = .ok entries) :
    (∀ position parameter entry, action.parameters[position]? = some parameter →
      (entries.map SignatureEntry.reading)[position]? = some entry →
        (∃ type, typeExpr types names parameter.typeId = .ok type ∧ entry.type = type.reading) ∧
        (entry.presence = .optional ↔ ∀ other ∈ action.parameters.drop position, other.isOptional = true) ∧
        (entry.presence = .required ↔ parameter.isOptional = false)) ∧
    (entries.map SignatureEntry.reading).Pairwise fun entry later =>
      entry.presence = .optional → later.presence = .optional := by
  have hentries : ∀ position parameter entry, action.parameters[position]? = some parameter →
      (entries.map SignatureEntry.reading)[position]? = some entry →
        (∃ type, typeExpr types names parameter.typeId = .ok type ∧ entry.type = type.reading) ∧
        (entry.presence = .optional ↔ ∀ other ∈ action.parameters.drop position, other.isOptional = true) ∧
        (entry.presence = .required ↔ parameter.isOptional = false) := by
    intro position parameter entry hparameter hentry
    rw [List.getElem?_map, Option.map_eq_some_iff] at hentry
    obtain ⟨entry, hentry, rfl⟩ := hentry
    obtain ⟨hposition, rfl⟩ := List.getElem?_eq_some_iff.mp hparameter
    obtain ⟨htype, hpresence⟩ := signature_entry h hparameter hentry
    rw [SignatureEntry.reading, hpresence, presence_eq_optional_iff, presence_eq_required_iff,
      List.drop_eq_getElem_cons hposition]
    exact ⟨⟨entry.type, htype, rfl⟩, Iff.rfl, Iff.rfl⟩
  refine ⟨hentries, ?_⟩
  have hcount : (entries.map SignatureEntry.reading).length = action.parameters.length := by
    rw [hlength, ← signature_identifiers hlength h, List.length_map, List.length_map]
  rw [List.pairwise_iff_getElem]
  intro position other hposition hother hlt hoptional
  have hall := (hentries position _ _ (List.getElem?_eq_getElem (hcount ▸ hposition))
    (List.getElem?_eq_getElem hposition)).2.1.mp hoptional
  refine (hentries other _ _ (List.getElem?_eq_getElem (hcount ▸ hother))
    (List.getElem?_eq_getElem hother)).2.1.mpr ?_
  intro parameter hmem
  refine hall parameter ?_
  rw [← Nat.add_sub_of_le (Nat.le_of_lt hlt), ← List.drop_drop] at hmem
  exact List.mem_of_mem_drop hmem

theorem wiredByPosition {name : String} (hbind : action.bind controllerName = .ok binding)
    (hfunction : clientFunction types names helper name action binding = .ok function) :
    WiredByPosition types names action (parameterIdentifiers action helper) function.reading := by
  obtain ⟨_, _, hsignature, _⟩ := clientFunction_eq_ok_iff.mp hfunction
  have hlength := length_parameterIdentifiers action helper
  have hplaced := placedByPosition hbind hfunction
  obtain ⟨hentries, hoptional⟩ := signature_reading hlength hsignature
  have hidentifiers :
      function.reading.signature.map SignatureReading.identifier = parameterIdentifiers action helper := by
    rw [← hplaced.signature]
    exact List.map_map
  have hquery : function.reading.sendsQuery = true ↔ action.positions .query ≠ [] := by
    rw [← List.length_pos_iff, hplaced.query.length_eq, List.length_pos_iff]
    simp [ClientFunction.reading]
  exact ⟨hlength.symm, hplaced.distinct, hidentifiers, hentries, hoptional, hplaced.url, hquery, hplaced.query,
    hplaced.data, fun _ hpath _ => hplaced.notMem_mentioned hpath⟩

/-- A function makes the request of its action and leads every parameter from its place in the signature to its place in
that request; where the binding looks a parameter up, it is found. -/
def ReadsByPosition (types : TypeMap) (names : TypeNames) (helper : Helper) (controllerName : String)
    (action : Action) (function : FunctionReading) : Prop :=
  function.method = action.method ∧
    WiredByPosition types names action (parameterIdentifiers action helper) function ∧
    ∃ binding, action.bind controllerName = .ok binding ∧ ∀ placed ∈ binding.sent,
      action.parameters[placed.position]? = some placed.parameter ∧
        (parameterIdentifiers action helper)[placed.position]? =
          some (PlacedParameter.identifier (parameterIdentifiers action helper) placed)

/-- A controller whose actions can be bound and whose types can be written has a file from whose text one function is
read for each action, in order, and each of them takes its parameters by their positions: parameters that are equal, or
whose names come to the same identifier, are still not taken for each other. -/
theorem functions_read_by_position (hbinds : ∃ bindings, controller.bind.outcome = .ok bindings)
    (hwritten : ∀ id ∈ controller.typeIds, ∃ type, typeExpr types (.assign listed reserved) id = .ok type) :
    ∃ source read, (apiSource types (.assign listed reserved) helper controller).outcome = .ok source ∧
      source.text = source.importText ++
        String.join (source.functions.map fun function => "\n" ++ function.text helper) ∧
      readApi helper source.text = some read ∧
      read.functions.map FunctionReading.name =
        functionNames (.assign listed reserved) helper controller.actions ∧
      List.Forall₂ (ReadsByPosition types (.assign listed reserved) helper controller.name) controller.actions
        read.functions := by
  have hfailure : failure? (apiSource types (.assign listed reserved) helper controller).outcome = none := by
    rw [failure?_apiSource, Option.or_eq_none_iff]
    rw [controller.outcome_bind, ← Outcome.failure?_eq_none_iff, Outcome.failure?_mapM] at hbinds
    refine ⟨hbinds, List.findSome?_eq_none_iff.mpr fun id hid => ?_⟩
    exact Outcome.failure?_eq_none_iff.mpr (hwritten id hid)
  obtain ⟨source, hsource⟩ := Outcome.failure?_eq_none_iff.mp hfailure
  have hread := readApi_of_apiSource hsource
  obtain ⟨rfl, hnames, hfunctions⟩ := functions_of_apiSource hsource
  refine ⟨source, source.reading, hsource, rfl, hread, List.map_map.trans hnames, ?_⟩
  rw [ApiSource.reading, List.forall₂_map_right_iff]
  refine hfunctions.imp ?_
  rintro action function ⟨binding, hbind, hfunction⟩
  have hmethod : function.method = action.method := (clientFunction_eq_ok_iff.mp hfunction).2.1
  refine ⟨hmethod, wiredByPosition hbind hfunction, binding, hbind, fun placed hplaced => ?_⟩
  have hparameter := mem_sent_of_bind hbind hplaced
  exact ⟨hparameter, getElem?_identifier source.helper hparameter⟩

theorem stock_functions_read_by_position :
    (∃ bindings, stockController.bind.outcome = .ok bindings) ∧
      (∀ id ∈ stockController.typeIds, ∃ type, typeExpr stockTypes (.assign [] []) id = .ok type) ∧
      ∃ source read, (apiSource stockTypes (.assign [] []) {} stockController).outcome = .ok source ∧
        source.text = source.importText ++
          String.join (source.functions.map fun function => "\n" ++ function.text {}) ∧
        readApi {} source.text = some read ∧
        read.functions.map FunctionReading.name = functionNames (.assign [] []) {} stockController.actions ∧
        List.Forall₂ (ReadsByPosition stockTypes (.assign [] []) {} "Stock") stockController.actions
          read.functions := by
  have hbinds : ∃ bindings, stockController.bind.outcome = .ok bindings := ⟨_, rfl⟩
  have hwritten : ∀ id ∈ stockController.typeIds, ∃ type, typeExpr stockTypes (.assign [] []) id = .ok type :=
    fun id hid => stockTypes_written (.assign [] []) id (by simpa [Controller.typeIds, stockController] using hid)
  exact ⟨hbinds, hwritten, functions_read_by_position hbinds hwritten⟩

end ApiProxy.Script
