import ApiProxy.Proofs.Binding.Positions
import ApiProxy.Proofs.Names.Parameters
import ApiProxy.Proofs.Script.Functions

/-! What a generated function does with the parameters of its action. The signature, the URL, the query and the body
of a function are made one by one; each of them calls a parameter by the identifier at its position, and the
identifiers at different positions differ. -/

namespace ApiProxy.Script

variable {types : TypeMap} {names : TypeNames} {helper : Helper} {action : Action} {binding : Binding}
  {controllerName : String} {function : ClientFunction}

/-! ### Parts of a function -/

def UrlPart.identifier? : UrlPart → Option String
  | literal _ => none
  | value identifier _ => some identifier

/-- The identifiers that a function mentions behind its signature. -/
def ClientFunction.mentioned (function : ClientFunction) : List String :=
  function.url.filterMap UrlPart.identifier? ++ function.query.map QueryEntry.identifier ++ function.data?.toList

theorem clientFunction_eq_ok_iff {name : String} :
    clientFunction types names helper name action binding = .ok function ↔
      function.name = name ∧ function.method = action.method ∧
        signature types names action.parameters (parameterIdentifiers action helper) = .ok function.signature ∧
        action.returnType?.mapM (typeExpr types names) = .ok function.result? ∧
        function.url = binding.segments.map (urlPart (parameterIdentifiers action helper)) ∧
        binding.query.mapM (queryEntry types (parameterIdentifiers action helper)) = .ok function.query ∧
        function.data? = binding.body?.map (PlacedParameter.identifier (parameterIdentifiers action helper)) := by
  rw [clientFunction]
  simp only [Outcome.bind_eq_ok_iff]
  constructor
  · rintro ⟨entries, hentries, result?, hresult, query, hquery, hfunction⟩
    cases hfunction
    exact ⟨rfl, rfl, hentries, hresult, rfl, hquery, rfl⟩
  · obtain ⟨name, entries, result?, method, url, query, data?⟩ := function
    rintro ⟨rfl, rfl, hentries, hresult, rfl, hquery, rfl⟩
    exact ⟨entries, hentries, result?, hresult, query, hquery, rfl⟩

theorem forall₂_clientFunctions {actions : List Action} {bindings : List Binding} {functionNames : List String}
    {functions : List ClientFunction} (hlength : actions.length = functionNames.length)
    (hbound : List.Forall₂ (fun action binding => action.bind controllerName = .ok binding) actions bindings)
    (h : clientFunctions types names helper functionNames (actions.zip bindings) = .ok functions) :
    functions.map ClientFunction.name = functionNames ∧
      List.Forall₂ (fun action function => ∃ binding, action.bind controllerName = .ok binding ∧
        clientFunction types names helper function.name action binding = .ok function) actions functions := by
  induction hbound generalizing functionNames functions with
  | nil =>
      cases functionNames with
      | nil =>
          cases h
          exact ⟨rfl, .nil⟩
      | cons name functionNames => cases hlength
  | @cons action binding actions bindings hbind hrest ih =>
      cases functionNames with
      | nil => cases hlength
      | cons name functionNames =>
          rw [List.zip_cons_cons, clientFunctions] at h
          obtain ⟨function, hfunction, hrest⟩ := Outcome.bind_eq_ok_iff.mp h
          obtain ⟨others, hothers, hfunctions⟩ := Outcome.bind_eq_ok_iff.mp hrest
          cases hfunctions
          obtain ⟨hnames, hforall⟩ := ih (Nat.succ.inj hlength) hothers
          have hname : function.name = name := (clientFunction_eq_ok_iff.mp hfunction).1
          refine ⟨by rw [List.map_cons, hname, hnames], .cons ⟨binding, hbind, ?_⟩ hforall⟩
          rw [hname]
          exact hfunction

/-- Each action has its function, under a name of its own. -/
theorem functions_of_apiSource {controller : Controller} {source : ApiSource}
    (h : (apiSource types names helper controller).outcome = .ok source) :
    source.helper = helper ∧
      source.functions.map ClientFunction.name = functionNames names helper controller.actions ∧
      List.Forall₂ (fun action function => ∃ binding, action.bind controller.name = .ok binding ∧
        clientFunction types names helper function.name action binding = .ok function)
        controller.actions source.functions := by
  rw [apiSource, Traced.outcome_bind] at h
  obtain ⟨bindings, hbindings, hrest⟩ := Outcome.bind_eq_ok_iff.mp h
  rw [Traced.outcome_bind] at hrest
  obtain ⟨functions, hfunctions, hsource⟩ := Outcome.bind_eq_ok_iff.mp hrest
  cases hsource
  rw [controller.outcome_bind, Outcome.mapM_eq_ok_iff] at hbindings
  exact ⟨rfl, forall₂_clientFunctions (length_functionNames names helper controller.actions) hbindings hfunctions⟩

/-! ### The signature -/

theorem signature_identifiers {parameters : List Parameter} {identifiers : List String}
    {entries : List SignatureEntry} (hlength : parameters.length = identifiers.length)
    (h : signature types names parameters identifiers = .ok entries) :
    entries.map SignatureEntry.identifier = identifiers := by
  induction parameters generalizing identifiers entries with
  | nil =>
      cases h
      exact (List.length_eq_zero_iff.mp hlength.symm).symm
  | cons parameter later ih =>
      cases identifiers with
      | nil => cases hlength
      | cons identifier identifiers =>
          rw [signature] at h
          obtain ⟨type, _, hrest⟩ := Outcome.bind_eq_ok_iff.mp h
          obtain ⟨others, hothers, hentries⟩ := Outcome.bind_eq_ok_iff.mp hrest
          cases hentries
          rw [List.map_cons, ih (Nat.succ.inj hlength) hothers]

theorem signature_entry {parameters : List Parameter} {identifiers : List String} {entries : List SignatureEntry}
    (h : signature types names parameters identifiers = .ok entries) {position : Nat} {parameter : Parameter}
    {entry : SignatureEntry} (hparameter : parameters[position]? = some parameter)
    (hentry : entries[position]? = some entry) :
    typeExpr types names parameter.typeId = .ok entry.type ∧
      entry.presence = presence parameter (parameters.drop (position + 1)) := by
  induction parameters generalizing identifiers entries position with
  | nil => cases hparameter
  | cons first later ih =>
      cases identifiers with
      | nil =>
          cases h
          cases hentry
      | cons identifier identifiers =>
          rw [signature] at h
          obtain ⟨type, htype, hrest⟩ := Outcome.bind_eq_ok_iff.mp h
          obtain ⟨others, hothers, hentries⟩ := Outcome.bind_eq_ok_iff.mp hrest
          cases hentries
          cases position with
          | zero =>
              cases hparameter
              cases hentry
              exact ⟨htype, rfl⟩
          | succ position => exact ih hothers hparameter hentry

theorem presence_eq_optional_iff {parameter : Parameter} {later : List Parameter} :
    presence parameter later = .optional ↔ ∀ other ∈ parameter :: later, other.isOptional = true := by
  rw [presence, List.forall_mem_cons]
  cases parameter.isOptional <;> simp

theorem presence_eq_required_iff {parameter : Parameter} {later : List Parameter} :
    presence parameter later = .required ↔ parameter.isOptional = false := by
  rw [presence]
  cases parameter.isOptional with
  | false => simp
  | true => cases later.all Parameter.isOptional <;> simp

/-! ### Places behind the signature -/

/-- The identifier of a parameter that stands where it is said to stand is the one at its position. -/
theorem getElem?_identifier (helper : Helper) {placed : PlacedParameter}
    (h : action.parameters[placed.position]? = some placed.parameter) :
    (parameterIdentifiers action helper)[placed.position]? =
      some (PlacedParameter.identifier (parameterIdentifiers action helper) placed) := by
  have hbound := (List.getElem?_eq_some_iff.mp h).1
  rw [length_parameterIdentifiers action helper] at hbound
  rw [PlacedParameter.identifier, List.getD_eq_getElem?_getD, List.getElem?_eq_getElem hbound, Option.getD_some]

/-- How a segment of a template stands in a URL: literal text as it is, and a placeholder as the value of the first
path parameter of its name. -/
inductive WritesSegment (action : Action) (identifiers : List String) : Route.Segment → UrlPart → Prop where
  | literal (text : String) : WritesSegment action identifiers (.literal text) (.literal text)
  | placeholder {name identifier : String} (mark : Bool) {position : Nat} {parameter : Parameter}
      (hfirst : action.FirstOfName name position) (hparameter : action.parameters[position]? = some parameter)
      (hidentifier : identifiers[position]? = some identifier) :
      WritesSegment action identifiers (.placeholder name mark) (.value identifier parameter.isOptional)

/-- An entry of the query tests and sends the parameter at a position, under the name that the schema gives it. -/
def Sends (types : TypeMap) (action : Action) (identifiers : List String) (position : Nat)
    (entry : QueryEntry) : Prop :=
  ∃ parameter, action.parameters[position]? = some parameter ∧ identifiers[position]? = some entry.identifier ∧
    entry.name = parameter.name ∧ types.isArray parameter.typeId = .ok entry.isList

theorem writesSegment_of_bind (helper : Helper) {segment : Route.Segment} {bound : BoundSegment}
    (h : action.bindSegment controllerName segment = .ok bound) :
    WritesSegment action (parameterIdentifiers action helper) segment
      (urlPart (parameterIdentifiers action helper) bound) := by
  rcases bindSegment_eq_ok_iff.mp h with ⟨text, rfl, rfl⟩ | ⟨name, mark, placed, rfl, rfl, hfound⟩
  · exact .literal text
  · obtain ⟨hparameter, hfirst⟩ := Action.find?_placedAs_path hfound
    exact .placeholder mark hfirst hparameter (getElem?_identifier helper hparameter)

theorem url_of_bind (helper : Helper) (h : action.bind controllerName = .ok binding) :
    List.Forall₂ (WritesSegment action (parameterIdentifiers action helper)) (Route.segments action.template)
      (binding.segments.map (urlPart (parameterIdentifiers action helper))) := by
  rw [List.forall₂_map_right_iff]
  exact (Outcome.mapM_eq_ok_iff.mp (bind_eq_ok_iff.mp h).1).imp fun _ _ => writesSegment_of_bind helper

theorem query_of_function {entries : List QueryEntry} (h : action.bind controllerName = .ok binding)
    (hentries : binding.query.mapM (queryEntry types (parameterIdentifiers action helper)) = .ok entries) :
    List.Forall₂ (Sends types action (parameterIdentifiers action helper)) (action.positions .query) entries := by
  rw [(bind_eq_ok_iff.mp h).2.2.1, Outcome.mapM_eq_ok_iff] at hentries
  rw [← action.positions_placedAs .query, List.forall₂_map_left_iff]
  have hplaced : ∀ placed ∈ action.placedAs .query, action.parameters[placed.position]? = some placed.parameter :=
    fun placed hmem => (Action.mem_placedAs.mp hmem).1
  refine ((List.forall₂_and_left _ _).mpr ⟨hplaced, hentries⟩).imp ?_
  rintro placed entry ⟨hparameter, hentry⟩
  obtain ⟨isList, hisList, rfl⟩ := Outcome.map_eq_ok_iff.mp hentry
  exact ⟨placed.parameter, hparameter, getElem?_identifier helper hparameter, rfl, hisList⟩

/-- The body is the one parameter of its kind, if there is one. -/
theorem data_of_bind (helper : Helper) (h : action.bind controllerName = .ok binding) :
    List.Forall₂ (fun position identifier => (parameterIdentifiers action helper)[position]? = some identifier)
      (action.positions .body)
      (binding.body?.map (PlacedParameter.identifier (parameterIdentifiers action helper))).toList := by
  obtain ⟨_, hbodies, _, hbody, _⟩ := bind_eq_ok_iff.mp h
  have hplaced : ∀ placed ∈ action.placedAs .body, action.parameters[placed.position]? = some placed.parameter :=
    fun placed hmem => (Action.mem_placedAs.mp hmem).1
  rw [← action.positions_placedAs .body, hbody]
  generalize action.placedAs .body = bodies at hbodies hplaced ⊢
  match bodies, hbodies with
  | [], _ => exact .nil
  | [placed], _ => exact .cons (getElem?_identifier helper (hplaced placed List.mem_cons_self)) .nil

/-! ### Functions as a whole -/

/-- Where a function puts the parameters of its action, told by the positions of their identifiers. -/
structure PlacedByPosition (types : TypeMap) (action : Action) (identifiers : List String)
    (function : ClientFunction) : Prop where
  distinct : identifiers.Nodup
  signature : function.signature.map SignatureEntry.identifier = identifiers
  url : List.Forall₂ (WritesSegment action identifiers) (Route.segments action.template) function.url
  query : List.Forall₂ (Sends types action identifiers) (action.positions .query) function.query
  data : List.Forall₂ (fun position identifier => identifiers[position]? = some identifier)
    (action.positions .body) function.data?.toList

theorem placedByPosition {name : String} (hbind : action.bind controllerName = .ok binding)
    (hfunction : clientFunction types names helper name action binding = .ok function) :
    PlacedByPosition types action (parameterIdentifiers action helper) function := by
  obtain ⟨_, _, hsignature, _, hurl, hquery, hdata⟩ := clientFunction_eq_ok_iff.mp hfunction
  exact ⟨nodup_parameterIdentifiers action helper,
    signature_identifiers (length_parameterIdentifiers action helper) hsignature, hurl ▸ url_of_bind helper hbind,
    query_of_function hbind hquery, hdata ▸ data_of_bind helper hbind⟩

namespace PlacedByPosition

variable {identifiers : List String} (h : PlacedByPosition types action identifiers function)

include h

/-- Whatever is mentioned stands at some position of the signature. -/
theorem mem_of_mentioned {identifier : String} (hmem : identifier ∈ function.mentioned) :
    identifier ∈ identifiers := by
  rw [ClientFunction.mentioned, List.mem_append, List.mem_append] at hmem
  rcases hmem with (hmem | hmem) | hmem
  · obtain ⟨part, hpart, hvalue⟩ := List.mem_filterMap.mp hmem
    obtain ⟨segment, -, hwrites⟩ := exists_left_of_forall₂ h.url hpart
    cases hwrites with
    | literal text => cases hvalue
    | placeholder mark _ _ hidentifier =>
        cases hvalue
        exact List.mem_of_getElem? hidentifier
  · obtain ⟨entry, hentry, rfl⟩ := List.mem_map.mp hmem
    obtain ⟨position, -, _, -, hsends, -⟩ := exists_left_of_forall₂ h.query hentry
    exact List.mem_of_getElem? hsends
  · obtain ⟨position, -, hsends⟩ := exists_left_of_forall₂ h.data hmem
    exact List.mem_of_getElem? hsends

/-- What stands at no placeholder and goes neither into the query nor into the body is not mentioned. -/
theorem notMem_mentioned {position : Nat} {identifier : String} (hpath : position ∈ action.positions .path)
    (hidentifier : identifiers[position]? = some identifier)
    (hunplaced : ∀ name mark, .placeholder name mark ∈ Route.segments action.template →
      ¬action.FirstOfName name position) : identifier ∉ function.mentioned := by
  obtain ⟨parameter, hparameter, hbinding⟩ := Action.mem_positions.mp hpath
  have hbound := (List.getElem?_eq_some_iff.mp hidentifier).1
  -- an identifier stands at one position only, so the place where it is mentioned tells what it is
  have hsame : ∀ other, identifiers[other]? = some identifier → other = position := fun other hother =>
    ((List.getElem?_inj hbound h.distinct).mp (hidentifier.trans hother.symm)).symm
  rw [ClientFunction.mentioned, List.mem_append, List.mem_append]
  rintro ((hmem | hmem) | hmem)
  · obtain ⟨part, hpart, hvalue⟩ := List.mem_filterMap.mp hmem
    obtain ⟨segment, hsegment, hwrites⟩ := exists_left_of_forall₂ h.url hpart
    cases hwrites with
    | literal text => cases hvalue
    | placeholder mark hfirst _ hother =>
        cases hvalue
        cases hsame _ hother
        exact hunplaced _ mark hsegment hfirst
  · obtain ⟨entry, hentry, rfl⟩ := List.mem_map.mp hmem
    obtain ⟨other, hother, _, _, hsends, _⟩ := exists_left_of_forall₂ h.query hentry
    obtain ⟨parameter', hparameter', hbinding'⟩ := Action.mem_positions.mp hother
    cases hsame _ hsends
    cases hparameter.symm.trans hparameter'
    cases hbinding.symm.trans hbinding'
  · obtain ⟨other, hother, hsends⟩ := exists_left_of_forall₂ h.data hmem
    obtain ⟨parameter', hparameter', hbinding'⟩ := Action.mem_positions.mp hother
    cases hsame _ hsends
    cases hparameter.symm.trans hparameter'
    cases hbinding.symm.trans hbinding'

end PlacedByPosition

/-- Numbers, and lists of them. -/
def stockTypes : TypeMap where
  entries := [("Int", .primitive .integer), ("Ids", .array "Int")]
  distinct := by decide

/-- Two equal path parameters for a placeholder that comes twice, and query parameters that are equal or differ in
a character that no identifier may hold. -/
def stockMove : Action :=
  ⟨"move", .post, "/api/stock/\x7bid\x7d/to/\x7bID\x7d",
    [⟨"id", .path, "Int", false⟩, ⟨"id", .path, "Int", false⟩, ⟨"tag-s", .query, "Ids", true⟩,
      ⟨"tag s", .query, "Ids", true⟩, ⟨"amount", .body, "Int", false⟩, ⟨"tag s", .query, "Ids", true⟩], none⟩

def stockController : Controller := ⟨"Stock", "Stock", [stockMove]⟩

theorem typeExpr_stockNumber (names : TypeNames) (met : List String) (hnew : "Int" ∉ met) :
    writeType stockTypes names met "Int" = .ok (.primitive "number") := by
  rw [writeType, if_neg hnew]
  rfl

theorem isArray_stockNumber : stockTypes.isArray "Int" = .ok false := by
  rw [TypeMap.isArray, TypeMap.resolve, TypeMap.followReferences, if_neg (by simp)]
  rfl

theorem stockTypes_written (names : TypeNames) :
    ∀ id ∈ stockMove.typeIds, ∃ type, typeExpr stockTypes names id = .ok type := by
  have hids : ∀ id ∈ stockMove.typeIds, id = "Int" ∨ id = "Ids" := by decide
  intro id hid
  rcases hids id hid with rfl | rfl
  · exact ⟨_, typeExpr_stockNumber names [] (by simp)⟩
  · refine ⟨.list (.primitive "number"), ?_⟩
    rw [typeExpr, writeType, if_neg (by simp)]
    change (writeType stockTypes names ["Ids"] "Int").map TypeExpr.list = _
    rw [typeExpr_stockNumber names ["Ids"] (by decide)]
    rfl

end ApiProxy.Script
