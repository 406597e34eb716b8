import ApiProxy.Proofs.Script.TopLevelNames

/-! The names that the functions of an API file bind: their own and those of their parameters. All of them are
identifiers and none is a reserved word, but two names that strict code keeps to itself are no reserved words and pass
unchanged. A name is bound as one of these exactly if an action or a parameter asks for it and nothing else in the file
has it. -/

namespace ApiProxy.Script

variable {types : TypeMap} {names : TypeNames} {helper : Helper} {controller : Controller} {source : ApiSource}
  {word : String}

/-- Names that strict code does not let anything be called, though they are no reserved words. -/
def strictNames : List String := ["arguments", "eval"]

/-- A name that a function or a parameter of a module may have. -/
structure IsBindingName (name : String) : Prop where
  identifier : isIdentifier name = true
  bindable : name ∉ unbindable

def ClientFunction.boundNames (function : ClientFunction) : List String :=
  function.name :: function.signature.map SignatureEntry.identifier

/-- The names of the functions of a file and of their parameters. -/
def ApiSource.boundNames (source : ApiSource) : List String := source.functions.flatMap ClientFunction.boundNames

/-- An action or a parameter asks for a name that no type of the file and not the helper has. Types do not stand in
the way of parameters. -/
inductive AskedFor (names : TypeNames) (helper : Helper) (controller : Controller) (word : String) : Prop where
  | action {action : Action} (haction : action ∈ controller.actions) (hname : camelCase action.name = word)
      (hhelper : word ≠ helper.name) (htypes : word ∉ names.identifiers)
  | parameter {action : Action} {parameter : Parameter} (haction : action ∈ controller.actions)
      (hparameter : parameter ∈ action.parameters) (hname : parameter.name = word) (hhelper : word ≠ helper.name)

/-! ### Strict names -/

theorem mem_unbindable_iff {name : String} (hreserved : name ∉ reservedWords) :
    name ∈ unbindable ↔ name ∈ strictNames := by
  have hwords : ∀ name ∈ unbindable, name ∈ reservedWords ∨ name ∈ strictNames := by decide +kernel
  have hstrict : ∀ name ∈ strictNames, name ∈ unbindable := by decide +kernel
  exact ⟨fun hmem => (hwords name hmem).resolve_left hreserved, hstrict name⟩

theorem isAlpha_of_mem_strictNames (h : word ∈ strictNames) : ∀ d ∈ word.toList, d.isAlpha = true := by
  have hall : ∀ word ∈ strictNames, word.toList.all Char.isAlpha = true := by decide +kernel
  exact List.all_eq_true.mp (hall word h)

theorem sanitize_eq_strict_iff (h : word ∈ strictNames) {name : String} : sanitize name = word ↔ name = word := by
  have hall : ∀ word ∈ strictNames, isIdentifier word = true ∧ word ∉ reservedWords := by decide +kernel
  exact sanitize_eq_letters_iff (isAlpha_of_mem_strictNames h) (hall word h).1 (hall word h).2

theorem mem_functionNames_iff (h : word ∈ strictNames) {actions : List Action} :
    word ∈ functionNames names helper actions ↔
      word ≠ helper.name ∧ word ∉ names.identifiers ∧ ∃ action ∈ actions, camelCase action.name = word := by
  have hletters := isAlpha_of_mem_strictNames h
  -- the word ends in a letter, so no number was put behind it
  have hfirst : ∀ name k, numbered name k = word → k = 0 := by
    intro name k hk
    cases k with
    | zero => rfl
    | succ k => exact absurd hk (numbered_ne_of_letters hletters name k)
  have hglobals : word ∉ runtimeGlobals := by
    have hall : ∀ word ∈ strictNames, word ∉ runtimeGlobals := by decide +kernel
    exact hall word h
  rw [functionNames, freshNames_eq_chosenNames, mem_chosenNames_iff numbered_injective hfirst, takenByFile]
  simp [hglobals, functionIdentifier, numbered, sanitize_eq_strict_iff h, and_comm, and_assoc]

theorem mem_parameterIdentifiers_iff (h : word ∈ strictNames) {action : Action} :
    word ∈ parameterIdentifiers action helper ↔
      word ≠ helper.name ∧ ∃ parameter ∈ action.parameters, parameter.name = word := by
  have hletters := isAlpha_of_mem_strictNames h
  -- nor was it padded with underscores
  have hfirst : ∀ name count, padded (sanitize name) count = word → count = 0 := by
    intro name count hcount
    cases count with
    | zero => rfl
    | succ count => exact absurd hcount (padded_ne_of_letters hletters (sanitize name) count)
  have hother : word ∉ localNames ∧ word ∉ runtimeGlobals := by
    have hall : ∀ word ∈ strictNames, word ∉ localNames ∧ word ∉ runtimeGlobals := by decide +kernel
    exact hall word h
  rw [parameterIdentifiers, paddedNames_eq_chosenNames,
    mem_chosenNames_iff (fun name => padded_injective (sanitize name)) hfirst]
  simp [hother, padded, sanitize_eq_strict_iff h]

/-! ### Bound names -/

theorem mem_boundNames_iff (h : (apiSource types names helper controller).outcome = .ok source) {name : String} :
    name ∈ source.boundNames ↔ name ∈ functionNames names helper controller.actions ∨
      ∃ action ∈ controller.actions, name ∈ parameterIdentifiers action helper := by
  obtain ⟨_, hnames, hfunctions⟩ := functions_of_apiSource h
  have hparameters : (∃ function ∈ source.functions, name ∈ function.signature.map SignatureEntry.identifier) ↔
      ∃ action ∈ controller.actions, name ∈ parameterIdentifiers action helper := by
    apply exists_mem_iff_of_forall₂ hfunctions
    rintro action function ⟨binding, _, hmade⟩
    obtain ⟨_, _, hsignature, _⟩ := clientFunction_eq_ok_iff.mp hmade
    rw [signature_identifiers (length_parameterIdentifiers action helper) hsignature]
  rw [← hnames, ← hparameters, ApiSource.boundNames, List.mem_flatMap, List.mem_map, ← exists_or]
  apply exists_congr
  intro function
  rw [ClientFunction.boundNames, List.mem_cons, and_or_left, eq_comm]

theorem isIdentifier_of_mem_boundNames (h : (apiSource types names helper controller).outcome = .ok source)
    {name : String} (hname : name ∈ source.boundNames) : isIdentifier name = true ∧ name ∉ reservedWords := by
  rcases (mem_boundNames_iff h).mp hname with hfunction | ⟨action, _, hparameter⟩
  · have hfree := isFreeName_of_mem_functionNames hfunction
    exact ⟨hfree.identifier, hfree.unreserved⟩
  · exact isIdentifier_of_mem_paddedNames hparameter

theorem strict_mem_boundNames_iff (h : (apiSource types names helper controller).outcome = .ok source)
    (hstrict : word ∈ strictNames) : word ∈ source.boundNames ↔ AskedFor names helper controller word := by
  rw [mem_boundNames_iff h, mem_functionNames_iff hstrict]
  constructor
  · rintro (⟨hhelper, htypes, action, haction, hname⟩ | ⟨action, haction, hparameter⟩)
    · exact .action haction hname hhelper htypes
    · obtain ⟨hhelper, parameter, hparameter, hname⟩ := (mem_parameterIdentifiers_iff hstrict).mp hparameter
      exact .parameter haction hparameter hname hhelper
  · rintro (⟨haction, hname, hhelper, htypes⟩ | ⟨haction, hparameter, hname, hhelper⟩)
    · exact Or.inl ⟨hhelper, htypes, _, haction, hname⟩
    · exact Or.inr ⟨_, haction, (mem_parameterIdentifiers_iff hstrict).mpr ⟨hhelper, _, hparameter, hname⟩⟩

/-- The names of the functions and of their parameters are identifiers, and strict code lets them be bound unless they are
the two that it keeps to itself. So a file binds nothing but legal names exactly if none of these two is asked for. -/
theorem bound_names_legal_iff (h : (apiSource types names helper controller).outcome = .ok source) :
    (∀ name ∈ source.boundNames, isIdentifier name = true ∧ (name ∈ unbindable ↔ name ∈ strictNames)) ∧
      (∀ word ∈ strictNames, word ∈ source.boundNames ↔ AskedFor names helper controller word) ∧
      ((∀ name ∈ source.boundNames, IsBindingName name) ↔
        ∀ word ∈ strictNames, ¬AskedFor names helper controller word) := by
  have hlegal : ∀ name ∈ source.boundNames, isIdentifier name = true ∧ (name ∈ unbindable ↔ name ∈ strictNames) := by
    intro name hname
    obtain ⟨hidentifier, hreserved⟩ := isIdentifier_of_mem_boundNames h hname
    exact ⟨hidentifier, mem_unbindable_iff hreserved⟩
  refine ⟨hlegal, fun word hstrict => strict_mem_boundNames_iff h hstrict, ?_⟩
  constructor
  · intro hbinding word hstrict hasked
    have hname := (strict_mem_boundNames_iff h hstrict).mpr hasked
    exact (hbinding word hname).bindable ((hlegal word hname).2.mpr hstrict)
  · intro hnone name hname
    refine ⟨(hlegal name hname).1, fun hmem => ?_⟩
    have hstrict := (hlegal name hname).2.mp hmem
    exact hnone name hstrict ((strict_mem_boundNames_iff h hstrict).mp hname)

/-- A controller whose only action takes one parameter, which fills the end of its path. -/
def orderController (action parameter : String) : Controller :=
  ⟨"Order", "Order", [⟨action, .get, "/api/order/\x7b" ++ parameter ++ "\x7d", [⟨parameter, .path, "Int", false⟩], none⟩]⟩

def orderSource (function identifier : String) : ApiSource where
  helper := {}
  functions := [⟨function, [⟨identifier, .primitive "number", .required⟩], none, .get,
    [.literal "/api/order/", .value identifier false], [], none⟩]

theorem apiSource_order {action parameter function identifier : String}
    (hbind : (orderController action parameter).bind.outcome = .ok [⟨[.literal "/api/order/",
      .parameter ⟨0, ⟨parameter, .path, "Int", false⟩⟩], [], none, []⟩])
    (hfunction : functionNames .empty {} (orderController action parameter).actions = [function])
    (hidentifier : paddedNames (localNames ++ ["request"] ++ runtimeGlobals) [parameter] = [identifier]) :
    (apiSource stockTypes .empty {} (orderController action parameter)).outcome =
      .ok (orderSource function identifier) := by
  have hwritten : typeExpr stockTypes .empty "Int" = .ok (.primitive "number") :=
    typeExpr_stockNumber .empty [] (by simp)
  have hmade : ∀ called, clientFunction stockTypes .empty {} called
      ⟨action, .get, "/api/order/\x7b" ++ parameter ++ "\x7d", [⟨parameter, .path, "Int", false⟩], none⟩
      ⟨[.literal "/api/order/", .parameter ⟨0, ⟨parameter, .path, "Int", false⟩⟩], [], none, []⟩ =
      .ok ⟨called, [⟨identifier, .primitive "number", .required⟩], none, .get,
        [.literal "/api/order/", .value identifier false], [], none⟩ := by
    intro called
    have hparameters : parameterIdentifiers ⟨action, .get, "/api/order/\x7b" ++ parameter ++ "\x7d",
        [⟨parameter, .path, "Int", false⟩], none⟩ {} = [identifier] := hidentifier
    rw [clientFunction_eq_ok_iff, hparameters]
    refine ⟨rfl, rfl, ?_, rfl, rfl, rfl, rfl⟩
    rw [signature, hwritten]
    rfl
  rw [apiSource, Traced.outcome_bind]
  refine Outcome.bind_eq_ok_iff.mpr ⟨_, hbind, ?_⟩
  rw [Traced.outcome_bind, hfunction]
  refine Outcome.bind_eq_ok_iff.mpr ⟨_, ?_, rfl⟩
  show (do
    let function ← clientFunction stockTypes .empty {} function _ _
    _) = _
  rw [hmade]
  rfl

/-- Two reserved words are bound with an underscore behind them. -/
theorem reserved_words_bound_legally :
    (apiSource stockTypes .empty {} (orderController "Delete" "new")).outcome = .ok (orderSource "delete_" "new_") ∧
      (orderSource "delete_" "new_").boundNames = ["delete_", "new_"] ∧
      ∀ name ∈ (orderSource "delete_" "new_").boundNames, IsBindingName name := by
  have hsource : (apiSource stockTypes .empty {} (orderController "Delete" "new")).outcome =
      .ok (orderSource "delete_" "new_") :=
    apiSource_order rfl (by decide +kernel) (by decide +kernel)
  obtain ⟨-, hstrict, hlegal⟩ := bound_names_legal_iff hsource
  refine ⟨hsource, rfl, hlegal.mpr fun word hword hasked => ?_⟩
  have hapart : ∀ word ∈ strictNames, word ∉ (orderSource "delete_" "new_").boundNames := by decide
  exact hapart word hword ((hstrict word hword).mpr hasked)

/-- The two names that strict code keeps to itself are bound as they are. -/
theorem strict_names_are_bound : ∃ source,
    (apiSource stockTypes .empty {} (orderController "Eval" "arguments")).outcome = .ok source ∧
      source.boundNames = ["eval", "arguments"] ∧ (∀ name ∈ source.boundNames, name ∈ unbindable) ∧
      ¬∀ name ∈ source.boundNames, IsBindingName name := by
  have hmembers : ∀ name ∈ (orderSource "eval" "arguments").boundNames, name ∈ unbindable := by decide
  refine ⟨_, apiSource_order rfl (by decide +kernel) (by decide +kernel), rfl, hmembers, fun hlegal => ?_⟩
  exact (hlegal "eval" List.mem_cons_self).bindable (hmembers "eval" List.mem_cons_self)

end ApiProxy.Script
