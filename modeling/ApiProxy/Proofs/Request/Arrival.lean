import ApiProxy.Proofs.Request.Address

/-! What arrives of the query of a request. Literal text of a template may hold a question mark or a number sign, which
begins a query or a fragment in front of the one that the function appends. The entries arrive for all arguments
exactly if there is none. -/

namespace ApiProxy.Script

variable {types : TypeMap} {names : TypeNames} {action : Action} {identifiers : List String}
  {function : ClientFunction} {arguments : List Argument}

/-- In front of a query of its own a URL that ends in its path is a path only. -/
theorem queryComponent_append {path query : List Char} (hpath : '?' ∉ path ∧ '#' ∉ path) (hquery : '#' ∉ query) :
    Url.queryComponent (path ++ '?' :: query) = query := by
  have hfragment : '#' ∉ path ++ '?' :: query := by
    rw [List.mem_append, List.mem_cons]
    rintro (h | h | h)
    · exact hpath.2 h
    · simp at h
    · exact hquery h
  rw [Url.queryComponent, cutAt_of_notMem hfragment, cutAt_append hpath.1]
  rfl

theorem queryComponent_path {path : List Char} (hpath : '?' ∉ path ∧ '#' ∉ path) : Url.queryComponent path = [] := by
  rw [Url.queryComponent, cutAt_of_notMem hpath.2, cutAt_of_notMem hpath.1]
  rfl

theorem read_requestUrl (hplaced : PlacedByPosition types action identifiers function)
    (hclean : action.EndsInPath) (hfits : action.Fits types arguments) :
    Form.read (Url.queryComponent (function.requestUrl arguments)) = action.queryEntries arguments := by
  have hpath : '?' ∉ function.path arguments ∧ '#' ∉ function.path arguments :=
    ⟨notMem_path hplaced hclean (Or.inl rfl), notMem_path hplaced hclean (Or.inr rfl)⟩
  rw [ClientFunction.requestUrl, ← searchParams_eq hplaced hfits]
  split
  · next hempty =>
      rw [queryComponent_path hpath, ← Form.read_write (function.searchParams arguments), List.isEmpty_iff.mp hempty]
  · rw [queryComponent_append hpath (Form.notMem_write (by decide) _), Form.read_write]

/-! ### What is lost -/

/-- Behind a path with a question mark or a number sign in it some entry does not arrive. -/
theorem exists_lost (path : List Char) (hpath : '?' ∈ path ∨ '#' ∈ path) (name : String) : ∃ value,
    (name, value) ∉ Form.read (Url.queryComponent (path ++ '?' :: Form.writeEntry (name, value))) := by
  by_cases hfragment : '#' ∈ path
  · -- the query ends before the entry comes, so it is the same for all values
    obtain ⟨count, _, hfree⟩ := exists_free ((Form.read (Url.queryComponent path)).map Prod.snd) (padded_injective "")
    refine ⟨padded "" count, fun hmem => hfree ?_⟩
    rw [Url.queryComponent, cutAt_append_fst hfragment] at hmem
    exact List.mem_map_of_mem hmem
  · obtain ⟨before, after, rfl, hbefore⟩ := List.eq_append_cons_of_mem (hpath.resolve_right hfragment)
    obtain ⟨early, last, hread⟩ := Form.exists_read_append after
    obtain ⟨count, _, hfree⟩ := exists_free (early.map Prod.snd) (padded_injective "")
    refine ⟨padded "" count, fun hmem => ?_⟩
    have hwhole : '#' ∉ (before ++ '?' :: after) ++ '?' :: Form.writeEntry (name, padded "" count) := by
      rw [List.mem_append, List.mem_cons]
      rintro (h | h | h)
      · exact hfragment h
      · simp at h
      · exact Form.notMem_writeEntry (by decide) _ h
    rw [Url.queryComponent, cutAt_of_notMem hwhole, List.append_assoc, List.cons_append, cutAt_append hbefore,
      Option.getD_some, hread, List.mem_append, List.mem_singleton] at hmem
    rcases hmem with hmem | heq
    · exact hfree (List.mem_map_of_mem hmem)
    · exact Form.readEntry_append_ne last _ heq.symm

/-- The path of a function that is given nothing for it. -/
def ClientFunction.barePath (function : ClientFunction) : List Char :=
  function.url.flatMap (UrlPart.evaluate fun _ => .absent)

/-- Literal text stands in the path whatever the arguments are. -/
theorem mem_barePath (hplaced : PlacedByPosition types action identifiers function)
    (hdirty : ¬action.EndsInPath) : '?' ∈ function.barePath ∨ '#' ∈ function.barePath := by
  simp only [Action.EndsInPath, not_forall] at hdirty
  obtain ⟨text, hsegment, hdirty⟩ := hdirty
  obtain ⟨part, hpart, hwrites⟩ := exists_right_of_forall₂ hplaced.url hsegment
  cases hwrites
  have hmem : ∀ c ∈ text.toList, c ∈ function.barePath := fun c hc => List.mem_flatMap.mpr ⟨_, hpart, hc⟩
  by_cases hquestion : '?' ∈ text.toList
  · exact Or.inl (hmem _ hquestion)
  · exact Or.inr (hmem _ (not_not.mp fun hsign => hdirty ⟨hquestion, hsign⟩))

/-- Arguments that are all absent but one. -/
def soleArguments (action : Action) (position : Nat) (argument : Argument) : List Argument :=
  (List.replicate action.parameters.length .absent).set position argument

theorem flatMap_zip_sole {α β γ : Type} {f : α → β → List γ} {empty : β} (hempty : ∀ a, f a empty = [])
    {left : List α} {n : Nat} {a : α} (h : left[n]? = some a) (b : β) :
    ((left.zip ((List.replicate left.length empty).set n b)).flatMap fun pair => f pair.1 pair.2) = f a b := by
  induction left generalizing n with
  | nil => cases h
  | cons first left ih =>
      rw [List.length_cons, List.replicate_succ]
      cases n with
      | zero =>
          cases h
          have hrest : ((left.zip (List.replicate left.length empty)).flatMap fun pair => f pair.1 pair.2) = [] := by
            refine List.flatMap_eq_nil_iff.mpr fun pair hpair => ?_
            rw [List.eq_of_mem_replicate (List.of_mem_zip hpair).2, hempty]
          rw [List.set_cons_zero, List.zip_cons_cons, List.flatMap_cons, hrest, List.append_nil]
      | succ n =>
          rw [List.set_cons_succ, List.zip_cons_cons, List.flatMap_cons, hempty, List.nil_append]
          exact ih h

theorem queryEntries_sole {position : Nat} {parameter : Parameter}
    (hparameter : action.parameters[position]? = some parameter) (hbinding : parameter.binding = .query)
    (argument : Argument) :
    action.queryEntries (soleArguments action position argument) =
      argument.values.map (Prod.mk parameter.name) := by
  have hempty : ∀ other : Parameter, other.queryEntries .absent = [] := by
    intro other
    rw [Parameter.queryEntries]
    split <;> rfl
  exact (flatMap_zip_sole hempty hparameter argument).trans (if_pos hbinding)

theorem path_sole (hplaced : PlacedByPosition types action identifiers function) {position : Nat}
    {parameter : Parameter} (hparameter : action.parameters[position]? = some parameter)
    (hbinding : parameter.binding = .query) (argument : Argument) :
    function.path (soleArguments action position argument) = function.barePath := by
  refine List.flatMap_congr fun part hpart => ?_
  obtain ⟨segment, _, hwrites⟩ := exists_left_of_forall₂ hplaced.url hpart
  cases hwrites with
  | literal text => rfl
  | @placeholder name identifier mark other named hfirst hnamed hidentifier =>
      obtain ⟨_, hother, hpath, _⟩ := hfirst.named
      have hne : position ≠ other := by
        rintro rfl
        cases hparameter.symm.trans hother
        cases hbinding.symm.trans hpath
      have habsent : (soleArguments action position argument)[other]? = some .absent := by
        rw [soleArguments, List.getElem?_set_ne hne, List.getElem?_replicate]
        exact if_pos (List.getElem?_eq_some_iff.mp hother).1
      rw [UrlPart.evaluate, UrlPart.evaluate, valueOf_eq hplaced hidentifier habsent]

theorem fits_sole {position : Nat} {parameter : Parameter} {argument : Argument} {isList : Bool}
    (hparameter : action.parameters[position]? = some parameter)
    (hisArray : types.isArray parameter.typeId = .ok isList) (hargument : argument.Fits isList) :
    action.Fits types (soleArguments action position argument) := by
  refine ⟨by rw [soleArguments, List.length_set, List.length_replicate], ?_⟩
  intro other named given givenIsList hnamed _ hgivenIsList hgiven
  rw [soleArguments, List.getElem?_set] at hgiven
  split at hgiven
  · next heq =>
      subst heq
      cases hparameter.symm.trans hnamed
      cases hisArray.symm.trans hgivenIsList
      split at hgiven
      · cases hgiven
        exact hargument
      · cases hgiven
  · cases List.eq_of_mem_replicate (List.mem_of_getElem? hgiven)
    exact .absent givenIsList

theorem exists_fits_values (value : String) (isList : Bool) :
    ∃ argument : Argument, argument.Fits isList ∧ argument.values = [value] := by
  cases isList with
  | false => exact ⟨.scalar value, .scalar value, rfl⟩
  | true => exact ⟨.list [value], .list [value], rfl⟩

theorem requestUrl_of_searchParams {entry : String × String} (h : function.searchParams arguments = [entry]) :
    function.requestUrl arguments = function.path arguments ++ '?' :: Form.writeEntry entry := by
  have hfilled : ¬(Form.writeEntry entry).isEmpty = true := by simp [Form.writeEntry]
  rw [ClientFunction.requestUrl, h, Form.write_singleton]
  exact if_neg hfilled

/-- Behind a template with a query or a fragment of its own a query parameter has a value that does not arrive. -/
theorem exists_lost_arguments (hplaced : PlacedByPosition types action identifiers function) {position : Nat}
    {parameter : Parameter} (hparameter : action.parameters[position]? = some parameter)
    (hbinding : parameter.binding = .query) (hdirty : ¬action.EndsInPath) : ∃ arguments,
    action.Fits types arguments ∧ ¬(action.queryEntries arguments).Sublist
      (Form.read (Url.queryComponent (function.requestUrl arguments))) := by
  obtain ⟨entry, _, _, hat, _, _, hisArray⟩ :=
    exists_right_of_forall₂ hplaced.query (Action.mem_positions.mpr ⟨parameter, hparameter, hbinding⟩)
  cases hparameter.symm.trans hat
  obtain ⟨value, hlost⟩ := exists_lost _ (mem_barePath hplaced hdirty) parameter.name
  obtain ⟨argument, hargument, hvalues⟩ := exists_fits_values value entry.isList
  have hfits := fits_sole hparameter hisArray hargument
  have hentries : action.queryEntries (soleArguments action position argument) = [(parameter.name, value)] := by
    rw [queryEntries_sole hparameter hbinding, hvalues, List.map_singleton]
  have hurl := requestUrl_of_searchParams ((searchParams_eq hplaced hfits).trans hentries)
  rw [path_sole hplaced hparameter hbinding] at hurl
  refine ⟨_, hfits, fun harrives => hlost ?_⟩
  rw [hentries, hurl] at harrives
  exact harrives.subset List.mem_cons_self

/-- The entries of a query arrive, whatever the arguments are, exactly if there is no query parameter or the literal
text of the template begins neither a query nor a fragment; and in that case nothing else arrives. -/
theorem query_arrives_iff {controllerName : String} (helper : Helper) (name : String)
    (hbinds : ∃ binding, action.bind controllerName = .ok binding)
    (hwritten : ∀ id ∈ action.typeIds, ∃ type, typeExpr types names id = .ok type) :
    ∃ binding function, action.bind controllerName = .ok binding ∧
      clientFunction types names helper name action binding = .ok function ∧
      ((∀ arguments, action.Fits types arguments → (action.queryEntries arguments).Sublist
          (Form.read (Url.queryComponent (function.requestUrl arguments)))) ↔
        (∀ parameter ∈ action.parameters, parameter.binding ≠ .query) ∨ action.EndsInPath) ∧
      (action.EndsInPath → ∀ arguments, action.Fits types arguments →
        Form.read (Url.queryComponent (function.requestUrl arguments)) = action.queryEntries arguments) := by
  obtain ⟨binding, hbind⟩ := hbinds
  obtain ⟨function, hfunction⟩ := exists_clientFunction helper name hbind hwritten
  have hplaced := placedByPosition hbind hfunction
  refine ⟨binding, function, hbind, hfunction, ⟨fun harrives => ?_, ?_⟩, fun hclean arguments hfits =>
    read_requestUrl hplaced hclean hfits⟩
  · by_contra hnot
    push Not at hnot
    obtain ⟨⟨parameter, hmem, hbinding⟩, hdirty⟩ := hnot
    obtain ⟨position, hparameter⟩ := List.mem_iff_getElem?.mp hmem
    obtain ⟨arguments, hfits, hlost⟩ := exists_lost_arguments hplaced hparameter hbinding hdirty
    exact hlost (harrives arguments hfits)
  · rintro (hnone | hclean) arguments hfits
    · have hempty : action.queryEntries arguments = [] := by
        refine List.flatMap_eq_nil_iff.mpr fun pair hpair => ?_
        exact if_neg (hnone pair.1 (List.of_mem_zip hpair).1)
      rw [hempty]
      exact List.nil_sublist _
    · rw [read_requestUrl hplaced hclean hfits]

theorem stock_query_arrives :
    (∃ binding, stockMove.bind "Stock" = .ok binding) ∧
      (∀ id ∈ stockMove.typeIds, ∃ type, typeExpr stockTypes .empty id = .ok type) ∧ ∃ binding function,
        stockMove.bind "Stock" = .ok binding ∧
          clientFunction stockTypes .empty {} "move" stockMove binding = .ok function ∧
          ∀ arguments, stockMove.Fits stockTypes arguments →
            Form.read (Url.queryComponent (function.requestUrl arguments)) = stockMove.queryEntries arguments := by
  have hclean : stockMove.EndsInPath := by
    have hsegments : Route.segments stockMove.template = [.literal "/api/stock/", .placeholder "id" false,
        .literal "/to/", .placeholder "ID" false] := by
      decide +kernel
    intro text hsegment
    rw [hsegments] at hsegment
    simp only [List.mem_cons, Route.Segment.literal.injEq, reduceCtorEq, List.not_mem_nil, or_false, false_or]
      at hsegment
    rcases hsegment with rfl | rfl
    · decide
    · decide
  have hbinds : ∃ binding, stockMove.bind "Stock" = .ok binding := ⟨_, rfl⟩
  obtain ⟨binding, function, hbind, hfunction, _, harrives⟩ :=
    query_arrives_iff {} "move" hbinds (stockTypes_written .empty)
  exact ⟨hbinds, stockTypes_written .empty, binding, function, hbind, hfunction, harrives hclean⟩

/-- An action whose template has a query of its own. -/
def stockSearch : Action := ⟨"search", .get, "/api/stock?kind=all", [⟨"filter", .query, "Int", true⟩], none⟩

def stockSearchFunction : ClientFunction where
  name := "search"
  signature := [⟨"filter", .primitive "number", .optional⟩]
  result? := none
  method := .get
  url := [.literal "/api/stock?kind=all"]
  query := [⟨"filter", "filter", false⟩]
  data? := none

def stockSearchBinding : Binding :=
  ⟨[.literal "/api/stock?kind=all"], [⟨0, ⟨"filter", .query, "Int", true⟩⟩], none, []⟩

theorem clientFunction_stockSearch :
    clientFunction stockTypes .empty {} "search" stockSearch stockSearchBinding = .ok stockSearchFunction := by
  have hidentifiers : parameterIdentifiers stockSearch {} = ["filter"] := by decide +kernel
  rw [clientFunction_eq_ok_iff, hidentifiers]
  refine ⟨rfl, rfl, ?_, rfl, rfl, ?_, rfl⟩
  · show signature stockTypes .empty [⟨"filter", .query, "Int", true⟩] ["filter"] = _
    rw [signature, typeExpr, typeExpr_stockNumber .empty [] (by simp)]
    rfl
  · refine Outcome.mapM_eq_ok_iff.mpr (.cons ?_ .nil)
    rw [queryEntry, isArray_stockNumber]
    rfl

theorem read_secondQuestionMark :
    Form.read "kind=all?filter=7".toList = [("kind", "all?filter=7")] := by
  have hpieces : pieces (· = '&') "kind=all?filter=7".toList = ["kind=all?filter=7".toList] := by decide +kernel
  have hcut : cutAt '=' "kind=all?filter=7".toList = ("kind".toList, some "all?filter=7".toList) := by
    decide +kernel
  have hname : Form.decode "kind".toList = "kind".toList := Form.decode_of_encode_eq (by decide +kernel)
  have hvalue : Form.decode "all?filter=7".toList = "all?filter=7".toList := by
    have hsplit : "all?filter=7".toList = "all".toList ++ '?' :: ("filter".toList ++ '=' :: "7".toList) := by
      decide +kernel
    rw [hsplit, Form.decode_append (Or.inr rfl), Form.decode_append (Or.inl rfl),
      Form.decode_of_encode_eq (by decide +kernel), Form.decode_of_encode_eq (by decide +kernel),
      Form.decode_of_encode_eq (by decide +kernel)]
  have hentry : Form.readEntry "kind=all?filter=7".toList = ("kind", "all?filter=7") := by
    rw [Form.readEntry, hcut]
    simp only [Option.getD_some, hname, hvalue, String.ofList_toList]
  rw [Form.read, hpieces]
  exact congrArg (fun entry => [entry]) hentry

/-- The entry comes behind a second question mark, and belongs to the value in front of it. -/
theorem template_query_takes_entry :
    stockSearch.bind "Stock" = .ok stockSearchBinding ∧
      clientFunction stockTypes .empty {} "search" stockSearch stockSearchBinding = .ok stockSearchFunction ∧
      stockSearch.Fits stockTypes [.scalar "7"] ∧
      stockSearchFunction.requestUrl [.scalar "7"] = "/api/stock?kind=all?filter=7".toList ∧
      stockSearch.queryEntries [.scalar "7"] = [("filter", "7")] ∧
      Form.read (Url.queryComponent (stockSearchFunction.requestUrl [.scalar "7"])) = [("kind", "all?filter=7")] ∧
      ¬(stockSearch.queryEntries [.scalar "7"]).Sublist
        (Form.read (Url.queryComponent (stockSearchFunction.requestUrl [.scalar "7"]))) := by
  have hfits : stockSearch.Fits stockTypes [.scalar "7"] := by
    refine ⟨rfl, ?_⟩
    rintro (_ | position) parameter argument isList hparameter _ hisList hargument
    · cases hparameter
      cases hargument
      cases isArray_stockNumber.symm.trans hisList
      exact .scalar "7"
    · cases hparameter
  have hurl : stockSearchFunction.requestUrl [.scalar "7"] = "/api/stock?kind=all?filter=7".toList := by
    decide +kernel
  have hquery : Url.queryComponent "/api/stock?kind=all?filter=7".toList = "kind=all?filter=7".toList := by
    decide +kernel
  have hentries : stockSearch.queryEntries [.scalar "7"] = [("filter", "7")] := by decide +kernel
  have hread : Form.read (Url.queryComponent (stockSearchFunction.requestUrl [.scalar "7"])) =
      [("kind", "all?filter=7")] := by
    rw [hurl, hquery, read_secondQuestionMark]
  refine ⟨by decide +kernel, clientFunction_stockSearch, hfits, hurl, hentries, hread, ?_⟩
  rw [hentries, hread]
  decide

end ApiProxy.Script
