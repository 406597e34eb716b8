import ApiProxy.Proofs.Script.GatheredTypes
import ApiProxy.Proofs.TypeGraph.Walk

/-! The text of a type, read off its chain. What stands at the end of the chain decides between a text and a report, the
edges on the way put their marks around the text, and of the names that are gathered only a declared type at the end
adds one. A chain without an end is reported under the first id that it comes to again. -/

namespace ApiProxy

/-- What an edge puts around the text of the type behind it. -/
def Edge.wrap : Edge → String → String
  | array, inner => inner ++ "[]"
  | dictionary, inner => "Record<string, " ++ inner ++ ">"
  | reference, inner => inner

namespace Script

open TypeMap

/-- The marks of the edges around a text, those of the last edge innermost. -/
def wrapped (passed : List (String × Edge)) (inner : String) : String :=
  passed.foldr (fun step text => step.2.wrap text) inner

/-- What a chain that ends at `last` is written as or reported as, by what stands there, and the names gathered after
it. -/
inductive AtEnd (names : TypeNames) (named : List String) (last : String) :
    Option TypeShape → Except Failure String → List String → Prop where
  | primitive {kind : PrimitiveKind} {name : String} (hname : PrimitiveText kind name) :
      AtEnd names named last (some (.primitive kind)) (.ok name) named
  | structured (name : String) (fields : List Field) :
      AtEnd names named last (some (.structured name fields)) (.ok (names.identifier last name))
        (insertSorted (names.identifier last name) named)
  | enumeration (name : String) (members : List Member) :
      AtEnd names named last (some (.enumeration name members)) (.ok (names.identifier last name))
        (insertSorted (names.identifier last name) named)
  | undefined : AtEnd names named last none (.error (.unknownType last)) named
  | unsupported (kind : String) :
      AtEnd names named last (some (.primitive (.unsupported kind))) (.error (.unsupportedType last kind)) named

/-- What the chain from a type makes of it, and of the names gathered so far. -/
inductive ChainText (types : TypeMap) (names : TypeNames) (named : List String) (start : String) :
    Except Failure String → List String → Prop where
  | ends {passed : List (String × Edge)} {last : String} {found : Option TypeShape} {outcome : Except Failure String}
      {after : List String} (hwalk : types.Walk start passed last) (hfound : types.get? last = found)
      (hend : AtEnd names named last found outcome after) :
      ChainText types names named start (outcome.map (wrapped passed)) after
  | endless {passed : List (String × Edge)} {again : String} (hendless : types.Endless start)
      (hagain : types.MeetsAgain start again passed) :
      ChainText types names named start (.error (.circularAlias again)) named

variable {types : TypeMap} {names : TypeNames} {named after afterTwin met : List String} {start id next last : String}
  {passed : List (String × Edge)} {edge : Edge} {found : Option TypeShape}
  {outcome twin : Except Failure String}

theorem wrapped_concat (passed : List (String × Edge)) (id : String) (edge : Edge) (inner : String) :
    wrapped (passed ++ [(id, edge)]) inner = wrapped passed (edge.wrap inner) := by
  rw [wrapped, List.foldr_append]
  rfl

/-! ### One text for each chain -/

theorem AtEnd.stuck (h : AtEnd names named last found outcome after) (hfound : types.get? last = found) :
    ∀ next, ¬types.Passes last next := by
  rintro next ⟨shape, hshape, hnext⟩
  obtain rfl := hfound.symm.trans hshape
  cases h <;> cases hnext

theorem AtEnd.unique (h : AtEnd names named last found outcome after)
    (hother : AtEnd names named last found twin afterTwin) : outcome = twin ∧ after = afterTwin := by
  cases h with
  | primitive hname =>
      cases hother with
      | primitive hname' =>
          cases hname.unique hname'
          exact ⟨rfl, rfl⟩
      | unsupported kind => cases hname
  | structured name fields =>
      cases hother
      exact ⟨rfl, rfl⟩
  | enumeration name members =>
      cases hother
      exact ⟨rfl, rfl⟩
  | undefined =>
      cases hother
      exact ⟨rfl, rfl⟩
  | unsupported kind =>
      cases hother with
      | primitive hname => cases hname
      | unsupported => exact ⟨rfl, rfl⟩

theorem ChainText.unique (h : ChainText types names named start outcome after)
    (hother : ChainText types names named start twin afterTwin) : outcome = twin ∧ after = afterTwin := by
  cases h with
  | ends hwalk hfound hend =>
      cases hother with
      | ends htwinWalk htwinFound htwinEnd =>
          obtain ⟨rfl, rfl⟩ := hwalk.end_unique (hend.stuck hfound) htwinWalk (htwinEnd.stuck htwinFound)
          obtain rfl := hfound.symm.trans htwinFound
          obtain ⟨rfl, rfl⟩ := hend.unique htwinEnd
          exact ⟨rfl, rfl⟩
      | endless hendless _ =>
          obtain ⟨next, hnext⟩ := hendless _ _ hwalk
          exact absurd hnext (hend.stuck hfound next)
  | endless hendless hagain =>
      cases hother with
      | ends hwalk hfound hend =>
          obtain ⟨next, hnext⟩ := hendless _ _ hwalk
          exact absurd hnext (hend.stuck hfound next)
      | endless _ htwinAgain =>
          obtain rfl := hagain.unique htwinAgain
          exact ⟨rfl, rfl⟩

/-! ### What is written -/

/-- The text of what is written behind the steps of a walk, and the names gathered with it. -/
def wrappedText (passed : List (String × Edge)) (written : Except Failure TypeExpr × List String) :
    Except Failure String × List String :=
  (written.1.map fun type => wrapped passed type.text, written.2)

theorem wrappedText_concat {wrap : TypeExpr → TypeExpr} (hwrap : ∀ type, (wrap type).text = edge.wrap type.text)
    (passed : List (String × Edge)) (id : String) (written : Except Failure TypeExpr × List String) :
    wrappedText passed (written.1.map wrap, written.2) = wrappedText (passed ++ [(id, edge)]) written := by
  obtain ⟨failure | type, after⟩ := written
  · rfl
  · show (Except.ok (wrapped passed (wrap type).text), after) = _
    rw [hwrap, ← wrapped_concat passed id]
    rfl

theorem text_list (element : TypeExpr) : (TypeExpr.list element).text = Edge.array.wrap element.text := rfl

theorem text_dictionary (value : TypeExpr) : (TypeExpr.dictionary value).text = Edge.dictionary.wrap value.text := rfl

theorem wrappedText_reference (passed : List (String × Edge)) (id : String)
    (written : Except Failure TypeExpr × List String) :
    wrappedText (passed ++ [(id, .reference)]) written = wrappedText passed written := by
  simp only [wrappedText, wrapped_concat]
  rfl

/-- The steps of a walk on which no id comes twice; `met` holds its ids. -/
structure Along (types : TypeMap) (start : String) (met : List String) (id : String)
    (passed : List (String × Edge)) : Prop where
  walk : types.Walk start passed id
  new : (passed.map Prod.fst).Nodup
  met : ∀ earlier, earlier ∈ met ↔ earlier ∈ passed.map Prod.fst

theorem Along.concat {shape : TypeShape} (h : Along types start met id passed) (hnew : id ∉ met)
    (hshape : types.get? id = some shape) (hedge : shape.edge? = some (edge, next)) :
    Along types start (id :: met) next (passed ++ [(id, edge)]) where
  walk := h.walk.concat hshape hedge
  new := by
    rw [List.map_append, List.map_singleton, ← List.concat_eq_append, List.nodup_concat]
    exact ⟨fun hmem => hnew ((h.met id).mpr hmem), h.new⟩
  met := fun earlier => by simp [h.met earlier, or_comm]

theorem chainText_gatherType (h : Along types start met id passed) :
    ChainText types names named start (wrappedText passed (gatherType types names met id named)).1
      (wrappedText passed (gatherType types names met id named)).2 := by
  -- along the chain; what is still to be written stands behind the steps of the walk so far
  fun_induction gatherType types names met id generalizing passed with
  | case1 met id hcircular =>
      have hagain : types.MeetsAgain start id passed := ⟨h.walk, h.new, (h.met id).mp hcircular⟩
      exact .endless hagain.endless hagain
  | case2 met id hnew hmissing => exact .ends h.walk hmissing .undefined
  | case3 met id hnew kind hshape =>
      rcases primitiveName_outcome id kind with ⟨name, hname, _⟩ | ⟨unknown, rfl, herror⟩
      · rw [hname]
        exact .ends h.walk hshape (.primitive (primitiveName_eq_ok_iff.mp hname))
      · exact .ends h.walk hshape (.unsupported unknown)
  | case4 met id hnew element hshape ih =>
      have hwritten := ih (h.concat hnew hshape rfl)
      rwa [← wrappedText_concat text_list] at hwritten
  | case5 met id hnew value hshape ih =>
      have hwritten := ih (h.concat hnew hshape rfl)
      rwa [← wrappedText_concat text_dictionary] at hwritten
  | case6 met id hnew target hshape ih =>
      have hwritten := ih (h.concat hnew hshape rfl)
      rwa [wrappedText_reference] at hwritten
  | case7 met id hnew name fields hshape => exact .ends h.walk hshape (.structured name fields)
  | case8 met id hnew name members hshape => exact .ends h.walk hshape (.enumeration name members)

theorem gatherTypeText_eq_iff :
    gatherTypeText types names id named = (outcome, after) ↔ ChainText types names named id outcome after := by
  have hstart : Along types id [] id [] := ⟨.here id, List.nodup_nil, fun _ => Iff.rfl⟩
  have hwritten : ChainText types names named id (gatherTypeText types names id named).1
      (gatherTypeText types names id named).2 := chainText_gatherType hstart
  constructor
  · intro h
    rwa [h] at hwritten
  · intro h
    obtain ⟨houtcome, hafter⟩ := h.unique hwritten
    exact Prod.ext houtcome.symm hafter.symm

/-- A type comes to what its chain makes of it, whether that is a text or a report. The text is that of the type as it
is written anywhere else, and the one name that may be new among those gathered is that of the declared type in it. -/
theorem type_text_follows_chain (types : TypeMap) (names : TypeNames) (id : String) (named : List String) :
    (∀ outcome after, gatherTypeText types names id named = (outcome, after) ↔
      ChainText types names named id outcome after) ∧
    (gatherTypeText types names id named).1 = (typeExpr types names id).map TypeExpr.text ∧
    ∀ name, name ∈ (gatherTypeText types names id named).2 ↔
      name ∈ named ∨ ∃ type, typeExpr types names id = .ok type ∧ type.declared? = some name := by
  refine ⟨fun _ _ => gatherTypeText_eq_iff, ?_, fun name => ?_⟩
  · rw [gatherTypeText_eq]
  · rw [gatherTypeText_eq, mem_withNamed, named?_eq_some_iff]

example {fields : List Field} (hlist : types.get? "Items" = some (.array "App.Item"))
    (hitem : types.get? "App.Item" = some (.structured "Item" fields)) :
    gatherTypeText types names "Items" named =
      (.ok (names.identifier "App.Item" "Item" ++ "[]"), insertSorted (names.identifier "App.Item" "Item") named) := by
  have hwalk : types.Walk "Items" [("Items", .array)] "App.Item" := .step hlist rfl (.here _)
  exact gatherTypeText_eq_iff.mpr (.ends hwalk hitem (.structured "Item" fields))

example (hloop : types.get? "Loop" = some (.array "Loop")) :
    gatherTypeText types names "Loop" named = (.error (.circularAlias "Loop"), named) := by
  have hagain : types.MeetsAgain "Loop" "Loop" [("Loop", .array)] :=
    ⟨.step hloop rfl (.here _), List.nodup_singleton _, List.mem_singleton_self _⟩
  exact gatherTypeText_eq_iff.mpr (.endless hagain.endless hagain)

end Script

end ApiProxy
