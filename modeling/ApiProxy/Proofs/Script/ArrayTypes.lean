import ApiProxy.Proofs.Script.GatheredTypes
import ApiProxy.Proofs.Script.Wiring

/-! Arrays among types. Whether a type is an array is found by following references alone, its text by following every
edge to the end of the chain. As both keep the ids that they have met, they come to a loop of references at the same
step; so what can be written can be told to be an array or not, and it is one exactly if its text ends in brackets. -/

namespace ApiProxy

def TypeShape.isList : TypeShape → Bool
  | array _ => true
  | _ => false

theorem TypeMap.isArray_eq (types : TypeMap) (id : String) :
    types.isArray id = (types.resolve id).map fun resolved => resolved.2.isList := by
  rw [isArray]
  rfl

namespace Script

open TypeMap

def TypeExpr.isList : TypeExpr → Bool
  | list _ => true
  | _ => false

/-- What comes of asking whether a type is an array and of writing it, taken together. -/
inductive Agree : Except Failure Bool → Except Failure TypeExpr → Prop where
  | written (type : TypeExpr) : Agree (.ok type.isList) (.ok type)
  | unwritten (isList : Bool) (failure : Failure) : Agree (.ok isList) (.error failure)
  | failed {failure twin : Failure} (h : failure.label = twin.label) : Agree (.error failure) (.error twin)

variable {types : TypeMap} {names : TypeNames} {resolved : List ResolvedType} {reserved met named : List String}
  {id : String} {type : TypeExpr} {isList : Bool}

theorem agree_map {α : Type} {outcome : Except Failure α} {wrap : α → TypeExpr}
    (h : ∀ inner, (wrap inner).isList = isList) : Agree (.ok isList) (outcome.map wrap) := by
  cases outcome with
  | error failure => exact .unwritten isList failure
  | ok inner => exact h inner ▸ .written (wrap inner)

/-- While only references have been passed, both have met the same ids. -/
theorem agree_writeType (start : String) (met : List String) (id : String) :
    Agree ((types.followReferences start met id).map fun resolved => resolved.2.isList)
      (writeType types names met id) := by
  fun_induction followReferences types start met id with
  | case1 met id hcircular =>
      rw [writeType, if_pos hcircular]
      exact .failed rfl
  | case2 met id hnew hmissing =>
      rw [writeType_of_new hnew, hmissing]
      exact .failed rfl
  | case3 met id hnew target hshape ih =>
      rw [writeType_of_new hnew, hshape]
      exact ih
  | case4 met id hnew shape hother hshape =>
      rw [writeType_of_new hnew, hshape]
      cases shape with
      | reference target => exact (hother target rfl).elim
      | primitive kind => exact agree_map fun _ => rfl
      | array element => exact agree_map fun _ => rfl
      | dictionary value => exact agree_map fun _ => rfl
      | structured name fields => exact .written (.declared (names.identifier id name))
      | enumeration name members => exact .written (.declared (names.identifier id name))

theorem agree_typeExpr (types : TypeMap) (names : TypeNames) (id : String) :
    Agree (types.isArray id) (typeExpr types names id) := by
  rw [isArray_eq]
  exact agree_writeType id [] id

/-! ### Brackets -/

theorem not_brackets_suffix {text : List Char} (h : text.getLast? ≠ some ']') : ¬['[', ']'] <:+ text := by
  rintro ⟨front, rfl⟩
  exact h (by simp)

/-- Of all texts of types those of arrays end in brackets. -/
theorem Written.brackets_iff (h : Written types (TypeNames.assign resolved reserved) id type) :
    "[]".toList <:+ type.text.toList ↔ type.isList = true := by
  induction h with
  | @primitive id name kind hshape hname =>
      refine iff_of_false ?_ Bool.false_ne_true
      cases kind <;> cases hname <;> decide
  | @array id element type hshape helement ih =>
      have htext : (TypeExpr.list type).text.toList = type.text.toList ++ "[]".toList := String.toList_append
      exact iff_of_true (htext ▸ List.suffix_append _ _) rfl
  | @dictionary id value type hshape hvalue ih =>
      refine iff_of_false (not_brackets_suffix ?_) Bool.false_ne_true
      have htext : (TypeExpr.dictionary type).text.toList = ("Record<string, " ++ type.text).toList ++ ['>'] :=
        String.toList_append
      rw [htext, List.getLast?_concat]
      decide
  | reference hshape htarget ih => exact ih
  | @declared id name shape hshape hname =>
      refine iff_of_false ?_ Bool.false_ne_true
      intro hsuffix
      have hbracket : isIdentifierPart ']' = true :=
        isIdentifierPart_of_mem (TypeNames.isIdentifier_identifier id name).1 (hsuffix.subset (by decide))
      exact absurd hbracket (by decide)

/-! ### Queries -/

/-- A query goes through the elements of a parameter exactly where the signature declares it with brackets. -/
def LoopsOverLists (action : Action) (function : ClientFunction) : Prop :=
  List.Forall₂ (fun position query => ∃ entry, function.signature[position]? = some entry ∧
      entry.identifier = query.identifier ∧ (query.isList = true ↔ "[]".toList <:+ entry.type.text.toList))
    (action.positions .query) function.query

theorem isArray_of_typeExpr (h : typeExpr types names id = .ok type) : types.isArray id = .ok type.isList := by
  have hagree := agree_typeExpr types names id
  rw [h] at hagree
  generalize types.isArray id = asked at hagree
  cases hagree with
  | written type => rfl

theorem loopsOverLists {helper : Helper} {action : Action} {binding : Binding} {controllerName name : String}
    {function : ClientFunction} (hbind : action.bind controllerName = .ok binding)
    (hfunction : clientFunction types (TypeNames.assign resolved reserved) helper name action binding = .ok function) :
    LoopsOverLists action function := by
  have hplace := placedByPosition hbind hfunction
  obtain ⟨_, _, hsignature, _⟩ := clientFunction_eq_ok_iff.mp hfunction
  refine hplace.query.imp ?_
  rintro position query ⟨parameter, hparameter, hidentifier, _, hisList⟩
  rw [← hplace.signature, List.getElem?_map, Option.map_eq_some_iff] at hidentifier
  obtain ⟨entry, hentry, hsame⟩ := hidentifier
  obtain ⟨htype, -⟩ := signature_entry hsignature hparameter hentry
  rw [isArray_of_typeExpr htype, Except.ok.injEq] at hisList
  exact ⟨entry, hentry, hsame, hisList ▸ (written_of_typeExpr htype).brackets_iff.symm⟩

/-- A type that can be written can be told to be an array or not, and it is one exactly if its text ends in brackets;
where it cannot be told, the type cannot be written for a reason of the same kind. So once the types of an action are
written its query is made without a further report, with a loop for each parameter that is declared as an array. -/
theorem arrays_are_told_by_their_text (types : TypeMap) (resolved : List ResolvedType) (reserved : List String) :
    (∀ id named text, (gatherTypeText types (TypeNames.assign resolved reserved) id named).1 = .ok text →
      ∃ isList, types.isArray id = .ok isList ∧ (isList = true ↔ "[]".toList <:+ text.toList)) ∧
    (∀ id named failure, types.isArray id = .error failure →
      ∃ twin, (gatherTypeText types (TypeNames.assign resolved reserved) id named).1 = .error twin ∧
        twin.label = failure.label) ∧
    ∀ helper name action binding controllerName, action.bind controllerName = .ok binding →
      (∀ entries, signature types (TypeNames.assign resolved reserved) action.parameters
          (parameterIdentifiers action helper) = .ok entries →
        ∀ placed ∈ binding.query, ∃ isList, types.isArray placed.parameter.typeId = .ok isList) ∧
      ∀ function, clientFunction types (TypeNames.assign resolved reserved) helper name action binding =
        .ok function → LoopsOverLists action function := by
  refine ⟨?_, ?_, ?_⟩
  · intro id named text htext
    rw [gatherTypeText_eq, Outcome.map_eq_ok_iff] at htext
    obtain ⟨type, htype, rfl⟩ := htext
    exact ⟨type.isList, isArray_of_typeExpr htype, (written_of_typeExpr htype).brackets_iff.symm⟩
  · intro id named failure hfailure
    have hagree := agree_typeExpr types (TypeNames.assign resolved reserved) id
    rw [gatherTypeText_eq]
    rw [hfailure] at hagree
    generalize typeExpr types (TypeNames.assign resolved reserved) id = written at hagree ⊢
    cases hagree with
    | failed hlabel => exact ⟨_, rfl, hlabel.symm⟩
  · intro helper name action binding controllerName hbind
    refine ⟨fun entries hentries placed hplaced => ?_, fun function hfunction => loopsOverLists hbind hfunction⟩
    rw [query_of_bind hbind] at hplaced
    have htypes : (signature types (TypeNames.assign resolved reserved) action.parameters
        (parameterIdentifiers action helper)).map (List.map SignatureEntry.type) = _ :=
      signature_types (length_parameterIdentifiers action helper)
    rw [hentries] at htypes
    obtain ⟨type, htype⟩ := Outcome.succeeds_of_mapM htypes.symm
      (List.mem_map_of_mem (parameter_mem_of_placedAs hplaced))
    exact ⟨type.isList, isArray_of_typeExpr htype⟩

theorem stock_lists_are_told_by_their_text :
    (gatherTypeText stockTypes (TypeNames.assign [] []) "Ids" []).1 = .ok "number[]" ∧
      (∃ isList, stockTypes.isArray "Ids" = .ok isList ∧ (isList = true ↔ "[]".toList <:+ "number[]".toList)) ∧
      stockTypes.isArray "Missing" = .error (.unknownType "Missing") ∧
      (∃ twin, (gatherTypeText stockTypes (TypeNames.assign [] []) "Missing" []).1 = .error twin ∧
        twin.label = "UnknownType") ∧
      ∃ function binding, stockMove.bind "Stock" = .ok binding ∧
        clientFunction stockTypes (TypeNames.assign [] []) {} "move" stockMove binding = .ok function ∧
        LoopsOverLists stockMove function := by
  obtain ⟨hwritten, htold, hloops⟩ := arrays_are_told_by_their_text stockTypes [] []
  have htext : (gatherTypeText stockTypes (TypeNames.assign [] []) "Ids" []).1 = .ok "number[]" := by
    rw [gatherTypeText_eq, typeExpr, writeType_of_new List.not_mem_nil]
    change Except.map TypeExpr.text ((writeType stockTypes _ ["Ids"] "Int").map TypeExpr.list) = _
    rw [typeExpr_stockNumber _ ["Ids"] (by decide)]
    rfl
  have hmissing : stockTypes.isArray "Missing" = .error (.unknownType "Missing") := by
    rw [TypeMap.isArray, resolve, followReferences, if_neg (by simp)]
    rfl
  obtain ⟨binding, hbind⟩ : ∃ binding, stockMove.bind "Stock" = .ok binding := ⟨_, rfl⟩
  obtain ⟨function, hfunction⟩ := exists_clientFunction {} "move" hbind (stockTypes_written (.assign [] []))
  exact ⟨htext, hwritten _ _ _ htext, hmissing, htold _ [] _ hmissing, function, binding, hbind, hfunction,
    (hloops {} "move" stockMove binding "Stock" hbind).2 function hfunction⟩

end Script

end ApiProxy
