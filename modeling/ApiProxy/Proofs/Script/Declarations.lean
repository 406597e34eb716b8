import ApiProxy.Proofs.Names.TypeNames
import ApiProxy.Proofs.Script.TypeExpr
import ApiProxy.Script.Files

/-! The declarations of the model file: one for each declared type of the list, in its order, under the
identifier of the type. They fail with the first field that cannot be written. -/

namespace ApiProxy

/-- The types of the fields that a type is declared with. -/
def ResolvedType.fieldTypeIds (resolved : ResolvedType) : List String :=
  match resolved.shape with
  | .structured _ fields => fields.map Field.typeId
  | _ => []

namespace Script

def Declaration.identifier : Declaration → String
  | interface identifier _ => identifier
  | enumeration identifier _ => identifier

variable {types : TypeMap} {names : TypeNames} {resolved : List ResolvedType} {found : List Declaration}

theorem declare?_identifier {declared : ResolvedType} {declaration? : Option Declaration}
    (h : declare? types names declared = .ok declaration?) :
    declaration?.map Declaration.identifier =
      declared.shape.declaredName?.map (names.identifier declared.id) := by
  obtain ⟨id, shape⟩ := declared
  cases shape with
  | structured name fields =>
      obtain ⟨written, _, rfl⟩ := Outcome.map_eq_ok_iff.mp h
      rfl
  | enumeration name members =>
      cases h
      rfl
  | _ =>
      cases h
      rfl

theorem declare?_interface {declared : ResolvedType} {identifier : String}
    {written : List (String × TypeExpr × Bool)}
    (h : declare? types names declared = .ok (some (.interface identifier written))) :
    ∃ name fields, declared.shape = .structured name fields ∧ identifier = names.identifier declared.id name ∧
      List.Forall₂ (fun field entry => declaredField types names field = .ok entry) fields written := by
  obtain ⟨id, shape⟩ := declared
  cases shape with
  | structured name fields =>
      obtain ⟨entries, hentries, hsame⟩ := Outcome.map_eq_ok_iff.mp h
      cases hsame
      exact ⟨name, fields, rfl, rfl, Outcome.mapM_eq_ok_iff.mp hentries⟩
  | _ => cases h

theorem failure?_declare? (declared : ResolvedType) :
    failure? (declare? types names declared) =
      declared.fieldTypeIds.findSome? fun id => failure? (typeExpr types names id) := by
  obtain ⟨id, shape⟩ := declared
  cases shape with
  | structured name fields =>
      show failure? ((fields.mapM (declaredField types names)).map _) = (fields.map Field.typeId).findSome? _
      rw [Outcome.failure?_map, Outcome.failure?_mapM, List.findSome?_map]
      congr 1
      funext field
      exact Outcome.failure?_map _ _
  | _ => rfl

theorem failure?_declarations (resolved : List ResolvedType) :
    failure? (declarations types names resolved) =
      (resolved.flatMap ResolvedType.fieldTypeIds).findSome? fun id => failure? (typeExpr types names id) := by
  rw [declarations, Outcome.failure?_map, Outcome.failure?_mapM, Outcome.findSome?_flatMap]
  congr 1
  funext declared
  exact failure?_declare? declared

theorem failure?_modelFile (helper : Helper) (selection : Selection) (controller : Controller)
    (resolved : List ResolvedType) :
    failure? (modelFile helper selection controller resolved) =
      (resolved.flatMap ResolvedType.fieldTypeIds).findSome? fun id =>
        failure? (typeExpr selection.types (fileTypeNames helper resolved) id) := by
  rw [modelFile, Outcome.failure?_map, failure?_declarations]

theorem identifier_assign (reserved : List String) {declared : ResolvedType} {name : String}
    (hmem : declared ∈ resolved)
    (hname : declared.shape.declaredName? = some name) :
    (TypeNames.assign resolved reserved).get? declared.id =
      some ((TypeNames.assign resolved reserved).identifier declared.id name) := by
  obtain ⟨identifier, hidentifier⟩ := TypeNames.get?_assign_isSome reserved hmem hname
  rw [TypeNames.identifier_of_get? hidentifier, hidentifier]

end Script

end ApiProxy
