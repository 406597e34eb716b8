import Mathlib.Data.List.Sort
import ApiProxy.Proofs.Script.ImportedNames
import ApiProxy.Script.GatheredTypes

/-! What is gathered while types are written. The types come out as they do without it, each adds the declared type at
its end, and the names gathered over the signatures of a controller are those that its API file imports. -/

namespace ApiProxy.Script

variable {types : TypeMap} {names : TypeNames} {named met ids : List String} {id : String}

/-- The name that a written type adds to those gathered so far. -/
def named? (written : Except Failure TypeExpr) : Option String := written.toOption.bind TypeExpr.declared?

@[simp]
theorem named?_ok (type : TypeExpr) : named? (.ok type) = type.declared? := rfl

theorem named?_eq_some_iff {written : Except Failure TypeExpr} {name : String} :
    named? written = some name ↔ ∃ type, written = .ok type ∧ type.declared? = some name := by
  cases written with
  | error failure => exact iff_of_false nofun nofun
  | ok type => simp

/-- The names gathered after one more type is written. -/
def withNamed (named : List String) (written : Except Failure TypeExpr) : List String :=
  (named? written).elim named (insertSorted · named)

theorem withNamed_list (named : List String) (written : Except Failure TypeExpr) :
    withNamed named (written.map .list) = withNamed named written := by
  cases written <;> rfl

theorem withNamed_dictionary (named : List String) (written : Except Failure TypeExpr) :
    withNamed named (written.map .dictionary) = withNamed named written := by
  cases written <;> rfl

theorem withNamed_primitive (named : List String) (id : String) (kind : PrimitiveKind) :
    withNamed named ((primitiveName id kind).map .primitive) = named := by
  cases kind <;> rfl

theorem writeType_of_new (hnew : id ∉ met) :
    writeType types names met id = match types.get? id with
      | none => .error (.unknownType id)
      | some (.primitive kind) => (primitiveName id kind).map .primitive
      | some (.array element) => (writeType types names (id :: met) element).map .list
      | some (.dictionary value) => (writeType types names (id :: met) value).map .dictionary
      | some (.reference target) => writeType types names (id :: met) target
      | some (.structured name _) => .ok (.declared (names.identifier id name))
      | some (.enumeration name _) => .ok (.declared (names.identifier id name)) := by
  rw [writeType, if_neg hnew]
  split <;> simp only [*]

theorem gatherType_eq (types : TypeMap) (names : TypeNames) (met : List String) (id : String) (named : List String) :
    gatherType types names met id named =
      (writeType types names met id, withNamed named (writeType types names met id)) := by
  fun_induction gatherType types names met id with
  | case1 met id hcircular =>
      rw [writeType, if_pos hcircular]
      rfl
  | case2 met id hnew hmissing =>
      rw [writeType_of_new hnew, hmissing]
      rfl
  | case3 met id hnew kind hshape =>
      rw [writeType_of_new hnew, hshape]
      exact Prod.ext rfl (withNamed_primitive named id kind).symm
  | case4 met id hnew element hshape ih =>
      rw [writeType_of_new hnew, hshape]
      dsimp only
      rw [withNamed_list, stateM_bind_apply, ih]
      rfl
  | case5 met id hnew value hshape ih =>
      rw [writeType_of_new hnew, hshape]
      dsimp only
      rw [withNamed_dictionary, stateM_bind_apply, ih]
      rfl
  | case6 met id hnew target hshape ih =>
      rw [writeType_of_new hnew, hshape]
      exact ih
  | case7 met id hnew name fields hshape =>
      rw [writeType_of_new hnew, hshape]
      rfl
  | case8 met id hnew name members hshape =>
      rw [writeType_of_new hnew, hshape]
      rfl

theorem gatherTypeExpr_eq (types : TypeMap) (names : TypeNames) (id : String) (named : List String) :
    gatherTypeExpr types names id named = (typeExpr types names id, withNamed named (typeExpr types names id)) :=
  gatherType_eq types names [] id named

theorem gatherTypeText_eq (types : TypeMap) (names : TypeNames) (id : String) (named : List String) :
    gatherTypeText types names id named =
      ((typeExpr types names id).map TypeExpr.text, withNamed named (typeExpr types names id)) := by
  rw [gatherTypeText, stateM_bind_apply, gatherTypeExpr_eq]
  rfl

theorem mapM_gatherTypeExpr (types : TypeMap) (names : TypeNames) (ids named : List String) :
    ids.mapM (gatherTypeExpr types names) named =
      (ids.map (typeExpr types names), (ids.map (typeExpr types names)).foldl withNamed named) := by
  induction ids generalizing named with
  | nil => rfl
  | cons id ids ih =>
      rw [List.mapM_cons, stateM_bind_apply, gatherTypeExpr_eq, stateM_bind_apply, ih]
      rfl

theorem mem_withNamed {name : String} {written : Except Failure TypeExpr} :
    name ∈ withNamed named written ↔ name ∈ named ∨ named? written = some name := by
  rw [withNamed]
  cases named? written with
  | none => simp
  | some new => rw [Option.elim_some, mem_insertSorted, Option.some.injEq, or_comm, eq_comm]

theorem pairwise_withNamed (h : named.Pairwise (· < ·)) (written : Except Failure TypeExpr) :
    (withNamed named written).Pairwise (· < ·) := by
  rw [withNamed]
  cases named? written with
  | none => exact h
  | some new => exact pairwise_insertSorted h

theorem mem_foldl_withNamed {name : String} {written : List (Except Failure TypeExpr)} :
    name ∈ written.foldl withNamed named ↔ name ∈ named ∨ ∃ one ∈ written, named? one = some name := by
  induction written generalizing named with
  | nil => simp
  | cons first rest ih => rw [List.foldl_cons, ih, mem_withNamed, List.exists_mem_cons_iff, or_assoc]

theorem pairwise_foldl_withNamed {written : List (Except Failure TypeExpr)} (h : named.Pairwise (· < ·)) :
    (written.foldl withNamed named).Pairwise (· < ·) := by
  induction written generalizing named with
  | nil => exact h
  | cons first rest ih => exact ih (pairwise_withNamed h first)

/-- The types of the signatures are written one after the other. -/
theorem map_typeExpr_of_apiSource {helper : Helper} {controller : Controller} {source : ApiSource}
    (h : (apiSource types names helper controller).outcome = .ok source) :
    controller.typeIds.map (typeExpr types names) = (source.functions.flatMap ClientFunction.types).map .ok := by
  have hwritten : List.Forall₂ (fun id type => typeExpr types names id = .ok type) controller.typeIds
      (source.functions.flatMap ClientFunction.types) :=
    List.rel_flatMap (types_of_apiSource h).2 fun _ _ hfunction => Outcome.mapM_eq_ok_iff.mp hfunction
  rw [← List.forall₂_eq_eq_eq, List.forall₂_map_left_iff, List.forall₂_map_right_iff]
  exact hwritten

/-- The API file imports what is gathered meanwhile. -/
theorem imports_eq_gathered {helper : Helper} {controller : Controller} {source : ApiSource}
    (h : (apiSource types names helper controller).outcome = .ok source) :
    source.imports = (controller.typeIds.mapM (gatherTypeExpr types names) []).2 := by
  rw [mapM_gatherTypeExpr, map_typeExpr_of_apiSource h]
  refine (pairwise_sortedNames _).eq_of_mem_iff (pairwise_foldl_withNamed List.Pairwise.nil) fun name => ?_
  rw [mem_sortedNames, List.mem_filterMap, mem_foldl_withNamed]
  simp

end ApiProxy.Script
