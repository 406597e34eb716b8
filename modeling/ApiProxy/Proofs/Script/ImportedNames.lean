import ApiProxy.Proofs.Script.ApiReading
import ApiProxy.Proofs.Script.ModelReading
import ApiProxy.Proofs.TypeGraph.Closure

/-! The two files of a controller agree on the names of types. Both are written with the identifiers that the
closure of the controller is given, and the closure holds the end of every chain that a signature or a field
starts, so a name that is imported or mentioned is declared, once, for the type that was meant. Both files are taken
as they are read back from their texts. -/

namespace ApiProxy.Script

open TypeMap

/-! ### Names and declarations -/

/-- A type expression names the declared type at the end of the chain from `id`, if it names one. -/
def Mentions (types : TypeMap) (names : TypeNames) (id : String) (type : TypeExpr) : Prop :=
  ∀ name, type.declared? = some name ↔ ∃ last, LeadsToDeclared types id last ∧ names.get? last = some name

variable {types : TypeMap} {roots reserved : List String} {resolved : List ResolvedType}
  {found : List Declaration} {id last : String}

theorem mem_of_leadsToDeclared (hclosure : types.IsClosure roots resolved) (hid : types.Reaches roots id)
    (hlast : LeadsToDeclared types id last) :
    ∃ shape name, (⟨last, shape⟩ : ResolvedType) ∈ resolved ∧ types.get? last = some shape ∧
      shape.declaredName? = some name := by
  obtain ⟨hleads, shape, name, hshape, hname⟩ := hlast
  exact ⟨shape, name, hclosure.mem_iff.mpr ⟨hid.leadsTo hleads, hshape⟩, hshape, hname⟩

theorem mentions_of_typeExpr (hclosure : types.IsClosure roots resolved) (hid : types.Reaches roots id)
    {type : TypeExpr} (htype : typeExpr types (.assign resolved reserved) id = .ok type) :
    Mentions types (.assign resolved reserved) id type := by
  intro identifier
  rw [(written_of_typeExpr htype).declared?_eq_some_iff]
  constructor
  · rintro ⟨last, shape, name, hleads, hshape, hname, rfl⟩
    have hmem : (⟨last, shape⟩ : ResolvedType) ∈ resolved :=
      hclosure.mem_iff.mpr ⟨hid.leadsTo hleads, hshape⟩
    exact ⟨last, ⟨hleads, shape, name, hshape, hname⟩, identifier_assign reserved hmem hname⟩
  · rintro ⟨last, hlast, hidentifier⟩
    obtain ⟨hleads, shape, name, hshape, hname⟩ := hlast
    exact ⟨last, shape, name, hleads, hshape, hname, TypeNames.identifier_of_get? hidentifier⟩

/-- The types of the functions are those of the actions, and all of them are reached. -/
theorem signatures_written {names : TypeNames} {controller : Controller} {source : ApiSource}
    (hfunctions : List.Forall₂ (fun action function => action.typeIds.mapM (typeExpr types names) =
      .ok (ClientFunction.types function)) controller.actions source.functions) :
    List.Forall₂ (fun action function => List.Forall₂ (fun id type => types.Reaches controller.typeIds id ∧
      typeExpr types names id = .ok type) action.typeIds (ClientFunction.types function))
      controller.actions source.functions := by
  have hroots : ∀ action ∈ controller.actions, ∀ id ∈ action.typeIds, types.Reaches controller.typeIds id :=
    fun action haction id hid => .root (List.mem_flatMap.mpr ⟨action, haction, hid⟩)
  refine ((List.forall₂_and_left controller.actions source.functions).mpr ⟨hroots, hfunctions⟩).imp ?_
  rintro action function ⟨hids, hwritten⟩
  exact (List.forall₂_and_left action.typeIds function.types).mpr ⟨hids, Outcome.mapM_eq_ok_iff.mp hwritten⟩

theorem signatures_mention {controller : Controller} {source : ApiSource}
    (hclosure : types.IsClosure controller.typeIds resolved)
    (hfunctions : List.Forall₂ (fun action function => action.typeIds.mapM
      (typeExpr types (.assign resolved reserved)) = .ok (ClientFunction.types function))
      controller.actions source.functions) :
    List.Forall₂ (fun action function =>
      List.Forall₂ (Mentions types (.assign resolved reserved)) action.typeIds (ClientFunction.types function))
      controller.actions source.functions :=
  (signatures_written hfunctions).imp fun _ _ htypes =>
    htypes.imp fun _ _ htype => mentions_of_typeExpr hclosure htype.1 htype.2

theorem mem_imports_iff {names : TypeNames} {controller : Controller} {source : ApiSource}
    (hsignatures : List.Forall₂ (fun action function =>
      List.Forall₂ (Mentions types names) action.typeIds (ClientFunction.types function))
      controller.actions source.functions) (name : String) :
    name ∈ source.imports ↔
      ∃ root ∈ controller.typeIds, ∃ last, LeadsToDeclared types root last ∧ names.get? last = some name := by
  have hnamed : (∃ function ∈ source.functions, ∃ type ∈ function.types, type.declared? = some name) ↔
      ∃ action ∈ controller.actions, ∃ id ∈ action.typeIds, ∃ last,
        LeadsToDeclared types id last ∧ names.get? last = some name :=
    exists_mem_iff_of_forall₂ hsignatures fun _ _ htypes =>
      exists_mem_iff_of_forall₂ htypes fun _ _ hmentions => hmentions name
  rw [ApiSource.imports, mem_sortedNames, List.mem_filterMap]
  constructor
  · rintro ⟨type, htype, hname⟩
    obtain ⟨function, hfunction, htype⟩ := List.mem_flatMap.mp htype
    obtain ⟨action, haction, id, hid, hlast⟩ := hnamed.mp ⟨function, hfunction, type, htype, hname⟩
    exact ⟨id, List.mem_flatMap.mpr ⟨action, haction, hid⟩, hlast⟩
  · rintro ⟨id, hid, hlast⟩
    obtain ⟨action, haction, hid⟩ := List.mem_flatMap.mp hid
    obtain ⟨function, hfunction, type, htype, hname⟩ := hnamed.mpr ⟨action, haction, id, hid, hlast⟩
    exact ⟨type, List.mem_flatMap.mpr ⟨function, hfunction, htype⟩, hname⟩

/-- Two types that are declared under one name, and a list of the first. -/
def twinTypes : TypeMap where
  entries := [("App.Item", .structured "Item" [⟨"state", "Other.Item", false⟩]),
    ("Other.Item", .enumeration "Item" [⟨"Open", .integer 0⟩]), ("Items", .array "App.Item")]
  distinct := by decide

def twinController : Controller :=
  ⟨"Items", "Items", [⟨"list", .get, "/api/items", [⟨"state", .query, "Other.Item", true⟩], some "Items"⟩]⟩

def twinSelection : Selection where
  key := "shop"
  module := ⟨"Shop", ⟨[("items", twinController)], by decide⟩⟩
  types := twinTypes

/-- The types of the controller, the one that was met last in front. -/
def twinMet : List ResolvedType :=
  [⟨"Other.Item", .enumeration "Item" [⟨"Open", .integer 0⟩]⟩,
    ⟨"App.Item", .structured "Item" [⟨"state", "Other.Item", false⟩]⟩, ⟨"Items", .array "App.Item"⟩]

theorem gather_twinTypes : gather twinTypes [] ["Items", "Other.Item"] = .ok twinMet := by
  rw [gather, if_neg (by decide)]
  show gather twinTypes [⟨"Items", .array "App.Item"⟩] ["App.Item", "Other.Item"] = _
  rw [gather, if_neg (by decide)]
  show gather twinTypes (⟨"App.Item", .structured "Item" [⟨"state", "Other.Item", false⟩]⟩ :: _)
    ["Other.Item", "Other.Item"] = _
  rw [gather, if_neg (by decide)]
  show gather twinTypes (⟨"Other.Item", .enumeration "Item" [⟨"Open", .integer 0⟩]⟩ :: _) ["Other.Item"] = _
  rw [gather, if_pos (by decide), gather]
  rfl

end ApiProxy.Script
