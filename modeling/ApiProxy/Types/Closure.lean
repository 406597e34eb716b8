import ApiProxy.Types.Lookup

/-! All types that a set of types leads to. The walk keeps a pile of ids to look at, the next one on top; an
id that was met before is dropped, a new one is looked up and what it mentions is put on the pile. -/

namespace ApiProxy

/-- A type together with the id it stands under. -/
structure ResolvedType where
  id : String
  shape : TypeShape
deriving DecidableEq

namespace TypeMap

def gather (types : TypeMap) (met : List ResolvedType) : List String → Except Failure (List ResolvedType)
  | [] => .ok met
  | id :: pending =>
    if id ∈ met.map ResolvedType.id then gather types met pending
    else
      match _found : types.get? id with
      | none => .error (.unknownType id)
      | some shape => gather types (⟨id, shape⟩ :: met) (shape.mentions.reverse ++ pending)
termination_by pending => (types.unmet (met.map ResolvedType.id), pending.length)
decreasing_by
  · exact Prod.Lex.right _ (by simp)
  · next hnew => exact Prod.Lex.left _ _ (unmet_lt hnew _found)

def idBefore (a b : ResolvedType) : Bool := decide (a.id ≤ b.id)

/-- The types reachable from the roots, sorted by their ids. -/
def closure (types : TypeMap) (roots : List String) : Except Failure (List ResolvedType) :=
  (gather types [] roots.reverse).map fun met => met.mergeSort idBefore

end TypeMap

def Controller.typeIds (controller : Controller) : List String := controller.actions.flatMap Action.typeIds

/-- The types that the actions of a controller need. -/
def TypeMap.neededBy (types : TypeMap) (controller : Controller) : Except Failure (List ResolvedType) :=
  types.closure controller.typeIds

end ApiProxy
