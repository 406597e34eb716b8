import ApiProxy.Script.ApiFile

/-! Types written into one file. The names of the declared types that they come down to are gathered, in one sorted
set for all of them, while they are written. -/

namespace ApiProxy.Script

/-- Writes the type `typeId` as `writeType` does, and adds the declared type that it names to the set. -/
def gatherType (types : TypeMap) (names : TypeNames) (met : List String) (typeId : String) :
    StateM (List String) (Except Failure TypeExpr) :=
  if typeId ∈ met then pure (.error (.circularAlias typeId))
  else
    match _found : types.get? typeId with
    | none => pure (.error (.unknownType typeId))
    | some (.primitive kind) => pure ((primitiveName typeId kind).map .primitive)
    | some (.array element) => do return (← gatherType types names (typeId :: met) element).map .list
    | some (.dictionary value) => do return (← gatherType types names (typeId :: met) value).map .dictionary
    | some (.reference target) => gatherType types names (typeId :: met) target
    | some (.structured name _) => do
      modify (insertSorted (names.identifier typeId name))
      return .ok (.declared (names.identifier typeId name))
    | some (.enumeration name _) => do
      modify (insertSorted (names.identifier typeId name))
      return .ok (.declared (names.identifier typeId name))
termination_by types.unmet met
decreasing_by
  all_goals next hnew => exact TypeMap.unmet_lt hnew _found

def gatherTypeExpr (types : TypeMap) (names : TypeNames) (typeId : String) :
    StateM (List String) (Except Failure TypeExpr) :=
  gatherType types names [] typeId

/-- The text of a type, as a file holds it. -/
def gatherTypeText (types : TypeMap) (names : TypeNames) (typeId : String) :
    StateM (List String) (Except Failure String) := do
  return (← gatherTypeExpr types names typeId).map TypeExpr.text

end ApiProxy.Script
