import ApiProxy.Script.TypeNames
import ApiProxy.Types.Lookup

/-! Types as the generated script writes them. A type is written by following arrays, dictionaries and
references to the primitive or declared type at their end; a chain that comes back to itself has no end. -/

namespace ApiProxy.Script

inductive TypeExpr where
  | primitive (name : String)
  | declared (identifier : String)
  | list (element : TypeExpr)
  | dictionary (value : TypeExpr)
deriving DecidableEq, Repr

namespace TypeExpr

def text : TypeExpr → String
  | primitive name => name
  | declared identifier => identifier
  | list element => element.text ++ "[]"
  | dictionary value => "Record<string, " ++ value.text ++ ">"

/-- The declared type at the end, if there is one. -/
def declared? : TypeExpr → Option String
  | primitive _ => none
  | declared identifier => some identifier
  | list element => element.declared?
  | dictionary value => value.declared?

end TypeExpr

def primitiveName (typeId : String) : PrimitiveKind → Except Failure String
  | .text | .dateTime => .ok "string"
  | .integer | .float => .ok "number"
  | .boolean => .ok "boolean"
  | .binary => .ok "Blob"
  | .any => .ok "any"
  | .unsupported kind => .error (.unsupportedType typeId kind)

/-- Writes the type `typeId`; `met` holds the ids on the way to it. -/
def writeType (types : TypeMap) (names : TypeNames) (met : List String) (typeId : String) :
    Except Failure TypeExpr :=
  if typeId ∈ met then .error (.circularAlias typeId)
  else
    match _found : types.get? typeId with
    | none => .error (.unknownType typeId)
    | some (.primitive kind) => (primitiveName typeId kind).map .primitive
    | some (.array element) => (writeType types names (typeId :: met) element).map .list
    | some (.dictionary value) => (writeType types names (typeId :: met) value).map .dictionary
    | some (.reference target) => writeType types names (typeId :: met) target
    | some (.structured name _) => .ok (.declared (names.identifier typeId name))
    | some (.enumeration name _) => .ok (.declared (names.identifier typeId name))
termination_by types.unmet met
decreasing_by
  all_goals next hnew => exact TypeMap.unmet_lt hnew _found

def typeExpr (types : TypeMap) (names : TypeNames) (typeId : String) : Except Failure TypeExpr :=
  writeType types names [] typeId

end ApiProxy.Script
