import ApiProxy.Script.TypeExpr

/-! The declarations of the model file: an interface for each structured type and an enum for each
enumeration, in the order of the types. A module that declares nothing still exports an empty list, which
makes it a module. -/

namespace ApiProxy.Script

/-- A declaration of the model file, before it is written down. -/
inductive Declaration where
  | interface (identifier : String) (fields : List (String × TypeExpr × Bool))
  | enumeration (identifier : String) (members : List Member)

def fieldLine (name : String) (type : TypeExpr) (isNullable : Bool) : String :=
  "  " ++ propertyKey name ++ ": " ++ type.text ++ (if isNullable then " | null" else "") ++ ";\n"

def memberValueText : MemberValue → String
  | .integer value => toString value.toInt
  | .text value => Json.quote value

def memberLine (member : Member) : String :=
  "  " ++ propertyKey member.name ++ " = " ++ memberValueText member.value ++ ",\n"

def Declaration.text : Declaration → String
  | interface identifier fields =>
    "export interface " ++ identifier ++ " \x7b\n" ++
      String.join (fields.map fun field => fieldLine field.1 field.2.1 field.2.2) ++ "\x7d\n"
  | enumeration identifier members =>
    "export enum " ++ identifier ++ " \x7b\n" ++ String.join (members.map memberLine) ++ "\x7d\n"

def declaredField (types : TypeMap) (names : TypeNames) (field : Field) :
    Except Failure (String × TypeExpr × Bool) :=
  (typeExpr types names field.typeId).map fun type => (field.name, type, field.isNullable)

/-- The declaration that a resolved type calls for, if it calls for one. -/
def declare? (types : TypeMap) (names : TypeNames) (resolved : ResolvedType) :
    Except Failure (Option Declaration) :=
  match resolved.shape with
  | .structured name fields =>
    (fields.mapM (declaredField types names)).map fun fields =>
      some (.interface (names.identifier resolved.id name) fields)
  | .enumeration name members => .ok (some (.enumeration (names.identifier resolved.id name) members))
  | _ => .ok none

def declarations (types : TypeMap) (names : TypeNames) (resolved : List ResolvedType) :
    Except Failure (List Declaration) :=
  (resolved.mapM (declare? types names)).map fun found => found.filterMap id

def declarationsText : List Declaration → String
  | [] => "export \x7b\x7d;\n"
  | found => "\n".intercalate (found.map Declaration.text)

end ApiProxy.Script
