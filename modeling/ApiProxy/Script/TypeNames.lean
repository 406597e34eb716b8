import ApiProxy.Script.Identifier
import ApiProxy.Types.Closure

/-! Identifiers for declared types. Types ask for identifiers in turn; one whose identifier is taken, by an
earlier type, a global name or a reserved name, gets a number. -/

namespace ApiProxy.Script

structure TypeNames where
  byId : OrderedMap String
deriving DecidableEq

namespace TypeNames

def empty : TypeNames := ⟨.empty⟩

/-- The declared types of a list: their ids and the identifiers they ask for. -/
def requests (types : List ResolvedType) : List (String × String) :=
  types.filterMap fun resolved => resolved.shape.declaredName?.map fun name => (resolved.id, typeIdentifier name)

def ofPairs (pairs : List (String × String)) : TypeNames :=
  ⟨pairs.foldl (fun map pair => map.insert pair.1 pair.2) .empty⟩

def assign (types : List ResolvedType) (reserved : List String) : TypeNames :=
  let asked := requests types
  ofPairs ((asked.map Prod.fst).zip (freshNames (runtimeGlobals ++ reserved) (asked.map Prod.snd)))

def get? (names : TypeNames) (typeId : String) : Option String := names.byId.get? typeId

/-- The identifiers, in the order of the ids. -/
def identifiers (names : TypeNames) : List String :=
  (names.byId.entries.mergeSort fun a b => decide (a.1 ≤ b.1)).map Prod.snd

/-- The identifier of a declared type; a type that was given none is called by the one it would ask for. -/
def identifier (names : TypeNames) (typeId name : String) : String :=
  (names.get? typeId).getD (typeIdentifier name)

end TypeNames

end ApiProxy.Script
