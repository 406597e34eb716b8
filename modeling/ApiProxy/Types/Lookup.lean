import ApiProxy.Failure
import ApiProxy.Schema.Basic

/-! Looking types up while following the edges between them. Every walk through the type graph keeps the ids
it has met; as the graph is finite, only so many ids that are defined can still be new. -/

namespace ApiProxy

namespace TypeMap

def find (types : TypeMap) (typeId : String) : Except Failure TypeShape :=
  match types.get? typeId with
  | some shape => .ok shape
  | none => .error (.unknownType typeId)

/-- How many defined ids have not been met. -/
def unmet (types : TypeMap) (met : List String) : Nat := (types.keys.filter fun id => id ∉ met).length

theorem mem_keys_of_get? {types : TypeMap} {typeId : String} {shape : TypeShape}
    (h : types.get? typeId = some shape) : typeId ∈ types.keys := by
  have hlookup : types.entries.lookup typeId = some shape := h
  obtain ⟨before, after, hsplit, -⟩ := List.lookup_eq_some_iff.mp hlookup
  simp [OrderedMap.keys, hsplit]

theorem unmet_lt {types : TypeMap} {met : List String} {typeId : String} {shape : TypeShape}
    (hnew : typeId ∉ met) (hdefined : types.get? typeId = some shape) :
    types.unmet (typeId :: met) < types.unmet met := by
  have hmem := mem_keys_of_get? hdefined
  have hsplit : types.keys.filter (fun id => id ∉ typeId :: met) =
      (types.keys.filter fun id => id ∉ met).filter fun id => id ≠ typeId := by
    rw [List.filter_filter]
    congr 1
    funext id
    simp
  unfold unmet
  rw [hsplit]
  exact List.length_filter_lt_length_iff_exists.mpr ⟨typeId, by simp [hmem, hnew], by simp⟩

/-! ### The type behind a chain of references -/

/-- Follows references from `current`; a chain that comes back to an id it has met is reported under the id
`start` where it began. -/
def followReferences (types : TypeMap) (start : String) (met : List String) (current : String) :
    Except Failure (String × TypeShape) :=
  if current ∈ met then .error (.circularAlias start)
  else
    match _found : types.get? current with
    | none => .error (.unknownType current)
    | some (.reference target) => followReferences types start (current :: met) target
    | some shape => .ok (current, shape)
termination_by types.unmet met
decreasing_by
  next hnew => exact unmet_lt hnew _found

def resolve (types : TypeMap) (typeId : String) : Except Failure (String × TypeShape) :=
  followReferences types typeId [] typeId

/-- Whether a type is an array, possibly behind references. -/
def isArray (types : TypeMap) (typeId : String) : Except Failure Bool :=
  (types.resolve typeId).map fun resolved =>
    match resolved.2 with
    | .array _ => true
    | _ => false

end TypeMap

end ApiProxy
