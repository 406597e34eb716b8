import ApiProxy.Proofs.TypeGraph.Closure

/-! Two type graphs that agree on all that some roots lead to. A walk that starts at the roots stays where they
agree, so it takes the same steps in both and ends with the same result or the same report. -/

namespace ApiProxy.TypeMap

/-- What the roots lead to is defined in the other map as in this one, or in neither. -/
def AgreesFrom (types otherTypes : TypeMap) (roots : List String) : Prop :=
  ∀ id, types.Reaches roots id → otherTypes.get? id = types.get? id

variable {types otherTypes : TypeMap} {roots pending : List String} {met : List ResolvedType} {id : String}

theorem gather_cons_of_notMem (hnew : id ∉ met.map ResolvedType.id) :
    types.gather met (id :: pending) =
      match types.get? id with
      | none => .error (.unknownType id)
      | some shape => types.gather (⟨id, shape⟩ :: met) (shape.mentions.reverse ++ pending) := by
  rw [gather, if_neg hnew]
  split
  next hmissing => rw [hmissing]
  next hshape => rw [hshape]

namespace AgreesFrom

theorem gather_eq (h : types.AgreesFrom otherTypes roots) (hpending : ∀ id ∈ pending, types.Reaches roots id) :
    otherTypes.gather met pending = types.gather met pending := by
  fun_induction gather types met pending with
  | case1 met => rw [gather]
  | case2 met id pending hmet ih =>
      rw [List.forall_mem_cons] at hpending
      rw [gather, if_pos hmet]
      exact ih hpending.2
  | case3 met id pending hnew hmissing =>
      rw [gather_cons_of_notMem hnew, h id (hpending id List.mem_cons_self), hmissing]
  | case4 met id pending hnew shape hshape ih =>
      rw [List.forall_mem_cons] at hpending
      rw [gather_cons_of_notMem hnew, h id hpending.1, hshape]
      refine ih fun next hnext => ?_
      rcases List.mem_append.mp hnext with hmention | hlater
      · exact hpending.1.mention hshape (List.mem_reverse.mp hmention)
      · exact hpending.2 next hlater

theorem closure_eq (h : types.AgreesFrom otherTypes roots) : otherTypes.closure roots = types.closure roots := by
  rw [closure, closure, h.gather_eq]
  exact fun id hid => .root (List.mem_reverse.mp hid)

end AgreesFrom

end ApiProxy.TypeMap
