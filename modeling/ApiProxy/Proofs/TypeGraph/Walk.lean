import ApiProxy.Proofs.TypeGraph.Chain

/-! Chains step by step. A walk records the types that a chain passes and the edges by which it leaves them. As no type
has two edges, of two walks from one start the one is the beginning of the other, so the end of a chain, or the first
type that it comes to again, is the same for all of them. -/

namespace ApiProxy

/-- The ways in which one type is written by way of another. -/
inductive Edge where
  | array
  | dictionary
  | reference
deriving DecidableEq, Repr

def TypeShape.edge? : TypeShape → Option (Edge × String)
  | array element => some (.array, element)
  | dictionary value => some (.dictionary, value)
  | reference target => some (.reference, target)
  | _ => none

theorem TypeShape.inner?_eq (shape : TypeShape) : shape.inner? = shape.edge?.map Prod.snd := by
  cases shape <;> rfl

namespace TypeMap

/-- The steps of a chain between two types: the ids it passes, each with its edge to the next one. -/
inductive Walk (types : TypeMap) : String → List (String × Edge) → String → Prop where
  | here (id : String) : Walk types id [] id
  | step {id next last : String} {shape : TypeShape} {edge : Edge} {passed : List (String × Edge)}
      (hshape : types.get? id = some shape) (hedge : shape.edge? = some (edge, next))
      (hrest : Walk types next passed last) : Walk types id ((id, edge) :: passed) last

/-- Wherever the chain comes to, it goes on. -/
def Endless (types : TypeMap) (start : String) : Prop :=
  ∀ passed last, types.Walk start passed last → ∃ next, types.Passes last next

variable {types : TypeMap} {start id next last other : String} {shape : TypeShape} {edge : Edge}
  {passed twin : List (String × Edge)}

theorem passes_of_edge? (hshape : types.get? id = some shape) (hedge : shape.edge? = some (edge, next)) :
    types.Passes id next :=
  ⟨shape, hshape, by rw [shape.inner?_eq, hedge, Option.map_some]⟩

theorem Walk.leadsTo (h : types.Walk start passed last) : types.LeadsTo start last := by
  induction h with
  | here id => exact .refl
  | step hshape hedge _ ih => exact .head (passes_of_edge? hshape hedge) ih

theorem Walk.concat (h : types.Walk start passed last) (hshape : types.get? last = some shape)
    (hedge : shape.edge? = some (edge, next)) : types.Walk start (passed ++ [(last, edge)]) next := by
  induction h with
  | here id => exact .step hshape hedge (.here next)
  | step hfirst hedgeFirst _ ih => exact .step hfirst hedgeFirst (ih hshape)

/-- Of two walks from one start, one goes on where the other stops. -/
theorem Walk.comparable (h : types.Walk start passed last) (hother : types.Walk start twin other) :
    (∃ rest, twin = passed ++ rest ∧ types.Walk last rest other) ∨
      ∃ rest, passed = twin ++ rest ∧ types.Walk other rest last := by
  induction h generalizing twin with
  | here id => exact Or.inl ⟨twin, rfl, hother⟩
  | @step id next last shape edge passed hshape hedge hrest ih =>
      cases hother with
      | here => exact Or.inr ⟨_, rfl, .step hshape hedge hrest⟩
      | @step _ _ _ shape' edge' twin hshape' hedge' hrest' =>
          cases hshape.symm.trans hshape'
          cases hedge.symm.trans hedge'
          refine (ih hrest').imp ?_ ?_
          all_goals
            rintro ⟨rest, rfl, hwalk⟩
            exact ⟨rest, rfl, hwalk⟩

theorem Walk.eq_of_stuck (h : types.Walk start passed last) (hstuck : ∀ next, ¬types.Passes start next) :
    passed = [] ∧ last = start := by
  cases h with
  | here => exact ⟨rfl, rfl⟩
  | step hshape hedge _ => exact absurd (passes_of_edge? hshape hedge) (hstuck _)

/-- All walks to the end of a chain are the same. -/
theorem Walk.end_unique (h : types.Walk start passed last) (hstuck : ∀ next, ¬types.Passes last next)
    (hother : types.Walk start twin other) (hotherStuck : ∀ next, ¬types.Passes other next) :
    passed = twin ∧ last = other := by
  rcases h.comparable hother with ⟨rest, rfl, hrest⟩ | ⟨rest, rfl, hrest⟩
  · obtain ⟨rfl, rfl⟩ := hrest.eq_of_stuck hstuck
    exact ⟨(List.append_nil passed).symm, rfl⟩
  · obtain ⟨rfl, rfl⟩ := hrest.eq_of_stuck hotherStuck
    exact ⟨List.append_nil twin, rfl⟩

/-- A walk that goes on from where it was before repeats an id. -/
theorem Walk.eq_nil_of_nodup {rest : List (String × Edge)} (h : types.Walk last rest other)
    (hagain : last ∈ passed.map Prod.fst) (hnew : ((passed ++ rest).map Prod.fst).Nodup) : rest = [] := by
  cases h with
  | here => rfl
  | step _ _ _ =>
      rw [List.map_append, List.map_cons, List.nodup_append] at hnew
      exact absurd rfl (hnew.2.2 last hagain last List.mem_cons_self)

/-- The first id that a chain comes to again. -/
structure MeetsAgain (types : TypeMap) (start again : String) (passed : List (String × Edge)) : Prop where
  walk : types.Walk start passed again
  new : (passed.map Prod.fst).Nodup
  again : again ∈ passed.map Prod.fst

theorem MeetsAgain.unique (h : types.MeetsAgain start last passed) (hother : types.MeetsAgain start other twin) :
    last = other := by
  rcases h.walk.comparable hother.walk with ⟨rest, rfl, hrest⟩ | ⟨rest, rfl, hrest⟩
  · obtain rfl := hrest.eq_nil_of_nodup h.again hother.new
    cases hrest
    rfl
  · obtain rfl := hrest.eq_nil_of_nodup hother.again h.new
    cases hrest
    rfl

theorem Walk.split {before after : List (String × Edge)}
    (h : types.Walk start (before ++ (id, edge) :: after) last) :
    types.Walk start before id ∧ types.Walk id ((id, edge) :: after) last := by
  induction before generalizing start with
  | nil =>
      cases h with
      | step hshape hedge hrest => exact ⟨.here _, .step hshape hedge hrest⟩
  | cons first before ih =>
      cases h with
      | step hshape hedge hrest =>
          obtain ⟨hbefore, hafter⟩ := ih hrest
          exact ⟨.step hshape hedge hbefore, hafter⟩

theorem Walk.recurs (h : types.Walk start passed last) (hagain : last ∈ passed.map Prod.fst) :
    types.Recurs last := by
  obtain ⟨⟨_, edge⟩, hstep, rfl⟩ := List.mem_map.mp hagain
  obtain ⟨before, after, rfl⟩ := List.append_of_mem hstep
  cases h.split.2 with
  | step hshape hedge hrest => exact Relation.TransGen.head'_iff.mpr ⟨_, passes_of_edge? hshape hedge, hrest.leadsTo⟩

/-- A chain that comes back to where it was never ends. -/
theorem MeetsAgain.endless (h : types.MeetsAgain start last passed) : types.Endless start := by
  intro seen reached hwalk
  have hrecurs := h.walk.recurs h.again
  rcases Relation.ReflTransGen.total_of_right_unique (passes_rightUnique types) h.walk.leadsTo hwalk.leadsTo with
    hleads | hleads
  · exact (hrecurs.of_leadsTo hleads).passes
  · rcases Relation.ReflTransGen.cases_head hleads with rfl | ⟨next, hnext, _⟩
    · exact hrecurs.passes
    · exact ⟨next, hnext⟩

end TypeMap

end ApiProxy
