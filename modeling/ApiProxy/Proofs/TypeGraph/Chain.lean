import Mathlib.Logic.Relation
import ApiProxy.Proofs.Outcome
import ApiProxy.Proofs.TypeGraph.Closure
import ApiProxy.Script.TypeExpr
import ApiProxy.Types.Lookup

/-! Chains of array, dictionary and reference edges. Each type has at most one such edge, so a chain either ends
at one type or comes back to itself, and which of the two decides how the type at its start is written. -/

namespace ApiProxy

/-- The type that an array, a dictionary or a reference is written by way of. -/
def TypeShape.inner? : TypeShape → Option String
  | array element => some element
  | dictionary value => some value
  | reference target => some target
  | _ => none

namespace TypeMap

/-- One step along a chain. -/
def Passes (types : TypeMap) (id next : String) : Prop :=
  ∃ shape, types.get? id = some shape ∧ shape.inner? = some next

abbrev LeadsTo (types : TypeMap) : String → String → Prop := Relation.ReflTransGen types.Passes

/-- A chain through `id` comes back to it. -/
def Recurs (types : TypeMap) (id : String) : Prop := Relation.TransGen types.Passes id id

/-- A chain ends here: the type is defined and written by itself. -/
def EndsAs (types : TypeMap) (id : String) (shape : TypeShape) : Prop :=
  types.get? id = some shape ∧ shape.inner? = none

/-- A chain that has no type to write at its end, with the report of it. -/
inductive DeadEnd (types : TypeMap) (start : String) : Failure → Prop where
  | undefined {last : String} (hleads : types.LeadsTo start last) (hmissing : types.get? last = none) :
      DeadEnd types start (.unknownType last)
  | unsupported {last kind : String} (hleads : types.LeadsTo start last)
      (hshape : types.get? last = some (.primitive (.unsupported kind))) :
      DeadEnd types start (.unsupportedType last kind)
  | circular {id : String} (hleads : types.LeadsTo start id) (hrecurs : types.Recurs id) :
      DeadEnd types start (.circularAlias id)

variable {types : TypeMap} {roots : List String} {start id next last : String} {shape : TypeShape}

theorem passes_rightUnique (types : TypeMap) : Relator.RightUnique types.Passes := by
  rintro id next other ⟨shape, hshape, hnext⟩ ⟨shape', hshape', hother⟩
  rw [hshape] at hshape'
  cases hshape'
  exact Option.some.inj (hnext.symm.trans hother)

theorem EndsAs.not_passes (h : types.EndsAs id shape) : ¬types.Passes id next := by
  rintro ⟨shape', hshape, hnext⟩
  rw [h.1] at hshape
  cases hshape
  rw [h.2] at hnext
  cases hnext

theorem not_passes_of_missing (h : types.get? id = none) : ¬types.Passes id next := by
  rintro ⟨shape, hshape, _⟩
  rw [h] at hshape
  cases hshape

theorem eq_of_leadsTo (hstuck : ∀ next, ¬types.Passes id next) (h : types.LeadsTo id last) : last = id := by
  rcases Relation.ReflTransGen.cases_head h with rfl | ⟨next, hnext, _⟩
  · rfl
  · exact absurd hnext (hstuck next)

/-- Two ends of one chain are the same. -/
theorem end_unique {other : String} (hlast : types.LeadsTo start last) (hother : types.LeadsTo start other)
    (hstuck : ∀ next, ¬types.Passes last next) (hstuck' : ∀ next, ¬types.Passes other next) : last = other := by
  rcases Relation.ReflTransGen.total_of_right_unique (passes_rightUnique types) hlast hother with h | h
  · exact (eq_of_leadsTo hstuck h).symm
  · exact eq_of_leadsTo hstuck' h

theorem Recurs.passes (h : types.Recurs id) : ∃ next, types.Passes id next := by
  obtain ⟨next, hnext, _⟩ := Relation.TransGen.head'_iff.mp h
  exact ⟨next, hnext⟩

/-- A chain does not leave a loop it has come to. -/
theorem Recurs.of_leadsTo (h : types.Recurs id) (hleads : types.LeadsTo id last) : types.Recurs last := by
  induction hleads with
  | refl => exact h
  | tail _ hstep ih =>
      obtain ⟨next, hnext, hback⟩ := Relation.TransGen.head'_iff.mp ih
      cases passes_rightUnique types hnext hstep
      exact Relation.TransGen.tail' hback hstep

theorem EndsAs.not_leadsTo_recurs (h : types.EndsAs last shape) (hlast : types.LeadsTo start last)
    (hid : types.LeadsTo start id) : ¬types.Recurs id := by
  intro hrecurs
  rcases Relation.ReflTransGen.total_of_right_unique (passes_rightUnique types) hlast hid with hleads | hleads
  · cases eq_of_leadsTo (fun _ => h.not_passes) hleads
    obtain ⟨next, hnext⟩ := hrecurs.passes
    exact h.not_passes hnext
  · obtain ⟨next, hnext⟩ := (hrecurs.of_leadsTo hleads).passes
    exact h.not_passes hnext

/-- A chain that ends at a type that can be written is no dead end. -/
theorem EndsAs.not_deadEnd {failure : Failure} (h : types.EndsAs last shape)
    (hsupported : ∀ kind, shape ≠ .primitive (.unsupported kind)) (hlast : types.LeadsTo start last) :
    ¬types.DeadEnd start failure := by
  rintro (⟨hleads, hmissing⟩ | ⟨hleads, hshape⟩ | ⟨hleads, hrecurs⟩)
  · cases end_unique hlast hleads (fun _ => h.not_passes) fun _ => not_passes_of_missing hmissing
    rw [h.1] at hmissing
    cases hmissing
  · have hend : types.EndsAs _ _ := ⟨hshape, rfl⟩
    cases end_unique hlast hleads (fun _ => h.not_passes) fun _ => hend.not_passes
    exact hsupported _ (Option.some.inj (h.1.symm.trans hshape))
  · exact h.not_leadsTo_recurs hlast hleads hrecurs

theorem DeadEnd.prepend {failure : Failure} (hstep : types.Passes start next)
    (h : types.DeadEnd next failure) : types.DeadEnd start failure := by
  rcases h with ⟨hleads, hmissing⟩ | ⟨hleads, hshape⟩ | ⟨hleads, hrecurs⟩
  · exact .undefined (.head hstep hleads) hmissing
  · exact .unsupported (.head hstep hleads) hshape
  · exact .circular (.head hstep hleads) hrecurs

theorem inner?_mem_mentions (h : shape.inner? = some next) : next ∈ shape.mentions := by
  cases shape <;> simp_all [TypeShape.inner?, TypeShape.mentions]

theorem inner?_of_declaredName? {name : String} (h : shape.declaredName? = some name) : shape.inner? = none := by
  cases shape <;> simp_all [TypeShape.inner?, TypeShape.declaredName?]

theorem Reaches.leadsTo (h : types.Reaches roots start) (hleads : types.LeadsTo start id) :
    types.Reaches roots id := by
  induction hleads with
  | refl => exact h
  | tail _ hstep ih =>
      obtain ⟨shape, hshape, hnext⟩ := hstep
      exact ih.mention hshape (inner?_mem_mentions hnext)

/-- A field of a structured type that the roots lead to. -/
def HasField (types : TypeMap) (roots : List String) (field : Field) : Prop :=
  ∃ id name fields, types.Reaches roots id ∧ types.get? id = some (.structured name fields) ∧ field ∈ fields

theorem HasField.reaches {field : Field} (h : types.HasField roots field) :
    types.Reaches roots field.typeId := by
  obtain ⟨id, name, fields, hreached, hshape, hfield⟩ := h
  exact hreached.mention hshape (List.mem_map_of_mem hfield)

/-- What is reached lies on a chain that starts at a root or at a field. -/
theorem Reaches.entry (h : types.Reaches roots id) :
    ∃ start, types.LeadsTo start id ∧
      (start ∈ roots ∨ ∃ field, types.HasField roots field ∧ field.typeId = start) := by
  induction h with
  | root hroot => exact ⟨_, .refl, Or.inl hroot⟩
  | @mention id next shape hreached hshape hnext ih =>
      obtain ⟨start, hleads, hstart⟩ := ih
      have hextend : shape.inner? = some next →
          ∃ start, types.LeadsTo start next ∧
            (start ∈ roots ∨ ∃ field, types.HasField roots field ∧ field.typeId = start) :=
        fun hinner => ⟨start, hleads.tail ⟨shape, hshape, hinner⟩, hstart⟩
      cases shape with
      | primitive kind => exact absurd hnext List.not_mem_nil
      | enumeration name members => exact absurd hnext List.not_mem_nil
      | array element => exact hextend (congrArg some (List.mem_singleton.mp hnext).symm)
      | dictionary value => exact hextend (congrArg some (List.mem_singleton.mp hnext).symm)
      | reference target => exact hextend (congrArg some (List.mem_singleton.mp hnext).symm)
      | structured name fields =>
          obtain ⟨field, hfield, rfl⟩ := List.mem_map.mp hnext
          exact ⟨field.typeId, .refl, Or.inr ⟨field, ⟨id, name, fields, hreached, hshape, hfield⟩, rfl⟩⟩

end TypeMap

end ApiProxy
