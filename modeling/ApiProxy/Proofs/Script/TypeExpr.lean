import ApiProxy.Proofs.TypeGraph.Chain
import ApiProxy.Proofs.TypeGraph.References

/-! Which types can be written, and as what: a type is written by the chain that starts at it, or it is
reported as the dead end that the chain is. -/

namespace ApiProxy.Script

open TypeMap

/-- The names that the script itself has for primitive types. -/
inductive PrimitiveText : PrimitiveKind → String → Prop where
  | text : PrimitiveText .text "string"
  | integer : PrimitiveText .integer "number"
  | float : PrimitiveText .float "number"
  | boolean : PrimitiveText .boolean "boolean"
  | dateTime : PrimitiveText .dateTime "string"
  | binary : PrimitiveText .binary "Blob"
  | any : PrimitiveText .any "any"

theorem primitiveName_eq_ok_iff {id name : String} {kind : PrimitiveKind} :
    primitiveName id kind = .ok name ↔ PrimitiveText kind name := by
  constructor
  · intro h
    cases kind <;> cases h <;> constructor
  · rintro ⟨⟩ <;> rfl

theorem PrimitiveText.unique {kind : PrimitiveKind} {name other : String} (h : PrimitiveText kind name)
    (hother : PrimitiveText kind other) : name = other := by
  cases h <;> cases hother <;> rfl

/-- How a type is written, read off the chain that starts at it. -/
inductive Written (types : TypeMap) (names : TypeNames) : String → TypeExpr → Prop where
  | primitive {id name : String} {kind : PrimitiveKind} (hshape : types.get? id = some (.primitive kind))
      (hname : primitiveName id kind = .ok name) : Written types names id (.primitive name)
  | array {id element : String} {type : TypeExpr} (hshape : types.get? id = some (.array element))
      (helement : Written types names element type) : Written types names id (.list type)
  | dictionary {id value : String} {type : TypeExpr} (hshape : types.get? id = some (.dictionary value))
      (hvalue : Written types names value type) : Written types names id (.dictionary type)
  | reference {id target : String} {type : TypeExpr} (hshape : types.get? id = some (.reference target))
      (htarget : Written types names target type) : Written types names id type
  | declared {id name : String} {shape : TypeShape} (hshape : types.get? id = some shape)
      (hname : shape.declaredName? = some name) : Written types names id (.declared (names.identifier id name))

variable {types : TypeMap} {names : TypeNames} {id : String} {type : TypeExpr} {failure : Failure}

theorem primitiveName_outcome (id : String) (kind : PrimitiveKind) :
    (∃ name, primitiveName id kind = .ok name ∧ ∀ unknown, kind ≠ .unsupported unknown) ∨
      ∃ unknown, kind = .unsupported unknown ∧ primitiveName id kind = .error (.unsupportedType id unknown) := by
  cases kind <;> simp [primitiveName]

/-- A chain extended by a step at its front makes each id met so far come before the next one. -/
theorem met_before_next {met : List String} {next : String}
    (hmet : ∀ earlier ∈ met, Relation.TransGen types.Passes earlier id) (hstep : types.Passes id next) :
    ∀ earlier ∈ id :: met, Relation.TransGen types.Passes earlier next := by
  intro earlier hearlier
  rcases List.mem_cons.mp hearlier with rfl | hearlier
  · exact .single hstep
  · exact (hmet earlier hearlier).tail hstep

theorem wrapped_outcome {next : String} {outcome : Except Failure TypeExpr} {wrap : TypeExpr → TypeExpr}
    (hstep : types.Passes id next)
    (hwrap : ∀ type, Written types names next type → Written types names id (wrap type))
    (h : (∃ type, outcome = .ok type ∧ Written types names next type) ∨
      ∃ failure, outcome = .error failure ∧ types.DeadEnd next failure) :
    (∃ type, outcome.map wrap = .ok type ∧ Written types names id type) ∨
      ∃ failure, outcome.map wrap = .error failure ∧ types.DeadEnd id failure := by
  rcases h with ⟨type, rfl, hwritten⟩ | ⟨failure, rfl, hdead⟩
  · exact Or.inl ⟨wrap type, rfl, hwrap type hwritten⟩
  · exact Or.inr ⟨failure, rfl, hdead.prepend hstep⟩

theorem writeType_outcome {met : List String}
    (hmet : ∀ earlier ∈ met, Relation.TransGen types.Passes earlier id) :
    (∃ type, writeType types names met id = .ok type ∧ Written types names id type) ∨
      ∃ failure, writeType types names met id = .error failure ∧ types.DeadEnd id failure := by
  -- `met` is the chain so far, so an id that is met again closes a loop
  fun_induction writeType types names met id with
  | case1 met id hcircular => exact Or.inr ⟨_, rfl, .circular .refl (hmet id hcircular)⟩
  | case2 met id hnew hmissing => exact Or.inr ⟨_, rfl, .undefined .refl hmissing⟩
  | case3 met id hnew kind hshape =>
      rcases primitiveName_outcome id kind with ⟨name, hname, _⟩ | ⟨unknown, rfl, herror⟩
      · exact Or.inl ⟨.primitive name, by rw [hname]; rfl, .primitive hshape hname⟩
      · exact Or.inr ⟨_, by rw [herror]; rfl, .unsupported .refl hshape⟩
  | case4 met id hnew element hshape ih =>
      have hstep : types.Passes id element := ⟨_, hshape, rfl⟩
      exact wrapped_outcome hstep (fun _ => .array hshape) (ih (met_before_next hmet hstep))
  | case5 met id hnew value hshape ih =>
      have hstep : types.Passes id value := ⟨_, hshape, rfl⟩
      exact wrapped_outcome hstep (fun _ => .dictionary hshape) (ih (met_before_next hmet hstep))
  | case6 met id hnew target hshape ih =>
      have hstep : types.Passes id target := ⟨_, hshape, rfl⟩
      rcases ih (met_before_next hmet hstep) with ⟨type, htype, hwritten⟩ | ⟨failure, herror, hdead⟩
      · exact Or.inl ⟨type, htype, .reference hshape hwritten⟩
      · exact Or.inr ⟨failure, herror, hdead.prepend hstep⟩
  | case7 met id hnew name fields hshape => exact Or.inl ⟨_, rfl, .declared hshape rfl⟩
  | case8 met id hnew name members hshape => exact Or.inl ⟨_, rfl, .declared hshape rfl⟩

theorem typeExpr_outcome (types : TypeMap) (names : TypeNames) (id : String) :
    (∃ type, typeExpr types names id = .ok type ∧ Written types names id type) ∨
      ∃ failure, typeExpr types names id = .error failure ∧ types.DeadEnd id failure :=
  writeType_outcome fun _ hearlier => absurd hearlier List.not_mem_nil

/-- A type that is written has a chain with an end, and the end decides which declared type it names. -/
theorem Written.endsAs (h : Written types names id type) :
    ∃ last shape, types.LeadsTo id last ∧ types.EndsAs last shape ∧
      (∀ kind, shape ≠ .primitive (.unsupported kind)) ∧
      type.declared? = shape.declaredName?.map (names.identifier last) := by
  induction h with
  | @primitive id name kind hshape hname =>
      refine ⟨id, _, .refl, ⟨hshape, rfl⟩, ?_, rfl⟩
      rintro unknown ⟨⟩
      cases hname
  | array hshape _ ih =>
      obtain ⟨last, shape, hleads, hrest⟩ := ih
      exact ⟨last, shape, .head ⟨_, hshape, rfl⟩ hleads, hrest⟩
  | dictionary hshape _ ih =>
      obtain ⟨last, shape, hleads, hrest⟩ := ih
      exact ⟨last, shape, .head ⟨_, hshape, rfl⟩ hleads, hrest⟩
  | reference hshape _ ih =>
      obtain ⟨last, shape, hleads, hrest⟩ := ih
      exact ⟨last, shape, .head ⟨_, hshape, rfl⟩ hleads, hrest⟩
  | @declared id name shape hshape hname =>
      refine ⟨id, shape, .refl, ⟨hshape, inner?_of_declaredName? hname⟩, ?_, by rw [hname]; rfl⟩
      rintro kind rfl
      cases hname

/-- The chain from `start` ends at a structured type or an enumeration. -/
def LeadsToDeclared (types : TypeMap) (start last : String) : Prop :=
  types.LeadsTo start last ∧ ∃ shape name, types.get? last = some shape ∧ shape.declaredName? = some name

/-- A type that is written names the declared type that its chain ends at, and no other. -/
theorem Written.declared?_eq_some_iff (h : Written types names id type) {identifier : String} :
    type.declared? = some identifier ↔ ∃ last shape name, types.LeadsTo id last ∧
      types.get? last = some shape ∧ shape.declaredName? = some name ∧ names.identifier last name = identifier := by
  obtain ⟨last, shape, hleads, hend, _, hdeclared⟩ := h.endsAs
  rw [hdeclared, Option.map_eq_some_iff]
  constructor
  · rintro ⟨name, hname, rfl⟩
    exact ⟨last, shape, name, hleads, hend.1, hname, rfl⟩
  · rintro ⟨last', shape', name, hleads', hshape', hname, rfl⟩
    have hend' : types.EndsAs last' shape' := ⟨hshape', inner?_of_declaredName? hname⟩
    cases end_unique hleads hleads' (fun _ => hend.not_passes) fun _ => hend'.not_passes
    cases hend.1.symm.trans hshape'
    exact ⟨name, hname, rfl⟩

theorem Written.not_deadEnd (h : Written types names id type) : ¬types.DeadEnd id failure := by
  obtain ⟨last, shape, hleads, hend, hsupported, _⟩ := h.endsAs
  exact hend.not_deadEnd hsupported hleads

theorem written_of_typeExpr (h : typeExpr types names id = .ok type) : Written types names id type := by
  rcases typeExpr_outcome types names id with ⟨type', htype, hwritten⟩ | ⟨failure, herror, _⟩
  · rw [h] at htype
    cases htype
    exact hwritten
  · rw [h] at herror
    cases herror

theorem deadEnd_of_typeExpr (h : typeExpr types names id = .error failure) : types.DeadEnd id failure := by
  rcases typeExpr_outcome types names id with ⟨type, htype, _⟩ | ⟨failure', herror, hdead⟩
  · rw [h] at htype
    cases htype
  · rw [h] at herror
    cases herror
    exact hdead

theorem typeExpr_succeeds_iff :
    (∃ type, typeExpr types names id = .ok type) ↔ ∀ failure, ¬types.DeadEnd id failure := by
  constructor
  · rintro ⟨type, htype⟩ failure
    exact (written_of_typeExpr htype).not_deadEnd
  · intro hnone
    rcases typeExpr_outcome types names id with ⟨type, htype, _⟩ | ⟨failure, _, hdead⟩
    · exact ⟨type, htype⟩
    · exact absurd hdead (hnone failure)

/-! ### Looking behind references -/

/-- A type that is written has a type behind its references. -/
theorem Written.comesTo (h : Written types names id type) :
    ∃ last shape, types.ComesTo id last ∧ types.get? last = some shape := by
  have hhere : ∀ {id shape}, types.get? id = some shape → (∀ target, shape ≠ .reference target) →
      ∃ last shape, types.ComesTo id last ∧ types.get? last = some shape := by
    intro id shape hshape hother
    refine ⟨id, shape, .intro (show types.behind? id 0 = some id from rfl) fun target hreference => ?_, hshape⟩
    exact hother target (Option.some.inj (hshape.symm.trans hreference))
  induction h with
  | primitive hshape _ => exact hhere hshape (by rintro target ⟨⟩)
  | array hshape _ _ => exact hhere hshape (by rintro target ⟨⟩)
  | dictionary hshape _ _ => exact hhere hshape (by rintro target ⟨⟩)
  | reference hshape _ ih =>
      obtain ⟨last, shape, hcomes, hlast⟩ := ih
      exact ⟨last, shape, hcomes.of_reference hshape, hlast⟩
  | declared hshape hname =>
      refine hhere hshape ?_
      rintro target rfl
      cases hname

/-- Whether a type is an array can be told of every type that can be written. -/
theorem isArray_succeeds (h : Written types names id type) : ∃ isList, types.isArray id = .ok isList := by
  obtain ⟨last, shape, hcomes, hlast⟩ := h.comesTo
  exact ⟨_, by rw [isArray, resolve_eq_ok_iff.mpr ⟨hcomes, hlast⟩]; rfl⟩

end ApiProxy.Script
