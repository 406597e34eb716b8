import ApiProxy.Proofs.Binding

/-! Parameters by their positions. What a binding keeps of an action are positions with the parameters that stand
there, so two parameters that are equal in every respect are still told apart. -/

namespace ApiProxy

/-- The positions of the parameters of a kind, in their order. -/
def Action.positions (action : Action) (kind : BindingKind) : List Nat :=
  (List.range action.parameters.length).filter fun position =>
    action.parameters[position]?.any (·.binding = kind)

/-- A path parameter that goes by a name stands at a position. -/
def Action.HasPathName (action : Action) (name : String) (position : Nat) : Prop :=
  ∃ parameter, action.parameters[position]? = some parameter ∧ parameter.binding = .path ∧
    sameUpToCase parameter.name name = true

/-- The position of the parameter that fills the placeholders of a name. -/
structure Action.FirstOfName (action : Action) (name : String) (position : Nat) : Prop where
  named : action.HasPathName name position
  first : ∀ earlier < position, ¬action.HasPathName name earlier

def BoundSegment.placed? : BoundSegment → Option PlacedParameter
  | literal _ => none
  | parameter placed => some placed

/-- The parameters that a binding sends, as often as it sends them. -/
def Binding.sent (binding : Binding) : List PlacedParameter :=
  binding.segments.filterMap BoundSegment.placed? ++ binding.query ++ binding.body?.toList

variable {action : Action} {controllerName : String} {binding : Binding} {placed : PlacedParameter}
  {kind : BindingKind}

theorem Action.FirstOfName.unique {name : String} {position other : Nat} (h : action.FirstOfName name position)
    (hother : action.FirstOfName name other) : position = other := by
  rcases Nat.lt_trichotomy position other with hlt | heq | hlt
  · exact absurd h.named (hother.first position hlt)
  · exact heq
  · exact absurd hother.named (h.first other hlt)

theorem Action.mem_positions {position : Nat} :
    position ∈ action.positions kind ↔
      ∃ parameter, action.parameters[position]? = some parameter ∧ parameter.binding = kind := by
  rw [Action.positions, List.mem_filter, List.mem_range]
  constructor
  · rintro ⟨_, hkind⟩
    rw [Option.any_eq_true] at hkind
    obtain ⟨parameter, hparameter, hkind⟩ := hkind
    exact ⟨parameter, hparameter, of_decide_eq_true hkind⟩
  · rintro ⟨parameter, hparameter, rfl⟩
    refine ⟨(List.getElem?_eq_some_iff.mp hparameter).1, ?_⟩
    simp [hparameter]

theorem Action.getElem?_placed (action : Action) (position : Nat) :
    action.placed[position]? = action.parameters[position]?.map fun parameter => ⟨position, parameter⟩ := by
  rw [Action.placed, List.getElem?_map, List.getElem?_zipIdx, Option.map_map]
  simp [Function.comp_def]

theorem Action.mem_placed : placed ∈ action.placed ↔ action.parameters[placed.position]? = some placed.parameter := by
  rw [List.mem_iff_getElem?]
  simp only [Action.getElem?_placed, Option.map_eq_some_iff]
  constructor
  · rintro ⟨position, parameter, hparameter, rfl⟩
    exact hparameter
  · intro h
    exact ⟨placed.position, placed.parameter, h, rfl⟩

theorem Action.mem_placedAs :
    placed ∈ action.placedAs kind ↔
      action.parameters[placed.position]? = some placed.parameter ∧ placed.parameter.binding = kind := by
  rw [Action.placedAs, List.mem_filter, Action.mem_placed, decide_eq_true_iff]

theorem Action.positions_placedAs (action : Action) (kind : BindingKind) :
    (action.placedAs kind).map PlacedParameter.position = action.positions kind := by
  have hrange : action.placed.map PlacedParameter.position = List.range action.parameters.length := by
    rw [Action.placed, List.map_map, List.range_eq_range']
    exact List.zipIdx_map_snd 0 action.parameters
  have hkind : action.placedAs kind = action.placed.filter fun placed =>
      action.parameters[placed.position]?.any (·.binding = kind) := by
    refine List.filter_congr fun placed hplaced => ?_
    rw [Action.mem_placed.mp hplaced, Option.any_some]
  rw [hkind, Action.positions, ← hrange, List.filter_map]
  rfl

theorem Action.find?_placedAs_path {name : String}
    (h : ((action.placedAs .path).find? fun placed => sameUpToCase placed.parameter.name name) = some placed) :
    action.parameters[placed.position]? = some placed.parameter ∧ action.FirstOfName name placed.position := by
  rw [Action.placedAs, List.find?_filter] at h
  obtain ⟨hnamed, position, hposition, hplaced, hbefore⟩ := List.find?_eq_some_iff_getElem.mp h
  have hat : action.placed[position]? = some placed := List.getElem?_eq_some_iff.mpr ⟨hposition, hplaced⟩
  rw [Action.getElem?_placed, Option.map_eq_some_iff] at hat
  obtain ⟨parameter, hparameter, rfl⟩ := hat
  simp only [decide_eq_true_eq] at hnamed
  refine ⟨hparameter, ⟨parameter, hparameter, hnamed⟩, ?_⟩
  rintro earlier hearlier ⟨other, hother, hpath, hname⟩
  have hbound : earlier < action.placed.length := Nat.lt_trans hearlier hposition
  have hplaced : action.placed[earlier] = ⟨earlier, other⟩ := by
    rw [← Option.some_inj, ← List.getElem?_eq_getElem hbound, Action.getElem?_placed, hother]
    rfl
  have hnot := hbefore earlier hearlier
  rw [hplaced] at hnot
  simp [hpath, hname] at hnot

/-! ### What a binding holds -/

theorem bind_eq_ok_iff :
    action.bind controllerName = .ok binding ↔
      (Route.segments action.template).mapM (action.bindSegment controllerName) = .ok binding.segments ∧
        (action.placedAs .body).length ≤ 1 ∧ binding.query = action.placedAs .query ∧
        binding.body? = (action.placedAs .body).head? ∧
        binding.unplaced = (action.placedAs .path).filter fun placed =>
          placed.position ∉ binding.segments.filterMap BoundSegment.position? := by
  rw [Action.bind, Outcome.bind_eq_ok_iff]
  obtain ⟨segments, query, body?, unplaced⟩ := binding
  rcases action.placedAs .body with _ | ⟨first, _ | ⟨second, others⟩⟩ <;> simp <;> grind

/-- How a segment is bound, whatever name failures are reported under. -/
theorem bindSegment_eq_ok_iff {segment : Route.Segment} {bound : BoundSegment} :
    action.bindSegment controllerName segment = .ok bound ↔
      (∃ text, segment = .literal text ∧ bound = .literal text) ∨
      ∃ name isOptional placed, segment = .placeholder name isOptional ∧ bound = .parameter placed ∧
        ((action.placedAs .path).find? fun placed => sameUpToCase placed.parameter.name name) = some placed := by
  cases segment with
  | literal text => simp [Action.bindSegment, eq_comm]
  | placeholder name isOptional =>
      rw [Action.bindSegment]
      cases hfound : (action.placedAs .path).find? fun placed => sameUpToCase placed.parameter.name name with
      | none => simp [hfound]
      | some placed => simp [hfound, eq_comm]

theorem bind_rename (h : action.bind controllerName = .ok binding) (otherName : String) :
    action.bind otherName = .ok binding := by
  obtain ⟨hsegments, hrest⟩ := bind_eq_ok_iff.mp h
  refine bind_eq_ok_iff.mpr ⟨?_, hrest⟩
  rw [Outcome.mapM_eq_ok_iff] at hsegments ⊢
  exact hsegments.imp fun _ _ hbound => bindSegment_eq_ok_iff.mpr (bindSegment_eq_ok_iff.mp hbound)

/-- Every parameter that a binding sends stands where the binding says. -/
theorem mem_sent_of_bind (h : action.bind controllerName = .ok binding) (hplaced : placed ∈ binding.sent) :
    action.parameters[placed.position]? = some placed.parameter := by
  obtain ⟨hsegments, _, hquery, hbody, _⟩ := bind_eq_ok_iff.mp h
  rw [Binding.sent, List.mem_append, List.mem_append] at hplaced
  rcases hplaced with (hplaced | hplaced) | hplaced
  · obtain ⟨bound, hbound, hparameter⟩ := List.mem_filterMap.mp hplaced
    obtain ⟨segment, _, hsegment⟩ := (Outcome.mem_of_mapM hsegments).mp hbound
    rcases bindSegment_eq_ok_iff.mp hsegment with ⟨text, _, rfl⟩ | ⟨name, mark, other, _, rfl, hfound⟩
    · cases hparameter
    · cases hparameter
      exact (Action.find?_placedAs_path hfound).1
  · rw [hquery] at hplaced
    exact (Action.mem_placedAs.mp hplaced).1
  · rw [hbody, Option.mem_toList] at hplaced
    exact (Action.mem_placedAs.mp (List.mem_of_mem_head? hplaced)).1

end ApiProxy
