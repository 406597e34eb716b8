import Mathlib.Data.List.Sort
import ApiProxy.Proofs.Binding.Positions

/-! What binding an action leads to. Either the first thing that stands against it is reported, or each parameter gets
one role: it fills placeholders of the URL, or none refers to it, or it is an entry of the query, or it is the body.
Roles are given to positions, so this holds of parameters that are equal in every respect as well. -/

namespace ApiProxy

inductive Role where
  | url
  | unplaced
  | query
  | body
deriving DecidableEq, Repr

/-- The kind of the parameters that may have a role. -/
def Role.kind : Role → BindingKind
  | url => .path
  | unplaced => .path
  | query => .query
  | body => .body

theorem Role.eq_of_kind {role other : Role} (hrole : role ≠ url) (hother : other ≠ url)
    (h : role.kind = other.kind) : role = other := by
  cases role <;> cases other <;> simp_all [kind]

/-- The parameters that have a role; one that fills several placeholders stands in the URL as often. -/
def Binding.inRole (binding : Binding) : Role → List PlacedParameter
  | .url => binding.segments.filterMap BoundSegment.placed?
  | .unplaced => binding.unplaced
  | .query => binding.query
  | .body => binding.body?.toList

def Binding.positionsOf (binding : Binding) (role : Role) : List Nat :=
  (binding.inRole role).map PlacedParameter.position

/-- A literal is bound as it is, a placeholder to the first path parameter of its name. -/
inductive Action.BindsTo (action : Action) : Route.Segment → BoundSegment → Prop where
  | literal (text : String) : BindsTo action (.literal text) (.literal text)
  | placeholder {name : String} {mark : Bool} {position : Nat} {parameter : Parameter}
      (hat : action.parameters[position]? = some parameter) (hfirst : action.FirstOfName name position) :
      BindsTo action (.placeholder name mark) (.parameter ⟨position, parameter⟩)

/-- The wiring of an action in which no parameter is lost and none is taken twice. -/
structure Action.Layout (action : Action) (binding : Binding) : Prop where
  segments : List.Forall₂ action.BindsTo (Route.segments action.template) binding.segments
  placed : ∀ role, ∀ placed ∈ binding.inRole role,
    action.parameters[placed.position]? = some placed.parameter ∧ placed.parameter.binding = role.kind
  oneRole : ∀ position < action.parameters.length, ∃! role, position ∈ binding.positionsOf role
  once : ∀ role ≠ .url, ∀ position ∈ binding.positionsOf role, (binding.positionsOf role).count position = 1
  ordered : ∀ role ≠ .url, (binding.positionsOf role).Pairwise (· < ·)

def Action.unplacedNotice (action : Action) (controllerName : String) (placed : PlacedParameter) : Notice :=
  .unplacedParameter controllerName action.name placed.parameter.name

/-- What binding tells of an action: the first placeholder that no path parameter fills; or else all the bodies, if
there are several; or else the wiring, with a notice for each path parameter that the URL does not mention. -/
inductive Action.Tells (action : Action) (controllerName : String) : Traced Binding → Prop where
  | unfilled {name : String} {mark : Bool}
      (hfirst : First (fun segment => ¬action.Fills segment) (Route.segments action.template)
        (.placeholder name mark)) :
      Tells action controllerName ⟨[], .error (.missingPathParameter controllerName action.name name)⟩
  | bodies (hfilled : ∀ segment ∈ Route.segments action.template, action.Fills segment)
      (hmany : 2 ≤ (action.boundTo .body).length) :
      Tells action controllerName
        ⟨[], .error (.multipleBodyParameters controllerName action.name
          ((action.boundTo .body).map Parameter.name))⟩
  | bound {binding : Binding} (hfilled : ∀ segment ∈ Route.segments action.template, action.Fills segment)
      (hone : (action.boundTo .body).length ≤ 1) (hlayout : action.Layout binding) :
      Tells action controllerName ⟨binding.unplaced.map (action.unplacedNotice controllerName), .ok binding⟩

variable {action : Action} {controllerName : String} {binding other : Binding} {role : Role} {position : Nat}

/-! ### The positions that have a role -/

theorem Action.ascending_positions (action : Action) (kind : BindingKind) :
    (action.positions kind).Pairwise (· < ·) :=
  List.pairwise_lt_range.filter _

theorem BoundSegment.position?_eq (segment : BoundSegment) :
    segment.position? = segment.placed?.map PlacedParameter.position := by
  cases segment <;> rfl

theorem Binding.positionsOf_url (binding : Binding) :
    binding.positionsOf .url = binding.segments.filterMap BoundSegment.position? := by
  rw [positionsOf, inRole, List.map_filterMap]
  congr 1
  funext segment
  exact (BoundSegment.position?_eq segment).symm

theorem Binding.mem_positionsOf : position ∈ binding.positionsOf role ↔
    ∃ placed ∈ binding.inRole role, placed.position = position := List.mem_map

section Bound

variable (h : action.bind controllerName = .ok binding)

include h

theorem bindsTo_of_bind : List.Forall₂ action.BindsTo (Route.segments action.template) binding.segments := by
  obtain ⟨hsegments, _⟩ := bind_eq_ok_iff.mp h
  refine (Outcome.mapM_eq_ok_iff.mp hsegments).imp fun segment bound hbound => ?_
  rcases bindSegment_eq_ok_iff.mp hbound with ⟨text, rfl, rfl⟩ | ⟨name, mark, placed, rfl, rfl, hfound⟩
  · exact .literal text
  · obtain ⟨hat, hfirst⟩ := Action.find?_placedAs_path hfound
    exact .placeholder hat hfirst

theorem positionsOf_query_of_bind : binding.positionsOf .query = action.positions .query := by
  rw [← action.positions_placedAs, ← query_of_bind h]
  rfl

theorem positionsOf_body_of_bind : binding.positionsOf .body = action.positions .body := by
  obtain ⟨_, hone, _, hbody, _⟩ := bind_eq_ok_iff.mp h
  have hlist : binding.inRole .body = action.placedAs .body := by
    rw [Binding.inRole, hbody]
    rcases hbodies : action.placedAs .body with _ | ⟨first, _ | ⟨second, others⟩⟩
    · rfl
    · rfl
    · simp [hbodies] at hone
  rw [Binding.positionsOf, hlist, action.positions_placedAs]

theorem positionsOf_unplaced_of_bind : binding.positionsOf .unplaced =
    (action.positions .path).filter fun position => position ∉ binding.positionsOf .url := by
  obtain ⟨_, _, _, _, hunplaced⟩ := bind_eq_ok_iff.mp h
  rw [Binding.positionsOf_url, ← action.positions_placedAs, List.filter_map, Binding.positionsOf, Binding.inRole,
    hunplaced]
  rfl

theorem ordered_of_bind (hrole : role ≠ .url) : (binding.positionsOf role).Pairwise (· < ·) := by
  cases role with
  | url => exact absurd rfl hrole
  | unplaced =>
      rw [positionsOf_unplaced_of_bind h]
      exact (action.ascending_positions .path).filter _
  | query =>
      rw [positionsOf_query_of_bind h]
      exact action.ascending_positions .query
  | body =>
      rw [positionsOf_body_of_bind h]
      exact action.ascending_positions .body

theorem placed_of_bind {placed : PlacedParameter} (hplaced : placed ∈ binding.inRole role) :
    action.parameters[placed.position]? = some placed.parameter ∧ placed.parameter.binding = role.kind := by
  obtain ⟨hsegments, _, hquery, hbody, hunplaced⟩ := bind_eq_ok_iff.mp h
  cases role with
  | url =>
      obtain ⟨bound, hbound, hparameter⟩ := List.mem_filterMap.mp hplaced
      obtain ⟨segment, _, hsegment⟩ := exists_left_of_forall₂ (bindsTo_of_bind h) hbound
      cases hsegment with
      | literal text => cases hparameter
      | placeholder hat hfirst =>
          cases hparameter
          obtain ⟨parameter, hparameter, hpath, _⟩ := hfirst.named
          cases hat.symm.trans hparameter
          exact ⟨hat, hpath⟩
  | unplaced =>
      rw [Binding.inRole, hunplaced] at hplaced
      exact Action.mem_placedAs.mp (List.mem_of_mem_filter hplaced)
  | query =>
      rw [Binding.inRole, hquery] at hplaced
      exact Action.mem_placedAs.mp hplaced
  | body =>
      rw [Binding.inRole, hbody, Option.mem_toList] at hplaced
      exact Action.mem_placedAs.mp (List.mem_of_mem_head? hplaced)

/-- A path parameter is in the URL or unplaced, and any other has the role of its kind. -/
theorem exists_role_of_bind (hposition : position < action.parameters.length) :
    ∃ role, position ∈ binding.positionsOf role := by
  have hat := List.getElem?_eq_getElem hposition
  have hmem : position ∈ action.positions action.parameters[position].binding :=
    Action.mem_positions.mpr ⟨_, hat, rfl⟩
  cases hkind : action.parameters[position].binding with
  | path =>
      rw [hkind] at hmem
      by_cases hurl : position ∈ binding.positionsOf .url
      · exact ⟨.url, hurl⟩
      · refine ⟨.unplaced, ?_⟩
        rw [positionsOf_unplaced_of_bind h]
        exact List.mem_filter.mpr ⟨hmem, decide_eq_true hurl⟩
  | query =>
      rw [hkind, ← positionsOf_query_of_bind h] at hmem
      exact ⟨.query, hmem⟩
  | body =>
      rw [hkind, ← positionsOf_body_of_bind h] at hmem
      exact ⟨.body, hmem⟩

theorem kind_of_mem_positionsOf (hmem : position ∈ binding.positionsOf role) :
    action.parameters[position]?.map Parameter.binding = some role.kind := by
  obtain ⟨placed, hplaced, rfl⟩ := Binding.mem_positionsOf.mp hmem
  obtain ⟨hat, hkind⟩ := placed_of_bind h hplaced
  rw [hat, Option.map_some, hkind]

theorem notMem_url_of_bind (hrole : role ≠ .url) (hmem : position ∈ binding.positionsOf role) :
    position ∉ binding.positionsOf .url := by
  intro hurl
  have hkind := (kind_of_mem_positionsOf h hmem).symm.trans (kind_of_mem_positionsOf h hurl)
  obtain rfl : role = .unplaced := Role.eq_of_kind hrole (by decide) (Option.some.inj hkind)
  rw [positionsOf_unplaced_of_bind h] at hmem
  exact of_decide_eq_true (List.mem_filter.mp hmem).2 hurl

theorem role_unique_of_bind {otherRole : Role} (hmem : position ∈ binding.positionsOf role)
    (hother : position ∈ binding.positionsOf otherRole) : role = otherRole := by
  by_cases hrole : role = .url
  · subst hrole
    by_contra hne
    exact notMem_url_of_bind h (Ne.symm hne) hother hmem
  by_cases hotherRole : otherRole = .url
  · subst hotherRole
    exact absurd hother (notMem_url_of_bind h hrole hmem)
  have hkind := (kind_of_mem_positionsOf h hmem).symm.trans (kind_of_mem_positionsOf h hother)
  exact Role.eq_of_kind hrole hotherRole (Option.some.inj hkind)

theorem layout_of_bind : action.Layout binding where
  segments := bindsTo_of_bind h
  placed := fun _ _ => placed_of_bind h
  oneRole := fun _ hposition => by
    obtain ⟨role, hrole⟩ := exists_role_of_bind h hposition
    exact ⟨role, hrole, fun _ hother => role_unique_of_bind h hother hrole⟩
  once := fun _ hrole _ => List.count_eq_one_of_mem (ordered_of_bind h hrole).nodup
  ordered := fun _ => ordered_of_bind h

end Bound

/-! ### One wiring for each action -/

theorem Action.bindsTo_rightUnique (action : Action) : Relator.RightUnique action.BindsTo := by
  rintro segment bound twin hbound htwin
  cases hbound with
  | literal text => cases htwin; rfl
  | placeholder hat hfirst =>
      cases htwin with
      | placeholder htwinAt htwinFirst =>
          cases hfirst.unique htwinFirst
          cases hat.symm.trans htwinAt
          rfl

namespace Action.Layout

theorem kind_mem_positions (h : action.Layout binding) (hmem : position ∈ binding.positionsOf role) :
    position ∈ action.positions role.kind := by
  obtain ⟨placed, hplaced, rfl⟩ := Binding.mem_positionsOf.mp hmem
  exact Action.mem_positions.mpr ⟨_, h.placed role placed hplaced⟩

/-- The positions of a role are told from the kinds of the parameters and the placeholders of the URL. -/
theorem mem_positionsOf_iff (h : action.Layout binding) (hrole : role ≠ .url) : position ∈ binding.positionsOf role ↔
    position ∈ action.positions role.kind ∧ position ∉ binding.positionsOf .url := by
  have hlength {kind : BindingKind} (hmem : position ∈ action.positions kind) :
      position < action.parameters.length := by
    obtain ⟨parameter, hat, _⟩ := Action.mem_positions.mp hmem
    exact (List.getElem?_eq_some_iff.mp hat).1
  constructor
  · intro hmem
    have hkind := h.kind_mem_positions hmem
    exact ⟨hkind, fun hurl => hrole ((h.oneRole position (hlength hkind)).unique hmem hurl)⟩
  · rintro ⟨hmem, hurl⟩
    obtain ⟨found, hfound, _⟩ := h.oneRole position (hlength hmem)
    have hnotUrl : found ≠ .url := by
      rintro rfl
      exact hurl hfound
    obtain ⟨parameter, hat, hkind⟩ := Action.mem_positions.mp hmem
    obtain ⟨other, hother, hfoundKind⟩ := Action.mem_positions.mp (h.kind_mem_positions hfound)
    cases hat.symm.trans hother
    cases Role.eq_of_kind hrole hnotUrl (hkind.symm.trans hfoundKind)
    exact hfound

theorem inRole_eq (h : action.Layout binding) (role : Role) : binding.inRole role =
    (binding.positionsOf role).filterMap fun position =>
      action.parameters[position]?.map (PlacedParameter.mk position) := by
  have hplaced : ∀ placed ∈ binding.inRole role,
      action.parameters[placed.position]?.map (PlacedParameter.mk placed.position) = some placed :=
    fun placed hplaced => by rw [(h.placed role placed hplaced).1, Option.map_some]
  rw [Binding.positionsOf, List.filterMap_map]
  exact ((List.filterMap_congr hplaced).trans List.filterMap_some).symm

theorem unique (h : action.Layout binding) (hother : action.Layout other) : binding = other := by
  have hsegments : binding.segments = other.segments :=
    action.bindsTo_rightUnique.forall₂ h.segments hother.segments
  have hrole (role : Role) (hrole : role ≠ .url) : binding.inRole role = other.inRole role := by
    have hurl : binding.positionsOf .url = other.positionsOf .url := by
      rw [Binding.positionsOf_url, Binding.positionsOf_url, hsegments]
    rw [h.inRole_eq, hother.inRole_eq, (h.ordered role hrole).eq_of_mem_iff (hother.ordered role hrole)]
    intro position
    rw [h.mem_positionsOf_iff hrole, hother.mem_positionsOf_iff hrole, hurl]
  have hquery : binding.query = other.query := hrole .query (by decide)
  have hunplaced : binding.unplaced = other.unplaced := hrole .unplaced (by decide)
  have hbody : binding.body? = other.body? := by
    have hhead := congrArg List.head? (hrole .body (by decide))
    simpa [Binding.inRole] using hhead
  cases binding
  cases other
  cases hsegments
  cases hquery
  cases hunplaced
  cases hbody
  rfl

end Action.Layout

/-! ### What binding tells -/

theorem Action.Tells.unique {told twin : Traced Binding} (h : action.Tells controllerName told)
    (htwin : action.Tells controllerName twin) : told = twin := by
  cases h with
  | unfilled hfirst =>
      cases htwin with
      | unfilled htwinFirst => cases hfirst.unique htwinFirst; rfl
      | bodies hfilled _ => exact absurd (hfilled _ hfirst.mem) hfirst.holds
      | bound hfilled _ _ => exact absurd (hfilled _ hfirst.mem) hfirst.holds
  | bodies hfilled hmany =>
      cases htwin with
      | unfilled hfirst => exact absurd (hfilled _ hfirst.mem) hfirst.holds
      | bodies _ _ => rfl
      | bound _ hone _ => omega
  | bound hfilled hone hlayout =>
      cases htwin with
      | unfilled hfirst => exact absurd (hfilled _ hfirst.mem) hfirst.holds
      | bodies _ hmany => omega
      | bound _ _ htwinLayout => cases hlayout.unique htwinLayout; rfl

theorem tells_bindNoting (action : Action) (controllerName : String) :
    action.Tells controllerName (action.bindNoting controllerName) := by
  rw [Action.bindNoting]
  rcases bind_outcome action controllerName with ⟨⟨binding, hbinding⟩, hbindable⟩ | ⟨failure, hfailure, hclash⟩
  · rw [hbinding]
    exact .bound hbindable.filled hbindable.oneBody (layout_of_bind hbinding)
  · rw [hfailure]
    cases hclash with
    | unfilled hfirst => exact .unfilled hfirst
    | bodies hfilled hmany => exact .bodies hfilled hmany

theorem Action.Tells.layout {told : Traced Binding} (h : action.Tells controllerName told)
    (hbinding : told.outcome = .ok binding) : action.Layout binding := by
  cases h with
  | unfilled _ => cases hbinding
  | bodies _ _ => cases hbinding
  | bound _ _ hlayout =>
      cases hbinding
      exact hlayout

theorem Action.Tells.warns {told : Traced Binding} (h : action.Tells controllerName told) :
    ∀ notice ∈ told.notices, notice.record.level = .warn := by
  intro notice hnotice
  cases h with
  | unfilled _ => cases hnotice
  | bodies _ _ => cases hnotice
  | bound _ _ _ =>
      obtain ⟨placed, _, rfl⟩ := List.mem_map.mp hnotice
      rfl

/-- Binding reports the first placeholder of the template that no path parameter fills, then several bodies with all
their names, and otherwise succeeds with a wiring in which each parameter has exactly one role. Only the parameters
that have no place are noted, each once and as a warning. -/
theorem binding_gives_one_role (action : Action) (controllerName : String) (told : Traced Binding) :
    (action.bindNoting controllerName = told ↔ action.Tells controllerName told) ∧
      ∀ notice ∈ (action.bindNoting controllerName).notices, notice.record.level = .warn := by
  have htells := tells_bindNoting action controllerName
  exact ⟨⟨fun h => h ▸ htells, fun h => htells.unique h⟩, htells.warns⟩

/-- An action with names that differ in case alone, and with two parameters that do not differ at all. -/
def twinAction : Action where
  name := "find"
  method := .post
  template := "/\x7bID\x7d/\x7bid?\x7d/all"
  parameters := [⟨"Id", .path, "Int", false⟩, ⟨"tag", .query, "Text", true⟩, ⟨"id", .path, "Int", false⟩,
    ⟨"tag", .query, "Text", true⟩, ⟨"filter", .body, "Filter", false⟩]
  returnType? := none

def twinBinding : Binding where
  segments := [.literal "/", .parameter ⟨0, ⟨"Id", .path, "Int", false⟩⟩, .literal "/",
    .parameter ⟨0, ⟨"Id", .path, "Int", false⟩⟩, .literal "/all"]
  query := [⟨1, ⟨"tag", .query, "Text", true⟩⟩, ⟨3, ⟨"tag", .query, "Text", true⟩⟩]
  body? := some ⟨4, ⟨"filter", .body, "Filter", false⟩⟩
  unplaced := [⟨2, ⟨"id", .path, "Int", false⟩⟩]

theorem twinAction_gives_one_role :
    twinAction.bindNoting "Item" = ⟨[.unplacedParameter "Item" "find" "id"], .ok twinBinding⟩ ∧
      twinAction.Layout twinBinding ∧ (Notice.unplacedParameter "Item" "find" "id").record.level = .warn := by
  have htold : twinAction.bindNoting "Item" = ⟨[.unplacedParameter "Item" "find" "id"], .ok twinBinding⟩ := rfl
  obtain ⟨hiff, hwarns⟩ := binding_gives_one_role twinAction "Item" (twinAction.bindNoting "Item")
  refine ⟨htold, (hiff.mp rfl).layout (congrArg Traced.outcome htold), hwarns _ ?_⟩
  rw [htold]
  exact List.mem_singleton_self _

end ApiProxy
