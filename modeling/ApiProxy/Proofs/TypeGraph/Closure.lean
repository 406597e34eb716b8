import Mathlib.Data.List.Nodup
import ApiProxy.Proofs.Text.ByteOrder
import ApiProxy.Types.Closure

/-! The closure of a list of roots is the set of types that the roots lead to, sorted by id, or the report of
an undefined id that they lead to. The walk keeps an invariant: all that it has met or still has to look at is
reached, and all that the roots and the types it has met mention is met or still to be looked at. -/

namespace ApiProxy.TypeMap

/-! ### What the roots lead to, said without the walk that finds it -/

/-- The ids that the roots lead to: the roots themselves, and whatever a reached type mentions. -/
inductive Reaches (types : TypeMap) (roots : List String) : String → Prop where
  | root {id : String} (hroot : id ∈ roots) : Reaches types roots id
  | mention {id next : String} {shape : TypeShape} (hreached : Reaches types roots id)
      (hshape : types.get? id = some shape) (hnext : next ∈ shape.mentions) : Reaches types roots next

variable {types otherTypes : TypeMap} {roots otherRoots : List String} {id : String}

theorem Reaches.mono (h : types.Reaches roots id) (hroots : ∀ root ∈ roots, types.Reaches otherRoots root) :
    types.Reaches otherRoots id := by
  induction h with
  | root hroot => exact hroots _ hroot
  | mention _ hshape hnext ih => exact ih.mention hshape hnext

/-- Only the definitions of the types on the way matter. -/
theorem Reaches.transfer (h : types.Reaches roots id)
    (hagree : ∀ reached, types.Reaches roots reached → otherTypes.get? reached = types.get? reached) :
    otherTypes.Reaches roots id := by
  induction h with
  | root hroot => exact .root hroot
  | mention hreached hshape hnext ih =>
      rw [← hagree _ hreached] at hshape
      exact ih.mention hshape hnext

/-! ### The walk -/

/-- What holds between the types met and the pile of ids still to be looked at. -/
structure WalkInvariant (types : TypeMap) (roots : List String) (met : List ResolvedType)
    (pending : List String) : Prop where
  distinct : (met.map ResolvedType.id).Nodup
  defined : ∀ resolved ∈ met, types.get? resolved.id = some resolved.shape
  metReached : ∀ resolved ∈ met, types.Reaches roots resolved.id
  pendingReached : ∀ id ∈ pending, types.Reaches roots id
  rootsCovered : ∀ id ∈ roots, id ∈ met.map ResolvedType.id ∨ id ∈ pending
  mentionsCovered : ∀ resolved ∈ met, ∀ id ∈ resolved.shape.mentions,
    id ∈ met.map ResolvedType.id ∨ id ∈ pending

variable {types : TypeMap} {roots : List String} {met : List ResolvedType} {id : String}
  {pending : List String}

theorem WalkInvariant.start (types : TypeMap) (roots : List String) :
    WalkInvariant types roots [] roots.reverse where
  distinct := List.nodup_nil
  defined := by simp
  metReached := by simp
  pendingReached id hid := .root (List.mem_reverse.mp hid)
  rootsCovered id hid := Or.inr (List.mem_reverse.mpr hid)
  mentionsCovered := by simp

/-- Nothing that was covered by a pile is lost with its top id if that id was met before. -/
theorem covered_of_dropped {other : String} (hmet : id ∈ met.map ResolvedType.id)
    (hcovered : other ∈ met.map ResolvedType.id ∨ other ∈ id :: pending) :
    other ∈ met.map ResolvedType.id ∨ other ∈ pending := by
  rcases hcovered with hother | hother
  · exact Or.inl hother
  · rcases List.mem_cons.mp hother with rfl | hother
    · exact Or.inl hmet
    · exact Or.inr hother

theorem WalkInvariant.drop (h : WalkInvariant types roots met (id :: pending))
    (hmet : id ∈ met.map ResolvedType.id) : WalkInvariant types roots met pending where
  distinct := h.distinct
  defined := h.defined
  metReached := h.metReached
  pendingReached other hother := h.pendingReached other (List.mem_cons_of_mem id hother)
  rootsCovered other hother := covered_of_dropped hmet (h.rootsCovered other hother)
  mentionsCovered resolved hresolved other hother :=
    covered_of_dropped hmet (h.mentionsCovered resolved hresolved other hother)

theorem covered_of_visited {other : String} {shape : TypeShape} (mentioned : List String)
    (hcovered : other ∈ met.map ResolvedType.id ∨ other ∈ id :: pending) :
    other ∈ ((⟨id, shape⟩ : ResolvedType) :: met).map ResolvedType.id ∨ other ∈ mentioned ++ pending := by
  rcases hcovered with hother | hother
  · exact Or.inl (List.mem_cons_of_mem id hother)
  · rcases List.mem_cons.mp hother with rfl | hother
    · exact Or.inl List.mem_cons_self
    · exact Or.inr (List.mem_append_right mentioned hother)

theorem WalkInvariant.visit {shape : TypeShape} (h : WalkInvariant types roots met (id :: pending))
    (hnew : id ∉ met.map ResolvedType.id) (hshape : types.get? id = some shape) :
    WalkInvariant types roots (⟨id, shape⟩ :: met) (shape.mentions.reverse ++ pending) := by
  have hreached : types.Reaches roots id := h.pendingReached id List.mem_cons_self
  refine ⟨List.nodup_cons.mpr ⟨hnew, h.distinct⟩, ?_, ?_, ?_, ?_, ?_⟩
  · exact List.forall_mem_cons.mpr ⟨hshape, h.defined⟩
  · exact List.forall_mem_cons.mpr ⟨hreached, h.metReached⟩
  · intro other hother
    rcases List.mem_append.mp hother with hmention | hpending
    · exact hreached.mention hshape (List.mem_reverse.mp hmention)
    · exact h.pendingReached other (List.mem_cons_of_mem id hpending)
  · intro other hother
    exact covered_of_visited _ (h.rootsCovered other hother)
  · intro resolved hresolved other hother
    rcases List.mem_cons.mp hresolved with rfl | hresolved
    · exact Or.inr (List.mem_append_left pending (List.mem_reverse.mpr hother))
    · exact covered_of_visited _ (h.mentionsCovered resolved hresolved other hother)

/-- The walk ends with nothing left to look at, or at a reached id that is not defined. -/
theorem gather_outcome (h : WalkInvariant types roots met pending) :
    (∃ found, types.gather met pending = .ok found ∧ WalkInvariant types roots found []) ∨
      ∃ missing, types.gather met pending = .error (.unknownType missing) ∧
        types.Reaches roots missing ∧ types.get? missing = none := by
  -- along the walk, each of whose steps keeps the invariant
  fun_induction gather types met pending with
  | case1 met => exact Or.inl ⟨met, rfl, h⟩
  | case2 met id pending hmet ih => exact ih (h.drop hmet)
  | case3 met id pending hnew hmissing =>
      exact Or.inr ⟨id, rfl, h.pendingReached id List.mem_cons_self, hmissing⟩
  | case4 met id pending hnew shape hshape ih => exact ih (h.visit hnew hshape)

theorem WalkInvariant.mem_ids_iff (h : WalkInvariant types roots met []) :
    id ∈ met.map ResolvedType.id ↔ types.Reaches roots id := by
  constructor
  · intro hid
    obtain ⟨resolved, hresolved, rfl⟩ := List.mem_map.mp hid
    exact h.metReached resolved hresolved
  · intro hreached
    induction hreached with
    | root hroot =>
        rcases h.rootsCovered _ hroot with hmet | hpending
        · exact hmet
        · exact absurd hpending List.not_mem_nil
    | mention _ hshape hnext ih =>
        obtain ⟨resolved, hresolved, rfl⟩ := List.mem_map.mp ih
        have hsame := (h.defined resolved hresolved).symm.trans hshape
        cases hsame
        rcases h.mentionsCovered resolved hresolved _ hnext with hmet | hpending
        · exact hmet
        · exact absurd hpending List.not_mem_nil

/-! ### The sorted closure -/

/-- The reached types, each once with its definition, in ascending order of the bytes of their ids. -/
structure IsClosure (types : TypeMap) (roots : List String) (found : List ResolvedType) : Prop where
  mem_ids_iff : ∀ id, id ∈ found.map ResolvedType.id ↔ types.Reaches roots id
  defined : ∀ resolved ∈ found, types.get? resolved.id = some resolved.shape
  ascending : (found.map fun resolved => utf8Bytes resolved.id).Pairwise (· < ·)

theorem idBefore_iff {a b : ResolvedType} : idBefore a b = true ↔ a.id ≤ b.id := by
  simp [idBefore]

theorem ids_pairwise_lt {found : List ResolvedType} (hsorted : found.Pairwise fun a b => idBefore a b = true)
    (hdistinct : (found.map ResolvedType.id).Nodup) : found.Pairwise fun a b => a.id < b.id := by
  have hne : found.Pairwise fun a b => a.id ≠ b.id := List.pairwise_map.mp hdistinct
  refine (hsorted.and hne).imp ?_
  intro a b hab
  exact lt_of_le_of_ne (idBefore_iff.mp hab.1) hab.2

theorem pairwise_mergeSort_idBefore (found : List ResolvedType) :
    (found.mergeSort idBefore).Pairwise fun a b => idBefore a b = true := by
  refine List.pairwise_mergeSort ?_ ?_ found
  · intro a b c hab hbc
    exact idBefore_iff.mpr (le_trans (idBefore_iff.mp hab) (idBefore_iff.mp hbc))
  · intro a b
    rcases le_total a.id b.id with hab | hba
    · simp [idBefore_iff.mpr hab]
    · simp [idBefore_iff.mpr hba]

theorem WalkInvariant.isClosure (h : WalkInvariant types roots met []) :
    IsClosure types roots (met.mergeSort idBefore) := by
  have hperm : (met.mergeSort idBefore).Perm met := List.mergeSort_perm met idBefore
  have hids : ((met.mergeSort idBefore).map ResolvedType.id).Perm (met.map ResolvedType.id) := hperm.map _
  refine ⟨?_, ?_, ?_⟩
  · intro id
    rw [hids.mem_iff]
    exact h.mem_ids_iff
  · intro resolved hresolved
    exact h.defined resolved (hperm.mem_iff.mp hresolved)
  · refine List.pairwise_map.mpr ?_
    have hdistinct := hids.nodup_iff.mpr h.distinct
    exact (ids_pairwise_lt (pairwise_mergeSort_idBefore met) hdistinct).imp utf8Bytes_lt

theorem closure_outcome (types : TypeMap) (roots : List String) :
    (∃ found, types.closure roots = .ok found ∧ types.IsClosure roots found) ∨
      ∃ missing, types.closure roots = .error (.unknownType missing) ∧
        types.Reaches roots missing ∧ types.get? missing = none := by
  rcases gather_outcome (WalkInvariant.start types roots) with ⟨found, hfound, hinv⟩ | ⟨missing, hmissing, hrest⟩
  · exact Or.inl ⟨found.mergeSort idBefore, by rw [closure, hfound]; rfl, hinv.isClosure⟩
  · exact Or.inr ⟨missing, by rw [closure, hmissing]; rfl, hrest⟩

variable {otherTypes : TypeMap} {otherRoots : List String} {found : List ResolvedType}

theorem IsClosure.mem_iff (h : IsClosure types roots found) {resolved : ResolvedType} :
    resolved ∈ found ↔ types.Reaches roots resolved.id ∧ types.get? resolved.id = some resolved.shape := by
  constructor
  · intro hresolved
    exact ⟨(h.mem_ids_iff _).mp (List.mem_map_of_mem hresolved), h.defined resolved hresolved⟩
  · rintro ⟨hreached, hshape⟩
    obtain ⟨other, hother, hid⟩ := List.mem_map.mp ((h.mem_ids_iff _).mpr hreached)
    have hsame : some other.shape = some resolved.shape := by rw [← h.defined other hother, hid, hshape]
    have heq : other = resolved := by
      cases other
      cases resolved
      cases hid
      cases hsame
      rfl
    exact heq ▸ hother

theorem IsClosure.get?_ne_none (h : IsClosure types roots found) (hreached : types.Reaches roots id) :
    types.get? id ≠ none := by
  obtain ⟨resolved, hresolved, rfl⟩ := List.mem_map.mp ((h.mem_ids_iff id).mpr hreached)
  rw [h.defined resolved hresolved]
  exact Option.some_ne_none resolved.shape

theorem IsClosure.nodup_ids (h : IsClosure types roots found) : (found.map ResolvedType.id).Nodup := by
  refine List.pairwise_map.mpr ((List.pairwise_map.mp h.ascending).imp ?_)
  intro a b hlt hid
  rw [hid] at hlt
  exact List.lt_irrefl _ hlt

theorem IsClosure.unique {others : List ResolvedType} (h : IsClosure types roots found)
    (hothers : IsClosure types roots others) : found = others := by
  have hperm : found.Perm others := by
    refine (List.perm_ext_iff_of_nodup h.nodup_ids.of_map hothers.nodup_ids.of_map).mpr ?_
    intro resolved
    rw [h.mem_iff, hothers.mem_iff]
  refine hperm.eq_of_pairwise ?_ (List.pairwise_map.mp h.ascending) (List.pairwise_map.mp hothers.ascending)
  intro a b _ _ hab hba
  exact absurd hab (List.lt_asymm hba)

theorem closure_eq_ok_iff : types.closure roots = .ok found ↔ types.IsClosure roots found := by
  rcases closure_outcome types roots with ⟨others, hothers, hclosure⟩ | ⟨missing, herror, hreached, hmissing⟩
  · rw [hothers]
    constructor
    · rintro ⟨⟩
      exact hclosure
    · intro h
      rw [h.unique hclosure]
  · rw [herror]
    constructor
    · intro h
      cases h
    · exact fun h => absurd hmissing (h.get?_ne_none hreached)

theorem IsClosure.transfer (h : IsClosure types roots found)
    (hreaches : ∀ id, otherTypes.Reaches otherRoots id ↔ types.Reaches roots id)
    (hagree : ∀ id, types.Reaches roots id → otherTypes.get? id = types.get? id) :
    IsClosure otherTypes otherRoots found where
  mem_ids_iff id := (h.mem_ids_iff id).trans (hreaches id).symm
  defined resolved hresolved := by
    rw [hagree _ (h.mem_iff.mp hresolved).1]
    exact h.defined resolved hresolved
  ascending := h.ascending

/-- Which ids are reached depends neither on the order of the map nor on the order of the roots. -/
theorem reaches_iff_of_perm (hperm : otherTypes.entries.Perm types.entries)
    (hroots : ∀ id, id ∈ otherRoots ↔ id ∈ roots) (id : String) :
    otherTypes.Reaches otherRoots id ↔ types.Reaches roots id := by
  have hget := OrderedMap.get?_eq_of_perm hperm
  constructor
  · intro h
    have hmoved := h.transfer fun reached _ => (hget reached).symm
    exact hmoved.mono fun root hroot => .root ((hroots root).mp hroot)
  · intro h
    have hmoved := h.transfer fun reached _ => hget reached
    exact hmoved.mono fun root hroot => .root ((hroots root).mpr hroot)

theorem IsClosure.ofIds (h : IsClosure types roots found) :
    IsClosure types (found.map ResolvedType.id) found := by
  refine h.transfer ?_ fun _ _ => rfl
  intro id
  constructor
  · exact fun hid => hid.mono fun root hroot => (h.mem_ids_iff root).mp hroot
  · exact fun hid => .root ((h.mem_ids_iff id).mpr hid)

/-- The closure of any roots in any type graph, cyclic or not. It succeeds exactly where all that is reached is
defined, and what it finds depends only on which ids are roots and on what the ids stand for. -/
theorem closure_finds_reachable (types : TypeMap) (roots : List String) :
    ((∀ id, types.Reaches roots id → types.get? id ≠ none) →
      ∃ found, types.closure roots = .ok found ∧ types.IsClosure roots found) ∧
    ((∃ id, types.Reaches roots id ∧ types.get? id = none) →
      ∃ id, types.closure roots = .error (.unknownType id) ∧ types.Reaches roots id ∧ types.get? id = none) ∧
    (∀ (otherTypes : TypeMap) (otherRoots : List String), otherTypes.entries.Perm types.entries →
      (∀ id, id ∈ otherRoots ↔ id ∈ roots) → ∀ found,
        otherTypes.closure otherRoots = .ok found ↔ types.closure roots = .ok found) ∧
    (∀ found, types.closure roots = .ok found → types.closure (found.map ResolvedType.id) = .ok found) ∧
    ∀ controller : Controller, types.neededBy controller =
      types.closure (controller.actions.flatMap fun action =>
        action.parameters.map Parameter.typeId ++ action.returnType?.toList) := by
  refine ⟨?_, ?_, ?_, ?_, fun _ => rfl⟩
  · intro hdefined
    rcases closure_outcome types roots with hfound | ⟨missing, _, hreached, hmissing⟩
    · exact hfound
    · exact absurd hmissing (hdefined missing hreached)
  · rintro ⟨missing, hreached, hmissing⟩
    rcases closure_outcome types roots with ⟨found, _, hclosure⟩ | herror
    · exact absurd hmissing (hclosure.get?_ne_none hreached)
    · exact herror
  · intro otherTypes otherRoots hperm hroots found
    have hreaches := reaches_iff_of_perm hperm hroots
    have hget := OrderedMap.get?_eq_of_perm hperm
    rw [closure_eq_ok_iff, closure_eq_ok_iff]
    constructor
    · exact fun h => h.transfer (fun id => (hreaches id).symm) fun id _ => (hget id).symm
    · exact fun h => h.transfer hreaches fun id _ => hget id
  · intro found hfound
    exact closure_eq_ok_iff.mpr (closure_eq_ok_iff.mp hfound).ofIds

/-- Types of which each leads to itself. -/
def ringTypes : TypeMap where
  entries := [("Node", .structured "Node" [⟨"parent", "Node", true⟩, ⟨"children", "NodeList", false⟩]),
    ("NodeList", .array "Node")]
  distinct := by decide

theorem reaches_ringTypes {id : String} (h : ringTypes.Reaches ["NodeList"] id) :
    id = "Node" ∨ id = "NodeList" := by
  have hnode : ringTypes.get? "Node" =
      some (.structured "Node" [⟨"parent", "Node", true⟩, ⟨"children", "NodeList", false⟩]) := rfl
  have hlist : ringTypes.get? "NodeList" = some (.array "Node") := rfl
  induction h with
  | root hroot => exact Or.inr (List.mem_singleton.mp hroot)
  | mention _ hshape hnext ih =>
      rcases ih with rfl | rfl
      · rw [hnode] at hshape
        cases hshape
        simpa [TypeShape.mentions] using hnext
      · rw [hlist] at hshape
        cases hshape
        exact Or.inl (List.mem_singleton.mp hnext)

theorem closure_ringTypes : ringTypes.closure ["NodeList"] = .ok [
    ⟨"Node", .structured "Node" [⟨"parent", "Node", true⟩, ⟨"children", "NodeList", false⟩]⟩,
    ⟨"NodeList", .array "Node"⟩] := by
  have hgather : gather ringTypes [] ["NodeList"] = .ok [
      ⟨"Node", .structured "Node" [⟨"parent", "Node", true⟩, ⟨"children", "NodeList", false⟩]⟩,
      ⟨"NodeList", .array "Node"⟩] := by
    rw [gather, if_neg (by decide)]
    show gather ringTypes [⟨"NodeList", .array "Node"⟩] ["Node"] = _
    rw [gather, if_neg (by decide)]
    show gather ringTypes (⟨"Node", .structured "Node" [_, _]⟩ :: _) ["NodeList", "Node"] = _
    rw [gather, if_pos (by decide), gather, if_pos (by decide), gather]
  rw [closure, List.reverse_singleton, hgather]
  exact congrArg Except.ok (List.mergeSort_of_pairwise (by decide))

/-- The ring is found as a whole, each of its types once. -/
theorem closure_of_ringTypes :
    (∀ id, ringTypes.Reaches ["NodeList"] id → ringTypes.get? id ≠ none) ∧
      ∃ found, ringTypes.closure ["NodeList"] = .ok found ∧ ringTypes.IsClosure ["NodeList"] found ∧
        found = [⟨"Node", .structured "Node" [⟨"parent", "Node", true⟩, ⟨"children", "NodeList", false⟩]⟩,
          ⟨"NodeList", .array "Node"⟩] := by
  have hdefined : ∀ id, ringTypes.Reaches ["NodeList"] id → ringTypes.get? id ≠ none := by
    intro id hid
    rcases reaches_ringTypes hid with rfl | rfl <;> decide
  obtain ⟨found, hfound, hclosure⟩ := (closure_finds_reachable ringTypes ["NodeList"]).1 hdefined
  exact ⟨hdefined, found, hfound, hclosure, Except.ok.inj (hfound.symm.trans closure_ringTypes)⟩

end ApiProxy.TypeMap
