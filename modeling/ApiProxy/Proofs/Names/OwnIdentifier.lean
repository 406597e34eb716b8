import ApiProxy.Proofs.Names.TypeNames

/-! Which declared types are given the identifier that they ask for. The identifiers of a list are chosen from its front to
its end, so what a type is given depends on the types in front of it alone: a type that asks alone for an identifier
goes without it exactly if an earlier type came to it by way of a number. -/

namespace ApiProxy.Script.TypeNames

variable {front back resolved : List ResolvedType} {declared : ResolvedType} {reserved : List String}
  {name identifier : String}

/-! ### What is given in turn -/

/-- The ids of the declared types of a list, each with the identifier that is chosen for its place. -/
def given (resolved : List ResolvedType) (reserved : List String) : List (String × String) :=
  ((requests resolved).map Prod.fst).zip (assigned resolved reserved)

theorem map_fst_given (resolved : List ResolvedType) (reserved : List String) :
    (given resolved reserved).map Prod.fst = (requests resolved).map Prod.fst :=
  List.map_fst_zip (Nat.le_of_eq (length_assigned resolved reserved))

theorem map_snd_given (resolved : List ResolvedType) (reserved : List String) :
    (given resolved reserved).map Prod.snd = assigned resolved reserved :=
  List.map_snd_zip (Nat.le_of_eq (length_assigned resolved reserved).symm)

theorem exists_request_of_mem_given {id : String} (h : (id, identifier) ∈ given resolved reserved) :
    ∃ other ∈ resolved, other.id = id := by
  have hid : id ∈ (requests resolved).map Prod.fst := by
    rw [← map_fst_given resolved reserved]
    exact List.mem_map_of_mem h
  obtain ⟨request, hrequest, rfl⟩ := List.mem_map.mp hid
  obtain ⟨other, hother, hrequest⟩ := List.mem_filterMap.mp hrequest
  obtain ⟨text, -, rfl⟩ := Option.map_eq_some_iff.mp hrequest
  exact ⟨other, hother, rfl⟩

theorem nodup_ids_given (hdistinct : (resolved.map ResolvedType.id).Nodup) (reserved : List String) :
    ((given resolved reserved).map Prod.fst).Nodup := by
  rw [map_fst_given, requests, List.Nodup, List.pairwise_map, List.pairwise_filterMap]
  apply (List.pairwise_map.mp hdistinct).imp
  intro one other hne request hrequest request' hrequest'
  obtain ⟨text, -, rfl⟩ := Option.map_eq_some_iff.mp hrequest
  obtain ⟨text', -, rfl⟩ := Option.map_eq_some_iff.mp hrequest'
  exact hne

/-- Where no id comes twice, an id is given what is chosen for its place. -/
theorem get?_assign_iff (hdistinct : (resolved.map ResolvedType.id).Nodup) {id : String} :
    (assign resolved reserved).get? id = some identifier ↔ (id, identifier) ∈ given resolved reserved := by
  have hentries : (assign resolved reserved).byId.entries = given resolved reserved :=
    OrderedMap.entries_foldl_insert .empty (nodup_ids_given hdistinct reserved)
  rw [← hentries]
  exact OrderedMap.get?_eq_some_iff

theorem mem_assigned_iff (hdistinct : (resolved.map ResolvedType.id).Nodup) :
    identifier ∈ assigned resolved reserved ↔
      ∃ other ∈ resolved, (assign resolved reserved).get? other.id = some identifier := by
  constructor
  · intro h
    rw [← map_snd_given] at h
    obtain ⟨⟨id, _⟩, hpair, rfl⟩ := List.mem_map.mp h
    obtain ⟨other, hother, rfl⟩ := exists_request_of_mem_given hpair
    exact ⟨other, hother, (get?_assign_iff hdistinct).mpr hpair⟩
  · rintro ⟨other, -, hget⟩
    exact mem_assigned_of_get? hget

/-! ### A list that is cut in two -/

theorem given_append (front back : List ResolvedType) (reserved : List String) :
    given (front ++ back) reserved = given front reserved ++
      ((requests back).map Prod.fst).zip
        (freshNames ((assigned front reserved).reverse ++ (runtimeGlobals ++ reserved)) ((requests back).map Prod.snd)) := by
  have hrequests : requests (front ++ back) = requests front ++ requests back := List.filterMap_append
  rw [given, assigned, hrequests, List.map_append, List.map_append, freshNames_append]
  exact List.zip_append (length_assigned front reserved)

/-- The types behind do not matter to what the types in front are given. -/
theorem get?_assign_append (hdistinct : ((front ++ back).map ResolvedType.id).Nodup) {other : ResolvedType}
    (hother : other ∈ front) :
    (assign (front ++ back) reserved).get? other.id = (assign front reserved).get? other.id := by
  have hids := hdistinct
  rw [List.map_append, List.nodup_append] at hids
  obtain ⟨hfront, -, hapart⟩ := hids
  apply Option.ext
  intro identifier
  rw [get?_assign_iff hdistinct, get?_assign_iff hfront, given_append, List.mem_append]
  apply or_iff_left
  intro hback
  obtain ⟨request, hrequest, hid⟩ := List.mem_map.mp (List.of_mem_zip hback).1
  obtain ⟨later, hlater, hrequest⟩ := List.mem_filterMap.mp hrequest
  obtain ⟨text, -, rfl⟩ := Option.map_eq_some_iff.mp hrequest
  exact hapart _ (List.mem_map_of_mem hother) _ (List.mem_map_of_mem hlater) hid.symm

/-- A declared type is given the first of its names that no earlier type was given and that is not taken from the
start. -/
theorem get?_assign_cut (hdistinct : ((front ++ declared :: back).map ResolvedType.id).Nodup)
    (hname : declared.shape.declaredName? = some name) :
    (assign (front ++ declared :: back) reserved).get? declared.id =
      some (freshName ((assigned front reserved).reverse ++ (runtimeGlobals ++ reserved)) (typeIdentifier name)) := by
  have hrequests : requests (declared :: back) = (declared.id, typeIdentifier name) :: requests back := by
    rw [requests, List.filterMap_cons, hname]
    rfl
  rw [get?_assign_iff hdistinct, given_append, hrequests, List.map_cons, List.map_cons, freshNames, List.zip_cons_cons]
  exact List.mem_append_right _ List.mem_cons_self

theorem get?_assign_eq_own_iff (hdistinct : ((front ++ declared :: back).map ResolvedType.id).Nodup)
    (hname : declared.shape.declaredName? = some name) :
    (assign (front ++ declared :: back) reserved).get? declared.id = some (typeIdentifier name) ↔
      typeIdentifier name ∉ assigned front reserved ∧ typeIdentifier name ∉ runtimeGlobals ++ reserved := by
  rw [get?_assign_cut hdistinct hname, Option.some_inj, freshName_eq_self_iff, List.mem_append, List.mem_reverse, not_or]

theorem exists_numbered_of_get? (hdistinct : (resolved.map ResolvedType.id).Nodup) (hmem : declared ∈ resolved)
    (hname : declared.shape.declaredName? = some name)
    (h : (assign resolved reserved).get? declared.id = some identifier) :
    ∃ k, identifier = numbered (typeIdentifier name) k := by
  obtain ⟨front, back, rfl⟩ := List.append_of_mem hmem
  rw [get?_assign_cut hdistinct hname, Option.some_inj] at h
  obtain ⟨k, hk⟩ := freshName_eq_numbered
    ((assigned front reserved).reverse ++ (runtimeGlobals ++ reserved)) (typeIdentifier name)
  exact ⟨k, h ▸ hk⟩

/-- An identifier that was given to a type that does not ask for it is one with a number. -/
theorem exists_number_of_get? (hdistinct : (resolved.map ResolvedType.id).Nodup) (hmem : declared ∈ resolved)
    (hget : (assign resolved reserved).get? declared.id = some identifier)
    (hother : ∀ text, declared.shape.declaredName? = some text → typeIdentifier text ≠ identifier) :
    ∃ text k, declared.shape.declaredName? = some text ∧ identifier = typeIdentifier text ++ toString (k + 2) := by
  obtain ⟨twin, htwin, hid, htext⟩ := exists_declared_of_get? hget
  obtain ⟨text, htext⟩ := Option.isSome_iff_exists.mp htext
  cases List.inj_on_of_nodup_map hdistinct htwin hmem hid
  obtain ⟨k, hk⟩ := exists_numbered_of_get? hdistinct hmem htext hget
  cases k with
  | zero => exact absurd hk.symm (hother text htext)
  | succ k => exact ⟨text, k, htext, hk⟩

/-- A declared type that asks alone for an identifier, and for one that is neither a global name nor reserved, is given
it exactly if no earlier type was, and otherwise is given it with a number. An earlier type that was given it asks for
another identifier, of which it is the one with a number. The types that come later do not matter. -/
theorem own_identifier_kept_iff (hcut : resolved = front ++ declared :: back) (reserved : List String)
    (hdistinct : (resolved.map ResolvedType.id).Nodup) (hname : declared.shape.declaredName? = some name)
    (hglobal : typeIdentifier name ∉ runtimeGlobals) (hreserved : typeIdentifier name ∉ reserved)
    (halone : ∀ other ∈ front ++ back, ∀ text, other.shape.declaredName? = some text →
      typeIdentifier text ≠ typeIdentifier name) :
    ((assign resolved reserved).get? declared.id = some (typeIdentifier name) ↔
      ∀ other ∈ front, (assign resolved reserved).get? other.id ≠ some (typeIdentifier name)) ∧
    (∃ k, (assign resolved reserved).get? declared.id = some (numbered (typeIdentifier name) k)) ∧
    (∀ other ∈ front, (assign resolved reserved).get? other.id = some (typeIdentifier name) →
      ∃ text k, other.shape.declaredName? = some text ∧
        typeIdentifier name = typeIdentifier text ++ toString (k + 2)) ∧
    ∀ other ∈ front ++ [declared],
      (assign resolved reserved).get? other.id = (assign (front ++ [declared]) reserved).get? other.id := by
  subst hcut
  refine ⟨?_, ?_, ?_, ?_⟩
  · have hstart : typeIdentifier name ∉ runtimeGlobals ++ reserved :=
      fun hmem => (List.mem_append.mp hmem).elim hglobal hreserved
    have hfront : (front.map ResolvedType.id).Nodup := by
      rw [List.map_append] at hdistinct
      exact (List.nodup_append.mp hdistinct).1
    rw [get?_assign_eq_own_iff hdistinct hname, mem_assigned_iff hfront, and_iff_left hstart]
    push Not
    apply forall₂_congr
    intro other hother
    rw [get?_assign_append hdistinct hother]
  · rw [get?_assign_cut hdistinct hname]
    obtain ⟨k, hk⟩ := freshName_eq_numbered
      ((assigned front reserved).reverse ++ (runtimeGlobals ++ reserved)) (typeIdentifier name)
    exact ⟨k, congrArg some hk⟩
  · intro other hother hget
    apply exists_number_of_get? hdistinct (List.mem_append_left _ hother) hget
    exact halone other (List.mem_append_left back hother)
  · intro other hother
    rw [List.append_cons] at hdistinct ⊢
    exact get?_assign_append hdistinct hother

/-- Two types of one name, and a type that has the name with a number. -/
def itemTypes : List ResolvedType := [
  ⟨"App.Item", .structured "Item" []⟩, ⟨"App.Item2", .structured "Item2" []⟩, ⟨"Web.Item", .enumeration "Item" []⟩]

theorem second_item_keeps_number :
    (itemTypes.map ResolvedType.id).Nodup ∧
      (itemTypes.map fun declared => declared.shape.declaredName?.map typeIdentifier) =
        [some "Item", some "Item2", some "Item"] ∧
      "Item2" ∉ runtimeGlobals ∧ "Item2" ∉ ["request"] ∧
      (assign itemTypes ["request"]).get? "App.Item2" = some "Item2" ∧
      (assign itemTypes ["request"]).get? "Web.Item" = some "Item3" := by
  have hcut : itemTypes = [itemTypes[0]] ++ itemTypes[1] :: [itemTypes[2]] := rfl
  have hdistinct : (itemTypes.map ResolvedType.id).Nodup := by decide
  have hglobal : typeIdentifier "Item2" ∉ runtimeGlobals := by decide +kernel
  have hreserved : typeIdentifier "Item2" ∉ ["request"] := by decide +kernel
  have halone : ∀ other ∈ [itemTypes[0]] ++ [itemTypes[2]], ∀ text, other.shape.declaredName? = some text →
      typeIdentifier text ≠ typeIdentifier "Item2" := by decide +kernel
  have hkept := own_identifier_kept_iff hcut ["request"] hdistinct rfl hglobal hreserved halone
  refine ⟨hdistinct, by decide +kernel, by decide, by decide, hkept.1.mpr ?_, by decide +kernel⟩
  decide +kernel

/-- The same names in another order. -/
def shiftedTypes : List ResolvedType := [
  ⟨"App.Item", .structured "Item" []⟩, ⟨"Web.Item", .enumeration "Item" []⟩, ⟨"Web.Item2", .structured "Item2" []⟩]

/-- The second type of the name comes to the name with the number, and the type that has it gets another number. -/
theorem number_takes_later_name :
    (shiftedTypes.map ResolvedType.id).Nodup ∧
      (shiftedTypes.map fun declared => declared.shape.declaredName?.map typeIdentifier) =
        [some "Item", some "Item", some "Item2"] ∧
      "Item2" ∉ runtimeGlobals ∧
      (assign shiftedTypes []).get? "Web.Item" = some "Item2" ∧
      (assign shiftedTypes []).get? "Web.Item2" = some "Item22" := by
  decide +kernel

end ApiProxy.Script.TypeNames
