import ApiProxy.Proofs.Names.Identifiers
import ApiProxy.Proofs.OrderedMap
import ApiProxy.Script.TypeNames

/-! The identifiers of declared types. Every declared type of a list is given one, and types of distinct ids are
given distinct identifiers, also where an id stands in the list more than once. -/

namespace ApiProxy.Script.TypeNames

variable {resolved : List ResolvedType} {reserved : List String} {names : TypeNames} {name : String}

/-- The identifiers that are chosen for the declared types of a list, in the order of the list. -/
def assigned (resolved : List ResolvedType) (reserved : List String) : List String :=
  freshNames (runtimeGlobals ++ reserved) ((requests resolved).map Prod.snd)

theorem length_assigned (resolved : List ResolvedType) (reserved : List String) :
    ((requests resolved).map Prod.fst).length = (assigned resolved reserved).length := by
  rw [assigned, length_freshNames, List.length_map, List.length_map]

/-- An id is given an identifier that was chosen for one of its places in the list. -/
theorem mem_zip_of_get? {id identifier : String} (h : (assign resolved reserved).get? id = some identifier) :
    (id, identifier) ∈ ((requests resolved).map Prod.fst).zip (assigned resolved reserved) := by
  rcases OrderedMap.mem_foldl_insert (OrderedMap.get?_eq_some_iff.mp h) with hempty | hpair
  · cases hempty
  · exact hpair

theorem mem_assigned_of_get? {id identifier : String} (h : (assign resolved reserved).get? id = some identifier) :
    identifier ∈ assigned resolved reserved :=
  (List.of_mem_zip (mem_zip_of_get? h)).2

/-- Types with different ids never share an identifier. -/
theorem get?_assign_injective {id other identifier : String}
    (hid : (assign resolved reserved).get? id = some identifier)
    (hother : (assign resolved reserved).get? other = some identifier) : id = other := by
  have hunique : ((((requests resolved).map Prod.fst).zip (assigned resolved reserved)).map Prod.snd).Nodup := by
    rw [List.map_snd_zip (Nat.le_of_eq (length_assigned resolved reserved).symm)]
    exact nodup_freshNames _ _
  exact congrArg Prod.fst (List.inj_on_of_nodup_map hunique (mem_zip_of_get? hid) (mem_zip_of_get? hother) rfl)

theorem mem_requests {declared : ResolvedType} {name : String} (h : declared ∈ resolved)
    (hname : declared.shape.declaredName? = some name) :
    (declared.id, typeIdentifier name) ∈ requests resolved :=
  List.mem_filterMap.mpr ⟨declared, h, by rw [hname]; rfl⟩

theorem get?_assign_isSome (reserved : List String) {declared : ResolvedType} {name : String}
    (h : declared ∈ resolved) (hname : declared.shape.declaredName? = some name) :
    ∃ identifier, (assign resolved reserved).get? declared.id = some identifier := by
  have hid : declared.id ∈ (requests resolved).map Prod.fst := List.mem_map_of_mem (mem_requests h hname)
  rw [← List.map_fst_zip (Nat.le_of_eq (length_assigned resolved reserved))] at hid
  exact Option.isSome_iff_exists.mp (OrderedMap.get?_foldl_insert_isSome .empty hid)

theorem identifier_of_get? {names : TypeNames} {id name identifier : String}
    (h : names.get? id = some identifier) : names.identifier id name = identifier := by
  rw [TypeNames.identifier, h]
  rfl

theorem isFreeName_of_get? {id : String} (h : (assign resolved reserved).get? id = some name) :
    IsFreeName name ∧ name ∉ reserved := by
  have hmem : name ∈ assigned resolved reserved := mem_assigned_of_get? h
  constructor
  · apply isFreeName_of_mem_freshNames (List.subset_append_left runtimeGlobals reserved) _ hmem
    intro request hrequest
    obtain ⟨pair, hpair, rfl⟩ := List.mem_map.mp hrequest
    obtain ⟨declared, -, hpair⟩ := List.mem_filterMap.mp hpair
    obtain ⟨text, -, rfl⟩ := Option.map_eq_some_iff.mp hpair
    exact ⟨text, rfl⟩
  · intro hreserved
    exact notMem_of_mem_freshNames hmem (List.mem_append_right runtimeGlobals hreserved)

theorem mem_identifiers_iff : name ∈ names.identifiers ↔ ∃ id, names.get? id = some name := by
  rw [identifiers, List.mem_map]
  constructor
  · rintro ⟨⟨id, _⟩, hentry, rfl⟩
    exact ⟨id, OrderedMap.get?_eq_some_iff.mpr (List.mem_mergeSort.mp hentry)⟩
  · rintro ⟨id, hid⟩
    exact ⟨(id, name), List.mem_mergeSort.mpr (OrderedMap.get?_eq_some_iff.mp hid), rfl⟩

theorem nodup_identifiers (resolved : List ResolvedType) (reserved : List String) :
    (assign resolved reserved).identifiers.Nodup := by
  have hentries : (assign resolved reserved).byId.entries.Nodup :=
    List.Nodup.of_map Prod.fst (assign resolved reserved).byId.distinct
  rw [identifiers]
  apply List.Nodup.map_on _ (hentries.perm (List.mergeSort_perm _ _).symm)
  rintro ⟨id, identifier⟩ hid ⟨other, _⟩ hother rfl
  have hget := OrderedMap.get?_eq_some_iff.mpr (List.mem_mergeSort.mp hid)
  have hget' := OrderedMap.get?_eq_some_iff.mpr (List.mem_mergeSort.mp hother)
  rw [get?_assign_injective hget hget']

/-- An id that was given a name is that of a declared type of the list. -/
theorem exists_declared_of_get? {id : String} (h : (assign resolved reserved).get? id = some name) :
    ∃ declared ∈ resolved, declared.id = id ∧ declared.shape.declaredName?.isSome = true := by
  obtain ⟨pair, hpair, hid⟩ := List.mem_map.mp (List.of_mem_zip (mem_zip_of_get? h)).1
  obtain ⟨declared, hdeclared, hrequest⟩ := List.mem_filterMap.mp hpair
  obtain ⟨text, htext, rfl⟩ := Option.map_eq_some_iff.mp hrequest
  exact ⟨declared, hdeclared, hid, by rw [htext]; rfl⟩

/-- The identifiers of the declared types of a list: a type is given one by its id, and no two ids are given
the same. -/
structure KeepsApart (resolved : List ResolvedType) (reserved : List String) : Prop where
  given_iff : ∀ id, (∃ identifier, (assign resolved reserved).get? id = some identifier) ↔
    ∃ declared ∈ resolved, declared.id = id ∧ declared.shape.declaredName?.isSome = true
  injective : ∀ id other identifier, (assign resolved reserved).get? id = some identifier →
    (assign resolved reserved).get? other = some identifier → id = other
  distinct : (assign resolved reserved).identifiers.Nodup
  mem_iff : ∀ identifier, identifier ∈ (assign resolved reserved).identifiers ↔
    ∃ id, (assign resolved reserved).get? id = some identifier
  free : ∀ identifier ∈ (assign resolved reserved).identifiers, IsFreeName identifier
  unreserved : ∀ identifier ∈ (assign resolved reserved).identifiers, identifier ∉ reserved

theorem keepsApart (resolved : List ResolvedType) (reserved : List String) : KeepsApart resolved reserved := by
  refine ⟨?_, fun _ _ _ => get?_assign_injective, nodup_identifiers resolved reserved,
    fun _ => mem_identifiers_iff, ?_, ?_⟩
  · intro id
    constructor
    · rintro ⟨identifier, hidentifier⟩
      exact exists_declared_of_get? hidentifier
    · rintro ⟨declared, hdeclared, rfl, hname⟩
      obtain ⟨name, hname⟩ := Option.isSome_iff_exists.mp hname
      exact get?_assign_isSome reserved hdeclared hname
  · intro identifier hidentifier
    obtain ⟨id, hid⟩ := mem_identifiers_iff.mp hidentifier
    exact (isFreeName_of_get? hid).1
  · intro identifier hidentifier
    obtain ⟨id, hid⟩ := mem_identifiers_iff.mp hidentifier
    exact (isFreeName_of_get? hid).2

/-- A type is called by an identifier that is no reserved word, also where it was given none. -/
theorem isIdentifier_identifier (id text : String) :
    isIdentifier ((assign resolved reserved).identifier id text) = true ∧
      (assign resolved reserved).identifier id text ∉ reservedWords := by
  cases hget : (assign resolved reserved).get? id with
  | none =>
      rw [identifier, hget]
      exact ⟨isIdentifier_sanitize text, sanitize_notMem_reservedWords text⟩
  | some identifier =>
      rw [identifier_of_get? hget]
      have hfree := (isFreeName_of_get? hget).1
      exact ⟨hfree.identifier, hfree.unreserved⟩

end ApiProxy.Script.TypeNames
