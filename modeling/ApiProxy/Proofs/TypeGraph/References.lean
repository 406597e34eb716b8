import Mathlib.Data.List.Nodup
import Mathlib.Data.List.Perm.Subperm
import ApiProxy.Types.Lookup

/-! Chains of references. From each type there is at most one way on, so a chain comes to an end or comes to an id
again, and then it never ends. Whoever follows it finds out which of the two it is after as many references as there are
types, as a longer walk passes some type twice. -/

namespace ApiProxy.TypeMap

variable {types : TypeMap} {start current id other : String} {shape : TypeShape} {met : List String}
  {count earlier first again : Nat} {outcome twin : Except Failure (String × TypeShape)}

/-- What a type refers to, if it is a reference. -/
def target? (types : TypeMap) (id : String) : Option String :=
  match types.get? id with
  | some (.reference target) => some target
  | _ => none

/-- The id behind so many references, if the chain is that long. -/
def behind? (types : TypeMap) (start : String) : Nat → Option String
  | 0 => some start
  | count + 1 => (behind? types start count).bind types.target?

/-- The chain comes to an id, the first one at which no reference stands. -/
def ComesTo (types : TypeMap) (start id : String) : Prop :=
  ∃ count, types.behind? start count = some id ∧ (∀ target, types.get? id ≠ some (.reference target)) ∧
    ∀ earlier < count, ∃ passed target, types.behind? start earlier = some passed ∧
      types.get? passed = some (.reference target)

/-- The chain passes nothing but references. -/
def NeverEnds (types : TypeMap) (start : String) : Prop :=
  ∀ count, ∃ id target, types.behind? start count = some id ∧ types.get? id = some (.reference target)

/-- The chain comes to an id a second time, after no more references than there are types. -/
def ComesAgain (types : TypeMap) (start : String) : Prop :=
  ∃ first again id, first < again ∧ again ≤ types.keys.length ∧ types.behind? start first = some id ∧
    types.behind? start again = some id

theorem target?_eq_some_iff : types.target? id = some other ↔ types.get? id = some (.reference other) := by
  rw [target?]
  split
  next target htarget => rw [htarget, Option.some_inj, Option.some_inj, TypeShape.reference.injEq]
  next hother => exact iff_of_false (Option.some_ne_none other).symm (hother other)

/-! ### Places on a chain -/

theorem behind?_succ (h : types.behind? start count = some id) :
    types.behind? start (count + 1) = types.target? id := by
  rw [behind?, h, Option.bind_some]

/-- Before each place on a chain only references were passed. -/
theorem exists_reference_before (h : types.behind? start count = some id) (hearlier : earlier < count) :
    ∃ passed target, types.behind? start earlier = some passed ∧ types.get? passed = some (.reference target) := by
  induction count generalizing id with
  | zero => exact absurd hearlier (Nat.not_lt_zero earlier)
  | succ count ih =>
      obtain ⟨passed, hpassed, htarget⟩ := Option.bind_eq_some_iff.mp h
      rcases Nat.lt_succ_iff_lt_or_eq.mp hearlier with hlt | rfl
      · exact ih hpassed hlt
      · exact ⟨passed, id, hpassed, target?_eq_some_iff.mp htarget⟩

theorem behind?_add_eq (h : types.behind? start first = types.behind? start again) (more : Nat) :
    types.behind? start (first + more) = types.behind? start (again + more) := by
  induction more with
  | zero => exact h
  | succ more ih => exact congrArg (·.bind types.target?) ih

theorem ComesTo.intro (h : types.behind? start count = some id)
    (hend : ∀ target, types.get? id ≠ some (.reference target)) : types.ComesTo start id :=
  ⟨count, h, hend, fun _ hearlier => exists_reference_before h hearlier⟩

theorem behind?_of_reference (h : types.get? start = some (.reference other)) (count : Nat) :
    types.behind? start (count + 1) = types.behind? other count := by
  induction count with
  | zero => exact target?_eq_some_iff.mpr h
  | succ count ih => exact congrArg (·.bind types.target?) ih

theorem ComesTo.of_reference (h : types.ComesTo other id) (hreference : types.get? start = some (.reference other)) :
    types.ComesTo start id := by
  obtain ⟨count, hid, hend, -⟩ := h
  exact .intro ((behind?_of_reference hreference count).trans hid) hend

theorem ComesTo.unique (h : types.ComesTo start id) (hother : types.ComesTo start other) : id = other := by
  obtain ⟨count, hid, hend, hbefore⟩ := h
  obtain ⟨count', hother, hend', hbefore'⟩ := hother
  rcases Nat.lt_trichotomy count count' with hlt | rfl | hgt
  · obtain ⟨passed, target, hpassed, hreference⟩ := hbefore' count hlt
    cases hid.symm.trans hpassed
    exact absurd hreference (hend target)
  · exact Option.some.inj (hid.symm.trans hother)
  · obtain ⟨passed, target, hpassed, hreference⟩ := hbefore count' hgt
    cases hother.symm.trans hpassed
    exact absurd hreference (hend' target)

theorem ComesTo.not_neverEnds (h : types.ComesTo start id) : ¬types.NeverEnds start := by
  intro hnever
  obtain ⟨count, hid, hend, -⟩ := h
  obtain ⟨passed, target, hpassed, hreference⟩ := hnever count
  cases hid.symm.trans hpassed
  exact hend target hreference

theorem ComesAgain.neverEnds (h : types.ComesAgain start) : types.NeverEnds start := by
  obtain ⟨first, again, id, hlt, -, hfirst, hagain⟩ := h
  have hplace : ∀ count, ∃ id, types.behind? start count = some id := by
    intro count
    -- beyond the second visit each place is one that comes earlier
    induction count using Nat.strongRecOn with
    | ind count ih =>
        rcases Nat.lt_or_ge again count with hbeyond | hbelow
        · obtain ⟨more, rfl⟩ := Nat.exists_eq_add_of_le (Nat.le_of_lt hbeyond)
          rw [← behind?_add_eq (hfirst.trans hagain.symm)]
          exact ih (first + more) (by omega)
        · rcases Nat.lt_or_eq_of_le hbelow with hlt | rfl
          · obtain ⟨passed, -, hpassed, -⟩ := exists_reference_before hagain hlt
            exact ⟨passed, hpassed⟩
          · exact ⟨id, hagain⟩
  intro count
  obtain ⟨last, hlast⟩ := hplace (count + 1)
  exact exists_reference_before hlast (Nat.lt_succ_self count)

/-! ### Following a chain -/

/-- What comes of following the references from a type. -/
inductive Resolves (types : TypeMap) (start : String) : Except Failure (String × TypeShape) → Prop where
  | found {last : String} {found : TypeShape} (hcomes : types.ComesTo start last)
      (hshape : types.get? last = some found) : Resolves types start (.ok (last, found))
  | undefined {last : String} (hcomes : types.ComesTo start last) (hmissing : types.get? last = none) :
      Resolves types start (.error (.unknownType last))
  | endless (hagain : types.ComesAgain start) : Resolves types start (.error (.circularAlias start))

theorem Resolves.unique (h : types.Resolves start outcome) (htwin : types.Resolves start twin) : outcome = twin := by
  cases h with
  | found hcomes hshape =>
      cases htwin with
      | found hcomes' hshape' =>
          cases hcomes.unique hcomes'
          cases hshape.symm.trans hshape'
          rfl
      | undefined hcomes' hmissing =>
          cases hcomes.unique hcomes'
          cases hshape.symm.trans hmissing
      | endless hagain => exact absurd hagain.neverEnds hcomes.not_neverEnds
  | undefined hcomes hmissing =>
      cases htwin with
      | found hcomes' hshape =>
          cases hcomes.unique hcomes'
          cases hmissing.symm.trans hshape
      | undefined hcomes' _ =>
          cases hcomes.unique hcomes'
          rfl
      | endless hagain => exact absurd hagain.neverEnds hcomes.not_neverEnds
  | endless hagain =>
      cases htwin with
      | found hcomes _ => exact absurd hagain.neverEnds hcomes.not_neverEnds
      | undefined hcomes _ => exact absurd hagain.neverEnds hcomes.not_neverEnds
      | endless _ => rfl

/-- The chain up to `current`, where no id has come twice; `met` holds the ids before, the last one first. -/
structure Followed (types : TypeMap) (start : String) (met : List String) (current : String) : Prop where
  here : types.behind? start met.length = some current
  before : met.reverse.map some = (List.range met.length).map (types.behind? start)
  distinct : met.Nodup
  defined : met ⊆ types.keys

theorem Followed.next (h : types.Followed start met current) (hnew : current ∉ met)
    (hreference : types.get? current = some (.reference other)) : types.Followed start (current :: met) other where
  here := by rw [List.length_cons, behind?_succ h.here, target?_eq_some_iff.mpr hreference]
  before := by
    rw [List.reverse_cons, List.map_append, h.before, List.length_cons, List.range_succ, List.map_append,
      List.map_singleton, List.map_singleton, h.here]
  distinct := List.nodup_cons.mpr ⟨hnew, h.distinct⟩
  defined := List.cons_subset.mpr ⟨mem_keys_of_get? hreference, h.defined⟩

theorem Followed.comesAgain (h : types.Followed start met current) (hmet : current ∈ met) : types.ComesAgain start := by
  have hvisited : some current ∈ (List.range met.length).map (types.behind? start) := by
    rw [← h.before]
    exact List.mem_map_of_mem (List.mem_reverse.mpr hmet)
  obtain ⟨first, hfirst, hid⟩ := List.mem_map.mp hvisited
  exact ⟨first, met.length, current, List.mem_range.mp hfirst, (h.distinct.subperm h.defined).length_le, hid, h.here⟩

theorem resolves_followReferences (h : types.Followed start met current) :
    types.Resolves start (types.followReferences start met current) := by
  -- along the chain; what is met grows by the id that is left behind
  fun_induction followReferences types start met current with
  | case1 met current hmet => exact .endless (h.comesAgain hmet)
  | case2 met current hnew hmissing =>
      refine .undefined (.intro h.here fun target hreference => ?_) hmissing
      cases hmissing.symm.trans hreference
  | case3 met current hnew target hreference ih => exact ih (h.next hnew hreference)
  | case4 met current hnew shape hother hshape =>
      refine .found (.intro h.here fun target hreference => ?_) hshape
      exact hother target (Option.some.inj (hshape.symm.trans hreference))

theorem resolve_eq_iff : types.resolve start = outcome ↔ types.Resolves start outcome := by
  have hstart : types.Followed start [] start := ⟨rfl, rfl, List.nodup_nil, List.nil_subset _⟩
  have hresolves : types.Resolves start (types.resolve start) := resolves_followReferences hstart
  constructor
  · rintro rfl
    exact hresolves
  · exact hresolves.unique

theorem resolve_eq_ok_iff :
    types.resolve start = .ok (id, shape) ↔ types.ComesTo start id ∧ types.get? id = some shape := by
  rw [resolve_eq_iff]
  constructor
  · intro h
    cases h with
    | found hcomes hshape => exact ⟨hcomes, hshape⟩
  · rintro ⟨hcomes, hshape⟩
    exact .found hcomes hshape

theorem resolve_eq_unknownType_iff :
    types.resolve start = .error (.unknownType id) ↔ types.ComesTo start id ∧ types.get? id = none := by
  rw [resolve_eq_iff]
  constructor
  · intro h
    cases h with
    | undefined hcomes hmissing => exact ⟨hcomes, hmissing⟩
  · rintro ⟨hcomes, hmissing⟩
    exact .undefined hcomes hmissing

theorem resolve_eq_circularAlias_iff :
    types.resolve start = .error (.circularAlias start) ↔ types.ComesAgain start := by
  rw [resolve_eq_iff]
  constructor
  · intro h
    cases h with
    | endless hagain => exact hagain
  · exact .endless

theorem resolve_cases (types : TypeMap) (start : String) :
    (∃ id shape, types.resolve start = .ok (id, shape)) ∨
      (∃ id, types.resolve start = .error (.unknownType id)) ∨
      types.resolve start = .error (.circularAlias start) := by
  obtain ⟨outcome, houtcome⟩ : ∃ outcome, types.resolve start = outcome := ⟨_, rfl⟩
  rw [houtcome]
  cases resolve_eq_iff.mp houtcome with
  | found _ _ => exact Or.inl ⟨_, _, rfl⟩
  | undefined _ _ => exact Or.inr (Or.inl ⟨_, rfl⟩)
  | endless _ => exact Or.inr (Or.inr rfl)

theorem neverEnds_iff_comesAgain : types.NeverEnds start ↔ types.ComesAgain start := by
  refine ⟨fun hnever => ?_, ComesAgain.neverEnds⟩
  rcases resolve_cases types start with ⟨id, shape, hfound⟩ | ⟨id, hundefined⟩ | hcircular
  · exact absurd hnever (resolve_eq_ok_iff.mp hfound).1.not_neverEnds
  · exact absurd hnever (resolve_eq_unknownType_iff.mp hundefined).1.not_neverEnds
  · exact resolve_eq_circularAlias_iff.mp hcircular

/-- A type stands for the first type on its chain of references that is no reference itself. If there is none, either
the chain comes to an id that is not defined, which is reported, or it never ends as it comes to an id again, and the
type at its start is reported, whether or not the chain comes back to it. -/
theorem resolve_follows_references (types : TypeMap) (start : String) :
    (∀ id shape, types.resolve start = .ok (id, shape) ↔ types.ComesTo start id ∧ types.get? id = some shape) ∧
    (∀ id, types.resolve start = .error (.unknownType id) ↔ types.ComesTo start id ∧ types.get? id = none) ∧
    (types.resolve start = .error (.circularAlias start) ↔ types.NeverEnds start) ∧
    (types.NeverEnds start ↔ types.ComesAgain start) ∧
    ((∃ id shape, types.resolve start = .ok (id, shape)) ∨
      (∃ id, types.resolve start = .error (.unknownType id)) ∨
      types.resolve start = .error (.circularAlias start)) :=
  ⟨fun _ _ => resolve_eq_ok_iff, fun _ => resolve_eq_unknownType_iff,
    resolve_eq_circularAlias_iff.trans neverEnds_iff_comesAgain.symm, neverEnds_iff_comesAgain,
    resolve_cases types start⟩

/-- An alias of an alias, an alias of an id that is not defined, and a way into a loop. -/
def aliasTypes : TypeMap where
  entries := [("User", .reference "Account"), ("Account", .reference "Text"), ("Text", .primitive .text),
    ("Ghost", .reference "Gone"), ("Entry", .reference "Left"), ("Left", .reference "Right"),
    ("Right", .reference "Left")]
  distinct := by decide

/-- A loop is reported under the type at which the chain starts, though the chain does not come back to it. -/
theorem entry_of_loop_is_reported :
    aliasTypes.resolve "User" = .ok ("Text", .primitive .text) ∧
      aliasTypes.resolve "Ghost" = .error (.unknownType "Gone") ∧
      aliasTypes.resolve "Entry" = .error (.circularAlias "Entry") := by
  have hcomes : aliasTypes.ComesTo "User" "Text" := by
    refine .intro (show aliasTypes.behind? "User" 2 = some "Text" from rfl) fun target hreference => ?_
    cases hreference
  have hmissing : aliasTypes.ComesTo "Ghost" "Gone" := by
    refine .intro (show aliasTypes.behind? "Ghost" 1 = some "Gone" from rfl) fun target hreference => ?_
    cases hreference
  have hagain : aliasTypes.ComesAgain "Entry" := ⟨1, 3, "Left", by decide, by decide, rfl, rfl⟩
  obtain ⟨-, -, hcircular, hloop, -⟩ := resolve_follows_references aliasTypes "Entry"
  exact ⟨((resolve_follows_references aliasTypes "User").1 _ _).mpr ⟨hcomes, rfl⟩,
    ((resolve_follows_references aliasTypes "Ghost").2.1 _).mpr ⟨hmissing, rfl⟩, hcircular.mpr (hloop.mpr hagain)⟩

end ApiProxy.TypeMap
