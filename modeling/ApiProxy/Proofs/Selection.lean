import ApiProxy.Proofs.Outcome
import ApiProxy.Script.Files

/-! Which module a request selects. Keys are kept as they are written and asked for without regard to the case of their
ASCII letters, so two of them may answer one request. The first declared one is then selected, whether or not a later
one is spelled as the request is, and a module that stands behind such a key is selected by no request. -/

namespace ApiProxy

theorem sameUpToCase_refl (key : String) : sameUpToCase key key = true := by
  rw [sameUpToCase, beq_self_eq_true]

namespace Schema

variable {schema : Schema} {requested : String} {selection : Selection} {failure : Failure} {entry : String × Module}

theorem findModule?_eq_some_iff : schema.findModule? requested = some entry ↔
    First (fun entry => sameUpToCase entry.1 requested = true) schema.modules.entries entry := by
  rw [findModule?, List.find?_eq_some_iff_append]
  constructor
  · rintro ⟨hanswers, before, after, hsplit, hbefore⟩
    refine ⟨before, after, hsplit, hanswers, fun earlier hearlier => ?_⟩
    simpa using hbefore earlier hearlier
  · rintro ⟨before, after, hsplit, hanswers, hbefore⟩
    refine ⟨hanswers, before, after, hsplit, fun earlier hearlier => ?_⟩
    simpa using hbefore earlier hearlier

theorem findModule?_eq_none_iff : schema.findModule? requested = none ↔
    ∀ key ∈ schema.modules.keys, sameUpToCase key requested = false := by
  simp [findModule?, OrderedMap.keys]

theorem select_eq_ok_iff : schema.select requested = .ok selection ↔
    schema.findModule? requested = some (selection.key, selection.module) ∧ selection.types = schema.types := by
  obtain ⟨key, module, types⟩ := selection
  rw [select]
  cases schema.findModule? requested with
  | none => simp
  | some found => simp [Prod.ext_iff, and_assoc, eq_comm]

theorem select_eq_error_iff : schema.select requested = .error failure ↔
    schema.findModule? requested = none ∧ failure = .invalidModule requested schema.modules.keys := by
  rw [select]
  cases schema.findModule? requested with
  | none => simp [eq_comm]
  | some found => simp

/-- An entry is selected by its own key where no key in front of it answers to that. -/
theorem select_key_iff {before after : List (String × Module)}
    (hentries : schema.modules.entries = before ++ entry :: after) :
    schema.select entry.1 = .ok ⟨entry.1, entry.2, schema.types⟩ ↔
      ∀ earlier ∈ before, sameUpToCase earlier.1 entry.1 = false := by
  have hfind : schema.findModule? entry.1 =
      (before.find? fun earlier => sameUpToCase earlier.1 entry.1).or (some entry) := by
    rw [findModule?, hentries, List.find?_append, List.find?_cons, sameUpToCase_refl]
  rw [select_eq_ok_iff, hfind]
  cases hfound : before.find? fun earlier => sameUpToCase earlier.1 entry.1 with
  | none => simpa using List.find?_eq_none.mp hfound
  | some earlier =>
      have hmem : earlier ∈ before := List.mem_of_find?_eq_some hfound
      have hanswers := List.find?_some hfound
      have hother : earlier ≠ entry := by
        rintro rfl
        have hdistinct := schema.modules.distinct
        rw [hentries, List.map_append, List.nodup_append] at hdistinct
        exact hdistinct.2.2 _ (List.mem_map_of_mem hmem) _ List.mem_cons_self rfl
      apply iff_of_false
      · rintro ⟨hselected, -⟩
        exact hother (Option.some.inj hselected)
      · intro hbefore
        rw [hbefore earlier hmem] at hanswers
        cases hanswers

/-- A request selects the first module whose key answers to it, with all types of the schema, or it is reported with the
keys that there are. So a key selects its own module exactly if no key in front of it is the same up to case. -/
theorem select_takes_first_answer (schema : Schema) (requested : String) :
    (∀ selection, schema.select requested = .ok selection ↔
      First (fun entry => sameUpToCase entry.1 requested = true) schema.modules.entries
        (selection.key, selection.module) ∧ selection.types = schema.types) ∧
    (∀ failure, schema.select requested = .error failure ↔
      (∀ key ∈ schema.modules.keys, sameUpToCase key requested = false) ∧
        failure = .invalidModule requested schema.modules.keys) ∧
    ∀ before module after, schema.modules.entries = before ++ (requested, module) :: after →
      (schema.select requested = .ok ⟨requested, module, schema.types⟩ ↔
        ∀ earlier ∈ before, sameUpToCase earlier.1 requested = false) := by
  refine ⟨fun selection => ?_, fun failure => ?_, fun before module after hentries => select_key_iff hentries⟩
  · rw [select_eq_ok_iff, findModule?_eq_some_iff]
  · rw [select_eq_error_iff, findModule?_eq_none_iff]

/-! ### Two keys for one request -/

/-- Two modules whose keys differ in case alone. -/
def homonymSchema : Schema where
  modules := ⟨[("app", ⟨"first", .empty⟩), ("App", ⟨"second", .empty⟩)], by decide⟩
  types := .empty

theorem later_key_selects_earlier_module :
    homonymSchema.modules.get? "App" = some ⟨"second", .empty⟩ ∧
      homonymSchema.select "App" = .ok ⟨"app", ⟨"first", .empty⟩, .empty⟩ := by
  decide +kernel

/-- The two modules behind one whose key neither request is the same as. -/
def crowdedSchema : Schema where
  modules := ⟨("web", ⟨"front", .empty⟩) :: homonymSchema.modules.entries, by decide⟩
  types := .empty

theorem first_key_selects_itself :
    (∀ earlier ∈ [("web", (⟨"front", .empty⟩ : Module))], sameUpToCase earlier.1 "app" = false) ∧
      crowdedSchema.select "app" = .ok ⟨"app", ⟨"first", .empty⟩, .empty⟩ := by
  have hother : ∀ earlier ∈ [("web", (⟨"front", .empty⟩ : Module))], sameUpToCase earlier.1 "app" = false := by
    decide +kernel
  exact ⟨hother, ((select_takes_first_answer crowdedSchema "app").2.2 _ _ _ rfl).mpr hother⟩

end Schema

end ApiProxy
