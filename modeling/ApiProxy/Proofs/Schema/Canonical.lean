import ApiProxy.Proofs.Json.Records
import ApiProxy.Proofs.OrderedMap
import ApiProxy.Schema.Decoding

/-! Kinds of primitive values in the one form that can be told apart from their names. Every schema that is read
from a document has all of its kinds in that form. -/

namespace ApiProxy

open Json

/-- A kind that is kept by its name has none of the known names. -/
def PrimitiveKind.Canonical : PrimitiveKind → Prop
  | .unsupported name => name ∉ known.map PrimitiveKind.name
  | _ => True

def TypeShape.Canonical : TypeShape → Prop
  | .primitive kind => kind.Canonical
  | _ => True

/-- All primitive kinds of the schema are canonical. -/
def Schema.Canonical (schema : Schema) : Prop := ∀ entry ∈ schema.types.entries, entry.2.Canonical

namespace PrimitiveKind

theorem canonical_of_mem_known {kind : PrimitiveKind} (h : kind ∈ known) : kind.Canonical := by
  cases kind with
  | unsupported name => simp [known] at h
  | _ => trivial

theorem canonical_ofName (name : String) : (ofName name).Canonical := by
  cases hfound : known.find? (·.name == name) with
  | some kind =>
      rw [ofName, hfound]
      exact canonical_of_mem_known (List.mem_of_find?_eq_some hfound)
  | none =>
      rw [ofName, hfound]
      intro hmem
      obtain ⟨kind, hkind, rfl⟩ := List.mem_map.mp hmem
      simpa using List.find?_eq_none.mp hfound kind hkind

theorem ofName_name {kind : PrimitiveKind} (h : kind.Canonical) : ofName kind.name = kind := by
  cases kind with
  | unsupported name =>
      have hnone : known.find? (·.name == name) = none := by
        apply List.find?_eq_none.mpr
        intro kind hkind heq
        exact h (List.mem_map.mpr ⟨kind, hkind, by simpa using heq⟩)
      rw [ofName, PrimitiveKind.name, hnone]
      rfl
  | _ => rfl

/-- The canonical kinds are those that a name can stand for. -/
theorem canonical_iff {kind : PrimitiveKind} : kind.Canonical ↔ ofName kind.name = kind :=
  ⟨ofName_name, fun h => h ▸ canonical_ofName kind.name⟩

instance (kind : PrimitiveKind) : Decidable kind.Canonical := decidable_of_iff _ canonical_iff.symm

example : ¬(PrimitiveKind.unsupported "text").Canonical := by decide

end PrimitiveKind

instance : (shape : TypeShape) → Decidable shape.Canonical
  | .primitive kind => inferInstanceAs (Decidable kind.Canonical)
  | .array _ | .dictionary _ | .reference _ | .structured _ _ | .enumeration _ _ => .isTrue trivial

instance (schema : Schema) : Decidable schema.Canonical :=
  inferInstanceAs (Decidable (∀ entry ∈ schema.types.entries, entry.2.Canonical))

/-! ### Types that are read -/

theorem exists_make_of_decode_oneString {variantName fieldName : String} {make : String → TypeShape} {mode : Mode}
    {tree : Tree} {shape : TypeShape} (h : (oneStringForm variantName fieldName make).decode mode tree = .ok shape) :
    ∃ text, make text = shape := by
  obtain ⟨held, hfinish⟩ := RecordForm.exists_finish_of_decode h
  cases held with
  | none => cases hfinish
  | some text => exact ⟨text, Except.ok.inj hfinish⟩

theorem exists_make_of_decode_namedList {α : Type} {variantName listName : String} {decode : Decoder α}
    {make : String → List α → TypeShape} {mode : Mode} {tree : Tree} {shape : TypeShape}
    (h : (namedListForm variantName listName decode make).decode mode tree = .ok shape) :
    ∃ name items, make name items = shape := by
  obtain ⟨parts, hfinish⟩ := RecordForm.exists_finish_of_decode h
  obtain ⟨name, -, hmake⟩ := Outcome.bind_eq_ok_iff.mp hfinish
  exact ⟨name, parts.items.getD [], Except.ok.inj hmake⟩

theorem TypeKind.canonical_of_decodeRest {kind : TypeKind} {tree : Tree} {shape : TypeShape}
    (h : kind.decodeRest tree = .ok shape) : shape.Canonical := by
  cases kind with
  | primitive =>
      obtain ⟨name, rfl⟩ := exists_make_of_decode_oneString h
      exact PrimitiveKind.canonical_ofName name
  | structured | enumeration =>
      obtain ⟨name, items, rfl⟩ := exists_make_of_decode_namedList h
      trivial
  | array | dictionary | reference =>
      obtain ⟨text, rfl⟩ := exists_make_of_decode_oneString h
      trivial

theorem canonical_of_decodeTypeShape {tree : Tree} {shape : TypeShape} (h : decodeTypeShape tree = .ok shape) :
    shape.Canonical := by
  rw [decodeTypeShape.eq_def] at h
  split at h
  next members ending =>
    obtain ⟨⟨kind, others⟩, -, h⟩ := Outcome.bind_eq_ok_iff.mp h
    obtain ⟨-, -, h⟩ := Outcome.bind_eq_ok_iff.mp h
    cases kind with
    | none => cases h
    | some kind => exact TypeKind.canonical_of_decodeRest h
  next ending =>
    obtain ⟨-, -, h⟩ := Outcome.bind_eq_ok_iff.mp h
    cases h
  next first others ending =>
    obtain ⟨kind, -, h⟩ := Outcome.bind_eq_ok_iff.mp h
    obtain ⟨-, -, h⟩ := Outcome.bind_eq_ok_iff.mp h
    obtain ⟨-, -, h⟩ := Outcome.bind_eq_ok_iff.mp h
    exact TypeKind.canonical_of_decodeRest h
  next => exact absurd h (unexpected_ne_ok _ _ _)

/-! ### Schemas that are read -/

theorem exists_tree_of_decodeMap {α : Type} {decode : Decoder α} {tree : Tree} {map : OrderedMap α}
    (h : decodeMap decode tree = .ok map) {entry : String × α} (hentry : entry ∈ map.entries) :
    ∃ tree, decode tree = .ok entry.2 := by
  rw [decodeMap.eq_def] at h
  split at h
  next members ending =>
    obtain ⟨entries, hentries, h⟩ := Outcome.bind_eq_ok_iff.mp h
    obtain ⟨-, -, h⟩ := Outcome.bind_eq_ok_iff.mp h
    cases h
    rcases OrderedMap.mem_foldl_insert hentry with hempty | hmem
    · cases hempty
    · exact exists_tree_of_decodeEntries hentries hmem
  next => exact absurd h (unexpected_ne_ok _ _ _)

/-- The types found so far, if any, have canonical kinds. -/
def SchemaParts.Canonical (parts : SchemaParts) : Prop :=
  ∀ types, parts.types = some types → ∀ entry ∈ types.entries, entry.2.Canonical

theorem SchemaParts.canonical_take (parts : SchemaParts) (name : String) (tree : Tree) (next : SchemaParts)
    (hparts : parts.Canonical) (h : schemaForm.take parts name tree = .ok next) : next.Canonical := by
  dsimp only [schemaForm] at h
  split at h
  next =>
    obtain ⟨modules, -, h⟩ := Outcome.bind_eq_ok_iff.mp h
    cases h
    exact hparts
  next =>
    obtain ⟨types, htypes, h⟩ := Outcome.bind_eq_ok_iff.mp h
    cases h
    intro map hmap entry hentry
    rw [once.eq_def] at htypes
    split at htypes
    next => cases htypes
    next =>
      obtain ⟨read, hread, hsame⟩ := Outcome.map_eq_ok_iff.mp htypes
      cases hsame.trans hmap
      obtain ⟨tree, htree⟩ := exists_tree_of_decodeMap hread hentry
      exact canonical_of_decodeTypeShape htree
  next =>
    obtain ⟨-, -, h⟩ := Outcome.bind_eq_ok_iff.mp h
    cases h
    exact hparts

theorem Schema.canonical_of_decode {mode : Mode} {tree : Tree} {schema : Schema}
    (h : schemaForm.decode mode tree = .ok schema) : schema.Canonical := by
  have hstart : schemaForm.start.Canonical := fun types htypes => by cases htypes
  obtain ⟨parts, hparts, hfinish⟩ :=
    RecordForm.exists_parts_of_decode SchemaParts.canonical_take hstart h
  cases hfinish
  intro entry hentry
  cases htypes : parts.types with
  | none =>
      rw [htypes] at hentry
      cases hentry
  | some types =>
      rw [htypes] at hentry
      exact hparts types htypes entry hentry

theorem Schema.canonical_of_read {text : String} {schema : Schema} (h : Schema.read text = .ok schema) :
    schema.Canonical := by
  obtain ⟨read, hread, h⟩ := Outcome.bind_eq_ok_iff.mp h
  split at h
  next =>
    cases h
    exact canonical_of_decode hread
  next => cases h

end ApiProxy
