import ApiProxy.Proofs.Json.Reading
import ApiProxy.Proofs.OrderedMap
import ApiProxy.Proofs.Schema.Layout

/-! Ways to write a schema. The kind of a type may stand anywhere among its members, the others are kept aside until it
is known. A document is read as the same schema however its records are written and wherever blanks stand between its
tokens; what stays is the order of its lists and of the entries of its maps. -/

namespace ApiProxy

open Json

/-! ### Layouts -/

namespace TypeKind

/-- The fields of a type of the kind, besides the kind itself. -/
def fields : TypeKind → Layout
  | primitive => [{ name := "primitive" }]
  | array => [{ name := "element" }]
  | dictionary => [{ name := "value" }]
  | reference => [{ name := "target" }]
  | structured => namedListLayout "fields" (RecordVaries fieldLayout)
  | enumeration => namedListLayout "members" (RecordVaries memberLayout)

def layout (kind : TypeKind) : Layout := { name := "kind" } :: kind.fields

/-- The tree says that it is a type of the kind, by one of its members or as the first of its items. -/
def IsSaid (kind : TypeKind) : Tree → Prop
  | .object members _ => (.text (some "kind"), .text (some kind.name)) ∈ members
  | .array items _ => items.head? = some (.text (some kind.name))
  | _ => False

end TypeKind

/-- Ways to write a type. -/
inductive TypeVaries (room : Nat) : Tree → Tree → Prop where
  | refl (tree : Tree) : TypeVaries room tree tree
  | ofKind {kind : TypeKind} {tree other : Tree} (hkind : kind.IsSaid tree)
      (h : RecordVaries kind.layout room tree other) : TypeVaries room tree other

def schemaLayout : Layout :=
  [{ name := "modules", varies := MapVaries (RecordVaries moduleLayout), default? := some noEntries },
    { name := "types", varies := MapVaries TypeVaries, default? := some noEntries }]

/-- Ways to write a whole schema, in which 127 brackets may be open at once. -/
def SchemaVaries : Tree → Tree → Prop := RecordVaries schemaLayout 127

/-! ### What is left of a type without its kind -/

namespace TypeKind

theorem name_ne_of_mem_fields {kind : TypeKind} {field : FieldLayout} (h : field ∈ kind.fields) :
    field.name ≠ "kind" := by
  cases kind <;> simp_all [fields, namedListLayout]
  all_goals rcases h with rfl | rfl <;> decide

theorem fields_stayKept (kind : TypeKind) : kind.fields.StaysKept roomInType := by
  cases kind with
  | structured => exact namedListLayout_staysKept "fields" (staysKept_recordVaries (fieldLayout_staysKept _))
  | enumeration =>
      exact namedListLayout_staysKept "members" (staysKept_recordVaries (memberLayout_staysKept _))
  | primitive | array | dictionary | reference => exact List.forall_mem_singleton.mpr (.plain _ _)

theorem respects_decodeRest (kind : TypeKind) :
    Respects kind.decodeRest (RecordVaries kind.fields (roomInType + 1)) := by
  cases kind with
  | primitive => exact respects_oneString "Primitive" "primitive" (.primitive ∘ .ofName) .kept _
  | array => exact respects_oneString "Array" "element" .array .kept _
  | dictionary => exact respects_oneString "Dictionary" "value" .dictionary .kept _
  | reference => exact respects_oneString "Reference" "target" .reference .kept _
  | structured => exact respects_namedList "Structured" .structured (by decide) (respects_field .kept _) .kept
  | enumeration => exact respects_namedList "Enum" .enumeration (by decide) (respects_member .kept _) .kept

end TypeKind

/-! ### Types -/

/-- One kind, if any, is taken out of the members of a type, and the others are kept aside. -/
inductive Splits : Option TypeKind → List (Key × Tree) → Option TypeKind → List (Key × Tree) → Prop where
  | nil (held : Option TypeKind) : Splits held [] held []
  | kind {value : Tree} {kind : TypeKind} {members others : List (Key × Tree)} {found : Option TypeKind}
      (hvalue : TypeKind.decode value = .ok kind) (h : Splits (some kind) members found others) :
      Splits none ((.text (some "kind"), value) :: members) found others
  | other {held found : Option TypeKind} {name : String} {value : Tree} {members others : List (Key × Tree)}
      (hname : name ≠ "kind") (hvalue : value.keep roomInType = .ok ()) (h : Splits held members found others) :
      Splits held ((.text (some name), value) :: members) found ((.text (some name), value) :: others)

theorem splits_of_splitKind {held found : Option TypeKind} {members others : List (Key × Tree)}
    (h : splitKind held members = .ok (found, others)) : Splits held members found others := by
  induction members generalizing held found others with
  | nil =>
      cases h
      exact .nil _
  | cons member members ih =>
      obtain ⟨key, value⟩ := member
      obtain ⟨name, hname, hmember⟩ := Outcome.bind_eq_ok_iff.mp h
      cases decode_key_eq_ok_iff.mp hname
      by_cases hkind : name = "kind"
      · rw [if_pos hkind] at hmember
        obtain ⟨next, hnext, hsplit⟩ := Outcome.bind_eq_ok_iff.mp hmember
        subst hkind
        cases held with
        | some held => cases hnext
        | none =>
            obtain ⟨kind, hvalue, rfl⟩ := Outcome.map_eq_ok_iff.mp hnext
            exact .kind hvalue (ih hsplit)
      · rw [if_neg hkind] at hmember
        obtain ⟨hvalue, hothers⟩ := Outcome.check_bind_eq_ok_iff.mp hmember
        obtain ⟨⟨found', others'⟩, hsplit, hresult⟩ := Outcome.bind_eq_ok_iff.mp hothers
        cases hresult
        exact .other hkind hvalue (ih hsplit)

namespace Splits

variable {held found : Option TypeKind} {members others : List (Key × Tree)}

theorem splitKind_eq (h : Splits held members found others) : splitKind held members = .ok (found, others) := by
  induction h with
  | nil => rfl
  | kind hvalue _ ih =>
      show (once none "kind" (TypeKind.decode _) >>= fun found => splitKind found _) = _
      rw [hvalue]
      exact ih
  | other hname hvalue _ ih =>
      show (if _ then _ else _) = _
      rw [if_neg hname, hvalue, ih]
      rfl

theorem mem_of_mem (h : Splits held members found others) {member : Key × Tree} (hmember : member ∈ others) :
    member ∈ members := by
  induction h with
  | nil => exact hmember
  | kind _ _ ih => exact List.mem_cons_of_mem _ (ih hmember)
  | other _ _ _ ih =>
      rcases List.mem_cons.mp hmember with rfl | hlater
      · exact List.mem_cons_self
      · exact List.mem_cons_of_mem _ (ih hlater)

theorem found_of_held {kind : TypeKind} (h : Splits (some kind) members found others) : found = some kind := by
  generalize hheld : some kind = held at h
  induction h with
  | nil => rfl
  | kind => cases hheld
  | other _ _ _ ih => exact ih hheld

theorem of_cons {name : String} {value : Tree} (hname : name ≠ "kind")
    (h : Splits held ((.text (some name), value) :: members) found others) :
    ∃ later, others = (.text (some name), value) :: later ∧ value.keep roomInType = .ok () ∧
      Splits held members found later := by
  cases h with
  | kind => exact absurd rfl hname
  | other _ hvalue h => exact ⟨_, rfl, hvalue, h⟩

/-- The kind that is found is the one that a member gives. -/
theorem found_of_mem (h : Splits held members found others) {value : Tree}
    (hmember : (.text (some "kind"), value) ∈ members) : ∃ kind, TypeKind.decode value = .ok kind ∧ found = some kind := by
  induction h with
  | nil => cases hmember
  | kind hvalue h ih =>
      rcases List.mem_cons.mp hmember with heq | hlater
      · cases heq
        exact ⟨_, hvalue, h.found_of_held⟩
      · exact ih hlater
  | other hname _ _ ih =>
      rcases List.mem_cons.mp hmember with heq | hlater
      · cases heq
        exact absurd rfl hname
      · exact ih hlater

/-- Wherever the kind stands among the members, the others are the same up to their order. -/
theorem perm (h : Splits held members found others) {members' : List (Key × Tree)} (hperm : members.Perm members') :
    ∃ others', others.Perm others' ∧ Splits held members' found others' := by
  induction hperm generalizing held others with
  | nil => exact ⟨others, .rfl, h⟩
  | cons member _ ih =>
      cases h with
      | kind hvalue h =>
          obtain ⟨others', hothers, hsplit⟩ := ih h
          exact ⟨others', hothers, .kind hvalue hsplit⟩
      | other hname hvalue h =>
          obtain ⟨others', hothers, hsplit⟩ := ih h
          exact ⟨_, hothers.cons _, .other hname hvalue hsplit⟩
  | swap second first members =>
      cases h with
      | kind hfirst h =>
          cases h with
          | other hname hsecond h => exact ⟨_, .rfl, .other hname hsecond (.kind hfirst h)⟩
      | other hname hfirst h =>
          cases h with
          | kind hsecond h => exact ⟨_, .rfl, .kind hsecond (.other hname hfirst h)⟩
          | other hname' hsecond h => exact ⟨_, .swap _ _ _, .other hname' hsecond (.other hname hfirst h)⟩
  | trans _ _ ih ih' =>
      obtain ⟨others', hothers, hsplit⟩ := ih h
      obtain ⟨others'', hothers', hsplit'⟩ := ih' hsplit
      exact ⟨others'', hothers.trans hothers', hsplit'⟩

end Splits

/-- The tree is read as a type of the kind. -/
inductive IsRead (kind : TypeKind) (shape : TypeShape) : Tree → Prop where
  | object {members others : List (Key × Tree)} (hsplit : Splits none members (some kind) others)
      (hrest : kind.decodeRest (.object others .closed) = .ok shape) : IsRead kind shape (.object members .closed)
  | array {first : Tree} {others : List Tree} (hfirst : TypeKind.decode first = .ok kind)
      (hkeep : ∀ other ∈ others, other.keep roomInType = .ok ())
      (hrest : kind.decodeRest (.array others .closed) = .ok shape) :
      IsRead kind shape (.array (first :: others) .closed)

theorem isRead_of_decodeTypeShape {tree : Tree} {shape : TypeShape} (h : decodeTypeShape tree = .ok shape) :
    ∃ kind, IsRead kind shape tree := by
  rw [decodeTypeShape.eq_def] at h
  split at h
  next members ending =>
    obtain ⟨⟨found, others⟩, hsplit, h⟩ := Outcome.bind_eq_ok_iff.mp h
    obtain ⟨hending, h⟩ := Outcome.check_bind_eq_ok_iff.mp h
    cases check_eq_ok_iff.mp hending
    cases found with
    | none => cases h
    | some kind => exact ⟨kind, .object (splits_of_splitKind hsplit) h⟩
  next ending =>
    obtain ⟨-, h⟩ := Outcome.check_bind_eq_ok_iff.mp h
    cases h
  next first others ending =>
    obtain ⟨kind, hfirst, h⟩ := Outcome.bind_eq_ok_iff.mp h
    obtain ⟨hkeep, h⟩ := Outcome.check_bind_eq_ok_iff.mp h
    obtain ⟨hending, h⟩ := Outcome.check_bind_eq_ok_iff.mp h
    cases check_eq_ok_iff.mp hending
    exact ⟨kind, .array hfirst (keepItems_eq_ok_iff.mp hkeep) h⟩
  next => exact absurd h (unexpected_ne_ok _ _ _)

namespace IsRead

variable {kind : TypeKind} {shape : TypeShape}

theorem decodeTypeShape_eq {tree : Tree} (h : IsRead kind shape tree) : decodeTypeShape tree = .ok shape := by
  cases h with
  | object hsplit hrest =>
      rw [decodeTypeShape, hsplit.splitKind_eq]
      exact hrest
  | array hfirst hkeep hrest =>
      rw [decodeTypeShape, hfirst, Outcome.ok_bind, keepItems_eq_ok_iff.mpr hkeep]
      exact hrest

/-- A type is read as the kind that it is said to have. -/
theorem kind_eq {said : TypeKind} {tree : Tree} (hsaid : said.IsSaid tree) (h : IsRead kind shape tree) :
    kind = said := by
  have hname : TypeKind.decode (.text (some said.name)) = .ok said := by cases said <;> rfl
  cases h with
  | object hsplit =>
      obtain ⟨found, hfound, hkind⟩ := hsplit.found_of_mem hsaid
      cases hfound.symm.trans hname
      exact Option.some.inj hkind
  | array hfirst =>
      cases Option.some.inj hsaid
      exact Except.ok.inj (hfirst.symm.trans hname)

theorem varied {tree other : Tree} (h : RecordVaries kind.layout (roomInType + 1) tree other)
    (htree : IsRead kind shape tree) : IsRead kind shape other := by
  induction h with
  | refl => exact htree
  | trans _ _ ih ihother => exact ihother (ih htree)
  | reorder h =>
      cases htree with
      | object hsplit hrest =>
          obtain ⟨others', hothers, hsplit'⟩ := hsplit.perm h
          exact .object hsplit' (kind.respects_decodeRest (.reorder hothers) hrest)
  | addUnknown hname hvalue =>
      cases htree with
      | object hsplit hrest =>
          rw [TypeKind.layout, List.map_cons, List.mem_cons, not_or] at hname
          refine .object (.other hname.1 hvalue.keep_eq_ok hsplit) ?_
          exact kind.respects_decodeRest (.addUnknown hname.2 hvalue) hrest
  | writeDefault hfield hdefault homitted =>
      cases htree with
      | object hsplit hrest =>
          rcases List.mem_cons.mp hfield with rfl | hfield
          · cases hdefault
          · have hkeep := (kind.fields_stayKept _ hfield).2 _ hdefault
            refine .object (.other (TypeKind.name_ne_of_mem_fields hfield) hkeep hsplit) ?_
            refine kind.respects_decodeRest (.writeDefault hfield hdefault fun member hmember => ?_) hrest
            exact homitted member (hsplit.mem_of_mem hmember)
  | vary hfield h =>
      rcases List.mem_cons.mp hfield with rfl | hfield
      · cases h
        exact htree
      · have hname := TypeKind.name_ne_of_mem_fields hfield
        cases htree with
        | object hsplit hrest =>
            obtain ⟨later, rfl, hvalue, hsplit⟩ := hsplit.of_cons hname
            refine .object (.other hname ((kind.fields_stayKept _ hfield).1 h hvalue) hsplit) ?_
            exact kind.respects_decodeRest (.vary hfield h) hrest
  | varyItems h =>
      cases htree with
      | array hfirst hkeep hrest =>
          cases h with
          | cons h hitems =>
              cases h
              refine .array hfirst (hitems.forall_keep kind.fields_stayKept hkeep) ?_
              exact kind.respects_decodeRest (.varyItems hitems) hrest

end IsRead

theorem respects_type : Respects decodeTypeShape (TypeVaries (roomInType + 1)) := by
  intro tree other shape h htree
  cases h with
  | refl => exact htree
  | ofKind hkind h =>
      obtain ⟨kind, hread⟩ := isRead_of_decodeTypeShape htree
      cases hread.kind_eq hkind
      exact (hread.varied h).decodeTypeShape_eq

/-! ### Schemas -/

def schemaSlots : List (Slot SchemaParts) :=
  [⟨"modules", OrderedMap Module, SchemaParts.modules, fun parts held => { parts with modules := held },
      decodeMap (moduleForm.decode .streamed), fun _ _ => rfl⟩,
    ⟨"types", TypeMap, SchemaParts.types, fun parts held => { parts with types := held }, decodeMap decodeTypeShape,
      fun _ _ => rfl⟩]

theorem schemaForm_hasSlots : schemaForm.HasSlots schemaSlots where
  fields := rfl
  start := by simp [schemaSlots, schemaForm]
  take := by simp [schemaSlots, schemaForm, Slot.take]
  skip name hname parts tree := by
    simp only [schemaForm]
    split <;> simp_all [schemaSlots]
  apart := by simp [schemaSlots, Slot.apart_iff]

theorem respects_schema (mode : Mode) : Respects (schemaForm.decode mode) SchemaVaries := by
  refine RecordForm.respects_recordVaries schemaForm_hasSlots (.cons ?_ (.cons ?_ .nil)) mode
  · refine Slot.admits_default (respects_mapVaries (respects_module .streamed _)) rfl fun parts hempty => ?_
    obtain ⟨modules, types⟩ := parts
    cases hempty
    rfl
  · refine Slot.admits_default (respects_mapVaries respects_type) rfl fun parts hempty => ?_
    obtain ⟨modules, types⟩ := parts
    cases hempty
    rfl

/-! ### Documents -/

theorem readWhole_of_spells {α : Type} (decode : Decoder α) {text : String} {tree : Tree}
    (h : SpellsDocument text.toList tree) : readWhole decode text = decode tree := by
  rw [readWhole, h.ofText_eq]
  exact bind_pure _

/-- A document that is read as a record is a spelling of its tree. -/
theorem spellsDocument_of_readWhole {Parts α : Type} {form : RecordForm Parts α} {mode : Mode} {text : String}
    {value : α} (h : readWhole (form.decode mode) text = .ok value) :
    SpellsDocument text.toList (Document.ofText text.toList).root := by
  obtain ⟨read, hread, hcomplete⟩ := Outcome.bind_eq_ok_iff.mp h
  have hfinished : ¬(Document.ofText text.toList).root.Unfinished := by
    rcases RecordForm.closed_of_decode hread with ⟨members, heq⟩ | ⟨items, heq⟩ <;> simp [heq, Tree.Unfinished]
  refine spellsDocument_of_ofText ?_ hfinished
  cases hdocument : Document.ofText text.toList with
  | mk root isComplete =>
      rw [hdocument] at hcomplete
      cases isComplete with
      | true => rfl
      | false => cases hcomplete

/-- The names of the members that have one. -/
def keyNames (members : List (Key × Tree)) : List String :=
  members.filterMap fun member => match member.1 with
    | .text name => name
    | _ => none

theorem map_fst_of_decodeEntries {α : Type} {decode : Decoder α} {members : List (Key × Tree)}
    {entries : List (String × α)} (h : decodeEntries decode members = .ok entries) :
    entries.map Prod.fst = keyNames members := by
  induction members generalizing entries with
  | nil =>
      cases h
      rfl
  | cons member members ih =>
      obtain ⟨key, tree⟩ := member
      obtain ⟨name, hname, hmember⟩ := Outcome.bind_eq_ok_iff.mp h
      obtain ⟨value, -, hlater⟩ := Outcome.bind_eq_ok_iff.mp hmember
      obtain ⟨later, hentries, hresult⟩ := Outcome.bind_eq_ok_iff.mp hlater
      cases hresult
      cases decode_key_eq_ok_iff.mp hname
      exact congrArg (name :: ·) (ih hentries)

/-- The keys of a map stand where the entries first mention them. -/
theorem keys_of_decodeMap {α : Type} {decode : Decoder α} {members : List (Key × Tree)} {ending : Ending}
    {map : OrderedMap α} (h : decodeMap decode (.object members ending) = .ok map) :
    map.keys = (keyNames members).eraseDups := by
  obtain ⟨entries, hentries, hmap⟩ := Outcome.bind_eq_ok_iff.mp h
  obtain ⟨-, hmap⟩ := Outcome.check_bind_eq_ok_iff.mp hmap
  cases hmap
  rw [← map_fst_of_decodeEntries hentries]
  exact OrderedMap.keys_foldl_insert_empty entries

theorem forall₂_of_decodeList {α : Type} {decode : Decoder α} {items : List Tree} {ending : Ending} {values : List α}
    (h : decodeList decode (.array items ending) = .ok values) :
    List.Forall₂ (fun item value => decode item = .ok value) items values := by
  obtain ⟨found, hfound, hvalues⟩ := Outcome.bind_eq_ok_iff.mp h
  obtain ⟨-, hvalues⟩ := Outcome.check_bind_eq_ok_iff.mp hvalues
  cases hvalues
  exact Outcome.mapM_eq_ok_iff.mp hfound

/-- A schema does not depend on how its document is written: any text that spells a variation of the tree of the
document is read as the same schema. What counts is the order of the entries of maps and of the items of lists. -/
theorem Schema.variations_read_alike :
    (∀ (text : String) (schema : Schema), Schema.read text = .ok schema →
      (∃ tree, SpellsDocument text.toList tree) ∧
        ∀ (tree other : Tree) (varied : String), SpellsDocument text.toList tree → SchemaVaries tree other →
          SpellsDocument varied.toList other → Schema.read varied = .ok schema) ∧
      (∀ {α : Type} (decode : Decoder α) (members : List (Key × Tree)) (ending : Ending) (map : OrderedMap α),
        decodeMap decode (.object members ending) = .ok map → map.keys = (keyNames members).eraseDups) ∧
        ∀ {α : Type} (decode : Decoder α) (items : List Tree) (ending : Ending) (values : List α),
          decodeList decode (.array items ending) = .ok values →
            List.Forall₂ (fun item value => decode item = .ok value) items values := by
  refine ⟨fun text schema hread => ⟨⟨_, spellsDocument_of_readWhole hread⟩, ?_⟩, fun _ _ _ _ => keys_of_decodeMap,
    fun _ _ _ _ => forall₂_of_decodeList⟩
  intro tree other varied htext hvaries hvaried
  have hdecode : schemaForm.decode .streamed tree = .ok schema := (readWhole_of_spells _ htext).symm.trans hread
  exact (readWhole_of_spells _ hvaried).trans (respects_schema .streamed hvaries hdecode)

/-! ### A document written in two ways -/

namespace Schema

/-- An object whose members all have names. -/
def namedObject (members : List (String × Tree)) : Tree :=
  .object (members.map fun member => (.text (some member.1), member.2)) .closed

def textType : Tree := namedObject [("kind", .text (some "primitive")), ("primitive", .text (some "text"))]

/-- The kind of the type stands last. -/
def textTypeVaried : Tree := namedObject [("primitive", .text (some "text")), ("kind", .text (some "primitive"))]

def oneType : Tree := namedObject [("types", namedObject [("t", textType)])]

/-- The modules are written out, and there is a member that nobody knows. -/
def oneTypeVaried : Tree :=
  namedObject [("note", .array [.number (some (.integer (-1))), .null] .closed), ("modules", noEntries),
    ("types", namedObject [("t", textTypeVaried)])]

theorem textType_varies : TypeVaries 125 textType textTypeVaried := by
  have hkind : TypeKind.primitive.IsSaid textType := List.mem_cons_self
  exact .ofKind hkind (.reorder (.swap _ _ _))

theorem oneType_varies : SchemaVaries oneType oneTypeVaried := by
  have hmodules : { name := "modules", varies := MapVaries (RecordVaries moduleLayout), default? := some noEntries } ∈
      schemaLayout := by simp [schemaLayout]
  have htypes : { name := "types", varies := MapVaries TypeVaries, default? := some noEntries } ∈ schemaLayout := by
    simp [schemaLayout]
  have hmap : MapVaries TypeVaries 126 (namedObject [("t", textType)]) (namedObject [("t", textTypeVaried)]) :=
    .entries (.cons ⟨rfl, textType_varies⟩ .nil)
  have hnote : (Tree.array [.number (some (.integer (-1))), .null] .closed).Sound 126 :=
    .array (List.forall_mem_cons.mpr ⟨.number _ _, List.forall_mem_singleton.mpr (.null _)⟩)
  refine .trans (.vary htypes hmap) (.trans (.writeDefault hmodules rfl ?_) (.addUnknown ?_ hnote))
  · simp
  · simp [schemaLayout]

def oneTypeText : String :=
  "\x7b\"types\":\x7b\"t\":\x7b\"kind\":\"primitive\",\"primitive\":\"text\"\x7d\x7d\x7d"

def oneTypeTextVaried : String :=
  "\x7b \"note\": [ -1, null ],\n \"modules\": \x7b\x7d,\n \"types\" : \x7b\n" ++
    "\"t\": \x7b \"primitive\": \"text\", \"kind\": \"primitive\" \x7d \x7d \x7d\n"

theorem one_type_reads_alike :
    (∃ schema, Schema.read oneTypeText = .ok schema ∧ Schema.read oneTypeTextVaried = .ok schema) ∧
      ["t"] = (keyNames [(.text (some "t"), textType)]).eraseDups ∧
        List.Forall₂ (fun item value => string item = .ok value) [.text (some "b"), .text (some "a")] ["b", "a"] := by
  have htext : SpellsDocument oneTypeText.toList oneType := by
    delta oneTypeText
    simp only [String.reduceToList]
    exact spellsDocument_of_ofText rfl id
  have hvaried : SpellsDocument oneTypeTextVaried.toList oneTypeVaried := by
    delta oneTypeTextVaried
    simp only [String.reduceAppend, String.reduceToList]
    exact spellsDocument_of_ofText rfl id
  have hread : Schema.read oneTypeText = .ok ⟨.empty, ⟨[("t", .primitive .text)], by decide⟩⟩ :=
    (readWhole_of_spells _ htext).trans rfl
  refine ⟨⟨_, hread, ?_⟩, ?_, ?_⟩
  · exact (variations_read_alike.1 oneTypeText _ hread).2 _ _ _ htext oneType_varies hvaried
  · exact variations_read_alike.2.1 decodeTypeShape _ .closed ⟨[("t", .primitive .text)], by decide⟩ rfl
  · exact variations_read_alike.2.2 string _ .closed _ rfl

end Schema

end ApiProxy
