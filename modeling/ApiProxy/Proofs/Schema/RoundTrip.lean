import ApiProxy.Proofs.Schema.Canonical
import ApiProxy.Schema.Encoding

/-! Documents keep schemas. What is written for a schema reads as that schema, with all maps in their order, as long
as the kinds of its primitive types can be told from their names; the same holds of every schema that was read. -/

namespace ApiProxy

open Json

/-! ### What stands for one part -/

theorem BindingKind.readsAs (kind : BindingKind) :
    (Value.text kind.name).ReadsAs (decodeEnumeration (all.map name) ofName?) kind :=
  readsAs_choice (by cases kind <;> rfl)

theorem HttpMethod.readsAs (method : HttpMethod) :
    (Value.text method.name).ReadsAs (decodeEnumeration (all.map name) ofName?) method :=
  readsAs_choice (by cases method <;> rfl)

theorem readsAs_map {α : Type} {decode : Decoder α} {encode : α → Value} {map : OrderedMap α}
    (h : ∀ entry ∈ map.entries, (encode entry.2).ReadsAs decode entry.2) :
    (map.toValue encode).ReadsAs (decodeMap decode) map := by
  constructor
  · refine .object fun member hmember => ?_
    obtain ⟨entry, hentry, rfl⟩ := List.mem_map.mp hmember
    exact (h entry hentry).fits
  · have hentries : (OrderedMap.ofEntries map.entries).entries = map.entries :=
      OrderedMap.entries_foldl_insert .empty (by simpa [OrderedMap.keys, OrderedMap.empty] using map.distinct)
    rw [OrderedMap.toValue, Value.tree, decodeMap, decodeEntries_memberTrees h]
    exact congrArg Except.ok (OrderedMap.ext hentries)

/-! ### Modules -/

theorem Parameter.readsAs (parameter : Parameter) (mode : Mode) :
    parameter.toValue.ReadsAs (parameterForm.decode mode) parameter := by
  obtain ⟨name, binding, typeId, isOptional⟩ := parameter
  have hbinding := (BindingKind.readsAs binding).decoded
  refine RecordForm.readsAs ⟨some name, some binding, some typeId, some isOptional⟩ (by simp) ?_ rfl
  simp [RecordForm.takeMembers_cons, parameterForm, hbinding]

theorem Action.readsAs (action : Action) (mode : Mode) : action.toValue.ReadsAs (actionForm.decode mode) action := by
  obtain ⟨name, method, template, parameters, returnType?⟩ := action
  have hmethod := (HttpMethod.readsAs method).decoded
  have hparameters := readsAs_list fun (parameter : Parameter) (_ : parameter ∈ parameters) =>
    parameter.readsAs .streamed
  cases returnType? with
  | none =>
      refine RecordForm.readsAs ⟨some name, some method, some template, some parameters, none⟩ ?_ ?_ rfl
      · simp [hparameters.fits]
      · simp [RecordForm.takeMembers_cons, actionForm, hmethod, hparameters.decoded]
  | some typeId =>
      refine RecordForm.readsAs ⟨some name, some method, some template, some parameters, some (some typeId)⟩ ?_ ?_ rfl
      · simp [hparameters.fits]
      · simp [RecordForm.takeMembers_cons, actionForm, hmethod, hparameters.decoded]

theorem Controller.readsAs (controller : Controller) (mode : Mode) :
    controller.toValue.ReadsAs (controllerForm.decode mode) controller := by
  obtain ⟨name, groupName, actions⟩ := controller
  have hactions := readsAs_list fun (action : Action) (_ : action ∈ actions) => action.readsAs .streamed
  refine RecordForm.readsAs ⟨some name, some groupName, some actions⟩ ?_ ?_ rfl
  · simp [hactions.fits]
  · simp [RecordForm.takeMembers_cons, controllerForm, hactions.decoded]

theorem Module.readsAs (module : Module) (mode : Mode) : module.toValue.ReadsAs (moduleForm.decode mode) module := by
  obtain ⟨serviceName, controllers⟩ := module
  have hcontrollers := readsAs_map fun (entry : String × Controller) (_ : entry ∈ controllers.entries) =>
    entry.2.readsAs .streamed
  refine RecordForm.readsAs ⟨some serviceName, some controllers⟩ ?_ ?_ rfl
  · simp [hcontrollers.fits]
  · simp [RecordForm.takeMembers_cons, moduleForm, hcontrollers.decoded]

/-! ### Types -/

theorem Field.readsAs (field : Field) (mode : Mode) : field.toValue.ReadsAs (fieldForm.decode mode) field := by
  obtain ⟨name, typeId, isNullable⟩ := field
  refine RecordForm.readsAs ⟨some name, some typeId, some isNullable⟩ (by simp) ?_ rfl
  simp [RecordForm.takeMembers_cons, fieldForm]

theorem MemberValue.readsAs (value : MemberValue) : value.toValue.ReadsAs decodeMemberValue value := by
  cases value with
  | text value => exact ⟨.text value, rfl⟩
  | integer value =>
      have hlow : -0x8000000000000000 ≤ value.toInt := value.le_toInt
      have hhigh : value.toInt < 0x8000000000000000 := value.toInt_lt
      refine ⟨.integer ⟨hlow, by rw [largestWord]; omega⟩, ?_⟩
      have hrange : (decide (-0x8000000000000000 ≤ value.toInt) &&
          decide (value.toInt < 0x8000000000000000)) = true := by simp [hlow, hhigh]
      show (if _ then _ else _) = _
      rw [if_pos hrange, Int64.ofInt_toInt]

theorem Member.readsAs (member : Member) (mode : Mode) : member.toValue.ReadsAs (memberForm.decode mode) member := by
  obtain ⟨name, value⟩ := member
  have hvalue := value.readsAs
  refine RecordForm.readsAs ⟨some name, some value⟩ ?_ ?_ rfl
  · simp [hvalue.fits]
  · simp [RecordForm.takeMembers_cons, memberForm, hvalue.decoded]

theorem Field.keep_toValue (field : Field) (room : Nat) : field.toValue.tree.keep (room + 1) = .ok () := rfl

theorem Member.keep_toValue (member : Member) (room : Nat) : member.toValue.tree.keep (room + 1) = .ok () := by
  obtain ⟨name, value⟩ := member
  cases value <;> rfl

/-- The kind of a type as it is told from its name. -/
def TypeShape.typeKind : TypeShape → TypeKind
  | primitive _ => .primitive
  | array _ => .array
  | dictionary _ => .dictionary
  | reference _ => .reference
  | structured _ _ => .structured
  | enumeration _ _ => .enumeration

theorem TypeShape.name_typeKind (shape : TypeShape) : shape.typeKind.name = shape.kind := by
  cases shape <;> rfl

theorem TypeKind.find?_name (kind : TypeKind) : all.find? (·.name == kind.name) = some kind := by
  cases kind <;> rfl

theorem TypeKind.decode_name (kind : TypeKind) : TypeKind.decode (Value.text kind.name).tree = .ok kind := by
  rw [TypeKind.decode, decodeText_tree, Outcome.ok_bind, decodeChoice, find?_name]

theorem readsAs_oneString (variantName fieldName : String) (make : String → TypeShape) (text : String) (mode : Mode) :
    (Value.object [(fieldName, .text text)]).ReadsAs ((oneStringForm variantName fieldName make).decode mode)
      (make text) := by
  have htake : (oneStringForm variantName fieldName make).take none fieldName (Value.text text).tree =
      .ok (some text) := if_pos rfl
  refine RecordForm.readsAs (some text) (by simp) ?_ rfl
  exact congrArg (· >>= _) htake

theorem namedListForm_take_name {α : Type} (variantName listName : String) (decode : Decoder α)
    (make : String → List α → TypeShape) (parts : ListParts α) (tree : Tree) :
    (namedListForm variantName listName decode make).take parts "name" tree =
      return { parts with name := ← once parts.name "name" (string tree) } := rfl

theorem namedListForm_take_list {α : Type} (variantName : String) {listName : String} (hname : listName ≠ "name")
    (decode : Decoder α) (make : String → List α → TypeShape) (parts : ListParts α) (tree : Tree) :
    (namedListForm variantName listName decode make).take parts listName tree =
      return { parts with items := ← once parts.items listName (decodeList decode tree) } :=
  (if_neg hname).trans (if_pos rfl)

theorem readsAs_namedList {α : Type} {decode : Decoder α} {encode : α → Value} {items : List α}
    (h : ∀ item ∈ items, (encode item).ReadsAs decode item) (variantName : String) {listName : String}
    (hname : listName ≠ "name") (make : String → List α → TypeShape) (name : String) (mode : Mode) :
    (Value.object [("name", .text name), (listName, .array (items.map encode))]).ReadsAs
      ((namedListForm variantName listName decode make).decode mode) (make name items) := by
  have hitems := readsAs_list h
  refine RecordForm.readsAs ⟨some name, some items⟩ ?_ ?_ rfl
  · simp [hitems.fits]
  · rw [RecordForm.takeMembers_cons, namedListForm_take_name]
    show (namedListForm variantName listName decode make).takeMembers ⟨some name, none⟩ _ = _
    rw [RecordForm.takeMembers_cons, namedListForm_take_list variantName hname, hitems.decoded]
    rfl

theorem TypeShape.readsAs_contents {shape : TypeShape} (h : shape.Canonical) :
    (Value.object shape.contents).ReadsAs shape.typeKind.decodeRest shape := by
  cases shape with
  | primitive kind =>
      have hread := readsAs_oneString "Primitive" "primitive" (.primitive ∘ .ofName) kind.name .kept
      rwa [Function.comp_apply, PrimitiveKind.ofName_name h] at hread
  | array element => exact readsAs_oneString "Array" "element" .array element .kept
  | dictionary value => exact readsAs_oneString "Dictionary" "value" .dictionary value .kept
  | reference target => exact readsAs_oneString "Reference" "target" .reference target .kept
  | structured name fields =>
      exact readsAs_namedList (fun field _ => field.readsAs .kept) "Structured" (by decide) .structured name .kept
  | enumeration name members =>
      exact readsAs_namedList (fun member _ => member.readsAs .kept) "Enum" (by decide) .enumeration name .kept

/-- Nothing in the contents of a type is taken for its kind, and all of it can be kept aside. -/
theorem TypeShape.contents_keep (shape : TypeShape) :
    ∀ member ∈ shape.contents, member.1 ≠ "kind" ∧ member.2.tree.keep roomInType = .ok () := by
  have htext (text : String) : (Value.text text).tree.keep roomInType = .ok () := rfl
  -- Of the brackets that may still be opened, a list of fields or members takes one and its items take another.
  cases shape with
  | structured name fields =>
      have hfields : (Value.array (fields.map Field.toValue)).tree.keep roomInType = .ok () :=
        keep_array fun field _ => field.keep_toValue 122
      simp [contents, htext, hfields]
  | enumeration name members =>
      have hmembers : (Value.array (members.map Member.toValue)).tree.keep roomInType = .ok () :=
        keep_array fun member _ => member.keep_toValue 122
      simp [contents, htext, hmembers]
  | _ => simp [contents, htext]

theorem splitKind_memberTrees (kind : Option TypeKind) {members : List (String × Value)}
    (h : ∀ member ∈ members, member.1 ≠ "kind" ∧ member.2.tree.keep roomInType = .ok ()) :
    splitKind kind (memberTrees members) = .ok (kind, memberTrees members) := by
  induction members with
  | nil => rfl
  | cons member members ih =>
      obtain ⟨⟨hname, hkeep⟩, hmembers⟩ := List.forall_mem_cons.mp h
      show (if member.1 = "kind" then _ else _) = _
      rw [if_neg hname, hkeep, ih hmembers]
      rfl

theorem TypeShape.readsAs {shape : TypeShape} (h : shape.Canonical) :
    shape.toValue.ReadsAs decodeTypeShape shape := by
  have hcontents := readsAs_contents h
  have hsplit := splitKind_memberTrees (some shape.typeKind) shape.contents_keep
  constructor
  · cases hcontents.fits with
    | object hfits => exact .object (List.forall_mem_cons.mpr ⟨.text shape.kind, hfits⟩)
  · have hkind := shape.typeKind.decode_name
    rw [shape.name_typeKind] at hkind
    have hmembers : splitKind none (memberTrees (("kind", .text shape.kind) :: shape.contents)) =
        .ok (some shape.typeKind, memberTrees shape.contents) := by
      show (once none "kind" (TypeKind.decode (Value.text shape.kind).tree) >>= fun found => splitKind found _) = _
      rw [hkind, once_none, Outcome.ok_bind, hsplit]
    rw [toValue, Value.tree, decodeTypeShape, hmembers]
    exact hcontents.decoded

/-! ### Schemas -/

theorem Schema.readsAs {schema : Schema} (h : schema.Canonical) (mode : Mode) :
    schema.toValue.ReadsAs (schemaForm.decode mode) schema := by
  obtain ⟨modules, types⟩ := schema
  have hmodules := readsAs_map fun (entry : String × Module) (_ : entry ∈ modules.entries) =>
    entry.2.readsAs .streamed
  have htypes := readsAs_map fun entry (hentry : entry ∈ types.entries) => TypeShape.readsAs (h entry hentry)
  refine RecordForm.readsAs ⟨some modules, some types⟩ ?_ ?_ rfl
  · simp [hmodules.fits, htypes.fits]
  · simp [RecordForm.takeMembers_cons, schemaForm, hmodules.decoded, htypes.decoded]

theorem readWhole_toText {α : Type} {value : Value} {decode : Decoder α} {result : α}
    (h : value.ReadsAs decode result) : readWhole decode value.toText = .ok result := by
  rw [readWhole, Value.toText, String.toList_ofList, Document.ofText_print h.fits, h.decoded]
  rfl

theorem Schema.read_toText {schema : Schema} (h : schema.Canonical) : Schema.read schema.toText = .ok schema :=
  readWhole_toText (readsAs h .streamed)

/-- A document written anew from the schema it is read as. -/
def Schema.reprint (text : String) : Except ReadError String := (Schema.read text).map Schema.toText

/-- Exactly the canonical schemas are read from their own documents as they are. Every schema that is read is
canonical, so that writing a document anew a second time changes nothing. -/
theorem Schema.documents_keep_schemas :
    (∀ schema : Schema, Schema.read schema.toText = .ok schema ↔ schema.Canonical) ∧
      (∀ (text : String) (schema : Schema), Schema.read text = .ok schema → schema.Canonical) ∧
        ∀ text printed : String, reprint text = .ok printed → reprint printed = .ok printed := by
  refine ⟨fun schema => ⟨canonical_of_read, read_toText⟩, fun _ _ => canonical_of_read, fun text printed h => ?_⟩
  obtain ⟨schema, hread, rfl⟩ := Outcome.map_eq_ok_iff.mp h
  rw [reprint, read_toText (canonical_of_read hread)]
  rfl

/-- A schema with a type of every kind, and with names that have to be escaped. -/
def Schema.varied : Schema where
  modules := ⟨[("orders", ⟨"sales", ⟨[("c", ⟨"Orders", "", [
      ⟨"get \"all\"", .get, "/orders/\x7bid\x7d", [⟨"id", .path, "t\\1", true⟩], some "list"⟩,
      ⟨"\n", .delete, "", [], none⟩]⟩)], by decide⟩⟩),
    ("empty", ⟨"", .empty⟩)], by decide⟩
  types := ⟨[("t\\1", .primitive (.unsupported "decimal")), ("list", .array "state"),
    ("by name", .dictionary "list"), ("alias", .reference "alias"),
    ("order", .structured "Order" [⟨"state", "state", true⟩]),
    ("state", .enumeration "State" [⟨"Open", .integer (-1)⟩, ⟨"Closed", .text "\x00"⟩])], by decide⟩

/-- A document that says the kind of a type last, has a member that nobody knows and leaves out the modules. -/
def Json.Value.terse : Value :=
  .object [("types", .object [("t", .object [("primitive", .text "text"), ("kind", .text "primitive")])]),
    ("more", .boolean true)]

theorem Schema.documents_keep_varied :
    (varied.Canonical ∧ Schema.read varied.toText = .ok varied) ∧
      ∃ schema, Schema.read Value.terse.toText = .ok schema ∧ schema.Canonical ∧
        reprint schema.toText = .ok schema.toText := by
  have hread : Schema.read Value.terse.toText = .ok ⟨.empty, ⟨[("t", .primitive .text)], by decide⟩⟩ := by
    refine readWhole_toText ⟨.object ?_, rfl⟩
    simp only [List.forall_mem_cons, List.not_mem_nil, false_imp_iff, implies_true, and_true]
    exact ⟨.object (by simpa using .object (by simp)), .boolean true⟩
  have hcanonical : varied.Canonical := by decide
  refine ⟨⟨hcanonical, (documents_keep_schemas.1 varied).mpr hcanonical⟩, _, hread, ?_, ?_⟩
  · exact documents_keep_schemas.2.1 Value.terse.toText _ hread
  · exact documents_keep_schemas.2.2 Value.terse.toText _ (by rw [reprint, hread]; rfl)

end ApiProxy
