import ApiProxy.Proofs.Json.Slots
import ApiProxy.Schema.Decoding

/-! Ways to write the records of a schema. Each record has a layout that says how its fields may be written and what
they are if they are left out, and it is decoded alike however it is written. -/

namespace ApiProxy

open Json

def noItems : Tree := .array [] .closed

def noEntries : Tree := .object [] .closed

theorem respects_mapVaries {α : Type} {decode : Decoder α} {vary : Variation} {room : Nat}
    (hdecode : Respects decode (vary (room - 1))) : Respects (decodeMap decode) (MapVaries vary room) := by
  intro tree other map h htree
  cases h with
  | refl => exact htree
  | entries h =>
      obtain ⟨entries, hentries, htree⟩ := Outcome.bind_eq_ok_iff.mp htree
      exact Outcome.bind_eq_ok_iff.mpr ⟨entries, decodeEntries_of_forall₂ hdecode h hentries, htree⟩

/-! ### Actions -/

def parameterLayout : Layout :=
  [{ name := "name" }, { name := "bindingKind" }, { name := "typeRef" },
    { name := "optional", default? := some (.boolean false) }]

def parameterSlots : List (Slot ParameterParts) :=
  [⟨"name", String, ParameterParts.name, fun parts held => { parts with name := held }, string, fun _ _ => rfl⟩,
    ⟨"bindingKind", BindingKind, ParameterParts.binding, fun parts held => { parts with binding := held },
      decodeEnumeration (BindingKind.all.map BindingKind.name) BindingKind.ofName?, fun _ _ => rfl⟩,
    ⟨"typeRef", String, ParameterParts.typeId, fun parts held => { parts with typeId := held }, string,
      fun _ _ => rfl⟩,
    ⟨"optional", Bool, ParameterParts.isOptional, fun parts held => { parts with isOptional := held }, decodeBoolean,
      fun _ _ => rfl⟩]

theorem parameterForm_hasSlots : parameterForm.HasSlots parameterSlots where
  fields := rfl
  start := by simp [parameterSlots, parameterForm]
  take := by simp [parameterSlots, parameterForm, Slot.take]
  skip name hname parts tree := by
    simp only [parameterForm]
    split <;> simp_all [parameterSlots]
  apart := by simp [parameterSlots, Slot.apart_iff]

theorem respects_parameter (mode : Mode) (room : Nat) :
    Respects (parameterForm.decode mode) (RecordVaries parameterLayout room) := by
  refine RecordForm.respects_recordVaries parameterForm_hasSlots ?_ mode
  refine .cons (Slot.admits_plain _) (.cons (Slot.admits_plain _) (.cons (Slot.admits_plain _) (.cons ?_ .nil)))
  refine Slot.admits_default (respects_eq _) rfl fun parts hempty => ?_
  obtain ⟨name, binding, typeId, isOptional⟩ := parts
  cases hempty
  rfl

def actionLayout : Layout :=
  [{ name := "name" }, { name := "httpMethod" }, { name := "urlTemplate" },
    { name := "parameters", varies := ListVaries (RecordVaries parameterLayout), default? := some noItems },
    { name := "returnTypeRef", default? := some .null }]

def actionSlots : List (Slot ActionParts) :=
  [⟨"name", String, ActionParts.name, fun parts held => { parts with name := held }, string, fun _ _ => rfl⟩,
    ⟨"httpMethod", HttpMethod, ActionParts.method, fun parts held => { parts with method := held },
      decodeEnumeration (HttpMethod.all.map HttpMethod.name) HttpMethod.ofName?, fun _ _ => rfl⟩,
    ⟨"urlTemplate", String, ActionParts.template, fun parts held => { parts with template := held }, string,
      fun _ _ => rfl⟩,
    ⟨"parameters", List Parameter, ActionParts.parameters, fun parts held => { parts with parameters := held },
      decodeList (parameterForm.decode .streamed), fun _ _ => rfl⟩,
    ⟨"returnTypeRef", Option String, ActionParts.returnType, fun parts held => { parts with returnType := held },
      decodeOptional string, fun _ _ => rfl⟩]

theorem actionForm_hasSlots : actionForm.HasSlots actionSlots where
  fields := rfl
  start := by simp [actionSlots, actionForm]
  take := by simp [actionSlots, actionForm, Slot.take]
  skip name hname parts tree := by
    simp only [actionForm]
    split <;> simp_all [actionSlots]
  apart := by simp [actionSlots, Slot.apart_iff]

theorem respects_action (mode : Mode) (room : Nat) :
    Respects (actionForm.decode mode) (RecordVaries actionLayout room) := by
  refine RecordForm.respects_recordVaries actionForm_hasSlots ?_ mode
  refine .cons (Slot.admits_plain _) (.cons (Slot.admits_plain _) (.cons (Slot.admits_plain _) (.cons ?_ (.cons ?_ .nil))))
  · refine Slot.admits_default (respects_listVaries (respects_parameter .streamed _)) rfl fun parts hempty => ?_
    obtain ⟨name, method, template, parameters, returnType⟩ := parts
    cases hempty
    rfl
  · refine Slot.admits_default (respects_eq _) rfl fun parts hempty => ?_
    obtain ⟨name, method, template, parameters, returnType⟩ := parts
    cases hempty
    rfl

/-! ### Controllers and modules -/

def controllerLayout : Layout :=
  [{ name := "controllerName" }, { name := "controllerGroupName" },
    { name := "actions", varies := ListVaries (RecordVaries actionLayout), default? := some noItems }]

def controllerSlots : List (Slot ControllerParts) :=
  [⟨"controllerName", String, ControllerParts.name, fun parts held => { parts with name := held }, string,
      fun _ _ => rfl⟩,
    ⟨"controllerGroupName", String, ControllerParts.groupName, fun parts held => { parts with groupName := held },
      string, fun _ _ => rfl⟩,
    ⟨"actions", List Action, ControllerParts.actions, fun parts held => { parts with actions := held },
      decodeList (actionForm.decode .streamed), fun _ _ => rfl⟩]

theorem controllerForm_hasSlots : controllerForm.HasSlots controllerSlots where
  fields := rfl
  start := by simp [controllerSlots, controllerForm]
  take := by simp [controllerSlots, controllerForm, Slot.take]
  skip name hname parts tree := by
    simp only [controllerForm]
    split <;> simp_all [controllerSlots]
  apart := by simp [controllerSlots, Slot.apart_iff]

theorem respects_controller (mode : Mode) (room : Nat) :
    Respects (controllerForm.decode mode) (RecordVaries controllerLayout room) := by
  refine RecordForm.respects_recordVaries controllerForm_hasSlots ?_ mode
  refine .cons (Slot.admits_plain _) (.cons (Slot.admits_plain _) (.cons ?_ .nil))
  refine Slot.admits_default (respects_listVaries (respects_action .streamed _)) rfl fun parts hempty => ?_
  obtain ⟨name, groupName, actions⟩ := parts
  cases hempty
  rfl

def moduleLayout : Layout :=
  [{ name := "remoteServiceName" },
    { name := "controllers", varies := MapVaries (RecordVaries controllerLayout), default? := some noEntries }]

def moduleSlots : List (Slot ModuleParts) :=
  [⟨"remoteServiceName", String, ModuleParts.serviceName, fun parts held => { parts with serviceName := held }, string,
      fun _ _ => rfl⟩,
    ⟨"controllers", OrderedMap Controller, ModuleParts.controllers, fun parts held => { parts with controllers := held },
      decodeMap (controllerForm.decode .streamed), fun _ _ => rfl⟩]

theorem moduleForm_hasSlots : moduleForm.HasSlots moduleSlots where
  fields := rfl
  start := by simp [moduleSlots, moduleForm]
  take := by simp [moduleSlots, moduleForm, Slot.take]
  skip name hname parts tree := by
    simp only [moduleForm]
    split <;> simp_all [moduleSlots]
  apart := by simp [moduleSlots, Slot.apart_iff]

theorem respects_module (mode : Mode) (room : Nat) :
    Respects (moduleForm.decode mode) (RecordVaries moduleLayout room) := by
  refine RecordForm.respects_recordVaries moduleForm_hasSlots (.cons (Slot.admits_plain _) (.cons ?_ .nil)) mode
  refine Slot.admits_default (respects_mapVaries (respects_controller .streamed _)) rfl fun parts hempty => ?_
  obtain ⟨serviceName, controllers⟩ := parts
  cases hempty
  rfl

/-! ### Types -/

def fieldLayout : Layout :=
  [{ name := "name" }, { name := "typeRef" }, { name := "nullable", default? := some (.boolean false) }]

def fieldSlots : List (Slot FieldParts) :=
  [⟨"name", String, FieldParts.name, fun parts held => { parts with name := held }, string, fun _ _ => rfl⟩,
    ⟨"typeRef", String, FieldParts.typeId, fun parts held => { parts with typeId := held }, string, fun _ _ => rfl⟩,
    ⟨"nullable", Bool, FieldParts.isNullable, fun parts held => { parts with isNullable := held }, decodeBoolean,
      fun _ _ => rfl⟩]

theorem fieldForm_hasSlots : fieldForm.HasSlots fieldSlots where
  fields := rfl
  start := by simp [fieldSlots, fieldForm]
  take := by simp [fieldSlots, fieldForm, Slot.take]
  skip name hname parts tree := by
    simp only [fieldForm]
    split <;> simp_all [fieldSlots]
  apart := by simp [fieldSlots, Slot.apart_iff]

theorem respects_field (mode : Mode) (room : Nat) :
    Respects (fieldForm.decode mode) (RecordVaries fieldLayout room) := by
  refine RecordForm.respects_recordVaries fieldForm_hasSlots ?_ mode
  refine .cons (Slot.admits_plain _) (.cons (Slot.admits_plain _) (.cons ?_ .nil))
  refine Slot.admits_default (respects_eq _) rfl fun parts hempty => ?_
  obtain ⟨name, typeId, isNullable⟩ := parts
  cases hempty
  rfl

theorem fieldLayout_staysKept (room : Nat) : fieldLayout.StaysKept room := by
  simp only [fieldLayout, Layout.StaysKept, List.forall_mem_cons]
  refine ⟨.plain _ _, .plain _ _, ?_, List.forall_mem_nil _⟩
  exact .withDefault _ (staysKept_eq room) rfl

def memberLayout : Layout := [{ name := "name" }, { name := "value" }]

def memberSlots : List (Slot MemberParts) :=
  [⟨"name", String, MemberParts.name, fun parts held => { parts with name := held }, string, fun _ _ => rfl⟩,
    ⟨"value", MemberValue, MemberParts.value, fun parts held => { parts with value := held }, decodeMemberValue,
      fun _ _ => rfl⟩]

theorem memberForm_hasSlots : memberForm.HasSlots memberSlots where
  fields := rfl
  start := by simp [memberSlots, memberForm]
  take := by simp [memberSlots, memberForm, Slot.take]
  skip name hname parts tree := by
    simp only [memberForm]
    split <;> simp_all [memberSlots]
  apart := by simp [memberSlots, Slot.apart_iff]

theorem respects_member (mode : Mode) (room : Nat) :
    Respects (memberForm.decode mode) (RecordVaries memberLayout room) :=
  RecordForm.respects_recordVaries memberForm_hasSlots
    (.cons (Slot.admits_plain _) (.cons (Slot.admits_plain _) .nil)) mode

theorem memberLayout_staysKept (room : Nat) : memberLayout.StaysKept room :=
  List.forall_mem_cons.mpr ⟨.plain _ _, List.forall_mem_singleton.mpr (.plain _ _)⟩

def oneStringSlots (fieldName : String) : List (Slot (Option String)) :=
  [⟨fieldName, String, id, fun _ held => held, string, fun _ _ => rfl⟩]

theorem oneStringForm_hasSlots (variantName fieldName : String) (make : String → TypeShape) :
    (oneStringForm variantName fieldName make).HasSlots (oneStringSlots fieldName) where
  fields := rfl
  start := List.forall_mem_singleton.mpr rfl
  take := List.forall_mem_singleton.mpr fun _ _ => (if_pos rfl).trans (bind_pure _).symm
  skip name hname parts tree := by
    have hne : name ≠ fieldName := by simpa [oneStringSlots] using hname
    exact if_neg hne
  apart := List.pairwise_singleton _ _

theorem respects_oneString (variantName fieldName : String) (make : String → TypeShape) (mode : Mode) (room : Nat) :
    Respects ((oneStringForm variantName fieldName make).decode mode) (RecordVaries [{ name := fieldName }] room) :=
  RecordForm.respects_recordVaries (oneStringForm_hasSlots variantName fieldName make)
    (.cons (Slot.admits_plain _) .nil) mode

def namedListSlots {α : Type} (listName : String) (decode : Decoder α) : List (Slot (ListParts α)) :=
  [⟨"name", String, ListParts.name, fun parts held => { parts with name := held }, string, fun _ _ => rfl⟩,
    ⟨listName, List α, ListParts.items, fun parts held => { parts with items := held }, decodeList decode,
      fun _ _ => rfl⟩]

/-- The layout of a record of a name and a list. -/
def namedListLayout (listName : String) (vary : Variation) : Layout :=
  [{ name := "name" }, { name := listName, varies := ListVaries vary, default? := some noItems }]

theorem namedListLayout_staysKept (listName : String) {vary : Variation} {room : Nat}
    (hvary : StaysKept (vary room) room) : (namedListLayout listName vary).StaysKept (room + 1) := by
  refine List.forall_mem_cons.mpr ⟨.plain _ _, List.forall_mem_singleton.mpr ?_⟩
  exact .withDefault _ (staysKept_listVaries hvary) rfl

section NamedList

variable {α : Type} (variantName : String) {listName : String} (decode : Decoder α) (make : String → List α → TypeShape)

theorem namedListForm_hasSlots (hname : listName ≠ "name") :
    (namedListForm variantName listName decode make).HasSlots (namedListSlots listName decode) where
  fields := rfl
  start := List.forall_mem_cons.mpr ⟨rfl, List.forall_mem_singleton.mpr rfl⟩
  take := List.forall_mem_cons.mpr
    ⟨fun _ _ => rfl, List.forall_mem_singleton.mpr fun _ _ => (if_neg hname).trans (if_pos rfl)⟩
  skip name hunknown parts tree := by
    have hne : name ≠ "name" ∧ name ≠ listName := by simpa [namedListSlots] using hunknown
    exact (if_neg hne.1).trans (if_neg hne.2)
  apart := by simp [namedListSlots, Slot.apart_iff, hname.symm]

theorem respects_namedList (hname : listName ≠ "name") {decode : Decoder α} {vary : Variation} {room : Nat}
    (hdecode : Respects decode (vary (room - 1 - 1))) (mode : Mode) :
    Respects ((namedListForm variantName listName decode make).decode mode)
      (RecordVaries (namedListLayout listName vary) room) := by
  have hslots := namedListForm_hasSlots variantName decode make hname
  refine RecordForm.respects_recordVaries hslots (.cons (Slot.admits_plain _) (.cons ?_ .nil)) mode
  refine Slot.admits_default (respects_listVaries hdecode) rfl fun parts hempty => ?_
  obtain ⟨name, items⟩ := parts
  cases hempty
  rfl

end NamedList

end ApiProxy
