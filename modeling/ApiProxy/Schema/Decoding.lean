import ApiProxy.Json.Decoding
import ApiProxy.Schema.Basic

/-! Schemas read from documents. Records accept their fields in any order and once each, skip what they do
not know and fill in what may be left out. A type says by its `kind` which record it is; since `kind` may come
last, its other fields are kept aside until it is known. -/

namespace ApiProxy

open Json

abbrev string : Decoder String := decodeText "a string"

/-- A map under construction: a repeated key keeps its place and takes the later value. -/
def OrderedMap.ofEntries {α : Type} (entries : List (String × α)) : OrderedMap α :=
  entries.foldl (fun map entry => map.insert entry.1 entry.2) .empty

def decodeMap {α : Type} (decode : Decoder α) : Decoder (OrderedMap α)
  | .object members ending => do
    let entries ← decodeEntries decode members
    ending.check
    .ok (.ofEntries entries)
  | tree => unexpected tree "a map"

def need {α : Type} (held : Option α) (name : String) : Except String α :=
  match held with
  | some value => .ok value
  | none => .error name

/-! ### Actions -/

structure ParameterParts where
  name : Option String := none
  binding : Option BindingKind := none
  typeId : Option String := none
  isOptional : Option Bool := none

def parameterForm : RecordForm ParameterParts Parameter where
  title := "struct ParameterDescription"
  fields := ["name", "bindingKind", "typeRef", "optional"]
  start := {}
  take parts name tree :=
    match name with
    | "name" => return { parts with name := ← once parts.name name (string tree) }
    | "bindingKind" =>
      let kind := decodeEnumeration (BindingKind.all.map BindingKind.name) BindingKind.ofName? tree
      return { parts with binding := ← once parts.binding name kind }
    | "typeRef" => return { parts with typeId := ← once parts.typeId name (string tree) }
    | "optional" => return { parts with isOptional := ← once parts.isOptional name (decodeBoolean tree) }
    | _ => do
      tree.skip
      return parts
  finish parts := do
    let name ← need parts.name "name"
    let binding ← need parts.binding "bindingKind"
    let typeId ← need parts.typeId "typeRef"
    return ⟨name, binding, typeId, parts.isOptional.getD false⟩

structure ActionParts where
  name : Option String := none
  method : Option HttpMethod := none
  template : Option String := none
  parameters : Option (List Parameter) := none
  returnType : Option (Option String) := none

def actionForm : RecordForm ActionParts Action where
  title := "struct ActionDescription"
  fields := ["name", "httpMethod", "urlTemplate", "parameters", "returnTypeRef"]
  start := {}
  take parts name tree :=
    match name with
    | "name" => return { parts with name := ← once parts.name name (string tree) }
    | "httpMethod" =>
      let method := decodeEnumeration (HttpMethod.all.map HttpMethod.name) HttpMethod.ofName? tree
      return { parts with method := ← once parts.method name method }
    | "urlTemplate" => return { parts with template := ← once parts.template name (string tree) }
    | "parameters" =>
      let parameters := decodeList (parameterForm.decode .streamed) tree
      return { parts with parameters := ← once parts.parameters name parameters }
    | "returnTypeRef" =>
      return { parts with returnType := ← once parts.returnType name (decodeOptional string tree) }
    | _ => do
      tree.skip
      return parts
  finish parts := do
    let name ← need parts.name "name"
    let method ← need parts.method "httpMethod"
    let template ← need parts.template "urlTemplate"
    return ⟨name, method, template, parts.parameters.getD [], parts.returnType.getD none⟩

/-! ### Controllers and modules -/

structure ControllerParts where
  name : Option String := none
  groupName : Option String := none
  actions : Option (List Action) := none

def controllerForm : RecordForm ControllerParts Controller where
  title := "struct ControllerDescription"
  fields := ["controllerName", "controllerGroupName", "actions"]
  start := {}
  take parts name tree :=
    match name with
    | "controllerName" => return { parts with name := ← once parts.name name (string tree) }
    | "controllerGroupName" => return { parts with groupName := ← once parts.groupName name (string tree) }
    | "actions" =>
      let actions := decodeList (actionForm.decode .streamed) tree
      return { parts with actions := ← once parts.actions name actions }
    | _ => do
      tree.skip
      return parts
  finish parts := do
    let name ← need parts.name "controllerName"
    let groupName ← need parts.groupName "controllerGroupName"
    return ⟨name, groupName, parts.actions.getD []⟩

structure ModuleParts where
  serviceName : Option String := none
  controllers : Option (OrderedMap Controller) := none

def moduleForm : RecordForm ModuleParts Module where
  title := "struct ModuleDescription"
  fields := ["remoteServiceName", "controllers"]
  start := {}
  take parts name tree :=
    match name with
    | "remoteServiceName" =>
      return { parts with serviceName := ← once parts.serviceName name (string tree) }
    | "controllers" =>
      let controllers := decodeMap (controllerForm.decode .streamed) tree
      return { parts with controllers := ← once parts.controllers name controllers }
    | _ => do
      tree.skip
      return parts
  finish parts := do
    let serviceName ← need parts.serviceName "remoteServiceName"
    return ⟨serviceName, parts.controllers.getD .empty⟩

/-! ### Types -/

structure FieldParts where
  name : Option String := none
  typeId : Option String := none
  isNullable : Option Bool := none

def fieldForm : RecordForm FieldParts Field where
  title := "struct FieldDescription"
  fields := ["name", "typeRef", "nullable"]
  start := {}
  take parts name tree :=
    match name with
    | "name" => return { parts with name := ← once parts.name name (string tree) }
    | "typeRef" => return { parts with typeId := ← once parts.typeId name (string tree) }
    | "nullable" => return { parts with isNullable := ← once parts.isNullable name (decodeBoolean tree) }
    | _ => do
      tree.skip
      return parts
  finish parts := do
    let name ← need parts.name "name"
    let typeId ← need parts.typeId "typeRef"
    return ⟨name, typeId, parts.isNullable.getD false⟩

/-- An integer of 64 bits or a string. -/
def decodeMemberValue : Decoder MemberValue
  | .number (some (.integer value)) =>
    if -0x8000000000000000 ≤ value && value < 0x8000000000000000 then .ok (.integer (Int64.ofInt value))
    else objectTo (.noVariant "EnumValue")
  | .text (some value) => .ok (.text value)
  | _ => objectTo (.noVariant "EnumValue")

structure MemberParts where
  name : Option String := none
  value : Option MemberValue := none

def memberForm : RecordForm MemberParts Member where
  title := "struct EnumMember"
  fields := ["name", "value"]
  start := {}
  take parts name tree :=
    match name with
    | "name" => return { parts with name := ← once parts.name name (string tree) }
    | "value" => return { parts with value := ← once parts.value name (decodeMemberValue tree) }
    | _ => do
      tree.skip
      return parts
  finish parts := do
    let name ← need parts.name "name"
    let value ← need parts.value "value"
    return ⟨name, value⟩

/-- The form of a type that consists of one string. -/
def oneStringForm (variantName fieldName : String) (make : String → TypeShape) :
    RecordForm (Option String) TypeShape where
  title := "struct variant TypeDescription::" ++ variantName
  fields := [fieldName]
  start := none
  take held name tree :=
    if name = fieldName then once held name (string tree)
    else do
      tree.skip
      return held
  finish held := (need held fieldName).map make

structure ListParts (α : Type) where
  name : Option String := none
  items : Option (List α) := none

/-- The form of a type that consists of a name and a list. -/
def namedListForm {α : Type} (variantName listName : String) (decode : Decoder α)
    (make : String → List α → TypeShape) : RecordForm (ListParts α) TypeShape where
  title := "struct variant TypeDescription::" ++ variantName
  fields := ["name", listName]
  start := {}
  take parts name tree :=
    if name = "name" then return { parts with name := ← once parts.name name (string tree) }
    else if name = listName then
      return { parts with items := ← once parts.items name (decodeList decode tree) }
    else do
      tree.skip
      return parts
  finish parts := do
    let name ← need parts.name "name"
    return make name (parts.items.getD [])

inductive TypeKind where
  | primitive | array | dictionary | reference | structured | enumeration
deriving DecidableEq, Repr

namespace TypeKind

def all : List TypeKind := [primitive, array, dictionary, reference, structured, enumeration]

def name : TypeKind → String
  | primitive => "primitive"
  | array => "array"
  | dictionary => "dictionary"
  | reference => "reference"
  | structured => "structured"
  | enumeration => "enum"

def decode : Decoder TypeKind := fun tree => do
  let name ← decodeText "variant identifier" tree
  decodeChoice (all.map TypeKind.name) (fun name => all.find? (·.name == name)) name

/-- Decodes what is left of a type once its kind has been taken out. -/
def decodeRest : TypeKind → Decoder TypeShape
  | primitive => (oneStringForm "Primitive" "primitive" (.primitive ∘ .ofName)).decode .kept
  | array => (oneStringForm "Array" "element" .array).decode .kept
  | dictionary => (oneStringForm "Dictionary" "value" .dictionary).decode .kept
  | reference => (oneStringForm "Reference" "target" .reference).decode .kept
  | structured =>
    (namedListForm "Structured" "fields" (fieldForm.decode .kept) .structured).decode .kept
  | enumeration =>
    (namedListForm "Enum" "members" (memberForm.decode .kept) .enumeration).decode .kept

end TypeKind

/-- Brackets that may still be opened inside a type: the document, its map of types and the type itself are
three of the 127 that may be open at once. -/
def roomInType : Nat := 124

/-- Separates the kind of a type from its other members, which are kept for later. -/
def splitKind (kind : Option TypeKind) :
    List (Key × Tree) → Except ReadError (Option TypeKind × List (Key × Tree))
  | [] => .ok (kind, [])
  | (key, value) :: members => do
    let name ← key.decode
    if name = "kind" then
      let found ← once kind "kind" (TypeKind.decode value)
      splitKind found members
    else
      value.keep roomInType
      let (found, others) ← splitKind kind members
      .ok (found, (key, value) :: others)

def decodeTypeShape : Decoder TypeShape
  | .object members ending => do
    let (kind, others) ← splitKind none members
    ending.check
    match kind with
    | some kind => kind.decodeRest (.object others .closed)
    | none => objectTo (.missingField "kind")
  | .array [] ending => do
    ending.check
    objectTo (.missingField "kind")
  | .array (first :: others) ending => do
    let kind ← TypeKind.decode first
    keepItems roomInType others
    ending.check
    kind.decodeRest (.array others .closed)
  | tree => unexpected tree "internally tagged enum TypeDescription"

/-! ### Schemas -/

structure SchemaParts where
  modules : Option (OrderedMap Module) := none
  types : Option (OrderedMap TypeShape) := none

def schemaForm : RecordForm SchemaParts Schema where
  title := "struct SchemaModel"
  fields := ["modules", "types"]
  start := {}
  take parts name tree :=
    match name with
    | "modules" =>
      return { parts with modules := ← once parts.modules name (decodeMap (moduleForm.decode .streamed) tree) }
    | "types" =>
      return { parts with types := ← once parts.types name (decodeMap decodeTypeShape tree) }
    | _ => do
      tree.skip
      return parts
  finish parts := return ⟨parts.modules.getD .empty, parts.types.getD .empty⟩

/-- Reads a whole text as one value. -/
def readWhole {α : Type} (decode : Decoder α) (text : String) : Except ReadError α := do
  let document := Document.ofText text.toList
  let value ← decode document.root
  if document.isComplete then .ok value else fail .malformed

def Schema.read (text : String) : Except ReadError Schema := readWhole (schemaForm.decode .streamed) text

end ApiProxy
