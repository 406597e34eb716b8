import ApiProxy.Json.Value
import ApiProxy.Schema.Basic

/-! Schemas written as documents: every field in the order of its declaration, the kind of a type first,
defaults spelled out, and an absent result type left out. -/

namespace ApiProxy

open Json

def OrderedMap.toValue {α : Type} (encode : α → Value) (map : OrderedMap α) : Value :=
  .object (map.entries.map fun entry => (entry.1, encode entry.2))

def Parameter.toValue (parameter : Parameter) : Value :=
  .object [("name", .text parameter.name), ("bindingKind", .text parameter.binding.name),
    ("typeRef", .text parameter.typeId), ("optional", .boolean parameter.isOptional)]

def Action.toValue (action : Action) : Value :=
  .object ([("name", .text action.name), ("httpMethod", .text action.method.name),
    ("urlTemplate", .text action.template),
    ("parameters", .array (action.parameters.map Parameter.toValue))] ++
    action.returnType?.toList.map fun typeId => ("returnTypeRef", .text typeId))

def Controller.toValue (controller : Controller) : Value :=
  .object [("controllerName", .text controller.name), ("controllerGroupName", .text controller.groupName),
    ("actions", .array (controller.actions.map Action.toValue))]

def Module.toValue (module : Module) : Value :=
  .object [("remoteServiceName", .text module.serviceName),
    ("controllers", module.controllers.toValue Controller.toValue)]

def Field.toValue (field : Field) : Value :=
  .object [("name", .text field.name), ("typeRef", .text field.typeId),
    ("nullable", .boolean field.isNullable)]

def MemberValue.toValue : MemberValue → Value
  | .integer value => .integer value.toInt
  | .text value => .text value

def Member.toValue (member : Member) : Value :=
  .object [("name", .text member.name), ("value", member.value.toValue)]

namespace TypeShape

/-- The members of a type beside its kind. -/
def contents : TypeShape → List (String × Value)
  | primitive kind => [("primitive", .text kind.name)]
  | array element => [("element", .text element)]
  | dictionary value => [("value", .text value)]
  | reference target => [("target", .text target)]
  | structured name fields => [("name", .text name), ("fields", .array (fields.map Field.toValue))]
  | enumeration name members => [("name", .text name), ("members", .array (members.map Member.toValue))]

def toValue (shape : TypeShape) : Value := .object (("kind", .text shape.kind) :: shape.contents)

end TypeShape

def Schema.toValue (schema : Schema) : Value :=
  .object [("modules", schema.modules.toValue Module.toValue), ("types", schema.types.toValue TypeShape.toValue)]

def Schema.toText (schema : Schema) : String := schema.toValue.toText

end ApiProxy
