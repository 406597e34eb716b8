import ApiProxy.OrderedMap

/-! The description of a remote service: modules with their controllers and actions, and one map of types
for all modules. Types refer to each other by the key under which they stand in that map, so the map is a
graph that may have cycles and edges to types that are not there. -/

namespace ApiProxy

inductive HttpMethod where
  | get | post | put | patch | delete | head | options
deriving DecidableEq, Repr

namespace HttpMethod

def all : List HttpMethod := [get, post, put, patch, delete, head, options]

def name : HttpMethod → String
  | get => "GET"
  | post => "POST"
  | put => "PUT"
  | patch => "PATCH"
  | delete => "DELETE"
  | head => "HEAD"
  | options => "OPTIONS"

def ofName? (name : String) : Option HttpMethod := all.find? (·.name == name)

end HttpMethod

/-- Where the value of a parameter travels. -/
inductive BindingKind where
  | path | query | body
deriving DecidableEq, Repr

namespace BindingKind

def all : List BindingKind := [path, query, body]

def name : BindingKind → String
  | path => "path"
  | query => "query"
  | body => "body"

def ofName? (name : String) : Option BindingKind := all.find? (·.name == name)

end BindingKind

/-- Kinds of primitive values. Names that are none of the seven known ones are kept as they are. -/
inductive PrimitiveKind where
  | text | integer | float | boolean | dateTime | binary | any
  | unsupported (name : String)
deriving DecidableEq, Repr

namespace PrimitiveKind

def known : List PrimitiveKind := [text, integer, float, boolean, dateTime, binary, any]

def name : PrimitiveKind → String
  | text => "text"
  | integer => "integer"
  | float => "float"
  | boolean => "boolean"
  | dateTime => "dateTime"
  | binary => "binary"
  | any => "any"
  | unsupported name => name

def ofName (name : String) : PrimitiveKind := (known.find? (·.name == name)).getD (unsupported name)

end PrimitiveKind

structure Field where
  name : String
  typeId : String
  isNullable : Bool
deriving DecidableEq, Repr

inductive MemberValue where
  | integer (value : Int64)
  | text (value : String)
deriving DecidableEq

structure Member where
  name : String
  value : MemberValue
deriving DecidableEq

inductive TypeShape where
  | primitive (kind : PrimitiveKind)
  | array (element : String)
  | dictionary (value : String)
  | reference (target : String)
  | structured (name : String) (fields : List Field)
  | enumeration (name : String) (members : List Member)
deriving DecidableEq

namespace TypeShape

/-- The types that a type mentions directly. -/
def mentions : TypeShape → List String
  | primitive _ => []
  | array element => [element]
  | dictionary value => [value]
  | reference target => [target]
  | structured _ fields => fields.map Field.typeId
  | enumeration _ _ => []

/-- The name under which a type is declared; arrays, dictionaries, references and primitives are not. -/
def declaredName? : TypeShape → Option String
  | structured name _ => some name
  | enumeration name _ => some name
  | _ => none

def kind : TypeShape → String
  | primitive _ => "primitive"
  | array _ => "array"
  | dictionary _ => "dictionary"
  | reference _ => "reference"
  | structured _ _ => "structured"
  | enumeration _ _ => "enum"

end TypeShape

structure Parameter where
  name : String
  binding : BindingKind
  typeId : String
  isOptional : Bool
deriving DecidableEq, Repr

structure Action where
  name : String
  method : HttpMethod
  template : String
  parameters : List Parameter
  returnType? : Option String
deriving DecidableEq, Repr

/-- The types of the parameters, then the type of the result. -/
def Action.typeIds (action : Action) : List String :=
  action.parameters.map Parameter.typeId ++ action.returnType?.toList

def Action.boundTo (action : Action) (kind : BindingKind) : List Parameter :=
  action.parameters.filter (·.binding = kind)

structure Controller where
  name : String
  groupName : String
  actions : List Action
deriving DecidableEq, Repr

structure Module where
  serviceName : String
  controllers : OrderedMap Controller
deriving DecidableEq

/-- Types under the ids by which they are mentioned. -/
abbrev TypeMap := OrderedMap TypeShape

structure Schema where
  modules : OrderedMap Module
  types : TypeMap
deriving DecidableEq

end ApiProxy
