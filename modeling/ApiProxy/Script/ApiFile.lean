import ApiProxy.Binding
import ApiProxy.Script.TypeExpr
import ApiProxy.Types.Lookup

/-! The functions of the API file, one for each action. A function takes the parameters of its action in their
order, puts the path parameters into the URL, collects the query parameters that are given, and passes the
request on to the helper that is imported from the project. -/

namespace ApiProxy.Script

/-- The function that carries out a request, and the module it is imported from. -/
structure Helper where
  source : String := "@/utils/request"
  name : String := "request"
deriving DecidableEq, Repr

/-- Names that a generated function declares for itself. -/
def localNames : List String := ["searchParams", "queryString", "element"]

/-- How a parameter stands in a signature: optional with a question mark where all later ones are optional
too, and otherwise by a type that admits `undefined`. -/
inductive Presence where
  | required
  | maybeUndefined
  | optional
deriving DecidableEq, Repr

structure SignatureEntry where
  identifier : String
  type : TypeExpr
  presence : Presence
deriving DecidableEq, Repr

def SignatureEntry.text (entry : SignatureEntry) : String :=
  match entry.presence with
  | .required => entry.identifier ++ ": " ++ entry.type.text
  | .maybeUndefined => entry.identifier ++ ": " ++ entry.type.text ++ " | undefined"
  | .optional => entry.identifier ++ "?: " ++ entry.type.text

/-- The text inside a template literal. A backslash, a backtick and the opening of a substitution are escaped; all
else stands for itself, line breaks included. -/
def escapeTemplate : List Char → List Char
  | [] => []
  | '\\' :: rest => '\\' :: '\\' :: escapeTemplate rest
  | '`' :: rest => '\\' :: '`' :: escapeTemplate rest
  | '$' :: '{' :: rest => '\\' :: '$' :: '{' :: escapeTemplate rest
  | c :: rest => c :: escapeTemplate rest

def templateText (text : String) : String := String.ofList (escapeTemplate text.toList)

/-- A part of the URL of a request. -/
inductive UrlPart where
  | literal (text : String)
  | value (identifier : String) (isOptional : Bool)
deriving DecidableEq, Repr

def encodedValue (identifier : String) : String := "encodeURIComponent(String(" ++ identifier ++ "))"

def UrlPart.text : UrlPart → String
  | literal text => templateText text
  | value identifier false => "$\x7b" ++ encodedValue identifier ++ "\x7d"
  | value identifier true =>
    "$\x7b" ++ identifier ++ " === undefined || " ++ identifier ++ " === null ? \"\" : " ++
      encodedValue identifier ++ "\x7d"

/-- A query parameter: the name it is sent under, and whether each element of it is sent by itself. -/
structure QueryEntry where
  identifier : String
  name : String
  isList : Bool
deriving DecidableEq, Repr

def QueryEntry.text (entry : QueryEntry) : String :=
  let key := Json.quote entry.name
  "  if (" ++ entry.identifier ++ " !== undefined && " ++ entry.identifier ++ " !== null) \x7b\n" ++
    (if entry.isList then
      "    for (const element of " ++ entry.identifier ++ ") \x7b\n" ++
        "      searchParams.append(" ++ key ++ ", String(element));\n" ++ "    \x7d\n"
    else "    searchParams.append(" ++ key ++ ", String(" ++ entry.identifier ++ "));\n") ++
    "  \x7d\n"

/-- A generated function, before it is written down. -/
structure ClientFunction where
  name : String
  signature : List SignatureEntry
  result? : Option TypeExpr
  method : HttpMethod
  url : List UrlPart
  query : List QueryEntry
  data? : Option String

namespace ClientFunction

def resultText (function : ClientFunction) : String :=
  match function.result? with
  | some type => type.text
  | none => "void"

def urlText (function : ClientFunction) : String :=
  "`" ++ String.join (function.url.map UrlPart.text) ++
    (if function.query.isEmpty then "" else "$\x7bqueryString ? `?$\x7bqueryString\x7d` : \"\"\x7d") ++ "`"

def queryText (function : ClientFunction) : String :=
  if function.query.isEmpty then ""
  else
    "  const searchParams = new URLSearchParams();\n" ++ String.join (function.query.map QueryEntry.text) ++
      "  const queryString = searchParams.toString();\n"

def dataText (function : ClientFunction) : String :=
  match function.data? with
  | some identifier => "    data: " ++ identifier ++ ",\n"
  | none => ""

def text (helper : Helper) (function : ClientFunction) : String :=
  "export function " ++ function.name ++ "(" ++ ", ".intercalate (function.signature.map SignatureEntry.text) ++
    "): Promise<" ++ function.resultText ++ "> \x7b\n" ++ function.queryText ++
    "  return " ++ helper.name ++ "<" ++ function.resultText ++ ">(\x7b\n" ++
    "    method: \"" ++ function.method.name ++ "\",\n" ++
    "    url: " ++ function.urlText ++ ",\n" ++ function.dataText ++ "  \x7d);\n\x7d\n"

/-- The types that a function names, in the order of their appearance. -/
def types (function : ClientFunction) : List TypeExpr :=
  function.signature.map SignatureEntry.type ++ function.result?.toList

end ClientFunction

/-! ### From actions to functions -/

/-- Chooses an identifier for each name in turn: the name itself, made fit, and as many underscores as it takes
to differ from all that is taken. -/
def paddedNames (taken : List String) : List String → List String
  | [] => []
  | name :: names =>
    let chosen := firstFree taken (padded (sanitize name))
    chosen :: paddedNames (chosen :: taken) names

def parameterIdentifiers (action : Action) (helper : Helper) : List String :=
  paddedNames (localNames ++ [helper.name] ++ runtimeGlobals) (action.parameters.map Parameter.name)

def functionIdentifier (actionName : String) : String := sanitize (camelCase actionName)

/-- The identifier at the position of a parameter. -/
def PlacedParameter.identifier (identifiers : List String) (placed : PlacedParameter) : String :=
  identifiers.getD placed.position (sanitize placed.parameter.name)

def presence (parameter : Parameter) (later : List Parameter) : Presence :=
  if !parameter.isOptional then .required
  else if later.all Parameter.isOptional then .optional
  else .maybeUndefined

def signature (types : TypeMap) (names : TypeNames) :
    List Parameter → List String → Except Failure (List SignatureEntry)
  | parameter :: later, identifier :: identifiers => do
    let type ← typeExpr types names parameter.typeId
    let entries ← signature types names later identifiers
    .ok (⟨identifier, type, presence parameter later⟩ :: entries)
  | _, _ => .ok []

def urlPart (identifiers : List String) : BoundSegment → UrlPart
  | .literal text => .literal text
  | .parameter placed => .value (PlacedParameter.identifier identifiers placed) placed.parameter.isOptional

def queryEntry (types : TypeMap) (identifiers : List String) (placed : PlacedParameter) :
    Except Failure QueryEntry :=
  (types.isArray placed.parameter.typeId).map fun isList =>
    ⟨PlacedParameter.identifier identifiers placed, placed.parameter.name, isList⟩

def clientFunction (types : TypeMap) (names : TypeNames) (helper : Helper) (name : String) (action : Action)
    (binding : Binding) : Except Failure ClientFunction := do
  let identifiers := parameterIdentifiers action helper
  let signature ← signature types names action.parameters identifiers
  let result? ← action.returnType?.mapM (typeExpr types names)
  let query ← binding.query.mapM (queryEntry types identifiers)
  .ok {
    name
    signature
    result?
    method := action.method
    url := binding.segments.map (urlPart identifiers)
    query
    data? := binding.body?.map (PlacedParameter.identifier identifiers) }

/-- Names that no function of a file may have. -/
def takenByFile (names : TypeNames) (helper : Helper) : List String :=
  runtimeGlobals ++ names.identifiers ++ [helper.name]

def functionNames (names : TypeNames) (helper : Helper) (actions : List Action) : List String :=
  freshNames (takenByFile names helper) (actions.map fun action => functionIdentifier action.name)

def clientFunctions (types : TypeMap) (names : TypeNames) (helper : Helper) :
    List String → List (Action × Binding) → Except Failure (List ClientFunction)
  | name :: others, (action, binding) :: bound => do
    let function ← clientFunction types names helper name action binding
    let functions ← clientFunctions types names helper others bound
    .ok (function :: functions)
  | _, _ => .ok []

/-- The API file without its banner: its functions, and the declared types that it imports, sorted. -/
structure ApiSource where
  helper : Helper
  functions : List ClientFunction

/-- Puts a name into a sorted list, once. -/
def insertSorted (name : String) : List String → List String
  | [] => [name]
  | first :: rest =>
    if name = first then first :: rest
    else if name < first then name :: first :: rest
    else first :: insertSorted name rest

def sortedNames (names : List String) : List String := names.foldr insertSorted []

namespace ApiSource

def imports (source : ApiSource) : List String :=
  sortedNames ((source.functions.flatMap ClientFunction.types).filterMap TypeExpr.declared?)

def importText (source : ApiSource) : String :=
  "import \x7b " ++ source.helper.name ++ " \x7d from " ++ Json.quote source.helper.source ++ ";\n" ++
    (if source.imports.isEmpty then ""
    else "import type \x7b " ++ ", ".intercalate source.imports ++ " \x7d from \"./model\";\n")

def text (source : ApiSource) : String :=
  source.importText ++ String.join (source.functions.map fun function => "\n" ++ function.text source.helper)

end ApiSource

/-- All actions are bound before the first function is made. -/
def apiSource (types : TypeMap) (names : TypeNames) (helper : Helper) (controller : Controller) :
    Traced ApiSource := do
  let bindings ← controller.bind
  let functions ← Traced.ofExcept (clientFunctions types names helper
    (functionNames names helper controller.actions) (controller.actions.zip bindings))
  pure ⟨helper, functions⟩

end ApiProxy.Script
