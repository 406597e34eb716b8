import ApiProxy.Script.ApiFile
import ApiProxy.Script.ModelFile
import ApiProxy.Words

/-! The module that is asked for, and the two files of each of its controllers: a banner, an empty line, and the
declarations or the functions. -/

namespace ApiProxy

/-- One module of a schema, together with the types of the whole schema. -/
structure Selection where
  key : String
  module : Module
  types : TypeMap
deriving DecidableEq

/-- Modules are asked for without regard to the case of ASCII letters; of several that answer, the first declared one
is taken. -/
def Schema.findModule? (schema : Schema) (requested : String) : Option (String × Module) :=
  schema.modules.entries.find? fun entry => sameUpToCase entry.1 requested

def Schema.select (schema : Schema) (requested : String) : Except Failure Selection :=
  match schema.findModule? requested with
  | some (key, module) => .ok ⟨key, module, schema.types⟩
  | none => .error (.invalidModule requested schema.modules.keys)

namespace Script

def banner (moduleKey controllerName : String) : String :=
  "/* eslint-disable */\n" ++
  "// This file was generated by proxygen. Do not edit it by hand.\n" ++
  "// Module: " ++ moduleKey ++ ", controller: " ++ controllerName ++ "\n"

/-- The names of declared types, which must differ from the name of the helper. -/
def fileTypeNames (helper : Helper) (resolved : List ResolvedType) : TypeNames :=
  .assign resolved [helper.name]

def modelFile (helper : Helper) (selection : Selection) (controller : Controller)
    (resolved : List ResolvedType) : Except Failure String :=
  (declarations selection.types (fileTypeNames helper resolved) resolved).map fun found =>
    banner selection.key controller.name ++ "\n" ++ declarationsText found

def apiFile (helper : Helper) (selection : Selection) (controller : Controller)
    (resolved : List ResolvedType) : Traced String := do
  let source ← apiSource selection.types (fileTypeNames helper resolved) helper controller
  pure (banner selection.key controller.name ++ "\n" ++ source.text)

end Script

end ApiProxy
