import ApiProxy.FilePath
import ApiProxy.Script.Files
import ApiProxy.Staging

/-! The files of all controllers of a module. Below the output root they go into a directory for the service and in
it one for the group of the controller, both named in kebab case. Controllers are taken in the order of their
declaration; both files of a controller are made before the first of them is staged. -/

namespace ApiProxy

structure OutputPaths where
  model : FilePath
  api : FilePath
deriving DecidableEq, Repr

def pathSegment (field value : String) : Except Failure String :=
  let segment := kebabCase value
  if segment.isEmpty then .error (.emptyPathSegment field value) else .ok segment

def outputPaths (root : FilePath) (serviceName groupName extension : String) : Except Failure OutputPaths := do
  let service ← pathSegment "remoteServiceName" serviceName
  let group ← pathSegment "controllerGroupName" groupName
  let directory := (root.join service).join group
  let fileName := "index." ++ extension
  .ok ⟨(directory.join "model").join fileName, directory.join fileName⟩

/-- Stages one file and reports it, and a collision if it replaces an earlier file. -/
def stageFile (output : StagedOutput) (file : OutputFile) : Traced StagedOutput := do
  Traced.report (.fileGenerated file.controller file.kind file.path)
  let (staged, replaced) := output.stage file
  match replaced with
  | some previous => Traced.report (.pathCollision file.path previous.controller file.controller)
  | none => pure ()
  pure staged

/-- What is made for one controller: the paths and contents of its two files. -/
structure ControllerFiles where
  paths : OutputPaths
  model : String
  api : String
deriving DecidableEq, Repr

def controllerFiles (helper : Script.Helper) (root : FilePath) (selection : Selection)
    (controller : Controller) : Traced ControllerFiles := do
  let resolved ← Traced.ofExcept (selection.types.neededBy controller)
  let model ← Traced.ofExcept (Script.modelFile helper selection controller resolved)
  let api ← Script.apiFile helper selection controller resolved
  let paths ← Traced.ofExcept
    (outputPaths root selection.module.serviceName controller.groupName Script.extension)
  pure ⟨paths, model, api⟩

def generateController (helper : Script.Helper) (root : FilePath) (selection : Selection)
    (output : StagedOutput) (controller : Controller) : Traced StagedOutput := do
  Traced.report (.controllerStarted controller.name)
  let files ← controllerFiles helper root selection controller
  let output ← stageFile output ⟨files.paths.model, files.model, .model, controller.name⟩
  stageFile output ⟨files.paths.api, files.api, .api, controller.name⟩

def generateFrom (helper : Script.Helper) (root : FilePath) (selection : Selection) (output : StagedOutput) :
    List Controller → Traced StagedOutput
  | [] => pure output
  | controller :: controllers => do
    let output ← generateController helper root selection output controller
    generateFrom helper root selection output controllers

def generate (helper : Script.Helper) (root : FilePath) (selection : Selection) : Traced StagedOutput :=
  generateFrom helper root selection .empty (selection.module.controllers.entries.map Prod.snd)

end ApiProxy
