import ApiProxy.Generation

/-! A whole run: take the schema, select the module, generate its files and write them. Nothing is written
before everything is generated, and the first write that fails ends the run. -/

namespace ApiProxy

structure RunRequest where
  module : String
  output : FilePath
  isDryRun : Bool
  helper : Script.Helper
deriving DecidableEq, Repr

structure Summary where
  module : String
  controllers : Nat
  files : List FilePath
  output : StagedOutput
deriving DecidableEq, Repr

variable {m : Type → Type} [Monad m]

/-- Writes files in turn until one fails. -/
def writeAll (write : FilePath → String → m (Except Failure Unit)) :
    List OutputFile → m (Traced (List FilePath))
  | [] => pure (pure [])
  | file :: files => do
    match ← write file.path file.content with
    | .error failure => pure (.ofExcept (.error failure))
    | .ok () =>
      let written ← writeAll write files
      pure (do
        Traced.report (.fileWritten file.path)
        let paths ← written
        pure (file.path :: paths))

/-- What a run makes of its schema before it writes anything. -/
def RunRequest.prepare (request : RunRequest) (location : String) (fetched : Except Failure Schema) :
    Traced (Selection × StagedOutput) := do
  Traced.report (.fetchingSchema location)
  let schema ← Traced.ofExcept fetched
  let selection ← Traced.ofExcept (schema.select request.module)
  Traced.report (.moduleSelected selection.key selection.module.controllers.entries.length)
  let output ← generate request.helper request.output selection
  pure (selection, output)

/-- Carries a run out, taking the schema and writing files by the given actions. -/
def RunRequest.run (request : RunRequest) (location : String) (fetch : m (Except Failure Schema))
    (write : FilePath → String → m (Except Failure Unit)) : m (Traced Summary) := do
  let prepared := request.prepare location (← fetch)
  match prepared.outcome with
  | .error failure => pure ⟨prepared.notices, .error failure⟩
  | .ok (selection, output) =>
    let written ← if request.isDryRun then pure (pure []) else writeAll write output.files
    pure (do
      let _ ← prepared
      let files ← written
      Traced.report (.completed selection.key output.size)
      pure ⟨selection.key, selection.module.controllers.entries.length, files, output⟩)

end ApiProxy
