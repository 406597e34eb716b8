import ApiProxy.Failure
import ApiProxy.FilePath

/-! File systems as the actions that they offer, and writing a file by them so that its old content stays until
the new content is complete: the content goes to a temporary file beside the target, which then takes the
target's place. -/

namespace ApiProxy

structure FileSystem (m : Type → Type) where
  read : FilePath → m (Except SystemError String)
  isFile : FilePath → m Bool
  isDirectory : FilePath → m Bool
  createDirectory : FilePath → m (Except SystemError Unit)
  write : FilePath → String → m (Except SystemError Unit)
  rename : FilePath → FilePath → m (Except SystemError Unit)

namespace FileSystem

variable {m : Type → Type} [Monad m]

/-- Creates a directory, or finds it there. -/
def ensureDirectory (system : FileSystem m) (path : FilePath) : m (Except SystemError Unit) := do
  match ← system.createDirectory path with
  | .error .alreadyExists => do
    if ← system.isDirectory path then pure (.ok ()) else pure (.error .alreadyExists)
  | answer => pure answer

/-- Creates a directory, after those that it lacks; each path in the list is the parent of the one before. -/
def ensureDirectories (system : FileSystem m) : List FilePath → m (Except SystemError Unit)
  | [] => pure (.ok ())
  | path :: outer => do
    match ← system.ensureDirectory path with
    | .error .notFound => do
      match ← system.ensureDirectories outer with
      | .ok () => system.ensureDirectory path
      | failed => pure failed
    | answer => pure answer

def temporaryExtension : String := "tmp"

def ensureParent (system : FileSystem m) (path : FilePath) : m (Except Failure Unit) := do
  match path.parent? with
  | none => pure (.ok ())
  | some parent => do
    let answer ← system.ensureDirectories parent.ancestors
    pure (answer.mapError (.unwritable parent.text))

/-- Writes a file in one step, creating its parent directories. -/
def replace (system : FileSystem m) (path : FilePath) (content : String) : m (Except Failure Unit) := do
  match ← system.ensureParent path with
  | .error failure => pure (.error failure)
  | .ok () =>
    let temporary := path.withExtension temporaryExtension
    match ← system.write temporary content with
    | .error cause => pure (.error (.unwritable temporary.text cause))
    | .ok () => do
      let answer ← system.rename temporary path
      pure (answer.mapError (.unwritable path.text))

end FileSystem

end ApiProxy
