import ApiProxy.Progress

/-! Files that are ready to be written. A file staged under the path of an earlier one takes its place in the
order, and the earlier spelling of the path stays. -/

namespace ApiProxy

structure OutputFile where
  path : FilePath
  content : String
  kind : FileKind
  controller : String
deriving DecidableEq, Repr

/-- The staged files, each with the path under which its place was first taken. -/
structure StagedOutput where
  entries : List (FilePath × OutputFile)
deriving DecidableEq, Repr

namespace StagedOutput

def empty : StagedOutput := ⟨[]⟩

def paths (output : StagedOutput) : List FilePath := output.entries.map Prod.fst

def files (output : StagedOutput) : List OutputFile := output.entries.map Prod.snd

def size (output : StagedOutput) : Nat := output.entries.length

def isEmpty (output : StagedOutput) : Bool := output.entries.isEmpty

def get? (output : StagedOutput) (path : FilePath) : Option OutputFile :=
  (output.entries.find? fun entry => entry.1.same path).map Prod.snd

def putFile (file : OutputFile) : List (FilePath × OutputFile) → List (FilePath × OutputFile)
  | [] => [(file.path, file)]
  | (path, earlier) :: rest =>
    if path.same file.path then (path, file) :: rest else (path, earlier) :: putFile file rest

/-- Stages a file and gives back the one it replaces. -/
def stage (output : StagedOutput) (file : OutputFile) : StagedOutput × Option OutputFile :=
  (⟨putFile file output.entries⟩, output.get? file.path)

def listing (output : StagedOutput) : String :=
  String.join (output.files.map fun file => "=== " ++ file.path.text ++ " ===\n" ++ file.content ++ "\n")

end StagedOutput

end ApiProxy
