import ApiProxy.FileSystem

/-! Trees of directories and files, and how they answer. A path is walked from its start: every name but the
last has to be a directory that exists, a dot stays where it is and two dots lead to the parent. -/

namespace ApiProxy

inductive Entry where
  | file (content : String)
  | directory
deriving DecidableEq, Repr

/-- The entries of a tree under the names that lead to them from the root. The root is a directory. -/
structure FileTree where
  entries : List (List String × Entry)
deriving DecidableEq, Repr

namespace FileTree

def entry? (tree : FileTree) (place : List String) : Option Entry :=
  if place = [] then some .directory else tree.entries.lookup place

def remove (tree : FileTree) (place : List String) : FileTree :=
  ⟨tree.entries.filter fun entry => entry.1 ≠ place⟩

def put (tree : FileTree) (place : List String) (entry : Entry) : FileTree :=
  ⟨(place, entry) :: (tree.remove place).entries⟩

def longestName : Nat := 255

def longestPath : Nat := 4095

/-- A place is passed through only if it is a directory. -/
def enter (tree : FileTree) (place : List String) : Except SystemError Unit :=
  match tree.entry? place with
  | some .directory => .ok ()
  | some (.file _) => .error .notDirectory
  | none => .error .notFound

def checkName (name : String) : Except SystemError Unit :=
  if longestName < name.utf8ByteSize then .error .nameTooLong else .ok ()

/-- Where a path leads; its last name need not exist. -/
def walk (tree : FileTree) (place : List String) : List String → Except SystemError (List String)
  | [] => .ok place
  | name :: names => do
    tree.enter place
    if name = "" || name = "." then tree.walk place names
    else if name = ".." then tree.walk place.dropLast names
    else
      checkName name
      tree.walk (place ++ [name]) names

def names (path : FilePath) : List String := (FilePath.stretches path.text.toList).map String.ofList

def checkPath (path : FilePath) : Except SystemError Unit :=
  if path.text.toList.contains '\x00' then .error .nulInName
  else if path.text.isEmpty then .error .notFound
  else if longestPath < path.text.utf8ByteSize then .error .nameTooLong
  else .ok ()

def start (current : List String) (path : FilePath) : List String := if path.isAbsolute then [] else current

def find (tree : FileTree) (current : List String) (path : FilePath) : Except SystemError Entry := do
  checkPath path
  match tree.entry? (← tree.walk (start current path) (names path)) with
  | some entry => .ok entry
  | none => .error .notFound

/-- What the end of a path names: a name in a directory, or a directory by dots. -/
structure Target where
  directory : List String
  name? : Option String
  hasSlash : Bool
deriving DecidableEq, Repr

def Target.place (target : Target) : List String := target.directory ++ target.name?.toList

def target (tree : FileTree) (current : List String) (path : FilePath) : Except SystemError Target := do
  checkPath path
  let reversed := (names path).reverse
  let hasSlash := reversed.head? = some ""
  match reversed.dropWhile (· = "") with
  | [] => .ok ⟨[], none, hasSlash⟩
  | last :: earlier =>
    let directory ← tree.walk (start current path) earlier.reverse
    tree.enter directory
    if last = "." || last = ".." then .ok ⟨directory, none, hasSlash⟩
    else
      checkName last
      .ok ⟨directory, some last, hasSlash⟩

def createDirectory (tree : FileTree) (current : List String) (path : FilePath) :
    Except SystemError FileTree := do
  let target ← tree.target current path
  if target.name? = none || (tree.entry? target.place).isSome then .error .alreadyExists
  else .ok (tree.put target.place .directory)

def write (tree : FileTree) (current : List String) (path : FilePath) (content : String) :
    Except SystemError FileTree := do
  let target ← tree.target current path
  if target.name? = none || target.hasSlash || tree.entry? target.place = some .directory then .error .isDirectory
  else .ok (tree.put target.place (.file content))

/-- Gives a file another name. -/
def rename (tree : FileTree) (current : List String) (path newPath : FilePath) : Except SystemError FileTree := do
  let source ← tree.target current path
  let target ← tree.target current newPath
  match tree.entry? source.place with
  | some (.file content) =>
    if target.name? = none then .error .busy
    else if source.hasSlash || target.hasSlash then .error .notDirectory
    else if tree.entry? target.place = some .directory then .error .isDirectory
    else .ok ((tree.remove source.place).put target.place (.file content))
  | some .directory => .error .busy
  | none => .error .notFound

/-- A change that fails has no effect. -/
def change (next : FileTree → Except SystemError FileTree) : StateM FileTree (Except SystemError Unit) := fun tree =>
  match next tree with
  | .ok changed => (.ok (), changed)
  | .error cause => (.error cause, tree)

def content : Entry → Except SystemError String
  | .file content => .ok content
  | .directory => .error .isDirectory

/-- The tree as a file system; relative paths start at the directory `current`. -/
def system (current : List String) : FileSystem (StateM FileTree) where
  read path := do return (← get).find current path >>= content
  isFile path := do
    match (← get).find current path with
    | .ok (.file _) => pure true
    | _ => pure false
  isDirectory path := do
    match (← get).find current path with
    | .ok .directory => pure true
    | _ => pure false
  createDirectory path := change fun tree => tree.createDirectory current path
  write path content := change fun tree => tree.write current path content
  rename path newPath := change fun tree => tree.rename current path newPath

end FileTree

end ApiProxy
