import ApiProxy.Pieces

/-! File paths as texts with slashes. Repeated and trailing slashes and single dots inside a path carry no
meaning; a leading dot and double dots do. Paths are compared by their components and shown as they are
spelled. -/

namespace ApiProxy

structure FilePath where
  text : String
deriving DecidableEq, Repr, Inhabited

namespace FilePath

inductive Component where
  | root
  | current
  | parent
  | name (text : String)
deriving DecidableEq, Repr

/-- The stretches of a path between its slashes. -/
def stretches (text : List Char) : List (List Char) := pieces (· = '/') text

def isAbsoluteText (text : List Char) : Bool := text.head? = some '/'

def isAbsolute (path : FilePath) : Bool := isAbsoluteText path.text.toList

def pieceComponent? (piece : List Char) : Option Component :=
  if piece = [] then none
  else if piece = ['.'] then none
  else if piece = ['.', '.'] then some .parent
  else some (.name (String.ofList piece))

def components (path : FilePath) : List Component :=
  let body := (stretches path.text.toList).filterMap pieceComponent?
  if path.isAbsolute then .root :: body
  else if (stretches path.text.toList).head? = some ['.'] then .current :: body
  else body

/-- Paths with the same components name the same place. -/
def same (a b : FilePath) : Bool := a.components == b.components

/-- An absolute path replaces the path it is joined to. -/
def join (base : FilePath) (part : String) : FilePath :=
  if isAbsoluteText part.toList then ⟨part⟩
  else if base.text.isEmpty || base.text.toList.getLast? = some '/' then ⟨base.text ++ part⟩
  else ⟨base.text ++ "/" ++ part⟩

/-- Whether a piece is no component; the pieces before it are reversed. -/
def isInsignificant (isRooted : Bool) (piece : List Char) (earlier : List (List Char)) : Bool :=
  piece = [] || (piece = ['.'] && (isRooted || !earlier.isEmpty))

/-- Takes the pieces off the end, the latest first, that are no components. -/
def dropInsignificant (isRooted : Bool) : List (List Char) → List (List Char)
  | [] => []
  | piece :: earlier =>
    if isInsignificant isRooted piece earlier then dropInsignificant isRooted earlier else piece :: earlier

/-- The pieces of a path behind the root, the last component first. -/
def significantPieces (path : FilePath) : List (List Char) :=
  let parts := stretches path.text.toList
  dropInsignificant path.isAbsolute (if path.isAbsolute then parts.tail else parts).reverse

def ofPieces (isRooted : Bool) (reversed : List (List Char)) : FilePath :=
  ⟨String.ofList (if isRooted then '/' :: joinPieces '/' reversed.reverse else joinPieces '/' reversed.reverse)⟩

/-- The path without its last component; the root and the empty path have no parent. -/
def parent? (path : FilePath) : Option FilePath :=
  match path.significantPieces with
  | [] => none
  | _ :: earlier => some (ofPieces path.isAbsolute (dropInsignificant path.isAbsolute earlier))

def ancestorsOf (isRooted : Bool) : List (List Char) → List FilePath
  | [] => []
  | piece :: earlier =>
    if isInsignificant isRooted piece earlier then ancestorsOf isRooted earlier
    else ofPieces isRooted (piece :: earlier) :: ancestorsOf isRooted earlier

/-- The path itself, its parent, and so on, without the root and the empty path. -/
def ancestors (path : FilePath) : List FilePath := ancestorsOf path.isAbsolute path.significantPieces

/-- The part of a file name in front of its last dot; a dot at the start is part of the name. -/
def stem (name : List Char) : List Char :=
  match name.reverse.dropWhile (· ≠ '.') with
  | _ :: before => if before.isEmpty then name else before.reverse
  | [] => name

/-- Puts another extension on the last component, if that is a name. -/
def withExtension (path : FilePath) (extension : String) : FilePath :=
  match path.significantPieces with
  | [] => path
  | name :: earlier =>
    if name = ['.'] || name = ['.', '.'] then path
    else ofPieces path.isAbsolute ((stem name ++ '.' :: extension.toList) :: earlier)

end FilePath

end ApiProxy
