import ApiProxy.Url.Basic

/-! Reading URLs as the URL standard lays down, without a base. Tabs and line breaks have no meaning in a URL. The
special schemes take a backslash for a slash and any number of slashes in front of the host; a `file` URL may
leave its host out, keeps no empty segments at the start of its path, and takes a drive letter there for the
root of the path instead of a host. -/

namespace ApiProxy.Url

def isOuterBlank (c : Char) : Bool := c.toNat ≤ 0x20

def isInnerBlank (c : Char) : Bool := c = '\t' || c = '\n' || c = '\r'

def cleaned (text : List Char) : List Char :=
  let started := text.dropWhile isOuterBlank
  ((started.reverse.dropWhile isOuterBlank).reverse).filter fun c => !isInnerBlank c

def isSchemeCharacter (c : Char) : Bool := c.isAlphanum || c = '+' || c = '-' || c = '.'

/-- The scheme in lower case, and what stands behind its colon. -/
def cutScheme? (text : List Char) : Option (String × List Char) :=
  match cutAt ':' text with
  | (name, some rest) =>
    if name.head?.any Char.isAlpha && name.all isSchemeCharacter then some (String.ofList (name.map Char.toLower), rest)
    else none
  | (_, none) => none

/-! ### Paths -/

def isSingleDot (segment : List Char) : Bool := segment.map Char.toLower ∈ [['.'], ['%', '2', 'e']]

def isDoubleDot (segment : List Char) : Bool :=
  segment.map Char.toLower ∈
    [['.', '.'], ['.', '%', '2', 'e'], ['%', '2', 'e', '.'], ['%', '2', 'e', '%', '2', 'e']]

def isDriveLetter (segment : List Char) : Bool :=
  match segment with
  | [letter, mark] => letter.isAlpha && (mark = ':' || mark = '|')
  | _ => false

/-- Goes up one segment, but not above a drive letter; the segments are reversed. -/
def goUp (segments : List (List Char)) : List (List Char) :=
  match segments with
  | [] => []
  | last :: earlier => if isDriveLetter last then last :: earlier else earlier

/-- A drive letter at the start of a path is written with a colon. -/
def written (isFile : Bool) (segments : List (List Char)) (segment : List Char) : List Char :=
  let encoded := percentEncode isEncodedInPath segment
  if isFile && segments.isEmpty && isDriveLetter encoded then encoded.take 1 ++ [':'] else encoded

/-- Resolves the pieces of a path against the reversed segments before them. A dot segment at the end leaves
an empty segment behind. -/
def resolveSegments (isFile : Bool) (segments : List (List Char)) : List (List Char) → List (List Char)
  | [] => segments.reverse
  | piece :: later =>
    let close (kept : List (List Char)) : List (List Char) := if later.isEmpty then [] :: kept else kept
    if isDoubleDot piece then resolveSegments isFile (close (goUp segments)) later
    else if isSingleDot piece then resolveSegments isFile (close segments) later
    else resolveSegments isFile (written isFile segments piece :: segments) later

def withoutEmptyStart (segments : List (List Char)) : List (List Char) :=
  match segments.dropWhile List.isEmpty with
  | [] => [[]]
  | kept => kept

def rootedPath (segments : List (List Char)) : Path := .rooted (segments.map String.ofList)

def isSlash (isSpecial : Bool) (c : Char) : Bool := c = '/' || (isSpecial && c = '\\')

/-- A path without the slash in front of it. -/
def unrooted (isSpecial : Bool) (text : List Char) : List Char :=
  match text with
  | [] => []
  | c :: rest => if isSlash isSpecial c then rest else c :: rest

def segmentsOf (isSpecial isFile : Bool) (text : List Char) : List (List Char) :=
  resolveSegments isFile [] (pieces (isSlash isSpecial) (unrooted isSpecial text))

/-! ### Authorities -/

def portOf (scheme : String) (digits : List Char) : Except Failure (Option Nat) :=
  if !digits.all Char.isDigit then .error .invalidPort
  else
    let port := digits.foldl (fun port c => port * 10 + (c.toNat - 48)) 0
    if 65535 < port then .error .invalidPort
    else if digits.isEmpty || defaultPort? scheme = some port then .ok none
    else .ok (some port)

/-- Cuts an authority behind the last sign that ends its credentials. -/
def cutCredentials (text : List Char) : Option (List Char) × List Char :=
  match text.reverse.span (· ≠ '@') with
  | (host, _ :: credentials) => (some credentials.reverse, host.reverse)
  | (_, []) => (none, text)

/-- Cuts a host from its port at the first colon that is not in brackets. -/
def cutPort (isInBrackets : Bool) : List Char → List Char × Option (List Char)
  | [] => ([], none)
  | c :: rest =>
    if c = ':' && !isInBrackets then ([], some rest)
    else
      match cutPort (if c = '[' then true else if c = ']' then false else isInBrackets) rest with
      | (host, port) => (c :: host, port)

def credential (text : List Char) : String := String.ofList (percentEncode isEncodedInCredentials text)

def authorityOf (scheme : String) (text : List Char) : Except Failure Authority := do
  let (credentials?, place) := cutCredentials text
  let (username, password?) := cutAt ':' (credentials?.getD [])
  let username := credential username
  let password := credential (password?.getD [])
  let (hostText, portText?) := cutPort false place
  let isServer := (defaultPort? scheme).isSome
  if isServer && hostText.isEmpty then .error .emptyHost
  let host ← if isServer then Host.ofText hostText else Host.ofPlainText hostText
  let needsHost := portText?.isSome || credentials? = some [] || !username.isEmpty || !password.isEmpty
  if host.isEmpty && needsHost then .error .emptyHost
  let port? ← portOf scheme (portText?.getD [])
  .ok { username, password, host, port? }

/-! ### Whole URLs -/

/-- Where a URL leads, without its query and its fragment. -/
structure Place where
  authority? : Option Authority
  path : Path
deriving DecidableEq, Repr

def serverPlace (scheme : String) (text : List Char) : Except Failure Place := do
  let (authority, path) := (text.dropWhile (isSlash true)).span fun c => !isSlash true c
  .ok ⟨some (← authorityOf scheme authority), rootedPath (segmentsOf true false path)⟩

def plainPlace (scheme : String) (text : List Char) : Except Failure Place :=
  match text with
  | '/' :: '/' :: rest => do
    let (authority, path) := rest.span (· ≠ '/')
    let authority ← authorityOf scheme authority
    .ok ⟨some authority, if path.isEmpty then .rooted [] else rootedPath (segmentsOf false false path)⟩
  | '/' :: _ => .ok ⟨none, rootedPath (segmentsOf false false text)⟩
  | _ => .ok ⟨none, .bare (String.ofList (percentEncode isUnprintable text))⟩

def localFile (text : List Char) : Place :=
  ⟨some { host := .name "" }, rootedPath (withoutEmptyStart (segmentsOf true true text))⟩

def localHost : Host := .name "localhost"

/-- The host of a `file` URL, empty where it is this machine. -/
def fileHost (text : List Char) : Except Failure Host :=
  if text.isEmpty then .ok (.name "")
  else do
    let host ← Host.ofText text
    .ok (if host = localHost then .name "" else host)

/-- A host is dropped where the path starts at a drive. -/
def filePlace (text : List Char) : Except Failure Place :=
  match text with
  | first :: second :: rest =>
    if isSlash true first && isSlash true second then do
      let (hostText, path) := rest.span fun c => !isSlash true c
      if isDriveLetter hostText then .ok (localFile rest)
      else
        let host ← fileHost hostText
        let segments := segmentsOf true true path
        let startsAtDrive := segments.head?.any isDriveLetter
        .ok { localFile path with authority? := some { host := if startsAtDrive then .name "" else host } }
    else .ok (localFile text)
  | _ => .ok (localFile text)

def placeOf (scheme : String) (text : List Char) : Except Failure Place :=
  if scheme = fileScheme then filePlace text
  else if isSpecial scheme then serverPlace scheme text
  else plainPlace scheme text

def parse (text : String) : Except Failure Url :=
  match cutScheme? (cleaned text.toList) with
  | none => .error .relativeWithoutBase
  | some (scheme, rest) => do
    let (rest, fragment?) := cutAt '#' rest
    let (rest, query?) := cutAt '?' rest
    let place ← placeOf scheme rest
    let inQuery := if isSpecial scheme then isEncodedInSpecialQuery else isEncodedInQuery
    .ok {
      scheme
      authority? := place.authority?
      path := place.path
      query? := query?.map fun query => String.ofList (percentEncode inQuery query)
      fragment? := fragment?.map fun fragment => String.ofList (percentEncode isEncodedInFragment fragment) }

end ApiProxy.Url
