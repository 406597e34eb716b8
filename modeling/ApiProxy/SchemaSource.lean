import ApiProxy.FileSystem
import ApiProxy.Schema.Decoding
import ApiProxy.Unicode.Letter
import ApiProxy.Url.Relative

/-! Where a schema comes from: a file, or the definition that a service answers with. A service answers with its
definition at a fixed place below its own address, whatever query or fragment the address carries. -/

namespace ApiProxy

namespace Endpoint

def path : String := "api/abp/api-definition"

/-- An answer without the types would be of no use. -/
def query : String := "includeTypes=true"

def parseAddress (address : String) : Except Failure Url :=
  (Url.parse (Unicode.trimmed address)).mapError (.invalidUrl address)

/-- The URL of the definition for the service at an address. -/
def ofAddress (address : String) : Except Failure Url := do
  let base ← parseAddress address
  let joined ← ({ base.endedBySlash with query? := none }.join path).mapError (.invalidUrl address)
  .ok (joined.withEntry query)

end Endpoint

/-- The answer of a server to a request. -/
structure Answer where
  status : Nat
  body : String
deriving DecidableEq, Repr

namespace Answer

def isSuccess (answer : Answer) : Bool := 200 ≤ answer.status && answer.status < 300

def schema (answer : Answer) (url : Url) : Except Failure Schema :=
  if answer.isSuccess then (Schema.read answer.body).mapError .unparsable
  else .error (.refused url.text answer.status answer.body)

end Answer

/-- The path of a file on this machine. A path that ends in a drive letter names the root of the drive. -/
def Url.filePath? (url : Url) : Option FilePath :=
  match url.authority?, url.path with
  | _, .bare _ => none
  | authority?, .rooted segments =>
    if authority?.all fun authority => authority.host.isEmpty || authority.host = localHost then
      let bytes := segments.flatMap fun segment => String.utf8EncodeChar '/' ++ percentDecode segment.toList
      let text := Unicode.decodeLossy bytes
      let endsAtDrive := 2 < text.length && isDriveLetter (text.drop (text.length - 2))
      some ⟨String.ofList (if endsAtDrive then text ++ ['/'] else text)⟩
    else none

structure SchemaSource where
  address : Url
deriving DecidableEq, Repr

namespace SchemaSource

def ofAddress (address : String) : Except Failure SchemaSource := do
  .ok ⟨← Endpoint.parseAddress address⟩

def isFile (source : SchemaSource) : Bool := source.address.isFile

/-- The URL that the schema is asked for at. It is found from the text of the address, which is read once more. -/
def definition (source : SchemaSource) : Except Failure Url :=
  if source.isFile then .ok source.address else Endpoint.ofAddress source.address.text

def location (source : SchemaSource) : String :=
  match source.definition with
  | .ok url => url.text
  | .error _ => source.address.text

variable {m : Type → Type} [Monad m]

def readFile (source : SchemaSource) (system : FileSystem m) : m (Except Failure Schema) := do
  match source.address.filePath? with
  | none => pure (.error (.settings (.notFileUrl source.address.text)))
  | some path => do
    match ← system.read path with
    | .ok text => pure ((Schema.read text).mapError .unparsable)
    | .error cause => pure (.error (.unreadable path.text cause))

def ask (source : SchemaSource) (request : Url → m (Except String Answer)) : m (Except Failure Schema) := do
  match source.definition with
  | .error failure => pure (.error failure)
  | .ok url => do
    match ← request url with
    | .ok answer => pure (answer.schema url)
    | .error reason => pure (.error (.unreachable reason))

def fetch (source : SchemaSource) (system : FileSystem m) (request : Url → m (Except String Answer)) :
    m (Except Failure Schema) :=
  if source.isFile then source.readFile system else source.ask request

end SchemaSource

end ApiProxy
