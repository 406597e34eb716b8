import ApiProxy.Url.Host

/-! URLs in their parts, and their text. The parts are kept in the form in which they are written. -/

namespace ApiProxy

namespace Url

structure Authority where
  username : String := ""
  password : String := ""
  host : Host
  port? : Option Nat := none
deriving DecidableEq, Repr

/-- A path is a text that cannot be a base, or a list of segments behind slashes. -/
inductive Path where
  | bare (text : String)
  | rooted (segments : List String)
deriving DecidableEq, Repr

end Url

structure Url where
  scheme : String
  authority? : Option Url.Authority
  path : Url.Path
  query? : Option String
  fragment? : Option String
deriving DecidableEq, Repr

namespace Url

def Authority.credentialsText (authority : Authority) : String :=
  if authority.username.isEmpty && authority.password.isEmpty then ""
  else if authority.password.isEmpty then authority.username ++ "@"
  else authority.username ++ ":" ++ authority.password ++ "@"

def Authority.text (authority : Authority) : String :=
  let port := match authority.port? with
    | some port => ":" ++ toString port
    | none => ""
  "//" ++ authority.credentialsText ++ authority.host.text ++ port

def Path.text : Path → String
  | bare text => text
  | rooted segments => String.join (segments.map fun segment => "/" ++ segment)

/-- A path that begins with two slashes would be taken for an authority where none stands before it. -/
def separator (url : Url) : String :=
  match url.authority?, url.path with
  | none, .rooted ("" :: _ :: _) => "/."
  | none, _ => ""
  | some authority, _ => authority.text

def marked (mark : String) : Option String → String
  | some text => mark ++ text
  | none => ""

/-- The path and the query, as they are asked for. -/
def target (url : Url) : String := url.path.text ++ marked "?" url.query?

def text (url : Url) : String := url.scheme ++ ":" ++ url.separator ++ url.target ++ marked "#" url.fragment?

def fileScheme : String := "file"

/-- The ports of the schemes that name servers. -/
def defaultPort? (scheme : String) : Option Nat :=
  match scheme with
  | "http" | "ws" => some 80
  | "https" | "wss" => some 443
  | "ftp" => some 21
  | _ => none

def isSpecial (scheme : String) : Bool := scheme = fileScheme || (defaultPort? scheme).isSome

end Url

end ApiProxy
