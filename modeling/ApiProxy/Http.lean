import ApiProxy.SchemaSource

/-! One question and its answer in HTTP 1.1. The connection is not kept, so an answer that does not tell its length
goes on to the end of what is received. -/

namespace ApiProxy.Http

def lineEnd : String := "\r\n"

def requestLine (url : Url) : String := "GET " ++ url.target ++ " HTTP/1.1"

def hostText (authority : Url.Authority) : String :=
  let port := match authority.port? with
    | some port => ":" ++ toString port
    | none => ""
  authority.host.text ++ port

def requestText (url : Url) : String :=
  let host := match url.authority? with
    | some authority => hostText authority
    | none => ""
  String.join ([requestLine url, "accept: */*", "host: " ++ host, "connection: close", ""].map (· ++ lineEnd))

/-- Statuses that come without a body, whatever follows them. -/
def isBodiless (status : Nat) : Bool := status = 101 || status = 204 || status = 304

/-- A status that announces another answer is no answer. -/
def isAnnouncement (status : Nat) : Bool := 100 ≤ status && status < 200 && status ≠ 101

/-- What a status and the bytes of a body amount to, if nothing follows them. -/
def answerOf (status : Nat) (body : List UInt8) : Except String Answer :=
  if isAnnouncement status then .error "the connection was closed before an answer"
  else .ok ⟨status, if isBodiless status then "" else String.ofList (Unicode.decodeLossy body)⟩

/-! ### Reading an answer -/

def carriageReturn : UInt8 := 13

def lineFeed : UInt8 := 10

/-- Takes a line off the front, less its end. -/
def cutLine (bytes : List UInt8) : List Char × List UInt8 :=
  match bytes.span (· ≠ lineFeed) with
  | (line, rest) =>
    let line := if line.getLast? = some carriageReturn then line.dropLast else line
    (Unicode.decodeLossy line, rest.drop 1)

structure Header where
  name : String
  value : List Char
deriving DecidableEq, Repr

def headerOf (line : List Char) : Header :=
  match cutAt ':' line with
  | (name, value?) => ⟨String.ofList (name.map Char.toLower), Unicode.trim (value?.getD [])⟩

/-- The headers in front of an empty line. -/
def readHeaders : Nat → List UInt8 → List Header × List UInt8
  | 0, bytes => ([], bytes)
  | limit + 1, bytes =>
    match cutLine bytes with
    | ([], rest) => ([], rest)
    | (line, rest) =>
      match readHeaders limit rest with
      | (headers, body) => (headerOf line :: headers, body)

def digits? (radix : Nat) (text : List Char) : Option Nat :=
  if text.isEmpty then none else Url.number? radix text

/-- Joins the chunks of a body, each of which has its length in front. -/
def joinChunks : Nat → List UInt8 → Option (List UInt8)
  | 0, _ => none
  | limit + 1, bytes =>
    match cutLine bytes with
    | (line, rest) =>
      (digits? 16 (Unicode.trim (line.takeWhile (· ≠ ';')))).bind fun size =>
        if size = 0 then some []
        else if rest.length < size then none
        else (joinChunks limit (cutLine (rest.drop size)).2).map (rest.take size ++ ·)

def header? (headers : List Header) (name : String) : Option (List Char) :=
  (headers.find? fun header => header.name = name).map Header.value

def bodyOf? (headers : List Header) (bytes : List UInt8) : Option (List UInt8) :=
  if header? headers "transfer-encoding" = some "chunked".toList then joinChunks (bytes.length + 1) bytes
  else
    match header? headers "content-length" with
    | none => some bytes
    | some text =>
      (digits? 10 text).bind fun size => if bytes.length < size then none else some (bytes.take size)

def status? (line : List Char) : Option Nat :=
  match pieces (· = ' ') line with
  | _ :: status :: _ => digits? 10 status
  | _ => none

/-- Reads what a server has sent; announcements of an answer are passed over. -/
def readAnswer : Nat → List UInt8 → Except String Answer
  | 0, _ => .error "the answer does not end"
  | limit + 1, bytes =>
    match cutLine bytes with
    | (line, rest) =>
      match status? line with
      | none => .error "the answer has no status"
      | some status =>
        match readHeaders (rest.length + 1) rest with
        | (headers, rest) =>
          if isAnnouncement status && !rest.isEmpty then readAnswer limit rest
          else if isBodiless status then answerOf status []
          else
            match bodyOf? headers rest with
            | some body => answerOf status body
            | none => .error "the answer is incomplete"

def answerOfBytes (bytes : List UInt8) : Except String Answer := readAnswer (bytes.length + 1) bytes

end ApiProxy.Http
