import ApiProxy.Http
import ApiProxy.Program
import Std.Async.DNS
import Std.Async.TCP
import Std.Async.Timer

/-! The command line program: its surroundings are those of the process. Servers are asked over TCP. -/

namespace ApiProxy

open Std.Async Std.Net

namespace SystemError

def ofError (error : IO.Error) : SystemError :=
  match error with
  | .noFileOrDirectory .. => notFound
  | .alreadyExists .. => alreadyExists
  | .resourceBusy .. => busy
  | .inappropriateType _ code _ => if code = 21 then isDirectory else notDirectory
  | .invalidArgument _ code _ => if code = 36 then nameTooLong else other (toString error)
  | _ => other (toString error)

end SystemError

namespace Session

def answer {α : Type} (action : IO α) : IO (Except SystemError α) := do
  try
    return .ok (← action)
  catch error => return .error (SystemError.ofError error)

def textOf (bytes : ByteArray) : Except SystemError String :=
  match String.fromUTF8? bytes with
  | some text => .ok text
  | none => .error (.other "stream did not contain valid UTF-8")

def isOfKind (kind : IO.FS.FileType) (path : FilePath) : IO Bool := do
  try
    let found ← ((← IO.currentDir) / path.text).metadata
    return found.type == kind
  catch _ => return false

def files : FileSystem IO where
  read path := do
    match ← answer (IO.FS.readBinFile path.text) with
    | .ok bytes => return textOf bytes
    | .error cause => return .error cause
  isFile path := isOfKind .file path
  isDirectory path := isOfKind .dir path
  createDirectory path := answer (IO.FS.createDir path.text)
  write path content := answer (IO.FS.writeFile path.text content)
  rename path newPath := answer (IO.FS.rename path.text newPath.text)

/-! ### Servers -/

def hostName : Url.Host → String
  | .name text => text
  | .ipv4 address => Url.ipv4Text address
  | .ipv6 pieces => Url.ipv6Text pieces

def socketAddress (address : IPAddr) (port : Nat) : SocketAddress :=
  match address with
  | .v4 address => .v4 ⟨address, port.toUInt16⟩
  | .v6 address => .v6 ⟨address, port.toUInt16⟩

partial def receive (client : TCP.Socket.Client) (received : List UInt8) : Async (List UInt8) := do
  match ← client.recv? 65536 with
  | some bytes => receive client (bytes.toList.reverse ++ received)
  | none => return received.reverse

def exchange (url : Url) (authority : Url.Authority) : Async (Except String Answer) := do
  let port := (authority.port? <|> Url.defaultPort? url.scheme).getD 80
  let addresses ← DNS.getAddrInfo (hostName authority.host) (toString port)
  match addresses[0]? with
  | none => return .error "the host has no address"
  | some address =>
    let client ← TCP.Socket.Client.mk
    client.connect (socketAddress address port)
    client.send (Http.requestText url).toUTF8
    return Http.answerOfBytes (← receive client [])

def expire (timeout : Nat) : Async (Except String Answer) := do
  sleep (.ofNat (timeout * 1000))
  return .error "the time is over"

def request (timeout : Nat) (url : Url) : IO (Except String Answer) := do
  match url.authority? with
  | none => return .error "there is no host to ask"
  | some authority =>
    if url.scheme = "http" then
      try
        (Async.race (exchange url authority) (expire timeout)).block
      catch error => return .error (toString error)
    else return .error "the scheme cannot be asked"

/-! ### The process -/

def assignment (text : List Char) : String × String :=
  match cutAt '=' text with
  | (name, value?) => (String.ofList name, String.ofList (value?.getD []))

def environment : IO Settings.Environment := do
  let bytes ← IO.FS.readBinFile "/proc/self/environ"
  let texts := pieces (· = '\x00') (Unicode.decodeLossy bytes.toList)
  return (texts.filter fun text => !text.isEmpty).map assignment

def surroundings : IO (Surroundings IO) := do
  return { files, directory := ⟨toString (← IO.currentDir)⟩, request }

def present (report : Report) : IO UInt32 := do
  for line in report.log do
    IO.eprintln line
  IO.print report.output
  match report.ending with
  | .failed failure => IO.eprintln s!"Error: {failure.label}: {failure.message}"
  | .refused refusal => IO.eprint refusal.message
  | .finished _ => pure ()
  return report.ending.exitCode.toUInt32

end Session

end ApiProxy

def main (arguments : List String) : IO UInt32 := do
  let surroundings ← ApiProxy.Session.surroundings
  let report ← surroundings.perform arguments (← ApiProxy.Session.environment)
  ApiProxy.Session.present report
