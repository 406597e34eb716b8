import ApiProxy.Json.Decoding

/-! What can keep a run from succeeding, and how it is reported. -/

namespace ApiProxy

/-- Why a text is no URL. -/
inductive Url.Failure where
  | emptyHost
  | invalidDomainName
  | invalidPort
  | invalidIpv4
  | invalidIpv6
  | invalidHostCharacter
  | relativeWithoutBase
  | relativeToOpaquePath
deriving DecidableEq, Repr

def Url.Failure.message : Url.Failure → String
  | emptyHost => "empty host"
  | invalidDomainName => "invalid international domain name"
  | invalidPort => "invalid port number"
  | invalidIpv4 => "invalid IPv4 address"
  | invalidIpv6 => "invalid IPv6 address"
  | invalidHostCharacter => "invalid domain character"
  | relativeWithoutBase => "relative URL without a base"
  | relativeToOpaquePath => "relative URL with a cannot-be-a-base base"

/-- Answers of the file system other than success. -/
inductive SystemError where
  | notFound
  | busy
  | alreadyExists
  | notDirectory
  | isDirectory
  | nameTooLong
  | nulInName
  | other (message : String)
deriving DecidableEq, Repr

def SystemError.message : SystemError → String
  | notFound => "No such file or directory (os error 2)"
  | busy => "Device or resource busy (os error 16)"
  | alreadyExists => "File exists (os error 17)"
  | notDirectory => "Not a directory (os error 20)"
  | isDirectory => "Is a directory (os error 21)"
  | nameTooLong => "File name too long (os error 36)"
  | nulInName => "file name contained an unexpected NUL byte"
  | other message => message

inductive SettingsFault where
  | zeroTimeout
  | helperNotIdentifier (name : String)
  | unreadableFile (path : String)
  | notFileUrl (url : String)
deriving DecidableEq, Repr

def SettingsFault.message : SettingsFault → String
  | zeroTimeout => "timeout must be at least one second"
  | helperNotIdentifier name => s!"typescript.http_client_function '{name}' is not a valid identifier"
  | unreadableFile path => s!"{path}: TOML parse error"
  | notFileUrl url => s!"'{url}' is not a valid file URL"

inductive Failure where
  | missingArgument (name : String)
  | invalidModule (requested : String) (available : List String)
  | unsupportedType (typeId kind : String)
  | missingPathParameter (controller action placeholder : String)
  | multipleBodyParameters (controller action : String) (names : List String)
  | unknownType (typeId : String)
  | circularAlias (typeId : String)
  | emptyPathSegment (field value : String)
  | settings (fault : SettingsFault)
  | unreadable (path : String) (cause : SystemError)
  | unwritable (path : String) (cause : SystemError)
  | invalidUrl (url : String) (cause : Url.Failure)
  | unreachable (reason : String)
  | refused (url : String) (status : Nat) (body : String)
  | unparsable (error : Json.ReadError)
deriving DecidableEq, Repr

/-- The word that stands for a kind of failure in reports. -/
def Failure.label : Failure → String
  | missingArgument .. => "MissingArgument"
  | invalidModule .. => "InvalidModule"
  | unsupportedType .. => "UnsupportedType"
  | missingPathParameter .. => "MissingPathParameter"
  | multipleBodyParameters .. => "MultipleBodyParameters"
  | unknownType .. => "UnknownType"
  | circularAlias .. => "CircularAlias"
  | emptyPathSegment .. => "EmptyPathSegment"
  | settings .. => "ConfigError"
  | unreadable .. => "ReadError"
  | unwritable .. => "WriteError"
  | invalidUrl .. => "InvalidUrl"
  | unreachable .. => "Fetch"
  | refused .. => "FetchStatus"
  | unparsable .. => "SchemaParse"

namespace Json

def Fault.message : Fault → String
  | malformed => "the text is not a document"
  | truncated => "the text ends inside a document"

def ReadError.message : ReadError → String
  | fault cause => cause.message
  | mismatch cause => cause.message

end Json

def Failure.message : Failure → String
  | missingArgument name => s!"Missing required argument: --{name}"
  | invalidModule requested available =>
    s!"Module name: {requested} is invalid. Available modules: " ++ ", ".intercalate available
  | unsupportedType typeId kind => s!"Unsupported type '{typeId}': primitive kind '{kind}' has no mapping"
  | missingPathParameter controller action placeholder =>
    s!"Action '{controller}.{action}' has URL placeholder '\x7b{placeholder}\x7d' without a matching path parameter"
  | multipleBodyParameters controller action names =>
    s!"Action '{controller}.{action}' binds more than one parameter to the body: " ++ ", ".intercalate names
  | unknownType typeId => s!"Type '{typeId}' is referenced but not defined in the schema"
  | circularAlias typeId => s!"Type '{typeId}' is part of a reference cycle with no concrete type"
  | emptyPathSegment field value => s!"Cannot derive an output path segment from {field} '{value}'"
  | settings fault => "Invalid configuration: " ++ fault.message
  | unreadable path cause => s!"Failed to read '{path}': " ++ cause.message
  | unwritable path cause => s!"Failed to write output file '{path}': " ++ cause.message
  | invalidUrl url cause => s!"Invalid URL '{url}': " ++ cause.message
  | unreachable reason => "Failed to fetch API definition: " ++ reason
  | refused url status body => s!"API definition request to '{url}' failed with HTTP {status}: {body}"
  | unparsable error => "Failed to parse API definition: " ++ error.message

end ApiProxy
