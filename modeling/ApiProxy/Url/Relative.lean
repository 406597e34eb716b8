import ApiProxy.Url.Parser

/-! URLs made from other ones: with another path, with one more entry in the query, or by a relative path, which
takes the place of the last segment. A new path is read as it would be in the text of a URL. -/

namespace ApiProxy.Url

def isFile (url : Url) : Bool := url.scheme = fileScheme

def withPath (url : Url) (path : String) : Url :=
  match url.path with
  | .bare _ => { url with path := .bare (String.ofList (percentEncode isUnprintable path.toList)) }
  | .rooted _ =>
    let segments := segmentsOf (isSpecial url.scheme) url.isFile path.toList
    { url with path := rootedPath (if url.isFile then withoutEmptyStart segments else segments) }

/-- The same URL with a slash at the end of its path. -/
def endedBySlash (url : Url) : Url :=
  if url.path.text.toList.getLast? = some '/' then url else url.withPath (url.path.text ++ "/")

/-- The segments of a path but the last one, reversed. The letter of a drive is kept. -/
def segmentsBefore (isFile : Bool) (segments : List String) : List (List Char) :=
  let reversed := segments.reverse.map String.toList
  if isFile then goUp reversed else reversed.tail

/-- Follows a relative path, which has neither a scheme nor a slash in front. -/
def join (url : Url) (path : String) : Except Failure Url :=
  match url.path with
  | .bare _ => .error .relativeToOpaquePath
  | .rooted segments =>
    let steps := pieces (isSlash (isSpecial url.scheme)) path.toList
    .ok { url with
      path := rootedPath (resolveSegments url.isFile (segmentsBefore url.isFile segments) steps)
      query? := none
      fragment? := none }

def withEntry (url : Url) (entry : String) : Url :=
  { url with query? := some (match url.query? with
    | none => entry
    | some "" => entry
    | some query => query ++ "&" ++ entry) }

end ApiProxy.Url
