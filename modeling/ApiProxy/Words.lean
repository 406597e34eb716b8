import ApiProxy.Unicode.Letter
import ApiProxy.Unicode.CaseMap

/-! Names as lists of words. A name is cut at every character that is neither a letter nor a number, and
before an upper-case letter that follows a lower-case letter or a number, or that ends a stretch of
upper-case letters because a lower-case letter comes next. The words are then written again in kebab case for
paths and in camel case for functions. -/

namespace ApiProxy

open Unicode

namespace Words

def isLowerLetter (c : Char) : Bool := isAlphanumeric c && isLowercase c

/-- Whether `cur`, next to `prev` and before `rest`, is the first letter of a new word. -/
def startsWord (prev cur : Char) (rest : List Char) : Bool :=
  isUppercase cur &&
    (isLowercase prev || isNumeric prev || (isUppercase prev && rest.head?.any isLowerLetter))

def split : List Char → List (List Char)
  | [] => []
  | c :: rest =>
    if isAlphanumeric c then
      match rest, split rest with
      | next :: after, word :: words =>
        if isAlphanumeric next && !startsWord c next after then (c :: word) :: words
        else [c] :: word :: words
      | _, words => [c] :: words
    else split rest

def capitalize : List Char → List Char
  | [] => []
  | c :: rest => toUpper c ++ rest.flatMap toLower

def kebab (text : List Char) : List Char := List.intercalate ['-'] ((split text).map lowercase)

def camel (text : List Char) : List Char :=
  match split text with
  | [] => []
  | first :: others => lowercase first ++ others.flatMap capitalize

end Words

def splitWords (name : String) : List String := (Words.split name.toList).map String.ofList

def kebabCase (name : String) : String := String.ofList (Words.kebab name.toList)

def camelCase (name : String) : String := String.ofList (Words.camel name.toList)

/-- Equality of names up to the case of the ASCII letters. -/
def sameUpToCase (a b : String) : Bool := a.toList.map Char.toLower == b.toList.map Char.toLower

end ApiProxy
