import ApiForge.Text.Alphanumeric
import ApiForge.Text.Blank
import ApiForge.Text.LetterCase
import ApiForge.Text.Segment

/-!
From the keys of a document to the names of types and fields. A key is a schema name, a `$ref`
pointer, a property name or a path segment; the last part of it makes the name.
-/

namespace ApiForge.Name

open Text

/-- The name of what has no key of its own. -/
def fallbackKey : String := "object"

/-- Whether a character cannot stay in a bare name. -/
def isPunctuation (c : Char) : Bool :=
  c == '-' || c == '.' || c == '\x7b' || c == '\x7d' || c == ' '

/-- A key reduced to its last part: what follows the last slash, of that what follows the last
dot, with underscores for the punctuation. -/
def sanitizeChars (key : List Char) : List Char :=
  (afterLast '.' (afterLast '/' key)).map fun c => if isPunctuation c then '_' else c

/-- The bare name of a key; an empty key has the fallback name. -/
def sanitizeKey (key : String) : String :=
  if key.isEmpty then fallbackKey else String.ofList (sanitizeChars key.toList)

/-- Whether a character separates the words of a name. -/
def separatesWords (c : Char) : Bool := c == ' ' || c == '_' || c == '-'

/-- Title case from a point inside a name, where `start` says that a word begins here. -/
def titleChars (start : Bool) : List Char → List Char
  | [] => []
  | c :: rest =>
    if separatesWords c then titleChars true rest
    else if start && isLowercase c then toUppercase c ++ titleChars false rest
    else c :: titleChars false rest

/-- A name in title case: separators are dropped, a small letter that begins a word becomes a
capital, and everything else stays. -/
def titleCase (s : String) : String := String.ofList (titleChars true s.toList)

/-- The type name of a key. -/
def className (key : String) : String := titleCase (sanitizeKey key)

def unionSuffix : String := "OneOf"

/-- The name of the union that a key holds. -/
def unionName (owner : String) : String := className owner ++ unionSuffix

/-- The name with its first letter made small. -/
def lowerFirst (s : String) : String :=
  match s.toList with
  | [] => ""
  | c :: rest => String.ofList (toLowercase c ++ rest)

/-- The words of a name with everything but letters and numbers as a separator, in title case. -/
def titleWords (s : String) : String :=
  String.ofList (titleChars true (s.toList.map fun c => if isAlphanumeric c then c else '_'))

/-- The in-code name of a property. -/
def fieldName (wire : String) : String :=
  let name := titleWords wire
  if name.isEmpty then "Value" else name

/-- The part of a path that names its operations: the last segment, after the one before it
unless that is the first segment or a template. -/
def pathTail (path : List Char) : List Char :=
  match (pieces (· == '/') path).reverse with
  | [] => path
  | last :: before =>
    match before with
    | [] => last
    | [_] => last
    | segment :: earlier =>
      if earlier == [[]] || segment.contains '\x7b' then last
      else afterLast '.' segment ++ ' ' :: afterLast '.' last

/-- The words that name the operations of a path, with blanks for braces, dots and dashes. -/
def methodStem (path : String) : String :=
  if path.isEmpty then fallbackKey
  else
    String.ofList <| trim <| (pathTail path.toList).map fun c =>
      if c == '\x7b' || c == '\x7d' || c == '.' || c == '-' then ' ' else c

end ApiForge.Name
