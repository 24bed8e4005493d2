import ApiForge.Name.Key
import ApiForge.Text.Words

/-!
Identifiers of the generated code. A name that is a keyword is written as a raw identifier where
the language allows that, and with an underscore behind it where it does not.
-/

namespace ApiForge.Name

open Text

/-- The keywords that a raw identifier can bear. -/
def rawableKeywords : List String :=
  ["as", "async", "await", "break", "const", "continue", "crate", "dyn", "else", "enum",
   "extern", "false", "fn", "for", "if", "impl", "in", "let", "loop", "match", "mod", "move",
   "mut", "pub", "ref", "return", "static", "struct", "trait", "true", "type", "unsafe", "use",
   "where", "while", "abstract", "become", "box", "do", "final", "macro", "override", "priv",
   "try", "typeof", "unsized", "virtual", "yield", "gen"]

/-- The path keywords, which not even a raw identifier can bear. -/
def pathKeywords : List String := ["self", "Self", "super", "crate"]

/-- The mark of a raw identifier. -/
def rawMark : String := "r#"

/-- An identifier spelled so that it is no keyword. -/
def escapeKeyword (ident : String) : String :=
  if pathKeywords.contains ident then ident ++ "_"
  else if rawableKeywords.contains ident then rawMark ++ ident
  else ident

def snakeCase (s : String) : String := String.ofList (Text.snakeCase s.toList)

def shoutCase (s : String) : String := String.ofList (Text.shoutCase s.toList)

def startsWithDigit (s : String) : Bool :=
  match s.toList with
  | [] => false
  | c :: _ => c.isDigit

/-- The snake case identifier of a name. A name without words is `value`, and a leading digit
gets an underscore before it. -/
def snakeIdent (name : String) : String :=
  let ident := snakeCase name
  if ident.isEmpty then "value"
  else escapeKeyword (if startsWithDigit ident then "_" ++ ident else ident)

/-- An identifier without the mark of a raw one. -/
def plainIdent (ident : String) : String :=
  match ident.toList with
  | 'r' :: '#' :: rest => String.ofList rest
  | _ => ident

/-- The identifier of an enumerated value. -/
def variantIdent (raw : String) : String :=
  let ident := titleWords raw
  if ident.isEmpty then "Empty"
  else if startsWithDigit ident then "Value" ++ ident
  else if ident = "Self" then "SelfValue"
  else ident

/-- The name of the unit that decodes a union. -/
def codecName (marker : String) : String := marker ++ "Codec"

end ApiForge.Name
