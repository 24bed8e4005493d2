import ApiForge.Text.Unprintable

/-!
String literals of the generated code. Quotes and backslashes are escaped, and so is every
character that does not show on its own.
-/

namespace ApiForge.Text

/-- A character by the number of its code point. -/
def codeEscape (c : Char) : List Char :=
  '\\' :: 'u' :: '\x7b' :: Nat.toDigits 16 c.toNat ++ ['\x7d']

/-- A character as it stands inside a literal. -/
def literalChar (c : Char) : List Char :=
  if c = '\x00' then ['\\', '0']
  else if c = '\t' then ['\\', 't']
  else if c = '\n' then ['\\', 'n']
  else if c = '\r' then ['\\', 'r']
  else if c = '"' then ['\\', '"']
  else if c = '\\' then ['\\', '\\']
  else if isUnprintable c then codeEscape c
  else [c]

def literalChars (s : List Char) : List Char := '"' :: s.flatMap literalChar ++ ['"']

/-- A text as a literal. -/
def literal (s : String) : String := String.ofList (literalChars s.toList)

end ApiForge.Text
