import ApiForge.Document.Reading
import ApiForge.Text.Blank
import ApiForge.Yaml.Tree

/-!
Reading API documents from text. A text that begins with a brace is JSON, any other is YAML.
-/

namespace ApiForge

inductive Format where
  | json | yaml
  deriving DecidableEq, Repr

namespace Format

/-- The format of a document, told by its first character that is not blank. -/
def detect (text : String) : Format :=
  match Text.trimStart text.toList with
  | '\x7b' :: _ => json
  | _ => yaml

/-- Reads a text of a format. -/
def read (format : Format) (text : String) : Reading :=
  match format with
  | json => Json.read text
  | yaml => Yaml.read text

/-- The problem of a text of a format with a fault. -/
def problem (format : Format) (fault : Fault) : Problem :=
  match format with
  | json => .json fault
  | yaml => .yaml fault

/-- Takes a text of a format apart. -/
def parse {α : Type} (format : Format) (text : String) (read : Draft → Except Fault α) :
    Except Problem α :=
  ((format.read text).get read).mapError format.problem

end Format

/-- Reads a document and checks that it has all that nothing can start without. -/
def Document.parse (text : String) : Except Problem Document := do
  let raw ← (Format.detect text).parse text RawDocument.read
  Document.ofRaw raw

end ApiForge
