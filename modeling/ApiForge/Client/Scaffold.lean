import ApiForge.Client.ErrorUnit
import ApiForge.Client.Payload
import ApiForge.Name.FileStem

/-!
The frame of a client: its imports, its type with a way to make one, and the heads of its methods.
-/

namespace ApiForge.Client

open Emit

/-- The head and imports of the unit of a client. Clients and models lie in folders side by side. -/
def clientImports (namespaceName : String) : String :=
  header namespaceName [unusedImports, "clippy::too_many_arguments"]
    ++ "use super::super::models::*;\n"
    ++ "use super::" ++ Name.moduleFileName errorUnitName ++ "::\x7bparam_value, "
    ++ joined ", " errorUnitTypes ++ "\x7d;\n\n"

/-- The fixed code that makes a client. -/
def clientConstructor : String := codeLines [
  "    /// Creates a client sending requests to \x60base_url\x60 through \x60http\x60.",
  "    pub fn new(http: reqwest::Client, base_url: impl Into<String>) -> Self ⟨",
  "        let mut base_url = base_url.into();",
  "        while base_url.ends_with('/') ⟨",
  "            base_url.pop();",
  "        ⟩",
  "        Self ⟨ http, base_url ⟩",
  "    ⟩"]

/-- The type of a client, up to the point where its methods follow. -/
def clientType (name segment : String) : String :=
  "/// Client for the \x60/" ++ segment ++ "\x60 operations.\n"
    ++ "#[derive(Debug, Clone)]\n"
    ++ "pub struct " ++ name ++ " \x7b\n"
    ++ "    http: reqwest::Client,\n    base_url: String,\n\x7d\n\n"
    ++ "impl " ++ name ++ " \x7b\n"
    ++ clientConstructor

def clientEnd : String := "\x7d\n"

/-- The head of a method with its arguments as declared. -/
def methodHead (name : String) (arguments : List String) (payload : Payload) : String :=
  "    pub async fn " ++ name ++ "(" ++ joined ", " ("&self" :: arguments) ++ ") -> Result<"
    ++ payload.type ++ ", ApiError> \x7b\n"

end ApiForge.Client
