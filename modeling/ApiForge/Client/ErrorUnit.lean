import ApiForge.Emit.Line

/-!
The unit that all clients share: the error that a call may end in, which holds the problem details
of an answer that is no success, and the function that writes an argument into a path or header.
-/

namespace ApiForge.Client

open Emit

/-- The name of the shared unit, which is that of the error. -/
def errorUnitName : String := "ApiError"

/-- The types of the shared unit. -/
def errorUnitTypes : List String := [errorUnitName, "ProblemDetails"]

/-- The fixed code of the shared unit. -/
def errorUnitBody : String := codeLines [
  "use serde::⟨Deserialize, Serialize⟩;",
  "use std::fmt;",
  "",
  "/// RFC 7807 problem details.",
  "#[derive(Debug, Clone, Default, PartialEq, Serialize, Deserialize)]",
  "pub struct ProblemDetails ⟨",
  "    #[serde(rename = \"type\", default, skip_serializing_if = \"Option::is_none\")]",
  "    pub r#type: Option<String>,",
  "    #[serde(default, skip_serializing_if = \"Option::is_none\")]",
  "    pub title: Option<String>,",
  "    #[serde(default, skip_serializing_if = \"Option::is_none\")]",
  "    pub status: Option<i32>,",
  "    #[serde(default, skip_serializing_if = \"Option::is_none\")]",
  "    pub detail: Option<String>,",
  "    #[serde(default, skip_serializing_if = \"Option::is_none\")]",
  "    pub instance: Option<String>,",
  "    /// Members beyond the standard ones.",
  "    #[serde(flatten)]",
  "    pub extensions: serde_json::Map<String, serde_json::Value>,",
  "⟩",
  "",
  "impl ProblemDetails ⟨",
  "    fn is_problem(&self) -> bool ⟨",
  "        self.r#type.is_some() || self.title.is_some() || self.status.is_some()",
  "    ⟩",
  "⟩",
  "",
  "/// Failure of a client call.",
  "#[derive(Debug)]",
  "pub enum ApiError ⟨",
  "    /// The server answered with a non-success status.",
  "    Problem(ProblemDetails),",
  "    /// The request could not be sent, or its body not read.",
  "    Transport(reqwest::Error),",
  "    /// The response body does not match the expected type.",
  "    Decode(serde_json::Error),",
  "⟩",
  "",
  "impl ApiError ⟨",
  "    /// Converts a non-success response into [\x60ApiError::Problem\x60].",
  "    ///",
  "    /// \x60path\x60 is the URL template of the operation.",
  "    pub async fn from_response(response: reqwest::Response, path: &str) -> Self ⟨",
  "        let status = response.status().as_u16();",
  "        let body = match response.text().await ⟨",
  "            Ok(body) => body,",
  "            Err(err) => return ApiError::Transport(err),",
  "        ⟩;",
  "        match serde_json::from_str::<ProblemDetails>(&body) ⟨",
  "            Ok(problem) if problem.is_problem() => ApiError::Problem(problem),",
  "            _ => ApiError::Problem(ProblemDetails ⟨",
  "                status: Some(i32::from(status)),",
  "                title: Some(format!(",
  "                    \"Call to ⟨⟩ failed with status code ⟨⟩\",",
  "                    path, status",
  "                )),",
  "                detail: if body.is_empty() ⟨ None ⟩ else ⟨ Some(body) ⟩,",
  "                ..ProblemDetails::default()",
  "            ⟩),",
  "        ⟩",
  "    ⟩",
  "",
  "    /// The problem details of a non-success response.",
  "    pub fn problem(&self) -> Option<&ProblemDetails> ⟨",
  "        match self ⟨",
  "            ApiError::Problem(problem) => Some(problem),",
  "            _ => None,",
  "        ⟩",
  "    ⟩",
  "⟩",
  "",
  "impl fmt::Display for ApiError ⟨",
  "    fn fmt(&self, f: &mut fmt::Formatter<'_>) -> fmt::Result ⟨",
  "        match self ⟨",
  "            ApiError::Problem(problem) => ⟨",
  "                let title = problem.title.as_deref().unwrap_or(\"Request failed\");",
  "                match problem.status ⟨",
  "                    Some(status) => write!(f, \"⟨⟩ (⟨⟩)\", title, status),",
  "                    None => f.write_str(title),",
  "                ⟩",
  "            ⟩",
  "            ApiError::Transport(err) => write!(f, \"Transport error: ⟨⟩\", err),",
  "            ApiError::Decode(err) => write!(f, \"Decode error: ⟨⟩\", err),",
  "        ⟩",
  "    ⟩",
  "⟩",
  "",
  "impl std::error::Error for ApiError ⟨",
  "    fn source(&self) -> Option<&(dyn std::error::Error + 'static)> ⟨",
  "        match self ⟨",
  "            ApiError::Problem(_) => None,",
  "            ApiError::Transport(err) => Some(err),",
  "            ApiError::Decode(err) => Some(err),",
  "        ⟩",
  "    ⟩",
  "⟩",
  "",
  "impl From<reqwest::Error> for ApiError ⟨",
  "    fn from(err: reqwest::Error) -> Self ⟨",
  "        ApiError::Transport(err)",
  "    ⟩",
  "⟩",
  "",
  "impl From<serde_json::Error> for ApiError ⟨",
  "    fn from(err: serde_json::Error) -> Self ⟨",
  "        ApiError::Decode(err)",
  "    ⟩",
  "⟩",
  "",
  "/// Renders a path or header argument as text. Strings are used as they are, other",
  "/// values in their JSON form.",
  "pub fn param_value<T: Serialize + ?Sized>(value: &T) -> String ⟨",
  "    match serde_json::to_value(value) ⟨",
  "        Ok(serde_json::Value::String(text)) => text,",
  "        Ok(other) => other.to_string(),",
  "        Err(_) => String::new(),",
  "    ⟩",
  "⟩"]

def errorUnit (namespaceName : String) : String :=
  header namespaceName [unusedImports] ++ errorUnitBody

end ApiForge.Client
