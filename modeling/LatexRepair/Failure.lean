import LatexRepair.FileAccess
import LatexRepair.Quoted

/-!
# Failures

Why an operation gives no result. What is wrong with a document is never a failure: it is
what a validation reports. The operations that can fail read and write files, read
settings, and ask a chat service for a repair.
-/

namespace LatexRepair

/-- Why the answer of a chat service is of no use. -/
inductive ChatFault where
  /-- The answer is not in the expected form. -/
  | unreadable
  /-- The answer reports an error. -/
  | reported (message : Text)
  /-- The answer holds no text. -/
  | noChoices
  /-- The service refused the request, with a detail that may be empty. -/
  | rejected (detail : Text)
deriving DecidableEq, Inhabited

/-- Why an operation gives no result. -/
inductive Failure where
  /-- The chat service needs a key. -/
  | missingKey
  /-- A pattern is not well formed. -/
  | invalidPattern (pattern : Text)
  /-- A file of settings or a summary is not in the expected form. -/
  | unreadableSettings (path : Path)
  /-- The chat service answered with the given status. -/
  | chat (status : Nat) (fault : ChatFault)
  /-- The chat service did not answer. -/
  | unreachable
  /-- A file operation failed. -/
  | file (path : Path) (fault : FileFault)
  /-- There is no backup to restore. -/
  | missingBackup (path : Path)
deriving DecidableEq, Inhabited

/-- What a status of a chat service means, with the detail that came with it; a detail that
is empty is left out, with the colon before it. -/
def ChatFault.rejection (status : Nat) (detail : Text) : String :=
  let full :=
    match status with
    | 401 => "API authentication failed: invalid API key or unauthorized access"
    | 429 => "API rate limit exceeded: " ++ String.ofList detail
    | 400 => "invalid API request: " ++ String.ofList detail
    | 500 | 502 | 503 => "API server error: " ++ String.ofList detail
    | _ => "API request failed: " ++ String.ofList detail
  String.ofList (Text.dropTrailing ": ".toList full.toList)

/-- A fault of an answer in words. -/
def ChatFault.message (status : Nat) : ChatFault → String
  | unreadable => "failed to parse API response"
  | reported message => "API returned error: " ++ String.ofList message
  | noChoices => "API returned no choices"
  | rejected detail => rejection status detail

/-- A failure in words. -/
def Failure.message : Failure → String
  | missingKey =>
    "configuration error: LLM-assisted fixing needs an API key (OPENAI_API_KEY or [llm].api_key)"
  | invalidPattern pattern =>
    "configuration error: invalid pattern " ++ String.ofList (Quoted.quote pattern)
  | unreadableSettings path => "failed to parse config file " ++ String.ofList path
  | chat status fault => s!"API call failed (HTTP {status}): " ++ fault.message status
  | unreachable => "HTTP request failed"
  | file path fault => "I/O error on " ++ String.ofList path ++ ": " ++ fault.message
  | missingBackup path => "no backup found for " ++ String.ofList path

end LatexRepair
