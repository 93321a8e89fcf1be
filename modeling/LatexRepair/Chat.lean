import LatexRepair.Failure
import LatexRepair.Json.Record
import LatexRepair.Settings
import LatexRepair.Validation

/-!
# Asking a chat service

The repair of last resort: the document and the list of its syntax errors are sent to a
chat service, and the text of the answer is the repaired document. `ChatRequest.of` makes
the request, `ChatAnswer.read` reads an answer. What is sent and what comes back are values;
sending is left to an endpoint, a function from requests to replies.
-/

namespace LatexRepair

/-! ## Requests -/

/-- A request to a chat service. -/
structure ChatRequest where
  url : Text
  authorization : Text
  body : Text
deriving DecidableEq, Inhabited

/-- What a chat service does with a request. -/
inductive ChatReply where
  /-- It cannot be reached. -/
  | refused
  | answered (status : Nat) (body : Text)
deriving DecidableEq, Inhabited

namespace ChatRequest

/-- What the service is told to do. -/
def instructions : Text :=
  ("\n".intercalate
    ["You are a LaTeX syntax expert.",
      "Your task is to fix LaTeX syntax errors in documents.",
      "",
      "CRITICAL RULES:",
      "1. Fix ONLY the syntax errors listed. Do not change anything else.",
      "2. Preserve all content, formatting, and structure.",
      "3. Typical fixes:",
      "   - adding a missing closing brace \x7d or bracket ]",
      "   - adding a missing \\end{} for an unclosed environment",
      "   - closing an unmatched math delimiter $ or $$",
      "   - closing an unmatched \\( or \\[",
      "4. Output ONLY the corrected LaTeX source, with no explanations.",
      "5. Keep the same line structure wherever possible.",
      "6. Do not add or remove content beyond the syntax fix."]).toList

/-- A syntax error as a line of the request. -/
def errorLine (e : SyntaxError) : String :=
  s!"- Line {e.line}, Column {e.column}: " ++ e.message ++
    " (Type: " ++ e.errorClass.label ++ ")"

/-- What the service is asked: the list of errors and the whole document. -/
def question (t : Text) (errors : List SyntaxError) : Text :=
  ("Fix the following LaTeX syntax errors in the document below.\n\n" ++
    "ERRORS TO FIX:\n" ++ "\n".intercalate (errors.map errorLine) ++
    "\n\nDOCUMENT:\n").toList ++ t

/-- One message of a conversation. -/
def message (role : String) (content : Text) : Json :=
  .mkObject [("role", .ofString role), ("content", .string content)]

/-- The request for a repair of a document. -/
def of (s : ChatSettings) (t : Text) (errors : List SyntaxError) : ChatRequest where
  url := s.requestUrl
  authorization := "Bearer ".toList ++ s.apiKey.getD []
  body := Json.compact (.mkObject
    [("model", .string s.model),
      ("messages", .array [message "system" instructions, message "user" (question t errors)]),
      ("temperature", .ofFloat32 s.temperature)])

end ChatRequest

/-! ## Answers -/

namespace ChatAnswer

/-- The error that an answer reports. -/
def errorText? (v : Json) : Option Text := do
  let values ← Json.fields? [⟨"message", .defaulted⟩] v
  match values with
  | [message] => Json.orDefault? [] Json.text? message
  | _ => none

/-- The text of a choice. -/
def choiceText? (v : Json) : Option Text := do
  let values ← Json.fields? [⟨"message", .required⟩] v
  match values with
  | [some message] =>
    match ← Json.fields? [⟨"content", .defaulted⟩] message with
    | [content] => Json.orDefault? [] Json.text? content
    | _ => none
  | _ => none

/-- The texts of the choices and the error of an answer. -/
def parts? (v : Json) : Option (List Text × Option Text) := do
  let values ← Json.fields? [⟨"choices", .defaulted⟩, ⟨"error", .optional⟩] v
  match values with
  | [choices, error] =>
    let texts ← Json.orDefault? [] (Json.list? choiceText?) choices
    let reported ← Json.optional? errorText? error
    some (texts, reported)
  | _ => none

/-- The value that a body holds; a byte order mark in front is no part of it. -/
def value? (body : Text) : Option Json :=
  Json.parse? (if body.head? = some '\ufeff' then body.drop 1 else body)

/-- The detail that comes with a refusal, empty when there is none. -/
def detail (body : Text) : Text :=
  let found := do
    let v ← value? body
    match ← Json.fields? [⟨"error", .required⟩] v with
    | [some error] => errorText? error
    | _ => none
  found.getD []

/-- The status says that the request was carried out. -/
def isSuccess (status : Nat) : Bool :=
  200 ≤ status && status < 300

/-- The text of an answer. -/
def read (status : Nat) (body : Text) : Except Failure Text :=
  if !isSuccess status then .error (.chat status (.rejected (detail body)))
  else
    match (value? body).bind parts? with
    | none => .error (.chat status .unreadable)
    | some (_, some reported) => .error (.chat status (.reported reported))
    | some ([], none) => .error (.chat status .noChoices)
    | some (text :: _, none) => .ok text

end ChatAnswer

/-! ## Repair -/

/-- The outcome of asking for a repair, with the request if one was sent. -/
structure ChatRepair where
  request : Option ChatRequest
  result : Except Failure Text

/-- Ask for a repair of a document with the given errors. Without a key nothing can be
asked; an empty document and one without errors are returned as they are. -/
def repairByChat {m : Type → Type} [Monad m] (ask : ChatRequest → m ChatReply)
    (s : ChatSettings) (t : Text) (errors : List SyntaxError) : m ChatRepair := do
  if !s.hasKey then pure ⟨none, .error .missingKey⟩
  else if t.isEmpty || errors.isEmpty then pure ⟨none, .ok t⟩
  else
    let request := ChatRequest.of s t errors
    match ← ask request with
    | .refused => pure ⟨none, .error .unreachable⟩
    | .answered status body => pure ⟨some request, ChatAnswer.read status body⟩

end LatexRepair
