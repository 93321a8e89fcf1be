import LatexRepair.Text

/-!
# Settings

The settings of the chat service that repairs may be asked of. They start from defaults,
are read from a file of settings, and are overlaid with variables of the environment; a
blank variable overlays nothing.
-/

namespace LatexRepair

/-- How the chat service is reached. -/
structure ChatSettings where
  apiKey : Option Text := none
  apiUrl : Text := "https://api.openai.com/v1".toList
  model : Text := "gpt-4o".toList
  timeoutSeconds : Nat := 120
  temperature : Float32 := 0.1
deriving Inhabited

/-- The variables of an environment. -/
abbrev Environment := Text → Option Text

namespace ChatSettings

/-- What the address of the service ends with. -/
def endpoint : Text :=
  "/chat/completions".toList

/-- An address without white space and final slashes that ends with the endpoint; a blank
one stands for the default service. -/
def normalizeUrl (url : Text) : Text :=
  let trimmed := Text.trimEndBy (· = '/') (Text.trim url)
  if trimmed.isEmpty then ({} : ChatSettings).apiUrl ++ endpoint
  else if Text.endsWith endpoint trimmed then trimmed
  else trimmed ++ endpoint

/-- The address that requests are sent to. -/
def requestUrl (s : ChatSettings) : Text :=
  normalizeUrl s.apiUrl

/-- There is a key. -/
def hasKey (s : ChatSettings) : Bool :=
  s.apiKey.any (!Text.isBlankText ·)

/-- The value of a variable, unless it is blank. -/
def setting? (env : Environment) (name : String) : Option Text :=
  (env name.toList).filter (!Text.isBlankText ·)

/-- The variable that holds the key. -/
def keyVariable : String := "OPENAI_API_KEY"

/-- The variable that holds the address of the service. -/
def urlVariable : String := "OPENAI_BASE_URL"

/-- The variable that holds the name of the model. -/
def modelVariable : String := "OPENAI_MODEL"

/-- The settings overlaid with the variables of an environment. -/
def overlay (env : Environment) (s : ChatSettings) : ChatSettings :=
  { s with
    apiKey := (setting? env keyVariable).or s.apiKey
    apiUrl := (setting? env urlVariable).getD s.apiUrl
    model := (setting? env modelVariable).getD s.model }

end ChatSettings

end LatexRepair
