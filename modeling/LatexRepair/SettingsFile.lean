import LatexRepair.FileRepair
import LatexRepair.Toml.Reader

/-!
# Settings files

Settings are stored as TOML, in the table `llm`. A key that is missing keeps its default,
a key that is not known is passed over, and a value of the wrong type makes the file
unreadable. The fields may also be given by an array, in their order.
-/

namespace LatexRepair

namespace Toml

/-- The text that a value is. -/
def Value.text? : Value → Option Text
  | .string s => some s
  | _ => none

/-- The natural number that a value is. -/
def Value.nat? : Value → Option Nat
  | .integer n => if 0 ≤ n then some n.toNat else none
  | _ => none

/-- The number that a value is. -/
def Value.float32? : Value → Option Float32
  | .float x => some x.toFloat32
  | .integer n => some (Float32.ofInt n)
  | _ => none

end Toml

namespace ChatSettings

/-- The names of the fields, in their order. -/
def fieldNames : List String :=
  ["api_key", "api_url", "model", "timeout_secs", "temperature"]

/-- The value of a field: its default when it is missing. -/
def orDefault {α : Type} (default : α) (f : Toml.Value → Option α) :
    Option Toml.Value → Option α
  | none => some default
  | some v => f v

/-- The settings with the given field values, in the order of the fields. -/
def ofFields? (field : Nat → Option Toml.Value) : Option ChatSettings := do
  let base : ChatSettings := {}
  let apiKey ← orDefault base.apiKey (fun v => v.text?.map some) (field 0)
  let apiUrl ← orDefault base.apiUrl Toml.Value.text? (field 1)
  let model ← orDefault base.model Toml.Value.text? (field 2)
  let timeoutSeconds ← orDefault base.timeoutSeconds Toml.Value.nat? (field 3)
  let temperature ← orDefault base.temperature Toml.Value.float32? (field 4)
  some ⟨apiKey, apiUrl, model, timeoutSeconds, temperature⟩

/-- The settings that a value stands for. -/
def ofValue? : Toml.Value → Option ChatSettings
  | .record ms | .table _ _ ms =>
    ofFields? fun i => Toml.lookup? ((fieldNames[i]?).getD "").toList ms
  | .array vs => ofFields? fun i => vs[i]?
  | .tables items => ofFields? fun i => (items.reverse[i]?).map Toml.Value.record
  | .dateTime => some {}
  | _ => none

/-- The settings of a file with the given text. -/
def parse? (t : Text) : Option ChatSettings := do
  let members ← Toml.parse? t
  match Toml.lookup? "llm".toList members with
  | none => some {}
  | some v => ofValue? v

variable {m : Type → Type} [Monad m] [FileAccess m]

/-- Read a settings file. -/
def load (p : Path) : ExceptT Failure m ChatSettings := do
  let t ← FileRepair.readSource p
  match parse? t with
  | some s => pure s
  | none => throw (.unreadableSettings p)

/-- The settings of an optional file, overlaid with the environment. -/
def resolve (p : Option Path) (env : Environment) : ExceptT Failure m ChatSettings := do
  let s ←
    match p with
    | some p => load p
    | none => pure {}
  pure (s.overlay env)

end ChatSettings

end LatexRepair
