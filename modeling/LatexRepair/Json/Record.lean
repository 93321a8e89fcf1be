import LatexRepair.Decimal.Literal
import LatexRepair.Json.Reader

/-!
# Reading records

A record is read from an object by the names of its fields, or from an array by their
order. Names that the record does not have are passed over; a name that it has may occur
only once. Reading a field says whether its value fits; `null` fits no field but an
optional one.
-/

namespace LatexRepair.Json

/-- Whether a field may be missing. -/
inductive Presence where
  | required
  /-- A missing field has a default value. -/
  | defaulted
  /-- A missing field, or `null`, is no value. In an array the field cannot be missing. -/
  | optional
deriving DecidableEq, Inhabited

/-- A field of a record. -/
structure Field where
  name : String
  presence : Presence

/-- The value of a member, if the name occurs once; the outer option is empty when it occurs
more than once. -/
def member? (members : List (Text × Json)) (name : String) : Option (Option Json) :=
  match members.filter (·.1 = name.toList) with
  | [] => some none
  | [m] => some (some m.2)
  | _ => none

/-- The values of the fields of a record, as far as they are present. -/
def fields? (fields : List Field) : Json → Option (List (Option Json))
  | object members => do
    let values ← fields.mapM fun f => member? members f.name
    if (values.zip fields).any fun (v, f) => v.isNone && f.presence = .required then none
    else some values
  | array items =>
    let values := fields.mapIdx fun i _ => items[i]?
    if items.length > fields.length then none
    else if (values.zip fields).any fun (v, f) => v.isNone && f.presence ≠ .defaulted then none
    else some values
  | _ => none

/-- The text that a value is. -/
def text? : Json → Option Text
  | string s => some s
  | _ => none

/-- The natural number of at most 64 bits that a value is. -/
def nat? : Json → Option Nat
  | number literal =>
    if literal.all Char.isDigit then
      let n := Decimal.digitsValue literal
      if n < UInt64.size then some n else none
    else none
  | _ => none

/-- The values that the items of an array stand for. -/
def list? {α : Type} (f : Json → Option α) : Json → Option (List α)
  | array items => items.mapM f
  | _ => none

/-- The value of a field with a default. -/
def orDefault? {α : Type} (default : α) (f : Json → Option α) : Option Json → Option α
  | none => some default
  | some v => f v

/-- The value of an optional field. -/
def optional? {α : Type} (f : Json → Option α) : Option Json → Option (Option α)
  | none | some null => some none
  | some v => (f v).map some

end LatexRepair.Json
