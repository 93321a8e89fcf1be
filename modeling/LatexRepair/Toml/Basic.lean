import LatexRepair.Text

/-!
# TOML tables

Values of the TOML format and how tables grow while a document is read. A key may be
defined only once. A table that was opened by a header of one of its subtables may still be
opened by a header of its own; a table that was made by a dotted key may be extended by
dotted keys only, and any other table not at all.
-/

namespace LatexRepair.Toml

/-- A TOML value; of dates and times it is known only that they are well formed. -/
inductive Value where
  | string (s : Text)
  | integer (n : Int)
  | float (x : Float)
  | boolean (b : Bool)
  | dateTime
  | array (items : List Value)
  /-- A table in braces, which nothing can be added to. -/
  | record (members : List (Text × Value))
  /-- A table with its members. It is `implicit` when no header has opened it, and `dotted`
  when dotted keys have made it. -/
  | table (implicit dotted : Bool) (members : List (Text × Value))
  /-- Tables under one key, the last one first. -/
  | tables (items : List (List (Text × Value)))
deriving Inhabited

/-- The members of a table. -/
abbrev Members := List (Text × Value)

/-- The value of a key. -/
def lookup? (key : Text) (ms : Members) : Option Value :=
  (ms.find? (·.1 = key)).map (·.2)

/-- Set the value of a key. -/
def store (key : Text) (v : Value) : Members → Members
  | [] => [(key, v)]
  | m :: ms => if m.1 = key then (key, v) :: ms else m :: store key v ms

/-- Change the table that the keys lead to, making tables on the way. Keys of a header may
lead through any table, and through the last of several; dotted keys may lead only through
tables that no header has opened. -/
def changeAt (dotted : Bool) (path : List Text) (isDotted : Bool)
    (f : Bool → Members → Option Members) (ms : Members) : Option Members :=
  match path with
  | [] => f isDotted ms
  | key :: path =>
    match lookup? key ms with
    | none => do
      let inner ← changeAt dotted path dotted f []
      some (store key (.table true dotted inner) ms)
    | some (.table implicit d inner) =>
      if dotted && !implicit then none
      else do
        let inner ← changeAt dotted path d f inner
        some (store key (.table implicit d inner) ms)
    | some (.tables (last :: before)) => do
      let last ← changeAt dotted path false f last
      some (store key (.tables (last :: before)) ms)
    | some _ => none

/-- Define a key in the table that the path of a dotted key leads to. -/
def define (path : List Text) (key : Text) (v : Value) (ms : Members) : Option Members :=
  changeAt true path false
    (fun isDotted ms =>
      if isDotted = path.isEmpty then none
      else if (lookup? key ms).isSome then none
      else some (store key v ms))
    ms

/-- Open the table that a header names. -/
def openTable (path : List Text) (key : Text) (ms : Members) : Option Members :=
  changeAt false path false
    (fun _ ms =>
      match lookup? key ms with
      | none => some (store key (.table false false []) ms)
      | some (.table true false inner) => some (store key (.table false false inner) ms)
      | some _ => none)
    ms

/-- Open one more table under the key that a header in double brackets names. -/
def openItem (path : List Text) (key : Text) (ms : Members) : Option Members :=
  changeAt false path false
    (fun _ ms =>
      match lookup? key ms with
      | none => some (store key (.tables [[]]) ms)
      | some (.tables items) => some (store key (.tables ([] :: items)) ms)
      | some _ => none)
    ms

/-- Change the table that the last header has opened. -/
def inCurrent (path : List Text) (f : Members → Option Members) (ms : Members) :
    Option Members :=
  changeAt false path false (fun _ ms => f ms) ms

end LatexRepair.Toml
