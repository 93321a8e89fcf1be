import LatexRepair.Text

/-!
# Arguments of a command

The words behind the name of a command are options and operands. An option is a word of its
own, `--name` or `-n`; a value is the next word or stands behind an equals sign, and the
letters of options without a value may share one word. Behind a lone `--` every word is an
operand, and so is a lone hyphen anywhere.

`Arguments.read` reads the words from left to right. The first word that asks for help, or
that fits no option and no operand, ends the reading.
-/

namespace LatexRepair

/-- Why a command is not carried out. -/
inductive Interruption where
  | help
  | version
  /-- The words make no sense. -/
  | misuse
deriving DecidableEq, Inhabited

/-- What an option takes. -/
inductive OptionKind where
  | flag
  | text
  | path
  | number
  /-- The option ends the reading. -/
  | interruption (i : Interruption)
deriving DecidableEq, Inhabited

/-- An option that a command has. -/
structure OptionSpec where
  name : String
  kind : OptionKind
  letter : Option Char := none
deriving DecidableEq, Inhabited

/-- The natural number of at most 64 bits that a text is, with or without a plus sign. -/
def wordNat? (t : Text) : Option Nat :=
  let digits := (Text.strip? ['+'] t).getD t
  if digits.isEmpty || !digits.all Char.isDigit then none
  else
    let n := digits.foldl (fun n c => n * 10 + (c.toNat - '0'.toNat)) 0
    if n < UInt64.size then some n else none

namespace OptionKind

/-- The option takes a value. -/
def takesValue : OptionKind → Bool
  | text | path | number => true
  | _ => false

/-- A value that the option accepts. -/
def accepts (value : Text) : OptionKind → Bool
  | path => !value.isEmpty
  | number => (wordNat? value).isSome
  | _ => true

end OptionKind

/-- The options and operands of a command. -/
structure Arguments where
  options : List (String × Text) := []
  operands : List Text := []
deriving DecidableEq, Inhabited

namespace Arguments

/-- The value of an option, if it is given. -/
def value? (a : Arguments) (name : String) : Option Text :=
  (a.options.find? (·.1 = name)).map (·.2)

/-- The option is given. -/
def has (a : Arguments) (name : String) : Bool :=
  (a.value? name).isSome

/-- The arguments with one more option, which may be given only once. -/
def withOption (a : Arguments) (spec : OptionSpec) (value : Text) :
    Except Interruption Arguments :=
  match spec.kind with
  | .interruption i => .error i
  | kind =>
    if a.has spec.name || !kind.accepts value then .error .misuse
    else .ok { a with options := a.options ++ [(spec.name, value)] }

/-- The word is an option. -/
def isOption (word : Text) : Bool :=
  word.head? = some '-' && word.length > 1

/-- The next word as the value of an option. -/
def nextValue (next : Option Text) : Except Interruption Text :=
  match next with
  | some word => if isOption word then .error .misuse else .ok word
  | none => .error .misuse

/-- Read an option with a long name, given without its hyphens; the second part of the answer
says whether the next word is its value. -/
def readLong (specs : List OptionSpec) (a : Arguments) (word : Text) (next : Option Text) :
    Except Interruption (Arguments × Bool) := do
  let name := word.takeWhile (· ≠ '=')
  match specs.find? (·.name.toList = name) with
  | none => .error .misuse
  | some spec =>
    match word.drop name.length, spec.kind.takesValue with
    | [], false => pure (← a.withOption spec [], false)
    | [], true =>
      let value ← nextValue next
      pure (← a.withOption spec value, true)
    | _ :: value, true => pure (← a.withOption spec value, false)
    | _ :: _, false => .error .misuse

/-- Read the letters of options that share a word. -/
def readLetters (specs : List OptionSpec) (a : Arguments) (next : Option Text) :
    Text → Except Interruption (Arguments × Bool)
  | [] => .ok (a, false)
  | c :: cs => do
    match specs.find? (·.letter = some c) with
    | none => .error .misuse
    | some spec =>
      if spec.kind.takesValue then
        if cs.isEmpty then
          let value ← nextValue next
          pure (← a.withOption spec value, true)
        else pure (← a.withOption spec ((Text.strip? ['='] cs).getD cs), false)
      else
        let a' ← a.withOption spec []
        readLetters specs a' next cs

/-- Read an option. -/
def readOption (specs : List OptionSpec) (a : Arguments) (word : Text) (next : Option Text) :
    Except Interruption (Arguments × Bool) :=
  match Text.strip? "--".toList word with
  | some name => readLong specs a name next
  | none => readLetters specs a next (word.drop 1)

/-- The arguments with one more operand. A command has at most `limit` operands, which must not
be empty. -/
def withOperand (limit : Nat) (a : Arguments) (word : Text) : Except Interruption Arguments :=
  if limit ≤ a.operands.length || word.isEmpty then .error .misuse
  else .ok { a with operands := a.operands ++ [word] }

/-- Read the words behind the name of a command that has at most `limit` operands. -/
def readFrom (specs : List OptionSpec) (limit : Nat) (a : Arguments) :
    List Text → Except Interruption Arguments
  | [] => .ok a
  | word :: words =>
    if word = "--".toList then words.foldlM (withOperand limit) a
    else if isOption word then do
      let (a', usesNext) ← readOption specs a word words.head?
      if usesNext then readFrom specs limit a' (words.drop 1)
      else readFrom specs limit a' words
    else do
      let a' ← a.withOperand limit word
      readFrom specs limit a' words
termination_by words => words.length
decreasing_by
  all_goals simp only [List.length_drop, List.length_cons]; omega

/-- Read the words behind the name of a command that has at most `limit` operands, of which
`needed` must be given. -/
def read (specs : List OptionSpec) (needed limit : Nat) (words : List Text) :
    Except Interruption Arguments := do
  let a ← readFrom specs limit {} words
  if a.operands.length < needed then .error .misuse else .ok a

/-- Read the options in front of the name of a command; the name and the words behind it are
left. -/
def readLeading (specs : List OptionSpec) (a : Arguments) :
    List Text → Except Interruption (Arguments × Text × List Text)
  | [] => .error .misuse
  | word :: words =>
    if word = "--".toList then .error .misuse
    else if isOption word then do
      let (a', usesNext) ← readOption specs a word words.head?
      if usesNext then readLeading specs a' (words.drop 1)
      else readLeading specs a' words
    else .ok (a, word, words)
termination_by words => words.length
decreasing_by
  all_goals simp only [List.length_drop, List.length_cons]; omega

end Arguments

end LatexRepair
