import LatexRepair.Decimal.Literal
import LatexRepair.Json.Reader
import LatexRepair.Pattern.PropertyName
import LatexRepair.Pattern.Template

/-!
# Reading patterns

Patterns are written in the usual notation of regular expressions: alternatives, groups with
and without names or flags, greedy and lazy repetitions, sets with ranges, nested sets and
set operations, classes, escapes and assertions. `NamedPattern.parse?` reads a pattern and
answers nothing for one that is not well formed; references back to a group and assertions
about what follows or precedes are not part of the notation.

Flags hold from where they are set to the end of the group. With the flag for free spacing,
white space and comments between the parts of a pattern are passed over.

A pattern that is nested more than `nestingLimit` levels deep counts as not well formed.
-/

namespace LatexRepair

/-- The flags that patterns are read under. -/
structure PatternFlags where
  ignoreCase : Bool := false
  /-- The anchors stand for the ends of lines. -/
  multiLine : Bool := false
  /-- The dot matches newlines too. -/
  dotAll : Bool := false
  /-- Repetitions are lazy where they are greedy otherwise. -/
  swapGreed : Bool := false
  /-- Classes hold the characters of all scripts. -/
  unicode : Bool := true
  /-- Carriage returns end lines too. -/
  returns : Bool := false
  /-- White space and comments are passed over. -/
  freeSpacing : Bool := false
deriving DecidableEq, Inhabited

/-- How far a pattern has been read. -/
structure PatternState where
  rest : Text
  flags : PatternFlags := {}
  groupCount : Nat := 0
  names : List (Text × Nat) := []
deriving Inhabited

/-- Reading a part of a pattern. -/
abbrev PatternReader := StateT PatternState Option

/-- The number of levels that a pattern may be nested. -/
def nestingLimit : Nat := 250

/-- A part of a pattern, with the number of levels that are nested in it: groups, repetitions
and sets in brackets are levels, and so are two or more parts or alternatives side by side. -/
structure Nested (α : Type) where
  value : α
  levels : Nat := 0

namespace Nested

/-- The levels of what is made of the given parts: a single part makes no level. -/
def levelsOf {α : Type} : List (Nested α) → Nat
  | [] => 0
  | [part] => part.levels
  | parts => (parts.map (·.levels)).foldl max 0 + 1

/-- What is made of the given parts. -/
def ofParts {α : Type} (join : List α → α) (parts : List (Nested α)) : Nested α :=
  ⟨join (parts.map (·.value)), levelsOf parts⟩

/-- The part one level further up, after a change. -/
def raise {α : Type} (f : α → α) (part : Nested α) : Nested α :=
  ⟨f part.value, part.levels + 1⟩

end Nested

namespace PatternReader

/-! ## Characters -/

/-- Go on with the given text. -/
def goOn (t : Text) : PatternReader Unit :=
  modify ({ · with rest := t })

/-- The text that is left. -/
def left : PatternReader Text := do
  pure (← get).rest

/-- A text without white space and comments in front. -/
def withoutSpace : Nat → Text → Text
  | 0, t => t
  | n + 1, t =>
    match t.dropWhile isBlank with
    | '#' :: r => withoutSpace n (r.dropWhile (· ≠ '\n'))
    | r => r

/-- Pass over white space and comments, if the flag for free spacing is set. -/
def skipSpace : PatternReader Unit := do
  let s ← get
  if s.flags.freeSpacing then goOn (withoutSpace (s.rest.length + 1) s.rest)

/-- Read the next character. -/
def next : PatternReader Char := do
  match ← left with
  | c :: t => goOn t; pure c
  | [] => failure

/-- Read the given text, if it comes next. -/
def accept (word : String) : PatternReader Bool := do
  match Text.strip? word.toList (← left) with
  | some t => goOn t; pure true
  | none => pure false

/-- Read the given text. -/
def require (word : String) : PatternReader Unit := do
  if !(← accept word) then failure

/-- Read the characters of a class that come next. -/
def readWhile (p : Char → Bool) : PatternReader Text := do
  let t ← left
  goOn (t.dropWhile p)
  pure (t.takeWhile p)

/-- Read at most `n` characters of a class, passing over space behind each of them. -/
def readSpaced (p : Char → Bool) : Nat → PatternReader Text
  | 0 => pure []
  | n + 1 => do
    match ← left with
    | c :: t =>
      if p c then
        goOn t
        skipSpace
        let cs ← readSpaced p n
        pure (c :: cs)
      else pure []
    | [] => pure []

/-- Read what stands between braces, behind the opening one, passing over space. -/
def readBraced : PatternReader Text := do
  skipSpace
  let inner ← readSpaced (· ≠ '}') (← left).length
  require "\x7d"
  pure inner

/-! ## Sets -/

/-- A set under the current flags: letters of the other case belong to it where case is
ignored. -/
def foldCase (s : CharSet) : PatternReader CharSet := do
  let flags := (← get).flags
  pure (if !flags.ignoreCase then s else if flags.unicode then .ignoringCase s
    else .ignoringAsciiCase s)

/-- A set that is ready to be matched. Where classes are those of ASCII, no set may hold
other characters. -/
def finish (s : CharSet) : PatternReader CharSet := do
  if !(← get).flags.unicode && s.mem '\x80' then failure
  pure s

/-- The set or its complement. -/
def negateIf (negated : Bool) (s : CharSet) : CharSet :=
  if negated then .complement s else s

/-! ## Escapes -/

/-- What an escape stands for. -/
inductive Escape where
  /-- A character, which may be given by its code in two digits. -/
  | char (c : Char) (byCode : Bool)
  | set (s : CharSet)
  | assertion (a : Assertion)

/-- The character with the given hexadecimal digits. -/
def charOfHex (ds : Text) : PatternReader Char := do
  let values ← ds.mapM fun d => (Json.hexValue? d : Option Nat)
  let n := values.foldl (fun n d => n * 16 + d) 0
  if ds.isEmpty || !(n < 0xd800 || (0xdfff < n && n < 0x110000)) then failure
  pure (Char.ofNat n)

/-- `n` hexadecimal digits, with space between them where it is passed over. -/
def hexDigits : Nat → PatternReader Text
  | 0 => pure []
  | n + 1 => do
    skipSpace
    let d ← next
    let ds ← hexDigits n
    pure (d :: ds)

/-- A character that is given by its code, in braces or with a fixed number of digits. -/
def hexChar (digits : Nat) : PatternReader Char := do
  skipSpace
  if ← accept "\x7b" then charOfHex (← readBraced) else charOfHex (← hexDigits digits)

/-- The set with the given name, or with a property and its value on both sides of the first
sign between them, and whether the sign asks for the complement. -/
def namedSet? (name : Text) : Option (Bool × CharSet) :=
  match ["!=", ":", "="].find? fun sign => Text.contains sign.toList name with
  | some sign => do
    let i ← Text.find? sign.toList name
    let s ← CharSet.ofValue? (name.take i) (name.drop (i + sign.length))
    some (sign = "!=", s)
  | none => do
    let s ← CharSet.ofName? name
    some (false, s)

/-- The name of a set: what stands between braces, or one character. -/
def setName : PatternReader Text := do
  skipSpace
  if ← accept "\x7b" then readBraced
  else
    let c ← next
    if c = '\\' then failure
    pure [c]

/-- A set of characters that is known by name. -/
def propertySet (negated : Bool) : PatternReader CharSet := do
  let name ← setName
  if !(← get).flags.unicode then failure
  match namedSet? name with
  | some (inner, s) => pure (negateIf (negated != inner) (← foldCase s))
  | none => failure

/-- A class under the current flags. -/
def classSet (negated : Bool) (p : CharProperty) (ascii : CharSet) : PatternReader CharSet := do
  let flags := (← get).flags
  finish (negateIf negated (if flags.unicode then .property p else ascii))

/-- The characters of words under the current flags. -/
def wordSet : PatternReader CharSet :=
  classSet false .wordChar .asciiWord

/-- An edge of words. -/
def wordEdge (edge : WordEdge) : PatternReader Escape := do
  pure (.assertion (.word edge (← wordSet)))

/-- The names of edges of words. -/
def edgeNames : List (String × WordEdge) :=
  [("start", .start), ("end", .stop), ("start-half", .startHalf), ("end-half", .stopHalf)]

/-- The character may stand in the name of an edge. -/
def isEdgeNameChar (c : Char) : Bool :=
  c.isAlpha || c = '-'

/-- An edge of words, which may have a name in braces; braces with a number are left for a
repetition. -/
def namedEdge : PatternReader Escape := do
  let t ← left
  if ← accept "\x7b" then
    skipSpace
    match ← left with
    | [] => failure
    | c :: _ =>
      if isEdgeNameChar c then
        let name ← readSpaced isEdgeNameChar (← left).length
        require "\x7d"
        match edgeNames.find? (·.1.toList = name) with
        | some (_, edge) => wordEdge edge
        | none => failure
      else
        goOn t
        wordEdge .boundary
  else wordEdge .boundary

/-- The characters that a backslash makes plain. -/
def isPlain (c : Char) : Bool :=
  c.toNat < 0x80 && !c.isAlphanum && c ≠ '<' && c ≠ '>'

/-- The control characters that letters stand for behind a backslash. -/
def controls : List (Char × Char) :=
  [('a', '\x07'), ('f', '\x0c'), ('t', '\t'), ('n', '\n'), ('r', '\r'), ('v', '\x0b')]

/-- What comes behind a backslash. -/
def escape : PatternReader Escape := do
  let c ← next
  match c with
  | 'x' => do
    skipSpace
    let braced := (← left).head? = some '{'
    let d ← hexChar 2
    pure (.char d !braced)
  | 'u' => let d ← hexChar 4; pure (.char d false)
  | 'U' => let d ← hexChar 8; pure (.char d false)
  | 'p' => let s ← propertySet false; pure (.set s)
  | 'P' => let s ← propertySet true; pure (.set s)
  | 'd' => let s ← classSet false (.category .decimalNumber) .asciiDigits; pure (.set s)
  | 'D' => let s ← classSet true (.category .decimalNumber) .asciiDigits; pure (.set s)
  | 's' => let s ← classSet false (.binary .whiteSpace) .asciiSpace; pure (.set s)
  | 'S' => let s ← classSet true (.binary .whiteSpace) .asciiSpace; pure (.set s)
  | 'w' => let s ← classSet false .wordChar .asciiWord; pure (.set s)
  | 'W' => let s ← classSet true .wordChar .asciiWord; pure (.set s)
  | 'A' => pure (.assertion .textStart)
  | 'z' => pure (.assertion .textEnd)
  | 'b' => namedEdge
  | 'B' => wordEdge .inside
  | '<' => wordEdge .start
  | '>' => wordEdge .stop
  | c =>
    if isPlain c then pure (.char c false)
    else
      match controls.find? (·.1 = c) with
      | some (_, d) => pure (.char d false)
      | none => failure

/-! ## Sets in brackets -/

/-- The operations on sets. -/
inductive SetOperation where
  | intersection
  | difference
  | symmetricDifference
deriving DecidableEq

namespace SetOperation

/-- The set that the operation makes. -/
def apply : SetOperation → CharSet → CharSet → CharSet
  | intersection => .intersection
  | difference => .difference
  | symmetricDifference => .symmetricDifference

/-- The signs of the operations. -/
def signs : List (String × SetOperation) :=
  [("&&", intersection), ("--", difference), ("~~", symmetricDifference)]

end SetOperation

/-- The ASCII class between a bracket and a colon and their counterparts, whether it is
negated, and the rest of the text. -/
def asciiClass? (t : Text) : Option (Bool × CharSet × Text) := do
  let r ← Text.strip? "[:".toList t
  let (negated, r) := if r.head? = some '^' then (true, r.drop 1) else (false, r)
  let name := r.takeWhile (· ≠ ':')
  let rest ← Text.strip? ":]".toList (r.drop name.length)
  let (_, s) ← CharSet.asciiClasses.find? (·.1.toList = name)
  some (negated, s, rest)

/-- A character of a set, or an escape. -/
def setItem : PatternReader Escape := do
  match ← next with
  | '\\' => escape
  | c => pure (.char c false)

/-- A range of characters, which must not be empty. Where classes are those of ASCII, no
other characters may be its ends. -/
def rangeSet (first last : Char) : PatternReader CharSet := do
  if last < first || (!(← get).flags.unicode && '\x80' ≤ last) then failure
  pure (.range first last)

/-- The set of an item. -/
def itemSet : Escape → PatternReader CharSet
  | .char c _ => rangeSet c c
  | .set s => pure s
  | .assertion _ => failure

/-- The character that decides whether a hyphen before `t` makes a range. With free spacing it
is the first one behind white space and one number sign. -/
def rangeSign (freeSpacing : Bool) (t : Text) : Option Char :=
  if freeSpacing then
    match t.dropWhile isBlank with
    | '#' :: r => (r.dropWhile isBlank).head?
    | r => r.head?
  else t.head?

/-- A range, or a single item. A hyphen before the closing bracket or before another hyphen
makes no range. -/
def setRange : PatternReader CharSet := do
  let first ← setItem
  skipSpace
  let t ← left
  match t with
  | '-' :: r =>
    let sign := rangeSign (← get).flags.freeSpacing r
    if sign = some ']' || sign = some '-' then itemSet first
    else
      goOn r
      skipSpace
      let last ← setItem
      match first, last with
      | .char a _, .char b _ => rangeSet a b
      | _, _ => failure
  | _ => itemSet first

/-- The operation whose sign comes next. -/
def setOperation? : PatternReader (Option SetOperation) := do
  let t ← left
  match SetOperation.signs.find? fun (sign, _) => Text.startsWith sign.toList t with
  | some (_, operation) => goOn (t.drop 2); pure (some operation)
  | none => pure none

/-- The hyphens at the start of a set, and a closing bracket directly at its start. -/
def firstItems : PatternReader (List (Nested CharSet)) := do
  skipSpace
  let hyphens ← readSpaced (· = '-') (← left).length
  if hyphens.isEmpty then
    if ← accept "]" then pure [⟨.single ']', 0⟩] else pure []
  else pure (hyphens.map fun c => ⟨.single c, 0⟩)

/-- The set of the items read since the last operation, joined with its left side. -/
def joined (before : Option (SetOperation × Nested CharSet)) (items : List (Nested CharSet)) :
    PatternReader (Nested CharSet) := do
  let right := Nested.ofParts .unions items.reverse
  match before with
  | some (operation, left) =>
    let s := operation.apply (← foldCase left.value) (← foldCase right.value)
    pure ⟨s, max left.levels right.levels + 1⟩
  | none => pure right

mutual

/-- A set behind its opening bracket, nested at most `depth` deep. -/
def bracketSet : Nat → PatternReader (Nested CharSet)
  | 0 => failure
  | depth + 1 => do
    skipSpace
    let negated ← accept "^"
    let items ← firstItems
    let s ← setItems depth none items
    pure ⟨← finish (negateIf negated (← foldCase s.value)), s.levels + 1⟩

/-- The rest of a set, with the items read since the last operation, and that operation with
its left side. -/
def setItems :
    Nat → Option (SetOperation × Nested CharSet) → List (Nested CharSet) →
      PatternReader (Nested CharSet)
  | 0, _, _ => failure
  | depth + 1, before, items => do
    skipSpace
    let t ← left
    match t with
    | [] => failure
    | '[' :: r =>
      match asciiClass? t with
      | some (negated, s, r') =>
        goOn r'
        let s ← finish (negateIf negated (← foldCase s))
        setItems depth before (⟨s, 0⟩ :: items)
      | none =>
        goOn r
        let s ← bracketSet depth
        setItems depth before (s :: items)
    | ']' :: r => goOn r; joined before items
    | _ =>
      match ← setOperation? with
      | some operation =>
        let s ← joined before items
        setItems depth (some (operation, s)) []
      | none =>
        let s ← setRange
        setItems depth before (⟨s, 0⟩ :: items)

end

/-! ## Repetitions -/

/-- The pattern repeated; a question mark behind the sign makes the repetition lazy. -/
def repeated (p : Nested Pattern) (least : Nat) (most : Option Nat) :
    PatternReader (Nested Pattern) := do
  let isLazy ← accept "?"
  let greedy := isLazy == (← get).flags.swapGreed
  pure (p.raise fun p => .copies greedy p least most)

/-- A number between white space, if there is one. -/
def number? : PatternReader (Option Nat) := do
  let _ ← readWhile isBlank
  let digits ← readSpaced Char.isDigit (← left).length
  let _ ← readWhile isBlank
  let n := Decimal.digitsValue digits
  if n < UInt32.size then pure (if digits.isEmpty then none else some n) else failure

/-- The numbers of a repetition behind the opening brace. -/
def counts : PatternReader (Nat × Option Nat) := do
  skipSpace
  match ← number? with
  | none => failure
  | some least =>
    if ← accept "," then
      skipSpace
      if ← accept "\x7d" then pure (least, none)
      else
        match ← number? with
        | none => failure
        | some most =>
          require "\x7d"
          if least ≤ most then pure (least, some most) else failure
    else
      require "\x7d"
      pure (least, some least)

/-- The pattern with the signs of repetitions that come next, at most `n` of them. -/
def repetitions : Nat → Nested Pattern → PatternReader (Nested Pattern)
  | 0, p => pure p
  | n + 1, p => do
    skipSpace
    match ← left with
    | '*' :: r => do
      goOn r
      repetitions n (← repeated p 0 none)
    | '+' :: r => do
      goOn r
      repetitions n (← repeated p 1 none)
    | '?' :: r => do
      goOn r
      repetitions n (← repeated p 0 (some 1))
    | '{' :: r => do
      goOn r
      let (least, most) ← counts
      skipSpace
      repetitions n (← repeated p least most)
    | _ => pure p

/-! ## Groups -/

/-- The flag that a letter sets, to the given value. -/
def setFlag? (letter : Char) (value : Bool) (flags : PatternFlags) : Option PatternFlags :=
  match letter with
  | 'i' => some { flags with ignoreCase := value }
  | 'm' => some { flags with multiLine := value }
  | 's' => some { flags with dotAll := value }
  | 'U' => some { flags with swapGreed := value }
  | 'u' => some { flags with unicode := value }
  | 'R' => some { flags with returns := value }
  | 'x' => some { flags with freeSpacing := value }
  | _ => none

/-- The flags that letters set, and behind a hyphen clear. -/
def setFlags? (value : Bool) : Text → PatternFlags → Option PatternFlags
  | [], flags => some flags
  | '-' :: ls, flags => if value && !ls.isEmpty then setFlags? false ls flags else none
  | l :: ls, flags => if l ∈ ls then none else (setFlag? l value flags).bind (setFlags? value ls)

/-- The character may stand in the name of a group. -/
def isGroupNameChar (first : Bool) (c : Char) : Bool :=
  c = '_' || Latest.isAlphabetic c ||
    (!first && (c = '.' || c = '[' || c = ']' || Latest.isNumber c))

/-- The name of a group up to the closing bracket. -/
def groupName : PatternReader Text := do
  let name ← readWhile (· ≠ '>')
  require ">"
  match name with
  | [] => failure
  | c :: cs =>
    if isGroupNameChar true c && cs.all (isGroupNameChar false) then pure name else failure

/-- The number of the next group. -/
def newGroup : PatternReader Nat := do
  modify fun s => { s with groupCount := s.groupCount + 1 }
  pure (← get).groupCount

/-- The number of the next group, which gets a name that no group before it has. -/
def newNamedGroup (name : Text) : PatternReader Nat := do
  let n ← newGroup
  if (← get).names.any (·.1 = name) then failure
  modify fun s => { s with names := (name, n) :: s.names }
  pure n

/-- What an opening parenthesis starts. -/
inductive Opening where
  /-- A group that marks what it matches. -/
  | marked (n : Nat)
  /-- A group with flags of its own. -/
  | plain (flags : PatternFlags)
  /-- New flags for the rest of the group around it. -/
  | flags (flags : PatternFlags)

/-- What comes directly behind an opening parenthesis. -/
def opening : PatternReader Opening := do
  skipSpace
  let t ← left
  if ["?=", "?!", "?<=", "?<!"].any fun sign => Text.startsWith sign.toList t then failure
  if (← accept "?P<") || (← accept "?<") then
    let name ← groupName
    pure (.marked (← newNamedGroup name))
  else if ← accept "?" then
    let letters ← readWhile fun c => !(c = ':' || c = ')')
    match setFlags? true letters (← get).flags with
    | none => failure
    | some flags =>
      if ← accept ":" then pure (.plain flags)
      else
        require ")"
        if letters.isEmpty then failure else pure (.flags flags)
  else pure (.marked (← newGroup))

/-! ## Patterns -/

/-- The set of characters that the dot stands for. -/
def dotSet (flags : PatternFlags) : CharSet :=
  if flags.dotAll then .all
  else if flags.returns then .complement (.union (.single '\n') (.single '\r'))
  else .complement (.single '\n')

/-- A character under the current flags. -/
def charPattern (c : Char) : PatternReader Pattern := do
  pure (.oneOf (← foldCase (.single c)))

/-- The pattern of an escape. A character outside ASCII cannot be given by two digits where
classes are those of ASCII. -/
def escapePattern : Escape → PatternReader Pattern
  | .char c byCode => do
    if byCode && !(← get).flags.unicode && '\x80' ≤ c then failure
    charPattern c
  | .set s => pure (.oneOf s)
  | .assertion a => pure (.assertion a)

/-- A part of a pattern that is one character long or an escape. -/
def simplePart : PatternReader Pattern := do
  let c ← next
  let flags := (← get).flags
  match c with
  | '\\' => do
    let e ← escape
    escapePattern e
  | '.' => do pure (.oneOf (← finish (dotSet flags)))
  | '^' => pure (.assertion (if flags.multiLine then .lineStart flags.returns else .textStart))
  | '$' => pure (.assertion (if flags.multiLine then .lineEnd flags.returns else .textEnd))
  | c => if "*+?\x7b".toList.contains c then failure else charPattern c

mutual

/-- The alternatives up to the end of the group, nested at most `depth` deep. -/
def alternatives : Nat → PatternReader (List (Nested Pattern))
  | 0 => failure
  | depth + 1 => do
    let ps ← parts depth
    let p := Nested.ofParts .inSequence ps
    if ← accept "|" then
      let qs ← alternatives depth
      pure (p :: qs)
    else pure [p]

/-- The parts up to the end of the alternative. Where flags are set, there is an empty part. -/
def parts : Nat → PatternReader (List (Nested Pattern))
  | 0 => failure
  | depth + 1 => do
    skipSpace
    match ← left with
    | [] | '|' :: _ | ')' :: _ => pure []
    | _ =>
      let p ←
        match ← part? depth with
        | none => pure ⟨.empty, 0⟩
        | some p => repetitions depth p
      let ps ← parts depth
      pure (p :: ps)

/-- The next part without its repetitions; nothing where flags are set. -/
def part? : Nat → PatternReader (Option (Nested Pattern))
  | 0 => failure
  | depth + 1 => do
    if ← accept "(" then
      let outer := (← get).flags
      match ← opening with
      | .flags flags => do
        modify ({ · with flags := flags })
        pure none
      | .plain flags => do
        modify ({ · with flags := flags })
        let ps ← alternatives depth
        require ")"
        modify ({ · with flags := outer })
        pure (some ((Nested.ofParts .firstOf ps).raise id))
      | .marked n => do
        let ps ← alternatives depth
        require ")"
        modify ({ · with flags := outer })
        pure (some ((Nested.ofParts .firstOf ps).raise (.group n)))
    else if ← accept "[" then
      let s ← bracketSet depth
      pure (some ⟨.oneOf s.value, s.levels⟩)
    else
      let p ← simplePart
      pure (some ⟨p, 0⟩)

end

end PatternReader

namespace NamedPattern

/-- The pattern that is written in `t`. -/
def parse? (t : Text) : Option NamedPattern := do
  let (ps, s) ← (PatternReader.alternatives (4 * t.length + 4)).run { rest := t }
  let p := Nested.ofParts .firstOf ps
  if s.rest.isEmpty && p.levels ≤ nestingLimit then some ⟨p.value, s.names⟩ else none

end NamedPattern

end LatexRepair
