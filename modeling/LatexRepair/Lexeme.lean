import LatexRepair.Catalog
import LatexRepair.Include
import LatexRepair.Position

/-!
# Lexemes

A document is read as a sequence of lexemes, each of at least one character: comments,
control words with the argument that belongs to them, control symbols, delimiters, and
single characters of plain text. What a lexeme is depends on the text from its first
character on and on nothing read before, so reading may start anywhere a lexeme ends.

* A comment is an unescaped `%` with all that follows on its line.
* `\begin`, `\end` and the inclusion commands take one plain group on their line as their
  argument (`groupArgument?`); without one they are control words like any other.
* `\verb` takes the text up to the second occurrence of its delimiter on the line, and a
  verbatim environment all text up to the first occurrence of its end.
* A run of dollar signs is one lexeme; which of them pair up is not decided here.

`lexeme` gives the token that starts with a character, with the number of further
characters that belong to it; `lexemes` reads a whole text.
-/

namespace LatexRepair

/-- What a lexeme is. -/
inductive Token where
  /-- `%` and the rest of its line. -/
  | comment
  | openBrace
  | closeBrace
  | openBracket
  | closeBracket
  /-- A run of dollar signs. -/
  | dollars (count : Nat)
  /-- A backslash and one character that is no letter. -/
  | controlSymbol (c : Char)
  /-- A control word that opens and closes nothing. -/
  | controlWord (name : Text)
  | documentClass
  | beginEnvironment (name : Text)
  | endEnvironment (name : Text)
  /-- A verbatim environment with its body, and its end when there is one. -/
  | verbatim (name : Text) (closed : Bool)
  | inclusion (command : IncludeCommand) (target : Text)
  /-- `\verb` with its delimited text. -/
  | verb
  /-- Any other character. -/
  | plain (c : Char)
deriving DecidableEq, Inhabited

/-- A token with the places where its text starts and ends. -/
structure Lexeme where
  token : Token
  start : Position
  stop : Position
deriving DecidableEq, Inhabited

namespace Lexeme

/-! ## Control words and their arguments -/

/-- The characters that a plain group does not hold. -/
def endsGroup (c : Char) : Bool :=
  c = '}' || c = '{' || c = '\\' || c = '%' || c = '\n'

/-- The plain group that `t` starts with, after spaces and tabs: its trimmed content, which
is not blank, and the number of characters up to the end of the group. -/
def groupArgument? (t : Text) : Option (Text × Nat) :=
  let blanks := t.takeWhile isSpaceOrTab
  match t.dropWhile isSpaceOrTab with
  | '{' :: body =>
    let content := body.takeWhile fun c => !endsGroup c
    match body.drop content.length with
    | '}' :: _ =>
      if Text.isBlankText content then none
      else some (Text.trim content, blanks.length + content.length + 2)
    | _ => none
  | _ => none

/-- The number of characters of `t` that belong to a `\verb` before it. The delimiter is
the first character behind an optional star; white space and letters delimit nothing, and
a line that ends before the delimiter comes back ends the text too. -/
def verbLength (t : Text) : Nat :=
  let star := if t.head? = some '*' then 1 else 0
  match t.drop star with
  | [] => star
  | d :: body =>
    if isBlank d || d.isAlpha then star
    else
      let content := body.takeWhile fun c => c ≠ d && c ≠ '\n'
      let closer := if (body.drop content.length).head? = some d then 1 else 0
      star + 1 + content.length + closer

/-- `\end` of the environment `name`, as it ends a verbatim environment. -/
def verbatimEnd (name : Text) : Text :=
  "\\end\x7b".toList ++ name ++ ['}']

/-- The token of the verbatim environment `name` whose body starts `t`, with the number of
characters of `t` that belong to it. -/
def verbatimToken (name t : Text) : Token × Nat :=
  match Text.find? (verbatimEnd name) t with
  | some i => (.verbatim name true, i + (verbatimEnd name).length)
  | none => (.verbatim name false, t.length)

/-- The token of the control word `name` before `t`, with the number of characters of `t`
that belong to it. -/
def controlWordToken (name t : Text) : Token × Nat :=
  if name = "begin".toList then
    match groupArgument? t with
    | some (env, n) =>
      if Catalog.mem env Catalog.verbatimEnvironments then
        let (token, m) := verbatimToken env (t.drop n)
        (token, n + m)
      else (.beginEnvironment env, n)
    | none => (.controlWord name, 0)
  else if name = "end".toList then
    match groupArgument? t with
    | some (env, n) => (.endEnvironment env, n)
    | none => (.controlWord name, 0)
  else if name = "documentclass".toList then (.documentClass, 0)
  else if name = "verb".toList then (.verb, verbLength t)
  else
    match IncludeCommand.ofName? name, groupArgument? t with
    | some command, some (target, n) => (.inclusion command target, n)
    | _, _ => (.controlWord name, 0)

/-- The token of a backslash before `t`, with the number of characters of `t` that belong
to it. -/
def controlToken (t : Text) : Token × Nat :=
  match t with
  | [] => (.plain '\\', 0)
  | c :: _ =>
    if isCommandChar c then
      let name := t.takeWhile isCommandChar
      let (token, n) := controlWordToken name (t.drop name.length)
      (token, name.length + n)
    else (.controlSymbol c, 1)

/-! ## Reading a text -/

/-- The token that starts with the character `c` before `t`, with the number of characters
of `t` that belong to it. -/
def lexeme (c : Char) (t : Text) : Token × Nat :=
  match c with
  | '%' => (.comment, (t.takeWhile (· ≠ '\n')).length)
  | '\\' => controlToken t
  | '{' => (.openBrace, 0)
  | '}' => (.closeBrace, 0)
  | '[' => (.openBracket, 0)
  | ']' => (.closeBracket, 0)
  | '$' =>
    let more := (t.takeWhile (· = '$')).length
    (.dollars (more + 1), more)
  | c => (.plain c, 0)

/-- The lexemes of a text that starts at `p`. -/
def lexemesFrom (p : Position) : Text → List Lexeme
  | [] => []
  | c :: t =>
    let (token, n) := lexeme c t
    let stop := (p.next c).after (t.take n)
    ⟨token, p, stop⟩ :: lexemesFrom stop (t.drop n)
termination_by t => t.length
decreasing_by simp only [List.length_drop, List.length_cons]; omega

/-- The lexemes of a document. -/
def lexemes (t : Text) : List Lexeme :=
  lexemesFrom Position.start t

end Lexeme

end LatexRepair
