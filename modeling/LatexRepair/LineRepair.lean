import LatexRepair.Edit
import LatexRepair.Skeleton

/-!
# Repair of a line against its counterpart

The rules for one line of a rendition and its counterpart, the line of the guide that it
renders. Each rule answers with one edit of the line; the first rule that applies is
applied, and then the rules are asked again, at most `maxRounds` times.

1. An `\end{document}` that the counterpart does not have is removed.
2. A hidden marker comes back when the counterpart has more live copies of it.
3. A command line that is commented out comes back when the counterpart is no comment.
4. A line whose counterpart is a comment gets the comment intro of the counterpart, unless
   that would hide structure that the comment of the counterpart does not hold.
5. A single missing or surplus closing brace is inserted or removed where the skeletons of
   the two lines show it, when the counterpart holds a catalogued command.
-/

namespace LatexRepair

/-- What a rule did to a line. -/
inductive LineFix where
  | removedTerminator
  | uncommentedMarker (marker : Marker)
  | uncommentedCommand (name : Text)
  | restoredComment
  | insertedBrace
  | removedBrace
deriving DecidableEq, Inhabited

namespace LineFix

/-- What a rule did to the line with the given number, in words. -/
def message (number : Nat) (f : LineFix) : String :=
  let what :=
    match f with
    | removedTerminator => "removed \\end{document} absent from the original"
    | uncommentedMarker m => "uncommented " ++ String.ofList m.text
    | uncommentedCommand name => "uncommented \\" ++ String.ofList name
    | restoredComment => "restored comment marker"
    | insertedBrace => "inserted missing '\x7d'"
    | removedBrace => "removed extra '\x7d'"
  s!"L{number}: " ++ what

end LineFix

/-- The text of the marker that ends a document. -/
def terminator : Text :=
  Marker.endDocument.text

namespace LineRepair

/-! ## Terminators -/

/-- Remove the end of the document from a line whose counterpart does not have it. -/
def removeTerminator? (t g : Text) : Option (Edit × LineFix) := do
  if Text.contains terminator (codePart g) then none
  let i ← Text.find? terminator (codePart t)
  some (.delete i (i + terminator.length), .removedTerminator)

/-! ## Comments -/

/-- How often a marker is live in a line. -/
def liveCount (m : Marker) (line : Text) : Nat :=
  (liveMarkers line).countP (·.marker = m)

/-- Bring back the hidden marker of a line. -/
def uncommentMarker? (t g : Text) : Option (Edit × LineFix) := do
  let hidden ← hiddenMarker? t
  if liveCount hidden.marker g ≤ liveCount hidden.marker t then none
  some (.delete hidden.start hidden.stop, .uncommentedMarker hidden.marker)

/-- Bring back a command line. Markers are left to the rule before. -/
def uncommentCommand? (t g : Text) : Option (Edit × LineFix) := do
  if isCommentLine g || !isCommentLine t then none
  let name ← leadingCommand? g
  if name = "begin".toList || name = "end".toList then none
  let intro ← commentIntro? t
  if commandName? (t.drop intro.length) ≠ some name then none
  some (.delete (indentation t).length intro.length, .uncommentedCommand name)

/-- Whether the list `wanted` can be taken out of `available`, each item at its first
occurrence. -/
def takesAll (available : List Text) : List Text → Bool
  | [] => true
  | w :: ws => available.contains w && takesAll (available.erase w) ws

/-- Make a line a comment again. -/
def restoreComment? (t g : Text) : Option (Edit × LineFix) := do
  if !isCommentLine g || isCommentLine t || Text.isBlankText t then none
  let intro ← commentIntro? g
  let available := structureTokens (g.drop intro.length)
  if !takesAll available (structureTokens (codePart t)) then none
  some (⟨0, (indentation t).length, intro⟩, .restoredComment)

/-! ## Braces -/

/-- The two skeletons hold the same markup. -/
def sameShape (a b : List PlacedToken) : Bool :=
  a.map (·.token) = b.map (·.token)

/-- The number of leading tokens that the two skeletons share. -/
def commonLength : List PlacedToken → List PlacedToken → Nat
  | x :: xs, y :: ys => if x.token = y.token then commonLength xs ys + 1 else 0
  | _, _ => 0

/-- The place behind the token before number `k`, or the start of the line. -/
def gapStart (tokens : List PlacedToken) (k : Nat) : Nat :=
  if k = 0 then 0 else (tokens[k - 1]?.map (·.stop)).getD 0

/-- The place of token number `k`, or the end of the code. -/
def gapStop (tokens : List PlacedToken) (code : Text) (k : Nat) : Nat :=
  (tokens[k]?.map (·.start)).getD code.length

/-- The piece of a text from `start` up to `stop`. -/
def piece (t : Text) (start stop : Nat) : Text :=
  (t.take stop).drop start

/-- Where in the gap before token number `k` of a line the closing brace belongs that its
counterpart has there. With nothing between the brace and the next
token it belongs directly before that token; with white space only, behind the prose of
the gap; with nothing before the brace, at the start of the gap; and otherwise before the
text that follows the brace in the counterpart, if the gap ends with it. -/
def bracePlace? (tCode gCode : Text) (tTokens gTokens : List PlacedToken) (k : Nat)
    (closer : PlacedToken) : Option Nat :=
  let before := piece gCode (gapStart gTokens k) closer.start
  let behind := piece gCode closer.stop (gapStop gTokens gCode (k + 1))
  let start := gapStart tTokens k
  let stop := gapStop tTokens tCode k
  let gap := piece tCode start stop
  if behind.isEmpty then some stop
  else if Text.isBlankText behind then some (start + (Text.trimEnd gap).length)
  else if before.isEmpty then some start
  else if Text.endsWith behind gap then some (stop - behind.length)
  else none

/-- The token is a command around which braces may be balanced. -/
def isCatalogued (x : PlacedToken) : Bool :=
  match x.token with
  | .command name => Catalog.mem name Catalog.multiArgumentCommands
  | _ => false

/-- Insert the one closing brace that a line lacks, or remove the one that it has too
many. -/
def rebalance? (t g : Text) : Option (Edit × LineFix) := do
  let tCode := codePart t
  let gCode := codePart g
  let tTokens := skeleton tCode
  let gTokens := skeleton gCode
  if !gTokens.any isCatalogued then none
  let excess := braceBalance tTokens - braceBalance gTokens
  let k := commonLength tTokens gTokens
  if excess = 1 then
    let closer ← gTokens[k]?
    if closer.token ≠ .closeBrace then none
    if !sameShape (tTokens.drop k) (gTokens.drop (k + 1)) then none
    let i ← bracePlace? tCode gCode tTokens gTokens k closer
    some (.insert i ['}'], .insertedBrace)
  else if excess = -1 then
    let extra ← tTokens[k]?
    if extra.token ≠ .closeBrace then none
    if !sameShape (tTokens.drop (k + 1)) (gTokens.drop k) then none
    some (.delete extra.start extra.stop, .removedBrace)
  else none

/-! ## Rounds -/

/-- The first rule that applies to the line `t` with the counterpart `g`. -/
def rule? (t g : Text) : Option (Edit × LineFix) :=
  removeTerminator? t g <|> uncommentMarker? t g <|> uncommentCommand? t g <|>
    restoreComment? t g <|> rebalance? t g

/-- The line after the first rule that applies, if that changes it. -/
def step? (t g : Text) : Option (Text × LineFix) := do
  let (edit, fix) ← rule? t g
  let u := edit.apply t
  if u = t then none else some (u, fix)

/-- At most `n` steps. -/
def rounds : Nat → Text → Text → Text × List LineFix
  | 0, t, _ => (t, [])
  | n + 1, t, g =>
    match step? t g with
    | none => (t, [])
    | some (u, fix) =>
      let (v, fixes) := rounds n u g
      (v, fix :: fixes)

/-- The number of steps after which a line is left as it is. -/
def maxRounds : Nat := 8

end LineRepair

/-- Repair the line `t` against its counterpart `g`. -/
def repairLine (t g : Text) : Text × List LineFix :=
  LineRepair.rounds LineRepair.maxRounds t g

end LatexRepair
