import LatexRepair.Pattern.Search

/-!
# Replacing what a pattern matches

The replacement of a match is a template: a dollar sign with a number or a name stands for
what the group matched, two dollar signs stand for one, and a dollar sign with nothing that
could be a group stands for itself. A name goes as far as letters, digits and underscores
go, or up to the closing brace when it stands in braces. Groups that do not exist or did
not match leave nothing.
-/

namespace LatexRepair

/-- A piece of a template. -/
inductive TemplatePiece where
  | literal (c : Char)
  | number (n : Nat)
  | name (t : Text)
deriving DecidableEq, Inhabited

namespace TemplatePiece

/-- A character of a name without braces. -/
def isNameChar (c : Char) : Bool :=
  c.isAlphanum || c = '_'

/-- The group with a number, with or without a plus sign, or else with a name. -/
def ofReference (t : Text) : TemplatePiece :=
  let digits := if t.head? = some '+' then t.drop 1 else t
  match digits, digits.all Char.isDigit with
  | _ :: _, true => number (digits.foldl (fun n c => n * 10 + (c.toNat - '0'.toNat)) 0)
  | _, _ => name t

/-- The reference behind a dollar sign, and the number of its characters. -/
def reference? : Text → Option (TemplatePiece × Nat)
  | '{' :: t =>
    let inner := t.takeWhile (· ≠ '}')
    if inner.length < t.length then some (ofReference inner, inner.length + 2) else none
  | t =>
    match t.takeWhile isNameChar with
    | [] => none
    | inner => some (ofReference inner, inner.length)

/-- The pieces of a template. -/
def ofText : Text → List TemplatePiece
  | [] => []
  | '$' :: '$' :: t => literal '$' :: ofText t
  | '$' :: t =>
    match reference? t with
    | some (piece, n) => piece :: ofText (t.drop n)
    | none => literal '$' :: ofText t
  | c :: t => literal c :: ofText t
termination_by t => t.length
decreasing_by
  all_goals simp only [List.length_drop, List.length_cons]; omega

end TemplatePiece

/-- A pattern with the names of its groups. -/
structure NamedPattern where
  pattern : Pattern
  names : List (Text × Nat)
deriving DecidableEq, Inhabited

namespace NamedPattern

/-- The text of a piece for a match in the text `t`. -/
def fill (p : NamedPattern) (t : Text) (m : PatternMatch) : TemplatePiece → Text
  | .literal c => [c]
  | .number n => (m.group? t n).getD []
  | .name name =>
    ((p.names.find? (·.1 = name)).bind fun (_, n) => m.group? t n).getD []

/-- The text `t`, which starts at the given place, with matches replaced. -/
def assemble (replacement : PatternMatch → Text) (place : Nat) (t : Text) :
    List PatternMatch → Text
  | [] => t
  | m :: ms =>
    t.take (m.start - place) ++
      (replacement m ++ assemble replacement m.stop (t.drop (m.stop - place)) ms)

/-- `t` with everything that the pattern matches replaced by the template. -/
def replaceAll (p : NamedPattern) (template t : Text) : Text :=
  let pieces := TemplatePiece.ofText template
  assemble (fun m => pieces.flatMap (p.fill t m)) 0 t (p.pattern.matchesIn t)

end NamedPattern

end LatexRepair
