import LatexRepair.LineRepair

/-!
# Fixes of a guided repair

What a repair of a rendition against its guide did, with the number of the line that
it did it to, and a repaired text with its fixes.
-/

namespace LatexRepair

/-- One fix of a rendition. -/
inductive GuidedFix where
  | line (number : Nat) (fix : LineFix)
  | removedDuplicateTerminator (number : Nat)
  | uncommented (number : Nat) (marker : Marker)
  | insertedEnd (number : Nat) (marker : Marker)
  | restoredCloser (number : Nat) (marker : Marker)
  | closedStyle (number : Nat)
  | trimmedBraces (count : Nat)
deriving DecidableEq, Inhabited

/-- A fix in words. -/
def GuidedFix.message : GuidedFix → String
  | line number fix => fix.message number
  | removedDuplicateTerminator number => s!"L{number}: removed duplicate " ++ "\\end{document}"
  | uncommented number m => s!"L{number}: uncommented " ++ String.ofList m.text
  | insertedEnd number m => s!"L{number}: inserted missing " ++ String.ofList m.text
  | restoredCloser number m => s!"L{number}: restored '\x7d' after " ++ String.ofList m.text
  | closedStyle number => s!"L{number}: closed nested bold/italic style"
  | trimmedBraces count => s!"removed {count} trailing '\x7d' absent from the original"

/-- A repaired text and what was done to it. -/
structure GuidedRepair where
  content : Text
  fixes : List GuidedFix
deriving DecidableEq, Inhabited

/-- The number of fixes. -/
def GuidedRepair.fixCount (r : GuidedRepair) : Nat :=
  r.fixes.length

end LatexRepair
