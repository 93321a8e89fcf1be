import LatexRepair.Unicode.LowerCase

/-!
# Letters that differ by case

Two characters differ by case when they have the same folded form: the lower-case form, but
for characters of lower case that fold further. `caseVariants` lists all characters with
the folded form of a character.
-/

namespace LatexRepair

/-- Lower-case characters that fold further, each with its folded form. -/
def furtherFolds : List (Nat × Nat) :=
  [(0xb5, 0x3bc), (0x17f, 0x73), (0x345, 0x3b9), (0x3c2, 0x3c3), (0x3d0, 0x3b2), (0x3d1, 0x3b8),
    (0x3d5, 0x3c6), (0x3d6, 0x3c0), (0x3f0, 0x3ba), (0x3f1, 0x3c1), (0x3f5, 0x3b5),
    (0x1c80, 0x432), (0x1c81, 0x434), (0x1c82, 0x43e), (0x1c83, 0x441), (0x1c84, 0x442),
    (0x1c85, 0x442), (0x1c86, 0x44a), (0x1c87, 0x463), (0x1c88, 0xa64b), (0x1e9b, 0x1e61),
    (0x1fbe, 0x3b9), (0x1fd3, 0x390), (0x1fe3, 0x3b0), (0xfb05, 0xfb06)]

/-- The folded form of a code point. -/
def foldCode (n : Nat) : Nat :=
  let lower :=
    match lowerCaseRuns.find? (·.holds n) with
    | some r => (n + r.shift).toNat
    | none => n
  ((furtherFolds.find? (·.1 = lower)).map (·.2)).getD lower

/-- The code points whose lower-case form is `n`, and `n` itself. -/
def codesAbove (n : Nat) : List Nat :=
  n :: lowerCaseRuns.filterMap fun r =>
    let m := ((n : Int) - r.shift).toNat
    if r.holds m && (m : Int) + r.shift = n then some m else none

/-- The characters with the folded form of `c`. -/
def caseVariants (c : Char) : List Char :=
  let folded := foldCode c.toNat
  let lower := folded :: (furtherFolds.filter (·.2 = folded)).map (·.1)
  (lower.flatMap codesAbove).map Char.ofNat

example : caseVariants 'S' = ['s', 'S', 'ſ'] := by decide +kernel

end LatexRepair
