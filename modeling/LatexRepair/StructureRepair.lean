import LatexRepair.GuidedFix
import LatexRepair.Occurrence
import LatexRepair.Position

/-!
# Repair of the structure

The rules for a rendition whose lines no longer correspond to those of its guide. They
compare the markers of the two documents, and the balance of their braces, and are applied
once each, in this order:

1. The ends of the document that the guide does not have are removed, with the line when
   nothing else stands on it (`dropTerminators`).
2. A marker that is live in the guide comes back where a comment hides it
   (`restoreHidden`).
3. An end that the guide has is inserted before the end of the document where the
   rendition leaves the environment open (`restoreEnds`).
4. A closing brace directly behind the end of a table comes back (`restoreClosers`).
5. Nested bold and italic text that is closed only once is closed twice, as long as the
   rendition has more open braces than the guide (`closeStyles`).
6. Closing braces at the end of the rendition are removed where the guide has at least
   three fewer (`trimBraces?`).
-/

namespace LatexRepair

namespace StructureRepair

/-- The lines of a document and what was done to them. -/
abbrev Step := List Text × List GuidedFix

/-! ## Ends of the document -/

/-- Remove the live ends of the document but for the first `keep` of them, from lines that
start with the given number. -/
def removeTerminators (keep number : Nat) : List Text → Step
  | [] => ([], [])
  | line :: rest =>
    let live := (liveMarkers line).filter (·.marker = .endDocument)
    let surplus := live.drop keep
    let (rest', fixes) := removeTerminators (keep - live.length) (number + 1) rest
    if surplus.isEmpty then (line :: rest', fixes)
    else
      let line' := Edit.applyAll (surplus.map fun m => .delete m.start m.stop) line
      (if Text.isBlankText line' then rest' else line' :: rest',
        surplus.map (fun _ => .removedDuplicateTerminator number) ++ fixes)

/-- Leave as many ends of the document as the guide has, if it has at most one. -/
def dropTerminators (ts gs : List Text) : Step :=
  let keep := Occurrences.liveCount .endDocument (Occurrence.ofLines gs)
  if keep ≤ 1 then removeTerminators keep 1 ts else (ts, [])

/-! ## Hidden markers -/

/-- The occurrences of a marker in the rendition to bring back: those that are restorable
where the guide has the marker live, if the marker occurs equally often in both. -/
def restorableOf (ts gs : List Occurrence) (m : Marker) : List Occurrence :=
  let t := Occurrences.of m ts
  let g := Occurrences.of m gs
  if t.length = g.length then
    ((t.zip g).filter fun (x, y) => x.state = .restorable && y.isLive).map (·.1)
  else []

/-- Delete the percent signs before the hidden marker of a line. -/
def uncomment (line : Text) : Text :=
  match hiddenMarker? line with
  | some h => (Edit.delete h.start h.stop).apply line
  | none => line

/-- Bring back hidden markers. -/
def restoreHidden (ts gs : List Text) : Step :=
  let tOcc := Occurrence.ofLines ts
  let oOcc := Occurrence.ofLines gs
  let targets := (Occurrences.distinctMarkers tOcc).flatMap (restorableOf tOcc oOcc)
  let sorted := targets.mergeSort fun x y => x.line ≤ y.line
  (ts.mapIdx fun i line => if sorted.any (·.line = i) then uncomment line else line,
    sorted.map fun x => .uncommented (x.line + 1) x.marker)

/-! ## Lost ends -/

/-- How many copies of the end of an environment the rendition lacks. None are missing
when it opens the environment less often than the guide, or closes it as often as it
opens it. -/
def missingCount (ts gs : List Occurrence) (m : Marker) : Nat :=
  let opening : Marker := ⟨.opening, m.name⟩
  let opened := Occurrences.liveCount opening ts
  let closed := Occurrences.liveCount m ts
  if opened < Occurrences.liveCount opening gs || opened ≤ closed then 0
  else min (Occurrences.liveCount m gs) opened - closed

/-- The ends that the rendition lacks. -/
def missingEnds (ts gs : List Occurrence) : List Marker :=
  ((Occurrences.distinctMarkers gs).filter (·.kind = .closing)).flatMap fun m =>
    List.replicate (missingCount ts gs m) m

/-- The line has a live end of the document. -/
def hasTerminator (line : Text) : Bool :=
  (liveMarkers line).any (·.marker = .endDocument)

/-- Insert the ends that the rendition lacks before its end of the document, or where it
has none, at its end but before a final newline. -/
def restoreEnds (ts gs : List Text) : Step :=
  let missing := missingEnds (Occurrence.ofLines ts) (Occurrence.ofLines gs)
  let (place, inserted) : Nat × List Marker :=
    match ts.findIdx? hasTerminator with
    | some i => (i, missing.filter (· ≠ Marker.endDocument))
    | none => (if ts.getLast? = some [] then ts.length - 1 else ts.length, missing)
  (ts.take place ++ inserted.map (·.text) ++ ts.drop place,
    inserted.mapIdx fun i m => .insertedEnd (place + i + 1) m)

/-! ## Braces behind tables -/

/-- A closing brace stands directly behind the occurrence. -/
def closedBehind (lines : List Text) (x : Occurrence) : Bool :=
  Text.startsWith ['}'] (((lines[x.line]?).getD []).drop x.stop)

/-- The live ends of an environment that lack the closing brace which the guide has
behind them, if the end is live equally often in both. -/
def unclosedOf (ts gs : List Text) (m : Marker) : List Occurrence :=
  let t := Occurrences.liveOf m (Occurrence.ofLines ts)
  let g := Occurrences.liveOf m (Occurrence.ofLines gs)
  if t.length = g.length then
    ((t.zip g).filter fun (x, y) => closedBehind gs y && !closedBehind ts x).map (·.1)
  else []

/-- Insert a closing brace behind each of the occurrences. -/
def insertClosers (ts : List Text) (xs : List Occurrence) : List Text :=
  xs.foldl (fun ls x => ls.modify x.line (Edit.insert x.stop ['}']).apply) ts

/-- Bring back the closing braces behind the ends of tables, the last one first. -/
def restoreClosers (ts gs : List Text) : Step :=
  let tables := (Occurrences.distinctMarkers (Occurrence.ofLines ts)).filter fun m =>
    m.kind = .closing && Catalog.mem m.name Catalog.tabularEnvironments
  let targets := (tables.flatMap (unclosedOf ts gs)).mergeSort fun x y =>
    Position.le (y.line, y.stop) (x.line, x.stop)
  (insertClosers ts targets, targets.map fun x => .restoredCloser (x.line + 1) x.marker)

/-! ## Half-closed styles -/

/-- The openings of bold text in italic text and of italic text in bold text. -/
def styleOpenings : List Text :=
  ["\\textbf\x7b\\textit\x7b".toList, "\\textit\x7b\\textbf\x7b".toList]

/-- The punctuation that shows that a style ends. -/
def isClosingPunctuation (c : Char) : Bool :=
  "=,;:，；：)）".toList.contains c

/-- The number of characters up to the closing brace of a half-closed style at the start of
a text: an opening, text without braces, one closing brace and punctuation. -/
def halfClosedLength? (t : Text) : Option Nat := do
  let opening ← styleOpenings.find? (Text.startsWith · t)
  let inner := (t.drop opening.length).takeWhile fun c => c ≠ '{' && c ≠ '}'
  if inner.isEmpty then none
  match t.drop (opening.length + inner.length) with
  | '}' :: c :: _ =>
    if isClosingPunctuation c then some (opening.length + inner.length) else none
  | _ => none

/-- The place of the closing brace of the first half-closed style. -/
def halfClosed? : Text → Option Nat
  | [] => none
  | c :: t =>
    match halfClosedLength? (c :: t) with
    | some n => some n
    | none => (halfClosed? t).map (· + 1)

/-- A half-closed style starts somewhere in the text. -/
theorem exists_halfClosedLength? {t : Text} {i : Nat} (h : halfClosed? t = some i) :
    ∃ s r n, t = s ++ r ∧ halfClosedLength? r = some n ∧ i = s.length + n := by
  induction t generalizing i with
  | nil => cases h
  | cons c t ih =>
    rw [halfClosed?] at h
    split at h
    · rename_i n hn
      obtain rfl := Option.some.inj h
      exact ⟨[], c :: t, n, rfl, hn, (Nat.zero_add n).symm⟩
    · obtain ⟨j, hj, rfl⟩ := Option.map_eq_some_iff.1 h
      obtain ⟨s, r, n, rfl, hn, rfl⟩ := ih hj
      exact ⟨c :: s, r, n, rfl, hn, Nat.add_right_comm ..⟩

/-- Close at most `budget` half-closed styles of a line; the number of those closed. -/
def closeInLine : Nat → Text → Text × Nat
  | 0, line => (line, 0)
  | budget + 1, line =>
    match halfClosed? (codePart line) with
    | none => (line, 0)
    | some i =>
      let (line', n) := closeInLine budget ((Edit.insert i ['}']).apply line)
      (line', n + 1)

/-- Close at most `budget` half-closed styles in lines that start with the given number. -/
def closeInLines (budget number : Nat) : List Text → Step
  | [] => ([], [])
  | line :: rest =>
    let (line', n) := closeInLine budget line
    let (rest', fixes) := closeInLines (budget - n) (number + 1) rest
    (line' :: rest', List.replicate n (.closedStyle number) ++ fixes)

/-- Close half-closed styles, as many as the rendition has more open braces than the
guide. -/
def closeStyles (ts gs : List Text) : Step :=
  closeInLines (documentBalance ts - documentBalance gs).toNat 1 ts

/-! ## Trailing braces -/

/-- The white space that trailing braces may have between them when they are counted. -/
def isLineSpace (c : Char) : Bool :=
  c = ' ' || c = '\t' || c = '\n' || c = '\r'

theorem isBlank_of_isLineSpace {c : Char} (h : isLineSpace c = true) : isBlank c = true := by
  simp only [isLineSpace, Bool.or_eq_true, decide_eq_true_eq] at h
  rcases h with ((rfl | rfl) | rfl) | rfl <;> decide

/-- The number of closing braces at the end of a text. -/
def trailingBraces (t : Text) : Nat :=
  (((Text.trimEnd t).reverse.filter (!isLineSpace ·)).takeWhile (· = '}')).length

/-- How many more trailing braces than the guide a rendition may have. -/
def slack : Nat := 2

/-- Remove at most `n` closing braces, with the white space between them, from the front of
a reversed text; the number of those removed. -/
def stripBraces (n : Nat) : Text → Text × Nat
  | [] => ([], 0)
  | c :: t =>
    if n = 0 then (c :: t, 0)
    else if c = '}' then
      let (u, k) := stripBraces (n - 1) t
      (u, k + 1)
    else if isBlank c then stripBraces n t
    else (c :: t, 0)

/-- The rendition with no more trailing braces than the guide, and the number of
braces removed. -/
def trimBraces? (rendition guide : Text) : Option (Text × Nat) :=
  let ours := trailingBraces rendition
  let theirs := trailingBraces guide
  if ours ≤ theirs + slack then none
  else
    let body := Text.trimEnd rendition
    let (kept, n) := stripBraces (ours - theirs) body.reverse
    some (Text.trimEnd kept.reverse ++ rendition.drop body.length, n)

/-- As many closing braces are stripped as are asked for, if so many stand there with nothing but
line space between them. -/
theorem snd_stripBraces {n : Nat} {t : Text}
    (h : n ≤ ((t.filter (!isLineSpace ·)).takeWhile (· = '}')).length) :
    (stripBraces n t).2 = n := by
  induction t generalizing n with
  | nil => exact (Nat.le_zero.1 h).symm
  | cons c t ih =>
    rw [stripBraces]
    split
    · exact Eq.symm ‹_›
    · rename_i hn
      split
      · rename_i hc
        subst hc
        rw [List.filter_cons_of_pos (by decide), List.takeWhile_cons_of_pos (by decide),
          List.length_cons] at h
        dsimp only
        rw [ih (by omega)]
        omega
      · rename_i hc
        cases hspace : isLineSpace c with
        | true =>
          rw [if_pos (isBlank_of_isLineSpace hspace)]
          rw [List.filter_cons_of_neg (by simp [hspace])] at h
          exact ih h
        | false =>
          rw [List.filter_cons_of_pos (by simp [hspace]), List.takeWhile_cons_of_neg (by simpa),
            List.length_nil] at h
          omega

theorem trimBraces?_eq_some_iff {t guide u : Text} {n : Nat} :
    trimBraces? t guide = some (u, n) ↔
      trailingBraces guide + slack < trailingBraces t ∧
        n = trailingBraces t - trailingBraces guide ∧
          u = Text.trimEnd (stripBraces n (Text.trimEnd t).reverse).1.reverse ++
            t.drop (Text.trimEnd t).length := by
  have hcount : (stripBraces (trailingBraces t - trailingBraces guide) (Text.trimEnd t).reverse).2 =
      trailingBraces t - trailingBraces guide := snd_stripBraces (Nat.sub_le _ _)
  unfold trimBraces?
  dsimp only
  rw [hcount]
  split
  · rename_i hle
    simp [Nat.not_lt.2 hle]
  · rename_i hlt
    rw [Option.some.injEq, Prod.mk.injEq]
    constructor
    · rintro ⟨rfl, rfl⟩
      exact ⟨Nat.lt_of_not_le hlt, rfl, rfl⟩
    · rintro ⟨-, rfl, rfl⟩
      exact ⟨rfl, rfl⟩

/-! ## All rules -/

/-- One rule after another. -/
def andThen (rule : List Text → List Text → Step) (gs : List Text) (s : Step) : Step :=
  let (ts, fixes) := rule s.1 gs
  (ts, s.2 ++ fixes)

/-- The rules that work on lines. -/
def lineRules : List (List Text → List Text → Step) :=
  [dropTerminators, restoreHidden, restoreEnds, restoreClosers, closeStyles]

end StructureRepair

open StructureRepair

/-- Repair the structure of a rendition against its guide. -/
def repairStructure (rendition guide : Text) : GuidedRepair :=
  let gs := Text.lines guide
  let (ts, fixes) := lineRules.foldl (fun s rule => andThen rule gs s) (Text.lines rendition, [])
  let joined := Text.unlines ts
  match trimBraces? joined guide with
  | some (trimmed, n) => ⟨trimmed, fixes ++ [.trimmedBraces n]⟩
  | none => ⟨joined, fixes⟩

/-- The rules on lines come first, and trailing braces are trimmed from the text they leave. -/
theorem content_repairStructure (rendition guide : Text) :
    let joined := Text.unlines (lineRules.foldl (fun s rule => andThen rule (Text.lines guide) s)
      (Text.lines rendition, [])).1
    (repairStructure rendition guide).content =
      ((trimBraces? joined guide).map (·.1)).getD joined := by
  unfold repairStructure
  dsimp only
  cases trimBraces? _ guide <;> rfl

end LatexRepair
