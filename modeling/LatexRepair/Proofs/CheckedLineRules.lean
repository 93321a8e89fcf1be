import LatexRepair.Proofs.BracePlaces
import LatexRepair.Proofs.CheckedLines
import LatexRepair.Proofs.MarkerReading

/-!
# Checked rules for lines

The rules for a line and its counterpart with checked slices. The places of an edit come from the
line, from its code or from a trimmed piece of it, and are used on the whole line; the place of a
brace is computed from the skeletons of both lines. No rule stops, and each makes the edit of its
rule by characters (`Checked.rule_eq`), so the repair of a line never stops
(`Checked.repairLine_eq`).
-/

namespace LatexRepair

namespace Text

variable {t : Text} {i : Nat}

/-- A text that is found has its own number of bytes. -/
theorem byteOffset_of_find? {needle : Text} (h : find? needle t = some i) :
    byteOffset t (i + needle.length) = byteOffset t i + byteLength needle := by
  obtain ⟨-, hstart, -⟩ := find?_eq_some_iff.1 h
  obtain ⟨r, hr⟩ := startsWith_iff.1 hstart
  rw [byteOffset_add, byteOffset_of_append hr.symm]

end Text

namespace LineRepair

/-- The line with an edit carried out, and the fix. -/
def carryOut (t : Text) (x : Edit × LineFix) : Text × LineFix :=
  (x.1.apply t, x.2)

theorem commonLength_comm (xs ys : List PlacedToken) :
    commonLength xs ys = commonLength ys xs := by
  induction xs generalizing ys with
  | nil => cases ys <;> rfl
  | cons x xs ih =>
    cases ys with
    | nil => rfl
    | cons y ys => simp only [commonLength, ih, eq_comm]

end LineRepair

namespace Checked

open Text
open LineRepair (carryOut)

variable {t g : Text}

/-! ## Terminators -/

/-- Remove the end of the document from a line whose counterpart does not have it. -/
def removeTerminator (t g : Text) : Checked (Option (Text × LineFix)) := do
  let gCode ← codePart g
  if contains terminator gCode then some none
  else
    let tCode ← codePart t
    match find? terminator tCode with
    | none => some none
    | some i =>
      let start := byteOffset tCode i
      let u ← removeRange t start (start + byteLength terminator)
      some (some (u, .removedTerminator))

theorem removeTerminator_eq (t g : Text) :
    removeTerminator t g = some ((LineRepair.removeTerminator? t g).map (carryOut t)) := by
  rw [removeTerminator, codePart_eq, codePart_eq, LineRepair.removeTerminator?]
  simp only [Option.bind_eq_bind, Option.bind_some]
  split
  · rfl
  · cases hfind : find? terminator (LatexRepair.codePart t) with
    | none => rfl
    | some i =>
      have hle := length_le_of_find? hfind
      dsimp only
      rw [← byteOffset_of_find? hfind, byteOffset_codePart (by omega), byteOffset_codePart hle,
        removeRange_byteOffset]
      rfl

/-! ## Comments -/

/-- How often a marker is live in a line. -/
def liveCount (m : Marker) (line : Text) : Checked Nat := do
  let code ← codePart line
  some ((markers code).countP (·.marker = m))

@[simp]
theorem liveCount_eq (m : Marker) (line : Text) :
    liveCount m line = some (LineRepair.liveCount m line) := by
  rw [liveCount, codePart_eq, LineRepair.liveCount, liveMarkers_eq]
  rfl

/-- Bring back the hidden marker of a line. -/
def uncommentMarker (t g : Text) : Checked (Option (Text × LineFix)) := do
  match ← hiddenMarker t with
  | none => some none
  | some hidden =>
    let inGuide ← liveCount hidden.marker g
    let inLine ← liveCount hidden.marker t
    if inGuide ≤ inLine then some none
    else
      let u ← removeRange t hidden.start hidden.stop
      some (some (u, .uncommentedMarker hidden.marker))

theorem uncommentMarker_eq (t g : Text) :
    uncommentMarker t g = some ((LineRepair.uncommentMarker? t g).map (carryOut t)) := by
  rw [uncommentMarker, hiddenMarker_eq, LineRepair.uncommentMarker?]
  cases hiddenMarker? t with
  | none => rfl
  | some hidden =>
    simp only [Option.map_some, Option.bind_eq_bind, Option.bind_some, liveCount_eq,
      HiddenMarker.inBytes, removeRange_byteOffset]
    split <;> rfl

/-- Bring back a command line. -/
def uncommentCommand (t g : Text) : Checked (Option (Text × LineFix)) :=
  if isCommentLine g || !isCommentLine t then some none
  else
    match leadingCommand? g with
    | none => some none
    | some name =>
      if name = "begin".toList || name = "end".toList then some none
      else do
        match ← commentIntro t with
        | none => some none
        | some intro =>
          let body ← sliceFrom t (byteLength intro)
          if leadingCommand? body ≠ some name || body.head? ≠ some '\\' then some none
          else
            let indent ← indentation t
            some (some (indent ++ body, .uncommentedCommand name))

/-- A text that starts with a backslash and, after white space, with a command starts with it. -/
theorem leadingCommand?_iff {body name : Text} :
    leadingCommand? body = some name ∧ body.head? = some '\\' ↔ commandName? body = some name := by
  have htrim : body.head? = some '\\' → trimStart body = body := fun h => by
    obtain ⟨r, rfl⟩ := List.head?_eq_some_iff.1 h
    rw [trimStart, trimStartBy, List.dropWhile_cons_of_neg (by decide)]
  constructor
  · rintro ⟨hname, hhead⟩
    rwa [leadingCommand?, htrim hhead] at hname
  · intro h
    have hhead : body.head? = some '\\' := by
      unfold commandName? at h
      split at h
      · rfl
      · cases h
    exact ⟨by rwa [leadingCommand?, htrim hhead], hhead⟩

/-- The intro of a comment stands in front of it. -/
theorem exists_append_of_commentIntro? {line intro : Text} (h : commentIntro? line = some intro) :
    ∃ r, intro ++ r = line := by
  obtain ⟨run, hrun, rfl⟩ := Option.map_eq_some_iff.1 h
  obtain ⟨r, hr, -⟩ := LineRepair.exists_append_of_percentRun? hrun
  exact ⟨r, by rw [List.append_assoc, ← hr, indentation_append_trimStart]⟩

/-- The indentation is what stands before the first other character. -/
theorem take_length_indentation (line : Text) :
    line.take (LatexRepair.indentation line).length = LatexRepair.indentation line :=
  (List.prefix_iff_eq_take.1 (List.takeWhile_prefix _)).symm

theorem drop_length_indentation (line : Text) :
    line.drop (LatexRepair.indentation line).length = trimStart line :=
  drop_length_takeWhile _ line

theorem uncommentCommand_eq (t g : Text) :
    uncommentCommand t g = some ((LineRepair.uncommentCommand? t g).map (carryOut t)) := by
  rw [uncommentCommand, LineRepair.uncommentCommand?]
  split
  · rfl
  · cases leadingCommand? g with
    | none => rfl
    | some name =>
      dsimp only [Option.bind_eq_bind, Option.bind_some]
      split
      · rfl
      · rw [commentIntro_eq, Option.bind_some]
        cases hintro : commentIntro? t with
        | none => rfl
        | some intro =>
          obtain ⟨r, hr⟩ := exists_append_of_commentIntro? hintro
          have hdrop : t.drop intro.length = r := by rw [← hr, List.drop_left]
          dsimp only [Option.bind_some]
          rw [sliceFrom_of_append hr, Option.bind_some, hdrop, indentation_eq, Option.bind_some]
          by_cases hname : commandName? r = some name
          · obtain ⟨hleading, hhead⟩ := leadingCommand?_iff.2 hname
            simp [hleading, hhead, hname, carryOut, Edit.apply_delete, take_length_indentation,
              hdrop]
          · have hnot := not_and_or.1 (leadingCommand?_iff.not.2 hname)
            rw [if_pos (by simpa using hnot), if_pos hname]
            rfl

/-- Whether the list `wanted` can be taken out of `available`, where the last item takes the place
of one that is taken. -/
def takesAll (available : List Text) : List Text → Checked Bool
  | [] => some true
  | w :: ws =>
    match available.idxOf? w with
    | none => some false
    | some i => do
      let rest ← swapRemove available i
      takesAll rest ws

/-- What can be taken out of a list does not depend on its order. -/
theorem takesAll_of_perm {xs ys : List Text} (h : xs.Perm ys) (ws : List Text) :
    LineRepair.takesAll xs ws = LineRepair.takesAll ys ws := by
  induction ws generalizing xs ys with
  | nil => rfl
  | cons w ws ih =>
    rw [LineRepair.takesAll, LineRepair.takesAll, ih (h.erase w), Bool.eq_iff_iff,
      Bool.and_eq_true, Bool.and_eq_true, List.contains_iff_mem, List.contains_iff_mem, h.mem_iff]

@[simp]
theorem takesAll_eq (available wanted : List Text) :
    takesAll available wanted = some (LineRepair.takesAll available wanted) := by
  induction wanted generalizing available with
  | nil => rfl
  | cons w ws ih =>
    rw [takesAll, LineRepair.takesAll, List.erase_eq_eraseIdx]
    cases hi : available.idxOf? w with
    | none =>
      have hmem : w ∉ available := List.idxOf?_eq_none_iff.1 hi
      simp [hmem]
    | some i =>
      obtain ⟨hlt, -⟩ := List.findIdx?_eq_some_iff_getElem.1 hi
      obtain ⟨rest, hrest, hperm⟩ := exists_swapRemove hlt
      have hmem : w ∈ available := List.isSome_idxOf?.1 (by rw [hi]; rfl)
      dsimp only
      rw [hrest, Option.bind_eq_bind, Option.bind_some, ih, takesAll_of_perm hperm]
      simp [hmem]

/-- Make a line a comment again. -/
def restoreComment (t g : Text) : Checked (Option (Text × LineFix)) :=
  if !isCommentLine g || isCommentLine t || isBlankText t then some none
  else do
    match ← commentIntro g with
    | none => some none
    | some intro =>
      let body ← sliceFrom g (byteLength intro)
      let available ← structureTokens body
      let tCode ← codePart t
      let wanted ← structureTokens tCode
      let hidden ← takesAll available wanted
      if !hidden then some none
      else some (some (intro ++ trimStart t, .restoredComment))

theorem restoreComment_eq (t g : Text) :
    restoreComment t g = some ((LineRepair.restoreComment? t g).map (carryOut t)) := by
  rw [restoreComment, LineRepair.restoreComment?]
  split
  · rfl
  · rw [commentIntro_eq, Option.bind_eq_bind, Option.bind_some]
    cases hintro : commentIntro? g with
    | none => rfl
    | some intro =>
      obtain ⟨r, hr⟩ := exists_append_of_commentIntro? hintro
      have hdrop : g.drop intro.length = r := by rw [← hr, List.drop_left]
      dsimp only [Option.bind_eq_bind, Option.bind_some]
      simp only [sliceFrom_of_append hr, structureTokens_eq, codePart_eq, takesAll_eq,
        Option.bind_some, hdrop]
      split
      · rfl
      · simp [carryOut, Edit.apply, drop_length_indentation]

/-! ## Braces -/

section

variable {code s : Text}

theorem sameShape_inBytes (xs ys : List PlacedToken) (a b : Text) :
    LineRepair.sameShape (xs.map (·.inBytes a)) (ys.map (·.inBytes b)) =
      LineRepair.sameShape xs ys := by
  simp only [LineRepair.sameShape, List.map_map]
  rfl

theorem commonLength_inBytes (xs ys : List PlacedToken) (a b : Text) :
    LineRepair.commonLength (xs.map (·.inBytes a)) (ys.map (·.inBytes b)) =
      LineRepair.commonLength xs ys := by
  induction xs generalizing ys with
  | nil => rfl
  | cons x xs ih =>
    cases ys with
    | nil => rfl
    | cons y ys =>
      rw [List.map_cons, List.map_cons, LineRepair.commonLength, ih, LineRepair.commonLength]
      rfl

theorem any_isCatalogued_inBytes (xs : List PlacedToken) (code : Text) :
    (xs.map (·.inBytes code)).any LineRepair.isCatalogued = xs.any LineRepair.isCatalogued := by
  rw [List.any_map]
  rfl

end

/-- The byte behind the token before number `k`, or the start of the line. -/
def gapStart (tokens : List PlacedToken) (k : Nat) : Checked Nat :=
  if k = 0 then some 0
  else do
    let last ← sub k 1
    let x ← tokens[last]?
    some x.stop

/-- The byte of token number `k`, or the end of the code. -/
def gapStop (tokens : List PlacedToken) (code : Text) (k : Nat) : Nat :=
  (tokens[k]?.map (·.start)).getD (byteLength code)

/-- Where in the gap before token number `k` of a line the closing brace belongs that its
counterpart has there. -/
def bracePlace (tCode gCode : Text) (tTokens gTokens : List PlacedToken) (k : Nat)
    (closer : PlacedToken) : Checked (Option Nat) := do
  let gStart ← gapStart gTokens k
  let before ← slice gCode gStart closer.start
  let behind ← slice gCode closer.stop (gapStop gTokens gCode (k + 1))
  let start ← gapStart tTokens k
  let stop := gapStop tTokens tCode k
  let gap ← slice tCode start stop
  if behind.isEmpty then some (some stop)
  else if isBlankText behind then some (some (start + byteLength (trimEnd gap)))
  else if before.isEmpty then some (some start)
  else if endsWith behind gap then (sub stop (byteLength behind)).map some
  else some none

/-- Insert the one closing brace that a line lacks. -/
def insertBrace (t tCode gCode : Text) (tTokens gTokens : List PlacedToken) (k : Nat) :
    Checked (Option (Text × LineFix)) :=
  match gTokens[k]? with
  | none => some none
  | some closer =>
    if closer.token ≠ .closeBrace then some none
    else do
      let tRest ← dropTo tTokens k
      let gRest ← dropTo gTokens (k + 1)
      if !LineRepair.sameShape tRest gRest then some none
      else
        match ← bracePlace tCode gCode tTokens gTokens k closer with
        | none => some none
        | some i =>
          let before ← sliceTo t i
          let behind ← sliceFrom t i
          some (some (before ++ '}' :: behind, .insertedBrace))

/-- Remove the one closing brace that a line has too many. -/
def removeBrace (t : Text) (tTokens gTokens : List PlacedToken) (k : Nat) :
    Checked (Option (Text × LineFix)) :=
  match tTokens[k]? with
  | none => some none
  | some extra =>
    if extra.token ≠ .closeBrace then some none
    else do
      let tRest ← dropTo tTokens (k + 1)
      let gRest ← dropTo gTokens k
      if !LineRepair.sameShape tRest gRest then some none
      else
        let u ← removeRange t extra.start extra.stop
        some (some (u, .removedBrace))

/-- Insert the one closing brace that a line lacks, or remove the one that it has too many. -/
def rebalance (t g : Text) : Checked (Option (Text × LineFix)) := do
  let tCode ← codePart t
  let gCode ← codePart g
  let tTokens ← skeleton tCode
  let gTokens ← skeleton gCode
  if !gTokens.any LineRepair.isCatalogued then some none
  else
    let excess := braceBalance tTokens - braceBalance gTokens
    let k := LineRepair.commonLength tTokens gTokens
    if excess = 1 then insertBrace t tCode gCode tTokens gTokens k
    else if excess = -1 then removeBrace t tTokens gTokens k
    else some none

section

variable {code : Text} {k : Nat}

theorem gapStart_inBytes (hk : k ≤ (LatexRepair.skeleton code).length) :
    gapStart ((LatexRepair.skeleton code).map (·.inBytes code)) k =
      some (byteOffset code (LineRepair.gapStart (LatexRepair.skeleton code) k)) := by
  rw [gapStart, LineRepair.gapStart]
  split
  · rfl
  · rename_i hk0
    obtain ⟨x, hlast⟩ : ∃ x, (LatexRepair.skeleton code)[k - 1]? = some x :=
      ⟨_, List.getElem?_eq_getElem (by omega)⟩
    rw [sub_of_le (by omega), Option.bind_eq_bind, Option.bind_some, List.getElem?_map, hlast]
    rfl

theorem gapStop_inBytes (xs : List PlacedToken) (code : Text) (k : Nat) :
    gapStop (xs.map (·.inBytes code)) code k = byteOffset code (LineRepair.gapStop xs code k) := by
  rw [gapStop, LineRepair.gapStop, List.getElem?_map]
  cases xs[k]? with
  | none => exact (byteOffset_length code).symm
  | some x => rfl

/-- The part of a text between two places stands before what follows the second one. -/
theorem piece_append_drop {t : Text} {i j : Nat} (h : i ≤ j) :
    LineRepair.piece t i j ++ t.drop j = t.drop i := by
  have hdrop : t.drop j = (t.drop i).drop (j - i) := by rw [List.drop_drop, Nat.add_sub_cancel' h]
  rw [LineRepair.piece, List.drop_take, hdrop, List.take_append_drop]

/-- A place in a piece of a text, counted from the start of the text. -/
theorem byteOffset_add_of_piece {t a b : Text} {i j : Nat} (h : i ≤ j)
    (hpiece : a ++ b = LineRepair.piece t i j) :
    byteOffset t (i + a.length) = byteOffset t i + byteLength a := by
  rw [byteOffset_add, byteOffset_of_append (r := b ++ t.drop j)
    (by rw [← List.append_assoc, hpiece, piece_append_drop h])]

theorem bracePlace_eq {tCode gCode : Text} {closer : PlacedToken}
    (ht : k ≤ (LatexRepair.skeleton tCode).length)
    (hg : (LatexRepair.skeleton gCode)[k]? = some closer) :
    bracePlace tCode gCode ((LatexRepair.skeleton tCode).map (·.inBytes tCode))
        ((LatexRepair.skeleton gCode).map (·.inBytes gCode)) k (closer.inBytes gCode) =
      some ((LineRepair.bracePlace? tCode gCode (LatexRepair.skeleton tCode)
        (LatexRepair.skeleton gCode) k closer).map (byteOffset tCode)) := by
  obtain ⟨hlt, -⟩ := List.getElem?_eq_some_iff.1 hg
  have hbefore : LineRepair.gapStart (LatexRepair.skeleton gCode) k ≤ closer.start := by
    have hle := LineRepair.gapStart_le_gapStop (Nat.le_of_lt hlt)
    rwa [LineRepair.gapStop, hg] at hle
  have hbehind : closer.stop ≤ LineRepair.gapStop (LatexRepair.skeleton gCode) gCode (k + 1) :=
    (LineRepair.stop_le_gapStart hlt (Nat.lt_succ_self k) hg).trans
      (LineRepair.gapStart_le_gapStop hlt)
  have hgap := LineRepair.gapStart_le_gapStop ht
  rw [bracePlace, gapStart_inBytes (Nat.le_of_lt hlt), gapStart_inBytes ht, gapStop_inBytes,
    gapStop_inBytes, LineRepair.bracePlace?]
  simp only [PlacedToken.inBytes, Option.bind_eq_bind, Option.bind_some,
    slice_byteOffset _ hbefore, slice_byteOffset _ hbehind, slice_byteOffset _ hgap]
  split
  · rfl
  · split
    · obtain ⟨s, hs, -⟩ := exists_trimEnd (LineRepair.piece tCode
        (LineRepair.gapStart (LatexRepair.skeleton tCode) k)
        (LineRepair.gapStop (LatexRepair.skeleton tCode) tCode k))
      rw [Option.map_some, byteOffset_add_of_piece hgap hs.symm]
    · split
      · rfl
      · split
        · rename_i hends
          obtain ⟨body, hbody⟩ := List.isSuffixOf_iff_suffix.1 hends
          have hlength := congrArg List.length hbody
          rw [LineRepair.length_piece LineRepair.gapStop_le_length, List.length_append] at hlength
          have hwhole := byteOffset_add_of_piece (b := []) hgap ((List.append_nil _).trans hbody)
          have hplace := byteOffset_add_of_piece hgap hbody
          generalize LineRepair.piece gCode closer.stop _ = behind at hlength hwhole ⊢
          generalize LineRepair.gapStop (LatexRepair.skeleton tCode) tCode k = stop at *
          generalize LineRepair.gapStart (LatexRepair.skeleton tCode) k = start at *
          rw [List.length_append, byteLength_append, show start + (body.length + behind.length) =
            stop by omega] at hwhole
          rw [hwhole, ← Nat.add_assoc, ← hplace, sub_of_le (Nat.le_add_left _ _),
            Nat.add_sub_cancel, show start + body.length = stop - behind.length by omega]
          rfl
        · rfl

theorem insertBrace_eq {t gCode : Text}
    (hk : k ≤ (LatexRepair.skeleton (LatexRepair.codePart t)).length) :
    insertBrace t (LatexRepair.codePart t) gCode
        ((LatexRepair.skeleton (LatexRepair.codePart t)).map (·.inBytes (LatexRepair.codePart t)))
        ((LatexRepair.skeleton gCode).map (·.inBytes gCode)) k =
      some (Option.map (carryOut t) do
        let closer ← (LatexRepair.skeleton gCode)[k]?
        if closer.token ≠ .closeBrace then none
        if !LineRepair.sameShape ((LatexRepair.skeleton (LatexRepair.codePart t)).drop k)
            ((LatexRepair.skeleton gCode).drop (k + 1)) then none
        let i ← LineRepair.bracePlace? (LatexRepair.codePart t) gCode
          (LatexRepair.skeleton (LatexRepair.codePart t)) (LatexRepair.skeleton gCode) k closer
        some (.insert i ['}'], .insertedBrace)) := by
  rw [insertBrace, List.getElem?_map]
  cases hcloser : (LatexRepair.skeleton gCode)[k]? with
  | none => rfl
  | some closer =>
    obtain ⟨hlt, -⟩ := List.getElem?_eq_some_iff.1 hcloser
    dsimp only [Option.map_some, Option.bind_eq_bind, Option.bind_some]
    rw [dropTo_map _ hk, dropTo_map _ hlt]
    dsimp only [Option.bind_some]
    rw [sameShape_inBytes, bracePlace_eq hk hcloser, PlacedToken.token_inBytes]
    split
    · rfl
    · split
      · rfl
      · dsimp only [Option.bind_some]
        cases hplace : LineRepair.bracePlace? _ _ _ _ k closer with
        | none => rfl
        | some i =>
          have hi := (LineRepair.of_bracePlace? hk hplace).2.1.trans
            LineRepair.gapStop_le_length
          dsimp only [Option.map_some, Option.bind_some]
          rw [byteOffset_codePart hi, sliceTo_byteOffset, sliceFrom_byteOffset]
          simp [carryOut, Edit.apply_insert]

theorem removeBrace_eq {t gCode : Text} (hk : k ≤ (LatexRepair.skeleton gCode).length) :
    removeBrace t
        ((LatexRepair.skeleton (LatexRepair.codePart t)).map (·.inBytes (LatexRepair.codePart t)))
        ((LatexRepair.skeleton gCode).map (·.inBytes gCode)) k =
      some (Option.map (carryOut t) do
        let extra ← (LatexRepair.skeleton (LatexRepair.codePart t))[k]?
        if extra.token ≠ .closeBrace then none
        if !LineRepair.sameShape ((LatexRepair.skeleton (LatexRepair.codePart t)).drop (k + 1))
            ((LatexRepair.skeleton gCode).drop k) then none
        some (.delete extra.start extra.stop, .removedBrace)) := by
  rw [removeBrace, List.getElem?_map]
  cases hextra : (LatexRepair.skeleton (LatexRepair.codePart t))[k]? with
  | none => rfl
  | some extra =>
    obtain ⟨hlt, -⟩ := List.getElem?_eq_some_iff.1 hextra
    dsimp only [Option.map_some, Option.bind_eq_bind, Option.bind_some]
    rw [dropTo_map _ hlt, dropTo_map _ hk]
    dsimp only [Option.bind_some]
    rw [sameShape_inBytes, PlacedToken.token_inBytes]
    split
    · rfl
    · split
      · rfl
      · obtain ⟨-, hwidth, hstop⟩ := bounds_of_mem_skeletonFrom (List.mem_of_getElem? hextra)
        rw [Nat.zero_add] at hstop
        rw [PlacedToken.inBytes, byteOffset_codePart hstop,
          byteOffset_codePart ((Nat.le_of_lt hwidth).trans hstop), removeRange_byteOffset]
        rfl

theorem rebalance_eq (t g : Text) :
    rebalance t g = some ((LineRepair.rebalance? t g).map (carryOut t)) := by
  have hk := LineRepair.commonLength_le (LatexRepair.skeleton (LatexRepair.codePart t))
    (LatexRepair.skeleton (LatexRepair.codePart g))
  have hkg := LineRepair.commonLength_le (LatexRepair.skeleton (LatexRepair.codePart g))
    (LatexRepair.skeleton (LatexRepair.codePart t))
  rw [LineRepair.commonLength_comm] at hkg
  rw [rebalance, codePart_eq, codePart_eq]
  simp only [Option.bind_eq_bind, Option.bind_some, skeleton_eq, any_isCatalogued_inBytes,
    braceBalance_inBytes, commonLength_inBytes]
  rw [insertBrace_eq hk, removeBrace_eq hkg, LineRepair.rebalance?]
  dsimp only
  split
  · rfl
  · split
    · rfl
    · split <;> rfl

end

/-! ## Rounds -/

/-- The first rule that applies to the line `t` with the counterpart `g`. -/
def rule (t g : Text) : Checked (Option (Text × LineFix)) := do
  match ← removeTerminator t g with
  | some x => some (some x)
  | none =>
    match ← uncommentMarker t g with
    | some x => some (some x)
    | none =>
      match ← uncommentCommand t g with
      | some x => some (some x)
      | none =>
        match ← restoreComment t g with
        | some x => some (some x)
        | none => rebalance t g

/-- At most `n` rules, one after the other. -/
def rounds : Nat → Text → Text → Checked (Text × List LineFix)
  | 0, t, _ => some (t, [])
  | n + 1, t, g => do
    match ← rule t g with
    | none => some (t, [])
    | some (u, fix) =>
      if u = t then some (t, [])
      else
        let (v, fixes) ← rounds n u g
        some (v, fix :: fixes)

/-- Repair the line `t` against its counterpart `g`. -/
def repairLine (t g : Text) : Checked (Text × List LineFix) :=
  rounds LineRepair.maxRounds t g

theorem rule_eq (t g : Text) : rule t g = some ((LineRepair.rule? t g).map (carryOut t)) := by
  simp only [rule, removeTerminator_eq, uncommentMarker_eq, uncommentCommand_eq, restoreComment_eq,
    rebalance_eq, Option.bind_eq_bind, Option.bind_some, LineRepair.rule?]
  cases LineRepair.removeTerminator? t g with
  | some x => rfl
  | none =>
    cases LineRepair.uncommentMarker? t g with
    | some x => rfl
    | none =>
      cases LineRepair.uncommentCommand? t g with
      | some x => rfl
      | none => cases LineRepair.restoreComment? t g <;> rfl

theorem rounds_eq (n : Nat) (t g : Text) : rounds n t g = some (LineRepair.rounds n t g) := by
  induction n generalizing t with
  | zero => rfl
  | succ n ih =>
    rw [rounds, rule_eq, LineRepair.rounds, LineRepair.step?]
    simp only [Option.bind_eq_bind, Option.bind_some]
    cases LineRepair.rule? t g with
    | none => rfl
    | some x =>
      simp only [Option.map_some, carryOut, Option.bind_some, ih]
      split <;> rfl

/-- The repair of a line never stops, and is the repair by characters. -/
@[simp]
theorem repairLine_eq (t g : Text) : repairLine t g = some (LatexRepair.repairLine t g) :=
  rounds_eq _ t g

end Checked

end LatexRepair
