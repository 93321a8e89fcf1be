import LatexRepair.Proofs.CheckedColors
import LatexRepair.Proofs.CheckedScan
import LatexRepair.Proofs.DuplicateEnds
import LatexRepair.Proofs.PictureTally
import LatexRepair.Proofs.ScanSteps
import LatexRepair.RuleRepair
import Mathlib.Data.List.Forall2

/-!
# Checked repair by rules

Two ends of the document are made one by replacing what a search has found, the text behind the
end of the document is cut off where the scan has met it, ends of pictures are inserted as lines,
and braces are added or removed around the last end of the document. Each of these places is one
between two characters, and repeating the first rule comes to an end, since each time the document
gets shorter (`Checked.collapse_eq`).

Which rules are applied depends on the validation that is passed in, but what they do does not, so
all is well with any validation (`Checked.repairByRules_eq`).
-/

namespace LatexRepair

namespace Checked

open Text

variable {t r before : Text} {i : Nat}

/-! ## Ends of the document -/

/-- Correct misspelled commands. -/
def correctTypos (t : Text) : Checked Text :=
  some (Typo.correctAll t).1

/-- End lines with newlines only. -/
def normalizeNewlines (t : Text) : Checked Text :=
  some (if '\r' ∈ t then Text.normalizeNewlines t else t)

/-- Two ends of the document at the start of a text: what stands between them, and the newline
behind the second one if there is one. -/
def duplicateAt? (t : Text) : Option (Text × Text) := do
  let behind ← strip? terminator t
  let (gap, r) := Terminator.splitGap false behind
  let rest ← strip? terminator r
  some (gap, if rest.head? = some '\n' then ['\n'] else [])

/-- The first two ends of the document that only blank lines and comments separate, in a text that
starts at the byte with the number `i`: the bytes where they start and stop, what stands between
them and the newline behind them. -/
def duplicate? (i : Nat) : Text → Option (Nat × Nat × Text × Text)
  | [] => none
  | c :: t =>
    match duplicateAt? (c :: t) with
    | some (gap, newline) =>
      some (i, i + byteLength (terminator ++ gap ++ terminator ++ newline), gap, newline)
    | none => duplicate? (i + c.utf8Size) t

/-- One end of the document in place of two. -/
def collapsed (gap newline : Text) : Text :=
  if gap.getLast? = some '\n' then terminator ++ gap
  else terminator ++ trimEndBy isSpaceOrTab gap ++ newline

/-- The document up to its end, if there is text behind it. -/
def truncate (t : Text) : Checked Text := do
  let outcome ← scan t
  match outcome.trailingContent, outcome.documentEnd with
  | some _, some stop =>
    let head ← sliceTo t stop.endOffset
    some (head ++ ['\n'])
  | _, _ => some t

theorem duplicateAt?_eq_none (h : duplicateAt? t = none) : Terminator.collapseAt? t = none := by
  rw [duplicateAt?, Option.bind_eq_bind] at h
  rw [Terminator.collapseAt?, Option.bind_eq_bind]
  cases hfirst : strip? terminator t with
  | none => rfl
  | some behind =>
    rw [hfirst, Option.bind_some] at h
    rw [Option.bind_some]
    cases hsecond : strip? terminator (Terminator.splitGap false behind).2 with
    | none => rfl
    | some rest =>
      simp [hsecond] at h

/-- The newline of the text behind two ends goes with them. -/
theorem keptGap_eq (gap rest : Text) :
    ∃ newline r, newline = (if rest.head? = some '\n' then ['\n'] else []) ∧ rest = newline ++ r ∧
      terminator ++ Terminator.keptGap gap rest = collapsed gap newline ++ r := by
  by_cases hrest : rest.head? = some '\n'
  · obtain ⟨r, rfl⟩ := List.head?_eq_some_iff.1 hrest
    refine ⟨['\n'], r, rfl, rfl, ?_⟩
    rw [Terminator.keptGap, collapsed]
    split <;> simp
  · refine ⟨[], rest, by rw [if_neg hrest], rfl, ?_⟩
    rw [Terminator.keptGap, collapsed, if_neg hrest]
    split <;> simp

theorem collapseAt?_of_duplicateAt? {gap newline : Text}
    (h : duplicateAt? t = some (gap, newline)) :
    ∃ rest, t = terminator ++ gap ++ terminator ++ newline ++ rest ∧
      Terminator.collapseAt? t = some (collapsed gap newline ++ rest) := by
  obtain ⟨behind, hfirst, h⟩ := Option.bind_eq_some_iff.1 h
  obtain ⟨rest, hsecond, h⟩ := Option.bind_eq_some_iff.1 h
  have hgap := Terminator.splitGap_append false behind
  obtain ⟨newline', r, hnewline, hrest, hkept⟩ :=
    keptGap_eq (Terminator.splitGap false behind).1 rest
  obtain ⟨rfl, rfl⟩ := Prod.mk.inj (Option.some.inj h)
  rw [← hnewline]
  refine ⟨r, ?_, ?_⟩
  · have hbehind : behind = (Terminator.splitGap false behind).1 ++
        (terminator ++ (newline' ++ r)) := by
      rw [← hrest, ← strip?_eq_some_iff.1 hsecond, hgap]
    calc
      t = terminator ++ behind := strip?_eq_some_iff.1 hfirst
      _ = terminator ++ ((Terminator.splitGap false behind).1 ++
          (terminator ++ (newline' ++ r))) := congrArg _ hbehind
      _ = _ := by simp only [List.append_assoc]
  · rw [Terminator.collapseAt?, hfirst, Option.bind_eq_bind, Option.bind_some, hsecond, ← hkept]
    rfl

/-- The first two ends that can be collapsed are found at their bytes. -/
theorem duplicate?_spec (before t : Text) :
    match duplicate? (byteLength before) t with
    | none => Terminator.collapseOne? t = none
    | some (start, stop, gap, newline) =>
      ∃ u, Terminator.collapseOne? t = some u ∧
        replaceRange (before ++ t) start stop (collapsed gap newline) = some (before ++ u) := by
  induction t generalizing before with
  | nil => rfl
  | cons c t ih =>
    rw [duplicate?, Terminator.collapseOne?]
    cases hat : duplicateAt? (c :: t) with
    | some x =>
      obtain ⟨rest, ht, hcollapse⟩ := collapseAt?_of_duplicateAt? hat
      rw [hcollapse]
      dsimp only
      refine ⟨_, rfl, ?_⟩
      rw [ht, ← byteLength_append, replaceRange_of_append (List.append_assoc ..), List.append_assoc]
    | none =>
      have hnext := ih (before ++ [c])
      have hbyte : byteLength (before ++ [c]) = byteLength before + c.utf8Size :=
        byteLength_append ..
      rw [hbyte] at hnext
      rw [duplicateAt?_eq_none hat]
      dsimp only
      cases hfind : duplicate? (byteLength before + c.utf8Size) t with
      | none =>
        rw [hfind] at hnext
        rw [hnext]
        rfl
      | some x =>
        rw [hfind] at hnext
        obtain ⟨u, hu, hreplace⟩ := hnext
        refine ⟨c :: u, by rw [hu]; rfl, ?_⟩
        rwa [List.append_assoc, List.append_assoc] at hreplace

theorem exists_of_duplicate? {x : Nat × Nat × Text × Text} (h : duplicate? 0 t = some x) :
    ∃ u, Terminator.collapseOne? t = some u ∧
      replaceRange t x.1 x.2.1 (collapsed x.2.2.1 x.2.2.2) = some u := by
  have hspec := duplicate?_spec [] t
  rw [byteLength, h] at hspec
  exact hspec

theorem collapseOne?_of_duplicate? (h : duplicate? 0 t = none) :
    Terminator.collapseOne? t = none := by
  have hspec := duplicate?_spec [] t
  rw [byteLength, h] at hspec
  exact hspec

/-- Collapse ends of the document until none are left to collapse. -/
def collapse (t : Text) : Checked Text :=
  match _hfind : duplicate? 0 t with
  | none => some t
  | some (start, stop, gap, newline) =>
    match _hreplace : replaceRange t start stop (collapsed gap newline) with
    | none => none
    | some u => collapse u
termination_by t.length
decreasing_by
  obtain ⟨v, hv, hreplace⟩ := exists_of_duplicate? _hfind
  cases hreplace.symm.trans _hreplace
  exact Terminator.length_collapseOne_lt hv

theorem collapse_eq (t : Text) : collapse t = some (Terminator.collapse t).1 := by
  induction t using collapse.induct with
  | case1 t hfind =>
    rw [Terminator.collapse_of_none (collapseOne?_of_duplicate? hfind), collapse]
    split
    · rfl
    · rename_i hsome
      rw [hfind] at hsome
      cases hsome
  | case2 t start stop gap newline hfind hreplace =>
    obtain ⟨u, -, hsome⟩ := exists_of_duplicate? hfind
    cases hsome.symm.trans hreplace
  | case3 t start stop gap newline hfind u hreplace ih =>
    obtain ⟨v, hone, hsome⟩ := exists_of_duplicate? hfind
    cases hsome.symm.trans hreplace
    rw [Terminator.collapse_of_some hone, ← ih, collapse]
    split
    · rename_i hnone
      rw [hfind] at hnone
      cases hnone
    · rename_i hagain
      cases hfind.symm.trans hagain
      split
      · rename_i hnone
        cases hsome.symm.trans hnone
      · rename_i w hw
        cases hsome.symm.trans hw
        rfl

theorem exists_byteOffset_of_documentEnd {e : DocumentEnd}
    (h : e ∈ (LatexRepair.scan t).documentEnd) : ∃ i, e.endOffset = byteOffset t i := by
  obtain ⟨xs, x, ys, hxs, -, -, -, rfl⟩ := ScanState.exists_documentEnd_step rfl h
  have hx : x ∈ Lexeme.lexemes t := by simp [hxs]
  obtain ⟨s, before, rfl, hstop⟩ := exists_standsAt_of_mem (standsAt_start t) hx
  exact ⟨before.length, by rw [hstop, byteOffset_of_append rfl]⟩

theorem truncate_eq (t : Text) : truncate t = some ((Terminator.truncate? t).getD t) := by
  rw [truncate, scan_eq, Option.bind_eq_bind, Option.bind_some, Terminator.truncate?]
  cases (LatexRepair.scan t).trailingContent with
  | none => rfl
  | some _ =>
    cases hend : (LatexRepair.scan t).documentEnd with
    | none => rfl
    | some e =>
      obtain ⟨i, hi⟩ := exists_byteOffset_of_documentEnd hend
      simp only [hi, sliceTo_byteOffset, takeBytes_byteOffset, Option.bind_eq_bind,
        Option.bind_some, Option.getD_some]

/-! ## Pictures -/

/-- Close pictures before their figures. -/
def reorderPictures (t : Text) : Checked Text :=
  let (u, n) := PictureRepair.reorder t
  some (if n = 0 then t else u)

/-- Insert `n` copies of a line before the line with number `i`. -/
def insertLines (i : Nat) (line : Text) : Nat → List Text → Checked (List Text)
  | 0, lines => some lines
  | n + 1, lines => do
    let more ← insertAt lines i line
    insertLines i line n more

/-- What the live markers of a document say about its pictures. -/
def tally (lines : List Text) : Checked PictureRepair.Tally := do
  let xs ← occurrences lines
  some ((xs.filter (·.isLive)).foldl PictureRepair.Tally.step {})

/-- Close the open pictures of a document before its last figure end. -/
def closePictures (t : Text) : Checked Text := do
  let lines := Text.lines t
  let s ← tally lines
  match s.lastFigureEnd, s.lastBegin with
  | some stop, some begin_ =>
    if stop ≤ begin_ || s.opened = 0 then some t
    else
      let more ← insertLines stop PictureRepair.pictureEnd.text s.opened lines
      some (Text.unlines more)
  | _, _ => some t

theorem insertLines_eq {lines : List Text} (h : i ≤ lines.length) (line : Text) (n : Nat) :
    insertLines i line n lines =
      some (lines.take i ++ List.replicate n line ++ lines.drop i) := by
  induction n generalizing lines with
  | zero => rw [insertLines, List.replicate_zero, List.append_nil, List.take_append_drop]
  | succ n ih =>
    have hlength : (lines.take i).length = i := by rw [List.length_take, Nat.min_eq_left h]
    have hmore : i ≤ (lines.take i ++ line :: lines.drop i).length := by
      rw [List.length_append, hlength]
      exact Nat.le_add_right _ _
    rw [insertLines, insertAt_of_le h, Option.bind_eq_bind, Option.bind_some, ih hmore,
      List.take_left' hlength, List.drop_left' hlength, List.replicate_succ', ← List.append_assoc,
      List.append_assoc _ [line]]
    rfl

theorem tally_eq (lines : List Text) : tally lines = some (PictureRepair.tally lines) := by
  rw [tally, occurrences_eq, Option.bind_eq_bind, Option.bind_some, List.filter_map,
    List.foldl_map]
  rfl

/-- The last figure end stands in a line of the document. -/
theorem lt_length_of_lastFigureEnd {lines : List Text} {n : Nat}
    (h : n ∈ (PictureRepair.tally lines).lastFigureEnd) : n < lines.length := by
  have hends := (PictureRepair.tallied_tally lines).ends
  rw [Option.mem_def.1 h] at hends
  exact hends.lt_length

theorem closePictures_eq (t : Text) :
    closePictures t = some (((PictureRepair.closePictures? t).map (·.1)).getD t) := by
  have hlines := @lt_length_of_lastFigureEnd (Text.lines t)
  simp only [closePictures, PictureRepair.closePictures?, tally_eq, Option.bind_eq_bind,
    Option.bind_some]
  generalize PictureRepair.tally (Text.lines t) = s at hlines ⊢
  cases hstop : s.lastFigureEnd with
  | none => rfl
  | some stop =>
    cases s.lastBegin with
    | none => rfl
    | some begin_ =>
      dsimp only
      rw [Option.bind_some, Option.bind_some]
      split
      · rfl
      · rw [insertLines_eq (Nat.le_of_lt (hlines hstop))]
        rfl

/-! ## Balance -/

/-- The characters of a reversed text with the numbers of their first bytes. -/
def indexed : Text → List (Nat × Char)
  | [] => []
  | c :: t => (byteLength t, c) :: indexed t

/-- The bytes of the last `n` closing braces, if only white space stands between and behind them,
and the byte of the first one of them; `start` is the byte of the last one that was met. -/
def lastClosers : Nat → Nat → List (Nat × Char) → List Nat × Nat
  | 0, start, _ => ([], start)
  | _ + 1, start, [] => ([], start)
  | n + 1, start, (i, c) :: xs =>
    if c = '}' then
      let (removed, start') := lastClosers n i xs
      (i :: removed, start')
    else if isBlank c then lastClosers (n + 1) start xs
    else ([], start)

/-- The characters that stand at none of the given bytes. -/
def charsOutside (removed : List Nat) (xs : List (Nat × Char)) : Text :=
  (xs.filter (·.1 ∉ removed)).map (·.2)

/-- `t` with its braces balanced, given the number of unclosed braces less the number of stray
closing ones. -/
def balanceBraces (t : Text) (delta : Int) : Checked (Option Text) :=
  let anchor := (findLast? terminator t).map (byteOffset t)
  if delta > 0 then
    match anchor with
    | some i => do
      let head ← sliceTo t i
      let tail ← sliceFrom t i
      let separator := if head.isEmpty || head.getLast? = some '\n' then [] else ['\n']
      some (some (head ++ separator ++ BraceRepair.closers delta.toNat ++ '\n' :: tail))
    | none => do
      let body := trimEndBy (· = '\n') t
      let tail ← sliceFrom t (byteLength body)
      some (some (body ++ BraceRepair.closers delta.toNat ++ tail))
  else if delta < 0 then do
    let stop := anchor.getD (byteLength t)
    let region ← sliceTo t stop
    let chars := indexed region.reverse
    let (removed, start) := lastClosers delta.natAbs (byteLength region) chars
    if removed.length < delta.natAbs then some none
    else
      let head ← sliceTo region start
      if head.getLast? = some '\\' then some none
      else
        let tail ← sliceFrom t stop
        some (some ((charsOutside removed chars).reverse ++ tail))
  else some none

theorem lt_of_mem_indexed {x : Nat × Char} (h : x ∈ indexed t) : x.1 < byteLength t := by
  induction t with
  | nil => cases h
  | cons c t ih =>
    have hsize := c.utf8Size_pos
    rw [byteLength]
    rcases List.mem_cons.1 h with rfl | hx
    · exact Nat.lt_add_of_pos_left hsize
    · exact Nat.lt_add_left _ (ih hx)

theorem charsOutside_nil (t : Text) : charsOutside [] (indexed t) = t := by
  induction t with
  | nil => rfl
  | cons c t ih =>
    conv => rhs; rw [← ih]
    rfl

theorem charsOutside_cons_self (removed : List Nat) (c : Char) (r : Text) :
    charsOutside (byteLength r :: removed) ((byteLength r, c) :: indexed r) =
      charsOutside removed (indexed r) := by
  rw [charsOutside, List.filter_cons_of_neg (by simp), charsOutside]
  refine congrArg _ (List.filter_congr fun x hx => ?_)
  have hne := Nat.ne_of_lt (lt_of_mem_indexed hx)
  simp [hne]

theorem charsOutside_cons_of_not_mem {removed : List Nat} {c : Char}
    (h : byteLength r ∉ removed) :
    charsOutside removed ((byteLength r, c) :: indexed r) =
      c :: charsOutside removed (indexed r) := by
  rw [charsOutside, List.filter_cons_of_pos (by simpa using h), List.map_cons, charsOutside]

/-- The braces that are found are those that are dropped, and the text is cut before the first of
them. -/
theorem lastClosers_indexed (n start : Nat) (r : Text) (h : n = 0 → start = byteLength r) :
    let (removed, stop) := lastClosers n start (indexed r)
    (removed.length < n ∧ BraceRepair.dropClosers? n r = none) ∨
      (removed.length = n ∧ (∀ i ∈ removed, i < byteLength r) ∧
        ∃ s, s <:+ r ∧ stop = byteLength s ∧ BraceRepair.dropClosers? n r =
          if s.head? = some '\\' then none else some (charsOutside removed (indexed r))) := by
  induction r generalizing n start with
  | nil =>
    cases n with
    | zero => exact .inr ⟨rfl, List.forall_mem_nil _, [], List.suffix_rfl, h rfl, rfl⟩
    | succ n => exact .inl ⟨Nat.succ_pos _, rfl⟩
  | cons c r ih =>
    cases n with
    | zero =>
      refine .inr ⟨rfl, List.forall_mem_nil _, c :: r, List.suffix_rfl, h rfl, ?_⟩
      rw [charsOutside_nil, BraceRepair.dropClosers?]
    | succ n =>
      have hsize := c.utf8Size_pos
      rw [indexed, lastClosers, BraceRepair.dropClosers?]
      by_cases hc : c = '}'
      · rw [if_pos hc, if_pos hc]
        have hrest := ih n (byteLength r) fun _ => rfl
        generalize lastClosers n (byteLength r) (indexed r) = x at hrest ⊢
        rcases hrest with ⟨hlt, hnone⟩ | ⟨hlength, hbound, s, hs, hstop, hdrop⟩
        · exact .inl ⟨Nat.succ_lt_succ hlt, hnone⟩
        · refine .inr ⟨congrArg (· + 1) hlength, ?_, s, hs.trans (List.suffix_cons c r), hstop, ?_⟩
          · rw [byteLength]
            exact List.forall_mem_cons.2
              ⟨by omega, fun i hi => Nat.lt_add_left _ (hbound i hi)⟩
          · rw [hdrop, charsOutside_cons_self]
      · rw [if_neg hc, if_neg hc]
        by_cases hblank : isBlank c
        · rw [if_pos hblank, if_pos hblank]
          have hrest := ih (n + 1) start fun hzero => absurd hzero (Nat.succ_ne_zero n)
          generalize lastClosers (n + 1) start (indexed r) = x at hrest ⊢
          rcases hrest with ⟨hlt, hnone⟩ | ⟨hlength, hbound, s, hs, hstop, hdrop⟩
          · exact .inl ⟨hlt, by rw [hnone, Option.map_none]⟩
          · refine .inr ⟨hlength, ?_, s, hs.trans (List.suffix_cons c r), hstop, ?_⟩
            · rw [byteLength]
              exact fun i hi => Nat.lt_add_left _ (hbound i hi)
            · have hnew : byteLength r ∉ x.1 := fun hi => absurd (hbound _ hi) (Nat.lt_irrefl _)
              rw [hdrop, charsOutside_cons_of_not_mem hnew]
              split <;> rfl
        · rw [if_neg hblank, if_neg hblank]
          exact .inl ⟨Nat.succ_pos _, rfl⟩

theorem balanceBraces_eq (t : Text) (delta : Int) :
    balanceBraces t delta = some (BraceRepair.balanceBraces? t delta) := by
  rw [balanceBraces, BraceRepair.balanceBraces?]
  split
  · rw [BraceRepair.addClosers]
    cases findLast? terminator t with
    | some i =>
      simp only [Option.map_some, sliceTo_byteOffset, sliceFrom_byteOffset, Option.bind_eq_bind,
        Option.bind_some]
    | none =>
      obtain ⟨tail, htail⟩ := trimEndBy_isPrefix (· = '\n') t
      have hdrop : t.drop (trimEndBy (· = '\n') t).length = tail := by
        conv => lhs; rhs; rw [← htail]
        exact List.drop_left
      simp only [Option.map_none, sliceFrom_of_append htail, Option.bind_eq_bind,
        Option.bind_some, hdrop]
  · split
    · have hstop : ((findLast? terminator t).map (byteOffset t)).getD (byteLength t) =
          byteOffset t ((findLast? terminator t).getD t.length) := by
        cases findLast? terminator t with
        | some i => rfl
        | none => exact (byteOffset_length t).symm
      rw [hstop, BraceRepair.removeClosers?]
      generalize (findLast? terminator t).getD t.length = stop
      have hlast := lastClosers_indexed delta.natAbs (byteLength (t.take stop))
        (t.take stop).reverse fun _ => (byteLength_reverse _).symm
      dsimp only
      rw [sliceTo_byteOffset, Option.bind_eq_bind, Option.bind_some]
      generalize lastClosers delta.natAbs _ _ = x at hlast ⊢
      rcases hlast with ⟨hlt, hnone⟩ | ⟨hlength, -, s, ⟨w, hw⟩, hstart, hdrop⟩
      · rw [if_pos hlt, hnone]
        rfl
      · have hregion : s.reverse ++ w.reverse = t.take stop := by
          rw [← List.reverse_append, hw, List.reverse_reverse]
        rw [if_neg (by omega), hdrop, hstart, ← byteLength_reverse s, sliceTo_of_append hregion,
          Option.bind_some, List.getLast?_reverse]
        split
        · rfl
        · rw [sliceFrom_byteOffset]
          rfl
    · rfl

/-- Balance the braces of a document. Braces in the wrong order are left alone. -/
def balanceDocument (t : Text) : Checked Text := do
  let v ← validate none t
  if v.hasKind (.misordered .brace) then some t
  else
    let balanced ← balanceBraces t v.braceDelta
    some (balanced.getD t)

theorem balanceDocument_eq (t : Text) :
    balanceDocument t = some (((rebalance? t).map (·.1)).getD t) := by
  simp only [balanceDocument, rebalance?, validate_eq, balanceBraces_eq, Option.bind_eq_bind,
    Option.bind_some]
  split
  · rfl
  · cases BraceRepair.balanceBraces? t (LatexRepair.validate none t).braceDelta <;> rfl

/-! ## Rules -/

/-- The rules for a document with the given validation, in order. -/
def rules (allowBalance : Bool) (v : Option Validation) : List (Text → Checked Text) :=
  let flagged (k : IssueKind) : Bool := v.any (·.hasKind k)
  [correctTypos, normalizeNewlines, collapse] ++
    (if flagged .trailingContent then [truncate] else []) ++
    (if flagged .environment then [reorderPictures, closePictures] else []) ++
    (if flagged .brace then [closeColors] else []) ++
    (if flagged .brace && allowBalance then [balanceDocument] else [])

/-- Repair a document by rules. -/
def repairByRules (allowBalance : Bool) (v : Option Validation) (t : Text) : Checked Text :=
  (rules allowBalance v).foldlM (fun t rule => rule t) t

/-- The checked rule does to each document what the rule does. -/
def Agrees (checked : Text → Checked Text) (rule : RuleRepair.Rule) : Prop :=
  ∀ t, checked t = some (((rule t).map (·.1)).getD t)

theorem Agrees.andThen {checked : Text → Checked Text} {rule : RuleRepair.Rule}
    (h : Agrees checked rule) (r : RuleRepair) :
    checked r.content = some (r.andThen rule).content := by
  rw [h, RuleRepair.andThen]
  cases rule r.content <;> rfl

theorem foldlM_agrees {checked : List (Text → Checked Text)} {rules : List RuleRepair.Rule}
    (h : List.Forall₂ Agrees checked rules) (r : RuleRepair) :
    checked.foldlM (fun t rule => rule t) r.content =
      some (rules.foldl RuleRepair.andThen r).content := by
  induction h generalizing r with
  | nil => rfl
  | cons hrule _ ih =>
    rw [List.foldlM_cons, hrule.andThen, Option.bind_eq_bind, Option.bind_some, ih]
    rfl

theorem agrees_correctTypos : Agrees correctTypos RuleRepair.correctTypos :=
  fun _ => rfl

theorem agrees_normalizeNewlines : Agrees normalizeNewlines RuleRepair.normalizeNewlines := by
  intro t
  rw [normalizeNewlines, RuleRepair.normalizeNewlines]
  split <;> rfl

theorem agrees_collapse : Agrees collapse RuleRepair.collapseTerminators := by
  intro t
  rw [collapse_eq, RuleRepair.collapseTerminators]
  dsimp only
  split
  · rename_i hzero
    cases hone : Terminator.collapseOne? t with
    | none => rw [Terminator.collapse_of_none hone]; rfl
    | some u =>
      rw [Terminator.collapse_of_some hone] at hzero
      cases hzero
  · rfl

theorem agrees_truncate : Agrees truncate RuleRepair.removeTrailing := by
  intro t
  rw [truncate_eq, RuleRepair.removeTrailing]
  cases Terminator.truncate? t <;> rfl

theorem agrees_reorderPictures : Agrees reorderPictures RuleRepair.reorderPictures := by
  intro t
  rw [reorderPictures, RuleRepair.reorderPictures]
  dsimp only
  split <;> rfl

theorem agrees_closePictures : Agrees closePictures RuleRepair.closePictures := by
  intro t
  rw [closePictures_eq, RuleRepair.closePictures]
  cases PictureRepair.closePictures? t <;> rfl

theorem agrees_closeColors : Agrees closeColors RuleRepair.closeColors := by
  intro t
  rw [closeColors_eq, RuleRepair.closeColors]
  cases BraceRepair.closeColors? t <;> rfl

theorem agrees_balanceDocument : Agrees balanceDocument RuleRepair.balance := by
  intro t
  rw [balanceDocument_eq, RuleRepair.balance]
  cases rebalance? t <;> rfl

theorem forall₂_ite {α β : Type} {R : α → β → Prop} {xs : List α} {ys : List β}
    (h : List.Forall₂ R xs ys) (c : Bool) :
    List.Forall₂ R (if c then xs else []) (if c then ys else []) := by
  cases c
  · exact .nil
  · exact h

theorem forall₂_agrees_rules (allowBalance : Bool) (v : Option Validation) :
    List.Forall₂ Agrees (rules allowBalance v) (RuleRepair.rules allowBalance v) := by
  have hfirst : List.Forall₂ Agrees [correctTypos, normalizeNewlines, collapse]
      [RuleRepair.correctTypos, RuleRepair.normalizeNewlines, RuleRepair.collapseTerminators] :=
    .cons agrees_correctTypos (.cons agrees_normalizeNewlines (.cons agrees_collapse .nil))
  have hpictures : List.Forall₂ Agrees [reorderPictures, closePictures]
      [RuleRepair.reorderPictures, RuleRepair.closePictures] :=
    .cons agrees_reorderPictures (.cons agrees_closePictures .nil)
  unfold rules RuleRepair.rules
  exact List.rel_append (List.rel_append (List.rel_append (List.rel_append hfirst
    (forall₂_ite (.cons agrees_truncate .nil) _)) (forall₂_ite hpictures _))
    (forall₂_ite (.cons agrees_closeColors .nil) _))
    (forall₂_ite (.cons agrees_balanceDocument .nil) _)

theorem repairByRules_eq (allowBalance : Bool) (v : Option Validation) (t : Text) :
    repairByRules allowBalance v t =
      some (LatexRepair.repairByRules allowBalance v t).content :=
  foldlM_agrees (forall₂_agrees_rules allowBalance v) ⟨t, []⟩

end Checked

end LatexRepair
