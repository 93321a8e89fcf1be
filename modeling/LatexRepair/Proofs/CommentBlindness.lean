import LatexRepair.Proofs.Insertion

/-!
# Comments do not count

Nothing that validation reports depends on what stands in a comment, and a comment on a
line of its own moves what stands behind it by one line and changes nothing else
(`comment_blindness`).

Behind a comment the scan is in the state that it was in before it, and so it is behind
the newline at its end (`ScanState.run_comment_line`), so what follows is scanned as if
the comment had been put in before it (`scan_comment`, `scan_comment_line`). What stands
before the comment is read as before, since no lexeme sees past a percent sign that it
stops at nor past a newline (`Barrier`).
-/

namespace LatexRepair

/-- A scan of `a ++ b` arrives at the place between the two parts : a lexeme starts there,
or the text ends there and no verbatim environment is still open. -/
def Reached (a b : Text) : Prop :=
  (∃ x ∈ Lexeme.lexemes (a ++ b), x.start.offset = Text.byteLength a) ∨
    b = [] ∧ ∀ x ∈ Lexeme.lexemes a, x.token.isUnclosed = false

/-- The percent sign behind `p` starts a comment. -/
def StartsComment (p r : Text) : Prop :=
  ∃ x ∈ Lexeme.lexemes (p ++ '%' :: r),
    x.token = .comment ∧ x.start.offset = Text.byteLength p

/-! ## Reading up to a comment -/

namespace Lexeme

theorem exists_reads_of_offset {a b : Text} {x : Lexeme} (h : x ∈ lexemes (a ++ b))
    (hoffset : x.start.offset = Text.byteLength a) :
    b ≠ [] ∧ ∃ xs, Reads .start a b xs := by
  obtain ⟨s, c, r, xs, ht, hs, -, hstart⟩ := exists_reads_of_mem h
  have hlen : Text.byteLength a = Text.byteLength s := by
    rw [← hoffset, hstart, Position.offset_after]
    exact Nat.zero_add _
  obtain ⟨rfl, rfl⟩ := Text.append_inj_of_byteLength ht hlen
  exact ⟨List.cons_ne_nil _ _, xs, hs⟩

/-- Every lexeme starts before the end of the text that it belongs to. -/
theorem Reads.exists_start {p : Position} {s r : Text} {xs : List Lexeme} (h : Reads p s r xs) :
    ∀ x ∈ xs, ∃ u v, v ≠ [] ∧ s = u ++ v ∧ x.start = p.after u := by
  induction h with
  | nil p r => simp
  | @cons c s₁ s₂ r xs p hlen _ ih =>
    intro x hx
    rcases List.mem_cons.1 hx with rfl | hx
    · exact ⟨[], c :: (s₁ ++ s₂), List.cons_ne_nil _ _, rfl, rfl⟩
    · obtain ⟨u, v, hv, rfl, hstart⟩ := ih x hx
      refine ⟨c :: (s₁ ++ u), v, hv, by simp, ?_⟩
      rw [hstart, Position.after_cons, Position.after_append]

theorem Reads.line_le {p : Position} {s r : Text} {xs : List Lexeme} (h : Reads p s r xs) :
    ∀ x ∈ xs, x.start.line ≤ (p.after s).line := by
  intro x hx
  obtain ⟨u, v, -, rfl, hstart⟩ := h.exists_start x hx
  rw [hstart, Position.after_append]
  exact Position.line_le_after _ v

theorem Reads.line_lt {p : Position} {s r : Text} {xs : List Lexeme} (h : Reads p s r xs)
    (hs : s = [] ∨ s.getLast? = some '\n') :
    ∀ x ∈ xs, x.start.line < (p.after s).line := by
  intro x hx
  obtain ⟨u, v, hv, rfl, hstart⟩ := h.exists_start x hx
  rcases List.eq_nil_or_concat v with rfl | ⟨v, c, rfl⟩
  · exact absurd rfl hv
  obtain rfl : c = '\n' := by simpa using hs
  rw [hstart, Position.after_append, List.concat_eq_append, Position.after_append]
  exact Nat.lt_succ_of_le (Position.line_le_after _ v)

/-- What starts before the insertion stays. -/
theorem moved_self {i : Insertion} {x : Lexeme} (h : x.start.line < i.line) : x.Moved i x := by
  have hlt : ¬ i.line ≤ x.start.line := Nat.not_le_of_lt h
  exact ⟨rfl, by simp [Position.move, Insertion.moveLine, Insertion.moveOffset, hlt],
    by simp [Insertion.moveOffset, hlt]⟩

theorem forall₂_moved_self {i : Insertion} {xs : List Lexeme}
    (h : ∀ x ∈ xs, x.start.line < i.line) : List.Forall₂ (Moved i) xs xs :=
  List.forall₂_same.2 fun x hx => moved_self (h x hx)

end Lexeme

/-! ## Scanning a comment -/

namespace ScanState

theorem step_comment (s : ScanState) (p q : Position) : s.step ⟨.comment, p, q⟩ = s := by
  simp [step, act, noteTrailing, isSignificant]

theorem step_blank (s : ScanState) {c : Char} (hc : isBlank c = true) (p q : Position) :
    s.step ⟨.plain c, p, q⟩ = s := by
  simp [step, act, noteTrailing, isSignificant, hc]

theorem run_comment (s : ScanState) (p : Position) {c q : Text} (hc : '\n' ∉ c)
    (hq : q = [] ∨ q.head? = some '\n') :
    s.run (Lexeme.lexemesFrom p ('%' :: (c ++ q))) =
      s.run (Lexeme.lexemesFrom ((p.next '%').after c) q) := by
  have htake : ((c ++ q).takeWhile (· ≠ '\n')) = c := by
    have hall : ∀ d ∈ c, decide (d ≠ '\n') = true := fun d hd => by
      rw [decide_eq_true_iff]
      rintro rfl
      exact hc hd
    rw [List.takeWhile_append_of_pos hall]
    rcases hq with rfl | hq
    · simp
    · obtain ⟨q, rfl⟩ := List.head?_eq_some_iff.1 hq
      simp
  have hlex : Lexeme.lexeme '%' (c ++ q) = (.comment, c.length) := by
    simp only [Lexeme.lexeme]
    rw [htake]
  rw [Lexeme.lexemesFrom_cons, hlex]
  simp only [List.take_left, List.drop_left]
  rw [run, List.foldl_cons, step_comment]
  rfl

theorem run_newline (s : ScanState) (p : Position) (q : Text) :
    s.run (Lexeme.lexemesFrom p ('\n' :: q)) = s.run (Lexeme.lexemesFrom (p.next '\n') q) := by
  have hlex : Lexeme.lexeme '\n' q = (.plain '\n', 0) := rfl
  rw [Lexeme.lexemesFrom_cons, hlex, run, List.foldl_cons, step_blank _ (by decide)]
  rfl

/-- Behind a comment and the newline that ends it, a scan goes on as before. -/
theorem run_comment_line (s : ScanState) (p : Position) {c : Text} (hc : '\n' ∉ c) (q : Text) :
    s.run (Lexeme.lexemesFrom p ('%' :: (c ++ '\n' :: q))) =
      s.run (Lexeme.lexemesFrom ⟨p.line + 1, 1, p.offset + Text.byteLength c + 2⟩ q) := by
  rw [s.run_comment p hc (.inr rfl), run_newline]
  have hline : ∀ (t : Text) (p : Position), '\n' ∉ t → (p.after t).line = p.line := fun t => by
    induction t with
    | nil => simp
    | cons d t ih =>
      intro p hd
      rw [List.mem_cons, not_or] at hd
      rw [Position.after_cons, ih _ hd.2]
      simp [Position.next, Ne.symm hd.1]
  have hnext : ((p.next '%').after c).next '\n' =
      ⟨p.line + 1, 1, p.offset + Text.byteLength c + 2⟩ := by
    have hp : ('%' : Char).utf8Size = 1 := by decide
    have hn : ('\n' : Char).utf8Size = 1 := by decide
    have hfirst : (p.next '%').line = p.line := by simp [Position.next]
    rw [Position.next, if_pos rfl, hline c _ hc, hfirst, Position.offset_after,
      Position.offset_next, hp, hn]
    simp only [Position.mk.injEq, true_and]
    omega
  rw [hnext]

end ScanState

/-! ## Scanning a document with a comment -/

theorem scan_of_reads {a b : Text} {xs : List Lexeme} (h : Lexeme.Reads .start a b xs) :
    scan (a ++ b) =
      ((ScanState.run {} xs).run (Lexeme.lexemesFrom (Position.start.after a) b)).finish := by
  rw [scan, Lexeme.lexemes, h.lexemesFrom_append]
  exact congrArg _ List.foldl_append

/-- A scan behind an insertion reports the same where it has moved. -/
theorem finish_run_move {i : Insertion} {xs : List Lexeme} {p : Position}
    (hxs : ∀ x ∈ xs, x.start.line < i.line) (hp : i.line ≤ p.line) (t : Text) :
    ((ScanState.run {} xs).run (Lexeme.lexemesFrom (p.move i) t)).finish =
      ((ScanState.run {} xs).run (Lexeme.lexemesFrom p t)).finish.move i := by
  have hstart : ScanState.move i {} = {} := rfl
  have hbefore : (ScanState.run {} xs).move i = ScanState.run {} xs := by
    rw [ScanState.move_run (Lexeme.forall₂_moved_self hxs), hstart]
  rw [ScanState.move_finish, ScanState.move_run (Lexeme.forall₂_moved_lexemesFrom hp t), hbefore]

/-- A document with a comment is scanned as if the text of the comment had been put in
before the next line. -/
theorem scan_comment {p c q : Text} {xs : List Lexeme}
    (h : Lexeme.Reads .start p ('%' :: (c ++ q)) xs) (hc : '\n' ∉ c)
    (hq : q = [] ∨ q.head? = some '\n') :
    scan (p ++ '%' :: (c ++ q)) = (scan (p ++ '%' :: q)).move
      ⟨(Position.start.after p).line + 1, 0, Text.byteLength c⟩ := by
  have h' : Lexeme.Reads .start p ('%' :: ([] ++ q)) xs := by
    refine h.exchange (fun hnil => absurd hnil (List.cons_ne_nil _ _)) ?_ ?_ <;>
      exact .inr rfl
  have hline : ∀ x ∈ xs, x.start.line < (Position.start.after p).line + 1 := fun x hx =>
    Nat.lt_succ_of_le (h.line_le x hx)
  rw [scan_of_reads h, show p ++ '%' :: q = p ++ '%' :: ([] ++ q) from rfl, scan_of_reads h']
  generalize Position.start.after p = pos at hline ⊢
  rcases hq with rfl | hq
  · -- nothing stands behind the comment, so any place behind the insertion will do
    rw [ScanState.run_comment _ _ hc (.inl rfl), ScanState.run_comment _ _ (by simp) (.inl rfl)]
    have := finish_run_move (i := ⟨pos.line + 1, 0, Text.byteLength c⟩) hline
      (p := ⟨pos.line + 1, 1, 0⟩) (Nat.le_refl _) []
    rwa [Lexeme.lexemesFrom, Lexeme.lexemesFrom] at this ⊢
  · obtain ⟨q, rfl⟩ := List.head?_eq_some_iff.1 hq
    rw [ScanState.run_comment_line _ _ hc, ScanState.run_comment_line _ _ (by simp),
      ← finish_run_move hline (Nat.le_refl _)]
    simp only [Position.move, Insertion.moveLine, Insertion.moveOffset, Nat.le_refl, ↓reduceIte,
      Text.byteLength]
    congr 4
    omega

theorem Reached.exists_reads {a b : Text} (h : Reached a b) :
    ∃ xs, Lexeme.Reads .start a b xs ∧ (b = [] → ∀ x ∈ xs, x.token.isUnclosed = false) := by
  rcases h with ⟨x, hx, hoffset⟩ | ⟨rfl, hclosed⟩
  · obtain ⟨hb, xs, h⟩ := Lexeme.exists_reads_of_offset hx hoffset
    exact ⟨xs, h, fun hnil => absurd hnil hb⟩
  · exact ⟨_, Lexeme.reads_lexemesFrom .start a, fun _ => hclosed⟩

theorem Position.column_after {a : Text} (ha : a = [] ∨ a.getLast? = some '\n') :
    (start.after a).column = 1 := by
  rcases List.eq_nil_or_concat a with rfl | ⟨a, c, rfl⟩
  · rfl
  obtain rfl : c = '\n' := by simpa using ha
  rw [List.concat_eq_append, after_append]
  rfl

/-- A document with a comment on a line of its own is scanned as the document without it,
where what stands behind has moved by one line. -/
theorem scan_comment_line {a b c : Text} (h : Reached a b)
    (ha : a = [] ∨ a.getLast? = some '\n') (hc : '\n' ∉ c) :
    scan (a ++ '%' :: (c ++ '\n' :: b)) = (scan (a ++ b)).move
      ⟨(Position.start.after a).line, 1, Text.byteLength c + 2⟩ := by
  obtain ⟨xs, hreads, hclosed⟩ := h.exists_reads
  have hreads' : Lexeme.Reads .start a ('%' :: (c ++ '\n' :: b)) xs := by
    rcases ha with rfl | ha
    · cases hreads
      exact .nil _ _
    · exact hreads.exchange hclosed (.inl ha) (.inl ha)
  have hcolumn := Position.column_after ha
  have hline := hreads.line_lt ha
  rw [scan_of_reads hreads, scan_of_reads hreads', ScanState.run_comment_line _ _ hc,
    ← finish_run_move (i := ⟨(Position.start.after a).line, 1, Text.byteLength c + 2⟩) hline
      (Nat.le_refl _)]
  simp only [Position.move, Insertion.moveLine, Insertion.moveOffset, Nat.le_refl, ↓reduceIte,
    hcolumn]
  congr 4

/-! ## Issues behind an insertion -/

section Issues

variable {i : Insertion}

theorem Insertion.moveLine_of_lines (h : i.lines = 0) (l : Nat) : i.moveLine l = l := by
  unfold moveLine
  rw [h]
  exact ite_self l

theorem Issue.ofFinding_move (h : i.lines = 0) (f : Finding) :
    ofFinding (f.move i) = ofFinding f := by
  have hline := Insertion.moveLine_of_lines h
  cases f <;>
    simp only [ofFinding, Finding.move, Finding.place, Position.move, OpenEnvironment.move, hline,
      misorderedMessage]

theorem Issue.ofSkeleton_move (o : ScanOutcome) : ofSkeleton (o.move i) = ofSkeleton o := by
  simp [ofSkeleton, ScanOutcome.move]

/-- Issues say nothing about offsets. -/
theorem issuesOf_move (h : i.lines = 0) (lookup : Option FileLookup) (o : ScanOutcome) :
    issuesOf lookup (o.move i) = issuesOf lookup o := by
  have hline := Insertion.moveLine_of_lines h
  have hfindings : (o.findings.map (·.move i)).map Issue.ofFinding =
      o.findings.map Issue.ofFinding := by
    rw [List.map_map]
    exact List.map_congr_left fun f _ => Issue.ofFinding_move h f
  have htrailing : Issue.ofTrailing (o.move i) = Issue.ofTrailing o := by
    unfold Issue.ofTrailing ScanOutcome.move
    cases o.documentEnd <;> cases o.trailingContent <;>
      simp only [Option.map_some, Option.map_none, Position.move, DocumentEnd.move, hline]
  have hinclusions : ∀ known, Issue.ofInclusions known (o.move i) = Issue.ofInclusions known o :=
    fun known => by
      simp [Issue.ofInclusions, ScanOutcome.move, List.filter_map, Function.comp_def,
        Inclusion.move, Position.move, hline]
  unfold issuesOf
  rw [htrailing, Issue.ofSkeleton_move]
  cases lookup with
  | none => exact congrArg (fun is => is ++ _ ++ _ ++ []) hfindings
  | some known =>
    simp only [hinclusions]
    exact congrArg (fun is => is ++ _ ++ _ ++ _) hfindings

/-- An insertion takes no issue away and adds none. -/
theorem length_issuesOf_move (lookup : Option FileLookup) (o : ScanOutcome) :
    (issuesOf lookup (o.move i)).length = (issuesOf lookup o).length := by
  have hfindings : (o.move i).findings.length = o.findings.length := List.length_map _
  have htrailing : (Issue.ofTrailing (o.move i)).length = (Issue.ofTrailing o).length := by
    unfold Issue.ofTrailing ScanOutcome.move
    cases o.documentEnd <;> cases o.trailingContent <;> rfl
  have hinclusions : ∀ known,
      (Issue.ofInclusions known (o.move i)).length = (Issue.ofInclusions known o).length :=
    fun known => by
      simp [Issue.ofInclusions, ScanOutcome.move, List.filter_map, Function.comp_def,
        Inclusion.move]
  unfold issuesOf
  cases lookup with
  | none => simp [hfindings, htrailing, Issue.ofSkeleton_move]
  | some known => simp [hfindings, htrailing, Issue.ofSkeleton_move, hinclusions]

end Issues

/-- What stands in a comment does not matter for validation, and a comment on a line of its
own only moves the lines behind it. -/
theorem comment_blindness (lookup : Option FileLookup) :
    (∀ p c c' q : Text, '\n' ∉ c → '\n' ∉ c' → (q = [] ∨ q.head? = some '\n') →
      StartsComment p (c ++ q) →
        validate lookup (p ++ '%' :: (c' ++ q)) = validate lookup (p ++ '%' :: (c ++ q))) ∧
    ∀ a b c : Text, (a = [] ∨ a.getLast? = some '\n') → '\n' ∉ c → Reached a b →
      (validate lookup (a ++ '%' :: (c ++ '\n' :: b))).valid =
        (validate lookup (a ++ b)).valid ∧
      validate lookup (a ++ '%' :: (c ++ '\n' :: b)) =
        Validation.ofIssues (issuesOf lookup ((scan (a ++ b)).move
          ⟨(Position.start.after a).line, 1, Text.byteLength c + 2⟩)) := by
  refine ⟨fun p c c' q hc hc' hq h => ?_, fun a b c ha hc h => ?_⟩
  · obtain ⟨x, hx, -, hoffset⟩ := h
    obtain ⟨-, xs, hreads⟩ := Lexeme.exists_reads_of_offset hx hoffset
    have hreads' : Lexeme.Reads .start p ('%' :: (c' ++ q)) xs := by
      refine hreads.exchange (fun hnil => absurd hnil (List.cons_ne_nil _ _)) ?_ ?_ <;>
        exact .inr rfl
    rw [validate, validate, scan_comment hreads hc hq, scan_comment hreads' hc' hq,
      issuesOf_move rfl, issuesOf_move rfl]
  · have hscan := scan_comment_line h ha hc
    rw [validate, hscan]
    refine ⟨?_, rfl⟩
    rw [Bool.eq_iff_iff, validate, Validation.valid_ofIssues, Validation.valid_ofIssues,
      ← List.length_eq_zero_iff, ← List.length_eq_zero_iff, length_issuesOf_move]

/-- Braces, a brace too many and a new line of comment change nothing, beside an escaped percent
sign and an environment that ends. -/
theorem comment_blindness_beside_escape :
    StartsComment "\\%\x7b".toList "\x7d\n$".toList ∧
    validate none "\\%\x7b% \x7b\n$".toList = validate none "\\%\x7b%\x7d\n$".toList ∧
    Reached "\x7b\n".toList "\\end{a}".toList ∧
    (validate none "\x7b\n%\x7d\n\\end{a}".toList).valid =
      (validate none "\x7b\n\\end{a}".toList).valid ∧
    validate none "\x7b\n%\x7d\n\\end{a}".toList =
      Validation.ofIssues (issuesOf none ((scan "\x7b\n\\end{a}".toList).move ⟨2, 1, 3⟩)) := by
  have hstarts : StartsComment "\\%\x7b".toList "\x7d\n$".toList := by
    unfold StartsComment
    decide +kernel
  have hreached : Reached "\x7b\n".toList "\\end{a}".toList := by
    unfold Reached
    decide +kernel
  exact ⟨hstarts,
    (comment_blindness none).1 "\\%\x7b".toList ['}'] " \x7b".toList "\n$".toList (by decide)
      (by decide) (by decide) hstarts,
    hreached,
    (comment_blindness none).2 "\x7b\n".toList "\\end{a}".toList ['}'] (by decide) (by decide)
      hreached⟩

end LatexRepair
