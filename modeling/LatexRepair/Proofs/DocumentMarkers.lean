import LatexRepair.Proofs.CommentBlindness
import LatexRepair.Proofs.EnvironmentAccount
import LatexRepair.Proofs.LineEnds
import LatexRepair.Proofs.RestoredEnds

/-!
# The markers of a document, line by line

No marker goes on behind the end of its line, so the markers that the scan of a document reads are
those that it reads in its lines, one by one (`markersOf_lexemes_eq_readWord`), and they are the
live markers of the lines where each of these is one that the scan reads
(`markersOf_lexemes_eq_liveWord`). Whether text is taken literally is decided line by line as well
(`noLiteral_append_iff`).

Validation has an issue about environments unless the markers that the scan reads are well nested
(`hasKind_environment_iff`).
-/

namespace LatexRepair

variable {l r t : Text}

/-! ## Markers at the end of a line -/

theorem takeWhile_isCommandChar_append_newline (l r : Text) :
    (l ++ '\n' :: r).takeWhile isCommandChar = l.takeWhile isCommandChar := by
  rw [List.takeWhile_append]
  split
  · rename_i hall
    rw [List.takeWhile_cons_of_neg (by decide), List.append_nil,
      (List.takeWhile_prefix _).eq_of_length hall]
  · rfl

theorem groupArgument?_drop_append_newline {n : Nat} (h : n ≤ l.length) (r : Text) :
    Lexeme.groupArgument? ((l ++ '\n' :: r).drop n) = Lexeme.groupArgument? (l.drop n) := by
  rw [List.drop_append_of_le_length h]
  exact Lexeme.groupArgument?_append_newline _ _

/-- A marker is read in its line alone. -/
theorem readMarker?_append_newline (l r : Text) : readMarker? (l ++ '\n' :: r) = readMarker? l := by
  unfold readMarker?
  rw [takeWhile_isCommandChar_append_newline]
  dsimp only
  rw [groupArgument?_drop_append_newline (Text.length_takeWhile_le _ _)]

theorem startsLiteral_append_newline_iff (l r : Text) :
    StartsLiteral (l ++ '\n' :: r) ↔ StartsLiteral l := by
  unfold StartsLiteral
  rw [takeWhile_isCommandChar_append_newline]
  refine or_congr_right (and_congr_right fun hname => ?_)
  rw [groupArgument?_drop_append_newline (hname ▸ Text.length_takeWhile_le _ _)]

/-! ## Markers line by line -/

/-- The markers that the scan reads in lines, in reading order. -/
def readWord (ls : List Text) : List Marker :=
  ls.flatMap fun line => ((liveMarkers line).filter (PlacedMarker.isRead line)).map (·.marker)

theorem filterMap_marker?_codePlacesFrom_append (hl : '\n' ∉ l) (s : LineState) (p : Position)
    (r : Text) :
    (codePlacesFrom s p (l ++ '\n' :: r)).filterMap CodePlace.marker? =
      (codePlacesFrom s p l).filterMap CodePlace.marker? ++
        (codePlacesFrom .code ((p.after l).next '\n') r).filterMap CodePlace.marker? := by
  induction l generalizing s p with
  | nil =>
    rw [List.nil_append, codePlacesFrom_newline]
    rfl
  | cons c l ih =>
    obtain ⟨hc, hl⟩ : c ≠ '\n' ∧ '\n' ∉ l := by simpa [eq_comm] using hl
    have hmarker : CodePlace.marker? ⟨p, c, l ++ '\n' :: r⟩ = CodePlace.marker? ⟨p, c, l⟩ := by
      unfold CodePlace.marker?
      rw [readMarker?_append_newline]
    rw [List.cons_append, Position.after_cons]
    cases s with
    | code =>
      rw [codePlacesFrom_code hc, codePlacesFrom_code hc, filterMap_cons_eq, filterMap_cons_eq,
        hmarker, ih hl, List.append_assoc]
    | escaped =>
      rw [codePlacesFrom_escaped, codePlacesFrom_escaped]
      exact ih hl _ _
    | comment =>
      rw [codePlacesFrom_comment hc, codePlacesFrom_comment hc]
      exact ih hl _ _

theorem filterMap_marker?_codePlacesFrom_unlines {ls : List Text} (h : ∀ l ∈ ls, '\n' ∉ l)
    (p : Position) :
    (codePlacesFrom .code p (Text.unlines ls)).filterMap CodePlace.marker? = readWord ls := by
  have hline : ∀ l p, '\n' ∉ l → (codePlacesFrom .code p l).filterMap CodePlace.marker? =
      ((liveMarkers l).filter (PlacedMarker.isRead l)).map (·.marker) := fun l p hl => by
    rw [liveMarkers_eq]
    exact (filter_isRead_markersFrom [] hl p).symm
  induction ls generalizing p with
  | nil => rfl
  | cons l ls ih =>
    obtain ⟨hl, hls⟩ := List.forall_mem_cons.1 h
    cases ls with
    | nil =>
      rw [Text.unlines, List.intercalate_singleton, hline l p hl]
      simp [readWord]
    | cons m ls =>
      have hunlines : Text.unlines (l :: m :: ls) = l ++ '\n' :: Text.unlines (m :: ls) := by
        simp [Text.unlines, List.intercalate_cons_cons]
      rw [hunlines, filterMap_marker?_codePlacesFrom_append hl, hline l p hl, ih hls]
      simp [readWord]

/-- Where no text is taken literally, a document has the markers that are read in its lines. -/
theorem markersOf_lexemes_eq_readWord (h : NoLiteral t) :
    markersOf (Lexeme.lexemes t) = readWord (Text.lines t) := by
  have hlines := filterMap_marker?_codePlacesFrom_unlines
    (fun _ => Text.newline_not_mem_of_mem_lines (t := t)) .start
  rw [Text.unlines_lines] at hlines
  exact (agrees_codePlacesFrom .start t h).markers.trans hlines

/-- The scan reads all live markers of the lines. -/
def LiveRead (ls : List Text) : Prop :=
  ∀ line ∈ ls, ∀ x ∈ liveMarkers line, x.isRead line = true

instance (ls : List Text) : Decidable (LiveRead ls) :=
  inferInstanceAs (Decidable (∀ line ∈ ls, ∀ x ∈ liveMarkers line, x.isRead line = true))

theorem readWord_eq_liveWord {ls : List Text} (h : LiveRead ls) : readWord ls = liveWord ls :=
  List.flatMap_congr fun line hline => by rw [List.filter_eq_self.2 (h line hline)]

theorem markersOf_lexemes_eq_liveWord (h : NoLiteral t) (hread : LiveRead (Text.lines t)) :
    markersOf (Lexeme.lexemes t) = liveWord (Text.lines t) :=
  (markersOf_lexemes_eq_readWord h).trans (readWord_eq_liveWord hread)

/-! ## Literal text line by line -/

theorem NoLiteral.isUnclosed_eq_false (h : NoLiteral t) :
    ∀ x ∈ Lexeme.lexemes t, x.token.isUnclosed = false := fun x hx => by
  have hliteral := h x hx
  generalize x.token = token at hliteral
  cases token <;> first | rfl | cases hliteral

/-- Lines in which no verbatim environment is left open are read before what stands behind. -/
theorem reads_of_closed {p : Text} (h : ∀ x ∈ Lexeme.lexemes p, x.token.isUnclosed = false)
    (hp : p = [] ∨ p.getLast? = some '\n') (q : Text) :
    Lexeme.Reads .start p q (Lexeme.lexemes p) := by
  rcases hp with rfl | hp
  · rw [Lexeme.lexemes, Lexeme.lexemesFrom]
    exact .nil _ _
  · exact (Lexeme.reads_lexemesFrom .start p).exchange (fun _ => h) (.inl hp) (.inl hp)

/-- They are read as if nothing stood behind them, and so is what stands there. -/
theorem map_token_lexemes_append {p : Text} (h : ∀ x ∈ Lexeme.lexemes p, x.token.isUnclosed = false)
    (hp : p = [] ∨ p.getLast? = some '\n') (q : Text) :
    (Lexeme.lexemes (p ++ q)).map (·.token) =
      (Lexeme.lexemes p).map (·.token) ++ (Lexeme.lexemes q).map (·.token) := by
  rw [Lexeme.lexemes, (reads_of_closed h hp q).lexemesFrom_append, List.map_append,
    Lexeme.map_token_lexemesFrom _ .start]
  rfl

/-- A document is read to the end of a line before what stands behind. -/
theorem NoLiteral.reads {p : Text} (h : NoLiteral p) (hp : p = [] ∨ p.getLast? = some '\n')
    (q : Text) : Lexeme.Reads .start p q (Lexeme.lexemes p) :=
  reads_of_closed h.isUnclosed_eq_false hp q

/-- Lines take text literally exactly if the first ones or the others do. -/
theorem noLiteral_append_iff {p q : Text} (hp : p = [] ∨ p.getLast? = some '\n') :
    NoLiteral (p ++ q) ↔ NoLiteral p ∧ NoLiteral q := by
  have htokens : ∀ start : Position, (∀ x ∈ Lexeme.lexemesFrom start q, x.token.isLiteral = false) ↔
      NoLiteral q := fun start => by
    have hmap := Lexeme.map_token_lexemesFrom start .start q
    have hall : ∀ xs : List Lexeme, (∀ x ∈ xs, x.token.isLiteral = false) ↔
        ∀ token ∈ xs.map (·.token), token.isLiteral = false := fun xs => by simp
    rw [hall, hmap, ← hall]
    rfl
  have hsplit : NoLiteral p → (NoLiteral (p ++ q) ↔ NoLiteral q) := fun h => by
    rw [NoLiteral, Lexeme.lexemes, (h.reads hp q).lexemesFrom_append, List.forall_mem_append,
      htokens]
    exact and_iff_right h
  refine ⟨fun h => ?_, fun h => (hsplit h.1).2 h.2⟩
  have hfront : NoLiteral p := fun x hx => by
    obtain ⟨s, c, r, xs, rfl, hreads, htoken, -⟩ := Lexeme.exists_reads_of_mem hx
    rw [htoken, Bool.eq_false_iff]
    intro hliteral
    obtain ⟨rfl, hstarts⟩ := (Lexeme.isLiteral_lexeme_iff c r).1 hliteral
    -- The backslash is read with `q` behind the text as well, and what follows it in its line.
    have hreads' : Lexeme.Reads .start s ('\\' :: (r ++ q)) xs :=
      hreads.exchange (fun hnil => absurd hnil (List.cons_ne_nil _ _)) (.inr rfl) (.inr rfl)
    rw [List.append_assoc, List.cons_append, NoLiteral, Lexeme.lexemes, hreads'.lexemesFrom_append,
      Lexeme.lexemesFrom_cons, List.forall_mem_append, List.forall_mem_cons] at h
    obtain ⟨r, rfl⟩ : ∃ r', r = r' ++ ['\n'] := by
      rcases List.eq_nil_or_concat r with rfl | ⟨r', d, rfl⟩
      · simp at hp
      · have hlast := hp.resolve_left (by simp)
        rw [List.concat_eq_append, ← List.cons_append, ← List.append_assoc,
          List.getLast?_concat] at hlast
        exact ⟨r', by rw [List.concat_eq_append, Option.some.inj hlast]⟩
    have hbehind : StartsLiteral (r ++ ['\n'] ++ q) := by
      rw [startsLiteral_append_newline_iff] at hstarts
      rw [List.append_assoc, List.singleton_append]
      exact (startsLiteral_append_newline_iff r q).2 hstarts
    exact Bool.false_ne_true (h.2.1.symm.trans
      ((Lexeme.isLiteral_lexeme_iff _ _).2 ⟨rfl, hbehind⟩))
  exact ⟨hfront, (hsplit hfront).1 h⟩

/-! ## Issues about environments -/

theorem Finding.kind_eq_environment_iff (f : Finding) :
    f.kind = .environment ↔ f.delimiter? = none := by
  cases f with
  | unmatchedOpen d p | unmatchedClose d p | misordered d c o =>
    cases d <;> simp [kind, Issue.ofFinding, IssueKind.ofDelimiter, delimiter?]
  | _ => simp [kind, Issue.ofFinding, delimiter?]

/-- No issue is about environments exactly if the markers that the scan reads are well nested and
all verbatim environments have their ends. -/
theorem hasKind_environment_iff (lookup : Option FileLookup) (t : Text) :
    (validate lookup t).hasKind .environment = false ↔
      WellNested (markersOf (Lexeme.lexemes t)) ∧
        ∀ x ∈ Lexeme.lexemes t, x.token.isUnclosed = false := by
  rw [← ScanState.quiet_run_iff, ← forall_delimiter?_ne_none_iff, Validation.hasKind,
    List.any_eq_false]
  simp only [decide_eq_true_eq]
  refine ⟨fun h f hf hnone => ?_, fun h i hi hkind => ?_⟩
  · exact h _ (ofFinding_mem_issues lookup hf) (f.kind_eq_environment_iff.2 hnone)
  · rcases kind_of_mem_issues hi with ⟨f, hf, rfl⟩ | h' | h' | h'
    · exact h f hf (f.kind_eq_environment_iff.1 hkind)
    all_goals cases hkind.symm.trans h'

/-! ## Documents of which the live markers are read -/

/-- The scan reads the live markers of the document, and no verbatim environment is left open. -/
structure ReadsLive (t : Text) : Prop where
  closed : ∀ x ∈ Lexeme.lexemes t, x.token.isUnclosed = false
  markers : markersOf (Lexeme.lexemes t) = liveWord (Text.lines t)

theorem NoLiteral.readsLive (h : NoLiteral t) (hread : LiveRead (Text.lines t)) : ReadsLive t :=
  ⟨h.isUnclosed_eq_false, markersOf_lexemes_eq_liveWord h hread⟩

/-- Issues about environments are decided by the live markers. -/
theorem ReadsLive.hasKind_iff (h : ReadsLive t) :
    (validate none t).hasKind .environment = false ↔ WellNested (liveWord (Text.lines t)) := by
  rw [hasKind_environment_iff, h.markers]
  exact and_iff_left h.closed

theorem liveWord_lines_append {p : Text} (hp : p = [] ∨ p.getLast? = some '\n') (q : Text) :
    liveWord (Text.lines (p ++ q)) = liveWord (Text.lines p) ++ liveWord (Text.lines q) := by
  rcases hp with rfl | hp
  · rfl
  · obtain ⟨p, rfl⟩ := List.getLast?_eq_some_iff.1 hp
    have hlines : Text.lines (p ++ ['\n']) = Text.lines p ++ [[]] :=
      List.splitOn_append_cons_self p []
    have hboth : Text.lines (p ++ ['\n'] ++ q) = Text.lines p ++ Text.lines q := by
      rw [List.append_assoc]
      exact List.splitOn_append_cons_self p q
    rw [hlines, hboth, liveWord_append, liveWord_append, List.append_assoc]
    rfl

/-- Behind whole lines of which the live markers are read, it is decided for itself whether those
of a document are. -/
theorem ReadsLive.append_iff {p q : Text} (h : ReadsLive p)
    (hp : p = [] ∨ p.getLast? = some '\n') : ReadsLive (p ++ q) ↔ ReadsLive q := by
  have htokens := map_token_lexemes_append h.closed hp q
  have hclosed : ∀ xs : List Lexeme, (∀ x ∈ xs, x.token.isUnclosed = false) ↔
      ∀ token ∈ xs.map (·.token), token.isUnclosed = false := fun xs => by simp
  have happend : (Lexeme.lexemes (p ++ q)).map (·.token) =
      (Lexeme.lexemes p ++ Lexeme.lexemes q).map (·.token) := by
    rw [htokens, List.map_append]
  have hmarkers : markersOf (Lexeme.lexemes (p ++ q)) =
      markersOf (Lexeme.lexemes p) ++ markersOf (Lexeme.lexemes q) :=
    (markersOf_congr happend).trans List.filterMap_append
  have hiff : (∀ x ∈ Lexeme.lexemes (p ++ q), x.token.isUnclosed = false) ↔
      ∀ x ∈ Lexeme.lexemes q, x.token.isUnclosed = false := by
    rw [hclosed, htokens, List.forall_mem_append, ← hclosed, ← hclosed]
    exact and_iff_right h.closed
  have hword := liveWord_lines_append hp q
  constructor
  · rintro ⟨hc, hm⟩
    rw [hmarkers, hword, h.markers] at hm
    exact ⟨hiff.1 hc, List.append_cancel_left hm⟩
  · rintro ⟨hc, hm⟩
    exact ⟨hiff.2 hc, by rw [hmarkers, hword, h.markers, hm]⟩

end LatexRepair
