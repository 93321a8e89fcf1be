import LatexRepair.Proofs.InStep
import LatexRepair.Proofs.Linewise
import LatexRepair.Proofs.MarkerPlaces
import LatexRepair.Proofs.MarkupEdits
import LatexRepair.Proofs.Settling

/-!
# Prose is preserved

A guided repair touches nothing but markup (`repairGuided_preserves_prose`) : the repaired
rendition is reached from the rendition by edits of its markup, as `MarkupEdit` lists them,
so all other characters stay, and stay in order. Each rule on the structure is followed to
the edits that it makes, and so are the passes over the lines.
-/

namespace LatexRepair

open Relation

variable {guide : Text}

/-! ## Ends of the document -/

theorem Edit.applyAll_cons (e : Edit) (es : List Edit) (t : Text) :
    applyAll (e :: es) t = e.apply (applyAll es t) :=
  rfl

/-- To delete ends of the document from a line, the last one first, is to delete one after
another. -/
theorem lineEdits_applyAll_delete {line : Text} {xs : List PlacedMarker}
    (hxs : ∀ x ∈ xs, x.marker = .endDocument ∧ x ∈ markers line)
    (hpair : xs.Pairwise fun x y => x.stop ≤ y.start) :
    LineEdits guide line (Edit.applyAll (xs.map fun x => .delete x.start x.stop) line) := by
  induction xs with
  | nil => exact .refl
  | cons x xs ih =>
    obtain ⟨⟨hend, hmem⟩, hxs⟩ := List.forall_mem_cons.1 hxs
    obtain ⟨hx, hpair⟩ := List.pairwise_cons.1 hpair
    obtain ⟨a, s, b, hline, hs, hstart, hstop⟩ := exists_spelling_of_mem_markers hmem
    have hle : x.stop ≤ line.length := by
      rw [hline, hstop]
      simp only [List.length_append]
      omega
    have htake := Edit.take_applyAll (xs.map fun x => .delete x.start x.stop) hle
      (by simpa [Edit.delete] using hx)
    refine (ih hxs hpair).tail ?_
    rw [List.map_cons, Edit.applyAll_cons]
    generalize Edit.applyAll _ line = u at htake
    have hprefix : u.take x.stop = a ++ s.text := by
      rw [htake, hline, hstop, ← List.append_assoc, List.take_left' (List.length_append ..)]
    have hu : u = a ++ (s.text ++ u.drop x.stop) := by
      rw [← List.append_assoc, ← hprefix, List.take_append_drop]
    generalize u.drop x.stop = r at hu
    rw [hstart, hstop, hu, LineRepair.apply_delete_append]
    exact .dropTerminator a r s (hs.trans hend)

namespace StructureRepair

/-- Surplus ends of the document go from a line. -/
theorem lineEdits_removeTerminators (keep : Nat) (line : Text) :
    LineEdits guide line (Edit.applyAll
      ((((liveMarkers line).filter (·.marker = .endDocument)).drop keep).map fun m =>
        .delete m.start m.stop) line) := by
  refine lineEdits_applyAll_delete (fun x hx => ?_) ((pairwise_liveMarkers line).filter _).drop
  have hx := List.mem_filter.1 (List.mem_of_mem_drop hx)
  exact ⟨by simpa using hx.2, (List.mem_filter.1 hx.1).1⟩

theorem markupEdits_removeTerminators (keep number : Nat) (before ts : List Text) :
    MarkupEdits guide (Text.unlines (before ++ ts))
      (Text.unlines (before ++ (removeTerminators keep number ts).1)) := by
  induction ts generalizing keep number before with
  | nil => exact .refl
  | cons line rest ih =>
    simp only [removeTerminators]
    have hline : LineEdits guide _ _ := lineEdits_removeTerminators keep line
    generalize (liveMarkers line).filter (·.marker = .endDocument) = live at hline ⊢
    have hnext := fun l => ih (keep - live.length) (number + 1) (before ++ [l])
    simp only [List.append_assoc, List.singleton_append] at hnext
    split
    · exact hnext line
    · refine (markupEdits_of_line hline before rest).trans ?_
      dsimp only
      split
      · rename_i hblank
        exact (markupEdits_drop_blank hblank before rest).trans (ih _ _ before)
      · exact hnext _

theorem markupEdits_dropTerminators (ts gs : List Text) :
    MarkupEdits guide (Text.unlines ts) (Text.unlines (dropTerminators ts gs).1) := by
  unfold dropTerminators
  dsimp only
  split
  · exact markupEdits_removeTerminators _ 1 [] ts
  · exact .refl

/-! ## Hidden markers -/

theorem lineEdits_uncomment (line : Text) : LineEdits guide line (uncomment line) := by
  unfold uncomment
  split
  · rename_i hidden hh
    obtain ⟨run, r, hline, hrun, hstart, hstop⟩ := exists_around_hiddenMarker hh
    rw [hstart, hstop]
    generalize codePart line = code at hline
    rw [hline, LineRepair.apply_delete_append]
    exact .single (.dropPercents code r run hrun)
  · exact .refl

/-! ## Lost ends -/

theorem markupEdits_insertEnds {ms : List Marker}
    (h : ∀ m ∈ ms, m.kind = .closing ∧ ∃ g ∈ Text.lines guide, ∃ x ∈ liveMarkers g, x.marker = m)
    (before behind : List Text) :
    MarkupEdits guide (Text.unlines (before ++ behind))
      (Text.unlines (before ++ (ms.map (·.text) ++ behind))) := by
  induction ms generalizing before with
  | nil => exact .refl
  | cons m ms ih =>
    obtain ⟨⟨hkind, hlive⟩, h⟩ := List.forall_mem_cons.1 h
    have hrest := ih h (before ++ [m.text])
    simp only [List.append_assoc, List.singleton_append] at hrest
    exact .head (.insertEnd before behind m hkind hlive) hrest

/-- An end that the rendition lacks is live in the guide. -/
theorem of_mem_missingEnds {occ : List Occurrence} {gs : List Text} {m : Marker}
    (h : m ∈ missingEnds occ (Occurrence.ofLines gs)) :
    m.kind = .closing ∧ ∃ g ∈ gs, ∃ x ∈ liveMarkers g, x.marker = m := by
  obtain ⟨m', hm', h⟩ := List.mem_flatMap.1 h
  obtain ⟨hcount, rfl⟩ := List.mem_replicate.1 h
  have hpos : 0 < Occurrences.liveCount m (Occurrence.ofLines gs) := by
    refine Nat.pos_of_ne_zero fun hzero => hcount ?_
    unfold missingCount
    dsimp only
    split
    · rfl
    · omega
  rw [Occurrences.liveCount_ofLines, List.countP_pos_iff] at hpos
  obtain ⟨x, hx, hmarker⟩ := hpos
  obtain ⟨g, hg, hx⟩ := List.mem_flatMap.1 hx
  exact ⟨by simpa using (List.mem_filter.1 hm').2, g, hg, x, hx, by simpa using hmarker⟩

/-- Where and which ends are inserted. -/
theorem exists_restoreEnds (ts gs : List Text) :
    ∃ (place : Nat) (ms : List Marker),
      (∀ m ∈ ms, m ∈ missingEnds (Occurrence.ofLines ts) (Occurrence.ofLines gs)) ∧
      (restoreEnds ts gs).1 = ts.take place ++ (ms.map (·.text) ++ ts.drop place) := by
  unfold restoreEnds
  dsimp only
  split
  · exact ⟨_, _, fun m hm => (List.mem_filter.1 hm).1, List.append_assoc ..⟩
  · exact ⟨_, _, fun m hm => hm, List.append_assoc ..⟩

theorem markupEdits_restoreEnds (ts : List Text) :
    MarkupEdits guide (Text.unlines ts)
      (Text.unlines (restoreEnds ts (Text.lines guide)).1) := by
  obtain ⟨place, ms, hms, heq⟩ := exists_restoreEnds ts (Text.lines guide)
  have hinsert := markupEdits_insertEnds (fun m hm => of_mem_missingEnds (hms m hm))
    (ts.take place) (ts.drop place)
  rwa [List.take_append_drop, ← heq] at hinsert

/-! ## Braces -/

theorem lines_insertCloser (ts : List Text) (x : Occurrence) :
    List.Forall₂ (LineEdits guide) ts (ts.modify x.line (Edit.insert x.stop ['}']).apply) :=
  lines_modify (fun _ => .refl) x.line ts fun t _ => LineRepair.lineEdits_insertBrace t x.stop

theorem markupEdits_insertClosers (ts : List Text) (xs : List Occurrence) :
    MarkupEdits guide (Text.unlines ts) (Text.unlines (insertClosers ts xs)) := by
  induction xs generalizing ts with
  | nil => exact .refl
  | cons x xs ih =>
    exact (markupEdits_of_lines (lines_insertCloser ts x) []).trans (ih _)

theorem lineEdits_closeInLine (budget : Nat) (line : Text) :
    LineEdits guide line (closeInLine budget line).1 := by
  induction budget generalizing line with
  | zero => exact .refl
  | succ budget ih =>
    rw [closeInLine]
    split
    · exact .refl
    · exact (LineRepair.lineEdits_insertBrace line _).trans (ih _)

/-! ## Trailing braces -/

/-- What is stripped from the end of a text is closing braces and white space. -/
theorem exists_stripBraces (n : Nat) (t : Text) :
    ∃ s, t = s ++ (stripBraces n t).1 ∧ (∀ c ∈ s, c = '}' ∨ isBlank c = true) ∧
      s.count '}' ≤ n := by
  induction t generalizing n with
  | nil => exact ⟨[], rfl, by simp, Nat.zero_le n⟩
  | cons c t ih =>
    rw [stripBraces]
    split
    · exact ⟨[], rfl, by simp, Nat.zero_le n⟩
    · rename_i hn
      split
      · rename_i hc
        obtain ⟨s, hs, hchars, hcount⟩ := ih (n - 1)
        refine ⟨c :: s, congrArg (c :: ·) hs, List.forall_mem_cons.2 ⟨.inl hc, hchars⟩, ?_⟩
        rw [hc, List.count_cons_self]
        omega
      · rename_i hc
        split
        · rename_i hblank
          obtain ⟨s, hs, hchars, hcount⟩ := ih n
          refine ⟨c :: s, congrArg (c :: ·) hs, List.forall_mem_cons.2 ⟨.inr hblank, hchars⟩, ?_⟩
          rwa [List.count_cons_of_ne hc]
        · exact ⟨[], rfl, by simp, Nat.zero_le n⟩

/-- Trimming takes closing braces, no more than the guide lacks, and white space out of a
text. -/
theorem exists_trimBraces? {t o u : Text} {n : Nat} (h : trimBraces? t o = some (u, n)) :
    ∃ a s b, t = a ++ (s ++ b) ∧ u = a ++ b ∧ (∀ c ∈ s, c = '}' ∨ isBlank c = true) ∧
      (∀ c ∈ b, isBlank c = true) ∧ s.count '}' ≤ trailingBraces t - trailingBraces o := by
  obtain ⟨-, rfl, rfl⟩ := trimBraces?_eq_some_iff.1 h
  clear h
  obtain ⟨tail, ht, htail⟩ := Text.exists_trimEnd t
  obtain ⟨s, hs, hchars, hcount⟩ :=
    exists_stripBraces (trailingBraces t - trailingBraces o) (Text.trimEnd t).reverse
  generalize (stripBraces (trailingBraces t - trailingBraces o) (Text.trimEnd t).reverse).1 = kept
    at hs ⊢
  obtain ⟨space, hkept, hspace⟩ := Text.exists_trimEnd kept.reverse
  have hbody : Text.trimEnd t = kept.reverse ++ s.reverse := by
    rw [← List.reverse_append, ← hs, List.reverse_reverse]
  have hdrop : t.drop (Text.trimEnd t).length = tail := by
    generalize Text.trimEnd t = body at ht
    rw [ht, List.drop_left]
  refine ⟨Text.trimEnd kept.reverse, space ++ s.reverse, tail, ?_, by rw [hdrop], ?_, htail, ?_⟩
  · rw [← List.append_assoc, ← List.append_assoc, ← hkept, ← hbody, ← ht]
  · intro c hc
    rcases List.mem_append.1 hc with hc | hc
    · exact .inr (hspace c hc)
    · exact hchars c (List.mem_reverse.1 hc)
  · have hzero : space.count '}' = 0 := List.count_eq_zero.2 fun hmem =>
      absurd (hspace _ hmem) (by decide)
    rw [List.count_append, hzero, List.count_reverse, Nat.zero_add]
    exact hcount

theorem markupEdits_trimBraces? {t o u : Text} {n : Nat} (h : trimBraces? t o = some (u, n)) :
    MarkupEdits guide t u := by
  obtain ⟨a, s, b, rfl, rfl, hs, -⟩ := exists_trimBraces? h
  refine markupEdits_of_lineEdits ?_
  clear h
  induction s with
  | nil => exact .refl
  | cons c s ih =>
    obtain ⟨hc, hs⟩ := List.forall_mem_cons.1 hs
    refine .head ?_ (ih hs)
    rcases hc with rfl | hc
    · exact .dropBrace a (s ++ b)
    · exact .dropBlank a (s ++ b) c hc

end StructureRepair

open StructureRepair

/-! ## Passes -/

/-- The rules on lines that follow each other edit the markup, if each of them does. -/
theorem markupEdits_foldl_andThen {rules : List (List Text → List Text → Step)} {gs : List Text}
    (hrules : ∀ rule ∈ rules, ∀ ts,
      MarkupEdits guide (Text.unlines ts) (Text.unlines (rule ts gs).1)) (s : Step) :
    MarkupEdits guide (Text.unlines s.1)
      (Text.unlines (rules.foldl (fun s rule => andThen rule gs s) s).1) := by
  induction rules generalizing s with
  | nil => exact .refl
  | cons rule rules ih =>
    obtain ⟨hrule, hrules⟩ := List.forall_mem_cons.1 hrules
    exact (hrule s.1).trans (ih hrules (andThen rule gs s))

theorem markupEdits_repairStructure (t guide : Text) :
    MarkupEdits guide t (repairStructure t guide).content := by
  have hrules : ∀ rule ∈ lineRules, ∀ ts,
      MarkupEdits guide (Text.unlines ts) (Text.unlines (rule ts (Text.lines guide)).1) := by
    simp only [lineRules, List.forall_mem_cons, List.not_mem_nil, false_implies, implies_true,
      and_true]
    refine ⟨fun ts => markupEdits_dropTerminators ts _, fun ts => ?_, markupEdits_restoreEnds,
      fun ts => markupEdits_insertClosers ts _, fun ts => ?_⟩
    · exact markupEdits_of_lines
        (lines_restoreHidden (fun _ => .refl) lineEdits_uncomment ts _) []
    · exact markupEdits_of_lines (lines_closeInLines lineEdits_closeInLine _ _ ts) []
  have hfold := markupEdits_foldl_andThen hrules (Text.lines t, [])
  rw [Text.unlines_lines] at hfold
  rw [content_repairStructure]
  cases htrim : trimBraces? _ guide with
  | some trimmed => exact hfold.trans (markupEdits_trimBraces? htrim)
  | none => exact hfold

open AlignedLines

theorem markupEdits_repairByLine (t guide : Text) :
    MarkupEdits guide t (repairByLine t guide).content := by
  have hlines : MarkupEdits guide _ _ := markupEdits_of_lines (lines_mapAligned (fun _ => .refl)
    (f := fun l g => lineStep g l) fun x (hx : x ∈ (Text.lines t).zip (Text.lines guide)) =>
      LineRepair.lineEdits_repairLine (List.of_mem_zip hx).2 x.1) []
  rwa [List.nil_append, List.nil_append, ← lines_repairByLine, Text.unlines_lines,
    Text.unlines_lines] at hlines

theorem markupEdits_repairAnchored (t guide : Text) :
    MarkupEdits guide t (repairAnchored t guide).content := by
  obtain ⟨us, hlines, hus⟩ := lines_repairAnchored (R := LineEdits guide) (fun _ => .refl) t guide
    fun l g hg _ => LineRepair.lineEdits_repairLine hg l
  have hedits := markupEdits_of_lines hlines []
  rwa [List.nil_append, List.nil_append, Text.unlines_lines, ← hus] at hedits

theorem markupEdits_pass (t guide : Text) : MarkupEdits guide t (Guided.pass guide t) := by
  unfold Guided.pass Strategy.apply
  split
  · exact markupEdits_repairByLine t guide
  · refine (markupEdits_repairStructure t guide).trans ?_
    dsimp only
    split
    · exact markupEdits_repairByLine _ guide
    · exact markupEdits_repairAnchored _ guide

theorem markupEdits_repairGuided (t guide : Text) :
    MarkupEdits guide t (repairGuided t guide).content := by
  unfold repairGuided
  split
  · exact .refl
  · rw [Guided.content_passes]
    generalize Guided.maxPasses = n
    induction n with
    | zero => exact .refl
    | succ n ih =>
      rw [Function.iterate_succ_apply']
      exact ih.trans (markupEdits_pass _ guide)

/-! ## Characters of other languages -/

/-- The character is neither an ASCII character nor white space. -/
def isForeign (c : Char) : Bool :=
  127 < c.toNat && !isBlank c

/-- The characters of a text that are neither ASCII characters nor white space, in order. -/
def foreign (t : Text) : Text :=
  t.filter isForeign

theorem foreign_append (s t : Text) : foreign (s ++ t) = foreign s ++ foreign t :=
  List.filter_append ..

theorem foreign_eq_nil {t : Text} (h : ∀ c ∈ t, c.toNat < 128 ∨ isBlank c = true) :
    foreign t = [] := by
  refine List.filter_eq_nil_iff.2 fun c hc => ?_
  rcases h c hc with hc | hc
  · simp [isForeign]
    omega
  · simp [isForeign, hc]

theorem foreign_unlines {ls ms : List Text} (h : ls.flatMap foreign = ms.flatMap foreign) :
    foreign (Text.unlines ls) = foreign (Text.unlines ms) := by
  have hlines : ∀ ls : List Text, foreign (Text.unlines ls) = ls.flatMap foreign := fun ls => by
    induction ls with
    | nil => rfl
    | cons l ls ih =>
      rcases eq_or_ne ls [] with rfl | hls
      · rw [Text.unlines_singleton, List.flatMap_cons, List.flatMap_nil, List.append_nil]
      · rw [← List.singleton_append, Text.unlines_append (List.cons_ne_nil _ _) hls,
          Text.unlines_singleton, foreign_append, ← List.singleton_append, foreign_append, ih]
        rfl
  rw [hlines, hlines, h]

/-- A text whose characters are all ASCII characters, as it can be checked. -/
theorem toNat_lt_of_all {t : Text} (h : t.all (·.toNat < 128) = true) : ∀ c ∈ t, c.toNat < 128 :=
  fun c hc => of_decide_eq_true (List.all_eq_true.1 h c hc)

theorem Marker.toNat_lt_of_mem_controlWord (kind : MarkerKind) :
    ∀ c ∈ controlWord kind, c.toNat < 128 :=
  toNat_lt_of_all (by cases kind <;> decide)

/-- A marker with an ASCII name is spelled in ASCII characters and white space. -/
theorem Marker.Spelling.foreign_text {s : Marker.Spelling}
    (h : ∀ c ∈ s.marker.name, c.toNat < 128) : foreign s.text = [] := by
  refine foreign_eq_nil fun c hc => ?_
  rw [text, List.mem_append, List.mem_append, List.mem_cons, List.mem_append,
    List.mem_singleton] at hc
  rcases hc with hc | hc | rfl | hc | rfl
  · exact .inl (toNat_lt_of_mem_controlWord s.kind c hc)
  · exact .inr (s.blank c hc)
  · exact .inl (by decide)
  · exact (Text.mem_trim_or_isBlank hc).imp_left (h c)
  · exact .inl (by decide)

theorem LineEdit.foreign_eq {t u : Text} (h : LineEdit guide t u) : foreign t = foreign u := by
  cases h with
  | dropTerminator a b s hs =>
    rw [foreign_append, foreign_append, foreign_append,
      s.foreign_text (hs ▸ toNat_lt_of_all (by decide)), List.nil_append]
  | dropPercents a b run hrun =>
    have hnil : foreign run = [] := foreign_eq_nil fun c hc => by
      rcases mem_of_percentRun? hrun c hc with rfl | hc
      · exact .inl (by decide)
      · exact .inr (isBlank_of_isSpaceOrTab hc)
    rw [foreign_append, foreign_append, foreign_append, hnil, List.nil_append]
  | insertIntro _ g intro hg hintro =>
    have hnil : foreign intro = [] := foreign_eq_nil fun c hc => by
      rcases mem_of_commentIntro? hintro c hc with rfl | hc
      · exact .inl (by decide)
      · exact .inr hc
    rw [foreign_append, hnil, List.nil_append]
  | insertBrace a b | dropBrace a b =>
    have hnil : foreign ['}'] = [] := by decide
    rw [foreign_append, foreign_append, ← List.singleton_append, foreign_append, hnil]
    rfl
  | insertBlank a b c hc | dropBlank a b c hc =>
    have hnil : foreign [c] = [] := foreign_eq_nil fun d hd => .inr (List.mem_singleton.1 hd ▸ hc)
    rw [foreign_append, foreign_append, ← List.singleton_append, foreign_append, hnil]
    rfl

/-- The names of the ends that are live in a document are ASCII text. -/
def EndsInAscii (guide : Text) : Prop :=
  ∀ g ∈ Text.lines guide, ∀ x ∈ liveMarkers g, x.marker.kind = .closing →
    ∀ c ∈ x.marker.name, c.toNat < 128

instance (guide : Text) : Decidable (EndsInAscii guide) :=
  decidable_of_iff ((Text.lines guide).all fun g => (liveMarkers g).all fun x =>
      x.marker.kind ≠ .closing || x.marker.name.all (·.toNat < 128)) (by
    simp only [EndsInAscii, List.all_eq_true, Bool.or_eq_true, decide_eq_true_eq, ne_eq,
      imp_iff_not_or])

theorem MarkupEdit.foreign_eq {t u : Text} (hguide : EndsInAscii guide)
    (h : MarkupEdit guide t u) : foreign t = foreign u := by
  cases h with
  | line before behind h =>
    refine foreign_unlines ?_
    simp only [List.flatMap_append, List.flatMap_cons, h.foreign_eq]
  | insertEnd before behind m hkind hlive =>
    obtain ⟨g, hg, x, hx, rfl⟩ := hlive
    have hname := hguide g hg x hx hkind
    have hnil : foreign x.marker.text = [] := foreign_eq_nil fun c hc => by
      rw [Marker.text, List.mem_append, List.mem_cons, List.mem_append, List.mem_singleton] at hc
      rcases hc with hc | rfl | hc | rfl
      · exact .inl (Marker.toNat_lt_of_mem_controlWord x.marker.kind c hc)
      · exact .inl (by decide)
      · exact .inl (hname c hc)
      · exact .inl (by decide)
    exact foreign_unlines (by simp [hnil])

/-- A guided repair edits markup and nothing else : no other character comes, goes or moves,
and so neither does a character of another language, where the ends of the guide have ASCII
names. -/
theorem repairGuided_preserves_prose (t guide : Text) :
    MarkupEdits guide t (repairGuided t guide).content ∧
      (EndsInAscii guide → foreign (repairGuided t guide).content = foreign t) := by
  have hedits := markupEdits_repairGuided t guide
  refine ⟨hedits, fun hguide => ?_⟩
  generalize (repairGuided t guide).content = u at hedits
  induction hedits with
  | refl => rfl
  | tail _ hstep ih => rw [← hstep.foreign_eq hguide, ih]

/-- A greeting whose marker was commented out. -/
theorem repairGuided_preserves_prose_greeting :
    EndsInAscii "\\begin{a}\nHello\n\\end{a}".toList ∧
      foreign (repairGuided "%\\begin{a}\n你好 ß".toList
        "\\begin{a}\nHello\n\\end{a}".toList).content = "你好ß".toList := by
  have hguide : EndsInAscii "\\begin{a}\nHello\n\\end{a}".toList := by
    decide +kernel
  refine ⟨hguide, ((repairGuided_preserves_prose _ _).2 hguide).trans ?_⟩
  decide

end LatexRepair
