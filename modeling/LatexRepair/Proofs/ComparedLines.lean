import LatexRepair.Proofs.KeptAlignment
import LatexRepair.Proofs.Mentions
import LatexRepair.Proofs.ProsePreservation

/-!
# Passes that compare line by line

A pass compares a rendition with its guide line by line if it has as many lines, or if the repair
of its structure leaves it with as many (`Guided.compared?`). When this happens can be told from
the documents in two cases. No rule takes a word out of a line or puts two lines with words
together (`wordedCount_le_iterate_pass`), so a rendition with more such lines than the guide has
lines is never compared (`compared?_eq_none`). And a rendition with as many lines as its guide is
compared in every pass, if its last line is none that the rules could take away
(`Guided.StaysAligned`).
-/

namespace LatexRepair

open Relation StructureRepair AlignedLines Guided

variable {t u guide line g : Text} {ts us gs : List Text} {n : Nat}

/-! ## What a pass compares -/

/-- The text that a pass compares with the guide line by line, if it does. -/
def Guided.compared? (guide t : Text) : Option Text :=
  if Text.lineCount t = Text.lineCount guide then some t
  else if Text.lineCount (repairStructure t guide).content = Text.lineCount guide then
    some (repairStructure t guide).content
  else none

theorem Guided.pass_eq (guide t : Text) :
    pass guide t =
      match compared? guide t with
      | some u => (repairByLine u guide).content
      | none => (repairAnchored (repairStructure t guide).content guide).content := by
  unfold pass compared? Strategy.select Strategy.apply
  by_cases hcount : Text.lineCount t = Text.lineCount guide
  · rw [if_pos hcount, if_pos hcount]
  · rw [if_neg hcount, if_neg hcount]
    dsimp only
    by_cases hafter : Text.lineCount (repairStructure t guide).content = Text.lineCount guide
    · rw [Strategy.select, if_pos hafter, if_pos hafter]
    · rw [Strategy.select, if_neg hafter, if_neg hafter]

theorem Guided.compared?_eq_some (h : compared? guide t = some u) :
    (u = t ∨ u = (repairStructure t guide).content) ∧ Text.lineCount u = Text.lineCount guide := by
  unfold compared? at h
  split at h
  · rename_i hcount
    obtain rfl := Option.some.inj h
    exact ⟨.inl rfl, hcount⟩
  · split at h
    · rename_i hcount
      obtain rfl := Option.some.inj h
      exact ⟨.inr rfl, hcount⟩
    · cases h

/-- The text compared is what the pass goes on from. -/
theorem Guided.pass_of_compared? (h : compared? guide t = some u) :
    pass guide t = pass guide u := by
  have hself : compared? guide u = some u := if_pos (compared?_eq_some h).2
  rw [pass_eq, pass_eq, h, hself]

/-! ## Words -/

/-- The line holds a character that neither a rule puts in or takes out nor the end of the
document has. -/
def isWorded (line : Text) : Bool :=
  (bare line).any (· ∉ terminator)

theorem isWorded_append (s t : Text) : isWorded (s ++ t) = (isWorded s || isWorded t) := by
  rw [isWorded, bare_append, List.any_append]
  rfl

theorem isWorded_of_loose (h : ∀ c ∈ t, isLoose c = true) : isWorded t = false := by
  rw [isWorded, bare_eq_nil h]
  rfl

/-- An edit leaves the words of a line. -/
theorem LineEdit.isWorded_eq (h : LineEdit guide t u) : isWorded u = isWorded t := by
  rcases h.bare_cases with ⟨a, b, s, hs, rfl, rfl⟩ | h
  · have hend : isWorded s.text = false := by
      rw [isWorded, s.bare_text, hs]
      decide
    rw [isWorded_append, isWorded_append, isWorded_append, hend, Bool.false_or]
  · rw [isWorded, h, isWorded]

theorem LineEdits.isWorded_eq (h : LineEdits guide t u) : isWorded u = isWorded t := by
  induction h with
  | refl => rfl
  | tail _ hstep ih => exact hstep.isWorded_eq.trans ih

theorem isWorded_lineStep (hg : g ∈ Text.lines guide) (line : Text) :
    isWorded (lineStep g line) = isWorded line :=
  LineEdits.isWorded_eq (LineRepair.lineEdits_repairLine hg line)

theorem countP_isWorded_eq (h : List.Forall₂ (LineEdits guide) ts us) :
    us.countP isWorded = ts.countP isWorded := by
  induction h with
  | nil => rfl
  | cons hline _ ih => rw [List.countP_cons, List.countP_cons, ih, hline.isWorded_eq]

/-! ## Lines with words -/

/-- The number of lines with words. -/
def wordedCount (t : Text) : Nat :=
  (Text.lines t).countP isWorded

namespace Text

theorem lines_cons (c : Char) (t : Text) :
    lines (c :: t) = if c = '\n' then [] :: lines t else (lines t).modifyHead (c :: ·) := by
  rw [lines, List.splitOn_cons_eq_if_modifyHead]
  simp only [beq_iff_eq]
  rfl

/-- The last line of a text goes on with what is put behind the text. -/
theorem exists_lines_append (a : Text) :
    ∃ before last, ∀ t l ls, lines t = l :: ls → lines (a ++ t) = before ++ (last ++ l) :: ls := by
  induction a with
  | nil => exact ⟨[], [], fun t l ls h => h⟩
  | cons c a ih =>
    obtain ⟨before, last, ih⟩ := ih
    by_cases hc : c = '\n'
    · refine ⟨[] :: before, last, fun t l ls h => ?_⟩
      rw [List.cons_append, lines_cons, if_pos hc, ih t l ls h]
      rfl
    · cases before with
      | nil =>
        refine ⟨[], c :: last, fun t l ls h => ?_⟩
        rw [List.cons_append, lines_cons, if_neg hc, ih t l ls h]
        rfl
      | cons b before =>
        refine ⟨(c :: b) :: before, last, fun t l ls h => ?_⟩
        rw [List.cons_append, lines_cons, if_neg hc, ih t l ls h]
        rfl

/-- The pieces of lines that are put together to a text. -/
theorem lines_unlines_eq (hne : ts ≠ []) : lines (unlines ts) = ts.flatMap lines := by
  induction ts with
  | nil => exact absurd rfl hne
  | cons l ts ih =>
    rcases eq_or_ne ts [] with rfl | hts
    · rw [unlines_singleton, List.flatMap_singleton]
    · rw [← List.singleton_append, unlines_append (List.cons_ne_nil _ _) hts, unlines_singleton,
        lines, List.splitOn_append_cons_self, ← lines, ← lines, ih hts, List.singleton_append,
        List.flatMap_cons]

theorem wordedCount_le_lineCount (t : Text) : wordedCount t ≤ lineCount t := by
  obtain ⟨ts, rest, hts, hlen, hrest⟩ := exists_lines_eq_append t
  have hnone : rest.countP isWorded = 0 := by rcases hrest with rfl | rfl <;> rfl
  rw [wordedCount, hts, List.countP_append, hnone, ← hlen]
  exact List.countP_le_length

end Text

/-- Behind a text there may be other loose characters. -/
theorem wordedCount_append (h : ∀ c ∈ t, isLoose c = true) (a : Text) :
    wordedCount (a ++ t) = wordedCount a := by
  obtain ⟨before, last, hlines⟩ := Text.exists_lines_append a
  obtain ⟨l, ls, hl⟩ := List.exists_cons_of_ne_nil (Text.lines_ne_nil t)
  have hloose : ∀ x ∈ l :: ls, isWorded x = false := fun x hx =>
    isWorded_of_loose fun c hc => h c (Text.mem_of_mem_lines (hl ▸ hx) hc)
  obtain ⟨hfirst, hrest⟩ := List.forall_mem_cons.1 hloose
  have hnone : ls.countP isWorded = 0 := List.countP_eq_zero.2 fun x hx => by simp [hrest x hx]
  have ha := hlines [] [] [] rfl
  rw [List.append_nil] at ha
  rw [wordedCount, wordedCount, hlines t l ls hl, ha]
  simp [List.countP_append, List.countP_cons, isWorded_append, hfirst, hnone]

theorem isWorded_unlines (ts : List Text) : isWorded (Text.unlines ts) = ts.any isWorded := by
  induction ts with
  | nil => rfl
  | cons l ts ih =>
    rcases eq_or_ne ts [] with rfl | hts
    · rw [Text.unlines_singleton, List.any_cons, List.any_nil, Bool.or_false]
    · rw [← List.singleton_append, Text.unlines_append (List.cons_ne_nil _ _) hts,
        Text.unlines_singleton, ← List.singleton_append, isWorded_append, isWorded_append, ih,
        isWorded_of_loose (t := ['\n']) (List.forall_mem_singleton.2 rfl), Bool.false_or,
        List.singleton_append, List.any_cons]

/-- Lines with words are no fewer when they are put together to a text. -/
theorem countP_le_wordedCount (ts : List Text) :
    ts.countP isWorded ≤ wordedCount (Text.unlines ts) := by
  rcases eq_or_ne ts [] with rfl | hne
  · exact Nat.zero_le _
  rw [wordedCount, Text.lines_unlines_eq hne]
  clear hne
  induction ts with
  | nil => exact Nat.le_refl _
  | cons l ts ih =>
    rw [List.countP_cons, List.flatMap_cons, List.countP_append, Nat.add_comm]
    refine Nat.add_le_add ?_ ih
    split
    · rename_i hworded
      rw [← Text.unlines_lines l, isWorded_unlines] at hworded
      exact List.countP_pos_iff.2 (List.any_eq_true.1 hworded)
    · exact Nat.zero_le _

/-! ## Lines with words in the rules on the structure -/

namespace StructureRepair

theorem countP_removeTerminators (keep number : Nat) (ts : List Text) :
    (removeTerminators keep number ts).1.countP isWorded = ts.countP isWorded := by
  induction ts generalizing keep number with
  | nil => rfl
  | cons line ts ih =>
    have hline := (lineEdits_removeTerminators keep line : LineEdits [] _ _).isWorded_eq
    simp only [removeTerminators]
    generalize Edit.applyAll _ line = u at hline ⊢
    split
    · rw [List.countP_cons, List.countP_cons, ih]
    · dsimp only
      split
      · rename_i hblank
        have hnone : isWorded u = false := isWorded_of_loose fun c hc =>
          isLoose_of_isBlank (List.all_eq_true.1 hblank c hc)
        rw [ih, List.countP_cons, ← hline, hnone]
        rfl
      · rw [List.countP_cons, List.countP_cons, ih, hline]

theorem countP_insertClosers (ts : List Text) (xs : List Occurrence) :
    (insertClosers ts xs).countP isWorded = ts.countP isWorded := by
  induction xs generalizing ts with
  | nil => rfl
  | cons x xs ih =>
    have hlines : List.Forall₂ (LineEdits []) _ _ := lines_insertCloser ts x
    exact (ih _).trans (countP_isWorded_eq hlines)

/-- No rule on lines leaves fewer lines with words. -/
theorem countP_le_lineRules {rule : List Text → List Text → Step} (hrule : rule ∈ lineRules)
    (ts gs : List Text) : ts.countP isWorded ≤ (rule ts gs).1.countP isWorded := by
  simp only [lineRules, List.mem_cons, List.not_mem_nil, or_false] at hrule
  rcases hrule with rfl | rfl | rfl | rfl | rfl
  · unfold dropTerminators
    dsimp only
    split
    · exact (countP_removeTerminators _ 1 ts).ge
    · exact Nat.le_refl _
  · have hlines : List.Forall₂ (LineEdits []) _ _ :=
      lines_restoreHidden (fun _ => .refl) lineEdits_uncomment ts gs
    exact (countP_isWorded_eq hlines).ge
  · obtain ⟨place, ms, -, heq⟩ := exists_restoreEnds ts gs
    rw [heq]
    conv => lhs; rw [← List.take_append_drop place ts]
    rw [List.countP_append, List.countP_append, List.countP_append]
    omega
  · exact (countP_insertClosers ts _).ge
  · have hlines : List.Forall₂ (LineEdits []) ts (closeStyles ts gs).1 :=
      lines_closeInLines lineEdits_closeInLine _ _ ts
    exact (countP_isWorded_eq hlines).ge

theorem countP_le_foldl_andThen {rules : List (List Text → List Text → Step)}
    (hrules : rules ⊆ lineRules) (gs : List Text) (s : Step) :
    s.1.countP isWorded ≤ (rules.foldl (fun s rule => andThen rule gs s) s).1.countP isWorded := by
  induction rules generalizing s with
  | nil => exact Nat.le_refl _
  | cons rule rules ih =>
    obtain ⟨hrule, hrules⟩ := List.cons_subset.1 hrules
    exact (countP_le_lineRules hrule s.1 gs).trans (ih hrules (andThen rule gs s))

theorem wordedCount_trimBraces? {k : Nat} (h : trimBraces? t guide = some (u, k)) :
    wordedCount u = wordedCount t := by
  obtain ⟨a, s, b, rfl, rfl, hs, hb, -⟩ := exists_trimBraces? h
  have hb : ∀ c ∈ b, isLoose c = true := fun c hc => isLoose_of_isBlank (hb c hc)
  have hs : ∀ c ∈ s, isLoose c = true := fun c hc => by
    rcases hs c hc with rfl | hc
    · decide
    · exact isLoose_of_isBlank hc
  rw [wordedCount_append hb, wordedCount_append (List.forall_mem_append.2 ⟨hs, hb⟩)]

end StructureRepair

theorem wordedCount_le_repairStructure (t guide : Text) :
    wordedCount t ≤ wordedCount (repairStructure t guide).content := by
  have hrules := countP_le_foldl_andThen (List.Subset.refl lineRules) (Text.lines guide)
    (Text.lines t, [])
  have hjoined := hrules.trans (countP_le_wordedCount _)
  rw [content_repairStructure]
  cases htrim : trimBraces? _ guide with
  | none => exact hjoined
  | some trimmed => exact hjoined.trans (wordedCount_trimBraces? htrim).ge

/-- No pass leaves fewer lines with words. -/
theorem wordedCount_le_pass (t guide : Text) : wordedCount t ≤ wordedCount (pass guide t) := by
  have hlines : ∀ u, wordedCount (repairByLine u guide).content = wordedCount u := fun u => by
    rw [wordedCount, lines_repairByLine]
    exact countP_isWorded_eq (lines_mapAligned (R := LineEdits guide) (fun _ => .refl) fun x hx =>
      LineRepair.lineEdits_repairLine (List.of_mem_zip hx).2 x.1)
  have hstructure := wordedCount_le_repairStructure t guide
  rw [pass_eq]
  split
  · rename_i u hu
    rw [hlines]
    rcases (compared?_eq_some hu).1 with rfl | rfl
    · exact Nat.le_refl _
    · exact hstructure
  · obtain ⟨us, hus, heq⟩ := lines_repairAnchored (R := LineEdits guide) (fun _ => .refl)
      (repairStructure t guide).content guide fun l g hg _ => LineRepair.lineEdits_repairLine hg l
    rw [heq]
    exact (hstructure.trans (countP_isWorded_eq hus).ge).trans (countP_le_wordedCount us)

theorem wordedCount_le_iterate_pass (t guide : Text) (n : Nat) :
    wordedCount t ≤ wordedCount ((pass guide)^[n] t) := by
  induction n with
  | zero => exact Nat.le_refl _
  | succ n ih =>
    rw [Function.iterate_succ_apply']
    exact ih.trans (wordedCount_le_pass _ guide)

/-- A rendition with more lines with words than the guide has lines is not compared line by
line. -/
theorem compared?_eq_none (h : Text.lineCount guide < wordedCount t) :
    compared? guide t = none := by
  have hmore : ∀ u, wordedCount t ≤ wordedCount u → Text.lineCount u ≠ Text.lineCount guide :=
    fun u hu => by
      have := Text.wordedCount_le_lineCount u
      omega
  rw [compared?, if_neg (hmore t (Nat.le_refl _)),
    if_neg (hmore _ (wordedCount_le_repairStructure t guide))]

/-! ## Renditions that are compared in every pass -/

/-- The rendition has as many lines as its guide, and no pass takes its last line away : it is
empty, it has words, or it stands beside an end of the document. -/
structure Guided.StaysAligned (guide t : Text) : Prop where
  count : Text.lineCount t = Text.lineCount guide
  last : (∀ l ∈ (Text.lines t).getLast?, l = [] ∨ isWorded l = true) ∨
    ∃ g ∈ (Text.lines guide)[Text.lineCount guide - 1]?,
      Text.contains terminator (codePart g) = true

/-- What holds of a line with its counterpart holds of the last line. -/
theorem forall_mem_getLast?_of_forall₂ {R : Text → Text → Prop} (h : List.Forall₂ R ts us) :
    ∀ u ∈ us.getLast?, ∃ t ∈ ts.getLast?, R t u := by
  rw [← List.forall₂_reverse_iff] at h
  rw [List.getLast?_eq_head?_reverse, List.getLast?_eq_head?_reverse]
  generalize ts.reverse = xs at h
  generalize us.reverse = ys at h
  cases h with
  | nil => exact nofun
  | cons hline _ =>
    rintro _ ⟨⟩
    exact ⟨_, rfl, hline⟩

/-- The last line of a rendition that stays aligned is not lost. -/
theorem Guided.StaysAligned.not_losesLastLine (h : StaysAligned guide t) :
    ¬LosesLastLine t guide := by
  rintro ⟨ts, line, gs, g, rest, ht, hg, hlength, htaken⟩
  have hlast : (Text.lines t).getLast? = some line := by rw [ht, List.getLast?_concat]
  rcases h.last with hline | ⟨x, hx, hcontains⟩
  · rcases hline line hlast with rfl | hworded
    · exact htaken.ne_nil rfl
    · have hmem : g ∈ Text.lines guide := by simp [hg]
      have hnil := isWorded_lineStep hmem line
      rw [lineStep, htaken.eq_nil, hworded] at hnil
      cases hnil
  · have hcount := Text.lineCount_append_last ht
    rw [if_neg htaken.ne_nil, h.count] at hcount
    rw [hcount, Nat.add_sub_cancel, ← hlength, hg, List.getElem?_append_right (Nat.le_refl _),
      Nat.sub_self] at hx
    obtain rfl := Option.some.inj hx
    rw [htaken.counterpart] at hcontains
    cases hcontains

/-- A pass keeps it so. -/
theorem Guided.StaysAligned.pass (h : StaysAligned guide t) :
    StaysAligned guide (Guided.pass guide t) := by
  have hselect : Strategy.select t guide = .lineAligned := if_pos h.count
  have hpass : (repairByLine t guide).content = Guided.pass guide t := by
    rw [Guided.pass, hselect]
    rfl
  have hkept := (select_repairByLine_iff hselect).1.2 h.not_losesLastLine
  rw [hpass] at hkept
  refine ⟨by simpa [Strategy.select] using hkept, h.last.imp_left fun hlast u hu => ?_⟩
  have hlines : List.Forall₂ (fun l l' => (l = [] → l' = []) ∧ isWorded l' = isWorded l)
      (Text.lines t) (Text.lines (Guided.pass guide t)) := by
    rw [lines_pass h.count]
    refine lines_mapAligned (fun _ => ⟨id, rfl⟩) fun x hx => ⟨fun hnil => ?_,
      isWorded_lineStep (List.of_mem_zip hx).2 x.1⟩
    rw [hnil, lineStep, repairLine, LineRepair.rounds_nil]
  obtain ⟨l, hl, hnil, hworded⟩ := forall_mem_getLast?_of_forall₂ hlines u hu
  exact (hlast l hl).imp hnil fun h => hworded.trans h

/-- So does a run, which changes each line beside its counterpart. -/
theorem Guided.StaysAligned.lines_iterate_pass (h : StaysAligned guide t) (n : Nat) :
    Text.lines ((Guided.pass guide)^[n] t) =
      mapAligned (fun t g => (lineStep g)^[n] t) (Text.lines t) (Text.lines guide) :=
  (iterate_pass_of_kept (fun _ h => h.pass) (fun _ h => h.count) h n).2

end LatexRepair
