import LatexRepair.Proofs.ComparedLines
import LatexRepair.Proofs.DocumentMarkers
import LatexRepair.Proofs.Outlines

/-!
# Documents made up of stretches of two others

A document is cut into stretches of lines together with a rendition and a guide. At the start of
each stretch as much is open in the rendition as in the guide. Braces apart, the stretch counts for
validation what that of the rendition does, or what that of the guide does, or else it leads a scan
of the rendition where that of the rendition leads it; and its braces leave as many as those of one
of the two (`Blended`). Where rendition and guide are valid, the document is valid as well
(`Blended.valid`) : its scan matches those of the two at the start of each stretch.

In a rendition that is compared in every pass the stretches are repaired one by one, each beside its
own stretch of the guide (`FacingStretches.blended`).
-/

namespace LatexRepair

open AlignedLines Guided ScanState

/-- The token includes a file. -/
def Token.isInclusion : Token → Bool
  | .inclusion .. => true
  | _ => false

/-! ## Stretches -/

/-- What the braces of a text leave open and stray. -/
def bracesLeft (t : Text) : Delimiter.Stack :=
  .ofWord (bracesFrom .start t)

/-- A stretch of a rendition, of its guide, and of what the rendition is repaired to. -/
structure Stretch where
  rendition : Text
  guide : Text
  repaired : Text
deriving DecidableEq

/-- The text is whole lines, and no verbatim environment is left open in it. -/
def WholeLines (p : Text) : Prop :=
  p.getLast? = some '\n' ∧ ∀ x ∈ tokens p, x.isUnclosed = false

instance (p : Text) : Decidable (WholeLines p) :=
  inferInstanceAs (Decidable (_ ∧ _))

namespace Stretch

/-- The stretches of rendition, guide and repaired text are whole lines. -/
structure Apart (x : Stretch) : Prop where
  rendition : WholeLines x.rendition
  guide : WholeLines x.guide
  repaired : WholeLines x.repaired

instance (x : Stretch) : Decidable x.Apart :=
  decidable_of_iff (WholeLines x.rendition ∧ WholeLines x.guide ∧ WholeLines x.repaired)
    ⟨fun ⟨h, h', h''⟩ => ⟨h, h', h''⟩, fun h => ⟨h.rendition, h.guide, h.repaired⟩⟩

/-- Read behind `s`, the stretch as it is repaired leads where that of the rendition does, braces
apart, and it includes what rendition or guide includes. -/
structure LeadsAlike (s : ScanState) (x : Stretch) : Prop where
  leads : Matches (s.run (Lexeme.lexemes x.repaired)) (s.run (Lexeme.lexemes x.rendition))
  includes : ∀ token ∈ tokens x.repaired, token.isInclusion = true →
    token ∈ tokens x.rendition ∨ token ∈ tokens x.guide

instance (s : ScanState) (x : Stretch) : Decidable (x.LeadsAlike s) :=
  decidable_of_iff
    (Matches (s.run (Lexeme.lexemes x.repaired)) (s.run (Lexeme.lexemes x.rendition)) ∧
      ∀ token ∈ tokens x.repaired, token.isInclusion = true →
        token ∈ tokens x.rendition ∨ token ∈ tokens x.guide)
    ⟨fun ⟨h, h'⟩ => ⟨h, h'⟩, fun h => ⟨h.leads, h.includes⟩⟩

/-- Behind `s` the stretch is repaired to one that counts for validation what that of the rendition
does or what that of the guide does, or that leads where that of the rendition does, and its braces
leave as many as theirs. -/
structure Follows (s : ScanState) (x : Stretch) : Prop where
  counted : outline s.documentEnd.isSome (tokens x.repaired) =
      outline s.documentEnd.isSome (tokens x.rendition) ∨
    outline s.documentEnd.isSome (tokens x.repaired) =
      outline s.documentEnd.isSome (tokens x.guide) ∨ x.LeadsAlike s
  braces : (bracesLeft x.repaired).SameSize (bracesLeft x.rendition) ∨
    (bracesLeft x.repaired).SameSize (bracesLeft x.guide)

instance (s : ScanState) (x : Stretch) : Decidable (x.Follows s) :=
  decidable_of_iff
    ((outline s.documentEnd.isSome (tokens x.repaired) =
          outline s.documentEnd.isSome (tokens x.rendition) ∨
        outline s.documentEnd.isSome (tokens x.repaired) =
          outline s.documentEnd.isSome (tokens x.guide) ∨ x.LeadsAlike s) ∧
      ((bracesLeft x.repaired).SameSize (bracesLeft x.rendition) ∨
        (bracesLeft x.repaired).SameSize (bracesLeft x.guide)))
    ⟨fun ⟨h, h'⟩ => ⟨h, h'⟩, fun h => ⟨h.counted, h.braces⟩⟩

end Stretch

/-- At the start of each stretch as much is open in rendition and guide, and each stretch follows
one of them. -/
def Blends (s s' : ScanState) : List Stretch → Prop
  | [] => True
  | x :: xs =>
    s.Level s' ∧ x.Follows s ∧
      Blends (s.run (Lexeme.lexemes x.rendition)) (s'.run (Lexeme.lexemes x.guide)) xs

instance decidableBlends (s s' : ScanState) : (xs : List Stretch) → Decidable (Blends s s' xs)
  | [] => inferInstanceAs (Decidable True)
  | x :: xs =>
    have := decidableBlends (s.run (Lexeme.lexemes x.rendition))
      (s'.run (Lexeme.lexemes x.guide)) xs
    inferInstanceAs (Decidable (_ ∧ _ ∧ _))

/-- The text is made up of stretches that follow the rendition or the guide. -/
def Blended (guide rendition repaired : Text) : Prop :=
  ∃ xs : List Stretch, (xs.map (·.rendition)).flatten = rendition ∧
    (xs.map (·.guide)).flatten = guide ∧ (xs.map (·.repaired)).flatten = repaired ∧
      (∀ x ∈ xs.dropLast, x.Apart) ∧ Blends {} {} xs

/-! ## Texts in stretches -/

theorem WholeLines.tokens_append {p : Text} (h : WholeLines p) (q : Text) :
    tokens (p ++ q) = tokens p ++ tokens q :=
  map_token_lexemes_append (fun _ hx => h.2 _ (List.mem_map_of_mem hx)) (.inr h.1) q

/-- A text in stretches of whole lines has their tokens. -/
theorem tokens_flatten {ts : List Text} (h : ∀ t ∈ ts.dropLast, WholeLines t) :
    tokens ts.flatten = ts.flatMap tokens := by
  induction ts with
  | nil => simp [tokens, Lexeme.lexemes, Lexeme.lexemesFrom]
  | cons t ts ih =>
    cases ts with
    | nil => simp
    | cons u ts =>
      rw [List.dropLast_cons_cons, List.forall_mem_cons] at h
      rw [List.flatten_cons, h.1.tokens_append, ih h.2]
      rfl

namespace ScanState

variable {xs ys : List Lexeme}

/-- Lexemes of the same tokens lead to sound states together. -/
theorem Sound.congr (hxs : xs.map (·.token) = ys.map (·.token)) (h : Sound (run {} ys)) :
    Sound (run {} xs) := by
  have houtline : outline true (xs.map (·.token)) = outline true (ys.map (·.token)) :=
    congrArg _ hxs
  have hmatches : Matches (run {} xs) (run {} ys) :=
    (Matches.refl {}).run_of_outline (fun _ => rfl) houtline
  have hbraces : (run {} xs).delimiters.brace.SameSize (run {} ys).delimiters.brace :=
    sameSize_brace_run ⟨rfl, rfl⟩ <|
      Delimiter.Stack.sameSize_ofWord (Lexeme.map_isOpening_filterMap_brace? hxs)
  rw [show (run {} ys).delimiters.brace = {} from h.delimiters .brace] at hbraces
  exact hmatches.sound hbraces.eq_empty h

variable {r s s' : ScanState} {before before' : List Lexeme}

/-- A scan that has come to a sound state, or to one that has what counts of it and braces of
another sound state. -/
theorem Sound.of_matches (hr : Matches r s ∨ Matches r s')
    (hb : r.delimiters.brace.SameSize s.delimiters.brace ∨
      r.delimiters.brace.SameSize s'.delimiters.brace) (hs : Sound s) (hs' : Sound s') :
    Sound r := by
  have hbraces : r.delimiters.brace.SameSize {} := by
    rcases hb with hb | hb
    · rwa [show s.delimiters.brace = {} from hs.delimiters .brace] at hb
    · rwa [show s'.delimiters.brace = {} from hs'.delimiters .brace] at hb
  exact hr.elim (fun h => h.sound hbraces.eq_empty hs) fun h => h.sound hbraces.eq_empty hs'

end ScanState

variable {xs : List Stretch}

/-- A scan of stretches that follow the rendition or the guide ends in a sound state if those of
rendition and guide do. -/
theorem Blends.sound {r : ScanState} {before before' : List Lexeme}
    (h : Blends (run {} before) (run {} before') xs)
    (hr : Matches r (run {} before) ∨ Matches r (run {} before'))
    (hb : r.delimiters.brace.SameSize (run {} before).delimiters.brace ∨
      r.delimiters.brace.SameSize (run {} before').delimiters.brace)
    (ht : Sound (run {} (before ++ xs.flatMap fun x => Lexeme.lexemes x.rendition)))
    (hg : Sound (run {} (before' ++ xs.flatMap fun x => Lexeme.lexemes x.guide))) :
    Sound (r.run (xs.flatMap fun x => Lexeme.lexemes x.repaired)) := by
  induction xs generalizing r before before' with
  | nil =>
    rw [List.flatMap_nil, List.append_nil] at ht hg
    exact .of_matches hr hb ht hg
  | cons x xs ih =>
    obtain ⟨hlevel, hfollows, hrest⟩ := h
    rw [List.flatMap_cons, ← List.append_assoc] at ht hg
    rw [← run_append, ← run_append] at hrest
    -- rendition and guide match at the start of the stretch, and the repaired text with both
    have hmatches : Matches (run {} before) (run {} before') := by
      rw [List.append_assoc] at ht hg
      exact hlevel.matches ht.quiet hg.quiet
    have hrt : Matches r (run {} before) := hr.elim id fun h => h.trans hmatches.symm
    have hbt : r.delimiters.brace.SameSize (run {} before).delimiters.brace := by
      rcases hb with hb | hb
      · exact hb
      · exact ⟨hb.opens.trans (hlevel.delimiters .brace).opens.symm,
          hb.strays.trans (hlevel.delimiters .brace).strays.symm⟩
    rw [List.flatMap_cons, run_append]
    refine ih hrest ?_ ?_ ht hg
    · rw [run_append, run_append]
      have hended : r.documentEnd.isSome = true →
          (run {} before).documentEnd.isSome = true := fun h => hrt.documentEnd ▸ h
      rcases hfollows.counted with hcounted | hcounted | hleads
      · exact .inl (hrt.run_of_outline hended hcounted)
      · exact .inr ((hrt.trans hmatches).run_of_outline hended hcounted)
      · exact .inl ((hrt.run_of_outline hended rfl).trans hleads.leads)
    · rw [run_append, run_append]
      refine hfollows.braces.imp (sameSize_brace_run hbt) (sameSize_brace_run ?_)
      exact ⟨hbt.opens.trans (hlevel.delimiters .brace).opens,
        hbt.strays.trans (hlevel.delimiters .brace).strays⟩

/-- What a stretch that is repaired includes comes from the rendition or from the guide. -/
theorem Stretch.Follows.mem_of_isInclusion {x : Stretch} {s : ScanState} (h : x.Follows s)
    {token : Token} (hincludes : token.isInclusion = true) (hmem : token ∈ tokens x.repaired) :
    token ∈ tokens x.rendition ∨ token ∈ tokens x.guide := by
  have hcounts : token.counts = true := by
    cases token with
    | inclusion => rfl
    | _ => cases hincludes
  have hcounted : token ∈ outline s.documentEnd.isSome (tokens x.repaired) :=
    mem_outline hmem hcounts
  rcases h.counted with heq | heq | hleads
  · exact .inl (mem_of_mem_outline (heq ▸ hcounted))
  · exact .inr (mem_of_mem_outline (heq ▸ hcounted))
  · exact hleads.includes token hmem hincludes

theorem Blends.follows {s s' : ScanState} (h : Blends s s' xs) :
    ∀ x ∈ xs, ∃ s, x.Follows s := by
  induction xs generalizing s s' with
  | nil => exact nofun
  | cons x xs ih => exact List.forall_mem_cons.2 ⟨⟨_, h.2.1⟩, ih h.2.2⟩

/-- What a text in stretches of whole lines is read as, stretch by stretch. -/
theorem tokens_flatten_map {f : Stretch → Text} (hf : ∀ x ∈ xs.dropLast, WholeLines (f x)) :
    tokens (xs.map f).flatten = xs.flatMap fun x => tokens (f x) := by
  have hmap : ∀ t ∈ (xs.map f).dropLast, WholeLines t := by
    rw [← List.map_dropLast, List.forall_mem_map]
    exact hf
  rw [tokens_flatten hmap, List.flatMap_map]

/-- A document made up of stretches that follow a valid rendition or its valid guide is valid. -/
theorem Blended.valid {lookup : Option FileLookup} {guide rendition repaired : Text}
    (h : Blended guide rendition repaired) (ht : (validate lookup rendition).valid = true)
    (hg : (validate lookup guide).valid = true) : (validate lookup repaired).valid = true := by
  obtain ⟨xs, rfl, rfl, rfl, hapart, hblends⟩ := h
  rw [valid_iff_sound] at ht hg ⊢
  have htokens : ∀ f : Stretch → Text, (∀ x ∈ xs.dropLast, WholeLines (f x)) →
      (xs.flatMap fun x => Lexeme.lexemes (f x)).map (·.token) =
        (Lexeme.lexemes (xs.map f).flatten).map (·.token) := fun f hf => by
    rw [List.map_flatMap]
    exact (tokens_flatten_map hf).symm
  have hrendition := htokens (·.rendition) fun x hx => (hapart x hx).rendition
  have hguide := htokens (·.guide) fun x hx => (hapart x hx).guide
  have hrepaired := htokens (·.repaired) fun x hx => (hapart x hx).repaired
  have hstart : Blends (run {} []) (run {} []) xs := hblends
  refine ⟨.congr hrepaired.symm ?_, fun known hknown command target hmem => ?_⟩
  · exact hstart.sound (.inl (.refl _)) (.inl ⟨rfl, rfl⟩) (.congr hrendition ht.1)
      (.congr hguide hg.1)
  · rw [tokens_flatten_map fun x hx => (hapart x hx).repaired] at hmem
    obtain ⟨x, hx, hmem⟩ := List.mem_flatMap.1 hmem
    obtain ⟨s, hfollows⟩ := hblends.follows x hx
    rcases hfollows.mem_of_isInclusion rfl hmem with hmem | hmem
    · refine ht.2 known hknown command target ?_
      rw [tokens_flatten_map fun x hx => (hapart x hx).rendition]
      exact List.mem_flatMap.2 ⟨x, hx, hmem⟩
    · refine hg.2 known hknown command target ?_
      rw [tokens_flatten_map fun x hx => (hapart x hx).guide]
      exact List.mem_flatMap.2 ⟨x, hx, hmem⟩

/-! ## Stretches side by side -/

/-- What the passes make of a rendition each line of which is compared with that of the guide. -/
def repairedBeside (guide t : Text) : Text :=
  Text.unlines
    (mapAligned (fun l g => (lineStep g)^[maxPasses] l) (Text.lines t) (Text.lines guide))

/-- A rendition that stays aligned is cut into stretches that face those of the guide. -/
structure FacingStretches (guide t : Text) (xs : List Stretch) : Prop where
  aligned : StaysAligned guide t
  rendition : (xs.map (·.rendition)).flatten = t
  guide : (xs.map (·.guide)).flatten = guide
  repaired : ∀ x ∈ xs, x.repaired = repairedBeside x.guide x.rendition
  apart : ∀ x ∈ xs.dropLast, x.Apart
  facing : ∀ x ∈ xs.dropLast, (Text.lines x.rendition).length = (Text.lines x.guide).length
  blends : Blends {} {} xs

theorem Guided.StaysAligned.iterate_pass {guide t : Text} (h : StaysAligned guide t) :
    (Guided.pass guide)^[maxPasses] t = repairedBeside guide t := by
  rw [← Text.unlines_lines ((Guided.pass guide)^[maxPasses] t), h.lines_iterate_pass]
  rfl

theorem mapAligned_singleton_nil :
    mapAligned (fun l g => (lineStep g)^[maxPasses] l) [[]] [[]] = [[]] := by
  have hfixed : lineStep [] [] = [] := by rw [lineStep, repairLine, LineRepair.rounds_nil]
  rw [mapAligned, mapAligned, Function.iterate_fixed hfixed]

/-- Whole lines are repaired apart from what stands behind. -/
theorem repairedBeside_append {p g : Text} (hp : p.getLast? = some '\n')
    (hg : g.getLast? = some '\n') (hlength : (Text.lines p).length = (Text.lines g).length)
    (guide t : Text) :
    repairedBeside (g ++ guide) (p ++ t) = repairedBeside g p ++ repairedBeside guide t := by
  obtain ⟨p, rfl⟩ := List.getLast?_eq_some_iff.1 hp
  obtain ⟨g, rfl⟩ := List.getLast?_eq_some_iff.1 hg
  have hlines : ∀ p q : Text, Text.lines (p ++ ['\n'] ++ q) = Text.lines p ++ Text.lines q :=
    fun p q => by
      rw [List.append_assoc]
      exact List.splitOn_append_cons_self p q
  have hlines' : ∀ p : Text, Text.lines (p ++ ['\n']) = Text.lines p ++ [[]] := fun p =>
    List.splitOn_append_cons_self p []
  rw [hlines', hlines', List.length_append, List.length_append] at hlength
  have hlength := Nat.add_right_cancel hlength
  have hne : ∀ {ts gs : List Text} {f : Text → Text → Text}, ts ≠ [] → mapAligned f ts gs ≠ [] :=
    fun {ts gs f} hts => by
      rwa [← List.length_pos_iff, length_mapAligned, List.length_pos_iff]
  -- a whole line ends before the empty piece behind its newline, which no repair changes
  rw [repairedBeside, repairedBeside, hlines, hlines, hlines', hlines', mapAligned_append hlength,
    mapAligned_append hlength, mapAligned_singleton_nil,
    Text.unlines_append (hne (Text.lines_ne_nil p))
      (hne (Text.lines_ne_nil t)), Text.unlines_append (hne (Text.lines_ne_nil p))
      (List.cons_ne_nil _ _), List.append_assoc]
  rfl

/-- Stretches are repaired one by one. -/
theorem FacingStretches.flatten_repaired {guide t : Text} (h : FacingStretches guide t xs) :
    (xs.map (·.repaired)).flatten = repairedBeside guide t := by
  obtain ⟨-, rfl, rfl, hrepaired, hapart, hfacing, -⟩ := h
  induction xs with
  | nil => exact (congrArg Text.unlines mapAligned_singleton_nil).symm
  | cons x xs ih =>
    cases xs with
    | nil => simp [hrepaired x (List.mem_singleton_self x)]
    | cons y xs =>
      rw [List.forall_mem_cons] at hrepaired
      rw [List.dropLast_cons_cons, List.forall_mem_cons] at hapart hfacing
      have hx := repairedBeside_append hapart.1.rendition.1 hapart.1.guide.1 hfacing.1
      rw [List.map_cons, List.flatten_cons, ih hrepaired.2 hapart.2 hfacing.2, hrepaired.1, ← hx]
      rfl

/-- The passes leave stretches that follow rendition or guide. -/
theorem FacingStretches.blended {guide t : Text} (h : FacingStretches guide t xs) :
    Blended guide t ((pass guide)^[maxPasses] t) :=
  ⟨xs, h.rendition, h.guide, h.flatten_repaired.trans h.aligned.iterate_pass.symm, h.apart,
    h.blends⟩

end LatexRepair
