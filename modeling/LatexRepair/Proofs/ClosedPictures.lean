import LatexRepair.Proofs.BraceBalance
import LatexRepair.Proofs.DocumentMarkers
import LatexRepair.Proofs.PictureTally
import LatexRepair.Proofs.RulesAtRest
import LatexRepair.Proofs.Truncation

/-!
# Pictures that are closed

Where pictures in figures have lost their ends, each end belongs before the end of its own figure
(`ClosesPictures`). The repair puts all of them before the last line on which a figure ends, and so
the markers become well nested exactly if all of them belong there
(`PictureRepair.exists_wellNested_iff`, `PictureRepair.InLastFigure`). This decides whether an issue
about environments is left of a document (`LosesPictures.hasKind_repairByRules_iff`), whatever other
rules make of it before they come to the pictures (`beforePictures`), if braces are balanced in code
afterwards or not at all.
-/

namespace LatexRepair

open PictureRepair (pictureName pictureEnd figureNames)

/-- In `v`, ends of pictures are put into `w`, each directly before the end of a figure. -/
inductive ClosesPictures : List Marker → List Marker → Prop where
  | nil : ClosesPictures [] []
  | keep (m : Marker) {w v : List Marker} (h : ClosesPictures w v) :
      ClosesPictures (m :: w) (m :: v)
  | close (n : Nat) {m : Marker} {w v : List Marker} (hm : m.isFigureEnd = true)
      (h : ClosesPictures w v) :
      ClosesPictures (m :: w) (List.replicate n pictureEnd ++ m :: v)

/-! ## Words -/

section Words

variable {w v u : List Marker} {m : Marker} {K K' P Q D : List Text} {n : Nat}

theorem Marker.exists_of_isFigureEnd (h : m.isFigureEnd = true) :
    ∃ name, m = ⟨.closing, name⟩ ∧ name ≠ pictureName := by
  obtain ⟨kind, name⟩ := m
  obtain ⟨hkind, hname⟩ : kind = .closing ∧ figureNames.contains name = true := by
    simpa [isFigureEnd] using h
  obtain rfl : kind = .closing := hkind
  refine ⟨name, rfl, ?_⟩
  rintro rfl
  exact absurd hname (by decide)

theorem nest_replicate_pictureEnd_append :
    nest K (List.replicate n pictureEnd ++ w) = some K' ↔
      ∃ K₁, K = List.replicate n pictureName ++ K₁ ∧ nest K₁ w = some K' := by
  have hclosings : List.replicate n pictureEnd = closings (List.replicate n pictureName) := by
    rw [closings, List.map_replicate]
    rfl
  rw [nest_append, Option.bind_eq_some_iff, hclosings]
  exact exists_congr fun K₁ => and_congr_left fun _ => nest_closings

/-- What is open around a word does not matter to it. -/
theorem nest_append_of_eq_some (h : nest P w = some Q) (K : List Text) :
    nest (P ++ K) w = some (Q ++ K) := by
  induction w generalizing P with
  | nil =>
    obtain rfl := Option.some.inj h
    rfl
  | cons m w ih =>
    obtain ⟨kind, name⟩ := m
    cases kind with
    | opening =>
      rw [nest_opening_cons] at h ⊢
      exact ih h
    | closing =>
      obtain ⟨P', rfl, h'⟩ := nest_closing_cons.1 h
      exact nest_closing_cons.2 ⟨P' ++ K, rfl, ih h'⟩

/-- A word that closes just the environments `P` closes these first, whatever is open. -/
theorem eq_append_of_nest (hP : nest P w = some []) (hK : nest K w = some K') : K = P ++ K' := by
  induction w generalizing P K with
  | nil =>
    obtain rfl := Option.some.inj hP
    exact Option.some.inj hK
  | cons m w ih =>
    obtain ⟨kind, name⟩ := m
    cases kind with
    | opening =>
      rw [nest_opening_cons] at hP hK
      exact (List.cons.inj (ih hP hK)).2
    | closing =>
      obtain ⟨P', rfl, hP'⟩ := nest_closing_cons.1 hP
      obtain ⟨K₁, rfl, hK'⟩ := nest_closing_cons.1 hK
      rw [ih hP' hK']
      rfl

theorem ClosesPictures.append_inv (h : ClosesPictures (u ++ w) v) :
    ∃ v₁ v₂, v = v₁ ++ v₂ ∧ ClosesPictures u v₁ ∧ ClosesPictures w v₂ := by
  induction u generalizing v with
  | nil => exact ⟨[], v, rfl, .nil, h⟩
  | cons m u ih =>
    rw [List.cons_append] at h
    cases h with
    | keep _ h =>
      obtain ⟨v₁, v₂, rfl, hu, hw⟩ := ih h
      exact ⟨m :: v₁, v₂, rfl, .keep m hu, hw⟩
    | close n hm h =>
      obtain ⟨v₁, v₂, rfl, hu, hw⟩ := ih h
      exact ⟨_, v₂, by simp, .close n hm hu, hw⟩

/-- Nothing is to be closed in a word that is read as it is. -/
theorem ClosesPictures.eq_of_nest (h : ClosesPictures w v) (hw : nest K w = some K')
    (hv : nest K v = some P) : v = w := by
  induction h generalizing K with
  | nil => rfl
  | keep m _ ih =>
    obtain ⟨kind, name⟩ := m
    cases kind with
    | opening => rw [ih (nest_opening_cons.symm.trans hw) (nest_opening_cons.symm.trans hv)]
    | closing =>
      obtain ⟨K₁, rfl, hw'⟩ := nest_closing_cons.1 hw
      obtain ⟨K₂, heq, hv'⟩ := nest_closing_cons.1 hv
      obtain rfl := (List.cons.inj heq).2
      rw [ih hw' hv']
  | close n hm h ih =>
    obtain ⟨name, rfl, hne⟩ := Marker.exists_of_isFigureEnd hm
    obtain ⟨K₁, rfl, hw'⟩ := nest_closing_cons.1 hw
    obtain ⟨K₂, hopen, hv'⟩ := nest_replicate_pictureEnd_append.1 hv
    -- The figure is the innermost environment, so no picture is open in it.
    cases n with
    | zero =>
      obtain rfl : name :: K₁ = K₂ := hopen
      obtain ⟨K₃, heq, hv''⟩ := nest_closing_cons.1 hv'
      obtain rfl := (List.cons.inj heq).2
      rw [ih hw' hv'']
      rfl
    | succ n => exact absurd (List.cons.inj hopen).1 hne

theorem replicate_append_cons_inj {α : Type*} {x y : α} {k n : Nat} {l l' : List α} (hne : x ≠ y)
    (h : List.replicate n x ++ y :: l = List.replicate k x ++ y :: l') : n = k ∧ l = l' := by
  induction n generalizing k with
  | zero =>
    cases k with
    | zero => exact ⟨rfl, (List.cons.inj h).2⟩
    | succ k => exact absurd (List.cons.inj h).1.symm hne
  | succ n ih =>
    cases k with
    | zero => exact absurd (List.cons.inj h).1 hne
    | succ k => exact (ih (List.cons.inj h).2).imp_left (congrArg (· + 1))

/-- The ends of `n` pictures are put before the end of one figure. Behind the innermost open
environments `D`, what comes before that end closes nothing else but what it opens and pictures. -/
def ClosesAtFigure (n : Nat) (D : List Text) (w v : List Marker) : Prop :=
  ∃ a e b j, w = a ++ e :: b ∧ e.isFigureEnd = true ∧
    v = a ++ (List.replicate n pictureEnd ++ e :: b) ∧
      nest (D ++ List.replicate j pictureName) a = some []

namespace ClosesAtFigure

theorem opening {name : Text} (h : ClosesAtFigure n (name :: D) w v) :
    ClosesAtFigure n D (⟨.opening, name⟩ :: w) (⟨.opening, name⟩ :: v) := by
  obtain ⟨a, e, b, j, rfl, he, rfl, hnest⟩ := h
  exact ⟨⟨.opening, name⟩ :: a, e, b, j, rfl, he, rfl, nest_opening_cons.trans hnest⟩

theorem closing {d : Text} (h : ClosesAtFigure n D w v) :
    ClosesAtFigure n (d :: D) (⟨.closing, d⟩ :: w) (⟨.closing, d⟩ :: v) := by
  obtain ⟨a, e, b, j, rfl, he, rfl, hnest⟩ := h
  exact ⟨⟨.closing, d⟩ :: a, e, b, j, rfl, he, rfl, nest_closing_cons.2 ⟨_, rfl, hnest⟩⟩

theorem picture (h : ClosesAtFigure n [] w v) :
    ClosesAtFigure n [] (pictureEnd :: w) (pictureEnd :: v) := by
  obtain ⟨a, e, b, j, rfl, he, rfl, hnest⟩ := h
  exact ⟨_ :: a, e, b, j + 1, rfl, he, rfl, nest_closing_cons.2 ⟨_, rfl, hnest⟩⟩

end ClosesAtFigure

/-- The innermost `n` of the open pictures have lost their ends, and behind them `w` is read as it
is. Then all their ends are put before the end of one figure. -/
theorem ClosesPictures.closesAtFigure (h : ClosesPictures w v) (hn : n ≠ 0)
    (hbegin : pictureBegin ∉ w) (hD : pictureName ∉ D)
    (hv : nest (D ++ (List.replicate n pictureName ++ K)) v = some [])
    (hw : nest (D ++ K) w = some []) : ClosesAtFigure n D w v := by
  obtain ⟨n, rfl⟩ := Nat.exists_eq_succ_of_ne_zero hn
  induction h generalizing D K with
  | nil =>
    have hnil := Option.some.inj hv
    simp at hnil
  | keep m h ih =>
    rw [List.mem_cons, not_or] at hbegin
    obtain ⟨kind, name⟩ := m
    cases kind with
    | opening =>
      have hname : pictureName ∉ name :: D := by
        rw [List.mem_cons, not_or]
        exact ⟨fun heq => hbegin.1 (congrArg (Marker.mk .opening) heq), hD⟩
      exact .opening (@ih K (name :: D) hbegin.2 hname (nest_opening_cons.symm.trans hw)
        (nest_opening_cons.symm.trans hv))
    | closing =>
      obtain ⟨Kv, hopenv, hv'⟩ := nest_closing_cons.1 hv
      obtain ⟨Kw, hopenw, hw'⟩ := nest_closing_cons.1 hw
      cases D with
      | cons d D =>
        obtain ⟨rfl, rfl⟩ := List.cons.inj hopenv
        obtain ⟨-, rfl⟩ := List.cons.inj hopenw
        exact .closing (@ih K D hbegin.2 (fun hmem => hD (List.mem_cons_of_mem _ hmem)) hw' hv')
      | nil =>
        -- The marker ends a picture on both sides, and there are as many more on one of them.
        obtain ⟨rfl, rfl⟩ := List.cons.inj hopenv
        obtain rfl : K = pictureName :: Kw := hopenw
        have hshift : List.replicate n pictureName ++ pictureName :: Kw =
            List.replicate (n + 1) pictureName ++ Kw := by
          rw [List.replicate_succ', List.append_assoc]
          rfl
        change nest (List.replicate n pictureName ++ pictureName :: Kw) _ = _ at hv'
        rw [hshift] at hv'
        exact .picture (@ih Kw [] hbegin.2 List.not_mem_nil hw' hv')
  | @close k m w v hm h ih =>
    obtain ⟨name, rfl, hne⟩ := Marker.exists_of_isFigureEnd hm
    rw [List.mem_cons, not_or] at hbegin
    obtain ⟨Kv, hopenv, hv'⟩ := nest_replicate_pictureEnd_append.1 hv
    obtain ⟨Kw, hopenw, hw'⟩ := nest_closing_cons.1 hw
    obtain ⟨Kv, rfl, hv''⟩ := nest_closing_cons.1 hv'
    cases D with
    | cons d D =>
      -- The figure was begun in `w`, so that no picture is open in it.
      obtain ⟨rfl, rfl⟩ := List.cons.inj hopenw
      cases k with
      | succ k =>
        obtain rfl : d = pictureName := (List.cons.inj hopenv).1
        exact absurd rfl hne
      | zero =>
        obtain ⟨-, rfl⟩ := List.cons.inj hopenv
        exact .closing (@ih K D hbegin.2 (fun hmem => hD (List.mem_cons_of_mem _ hmem)) hw' hv'')
    | nil =>
      obtain rfl : K = name :: Kw := hopenw
      obtain ⟨rfl, rfl⟩ := replicate_append_cons_inj hne.symm hopenv
      obtain rfl := h.eq_of_nest hw' hv''
      exact ⟨[], _, _, 0, rfl, hm, rfl, rfl⟩

end Words

namespace PictureRepair

/-! ## What the repair makes of the markers -/

section Repaired

variable {w v : List Marker} {K K' : List Text} {t u : Text} {n : Nat}

/-- In a word that is read, the open pictures are counted. -/
theorem foldl_countPicture_of_nest (h : nest K w = some K') (n : Nat) :
    w.foldl countPicture (K.count pictureName + n) = K'.count pictureName + n := by
  induction w generalizing K with
  | nil =>
    obtain rfl := Option.some.inj h
    rfl
  | cons m w ih =>
    obtain ⟨kind, name⟩ := m
    rw [List.foldl_cons]
    cases kind with
    | opening =>
      rw [← ih (nest_opening_cons.symm.trans h)]
      by_cases hname : name = pictureName
      · subst hname
        simp [countPicture, pictureBegin, Nat.add_right_comm]
      · simp [countPicture, pictureBegin, pictureEnd, hname]
    | closing =>
      obtain ⟨K₁, rfl, h'⟩ := nest_closing_cons.1 h
      rw [← ih h']
      by_cases hname : name = pictureName
      · subst hname
        simp [countPicture, pictureBegin, pictureEnd, Nat.add_right_comm]
      · simp [countPicture, pictureBegin, pictureEnd, hname]

theorem liveWord_replicate_pictureEnd (n : Nat) :
    liveWord (List.replicate n pictureEnd.text) = List.replicate n pictureEnd := by
  have hone : (liveMarkers pictureEnd.text).map (·.marker) = [pictureEnd] := by decide +kernel
  induction n with
  | zero => rfl
  | succ n ih => rw [List.replicate_succ, liveWord_cons, hone, ih, List.replicate_succ]; rfl

/-- The lines of the repaired document. -/
theorem InsertionLine.lines_unlines {before behind : List Text} {line : Text}
    (h : InsertionLine (Text.lines t) before line behind) (n : Nat) :
    Text.lines (Text.unlines (before ++ List.replicate n pictureEnd.text ++ line :: behind)) =
      before ++ List.replicate n pictureEnd.text ++ line :: behind := by
  refine Text.lines_unlines (by simp) fun l hl => ?_
  have hlines : l ∈ Text.lines t ∨ l = pictureEnd.text := by
    rw [h.split]
    simp only [List.mem_append, List.mem_replicate] at hl ⊢
    tauto
  rcases hlines with hl | rfl
  · exact Text.newline_not_mem_of_mem_lines hl
  · decide

/-- All missing ends belong before one end of a figure, on the last line on which a figure ends.
Before it that line ends only what it begins itself, and pictures. -/
def InLastFigure (ls : List Text) (v : List Marker) : Prop :=
  ∃ before line behind, InsertionLine ls before line behind ∧
    ∃ a e b n j, liveWord [line] = a ++ e :: b ∧ e.isFigureEnd = true ∧
      v = liveWord before ++ (a ++ (List.replicate n pictureEnd ++ e :: (b ++ liveWord behind))) ∧
        nest (List.replicate j pictureName) a = some []

theorem InsertionLine.liveWord_eq {ls before behind : List Text} {line : Text}
    (h : InsertionLine ls before line behind) :
    liveWord ls = liveWord before ++ (liveWord [line] ++ liveWord behind) := by
  rw [h.split, liveWord_append, ← List.singleton_append, liveWord_append]

theorem inLastFigure_of_wellNested (hclose : ClosesPictures (liveWord (Text.lines t)) v)
    (hv : WellNested v) (hu : closePictures? t = some (u, n))
    (hnest : WellNested (liveWord (Text.lines u))) : InLastFigure (Text.lines t) v := by
  obtain ⟨before, line, behind, hline, -, hn, rfl⟩ := closePictures?_eq_some_iff.1 hu
  rw [hline.lines_unlines, liveWord_append, liveWord_append, liveWord_replicate_pictureEnd,
    List.append_assoc, ← nest_nil_eq_some_nil_iff, nest_append, Option.bind_eq_some_iff] at hnest
  obtain ⟨K, hbefore, hnest⟩ := hnest
  obtain ⟨K, rfl, hbehind⟩ := nest_replicate_pictureEnd_append.1 hnest
  rw [hline.split, liveWord_append] at hclose
  obtain ⟨v₁, v₂, rfl, hclose₁, hclose₂⟩ := hclose.append_inv
  rw [← nest_nil_eq_some_nil_iff, nest_append, Option.bind_eq_some_iff] at hv
  obtain ⟨K', hv₁, hv₂⟩ := hv
  -- The lines before are read as they are, so that all pictures are open behind them.
  obtain rfl := hclose₁.eq_of_nest hbefore hv₁
  obtain rfl := Option.some.inj (hbefore.symm.trans hv₁)
  obtain ⟨a, e, b, j, hword, he, rfl, hread⟩ :=
    @ClosesPictures.closesAtFigure _ _ K [] n hclose₂ hn hline.closed List.not_mem_nil hv₂ hbehind
  refine ⟨before, line, behind, hline, ?_⟩
  rw [← List.singleton_append, liveWord_append] at hword
  have he' : e ∉ liveWord behind := fun hmem => by
    rw [hline.last e hmem] at he
    cases he
  rcases List.append_eq_append_iff.1 hword with ⟨c, rfl, hc⟩ | ⟨c, hc, hb⟩
  · exact absurd (hc ▸ by simp) he'
  · cases c with
    | nil => exact absurd (hb ▸ List.mem_cons_self : e ∈ [] ++ liveWord behind) he'
    | cons e' c =>
      obtain ⟨rfl, rfl⟩ := List.cons.inj hb
      exact ⟨a, e, c, n, j, hc, he, rfl, hread⟩

theorem InLastFigure.wellNested (h : InLastFigure (Text.lines t) v) (hv : WellNested v)
    (hw : ¬WellNested (liveWord (Text.lines t))) :
    ∃ u n, closePictures? t = some (u, n) ∧ WellNested (liveWord (Text.lines u)) := by
  obtain ⟨before, line, behind, hline, a, e, b, n, j, hword, he, rfl, hread⟩ := h
  have hread_v := hv.nest_eq []
  rw [nest_append, Option.bind_eq_some_iff] at hread_v
  obtain ⟨K, hbefore, hrest⟩ := hread_v
  rw [nest_append, Option.bind_eq_some_iff] at hrest
  obtain ⟨K', ha, hrest⟩ := hrest
  obtain ⟨K', rfl, hend⟩ := nest_replicate_pictureEnd_append.1 hrest
  obtain rfl := eq_append_of_nest hread ha
  have hsplit : liveWord (Text.lines t) =
      liveWord before ++ (a ++ e :: (b ++ liveWord behind)) := by
    rw [hline.liveWord_eq, hword, List.append_assoc, List.cons_append]
  have hn : n ≠ 0 := by
    rintro rfl
    exact hw (hsplit ▸ hv)
  have hcount : n = (liveWord (Text.lines t)).foldl countPicture 0 := by
    have hpictures : (List.replicate n pictureName ++ K').count pictureName =
        K'.count pictureName + n := by
      rw [List.count_append, List.count_replicate_self, Nat.add_comm]
    have h₁ := foldl_countPicture_of_nest hbefore 0
    have h₂ := foldl_countPicture_of_nest ha 0
    have h₃ := foldl_countPicture_of_nest hend n
    rw [List.count_nil] at h₁ h₃
    rw [hsplit, List.foldl_append, h₁, List.foldl_append, h₂, hpictures, Nat.add_zero, h₃,
      Nat.zero_add]
  -- The line closes `j` pictures, and it does not matter which of them.
  have hswap : List.replicate j pictureName ++ (List.replicate n pictureName ++ K') =
      List.replicate n pictureName ++ (List.replicate j pictureName ++ K') := by
    rw [← List.append_assoc, ← List.append_assoc, List.replicate_append_replicate,
      List.replicate_append_replicate, Nat.add_comm]
  refine ⟨_, n, closePictures?_eq_some_iff.2
    ⟨before, line, behind, hline, hcount, hn, rfl⟩, ?_⟩
  rw [hline.lines_unlines, liveWord_append, liveWord_append, liveWord_replicate_pictureEnd,
    List.append_assoc, ← nest_nil_eq_some_nil_iff, nest_append, hbefore, Option.bind_some,
    nest_replicate_pictureEnd_append]
  refine ⟨_, hswap, ?_⟩
  rw [← List.singleton_append, liveWord_append, hword, List.append_assoc, List.cons_append,
    nest_append, nest_append_of_eq_some hread, Option.bind_some]
  exact hend

/-- The repair makes the markers well nested exactly if all missing ends belong into the last
figure. -/
theorem exists_wellNested_iff (hclose : ClosesPictures (liveWord (Text.lines t)) v)
    (hv : WellNested v) (hw : ¬WellNested (liveWord (Text.lines t))) :
    (∃ u n, closePictures? t = some (u, n) ∧ WellNested (liveWord (Text.lines u))) ↔
      InLastFigure (Text.lines t) v :=
  ⟨fun ⟨_, _, hu, hnest⟩ => inLastFigure_of_wellNested hclose hv hu hnest,
    fun h => h.wellNested hv hw⟩

end Repaired

end PictureRepair

/-! ## The repair of a document -/

section Document

variable {t : Text} {v : List Marker} {ls before rest : List Text}

theorem Text.unlines_append_eq_flatMap (before : List Text) (h : rest ≠ []) :
    unlines (before ++ rest) = before.flatMap (· ++ ['\n']) ++ unlines rest := by
  induction before with
  | nil => rfl
  | cons l before ih =>
    rw [List.cons_append, ← List.singleton_append, unlines_append (by simp) (by simp [h]), ih,
      unlines_singleton]
    simp

theorem Text.flatMap_newline_eq_nil_or (before : List Text) :
    before.flatMap (· ++ ['\n']) = [] ∨ (before.flatMap (· ++ ['\n'])).getLast? = some '\n' := by
  rcases List.eq_nil_or_concat before with rfl | ⟨before, l, rfl⟩
  · exact .inl rfl
  · right
    simp

theorem Text.lines_flatMap_newline {before : List Text} (h : ∀ l ∈ before, '\n' ∉ l) :
    lines (before.flatMap (· ++ ['\n'])) = before ++ [[]] := by
  have hunlines : before.flatMap (· ++ ['\n']) = unlines (before ++ [[]]) := by
    rw [unlines_append_eq_flatMap before (List.cons_ne_nil [] []), unlines_singleton,
      List.append_nil]
  rw [hunlines, lines_unlines (by simp) (List.forall_mem_append.2 ⟨h, by simp⟩)]

theorem readsLive_pictureEnds (n : Nat) :
    ReadsLive ((List.replicate n pictureEnd.text).flatMap (· ++ ['\n'])) := by
  have hone : ReadsLive (pictureEnd.text ++ ['\n']) := ⟨by decide +kernel, by decide +kernel⟩
  induction n with
  | zero => exact ⟨by decide +kernel, by decide +kernel⟩
  | succ n ih =>
    rw [List.replicate_succ, List.flatMap_cons]
    exact (hone.append_iff (.inr (by decide))).2 ih

/-- The live markers of a document with ends of pictures among its lines are read, if those of the
lines before are. -/
theorem ReadsLive.insert_pictureEnds (h : ReadsLive (Text.unlines (before ++ rest)))
    (hbefore : ReadsLive (before.flatMap (· ++ ['\n']))) (hrest : rest ≠ []) (n : Nat) :
    ReadsLive (Text.unlines (before ++ List.replicate n pictureEnd.text ++ rest)) := by
  rw [Text.unlines_append_eq_flatMap before hrest,
    hbefore.append_iff (Text.flatMap_newline_eq_nil_or before)] at h
  rw [Text.unlines_append_eq_flatMap _ hrest, List.flatMap_append, List.append_assoc,
    hbefore.append_iff (Text.flatMap_newline_eq_nil_or before),
    (readsLive_pictureEnds n).append_iff (Text.flatMap_newline_eq_nil_or _)]
  exact h

end Document

/-! ## The repair of a document -/

section Repair

open RuleRepair BraceRepair

variable {t : Text} {v : List Marker}

/-- What the rules that need no issue about environments make of a document. -/
def repairFront (t : Text) : RuleRepair :=
  ([correctTypos, normalizeNewlines, collapseTerminators] ++
    if (validate none t).hasKind .trailingContent then [removeTrailing] else []).foldl
      andThen ⟨t, []⟩

/-- What the rules make of a document before they close its pictures. -/
def beforePictures (t : Text) : Text :=
  if (validate none t).hasKind .environment then
    ((repairFront t).andThen reorderPictures).content
  else (repairFront t).content

/-- What they make of it when its pictures are closed. -/
def behindPictures (t : Text) : Text :=
  if (validate none t).hasKind .environment then
    ((PictureRepair.closePictures? (beforePictures t)).map (·.1)).getD (beforePictures t)
  else beforePictures t

/-- Where the braces of a text can be balanced, the place is code before and after. -/
def BalancesInCode (t : Text) : Prop :=
  ∀ u fix, rebalance? t = some (u, fix) →
    Lexeme.ReadsApart (t.take (balancePlace t (validate none t).braceDelta))
        (t.drop (balancePlace t (validate none t).braceDelta)) ∧
      Lexeme.ReadsApart (u.take (balancePlace t (validate none t).braceDelta))
        (u.drop (balancePlace t (validate none t).braceDelta))

/-- Pictures of `t` have lost their ends when it comes to them, and `v` are the live markers with
these ends before the ends of the figures. The scan reads the live markers, also of the lines in
front of the place where the ends go, and behind the pictures braces are repaired in code, if at
all. -/
structure LosesPictures (t : Text) (v : List Marker) : Prop where
  closes : ClosesPictures (liveWord (Text.lines (beforePictures t))) v
  nested : WellNested v
  read : ReadsLive (beforePictures t)
  readFront : ∀ before line behind,
    PictureRepair.InsertionLine (Text.lines (beforePictures t)) before line behind →
      ReadsLive (before.flatMap (· ++ ['\n']))
  braces : (validate none t).hasKind .brace = true →
    closeColors? (behindPictures t) = none ∧ BalancesInCode (behindPictures t)

/-- The rules for braces leave the issues about environments alone. -/
theorem BalancesInCode.hasKind_balance {c : Text} (h : BalancesInCode c) {r : RuleRepair}
    (hr : r.content = c) :
    (validate none (r.andThen balance).content).hasKind .environment =
      (validate none c).hasKind .environment := by
  rw [andThen, hr, balance]
  cases hbalance : rebalance? c with
  | none => rw [Option.map_none, hr]
  | some p =>
    obtain ⟨u, fix⟩ := p
    obtain ⟨-, -, P, hplace, -⟩ := exists_patch_of_rebalance? hbalance
    have hcode := h u fix hbalance
    rw [← hplace, ← P.inCode_iff] at hcode
    have hcount := hcode.countP_issues (k := .environment) rfl (by decide) none
    rw [Option.map_some, Bool.eq_iff_iff, Validation.hasKind, Validation.hasKind, List.any_eq_true,
      List.any_eq_true, ← List.countP_pos_iff, ← List.countP_pos_iff, hcount]

namespace LosesPictures

/-- The rules in front of those for braces leave this. -/
theorem content_pictures (t : Text) :
    ((if (validate none t).hasKind .environment then [reorderPictures, closePictures]
      else []).foldl andThen (repairFront t)).content = behindPictures t := by
  rw [behindPictures, beforePictures]
  generalize repairFront t = r
  split
  · rw [List.foldl_cons, List.foldl_cons, List.foldl_nil]
    generalize r.andThen reorderPictures = r
    rw [andThen, closePictures]
    cases PictureRepair.closePictures? r.content <;> rfl
  · rfl

/-- Issues about environments are left exactly if some are left when the pictures are closed. -/
theorem hasKind_repairByRules (h : LosesPictures t v) (allowBalance : Bool) :
    (validate none (repairByRules allowBalance (some (validate none t)) t).content).hasKind
        .environment = (validate none (behindPictures t)).hasKind .environment := by
  have hpictures := content_pictures t
  have hrules : repairByRules allowBalance (some (validate none t)) t =
      ((if (validate none t).hasKind .brace then [closeColors] else []) ++
        if (validate none t).hasKind .brace && allowBalance then [balance] else []).foldl andThen
          ((if (validate none t).hasKind .environment then [reorderPictures, closePictures]
            else []).foldl andThen (repairFront t)) := by
    rw [repairFront, ← List.foldl_append, ← List.foldl_append]
    simp only [repairByRules, rules, Option.any_some, List.append_assoc]
  rw [hrules]
  generalize List.foldl andThen (repairFront t) _ = r at hpictures ⊢
  by_cases hbrace : (validate none t).hasKind .brace = true
  · obtain ⟨hcolors, hbalances⟩ := h.braces hbrace
    have hrest : r.andThen closeColors = r := by
      rw [andThen, hpictures, closeColors, hcolors]
      rfl
    rw [if_pos hbrace, List.singleton_append, List.foldl_cons, hrest, hbrace, Bool.true_and]
    cases allowBalance with
    | false => exact congrArg (fun u => (validate none u).hasKind .environment) hpictures
    | true => exact hbalances.hasKind_balance hpictures
  · rw [Bool.not_eq_true] at hbrace
    rw [hbrace, Bool.false_and]
    exact congrArg (fun u => (validate none u).hasKind .environment) hpictures

/-- A document with its pictures closed is judged by its live markers. -/
theorem hasKind_closePictures?_iff {u : Text} {n : Nat} (h : LosesPictures t v)
    (hu : PictureRepair.closePictures? (beforePictures t) = some (u, n)) :
    (validate none u).hasKind .environment = false ↔ WellNested (liveWord (Text.lines u)) := by
  obtain ⟨before, line, behind, hline, -, -, rfl⟩ := PictureRepair.closePictures?_eq_some_iff.1 hu
  have hread := h.read
  rw [← Text.unlines_lines (beforePictures t), hline.split] at hread
  exact (hread.insert_pictureEnds (h.readFront _ _ _ hline) (List.cons_ne_nil _ _) n).hasKind_iff

/-- The repaired document has no issue about environments exactly if no end was missing, or
environments were an issue and all missing ends belong into the last figure : the repair counts the
open pictures of the document and closes them all there. -/
theorem hasKind_repairByRules_iff (h : LosesPictures t v) (allowBalance : Bool) :
    (validate none (repairByRules allowBalance (some (validate none t)) t).content).hasKind
        .environment = false ↔
      WellNested (liveWord (Text.lines (beforePictures t))) ∨
        (validate none t).hasKind .environment = true ∧
          PictureRepair.InLastFigure (Text.lines (beforePictures t)) v := by
  rw [h.hasKind_repairByRules, behindPictures]
  by_cases hw : WellNested (liveWord (Text.lines (beforePictures t)))
  · -- no picture is open, so none is closed
    have hnone : PictureRepair.closePictures? (beforePictures t) = none := by
      refine Option.eq_none_iff_forall_ne_some.2 fun p hp => ?_
      obtain ⟨-, -, -, -, hcount, hn, -⟩ := PictureRepair.closePictures?_eq_some_iff.1 hp
      exact hn (hcount.trans (PictureRepair.foldl_countPicture_of_nest (hw.nest_eq []) 0))
    rw [hnone, Option.map_none, Option.getD_none, ite_self, h.read.hasKind_iff]
    exact iff_of_true hw (.inl hw)
  · rw [or_iff_right hw, ← PictureRepair.exists_wellNested_iff h.closes h.nested hw]
    by_cases hflagged : (validate none t).hasKind .environment = true
    · rw [if_pos hflagged, and_iff_right hflagged]
      cases hclose : PictureRepair.closePictures? (beforePictures t) with
      | none =>
        rw [Option.map_none, Option.getD_none, h.read.hasKind_iff]
        simp [hw]
      | some p =>
        rw [Option.map_some, Option.getD_some, h.hasKind_closePictures?_iff hclose]
        exact ⟨fun hnest => ⟨_, _, rfl, hnest⟩, fun ⟨_, _, heq, hnest⟩ =>
          Option.some.inj heq ▸ hnest⟩
    · rw [if_neg hflagged, h.read.hasKind_iff]
      exact iff_of_false hw fun hcase => hflagged hcase.1

/-! ## Documents with nothing else to repair -/

/-- A document that the other rules leave as it is comes to its pictures as it is. -/
theorem beforePictures_eq (hrests : (repairByRules true none t).content = t)
    (hordered : (PictureRepair.reorder t).2 = 0)
    (htrailing : (validate none t).hasKind .trailingContent = false) : beforePictures t = t := by
  have hfront : repairFront t = repairByRules true none t := by
    rw [repairFront, htrailing]
    rfl
  have hreorder : (repairByRules true none t).andThen reorderPictures =
      repairByRules true none t := by
    rw [andThen, hrests, reorderPictures]
    simp only [hordered, ↓reduceIte]
  rw [beforePictures, hfront, hreorder, ite_self, hrests]

/-- Where no text is taken literally the live markers of the first lines are read. -/
theorem readsLive_front (hplain : NoLiteral t) (hread : LiveRead (Text.lines t))
    {before behind : List Text} {line : Text}
    (hline : PictureRepair.InsertionLine (Text.lines t) before line behind) :
    ReadsLive (before.flatMap (· ++ ['\n'])) := by
  have hlines := Text.lines_flatMap_newline fun l hl =>
    Text.newline_not_mem_of_mem_lines (t := t) (hline.split ▸ List.mem_append_left _ hl)
  rw [← Text.unlines_lines t, hline.split,
    Text.unlines_append_eq_flatMap before (List.cons_ne_nil _ _),
    noLiteral_append_iff (Text.flatMap_newline_eq_nil_or before)] at hplain
  refine hplain.1.readsLive ?_
  rw [hlines]
  refine List.forall_mem_append.2
    ⟨fun l hl => hread l (hline.split ▸ List.mem_append_left _ hl), ?_⟩
  decide

/-- There are no other issues where the braces balance and no text stands behind the end. -/
theorem of_scan (hclose : ClosesPictures (liveWord (Text.lines t)) v)
    (hnested : nest [] v = some []) (hplain : NoLiteral t) (hread : LiveRead (Text.lines t))
    (hbefore : beforePictures t = t) (hbraces : Balanced (delimiterEvents .brace t)) :
    LosesPictures t v where
  closes := hbefore.symm ▸ hclose
  nested := nest_nil_eq_some_nil_iff.1 hnested
  read := hbefore.symm ▸ hplain.readsLive hread
  readFront before line behind hline := readsLive_front hplain hread (hbefore ▸ hline)
  braces hflagged := by
    rw [Validation.hasKind, List.any_eq_true] at hflagged
    obtain ⟨i, hi, hkind⟩ := hflagged
    have hfree := (forall_isBraces_eq_false_iff none t).2 hbraces i hi
    rw [of_decide_eq_true hkind] at hfree
    cases hfree

/-- Two pictures in one figure are both closed before its end. -/
theorem hasKind_repairByRules_one :
    let t := ("\\begin{figure}\n\\begin{tikzpicture}\n" ++
      "\\begin{tikzpicture}\n\\end{figure}").toList
    (validate none t).hasKind .environment = true ∧
      (validate none (repairByRules true (some (validate none t)) t).content).hasKind
        .environment = false := by
  intro t
  let figureBegin : Marker := ⟨.opening, "figure".toList⟩
  let figureEnd : Marker := ⟨.closing, "figure".toList⟩
  let before := [figureBegin.text, pictureBegin.text, pictureBegin.text]
  have hsplit : Text.lines t = before ++ [figureEnd.text] := by decide +kernel
  have hbefore : liveWord before = [figureBegin, pictureBegin, pictureBegin] := by decide +kernel
  have hline : liveWord [figureEnd.text] = [figureEnd] := by decide +kernel
  have hword : liveWord (Text.lines t) =
      [figureBegin, pictureBegin, pictureBegin, figureEnd] := by
    rw [hsplit, liveWord_append, hbefore, hline]
    rfl
  have hclose : ClosesPictures (liveWord (Text.lines t))
      [figureBegin, pictureBegin, pictureBegin, pictureEnd, pictureEnd, figureEnd] := by
    rw [hword]
    exact .keep _ <| .keep _ <| .keep _ <| .close 2 (by decide) .nil
  have hplain : NoLiteral t := by
    unfold NoLiteral
    decide +kernel
  have hbefore_eq : beforePictures t = t := beforePictures_eq (by decide +kernel)
    (by decide +kernel) (Terminator.hasKind_trailingContent none (by decide +kernel))
  have h : LosesPictures t _ := of_scan hclose (by decide) hplain (by decide +kernel) hbefore_eq
    (balanced_iff_ofWord_eq.2 (by decide +kernel))
  have hflagged : (validate none t).hasKind .environment = true := by
    rw [← Bool.not_eq_false, (hplain.readsLive (by decide +kernel)).hasKind_iff,
      ← nest_nil_eq_some_nil_iff, hword]
    decide
  refine ⟨hflagged, (h.hasKind_repairByRules_iff true).2 (.inr ⟨hflagged, ?_⟩)⟩
  · rw [hbefore_eq]
    have hinsert : PictureRepair.InsertionLine (Text.lines t) before figureEnd.text [] :=
      ⟨hsplit, by rw [hline]; decide, by decide, by rw [hbefore]; decide, by rw [hline]; decide⟩
    refine ⟨_, _, _, hinsert, [], figureEnd, [], 2, 0, hline, by decide, ?_, rfl⟩
    rw [hbefore]
    rfl

/-- Of two figures with a picture each, the second gets both ends. -/
theorem hasKind_repairByRules_both :
    let t := ("\\begin{figure}\n\\begin{tikzpicture}\n\\end{figure}\n" ++
      "\\begin{figure}\n\\begin{tikzpicture}\n\\end{figure}").toList
    (∃ v, LosesPictures t v) ∧
      (validate none (repairByRules true (some (validate none t)) t).content).hasKind
        .environment = true := by
  intro t
  let figureBegin : Marker := ⟨.opening, "figure".toList⟩
  let figureEnd : Marker := ⟨.closing, "figure".toList⟩
  let before := [figureBegin.text, pictureBegin.text, figureEnd.text, figureBegin.text,
    pictureBegin.text]
  have hsplit : Text.lines t = before ++ [figureEnd.text] := by decide +kernel
  have hbefore : liveWord before =
      [figureBegin, pictureBegin, figureEnd, figureBegin, pictureBegin] := by
    decide +kernel
  have hline : liveWord [figureEnd.text] = [figureEnd] := by decide +kernel
  have hword : liveWord (Text.lines t) =
      [figureBegin, pictureBegin, figureEnd, figureBegin, pictureBegin, figureEnd] := by
    rw [hsplit, liveWord_append, hbefore, hline]
    rfl
  have hclose : ClosesPictures (liveWord (Text.lines t)) [figureBegin, pictureBegin, pictureEnd,
      figureEnd, figureBegin, pictureBegin, pictureEnd, figureEnd] := by
    rw [hword]
    exact .keep _ <| .keep _ <| .close 1 (by decide) <|
      .keep _ <| .keep _ <| .close 1 (by decide) .nil
  have hplain : NoLiteral t := by
    unfold NoLiteral
    decide +kernel
  have hbefore_eq : beforePictures t = t := beforePictures_eq (by decide +kernel)
    (by decide +kernel) (Terminator.hasKind_trailingContent none (by decide +kernel))
  have h : LosesPictures t _ := of_scan hclose (by decide) hplain (by decide +kernel) hbefore_eq
    (balanced_iff_ofWord_eq.2 (by decide +kernel))
  have hw : ¬WellNested (liveWord (Text.lines t)) := by
    rw [← nest_nil_eq_some_nil_iff, hword]
    decide
  have hinsert : PictureRepair.InsertionLine (Text.lines t) before figureEnd.text [] :=
    ⟨hsplit, by rw [hline]; decide, by decide, by rw [hbefore]; decide, by rw [hline]; decide⟩
  have hcount : 2 = (liveWord (Text.lines t)).foldl PictureRepair.countPicture 0 := by
    rw [hword]
    decide
  have hu := PictureRepair.closePictures?_eq_some_iff.2
    ⟨before, _, [], hinsert, hcount, by decide, rfl⟩
  have hflagged : (validate none t).hasKind .environment = true := by
    rw [← Bool.not_eq_false, (hplain.readsLive (by decide +kernel)).hasKind_iff]
    exact hw
  refine ⟨⟨_, h⟩, ?_⟩
  rw [h.hasKind_repairByRules, behindPictures, if_pos hflagged, hbefore_eq, hu, Option.map_some,
    Option.getD_some, ← Bool.not_eq_false, h.hasKind_closePictures?_iff (hbefore_eq ▸ hu),
    hinsert.lines_unlines,
    liveWord_append, liveWord_append, hbefore, hline, PictureRepair.liveWord_replicate_pictureEnd,
    ← nest_nil_eq_some_nil_iff]
  decide

end LosesPictures

end Repair

end LatexRepair
