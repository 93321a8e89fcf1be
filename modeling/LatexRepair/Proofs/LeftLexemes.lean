import LatexRepair.Proofs.ClosedColors
import LatexRepair.Proofs.FollowingEnds
import LatexRepair.Proofs.Outlines
import LatexRepair.Proofs.ReadMarkers

/-!
# Lexemes that collapses leave

In code a collapse leaves out nothing but an end that follows another one and white space, and in a
comment nothing that is read. Before the border where it cuts, nothing that is read goes on behind
it (`StopsAtBorder`), and behind it a line goes on in the state in which it was read before
(`EndsWord.after_cases`). So each collapse leaves what is read behind the backslashes of code but
for such ends (`Terminator.LeavesOut.readLeft_eq`), and all collapses together leave the markers of
the lexemes that follow none (`Terminator.markersOf_lexemes_collapse`).

Whether a document ends is decided by its markers (`ScanState.isSome_documentEnd_run_congr`). So
the collapsed document has an end exactly if a scan of the document that passes over the ends that
follow another one comes to an end (`Terminator.isSome_documentEnd_collapse`).
-/

namespace LatexRepair

open ScanState Terminator

/-! ## Readers that stop at a border -/

/-- What is read at the start of such a text does not depend on what stands behind it. -/
def StopsAtBorder {α : Type*} (f : Text → Option α) : Prop :=
  ∀ a r, EndsWord a → f (a ++ r) = f a

namespace EndsWord

variable {a : Text}

theorem of_cons {c : Char} (h : EndsWord (c :: a)) (ha : a ≠ []) : EndsWord a := by
  have hlast : (c :: a).getLast? = a.getLast? := List.getLast?_append_of_ne_nil [c] ha
  rwa [EndsWord, hlast] at h

/-- Characters that end no word are read before the last one. -/
theorem takeWhile_append (h : EndsWord a) {P : Char → Bool} (hbrace : P '}' = false)
    (hline : P '\n' = false) (r : Text) :
    (a ++ r).takeWhile P = a.takeWhile P ∧ EndsWord (a.dropWhile P) := by
  induction a with
  | nil => exact absurd rfl h.ne_nil
  | cons c a ih =>
    cases hc : P c with
    | false =>
      rw [List.cons_append, List.takeWhile_cons_of_neg (by simp [hc]),
        List.takeWhile_cons_of_neg (by simp [hc]), List.dropWhile_cons_of_neg (by simp [hc])]
      exact ⟨rfl, h⟩
    | true =>
      have ha : a ≠ [] := by
        rintro rfl
        rcases h with h | h <;> obtain rfl := Option.some.inj h
        · cases hc.symm.trans hbrace
        · cases hc.symm.trans hline
      obtain ⟨htake, hdrop⟩ := ih (h.of_cons ha)
      rw [List.cons_append, List.takeWhile_cons_of_pos hc, List.takeWhile_cons_of_pos hc,
        List.dropWhile_cons_of_pos hc, htake]
      exact ⟨rfl, hdrop⟩

/-- A group ends before the last character, or with it. -/
theorem groupArgument?_append (h : EndsWord a) (r : Text) :
    Lexeme.groupArgument? (a ++ r) = Lexeme.groupArgument? a := by
  refine Option.ext fun ⟨name, n⟩ => ⟨fun hread => ?_, fun hread => ?_⟩
  · obtain ⟨g, q, hg, rfl, -, hbrace, -, hline, hreads⟩ :=
      Lexeme.exists_group_of_groupArgument? hread
    obtain ⟨q', rfl⟩ := Text.prefix_of_prefix_append (h.border hbrace hline) h.ne_nil ⟨q, hg.symm⟩
    exact hreads q'
  · obtain ⟨g, q, rfl, rfl, -, -, -, -, hreads⟩ := Lexeme.exists_group_of_groupArgument? hread
    rw [List.append_assoc]
    exact hreads (q ++ r)

/-- So is the group behind a control word. -/
theorem groupArgument?_drop_append (h : EndsWord a) {n : Nat}
    (hn : n = (a.takeWhile isCommandChar).length) (r : Text) :
    Lexeme.groupArgument? ((a ++ r).drop n) = Lexeme.groupArgument? (a.drop n) := by
  subst hn
  rw [List.drop_append_of_le_length (Text.length_takeWhile_le _ _), Text.drop_length_takeWhile]
  exact (h.takeWhile_append (by decide) (by decide) r).2.groupArgument?_append r

end EndsWord

theorem stopsAtBorder_readMarker? : StopsAtBorder readMarker? := fun a r h => by
  unfold readMarker?
  rw [(h.takeWhile_append (by decide) (by decide) r).1]
  dsimp only
  rw [h.groupArgument?_drop_append rfl]

open Classical in
theorem stopsAtBorder_startsLiteral :
    StopsAtBorder fun t => if StartsLiteral t then some () else none := fun a r h => by
  have hiff : StartsLiteral (a ++ r) ↔ StartsLiteral a := by
    unfold StartsLiteral
    rw [(h.takeWhile_append (by decide) (by decide) r).1]
    refine or_congr_right (and_congr_right fun hname => ?_)
    rw [h.groupArgument?_drop_append (congrArg List.length hname.symm)]
  simp only [hiff]

/-! ## What is read but for ends that follow another one -/

variable {α : Type*} {f : Text → Option α} {s : LineState} {a b r t w : Text}

/-- What `f` reads behind each backslash that is code and starts no end that follows another one.
The text is behind `b`, and its line is read in the state `s`. -/
def readLeft (f : Text → Option α) (s : LineState) (b : Text) : Text → List α
  | [] => []
  | c :: t =>
    (if s = .code ∧ c = '\\' ∧ follows b (c :: t) = false then f t else none).toList ++
      readLeft f (s.next c) (b ++ [c]) t

theorem readLeft_append_of_not_mem (hw : '\\' ∉ w) (r : Text) :
    readLeft f s b (w ++ r) = readLeft f (s.after w) (b ++ w) r := by
  induction w generalizing s b with
  | nil => rw [List.append_nil]; rfl
  | cons c w ih =>
    obtain ⟨hc, hw⟩ : c ≠ '\\' ∧ '\\' ∉ w := by simpa [eq_comm] using hw
    rw [List.cons_append, readLeft, if_neg (fun h => hc h.2.1), ih hw]
    simp [LineState.after]

theorem readLeft_comment_append (hw : '\n' ∉ w) (r : Text) :
    readLeft f .comment b (w ++ r) = readLeft f .comment (b ++ w) r := by
  induction w generalizing b with
  | nil => rw [List.append_nil]; rfl
  | cons c w ih =>
    obtain ⟨hc, hw⟩ : c ≠ '\n' ∧ '\n' ∉ w := by simpa [eq_comm] using hw
    rw [List.cons_append, readLeft, if_neg (fun h => nomatch h.1), LineState.next_comment hc, ih hw]
    simp

/-- Nothing that is read before a border goes on behind it. -/
theorem readLeft_append (hf : StopsAtBorder f) (ha : EndsWord a) (r : Text) :
    readLeft f s b (a ++ r) = readLeft f s b a ++ readLeft f (s.after a) (b ++ a) r := by
  induction a generalizing s b with
  | nil => exact absurd rfl ha.ne_nil
  | cons c a ih =>
    rw [List.cons_append, readLeft, readLeft]
    rcases eq_or_ne a [] with rfl | hne
    · have hc : c ≠ '\\' := by
        rintro rfl
        exact ha.elim nofun nofun
      rw [if_neg (fun h => hc h.2.1), if_neg (fun h => hc h.2.1)]
      rfl
    · have hend : follows b (c :: (a ++ r)) = follows b (c :: a) := by
        rw [follows, follows, Bool.eq_iff_iff, Bool.and_eq_true, Bool.and_eq_true,
          List.isPrefixOf_iff_prefix, List.isPrefixOf_iff_prefix]
        refine and_congr_right fun _ => ⟨fun h => ?_, fun h => ?_⟩
        · exact Text.prefix_of_prefix_append (ha.border (by decide) (by decide)) ha.ne_nil h
        · exact h.trans (List.prefix_append (c :: a) r)
      rw [hend, hf a r (ha.of_cons hne), ih (ha.of_cons hne)]
      simp [LineState.after]

theorem readLeft_congr {b' : Text} (h : ∀ p, p <+: t → trails (b ++ p) = trails (b' ++ p)) :
    readLeft f s b t = readLeft f s b' t := by
  induction t generalizing s b b' with
  | nil => rfl
  | cons c t ih =>
    have hnil := h [] List.nil_prefix
    rw [List.append_nil, List.append_nil] at hnil
    rw [readLeft, readLeft, follows, follows, hnil]
    congr 1
    refine ih fun p hp => ?_
    rw [List.append_assoc, List.append_assoc]
    exact h (c :: p) (List.cons_prefix_cons.2 ⟨rfl, hp⟩)

/-- Behind a border a line is in code, or in a comment that does not end there. -/
theorem EndsWord.after_cases (ha : EndsWord a) (s : LineState) :
    s.after a = .code ∨ s.after a = .comment ∧ a.getLast? ≠ some '\n' := by
  rcases ha with hlast | hlast <;> obtain ⟨a, rfl⟩ := List.getLast?_eq_some_iff.1 hlast <;>
    rw [LineState.after, List.foldl_append, List.getLast?_concat]
  · cases a.foldl LineState.next s with
    | code | escaped => exact .inl rfl
    | comment => exact .inr ⟨rfl, by decide⟩
  · exact .inl (LineState.next_newline (a.foldl LineState.next s))

namespace Terminator

namespace LeavesOut

variable {front piece : Text}

/-- In code nothing is read of the piece. -/
theorem readLeft_piece (h : LeavesOut front piece) (hr : '\r' ∉ front ++ piece) (r : Text) :
    readLeft f .code front (piece ++ r) = readLeft f .code (front ++ piece) r := by
  obtain ⟨blanks, lineBreak, rfl, hblanks, hbreak⟩ := h.piece_eq
  have hblank : '\\' ∉ blanks := fun hmem => by cases hblanks _ hmem
  have hcode : LineState.after .code blanks = .code := by
    clear h hbreak hblank hr
    induction blanks with
    | nil => rfl
    | cons c blanks ih =>
      obtain ⟨hc, hblanks⟩ := List.forall_mem_cons.1 hblanks
      have hnext : LineState.next .code c = .code := by
        rw [isSpaceOrTab, Bool.or_eq_true, decide_eq_true_iff, decide_eq_true_iff] at hc
        rcases hc with rfl | rfl <;> rfl
      rw [LineState.after, List.foldl_cons, hnext]
      exact ih hblanks
  have htrails : Trails (front ++ blanks) := by
    obtain ⟨a, kept, hkept, rfl⟩ := h.trails
    exact ⟨a, kept ++ blanks, hkept.append (isSeparator_blanks hblanks), by simp⟩
  have hword : '\\' ∉ "end{document}".toList ++ lineBreak := by
    rcases hbreak with rfl | ⟨rfl, -⟩ <;> decide
  have hstate : LineState.after .escaped ("end{document}".toList ++ lineBreak) = .code := by
    rcases hbreak with rfl | ⟨rfl, -⟩ <;> decide
  have hfollows : follows (front ++ blanks) (terminator ++ lineBreak ++ r) = true :=
    (follows_iff fun hmem => hr (by
      rw [List.mem_append] at hmem ⊢
      exact hmem.imp_right fun hmem => by simp [hmem])).2
      ⟨htrails, (List.prefix_append _ _).trans (List.append_assoc .. ▸ List.prefix_append _ _)⟩
  have hterminator : terminator = '\\' :: "end{document}".toList := rfl
  rw [List.append_assoc, readLeft_append_of_not_mem hblank, hcode]
  rw [hterminator, List.cons_append, List.cons_append] at hfollows ⊢
  rw [readLeft, hfollows, if_neg (by simp)]
  have hnext : LineState.next .code '\\' = .escaped := rfl
  rw [hnext, readLeft_append_of_not_mem hword, hstate]
  simp

/-- The same is read with the piece and without it. -/
theorem readLeft_eq (h : LeavesOut front piece) (hf : StopsAtBorder f)
    (hr : '\r' ∉ front ++ (piece ++ b)) :
    readLeft f .code [] (front ++ (piece ++ b)) = readLeft f .code [] (front ++ b) := by
  have hpiece : '\r' ∉ front ++ piece := fun hmem => hr (by
    rw [← List.append_assoc]
    exact List.mem_append_left _ hmem)
  have hbehind : ∀ s, readLeft f s (front ++ piece) b = readLeft f s front b := fun s => by
    refine readLeft_congr fun p hp => ?_
    obtain ⟨q, rfl⟩ := hp
    rw [Bool.eq_iff_iff, trails_eq_true_iff, trails_eq_true_iff, List.append_assoc]
    · exact h.trails_iff hpiece p
    · exact fun hmem => hr (by simp only [List.mem_append] at hmem ⊢; tauto)
    · exact fun hmem => hr (by simp only [List.mem_append] at hmem ⊢; tauto)
  rw [readLeft_append hf h.last, readLeft_append hf h.last, List.nil_append]
  congr 1
  rcases EndsWord.after_cases h.last .code with hstate | ⟨hstate, hlast⟩
  · rw [hstate, h.readLeft_piece hpiece, hbehind]
  · rw [hstate, readLeft_comment_append (h.newline_not_mem hlast), hbehind]

end LeavesOut

theorem readLeft_collapse (hf : StopsAtBorder f) (hr : '\r' ∉ t) :
    readLeft f .code [] (collapse t).1 = readLeft f .code [] t := by
  refine collapse_induction (motive := fun t u => '\r' ∉ t →
    readLeft f .code [] u = readLeft f .code [] t) (fun _ _ _ => rfl)
    (fun t u v hone ih hr => ?_) t hr
  have hdrop := of_collapseOne? hone
  rw [ih fun hmem => hr (hdrop.sublist.subset hmem)]
  obtain ⟨front, piece, b, hleaves, rfl, rfl⟩ := hdrop.exists_leavesOut
  exact (hleaves.readLeft_eq hf hr).symm

/-! ## Places where an end follows another one -/

/-- At the place an end starts that follows another one. -/
def followsAt (t : Text) (p : Position) : Bool :=
  let b := Text.takeBytes p.offset t
  follows b (t.drop b.length)

theorem followsAt_append (b r : Text) :
    followsAt (b ++ r) (Position.start.after b) = follows b r := by
  have hoffset : (Position.start.after b).offset = Text.byteLength b + 0 := by
    rw [Position.offset_after]
    exact Nat.zero_add _
  rw [followsAt, hoffset, Text.takeBytes_append, Text.takeBytes_zero, List.append_nil,
    List.drop_left]

/-- There is no such place where there are no duplicates. -/
theorem followsAt_eq_false (hr : '\r' ∉ t) (hends : ¬HasDuplicate t) (p : Position) :
    followsAt t p = false := by
  rw [Bool.eq_false_iff]
  intro h
  obtain ⟨r, hsplit⟩ := Text.takeBytes_isPrefix p.offset t
  have hdrop : t.drop (Text.takeBytes p.offset t).length = r := by
    conv => lhs; rhs; rw [← hsplit]
    exact List.drop_left
  rw [followsAt, hdrop] at h
  have hreturn : '\r' ∉ Text.takeBytes p.offset t := fun hmem =>
    hr ((Text.takeBytes_isPrefix p.offset t).subset hmem)
  exact hends (hsplit ▸ hasDuplicate_of_follows hreturn h)

theorem readLeft_eq_filterMap (f : Text → Option α) (s : LineState) (b t : Text) :
    readLeft f s b t = (codePlacesFrom s (Position.start.after b) t).filterMap fun x =>
      if x.char = '\\' ∧ followsAt (b ++ t) x.pos = false then f x.rest else none := by
  induction t generalizing s b with
  | nil => rfl
  | cons c t ih =>
    have hrest := ih (s.next c) (b ++ [c])
    have hnext : Position.start.after (b ++ [c]) = (Position.start.after b).next c := by
      rw [Position.after_append]
      rfl
    rw [List.append_assoc, List.singleton_append, hnext] at hrest
    rw [readLeft, hrest]
    by_cases hc : c = '\n'
    · subst hc
      rw [codePlacesFrom_newline, LineState.next_newline, if_neg (fun h => nomatch h.2.1)]
      rfl
    · cases s with
      | code =>
        rw [codePlacesFrom_code hc, LineState.next_code hc, filterMap_cons_eq, followsAt_append]
        simp
      | escaped =>
        rw [codePlacesFrom_escaped, LineState.next_escaped, if_neg (fun h => nomatch h.1)]
        rfl
      | comment =>
        rw [codePlacesFrom_comment hc, LineState.next_comment hc, if_neg (fun h => nomatch h.1)]
        rfl

/-- The lexemes of a document without its ends that follow another one. -/
def leftLexemes (t : Text) : List Lexeme :=
  (Lexeme.lexemes t).filter fun x => !followsAt t x.start

theorem markersOf_leftLexemes (h : NoLiteral t) :
    markersOf (leftLexemes t) = readLeft readMarker? .code [] t := by
  have hplaced := (agrees_codePlacesFrom .start t h).placedMarkers
  have hleft := congrArg (List.filterMap fun x : Position × Marker =>
    if followsAt t x.1 then none else some x.2) hplaced
  rw [List.filterMap_filterMap, List.filterMap_filterMap] at hleft
  rw [readLeft_eq_filterMap, leftLexemes, markersOf, List.filterMap_filter]
  refine Eq.trans ?_ (hleft.trans ?_)
  · refine List.filterMap_congr fun x _ => ?_
    rw [Lexeme.placedMarker?]
    cases x.marker? <;> cases hfollows : followsAt t x.start <;> simp [hfollows]
  · refine List.filterMap_congr fun x _ => ?_
    rw [CodePlace.placedMarker?, CodePlace.marker?]
    by_cases hc : x.char = '\\'
    · rw [if_pos hc]
      cases readMarker? x.rest <;> cases hfollows : followsAt t x.pos <;> simp [hc, hfollows]
    · simp [hc]

/-- A text without duplicates keeps all its lexemes. -/
theorem leftLexemes_of_not_hasDuplicate (hr : '\r' ∉ t) (hends : ¬HasDuplicate t) :
    leftLexemes t = Lexeme.lexemes t :=
  List.filter_eq_self.2 fun x _ => by rw [followsAt_eq_false hr hends]; rfl

open Classical in
/-- A collapse makes nothing literal. -/
theorem noLiteral_collapse (hr : '\r' ∉ t) (h : NoLiteral t) : NoLiteral (collapse t).1 := by
  have hreturn : '\r' ∉ (collapse t).1 := fun hmem => hr ((sublist_collapse t).subset hmem)
  rw [NoLiteral, Lexeme.lexemes, isLiteral_eq_false_iff_codePlacesFrom] at h ⊢
  have hnone : readLeft (fun t => if StartsLiteral t then some () else none) .code []
      (collapse t).1 = [] := by
    rw [readLeft_collapse stopsAtBorder_startsLiteral hr, readLeft_eq_filterMap]
    refine List.filterMap_eq_nil_iff.2 fun x hx => ?_
    split
    · rename_i hslash
      exact if_neg (h x hx hslash.1)
    · rfl
  rw [readLeft_eq_filterMap, List.filterMap_eq_nil_iff] at hnone
  intro x hx hslash hliteral
  have hread := hnone x hx
  rw [if_pos ⟨hslash, followsAt_eq_false hreturn (not_hasDuplicate_collapse hr) x.pos⟩,
    if_pos hliteral] at hread
  cases hread

/-- A collapse leaves the markers of the lexemes that are left. -/
theorem markersOf_lexemes_collapse (hr : '\r' ∉ t) (h : NoLiteral t) :
    markersOf (Lexeme.lexemes (collapse t).1) = markersOf (leftLexemes t) := by
  have hreturn : '\r' ∉ (collapse t).1 := fun hmem => hr ((sublist_collapse t).subset hmem)
  rw [← leftLexemes_of_not_hasDuplicate hreturn (not_hasDuplicate_collapse hr),
    markersOf_leftLexemes (noLiteral_collapse hr h), markersOf_leftLexemes h,
    readLeft_collapse stopsAtBorder_readMarker? hr]

end Terminator

/-! ## Markers and the end of a document -/

namespace ScanState

variable {s s' : ScanState} {x x' : Lexeme} {xs ys : List Lexeme}

/-- The names of the environments that are open behind a lexeme. -/
theorem openNames_step (s : ScanState) (x : Lexeme) :
    (s.step x).openNames =
      match x.token with
      | .beginEnvironment name => name :: s.openNames
      | .endEnvironment name => (splitAtEnd name s.environments).2.2.map (·.name)
      | _ => s.openNames := by
  obtain ⟨p, h⟩ := s.exists_acts_step x
  generalize s.step x = s' at h
  cases h with
  | begins h | ends h | documentClass h | unclosed h | includes h => rw [h]; rfl
  | delimits ds h =>
    generalize x.token = token at h
    cases token with
    | beginEnvironment | endEnvironment => cases h
    | _ => rfl

theorem openNames_step_congr (hnames : s.openNames = s'.openNames) (hx : x.token = x'.token) :
    (s.step x).openNames = (s'.step x').openNames := by
  rw [openNames_step, openNames_step, hx]
  split
  · rw [hnames]
  · exact (Alike.splitAtEnd_congr hnames _).2.2
  · exact hnames

/-- A lexeme that is no marker neither opens nor closes an environment. -/
theorem step_of_marker?_eq_none (s : ScanState) (hx : x.marker? = none) :
    (s.step x).openNames = s.openNames ∧ (s.step x).documentEnd = s.documentEnd := by
  rw [Lexeme.marker?] at hx
  constructor
  · rw [openNames_step]
    generalize x.token = token at hx
    cases token with
    | beginEnvironment | endEnvironment => cases hx
    | _ => rfl
  · refine (s.documentEnd_step_cases x).resolve_right fun h => ?_
    rw [h.2.1] at hx
    cases hx

theorem run_of_marker?_eq_none (s : ScanState) (hxs : ∀ x ∈ xs, x.marker? = none) :
    (s.run xs).openNames = s.openNames ∧ (s.run xs).documentEnd = s.documentEnd := by
  induction xs generalizing s with
  | nil => exact ⟨rfl, rfl⟩
  | cons x xs ih =>
    obtain ⟨hx, hxs⟩ := List.forall_mem_cons.1 hxs
    obtain ⟨hnames, hend⟩ := s.step_of_marker?_eq_none hx
    exact (ih (s.step x) hxs).imp (·.trans hnames) (·.trans hend)

theorem token_of_marker?_eq_some {m : Marker} (h : x.marker? = some m) :
    x.token = match m.kind with
      | .opening => .beginEnvironment m.name
      | .closing => .endEnvironment m.name := by
  rw [Lexeme.marker?] at h
  generalize x.token = token at h
  cases token with
  | beginEnvironment | endEnvironment => rw [← Option.some.inj h]
  | _ => cases h

/-- Whether a document has ended is decided by its markers. -/
theorem isSome_documentEnd_run_congr (hnames : s.openNames = s'.openNames)
    (hend : s.documentEnd.isSome = s'.documentEnd.isSome) (h : markersOf xs = markersOf ys) :
    (s.run xs).documentEnd.isSome = (s'.run ys).documentEnd.isSome := by
  induction xs generalizing s s' ys with
  | nil =>
    have hys := s'.run_of_marker?_eq_none (List.filterMap_eq_nil_iff.1 h.symm)
    rw [hys.2]
    exact hend
  | cons x xs ih =>
    rw [run_cons]
    cases hx : x.marker? with
    | none =>
      obtain ⟨hstep, hstay⟩ := s.step_of_marker?_eq_none hx
      refine ih (hstep.trans hnames) (hstay ▸ hend) ?_
      rwa [markersOf, List.filterMap_cons_none hx] at h
    | some m =>
      rw [markersOf, List.filterMap_cons_some hx] at h
      obtain ⟨before, y, behind, rfl, hbefore, hy, hrest⟩ := List.filterMap_eq_cons_iff.1 h.symm
      obtain ⟨hskip, hstay⟩ := s'.run_of_marker?_eq_none hbefore
      have htoken := (token_of_marker?_eq_some hx).trans (token_of_marker?_eq_some hy).symm
      rw [run_append, run_cons]
      exact ih (openNames_step_congr (hnames.trans hskip.symm) htoken)
        (documentEnd_step_congr (hnames.trans hskip.symm) (hstay ▸ hend) htoken) hrest.symm

end ScanState

/-- A collapsed document has an end where a scan that passes over the ends that follow another one
comes to an end. -/
theorem Terminator.isSome_documentEnd_collapse {t : Text} (hr : '\r' ∉ t) (h : NoLiteral t) :
    (scan (collapse t).1).documentEnd.isSome = (run {} (leftLexemes t)).documentEnd.isSome :=
  isSome_documentEnd_run_congr rfl rfl (markersOf_lexemes_collapse hr h)

end LatexRepair
