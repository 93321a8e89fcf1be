import LatexRepair.Proofs.CommentBlindness
import LatexRepair.Proofs.Correspondence
import LatexRepair.Proofs.ReadMarkers
import LatexRepair.Proofs.RealPlaces

/-!
# Text that is taken literally

The body of a verbatim environment, and the text between the delimiters of a `\verb`, are part of
one lexeme, which means the same whatever they are. With another body the lexemes before it stay
where they are and those behind it move, by lines and on the line where the body ends by columns
too. Two places on one side of the body keep their order then, and so do two places on different
sides (`keepsOrder_around`). So the scan reports the same in the same order (`literal_blindness`).
-/

namespace LatexRepair

/-! ## Places around a body -/

namespace Position

variable {p q : Position} {u v : Text}

theorem column_after_of_not_mem (h : '\n' ∉ u) (p : Position) :
    (p.after u).column = p.column + u.length := by
  induction u generalizing p with
  | nil => rfl
  | cons c u ih =>
    rw [List.mem_cons, not_or] at h
    rw [after_cons, ih h.2, next, if_neg (Ne.symm h.1), List.length_cons]
    dsimp only
    omega

theorem column_after_of_mem (h : '\n' ∈ u) (p q : Position) :
    (p.after u).column = (q.after u).column := by
  induction u generalizing p q with
  | nil => cases h
  | cons c u ih =>
    by_cases hu : '\n' ∈ u
    · exact ih hu _ _
    · obtain rfl : '\n' = c := by simpa [hu] using h
      rw [after_cons, after_cons, column_after_of_not_mem hu, column_after_of_not_mem hu]
      rfl

/-- Two texts that start at one place end in the same order wherever that is. -/
theorem le_after_eq (p q : Position) (u v : Text) :
    le ((p.after u).line, (p.after u).column) ((p.after v).line, (p.after v).column) =
      le ((q.after u).line, (q.after u).column) ((q.after v).line, (q.after v).column) := by
  have hmem : ∀ w : Text, '\n' ∈ w ↔ 0 < w.count '\n' := fun w => List.count_pos_iff.symm
  rw [Bool.eq_iff_iff, le_iff, le_iff]
  simp only [line_after]
  by_cases hcount : u.count '\n' = v.count '\n'
  · by_cases hu : '\n' ∈ u
    · have hv : '\n' ∈ v := by rwa [hmem, ← hcount, ← hmem]
      rw [column_after_of_mem hu p q, column_after_of_mem hv p q]
      omega
    · have hv : '\n' ∉ v := by rwa [hmem, ← hcount, ← hmem]
      simp only [column_after_of_not_mem hu, column_after_of_not_mem hv]
      omega
  · omega

/-- One place stands before both stops, or the places are behind the stops, with one text between
each place and its stop. -/
def Around (stop stop' p q : Position) : Prop :=
  p = q ∧ p.Precedes stop ∧ p.Precedes stop' ∨ ∃ u, p = stop.after u ∧ q = stop'.after u

theorem le_of_precedes_after (h : p.Precedes q) (u : Text) :
    le (p.line, p.column) ((q.after u).line, (q.after u).column) = true ∧
      le ((q.after u).line, (q.after u).column) (p.line, p.column) = false := by
  have hafter : p.Precedes (q.after u) := by
    cases u with
    | nil => exact h
    | cons c u => exact h.trans (q.precedes_after c u)
  unfold Precedes at hafter
  rw [← Bool.not_eq_true, le_iff, le_iff]
  omega

/-- Places around two stops keep their order. -/
theorem keepsOrder_around (stop stop' : Position) : KeepsOrder (Around stop stop') := by
  rintro p q p' q' (⟨rfl, hp, hp'⟩ | ⟨u, rfl, rfl⟩) (⟨rfl, hq, hq'⟩ | ⟨v, rfl, rfl⟩)
  · rfl
  · rw [(le_of_precedes_after hp v).1, (le_of_precedes_after hp' v).1]
  · rw [(le_of_precedes_after hq u).2, (le_of_precedes_after hq' u).2]
  · exact le_after_eq stop stop' u v

end Position

/-! ## Reading one text at two places -/

namespace Lexeme

/-- Dollar signs that make up one lexeme are what the text starts with. -/
theorem eq_replicate_of_dollars {c : Char} {s r : Text} {n : Nat}
    (h : (lexeme c (s ++ r)).1 = .dollars n) (hlen : (lexeme c (s ++ r)).2 = s.length) :
    c :: s = List.replicate n '$' := by
  have hspelling := spelling_lexeme c (s ++ r)
  rw [h, ← List.cons_append] at hspelling
  change List.replicate n '$' <+: c :: s ++ r at hspelling
  have hn : n = (c :: s).length := by rw [length_of_dollars h, hlen, List.length_cons]
  have hstart := List.prefix_of_prefix_length_le hspelling (List.prefix_append (c :: s) r)
    (by rw [List.length_replicate, hn])
  exact (hstart.eq_of_length (by rw [List.length_replicate, hn])).symm

/-- A text that is read at two places has lexemes that correspond, if each place in it does. -/
theorem Reads.corresponds {R : Position → Position → Prop} {p p' : Position} {s r : Text}
    {xs xs' : List Lexeme} (h : Reads p s r xs) (h' : Reads p' s r xs')
    (hR : ∀ u v, v ≠ [] → s = u ++ v → R (p.after u) (p'.after u)) :
    List.Forall₂ (Lexeme.Corresponds R) xs xs' := by
  induction h generalizing p' xs' with
  | nil p r =>
    cases h'
    exact .nil
  | @cons c s₁ s₂ r xs p hlen h ih =>
    generalize hs : c :: (s₁ ++ s₂) = s at h'
    cases h' with
    | nil => cases hs
    | @cons c' s₁' s₂' _ xs' _ hlen' h' =>
      obtain ⟨rfl, htail⟩ := List.cons.inj hs
      have htext : s₁ ++ (s₂ ++ r) = s₁' ++ (s₂' ++ r) := by
        rw [← List.append_assoc, htail, List.append_assoc]
      rw [← htext] at hlen'
      obtain ⟨rfl, rfl⟩ := List.append_inj htail (hlen.symm.trans hlen')
      refine .cons ⟨rfl, hR [] _ (List.cons_ne_nil _ _) rfl, fun n hn k hk => ?_⟩
        (ih h' fun u v hv hu => ?_)
      · have hrun := eq_replicate_of_dollars hn hlen
        refine hR (List.replicate k '$') (List.replicate (n - k) '$' ++ s₂) ?_ ?_
        · simp
          omega
        · rw [← List.cons_append, hrun, ← List.append_assoc, List.replicate_append_replicate,
            Nat.add_sub_cancel' hk.le]
      · have hR' := hR (c :: (s₁ ++ u)) v hv (by rw [hu]; simp)
        simpa only [Position.after_cons, Position.after_append] using hR'

end Lexeme

/-! ## One lexeme for another -/

/-- A lexeme of a backslash may be longer or shorter, if its token stays. -/
theorem sameReport_of_lexeme {p m m' q : Text} {token : Token}
    (hreached : Reached p ('\\' :: (m ++ q)))
    (hm : Lexeme.lexeme '\\' (m ++ q) = (token, m.length))
    (hm' : Lexeme.lexeme '\\' (m' ++ q) = (token, m'.length))
    (htoken : ∀ n, token ≠ .dollars n) :
    SameReport (scan (p ++ '\\' :: (m ++ q))) (scan (p ++ '\\' :: (m' ++ q))) := by
  obtain ⟨xs, hreads, -⟩ := hreached.exists_reads
  have hreads' : Lexeme.Reads .start p ('\\' :: (m' ++ q)) xs :=
    hreads.exchange (fun hnil => absurd hnil (List.cons_ne_nil _ _)) (.inr rfl) (.inr rfl)
  set cut := Position.start.after p
  have hlexemes : ∀ m, Lexeme.lexeme '\\' (m ++ q) = (token, m.length) →
      Lexeme.Reads .start p ('\\' :: (m ++ q)) xs →
      Lexeme.lexemes (p ++ '\\' :: (m ++ q)) =
        xs ++ ⟨token, cut, cut.after ('\\' :: m)⟩ ::
          Lexeme.lexemesFrom (cut.after ('\\' :: m)) q := fun m hm hreads => by
    rw [Lexeme.lexemes, hreads.lexemesFrom_append, Lexeme.lexemesFrom_cons, hm]
    dsimp only
    rw [List.take_left, List.drop_left]
    rfl
  have hbehind : ∀ m : Text, cut.Precedes (cut.after ('\\' :: m)) := fun m =>
    cut.precedes_after '\\' m
  have hbefore : ∀ u v : Text, v ≠ [] → p = u ++ v → (Position.start.after u).Precedes cut :=
    fun u v hv hp => by
      obtain ⟨c, v, rfl⟩ := List.exists_cons_of_ne_nil hv
      change (Position.start.after u).Precedes (Position.start.after p)
      rw [hp, Position.after_append]
      exact Position.precedes_after _ c v
  refine scan_corresponds
    (Position.keepsOrder_around (cut.after ('\\' :: m)) (cut.after ('\\' :: m'))) ?_
  rw [hlexemes m hm hreads, hlexemes m' hm' hreads']
  refine List.rel_append (hreads.corresponds hreads fun u v hv hp => ?_) (.cons ?_ ?_)
  · have hcut := hbefore u v hv hp
    exact .inl ⟨rfl, hcut.trans (hbehind m), hcut.trans (hbehind m')⟩
  · exact ⟨rfl, .inl ⟨rfl, hbehind m, hbehind m'⟩, fun n hn => absurd hn (htoken n)⟩
  · exact (Lexeme.reads_lexemesFrom _ q).corresponds (Lexeme.reads_lexemesFrom _ q)
      fun u _ _ _ => .inr ⟨u, rfl, rfl⟩

/-! ## Literal lexemes -/

namespace Lexeme

variable {name b q : Text} {d : Char}

/-- A verbatim environment is one lexeme up to the first occurrence of its end. -/
theorem lexeme_verbatim (hname : Catalog.mem name Catalog.verbatimEnvironments = true)
    (hfind : Text.find? (verbatimEnd name) (b ++ (verbatimEnd name ++ q)) = some b.length) :
    lexeme '\\' ("begin".toList ++ '{' :: (name ++ '}' :: (b ++ verbatimEnd name)) ++ q) =
      (.verbatim name true,
        ("begin".toList ++ '{' :: (name ++ '}' :: (b ++ verbatimEnd name))).length) := by
  have hcatalog : ∀ n ∈ Catalog.verbatimEnvironments,
      n.toList.all Marker.isNameChar = true ∧ Text.trim n.toList = n.toList ∧
        n.toList ≠ [] := by decide
  obtain ⟨n, hn, hmem⟩ := List.any_eq_true.1 hname
  obtain rfl : n.toList = name := of_decide_eq_true hmem
  obtain ⟨hall, htrim, hne⟩ := hcatalog n hn
  have hchars := List.all_eq_true.1 hall
  set r := b ++ (verbatimEnd n.toList ++ q)
  have hgroup : groupArgument? ('{' :: (n.toList ++ '}' :: r)) =
      some (n.toList, n.toList.length + 2) :=
    groupArgument?_eq_some_iff.2 ⟨[], n.toList, r, rfl, by simp, hchars, htrim.symm, hne, by simp⟩
  have hword : controlWordToken "begin".toList ('{' :: (n.toList ++ '}' :: r)) =
      (.verbatim n.toList true,
        n.toList.length + 2 + (b.length + (verbatimEnd n.toList).length)) := by
    have hdrop : ('{' :: (n.toList ++ '}' :: r)).drop (n.toList.length + 2) = r := by
      rw [List.drop_succ_cons, ← List.drop_drop, List.drop_left, List.drop_succ_cons,
        List.drop_zero]
    rw [controlWordToken, if_pos rfl, hgroup]
    dsimp only
    rw [if_pos hname, hdrop, verbatimToken, hfind]
  have happend : "begin".toList ++ '{' :: (n.toList ++ '}' :: (b ++ verbatimEnd n.toList)) ++ q =
      "begin".toList ++ '{' :: (n.toList ++ '}' :: r) := by
    simp [r]
  have hlexeme : ∀ t, lexeme '\\' t = controlToken t := fun _ => rfl
  rw [hlexeme, happend, controlToken_append (by decide) (by decide)
    (takeWhile_isCommandChar_of_groupArgument? hgroup), hword]
  simp
  omega

/-- A `\verb` is one lexeme up to the second occurrence of its delimiter. -/
theorem lexeme_verb {star : Text} (hstar : star = [] ∨ star = ['*'])
    (hd : isBlank d = false ∧ isCommandChar d = false ∧ d ≠ '*') (hb : d ∉ b ∧ '\n' ∉ b) :
    lexeme '\\' ("verb".toList ++ (star ++ d :: (b ++ [d])) ++ q) =
      (.verb, ("verb".toList ++ (star ++ d :: (b ++ [d]))).length) := by
  obtain ⟨hblank, hletter, hne⟩ := hd
  have hdelimiter : (isBlank d || d.isAlpha) = false := by
    rw [isCommandChar, Bool.or_eq_false_iff] at hletter
    rw [hblank, hletter.1]
    rfl
  have hdelimited : delimitedLength (d :: (b ++ d :: q)) = b.length + 2 := by
    have hall : ∀ c ∈ b, (decide (c ≠ d) && decide (c ≠ '\n')) = true := fun c hc => by
      simp [ne_of_mem_of_not_mem hc hb.1, ne_of_mem_of_not_mem hc hb.2]
    rw [delimitedLength, if_neg (by simp [hdelimiter]), List.takeWhile_append_of_pos hall,
      List.dropWhile_append_of_pos hall, List.takeWhile_cons_of_neg (by simp),
      List.dropWhile_cons_of_neg (by simp)]
    simp
    omega
  have hlength : verbLength (star ++ d :: (b ++ d :: q)) = star.length + (b.length + 2) := by
    rw [verbLength_eq]
    rcases hstar with rfl | rfl
    · simpa [hne] using hdelimited
    · simpa using hdelimited
  have hword : (star ++ d :: (b ++ d :: q)).takeWhile isCommandChar = [] := by
    rcases hstar with rfl | rfl
    · exact List.takeWhile_cons_of_neg (by simp [hletter])
    · exact List.takeWhile_cons_of_neg (by decide)
  have happend : "verb".toList ++ (star ++ d :: (b ++ [d])) ++ q =
      "verb".toList ++ (star ++ d :: (b ++ d :: q)) := by simp
  have hverb : ∀ t, controlWordToken "verb".toList t = (.verb, verbLength t) := fun t => by
    rw [controlWordToken, if_neg (by decide), if_neg (by decide), if_neg (by decide), if_pos rfl]
  have hlexeme : ∀ t, lexeme '\\' t = controlToken t := fun _ => rfl
  rw [hlexeme, happend, controlToken_append (by decide) (by decide) hword, hverb, hlength]
  simp
  omega

end Lexeme

/-- The body of a verbatim environment and the text of a `\verb` say nothing: with another one the
scan reports the same in the same order, at whatever places. -/
theorem literal_blindness :
    (∀ name p b b' q : Text, Catalog.mem name Catalog.verbatimEnvironments = true →
      Reached p (Marker.text ⟨.opening, name⟩ ++ (b ++ (Lexeme.verbatimEnd name ++ q))) →
      Text.find? (Lexeme.verbatimEnd name) (b ++ (Lexeme.verbatimEnd name ++ q)) = some b.length →
      Text.find? (Lexeme.verbatimEnd name) (b' ++ (Lexeme.verbatimEnd name ++ q)) =
        some b'.length →
      SameReport
        (scan (p ++ (Marker.text ⟨.opening, name⟩ ++ (b ++ (Lexeme.verbatimEnd name ++ q)))))
        (scan (p ++ (Marker.text ⟨.opening, name⟩ ++ (b' ++ (Lexeme.verbatimEnd name ++ q)))))) ∧
    ∀ (star p b b' q : Text) (d : Char), (star = [] ∨ star = ['*']) →
      isBlank d = false → d.isAlpha = false → d ≠ '@' → d ≠ '*' →
      d ∉ b → '\n' ∉ b → d ∉ b' → '\n' ∉ b' →
      Reached p ("\\verb".toList ++ (star ++ d :: (b ++ d :: q))) →
      SameReport (scan (p ++ ("\\verb".toList ++ (star ++ d :: (b ++ d :: q)))))
        (scan (p ++ ("\\verb".toList ++ (star ++ d :: (b' ++ d :: q))))) := by
  constructor
  · intro name p b b' q hname hreached hfind hfind'
    have htext : ∀ b, Marker.text ⟨.opening, name⟩ ++ (b ++ (Lexeme.verbatimEnd name ++ q)) =
        '\\' :: ("begin".toList ++ '{' :: (name ++ '}' :: (b ++ Lexeme.verbatimEnd name)) ++ q) :=
      fun b => by simp [Marker.text, Marker.controlWord]
    rw [htext] at hreached
    rw [htext, htext]
    exact sameReport_of_lexeme hreached (Lexeme.lexeme_verbatim hname hfind)
      (Lexeme.lexeme_verbatim hname hfind') (fun n hn => by cases hn)
  · intro star p b b' q d hstar hblank halpha hat hne hdb hb hdb' hb' hreached
    have hd : isBlank d = false ∧ isCommandChar d = false ∧ d ≠ '*' :=
      ⟨hblank, by simp [isCommandChar, halpha, hat], hne⟩
    have htext : ∀ b, "\\verb".toList ++ (star ++ d :: (b ++ d :: q)) =
        '\\' :: ("verb".toList ++ (star ++ d :: (b ++ [d])) ++ q) := fun b => by simp
    rw [htext] at hreached
    rw [htext, htext]
    exact sameReport_of_lexeme hreached (Lexeme.lexeme_verb hstar hd ⟨hdb, hb⟩)
      (Lexeme.lexeme_verb hstar hd ⟨hdb', hb'⟩) (fun n hn => by cases hn)

/-- Listings with one brace and with two lines, and `\verb` with a brace and with an item and two
braces : what is behind them is reported as before. -/
theorem literal_blindness_unmatched :
    SameReport (scan "\\begin{verbatim}\n\x7d\\end{verbatim}]".toList)
        (scan "\\begin{verbatim}\n%\n\\item\\end{verbatim}]".toList) ∧
      SameReport (scan "a \\verb*|\x7b|\x7d".toList)
        (scan "a \\verb*|\\item \x7d\x7d|\x7d".toList) := by
  have hbegin : Reached [] "\\begin{verbatim}\n\x7d\\end{verbatim}]".toList := by
    unfold Reached
    decide +kernel
  have hverb : Reached "a ".toList "\\verb*|\x7b|\x7d".toList := by
    unfold Reached
    decide +kernel
  exact ⟨literal_blindness.1 "verbatim".toList [] "\n\x7d".toList "\n%\n\\item".toList [']']
      (by decide) hbegin (by decide +kernel) (by decide +kernel),
    literal_blindness.2 ['*'] "a ".toList ['{'] "\\item \x7d\x7d".toList ['}'] '|' (.inr rfl)
      (by decide) (by decide) (by decide) (by decide) (by decide) (by decide) (by decide)
      (by decide) hverb⟩

end LatexRepair
