import LatexRepair.Proofs.BraceEdits

/-!
# Skeletons of balanced lines

When the rule for braces makes a line hold the markup of its counterpart. The markup of code
is its skeleton without the places (`markup`), and the markup of two pieces of code adds up
where nothing is escaped between them, but not where a control word of the first piece goes on
in the second one (`markup_append_iff`). The rule edits a line in the gap where its markup and
that of the counterpart differ by one closing brace (`LineRepair.markup_around_place`). So the
brace that is put in does its work exactly if no backslash escapes it, and the brace that goes
leaves the markup of the counterpart behind exactly if it did not end a control word that goes
on with the next character (`LineRepair.sameShape_of_rebalance?_iff`).
-/

namespace LatexRepair

/-- The tokens of code without their places. -/
def markup (code : Text) : List MarkupToken :=
  (skeleton code).map (·.token)

variable {t r u v : Text}

/-! ## Markup of joined code -/

theorem token_skeletonFrom (i : Nat) (t : Text) :
    (skeletonFrom i t).map (·.token) = markup t := by
  have hshift : ∀ i j, (skeletonFrom i t).map (·.token) = (skeletonFrom j t).map (·.token) := by
    induction t using code_induction with
    | nil => simp [skeletonFrom]
    | backslash => simp [skeletonFrom_backslash]
    | append s t x h ih =>
      intro i j
      rw [h.skeletonFrom_append, h.skeletonFrom_append, List.map_append, List.map_append,
        ih _ (j + s.length)]
      cases x <;> rfl
  exact hshift i 0

theorem markup_append (ht : escapes false t = false)
    (hr : EndsInWord t → ∀ c ∈ r.head?, isCommandChar c = false) :
    markup (t ++ r) = markup t ++ markup r := by
  rw [markup, skeleton, skeletonFrom_append_of_endsInWord ht hr, List.map_append,
    token_skeletonFrom, token_skeletonFrom]

theorem markup_closer (t : Text) : markup ('}' :: t) = .closeBrace :: markup t := by
  rw [markup, skeleton, skeletonFrom, List.map_cons, token_skeletonFrom]

/-- The control word at the end of a text goes on with the next character. -/
def GoesOn (t r : Text) : Prop :=
  EndsInWord t ∧ ∃ c ∈ r.head?, isCommandChar c = true

/-- What a text starts with that belongs to a control word, and the rest. -/
theorem exists_commandChars {c : Char} (hc : isCommandChar c = true) (t : Text) :
    ∃ word rest, c :: t = word ++ rest ∧ word ≠ [] ∧ (∀ d ∈ word, isCommandChar d = true) ∧
      ∀ d ∈ rest.head?, isCommandChar d = false := by
  refine ⟨(c :: t).takeWhile isCommandChar, _, (takeWhile_append_drop isCommandChar _).symm, ?_,
    fun d hd => List.mem_takeWhile_imp hd, fun d hd => of_mem_head?_drop_takeWhile hd⟩
  rw [List.takeWhile_cons_of_pos hc]
  exact List.cons_ne_nil _ _

/-- A control word that goes on is one token. -/
theorem skeletonFrom_goesOn (h : GoesOn t r) (i : Nat) :
    ∃ s name word rest, word ≠ [] ∧ s.length < t.length ∧
      skeletonFrom i t =
        skeletonFrom i s ++ [⟨.command name, i + s.length, i + t.length⟩] ∧
      skeletonFrom i (t ++ r) = skeletonFrom i s ++
        ⟨.command (name ++ word), i + s.length, i + t.length + word.length⟩ :: rest := by
  obtain ⟨⟨s, name, rfl, hs, hne, hname⟩, c, hc, hchar⟩ := h
  obtain ⟨r, rfl⟩ := List.head?_eq_some_iff.1 hc
  obtain ⟨word, rest, hr, hword, hwordChar, hrest⟩ := exists_commandChars hchar r
  have hsplit : ∀ w, skeletonFrom i (s ++ '\\' :: w) =
      skeletonFrom i s ++ skeletonFrom (i + s.length) ('\\' :: w) := fun w =>
    skeletonFrom_append hs (fun d hd => by obtain rfl := Option.some.inj hd; decide) i
  have hlonger : ∀ d ∈ name ++ word, isCommandChar d = true := fun d hd =>
    (List.mem_append.1 hd).elim (hname d) (hwordChar d)
  have hlength : i + s.length + 1 + name.length = i + (s ++ '\\' :: name).length := by
    simp only [List.length_append, List.length_cons]
    omega
  refine ⟨s, name, word, skeletonFrom (i + s.length + 1 + (name ++ word).length) rest, hword,
    by simp, ?_, ?_⟩
  · have hfirst := skeletonFrom_word (r := []) hne hname (by simp) (i + s.length)
    rw [List.append_nil, skeletonFrom, hlength] at hfirst
    rw [hsplit, hfirst]
  · rw [hr, List.append_assoc, List.cons_append, hsplit, ← List.append_assoc name word rest,
      skeletonFrom_word (by simp [hne]) hlonger hrest, List.length_append, ← Nat.add_assoc,
      hlength]

/-- The markup of two pieces of code adds up unless a control word goes on from the one to the
other. -/
theorem markup_append_iff (ht : escapes false t = false) :
    markup (t ++ r) = markup t ++ markup r ↔ ¬GoesOn t r := by
  constructor
  · intro h hgoes
    obtain ⟨s, name, word, rest, hword, -, hfirst, hjoined⟩ := skeletonFrom_goesOn hgoes 0
    rw [markup, markup, skeleton, skeleton, hfirst, hjoined, List.map_append, List.map_append,
      List.append_assoc, List.append_cancel_left_eq] at h
    have hname := (List.cons.inj h).1
    rw [MarkupToken.command.injEq, List.append_right_eq_self] at hname
    exact hword hname
  · intro h
    refine markup_append ht fun hword c hc => ?_
    by_contra hchar
    exact h ⟨hword, c, hc, by simpa using hchar⟩

/-! ## Markup around a gap -/

theorem sameShape_iff {a b : List PlacedToken} :
    LineRepair.sameShape a b = true ↔ a.map (·.token) = b.map (·.token) :=
  decide_eq_true_iff

/-- Skeletons of one shape have one balance. -/
theorem braceBalance_eq_of_sameShape {a b : List PlacedToken}
    (h : LineRepair.sameShape a b = true) : braceBalance a = braceBalance b := by
  have hmap : ∀ xs : List PlacedToken, braceBalance xs =
      (xs.map (·.token)).foldr (fun m balance => m.balance + balance) 0 := fun xs => by
    rw [List.foldr_map, braceBalance]
  rw [hmap, hmap, sameShape_iff.1 h]

namespace LineRepair

theorem take_commonLength (xs ys : List PlacedToken) :
    (xs.take (commonLength xs ys)).map (·.token) =
      (ys.take (commonLength xs ys)).map (·.token) := by
  refine List.ext_getElem? fun j => ?_
  rw [List.getElem?_map, List.getElem?_map, List.getElem?_take, List.getElem?_take]
  split
  · rename_i hj
    exact token_eq_of_lt_commonLength hj
  · rfl

/-- A place in the gap before token number `k` has the tokens before it and the other ones behind
it, if nothing is escaped at the place. -/
theorem markup_around_place {k : Nat} (hk : k ≤ (skeleton (u ++ v)).length)
    (hstart : gapStart (skeleton (u ++ v)) k ≤ u.length)
    (hstop : u.length ≤ gapStop (skeleton (u ++ v)) (u ++ v) k) (hu : escapes false u = false) :
    markup u = ((skeleton (u ++ v)).take k).map (·.token) ∧
      markup v = ((skeleton (u ++ v)).drop k).map (·.token) := by
  have hside : ∀ {j : Nat} {x}, (skeleton (u ++ v))[j]? = some x →
      j < k ∧ x.stop ≤ u.length ∨ k ≤ j ∧ u.length ≤ x.start := fun {j x} hx => by
    rcases Nat.lt_or_ge j k with hj | hj
    · exact .inl ⟨hj, (stop_le_gapStart hk hj hx).trans hstart⟩
    · exact .inr ⟨hj, hstop.trans (gapStop_le_start hj hx)⟩
  have hgoes : ¬GoesOn u v := fun hgoes => by
    obtain ⟨s, name, word, rest, hword, hlt, -, hjoined⟩ := skeletonFrom_goesOn hgoes 0
    have hpos := List.length_pos_iff.2 hword
    obtain ⟨j, hj⟩ := List.getElem?_of_mem (show _ ∈ skeleton (u ++ v) by
      rw [skeleton, hjoined]
      exact List.mem_append_right _ (List.mem_cons_self ..))
    rcases hside hj with ⟨-, hj⟩ | ⟨-, hj⟩ <;> dsimp only at hj <;> omega
  have hsplit : skeleton (u ++ v) = skeleton u ++ skeletonFrom (0 + u.length) v :=
    skeletonFrom_append_of_endsInWord hu (fun hword c hc => by
      by_contra hchar
      exact hgoes ⟨hword, c, hc, by simpa using hchar⟩) 0
  -- The tokens before the place are those of the first part.
  have hcount : (skeleton u).length = k := by
    rcases Nat.lt_trichotomy (skeleton u).length k with hlt | heq | hlt
    · obtain ⟨x, hx⟩ : ∃ x, (skeleton (u ++ v))[(skeleton u).length]? = some x :=
        ⟨_, List.getElem?_eq_getElem (by omega)⟩
      have hmem : x ∈ skeletonFrom (0 + u.length) v := by
        rw [hsplit, List.getElem?_append_right (Nat.le_refl _)] at hx
        exact List.mem_of_getElem? hx
      have hbounds := bounds_of_mem_skeletonFrom hmem
      rcases hside hx with ⟨-, hx⟩ | ⟨hx, -⟩ <;> omega
    · exact heq
    · obtain ⟨x, hx⟩ : ∃ x, (skeleton u)[k]? = some x := ⟨_, List.getElem?_eq_getElem hlt⟩
      have hbounds := bounds_of_mem_skeletonFrom (List.mem_of_getElem? hx)
      have hx : (skeleton (u ++ v))[k]? = some x := by
        rw [hsplit, List.getElem?_append_left hlt, hx]
      rcases hside hx with ⟨hx, -⟩ | ⟨-, hx⟩ <;> omega
  rw [hsplit, ← hcount, List.take_left, List.drop_left, token_skeletonFrom]
  exact ⟨rfl, rfl⟩

/-- A skeleton around its token number `k`. -/
theorem map_token_around {xs : List PlacedToken} {k : Nat} {x : PlacedToken}
    (hx : xs[k]? = some x) :
    (xs.take k).map (·.token) ++ x.token :: (xs.drop (k + 1)).map (·.token) =
      xs.map (·.token) := by
  obtain ⟨hk, rfl⟩ := List.getElem?_eq_some_iff.1 hx
  conv => rhs; rw [← List.take_append_drop k xs, List.drop_eq_getElem_cons hk]
  rw [List.map_append, List.map_cons]

/-- A control word does not go on with a comment. -/
theorem goesOn_append_iff {a b r : Text} (hcode : codePart (a ++ (b ++ r)) = a ++ b)
    (ha : escapes false a = false) : GoesOn a (b ++ r) ↔ GoesOn a b := by
  cases b with
  | cons c b => exact Iff.rfl
  | nil =>
    rw [codePart, codePartFrom_append hcode, ha, List.append_cancel_left_eq] at hcode
    refine and_congr_right fun _ => iff_of_false ?_ (by simp)
    rintro ⟨c, hc, hchar⟩
    obtain ⟨r, rfl⟩ := List.head?_eq_some_iff.1 hc
    have hp : c ≠ '%' := by
      rintro rfl
      exact absurd hchar (by decide)
    rw [List.nil_append, codePartFrom] at hcode
    split at hcode
    · cases hcode
    · rw [if_neg (by simp [hp])] at hcode
      cases hcode

section

variable {t g : Text} {k : Nat}

/-- With the closing brace that it lacks the line has the markup of its counterpart exactly if no
backslash escapes the brace. -/
theorem sameShape_insert_iff {i : Nat} {closer : PlacedToken}
    (hexcess : lineBalance t = lineBalance g + 1) (hk : k ≤ (skeleton (codePart t)).length)
    (htake : ((skeleton (codePart t)).take k).map (·.token) =
      ((skeleton (codePart g)).take k).map (·.token))
    (hcloser : (skeleton (codePart g))[k]? = some closer) (hclose : closer.token = .closeBrace)
    (hplace : bracePlace? (codePart t) (codePart g) (skeleton (codePart t))
      (skeleton (codePart g)) k closer = some i)
    (hshape : sameShape ((skeleton (codePart t)).drop k)
      ((skeleton (codePart g)).drop (k + 1)) = true) :
    ∃ a b, t = a ++ b ∧ a.length = i ∧ (Edit.insert i ['}']).apply t = a ++ '}' :: b ∧
      (sameShape (skeleton (codePart (a ++ '}' :: b))) (skeleton (codePart g)) = true ↔
        escapes false a = false) := by
  obtain ⟨hstart, hstop, -⟩ := of_bracePlace? hk hplace
  obtain ⟨u, v, r, rfl, hcode, rfl, hedit, hinsert, hnext⟩ :=
    exists_around_place hcloser hclose hk hplace
  have hline := lineBalance_insert hcode hinsert hnext
  refine ⟨u, v ++ r, rfl, rfl, hedit, ?_⟩
  cases hu : escapes false u with
  | true =>
    -- The brace does not count, so the line stays out of balance.
    refine iff_of_false (fun hsame => ?_) (by simp)
    have hequal : lineBalance (u ++ '}' :: (v ++ r)) = lineBalance g :=
      braceBalance_eq_of_sameShape hsame
    rw [hu, if_pos rfl] at hline
    omega
  | false =>
    refine iff_of_true (sameShape_iff.2 ?_) rfl
    rw [hcode] at hk hstart hstop hshape htake
    obtain ⟨hbefore, hbehind⟩ := markup_around_place hk hstart hstop hu
    have hcloserWord : EndsInWord u → ∀ c ∈ ('}' :: v).head?, isCommandChar c = false :=
      fun _ c hc => by
        obtain rfl := Option.some.inj hc
        decide
    calc (skeleton (codePart (u ++ '}' :: (v ++ r)))).map (·.token)
        = markup u ++ .closeBrace :: markup v := by
          rw [hinsert, ← markup, markup_append hu hcloserWord, markup_closer]
      _ = ((skeleton (codePart g)).take k).map (·.token) ++
            closer.token :: ((skeleton (codePart g)).drop (k + 1)).map (·.token) := by
          rw [hbefore, hbehind, htake, sameShape_iff.1 hshape, hclose]
      _ = (skeleton (codePart g)).map (·.token) := map_token_around hcloser

/-- Without the closing brace that it has too many the line has the markup of its counterpart
exactly if the brace did not end a control word that goes on. -/
theorem sameShape_delete_iff {x : PlacedToken} (hk : k ≤ (skeleton (codePart t)).length)
    (htake : ((skeleton (codePart t)).take k).map (·.token) =
      ((skeleton (codePart g)).take k).map (·.token))
    (hx : (skeleton (codePart t))[k]? = some x) (hclose : x.token = .closeBrace)
    (hshape : sameShape ((skeleton (codePart t)).drop (k + 1))
      ((skeleton (codePart g)).drop k) = true) :
    ∃ a b, t = a ++ '}' :: b ∧ x.start = a.length ∧ x.stop = a.length + 1 ∧
      (Edit.delete x.start x.stop).apply t = a ++ b ∧
      (sameShape (skeleton (codePart (a ++ b))) (skeleton (codePart g)) = true ↔
        ¬GoesOn a b) := by
  obtain ⟨a, b, r, rfl, hcode, ha, hstart, hstop, hedit⟩ :=
    exists_code_around_closer (List.mem_of_getElem? hx) hclose
  have hdelete := codePart_delete_closer hcode ha
  refine ⟨a, b ++ r, rfl, hstart, hstop, hedit, ?_⟩
  rw [hcode] at hk hx hshape htake
  have hplace : gapStop (skeleton (a ++ '}' :: b)) (a ++ '}' :: b) k = a.length := by
    rw [gapStop, hx, Option.map_some, Option.getD_some, hstart]
  obtain ⟨hbefore, hbehind⟩ := markup_around_place (v := '}' :: b) hk
    (hplace ▸ gapStart_le_gapStop hk) hplace.ge ha
  have hrest : markup b = ((skeleton (a ++ '}' :: b)).drop (k + 1)).map (·.token) := by
    obtain ⟨hlt, -⟩ := List.getElem?_eq_some_iff.1 hx
    rw [markup_closer, List.drop_eq_getElem_cons hlt, List.map_cons] at hbehind
    exact (List.cons.inj hbehind).2
  have hguide : (skeleton (codePart g)).map (·.token) = markup a ++ markup b := by
    rw [hbefore, hrest, htake, sameShape_iff.1 hshape, ← List.map_append,
      List.take_append_drop]
  rw [hdelete, sameShape_iff, hguide, goesOn_append_iff hdelete ha]
  exact markup_append_iff ha

end

/-- What the rule for braces makes of a line : with one closing brace more or less it has the
markup of its counterpart exactly if no backslash escapes the new brace, or the brace that went
did not end a control word that goes on with the next character. -/
theorem sameShape_of_rebalance?_iff {t g : Text} {e : Edit} {f : LineFix}
    (h : rebalance? t g = some (e, f)) :
    (∃ a b, t = a ++ b ∧ e = .insert a.length ['}'] ∧ e.apply t = a ++ '}' :: b ∧
      f = .insertedBrace ∧
      (sameShape (skeleton (codePart (e.apply t))) (skeleton (codePart g)) = true ↔
        escapes false a = false)) ∨
    ∃ a b, t = a ++ '}' :: b ∧ e = .delete a.length (a.length + 1) ∧ e.apply t = a ++ b ∧
      f = .removedBrace ∧
      (sameShape (skeleton (codePart (e.apply t))) (skeleton (codePart g)) = true ↔
        ¬GoesOn a b) := by
  have hplaces := places_of_rebalance? h
  have hbalance := (of_rebalance? h).2
  have htake := take_commonLength (skeleton (codePart t)) (skeleton (codePart g))
  have hk := commonLength_le (skeleton (codePart t)) (skeleton (codePart g))
  dsimp only at hplaces
  rcases hplaces with ⟨closer, i, hcloser, hclose, hplace, rfl, rfl, hshape⟩ |
    ⟨x, hx, hclose, rfl, rfl, hshape⟩
  · obtain ⟨hexcess, -⟩ : lineBalance t = lineBalance g + 1 ∧ _ := by simpa using hbalance
    obtain ⟨a, b, ht, hi, hedit, hsame⟩ :=
      sameShape_insert_iff hexcess hk htake hcloser hclose hplace hshape
    exact .inl ⟨a, b, ht, by rw [hi], hedit, rfl, by rw [hedit]; exact hsame⟩
  · obtain ⟨a, b, ht, hstart, hstop, hedit, hsame⟩ :=
      sameShape_delete_iff hk htake hx hclose hshape
    exact .inr ⟨a, b, ht, by rw [hstart, hstop], hedit, rfl, by rw [hedit]; exact hsame⟩

/-- The brace goes in behind the text of the command, where nothing is escaped. -/
theorem sameShape_of_rebalance?_inserted :
    let t := "\\textbf\x7ba & b".toList
    let g := "\\textbf{a} & b".toList
    rebalance? t g = some (.insert 9 ['}'], .insertedBrace) ∧
      sameShape (skeleton (codePart ((Edit.insert 9 ['}']).apply t))) (skeleton (codePart g)) =
        true := by
  intro t g
  have hrule : rebalance? t g = some (.insert 9 ['}'], .insertedBrace) := by decide +kernel
  refine ⟨hrule, ?_⟩
  rcases sameShape_of_rebalance?_iff hrule with ⟨a, b, ht, he, -, -, hshape⟩ |
    ⟨a, b, -, -, -, hf, -⟩
  · have hlength : a.length = 9 := (congrArg Edit.start he).symm
    have ha : a = t.take 9 := by rw [ht, ← hlength, List.take_left]
    exact hshape.2 (by rw [ha]; decide)
  · cases hf

/-- The brace that goes ended a control word, and the word behind it joins that. -/
theorem rebalance?_joins_word :
    let t := "\\textbf\x7b\\alpha\x7db & c\x7d".toList
    let g := "\\textbf\x7b\\alpha b & c\x7d".toList
    rebalance? t g = some (.delete 14 15, .removedBrace) ∧
      (Edit.delete 14 15).apply t = "\\textbf\x7b\\alphab & c\x7d".toList ∧
        sameShape (skeleton (codePart ((Edit.delete 14 15).apply t))) (skeleton (codePart g)) =
          false := by
  decide +kernel

end LineRepair

end LatexRepair
