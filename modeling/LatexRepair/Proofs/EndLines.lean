import LatexRepair.Proofs.AlignedPass
import LatexRepair.Proofs.BalancedSkeletons
import LatexRepair.Proofs.Mentions

/-!
# Rules beside the end of the document

What the rules for lines do to a line that ends the document (`IsEndLine`). Beside a line
without an `\end{document}` it loses its own, and of the text around it only loose characters
change (`loosely_lineStep_of_endsAround`). Beside a line with one it keeps its own, if every `\end`
in that line has its group (`keepsEnd_lineStep`) : braces are balanced where the skeletons of the
two lines differ, and so neither in the end of the document nor between a backslash and what it
escapes. A strict reading counts the closing braces behind the end as well, as the trimming of
braces at the end of a document does (`Loosely`).
-/

namespace LatexRepair

variable {a b u v line g : Text} {i : Nat} {e : Edit} {f : LineFix}

/-! ## One brace more or less -/

/-- A closing brace may be put into code, but not between a backslash and a backslash or percent
sign that it escapes. -/
theorem Clean.insert_closer (h : Clean (u ++ v))
    (hcut : escapes false u = true → ∀ c ∈ v.head?, c ≠ '\\' ∧ c ≠ '%') :
    Clean (u ++ '}' :: v) := by
  cases hu : escapes false u with
  | false =>
    have hclean := h.of_append hu
    have hv := hclean.append_iff.1 h
    exact hclean.append_iff.2 (clean_closer.append_iff.2 hv)
  | true =>
    cases v with
    | nil =>
      rw [List.append_nil] at h
      exact nomatch hu.symm.trans h.unescaped
    | cons c v =>
      obtain ⟨hb, hp⟩ := hcut hu c rfl
      have hread := codePartFrom_append h.code
      have hcode := h.code
      have hescapes := h.unescaped
      rw [codePart, hread, hu, List.append_cancel_left_eq] at hcode
      rw [escapes_append, hu] at hescapes
      -- The brace takes the place of what is escaped, and the next character stays what it is.
      simp only [codePartFrom, hb, hp, ↓reduceIte, List.cons.injEq, true_and,
        decide_false, Bool.false_and, Bool.false_eq_true] at hcode
      simp only [escapes, List.foldl_cons, hb, decide_false, Bool.false_and] at hescapes
      constructor
      · rw [codePart, hread, hu]
        simp [codePartFrom, hb, hp, hcode]
      · rw [escapes_append, hu]
        simpa [escapes, hb] using hescapes

/-! ## Around the end of the document -/

variable {strict : Prop}

/-- Loose characters of the text change. In a strict reading there are no more closing braces
among them than before, if the text has no others. -/
structure Loosely (strict : Prop) (t u : Text) : Prop where
  bare_eq : bare u = bare t
  count_le : strict → bare t = [] → u.count '}' ≤ t.count '}'

namespace Loosely

theorem refl (t : Text) : Loosely strict t t :=
  ⟨rfl, fun _ _ => Nat.le_refl _⟩

theorem trans (h : Loosely strict a b) (h' : Loosely strict b u) : Loosely strict a u :=
  ⟨h'.bare_eq.trans h.bare_eq, fun hs hbare =>
    (h'.count_le hs (h.bare_eq.trans hbare)).trans (h.count_le hs hbare)⟩

theorem append (h : Loosely strict a u) (h' : Loosely strict b v) :
    Loosely strict (a ++ b) (u ++ v) where
  bare_eq := by rw [bare_append, bare_append, h.bare_eq, h'.bare_eq]
  count_le hs hbare := by
    rw [bare_append, List.append_eq_nil_iff] at hbare
    rw [List.count_append, List.count_append]
    exact Nat.add_le_add (h.count_le hs hbare.1) (h'.count_le hs hbare.2)

/-- Loose characters go. -/
theorem drop {s : Text} (hs : ∀ c ∈ s, isLoose c = true) (a b : Text) :
    Loosely strict (a ++ (s ++ b)) (a ++ b) :=
  ⟨(bare_append_loose hs a b).symm, fun _ _ =>
    ((List.sublist_append_right s b).append_left a).count_le _⟩

/-- A closing brace comes to stand in a text that has other characters. -/
theorem insert_closer (h : strict → bare (a ++ b) ≠ []) :
    Loosely strict (a ++ b) (a ++ '}' :: b) :=
  ⟨bare_append_cons (by decide) a b, fun hs hbare => absurd hbare (h hs)⟩

end Loosely

/-- The line keeps its end of the document, and the text around it but for loose characters. -/
def KeepsEnd (strict : Prop) (a b u : Text) : Prop :=
  ∃ a' b', EndsAround u a' b' ∧ bare (a' ++ b') = bare (a ++ b) ∧ Loosely strict b b'

/-- The line keeps its end of the document where a closing brace is put in around it. -/
theorem keepsEnd_insert (ha : Clean a) (hb : ¬Mentions (a ++ b))
    (hplace : i ≤ a.length ∨ a.length + terminator.length ≤ i ∧ (strict → bare b ≠ []))
    (hcut : escapes false (a.take i) = true → ∀ c ∈ (a.drop i).head?, c ≠ '\\' ∧ c ≠ '%') :
    KeepsEnd strict a b ((Edit.insert i ['}']).apply (a ++ (terminator ++ b))) := by
  rw [Edit.apply_insert]
  rcases hplace with hi | ⟨hi, hrest⟩
  · have hbare : bare (a.take i ++ '}' :: a.drop i ++ b) = bare (a ++ b) := by
      rw [List.append_assoc, List.cons_append, bare_append_cons (by decide), ← List.append_assoc,
        List.take_append_drop]
    refine ⟨a.take i ++ '}' :: a.drop i, b, ⟨?_, ?_, ?_⟩, hbare, .refl b⟩
    · rw [List.take_append_of_le_length hi, List.drop_append_of_le_length hi]
      simp
    · exact Clean.insert_closer (by rwa [List.take_append_drop]) hcut
    · exact (not_mentions_congr hbare).2 hb
  · obtain ⟨j, rfl⟩ := Nat.exists_eq_add_of_le hi
    have hloosely : Loosely strict b (b.take j ++ '}' :: b.drop j) := by
      have hinsert := Loosely.insert_closer (a := b.take j) (b := b.drop j)
        (by rwa [List.take_append_drop])
      rwa [List.take_append_drop] at hinsert
    have hbare : bare (a ++ (b.take j ++ '}' :: b.drop j)) = bare (a ++ b) := by
      rw [bare_append, hloosely.bare_eq, bare_append]
    refine ⟨a, b.take j ++ '}' :: b.drop j, ⟨?_, ha, (not_mentions_congr hbare).2 hb⟩, hbare,
      hloosely⟩
    rw [← List.append_assoc a terminator b, ← List.length_append, List.take_length_add_append,
      List.drop_length_add_append]
    simp

/-- The line keeps its end of the document where a closing brace is taken out around it. -/
theorem keepsEnd_delete (ha : Clean a) (hb : ¬Mentions (a ++ b))
    (heq : a ++ (terminator ++ b) = u ++ '}' :: v) (hu : escapes false u = false)
    (hplace : u.length < a.length ∨ a.length + terminator.length ≤ u.length) :
    KeepsEnd strict a b (u ++ v) := by
  rcases hplace with hlt | hle
  · rcases List.append_eq_append_iff.1 heq with ⟨w, rfl, -⟩ | ⟨w, rfl, hv⟩
    · rw [List.length_append] at hlt
      omega
    · cases w with
      | nil => simp at hlt
      | cons c w =>
        obtain ⟨rfl, rfl⟩ := List.cons.inj hv
        have hclean := ha.of_append hu
        have hw := clean_closer.append_iff.1 (hclean.append_iff.1 ha)
        have hbare : bare (u ++ w ++ b) = bare (u ++ '}' :: w ++ b) := by
          rw [List.append_assoc, List.append_assoc, List.cons_append, bare_append_cons (by decide)]
        exact ⟨u ++ w, b, ⟨(List.append_assoc ..).symm, hclean.append_iff.2 hw,
          (not_mentions_congr hbare).2 hb⟩, hbare, .refl b⟩
  · rw [← List.append_assoc] at heq
    rcases List.append_eq_append_iff.1 heq with ⟨w, rfl, rfl⟩ | ⟨w, hw, hv⟩
    · have hloosely : Loosely strict (w ++ '}' :: v) (w ++ v) :=
        .drop (s := ['}']) (List.forall_mem_singleton.2 rfl) w v
      have hbare : bare (a ++ (w ++ v)) = bare (a ++ (w ++ '}' :: v)) := by
        rw [bare_append a, hloosely.bare_eq, bare_append a]
      exact ⟨a, w ++ v, ⟨by simp, ha, (not_mentions_congr hbare).2 hb⟩, hbare, hloosely⟩
    · have hlength := congrArg List.length hw
      simp only [List.length_append] at hlength
      obtain rfl : w = [] := List.eq_nil_of_length_eq_zero (by omega)
      obtain rfl := hv
      rw [List.append_nil] at hw
      obtain rfl := hw
      have hloosely : Loosely strict ('}' :: v) v :=
        .drop (s := ['}']) (List.forall_mem_singleton.2 rfl) [] v
      have hbare : bare (a ++ v) = bare (a ++ '}' :: v) := by
        rw [bare_append, hloosely.bare_eq, bare_append]
      exact ⟨a, v, ⟨by simp, ha, (not_mentions_congr hbare).2 hb⟩, hbare, hloosely⟩

/-! ## Tokens -/

/-- The tokens of an end of the document. -/
def endTokens (n : Nat) : List PlacedToken :=
  [⟨.command "end".toList, n, n + 4⟩, ⟨.openBrace, n + 4, n + 5⟩, ⟨.closeBrace, n + 13, n + 14⟩]

theorem skeletonFrom_terminator (n : Nat) (t : Text) :
    skeletonFrom n (terminator ++ t) = endTokens n ++ skeletonFrom (n + 14) t := by
  have hstem : skeletonFrom n "\\end\x7bdocument".toList =
      [⟨.command "end".toList, n, n + 4⟩, ⟨.openBrace, n + 4, n + 5⟩] := by
    simp [skeletonFrom, isCommandChar]
  have hcut := skeletonFrom_append (t := "\\end\x7bdocument".toList) (r := '}' :: t) (by decide)
    (fun c hc => by obtain rfl := Option.some.inj hc; decide) n
  rw [hstem, skeletonFrom] at hcut
  exact hcut

/-- The tokens of the code of a line that ends the document. -/
theorem skeleton_endLine (ha : Clean a) (t : Text) :
    skeleton (a ++ (terminator ++ t)) =
      skeleton a ++ (endTokens a.length ++ skeletonFrom (a.length + 14) t) := by
  rw [skeleton, skeletonFrom_append ha.unescaped
    (fun c hc => by obtain rfl := Option.some.inj hc; decide), Nat.zero_add,
    skeletonFrom_terminator]
  rfl

/-- Every `\end` among the tokens has its group, without markup in it. -/
def EndsClosed (tokens : List PlacedToken) : Prop :=
  ∀ j < tokens.length, tokens[j]?.map (·.token) = some (.command "end".toList) →
    tokens[j + 1]?.map (·.token) = some .openBrace ∧
      tokens[j + 2]?.map (·.token) = some .closeBrace

instance (tokens : List PlacedToken) : Decidable (EndsClosed tokens) :=
  inferInstanceAs (Decidable (∀ j < tokens.length, _))

/-! ## Beside a line with an end of the document -/

open LineRepair

/-- The tokens of an end of the document among those of its line. -/
theorem getElem?_endLine (ha : Clean a) (t : Text) :
    let tokens := skeleton (a ++ (terminator ++ t))
    let j := (skeleton a).length
    tokens[j]? = some ⟨.command "end".toList, a.length, a.length + 4⟩ ∧
      tokens[j + 1]? = some ⟨.openBrace, a.length + 4, a.length + 5⟩ ∧
        tokens[j + 2]? = some ⟨.closeBrace, a.length + 13, a.length + 14⟩ := by
  dsimp only
  rw [skeleton_endLine ha]
  simp [endTokens]

/-- Where every `\end` of the counterpart has its group, the first token that it does not share
is not the group of the end of the document. -/
theorem commonLength_endLine (ha : Clean a) {t : Text} {gs : List PlacedToken}
    (hclosed : EndsClosed gs)
    (hclose :
      gs[commonLength (skeleton (a ++ (terminator ++ t))) gs]?.map (·.token) = some .closeBrace ∨
      (skeleton (a ++ (terminator ++ t)))[commonLength (skeleton (a ++ (terminator ++ t))) gs]?.map
        (·.token) = some .closeBrace) :
    commonLength (skeleton (a ++ (terminator ++ t))) gs ≤ (skeleton a).length ∨
      (skeleton a).length + 3 ≤ commonLength (skeleton (a ++ (terminator ++ t))) gs := by
  obtain ⟨hend, hopen, hclosing⟩ := getElem?_endLine ha t
  generalize skeleton (a ++ (terminator ++ t)) = ts at *
  generalize (skeleton a).length = j at *
  by_contra hmid
  have hlt : j < commonLength ts gs := by omega
  have hshared := token_eq_of_lt_commonLength hlt
  rw [hend, Option.map_some] at hshared
  have hj : j < gs.length := by
    by_contra hj
    rw [List.getElem?_eq_none (Nat.le_of_not_lt hj)] at hshared
    cases hshared
  obtain ⟨hgopen, hgclose⟩ := hclosed j hj hshared.symm
  rcases (by omega : commonLength ts gs = j + 1 ∨ commonLength ts gs = j + 2) with hk | hk
  · rw [hk, hgopen, hopen] at hclose
    rcases hclose with hclose | hclose <;> cases hclose
  · have hcloser : ts[commonLength ts gs]?.map (·.token) = some .closeBrace := by
      rw [hk, hclosing]
      rfl
    exact token_ne_at_commonLength hcloser (by rw [hk, hgclose])

/-- The code ends in two closing braces, white space and other text apart. -/
def EndsInClosers (code : Text) : Prop :=
  [.closeBrace, .closeBrace] <:+ markup code

instance (code : Text) : Decidable (EndsInClosers code) :=
  inferInstanceAs (Decidable (_ <:+ _))

/-- Code without other than loose characters has closing braces at most. -/
theorem eq_closer_of_mem_markup {code : Text} (h : bare code = []) {x : MarkupToken}
    (hx : x ∈ markup code) : x = .closeBrace := by
  obtain ⟨y, hy, rfl⟩ := List.mem_map.1 hx
  obtain ⟨u, v, rfl, -⟩ := spelledIn_of_mem_skeletonFrom hy
  have hloose : ∀ c ∈ y.token.text, isLoose c = true := fun c hc => by
    have hmem := List.filter_eq_nil_iff.1 h c
      (List.mem_append_right u (List.mem_append_left v hc))
    simpa using hmem
  cases htoken : y.token with
  | closeBrace => rfl
  | _ =>
    rw [htoken] at hloose
    exact absurd (hloose _ (List.mem_cons_self ..)) (by decide)

/-- Among closing braces at the end one more is the second one at least. -/
theorem closers_suffix {before rest : List MarkupToken} {k : Nat} (hk : before.length + 1 ≤ k)
    (hrest : ∀ x ∈ rest, x = .closeBrace) :
    [.closeBrace, .closeBrace] <:+ (before ++ .closeBrace :: rest).take k ++
      .closeBrace :: (before ++ .closeBrace :: rest).drop k := by
  obtain ⟨j, rfl⟩ := Nat.exists_eq_add_of_le hk
  have hall : .closeBrace :: (rest.take j ++ .closeBrace :: rest.drop j) =
      List.replicate (rest.length + 2) MarkupToken.closeBrace := by
    refine List.eq_replicate_iff.2 ⟨?_, ?_⟩
    · rw [List.length_cons, List.length_append, List.length_cons, ← Nat.add_assoc,
        ← List.length_append, List.take_append_drop]
    · simp only [List.mem_cons, List.mem_append]
      rintro x (rfl | hx | rfl | hx)
      · rfl
      · exact hrest x (List.mem_of_mem_take hx)
      · rfl
      · exact hrest x (List.mem_of_mem_drop hx)
  rw [Nat.add_assoc, List.take_length_add_append, List.drop_length_add_append, Nat.add_comm 1 j,
    List.take_succ_cons, List.drop_succ_cons, List.append_assoc, List.cons_append, hall,
    ← List.replicate_append_replicate, ← List.append_assoc]
  exact List.suffix_append _ _

/-- If no other text stands behind the end of the document, a brace that is missing there would be
the second one at the end of the counterpart. -/
theorem endsInClosers_of_sameShape {code : Text} {closer : PlacedToken} {k : Nat} (ha : Clean a)
    (hbare : bare code = []) (hk : (skeleton a).length + 3 ≤ k)
    (htake : ((skeleton (a ++ (terminator ++ code))).take k).map (·.token) =
      ((skeleton g).take k).map (·.token))
    (hcloser : (skeleton g)[k]? = some closer) (hclose : closer.token = .closeBrace)
    (hshape : sameShape ((skeleton (a ++ (terminator ++ code))).drop k)
      ((skeleton g).drop (k + 1)) = true) :
    EndsInClosers g := by
  let before : List MarkupToken := markup a ++ [.command "end".toList, .openBrace]
  have hmarkup : (skeleton (a ++ (terminator ++ code))).map (·.token) =
      before ++ .closeBrace :: markup code := by
    rw [skeleton_endLine ha, List.map_append, List.map_append, token_skeletonFrom]
    simp [before, endTokens, markup]
  have hbefore : before.length = (skeleton a).length + 2 := by simp [before, markup]
  have hlength : before.length + 1 ≤ k := by omega
  have haround := map_token_around hcloser
  rw [hclose, ← htake, ← sameShape_iff.1 hshape, List.map_take, List.map_drop, hmarkup] at haround
  rw [EndsInClosers, markup, ← haround]
  exact closers_suffix hlength fun x hx => eq_closer_of_mem_markup hbare hx

/-- To balance braces leaves the end of the document alone. -/
theorem keepsEnd_rebalance? (ha : Clean a) (hb : ¬Mentions (a ++ b))
    (hclosed : EndsClosed (skeleton (codePart g))) (hstrict : strict → ¬EndsInClosers (codePart g))
    (h : LineRepair.rebalance? (a ++ (terminator ++ b)) g = some (e, f)) :
    KeepsEnd strict a b (e.apply (a ++ (terminator ++ b))) := by
  have hcode := codePart_endLine ha b
  have hplaces := places_of_rebalance? h
  dsimp only at hplaces
  rw [hcode] at hplaces
  obtain ⟨hend, -, hclosing⟩ := getElem?_endLine ha (codePart b)
  have hcommon := commonLength_endLine ha (t := codePart b) hclosed
  have hle := commonLength_le (skeleton (a ++ (terminator ++ codePart b))) (skeleton (codePart g))
  have htake := take_commonLength (skeleton (a ++ (terminator ++ codePart b)))
    (skeleton (codePart g))
  generalize commonLength (skeleton (a ++ (terminator ++ codePart b))) (skeleton (codePart g)) = k
    at hplaces hcommon hle htake
  rcases hplaces with ⟨closer, i, hcloser, hclose, hplace, rfl, -, hshape⟩ |
    ⟨x, hx, hclose, rfl, -⟩
  · obtain ⟨hstart, hstop, -⟩ := of_bracePlace? hle hplace
    have hnext := next_of_bracePlace? hle (List.mem_of_getElem? hcloser) hclose hplace
    have hside := hcommon (.inl (by rw [hcloser, Option.map_some, hclose]))
    refine keepsEnd_insert ha hb ?_ fun hescapes c hc => ?_
    · rcases hside with hk | hk
      · exact .inl (hstop.trans (gapStop_le_start hk hend))
      · refine .inr ⟨(stop_le_gapStart hle (by omega) hclosing).trans hstart, fun hs hbare => ?_⟩
        have hcodeb : bare (codePart b) = [] := by
          rw [← codePart_append_comment b, bare_append, List.append_eq_nil_iff] at hbare
          exact hbare.1
        exact hstrict hs (endsInClosers_of_sameShape ha hcodeb hk htake hcloser hclose hshape)
    · have hi : i ≤ a.length := by
        by_contra hlt
        rw [List.take_of_length_le (by omega), ha.unescaped] at hescapes
        cases hescapes
      rw [List.take_append_of_le_length hi, List.drop_append_of_le_length hi] at hnext
      exact hnext hescapes c (by rw [List.head?_append, hc]; rfl)
  · have hside := hcommon (.inr (by rw [hx, Option.map_some, hclose]))
    have hplace : x.start < a.length ∨ a.length + terminator.length ≤ x.start := by
      rcases hside with hk | hk
      · rcases Nat.lt_or_eq_of_le hk with hlt | rfl
        · have hstop : x.stop ≤ a.length := stop_le_start hlt hx hend
          have hstart := (bounds_of_mem_skeletonFrom (List.mem_of_getElem? hx)).2.1
          exact .inl (hstart.trans_le hstop)
        · obtain rfl := Option.some.inj (hx.symm.trans hend)
          cases hclose
      · exact .inr (stop_le_start (by omega) hclosing hx)
    obtain ⟨u, v, huv, hu, hxstart, hxstop⟩ :=
      isCloserOf_of_mem_skeletonFrom (List.mem_of_getElem? hx) hclose
    rw [Nat.zero_add] at hxstart hxstop
    have hline : a ++ (terminator ++ b) = u ++ '}' :: (v ++ commentPart b) := by
      rw [← List.cons_append, ← List.append_assoc u, ← huv]
      conv => lhs; rw [← codePart_append_comment b]
      simp
    have hedit : (Edit.delete x.start x.stop).apply (a ++ (terminator ++ b)) =
        u ++ (v ++ commentPart b) := by
      rw [Edit.apply_delete, hline, hxstart, hxstop]
      simp
    rw [hedit]
    exact keepsEnd_delete ha hb hline hu (hxstart ▸ hplace)

theorem IsEndLine.contains_codePart (h : IsEndLine line) :
    Text.contains terminator (codePart line) = true := by
  obtain ⟨a, b, rfl, ha, -⟩ := h
  exact Text.contains_iff.2 ⟨a, codePart b, codePart_endLine ha b⟩

/-- To uncomment a marker leaves the code before the comment alone. -/
theorem keepsEnd_uncomment {hidden : HiddenMarker} (ha : Clean a) (hb : ¬Mentions (a ++ b))
    (h : hiddenMarker? (a ++ (terminator ++ b)) = some hidden) :
    KeepsEnd strict a b
      ((Edit.delete hidden.start hidden.stop).apply (a ++ (terminator ++ b))) := by
  obtain ⟨run, r, hrun, hpercent, hstart, hstop⟩ := exists_around_hiddenMarker h
  rw [hstart, hstop, codePart_endLine ha]
  rw [codePart_endLine ha] at hrun
  have hsplit : b = codePart b ++ (run ++ r) := by
    rw [List.append_assoc, List.append_assoc] at hrun
    exact List.append_cancel_left (List.append_cancel_left hrun)
  rw [hrun, apply_delete_append]
  have hloosely : Loosely strict (codePart b ++ (run ++ r)) (codePart b ++ r) :=
    .drop (isLoose_of_percentRun? hpercent) _ _
  rw [← hsplit] at hloosely
  have hbare : bare (a ++ (codePart b ++ r)) = bare (a ++ b) := by
    rw [bare_append a, hloosely.bare_eq, bare_append a]
  exact ⟨a, codePart b ++ r, ⟨by simp, ha, (not_mentions_congr hbare).2 hb⟩, hbare, hloosely⟩

theorem loosely_uncomment {hidden : HiddenMarker} (h : hiddenMarker? line = some hidden) :
    Loosely strict line ((Edit.delete hidden.start hidden.stop).apply line) := by
  obtain ⟨run, r, hline, hpercent, hstart, hstop⟩ := exists_around_hiddenMarker h
  have hloosely : Loosely strict _ _ := .drop (isLoose_of_percentRun? hpercent) (codePart line) r
  rw [hstart, hstop]
  clear h hstart hstop
  generalize codePart line = code at *
  subst hline
  rwa [apply_delete_append]

/-- A line with an end of the document in its code is no comment. -/
theorem isCommentLine_eq_false_of_contains (h : Text.contains terminator (codePart line) = true) :
    isCommentLine line = false := by
  obtain ⟨a, b, hab⟩ := Text.contains_iff.1 h
  refine isCommentLine_of_mem ?_
  rw [hab]
  exact List.mem_append_right _ (List.mem_append_left _ (by decide))

/-- Beside a line with an end of the document a line keeps its own. -/
theorem keepsEnd_rule? (ha : Clean a) (hb : ¬Mentions (a ++ b))
    (hg : Text.contains terminator (codePart g) = true)
    (hclosed : EndsClosed (skeleton (codePart g))) (hstrict : strict → ¬EndsInClosers (codePart g))
    (h : LineRepair.rule? (a ++ (terminator ++ b)) g = some (e, f)) :
    KeepsEnd strict a b (e.apply (a ++ (terminator ++ b))) := by
  rcases of_rule? h with h | h | h | h | h
  · obtain ⟨hnone, -⟩ := of_removeTerminator? h
    rw [hg] at hnone
    cases hnone
  · obtain ⟨hidden, hh, -, rfl, -⟩ := of_uncommentMarker? h
    exact keepsEnd_uncomment ha hb hh
  · obtain ⟨-, hcomment, -⟩ := of_uncommentCommand? h
    have hline : IsEndLine (a ++ (terminator ++ b)) := ⟨a, b, rfl, ha, hb⟩
    rw [isCommentLine_eq_false_of_contains hline.contains_codePart] at hcomment
    cases hcomment
  · obtain ⟨hcomment, -⟩ := of_restoreComment? h
    rw [isCommentLine_eq_false_of_contains hg] at hcomment
    cases hcomment
  · exact keepsEnd_rebalance? ha hb hclosed hstrict h

theorem KeepsEnd.trans {a' b' : Text} (hbare : bare (a' ++ b') = bare (a ++ b))
    (hb : Loosely strict b b') (h : KeepsEnd strict a' b' u) : KeepsEnd strict a b u := by
  obtain ⟨a'', b'', hu, hbare', hb'⟩ := h
  exact ⟨a'', b'', hu, hbare'.trans hbare, hb.trans hb'⟩

theorem keepsEnd_rounds (ha : Clean a) (hb : ¬Mentions (a ++ b))
    (hg : Text.contains terminator (codePart g) = true)
    (hclosed : EndsClosed (skeleton (codePart g))) (hstrict : strict → ¬EndsInClosers (codePart g))
    (n : Nat) : KeepsEnd strict a b (LineRepair.rounds n (a ++ (terminator ++ b)) g).1 := by
  have hrefl : KeepsEnd strict a b (a ++ (terminator ++ b)) :=
    ⟨a, b, ⟨rfl, ha, hb⟩, rfl, .refl b⟩
  induction n generalizing a b with
  | zero => exact hrefl
  | succ n ih =>
    rw [LineRepair.rounds]
    split
    · exact hrefl
    · rename_i u fix hstep
      obtain ⟨-, e, hrule, rfl⟩ := step?_eq_some hstep
      obtain ⟨a', b', ⟨heq, ha', hb'⟩, hbare, hloosely⟩ :=
        keepsEnd_rule? ha hb hg hclosed hstrict hrule
      rw [heq]
      exact .trans hbare hloosely (ih ha' hb' ⟨a', b', ⟨rfl, ha', hb'⟩, rfl, .refl b'⟩)

/-- So it does in a repair of the line. -/
theorem keepsEnd_lineStep (ha : Clean a) (hb : ¬Mentions (a ++ b))
    (hg : Text.contains terminator (codePart g) = true)
    (hclosed : EndsClosed (skeleton (codePart g)))
    (hstrict : strict → ¬EndsInClosers (codePart g)) :
    KeepsEnd strict a b (lineStep g (a ++ (terminator ++ b))) :=
  keepsEnd_rounds ha hb hg hclosed hstrict maxRounds

/-! ## Lines without an end of the document -/

variable {guide : Text}

theorem not_mentions_lineStep (hg : g ∈ Text.lines guide) (h : ¬Mentions line) :
    ¬Mentions (lineStep g line) :=
  (lineEdits_repairLine hg line).not_mentions h

/-- No rule puts a closing brace into a line that has no other text. -/
theorem count_apply_rule?_le (hline : bare line = [])
    (h : LineRepair.rule? line g = some (e, f)) : (e.apply line).count '}' ≤ line.count '}' := by
  have hloose : ∀ c ∈ line, isLoose c = true := fun c hc => by
    simpa using List.filter_eq_nil_iff.1 hline c hc
  have hdelete : ∀ {x y z : Text}, line = x ++ (y ++ z) → (x ++ z).count '}' ≤ line.count '}' :=
    fun heq => heq ▸ ((List.sublist_append_right _ _).append_left _).count_le _
  rcases of_rule? h with h | h | h | h | h
  · obtain ⟨x, y, r, heq, -, -⟩ := exists_around_terminator h
    exact absurd (hloose '\\' (heq ▸ List.mem_append_right x (List.mem_append_left _ (by decide))))
      (by decide)
  · obtain ⟨hidden, hh, -, rfl, -⟩ := of_uncommentMarker? h
    obtain ⟨run, r, heq, -, hstart, hstop⟩ := exists_around_hiddenMarker hh
    have hcount := hdelete heq
    rw [hstart, hstop]
    generalize codePart line = code at heq hcount
    rwa [heq, apply_delete_append, ← heq]
  · obtain ⟨-, -, name, intro, -, hintro, -, rfl, -⟩ := of_uncommentCommand? h
    obtain ⟨run, hrun, rfl⟩ := Option.map_eq_some_iff.1 hintro
    obtain ⟨r, hr, -⟩ := percentRun?_append hrun
    have heq : line = indentation line ++ (run ++ r) := by rw [← hr, indentation_append_trimStart]
    have hcount := hdelete heq
    rw [List.length_append]
    generalize indentation line = indent at heq hcount
    rwa [heq, apply_delete_append, ← heq]
  · obtain ⟨-, -, -, intro, hintro, -, rfl, -⟩ := of_restoreComment? h
    have hnone : intro.count '}' = 0 := List.count_eq_zero.2 fun hmem => by
      rcases mem_of_commentIntro? hintro _ hmem with h | h
      · cases h
      · exact absurd h (by decide)
    rw [Edit.apply, List.take_zero, List.nil_append, List.count_append, hnone, Nat.zero_add]
    exact (List.drop_sublist _ _).count_le _
  · obtain ⟨hcatalogued, ⟨-, closer, i, hcloser, hclose, -, -, -, hshape⟩ |
      ⟨-, x, hx, hclose, rfl, -⟩⟩ := exists_of_rebalance? h
    · -- The counterpart has closing braces only, and no catalogued command.
      exfalso
      have hcode : bare (codePart line) = [] := bare_eq_nil fun c hc =>
        hloose c ((codePartFrom_isPrefix false line).subset hc)
      have haround := map_token_around hcloser
      rw [hclose, ← take_commonLength, ← sameShape_iff.1 hshape, List.map_take, List.map_drop]
        at haround
      obtain ⟨y, hy, hcat⟩ := List.any_eq_true.1 hcatalogued
      have hmem := List.mem_map_of_mem (f := (·.token)) hy
      rw [← haround, List.mem_append, List.mem_cons] at hmem
      have hcloser : y.token = .closeBrace := by
        rcases hmem with hmem | hmem | hmem
        · exact eq_closer_of_mem_markup hcode (List.mem_of_mem_take hmem)
        · exact hmem
        · exact eq_closer_of_mem_markup hcode (List.mem_of_mem_drop hmem)
      rw [isCatalogued, hcloser] at hcat
      cases hcat
    · obtain ⟨a, b, r, heq, -, -, -, -, hedit⟩ :=
        exists_code_around_closer (List.mem_of_getElem? hx) hclose
      rw [hedit]
      exact hdelete (y := ['}']) heq

theorem loosely_rounds (hg : g ∈ Text.lines guide) (h : ¬Mentions line) (n : Nat) :
    Loosely strict line (LineRepair.rounds n line g).1 := by
  induction n generalizing line with
  | zero => exact .refl line
  | succ n ih =>
    rw [LineRepair.rounds]
    split
    · exact .refl line
    · rename_i u fix hstep
      obtain ⟨-, e, hrule, rfl⟩ := step?_eq_some hstep
      have hedits := lineEdits_of_rule? hg hrule
      exact .trans ⟨hedits.bare_eq h, fun _ hbare => count_apply_rule?_le hbare hrule⟩
        (ih (hedits.not_mentions h))

theorem mentions_of_contains (h : Text.contains terminator (codePart line) = true) :
    Mentions line := by
  obtain ⟨a, b, hab⟩ := Text.contains_iff.1 h
  have hmentions := mentions_terminator a (b ++ commentPart line)
  rw [← codePart_append_comment line, hab]
  simpa using hmentions

/-- The first rule takes the end of the document out of the line. -/
theorem step?_endLine (ha : Clean a) (hb : ¬Mentions (a ++ b))
    (hg : Text.contains terminator (codePart g) = false) :
    step? (a ++ (terminator ++ b)) g = some (a ++ b, .removedTerminator) := by
  obtain ⟨i, hi⟩ := Option.isSome_iff_exists.1
    (IsEndLine.contains_codePart ⟨a, b, rfl, ha, hb⟩)
  have hrule : removeTerminator? (a ++ (terminator ++ b)) g =
      some (.delete i (i + terminator.length), .removedTerminator) := by
    rw [removeTerminator?, hg, hi]
    rfl
  obtain ⟨x, y, r, hline, -, he⟩ := exists_around_terminator hrule
  obtain ⟨rfl, rfl⟩ := eq_of_append_terminator hb hline.symm
  have hne : x ++ (y ++ r) ≠ x ++ (terminator ++ (y ++ r)) := fun h =>
    hb (h ▸ mentions_terminator x (y ++ r))
  rw [step?, rule?, hrule, he]
  show (if _ then none else some _) = _
  rw [apply_delete_append, if_neg hne]

/-- Beside a line without an end of the document a line loses its own. -/
theorem loosely_lineStep_of_endsAround (ha : Clean a) (hb : ¬Mentions (a ++ b))
    (hg : g ∈ Text.lines guide) (hnone : Text.contains terminator (codePart g) = false) :
    Loosely strict (a ++ b) (lineStep g (a ++ (terminator ++ b))) := by
  rw [lineStep, repairLine, maxRounds, LineRepair.rounds, step?_endLine ha hb hnone]
  exact loosely_rounds hg hb _

end LatexRepair
