import LatexRepair.Proofs.EndCount
import LatexRepair.Proofs.EnvironmentWord
import Mathlib.Data.List.Count
import Mathlib.Data.List.DropRight
import Mathlib.Data.List.Sort

/-!
# Ends that come back

Where a rendition ends the document with environments left open, `restoreEnds` puts their ends
in before the end of the document : as many of each name as are open
(`StructureRepair.LeavesEnds.perm_missingEnds`), in the order in which the guide first has
them (`StructureRepair.pairwise_missingEnds`). The rendition needs them innermost first
(`StructureRepair.LeavesEnds.wellNested_iff`). So the repair makes it well nested exactly if
the two orders agree, and each end can be put in
(`StructureRepair.wellNested_restoreEnds_iff`).
-/

namespace LatexRepair

variable {w : List Marker} {K K' : List Text} {name : Text}

/-! ## Words of ends -/

/-- The ends of environments with the given names. -/
def closings (names : List Text) : List Marker :=
  names.map (⟨.closing, ·⟩)

/-- A word of ends is read where its names are the innermost ones. -/
theorem nest_closings {names : List Text} :
    nest K (closings names) = some K' ↔ K = names ++ K' := by
  induction names generalizing K with
  | nil => exact Option.some_inj
  | cons name names ih =>
    rw [closings, List.map_cons, ← closings, nest_closing_cons]
    simp [ih]

/-- What is no longer open has its end in the word. -/
theorem mem_or_mem_of_nest (h : nest K w = some K') (hname : name ∈ K) :
    name ∈ K' ∨ ⟨.closing, name⟩ ∈ w := by
  induction w generalizing K with
  | nil =>
    obtain rfl := Option.some.inj h
    exact .inl hname
  | cons m w ih =>
    obtain ⟨kind, name₁⟩ := m
    cases kind with
    | opening =>
      rw [nest_opening_cons] at h
      exact (ih h (List.mem_cons_of_mem _ hname)).imp_right (List.mem_cons_of_mem _)
    | closing =>
      obtain ⟨K₁, rfl, h'⟩ := nest_closing_cons.1 h
      rcases List.mem_cons.1 hname with rfl | hname
      · exact .inr List.mem_cons_self
      · exact (ih h' hname).imp_right (List.mem_cons_of_mem _)

/-- An environment is opened as often as it is closed, and then as often as it stays open. -/
theorem count_of_nest (h : nest K w = some K') (name : Text) :
    K.count name + w.count ⟨.opening, name⟩ = w.count ⟨.closing, name⟩ + K'.count name := by
  induction w generalizing K with
  | nil =>
    obtain rfl := Option.some.inj h
    simp
  | cons m w ih =>
    obtain ⟨kind, name₁⟩ := m
    cases kind with
    | opening =>
      rw [nest_opening_cons] at h
      have hrest := ih h
      simp only [List.count_cons, beq_iff_eq, Marker.mk.injEq, reduceCtorEq, true_and, false_and,
        ↓reduceIte] at hrest ⊢
      omega
    | closing =>
      obtain ⟨K₁, rfl, h'⟩ := nest_closing_cons.1 h
      have hrest := ih h'
      simp only [List.count_cons, beq_iff_eq, Marker.mk.injEq, reduceCtorEq, true_and, false_and,
        ↓reduceIte] at hrest ⊢
      omega

theorem WellNested.count_eq (h : WellNested w) (name : Text) :
    w.count ⟨.opening, name⟩ = w.count ⟨.closing, name⟩ := by
  simpa using count_of_nest (h.nest_eq []) name

/-! ## Lines with ends -/

namespace Text

theorem trim_trim (t : Text) : trim (trim t) = trim t := by
  have hstart : trimStart (trim t) = trim t := by
    obtain ⟨s, hs, -⟩ := exists_trimEnd (trimStart t)
    rw [← trim] at hs
    have hhead := List.head?_dropWhile_not isBlank t
    rw [← trimStartBy, ← trimStart, hs] at hhead
    cases htrim : trim t with
    | nil => rfl
    | cons c u =>
      rw [htrim] at hhead
      exact List.dropWhile_cons_of_neg (by simpa using hhead)
  rw [trim, hstart, trim, trimEnd, trimEnd, trimEndBy, trimEndBy, List.reverse_reverse,
    List.dropWhile_idempotent]

end Text

/-- The live markers of lines, in reading order. -/
def liveWord (ls : List Text) : List Marker :=
  ls.flatMap fun line => (liveMarkers line).map (·.marker)

theorem liveWord_append (ls ms : List Text) : liveWord (ls ++ ms) = liveWord ls ++ liveWord ms :=
  List.flatMap_append

theorem liveWord_cons (line : Text) (ls : List Text) :
    liveWord (line :: ls) = (liveMarkers line).map (·.marker) ++ liveWord ls :=
  List.flatMap_cons

theorem Occurrences.liveCount_eq_count (m : Marker) (ls : List Text) :
    liveCount m (Occurrence.ofLines ls) = (liveWord ls).count m := by
  rw [liveCount_ofLines, liveWord, ← List.map_flatMap, List.count, List.countP_map]
  exact List.countP_congr fun x _ => by simp

theorem Occurrences.mem_distinctMarkers {m : Marker} {ls : List Text} (h : m ∈ liveWord ls) :
    m ∈ distinctMarkers (Occurrence.ofLines ls) := by
  have hpos := List.count_pos_iff.2 h
  rw [← liveCount_eq_count] at hpos
  obtain ⟨x, hx⟩ := List.exists_mem_of_length_pos hpos
  obtain ⟨hmem, hm⟩ := List.mem_filter.1 (List.mem_filter.1 hx).1
  exact List.mem_eraseDups.2 (List.mem_map.2 ⟨x, hmem, of_decide_eq_true hm⟩)

/-- A marker that is written out is read again, but one without a name is not. -/
theorem liveMarkers_text {line : Text} {x : PlacedMarker} (h : x ∈ markers line) :
    (liveMarkers x.marker.text).map (·.marker) = if x.marker.name = [] then [] else [x.marker] := by
  obtain ⟨a, s, b, -, hs, -⟩ := exists_spelling_of_mem_markers h
  rw [← hs]
  by_cases hname : s.marker.name = []
  · have hnone : ∀ kind, (liveMarkers (Marker.text ⟨kind, []⟩)) = [] := fun kind => by
      cases kind <;> decide +kernel
    have hmarker : s.marker = ⟨s.kind, []⟩ := congrArg (Marker.mk s.kind) hname
    rw [if_pos hname, hmarker, hnone]
    rfl
  · obtain ⟨u, v, huv, -⟩ := Text.exists_trim s.name
    have hchar : ∀ c ∈ s.marker.name, Marker.isNameChar c = true := fun c hc => by
      refine s.nameChar c ?_
      rw [huv]
      exact List.mem_append_right _ (List.mem_append_left _ hc)
    let s' : Marker.Spelling := ⟨s.kind, [], s.marker.name, by simp, hchar, hname⟩
    have hmarker : s'.marker = s.marker := congrArg (Marker.mk s.kind) (Text.trim_trim s.name)
    have hcode : codePart s'.text = s'.text := by
      rcases eq_codePartFrom_append false s'.text with h | ⟨r, h⟩
      · exact h
      · exact absurd (h ▸ (by simp : '%' ∈ _ ++ '%' :: r)) s'.percent_not_mem_text
    have hread := markersFrom_spelling 0 s' []
    rw [List.append_nil] at hread
    rw [if_neg hname, show s.marker.text = s'.text from rfl, liveMarkers_eq, hcode, markers, hread,
      markersFrom, ← hmarker]
    rfl

theorem liveWord_map_text {ms : List Marker}
    (h : ∀ m ∈ ms, ∃ line, ∃ x ∈ markers line, x.marker = m) :
    liveWord (ms.map (·.text)) = ms.filter (·.name ≠ []) := by
  induction ms with
  | nil => rfl
  | cons m ms ih =>
    obtain ⟨⟨line, x, hx, rfl⟩, hms⟩ := List.forall_mem_cons.1 h
    rw [List.map_cons, liveWord_cons, ih hms, liveMarkers_text hx]
    by_cases hname : x.marker.name = [] <;> simp [hname]

theorem closings_map_name {ms : List Marker} (h : ∀ m ∈ ms, m.kind = .closing) :
    closings (ms.map (·.name)) = ms := by
  rw [closings, List.map_map]
  refine (List.map_congr_left fun m hm => ?_).trans (List.map_id ms)
  rw [Function.comp_apply, ← h m hm]
  rfl

namespace StructureRepair

/-- The guide `gs` is well nested, and the rendition opens each environment as often. It ends the
document once, with `line`, and leaves the environments `es` in it open there, outermost
first. -/
structure LeavesEnds (gs before : List Text) (line : Text) (behind es : List Text) : Prop where
  guide : WellNested (liveWord gs)
  openings : ∀ name, (liveWord (before ++ line :: behind)).count ⟨.opening, name⟩ =
    (liveWord gs).count ⟨.opening, name⟩
  front : nest [] (liveWord before) = some (es.reverse ++ ["document".toList])
  ended : liveWord [line] = [.endDocument]
  once : Marker.endDocument ∉ liveWord (before ++ behind)

/-- Where the `\end` of an environment first stands in the guide, among the markers that
occur there. -/
def endRank (gs : List Text) (name : Text) : Nat :=
  (Occurrences.distinctMarkers (Occurrence.ofLines gs)).idxOf ⟨.closing, name⟩

theorem hasTerminator_iff {line : Text} :
    hasTerminator line = true ↔ Marker.endDocument ∈ liveWord [line] := by
  simp [hasTerminator, liveWord]

namespace LeavesEnds

variable {gs before behind es : List Text} {line : Text} (h : LeavesEnds gs before line behind es)
include h

theorem liveWord_eq (ls : List Text) :
    liveWord (before ++ (ls ++ line :: behind)) =
      liveWord before ++ (liveWord ls ++ .endDocument :: liveWord behind) := by
  have hline : liveWord (line :: behind) = .endDocument :: liveWord behind := by
    rw [← List.singleton_append, liveWord_append, h.ended, List.singleton_append]
  rw [liveWord_append, liveWord_append, hline]

/-- The ends that come back stand before the end of the document. -/
theorem restoreEnds_eq : (restoreEnds (before ++ line :: behind) gs).1 =
    before ++ (((missingEnds (Occurrence.ofLines (before ++ line :: behind))
      (Occurrence.ofLines gs)).filter (· ≠ .endDocument)).map (·.text) ++ line :: behind) := by
  have hbefore : before.findIdx? hasTerminator = none :=
    List.findIdx?_eq_none_iff.2 fun l hl => by
      rw [Bool.eq_false_iff, Ne, hasTerminator_iff]
      intro hmem
      have hword : Marker.endDocument ∈ liveWord before := by
        obtain ⟨l', hl', hmem⟩ := List.mem_flatMap.1 hmem
        exact List.mem_flatMap.2 ⟨l, hl, (List.mem_singleton.1 hl') ▸ hmem⟩
      exact h.once (by rw [liveWord_append]; exact List.mem_append_left _ hword)
  have hline : hasTerminator line = true := hasTerminator_iff.2 (by simp [h.ended])
  have hplace : (before ++ line :: behind).findIdx? hasTerminator = some before.length := by
    rw [List.findIdx?_append, hbefore, List.findIdx?_cons, if_pos hline]
    simp
  rw [restoreEnds]
  simp only [hplace, List.take_left, List.drop_left, List.append_assoc]

/-- With ends put in before its end the rendition is well nested if these are the ends of the
environments that it has left open, innermost first, and no others. -/
theorem wellNested_iff {ms : List Marker} (hms : ∀ m ∈ ms, m.kind = .closing) :
    WellNested (liveWord before ++ (ms ++ .endDocument :: liveWord behind)) ↔
      ms = closings es.reverse ∧ WellNested (liveWord behind) := by
  rw [← closings_map_name hms, ← nest_nil_eq_some_nil_iff, ← nest_nil_eq_some_nil_iff, nest_append,
    h.front, Option.bind_some, nest_append]
  generalize ms.map (·.name) = names
  constructor
  · intro hnest
    obtain ⟨K, hK, hnest⟩ := Option.bind_eq_some_iff.1 hnest
    obtain ⟨K', hstep, hbehind⟩ := Option.bind_eq_some_iff.1 ((nest_cons _ _ _).symm.trans hnest)
    obtain rfl : K = "document".toList :: K' := by
      cases K with
      | nil => cases hstep
      | cons name K =>
        obtain ⟨rfl, hstep⟩ := Option.ite_none_right_eq_some.1
          (show (if name = "document".toList then some K else none) = some K' from hstep)
        rw [Option.some.inj hstep]
    have hopen := nest_closings.1 hK
    -- What is open around the document would be a document again, whose end is missing.
    obtain rfl : K' = [] := by
      by_contra hne
      obtain ⟨K'', name, rfl⟩ : ∃ K'' name, K' = K'' ++ [name] := by
        simpa [List.concat_eq_append] using (List.eq_nil_or_concat K').resolve_left hne
      rw [← List.cons_append, ← List.append_assoc] at hopen
      obtain ⟨-, hname⟩ := List.append_inj' hopen rfl
      rw [← (List.cons.inj hname).1] at hbehind
      rcases mem_or_mem_of_nest hbehind (List.mem_append_right _ (List.mem_singleton_self _)) with
        hmem | hmem
      · cases hmem
      · exact h.once (by rw [liveWord_append]; exact List.mem_append_right _ hmem)
    obtain ⟨hnames, -⟩ := List.append_inj' hopen rfl
    exact ⟨by rw [hnames], hbehind⟩
  · rintro ⟨hnames, hbehind⟩
    rw [hnames, nest_closings.2 rfl, Option.bind_some, nest_cons]
    exact hbehind

/-- As many copies of an end are missing as there are environments of that name left open. -/
theorem missingCount_eq (hbehind : WellNested (liveWord behind)) (name : Text) :
    missingCount (Occurrence.ofLines (before ++ line :: behind)) (Occurrence.ofLines gs)
      ⟨.closing, name⟩ = es.count name := by
  have hguide := h.guide.count_eq name
  have hopenings := h.openings name
  have hfront := count_of_nest h.front name
  have hback := hbehind.count_eq name
  have hword := h.liveWord_eq []
  rw [List.nil_append] at hword
  have hopened : (liveWord (before ++ line :: behind)).count ⟨.opening, name⟩ =
      (liveWord before).count ⟨.opening, name⟩ + (liveWord behind).count ⟨.opening, name⟩ := by
    rw [hword]
    simp [liveWord, Marker.endDocument]
  have hclosed : (liveWord (before ++ line :: behind)).count ⟨.closing, name⟩ =
      (liveWord before).count ⟨.closing, name⟩ + (["document".toList].count name +
        (liveWord behind).count ⟨.closing, name⟩) := by
    rw [hword]
    simp [liveWord, Marker.endDocument, List.count_cons, Nat.add_comm]
  rw [List.count_append, List.count_reverse, List.count_nil, Nat.zero_add] at hfront
  unfold missingCount
  simp only [Occurrences.liveCount_eq_count]
  split
  · rename_i hnone
    simp only [Bool.or_eq_true, decide_eq_true_eq] at hnone
    omega
  · omega

/-- The guide ends the environments that the rendition leaves open. -/
theorem closing_mem {e : Text} (he : e ∈ es) : ⟨.closing, e⟩ ∈ liveWord gs := by
  have hfront := count_of_nest h.front e
  have hopen : 0 < (es.reverse ++ ["document".toList]).count e :=
    List.count_pos_iff.2 (List.mem_append_left _ (List.mem_reverse.2 he))
  rw [List.count_nil, Nat.zero_add] at hfront
  have hmem : ⟨.opening, e⟩ ∈ liveWord before := List.count_pos_iff.1 (by omega)
  have hcount : 0 < (liveWord (before ++ line :: behind)).count ⟨.opening, e⟩ := by
    rw [liveWord_append]
    exact List.count_pos_iff.2 (List.mem_append_left _ hmem)
  rw [h.openings, h.guide.count_eq] at hcount
  exact List.count_pos_iff.1 hcount

/-- The missing ends are those of the environments left open, in some order. -/
theorem perm_missingEnds (hbehind : WellNested (liveWord behind)) :
    (missingEnds (Occurrence.ofLines (before ++ line :: behind)) (Occurrence.ofLines gs)).Perm
      (closings es.reverse) := by
  refine List.perm_iff_count.2 fun m => ?_
  rw [missingEnds, count_flatMap_replicate ((Occurrences.nodup_distinctMarkers _).filter _)]
  obtain ⟨kind, name⟩ := m
  cases kind with
  | opening =>
    rw [if_neg (by simp)]
    exact (List.count_eq_zero.2 (by simp [closings])).symm
  | closing =>
    have hcount : (closings es.reverse).count ⟨.closing, name⟩ = es.count name := by
      rw [closings, List.count_map_of_injective _ _ fun a b hab => (Marker.mk.inj hab).2,
        List.count_reverse]
    rw [h.missingCount_eq hbehind, hcount]
    split
    · rfl
    · rename_i hmem
      refine (List.count_eq_zero.2 fun he => hmem ?_).symm
      exact List.mem_filter.2 ⟨Occurrences.mem_distinctMarkers (h.closing_mem he), rfl⟩

end LeavesEnds

/-- The missing ends come in the order in which the guide first has them. -/
theorem pairwise_missingEnds (ts : List Occurrence) (gs : List Text) :
    (missingEnds ts (Occurrence.ofLines gs)).Pairwise fun x y =>
      (Occurrences.distinctMarkers (Occurrence.ofLines gs)).idxOf x ≤
        (Occurrences.distinctMarkers (Occurrence.ofLines gs)).idxOf y := by
  have hnodup := Occurrences.nodup_distinctMarkers (Occurrence.ofLines gs)
  have hrank : (Occurrences.distinctMarkers (Occurrence.ofLines gs)).Pairwise fun x y =>
      (Occurrences.distinctMarkers (Occurrence.ofLines gs)).idxOf x ≤
        (Occurrences.distinctMarkers (Occurrence.ofLines gs)).idxOf y :=
    List.pairwise_iff_getElem.2 fun i j hi hj hij => by
      rw [hnodup.idxOf_getElem, hnodup.idxOf_getElem]
      exact hij.le
  refine List.pairwise_flatMap.2 ⟨fun m _ => ?_, (hrank.filter _).imp fun hle x hx y hy => ?_⟩
  · exact List.pairwise_replicate.2 (.inr le_rfl)
  · rw [List.eq_of_mem_replicate hx, List.eq_of_mem_replicate hy]
    exact hle

/-- A rendition that leaves environments open where it ends the document is well nested behind
the repair exactly if what stands behind the document is, the environments have names and are no
documents, and the guide first ends them in the order in which they must be closed. -/
theorem wellNested_restoreEnds_iff {gs before behind es : List Text} {line : Text}
    (h : LeavesEnds gs before line behind es) :
    WellNested (liveWord (restoreEnds (before ++ line :: behind) gs).1) ↔
      WellNested (liveWord behind) ∧ [] ∉ es ∧ "document".toList ∉ es ∧
        es.Pairwise fun outer inner => endRank gs inner ≤ endRank gs outer := by
  have hpairwise := pairwise_missingEnds (Occurrence.ofLines (before ++ line :: behind)) gs
  have hperm := h.perm_missingEnds
  have hlive : ∀ m ∈ missingEnds (Occurrence.ofLines (before ++ line :: behind))
      (Occurrence.ofLines gs), m.kind = .closing ∧ ∃ line, ∃ x ∈ markers line, x.marker = m :=
    fun m hm => by
      obtain ⟨hkind, g, -, x, hx, hmarker⟩ := of_mem_missingEnds hm
      exact ⟨hkind, g, x, (List.mem_filter.1 hx).1, hmarker⟩
  rw [h.restoreEnds_eq, h.liveWord_eq]
  generalize missingEnds (Occurrence.ofLines (before ++ line :: behind)) (Occurrence.ofLines gs) =
    missing at hpairwise hperm hlive ⊢
  rw [liveWord_map_text fun m hm => (hlive m (List.mem_filter.1 hm).1).2, List.filter_filter,
    h.wellNested_iff fun m hm => (hlive m (List.mem_filter.1 hm).1).1, and_comm,
    and_congr_right_iff]
  intro hbehind
  have hperm := hperm hbehind
  constructor
  · intro hends
    -- Nothing is left out, so the missing ends are in the order of the environments.
    have hall : missing.filter (fun m => decide (m.name ≠ []) && decide (m ≠ .endDocument)) =
        missing := List.filter_sublist.eq_of_length (by rw [hends, hperm.length_eq])
    have hkept := List.filter_eq_self.1 hall
    rw [hall] at hends
    subst hends
    have hmem : ∀ e ∈ es, ⟨.closing, e⟩ ∈ closings es.reverse := fun e he =>
      List.mem_map_of_mem (List.mem_reverse.2 he)
    refine ⟨fun he => ?_, fun he => ?_, ?_⟩
    · simpa using hkept _ (hmem _ he)
    · simpa [Marker.endDocument] using hkept _ (hmem _ he)
    · rw [closings, List.pairwise_map] at hpairwise
      exact List.pairwise_reverse.1 hpairwise
  · rintro ⟨hname, hdocument, hsorted⟩
    have hends : missing = closings es.reverse := by
      have hrank : es.reverse.Pairwise fun x y => endRank gs x ≤ endRank gs y :=
        List.pairwise_reverse.2 hsorted
      refine hperm.eq_of_pairwise (fun x y _ hy hxy hyx => ?_) hpairwise (List.pairwise_map.2 hrank)
      obtain ⟨e, he, rfl⟩ := List.mem_map.1 hy
      have hmem := Occurrences.mem_distinctMarkers (h.closing_mem (List.mem_reverse.1 he))
      exact ((List.idxOf_inj hmem).1 (hyx.antisymm hxy)).symm
    rw [hends]
    refine List.filter_eq_self.2 fun m hm => ?_
    obtain ⟨e, he, rfl⟩ := List.mem_map.1 hm
    have he := List.mem_reverse.1 he
    have hblank : e ≠ [] := fun hnil => hname (hnil ▸ he)
    have hother : (⟨.closing, e⟩ : Marker) ≠ .endDocument := fun heq =>
      hdocument (show Marker.endDocument.name ∈ es from heq ▸ he)
    simp [hblank, hother]

/-- Lists in a list, in which the guide has them. -/
theorem wellNested_restoreEnds_iff_lists :
    let gs := ["\\begin{document}", "\\begin{ul}", "\\begin{ol}",
      "\\end{ol}", "\\end{ul}", "\\end{document}"].map (·.toList)
    let before := ["\\begin{document}", "\\begin{ul}",
      "\\begin{ol}"].map (·.toList)
    let line := "\\end{document}".toList
    let es := ["ul".toList, "ol".toList]
    LeavesEnds gs before line [] es ∧
      WellNested (liveWord (restoreEnds (before ++ [line]) gs).1) := by
  intro gs before line es
  have h : LeavesEnds gs before line [] es := by
    have hgs : liveWord gs = [⟨.opening, "document".toList⟩, ⟨.opening, "ul".toList⟩,
        ⟨.opening, "ol".toList⟩, ⟨.closing, "ol".toList⟩, ⟨.closing, "ul".toList⟩,
        .endDocument] := by decide +kernel
    have hts : liveWord (before ++ [line]) = [⟨.opening, "document".toList⟩,
        ⟨.opening, "ul".toList⟩, ⟨.opening, "ol".toList⟩, .endDocument] := by decide +kernel
    refine ⟨nest_nil_eq_some_nil_iff.1 (by decide +kernel), fun name => ?_, by decide +kernel,
      by decide +kernel, by decide +kernel⟩
    rw [hgs, hts]
    simp [List.count_cons, Marker.endDocument]
  exact ⟨h, (wellNested_restoreEnds_iff h).2 ⟨.nil, by decide +kernel, by decide +kernel,
    by decide +kernel⟩⟩

/-- The guide ends one list before the list in another one, and the ends come back in this order
where the rendition has to close them the other way round. -/
theorem restoreEnds_crosses :
    let gs := ["\\begin{document}", "\\begin{ul}", "\\end{ul}",
      "\\begin{ul}", "\\begin{ol}", "\\end{ol}", "\\end{ul}",
      "\\end{document}"].map (·.toList)
    let before := ["\\begin{document}", "\\begin{ul}", "\\end{ul}",
      "\\begin{ul}", "\\begin{ol}"].map (·.toList)
    let line := "\\end{document}".toList
    let es := ["ul".toList, "ol".toList]
    (∀ l ∈ before ++ [line], markers l = liveMarkers l) ∧ LeavesEnds gs before line [] es ∧
      ¬WellNested (liveWord (restoreEnds (before ++ [line]) gs).1) := by
  intro gs before line es
  have hgs : liveWord gs = [⟨.opening, "document".toList⟩, ⟨.opening, "ul".toList⟩,
      ⟨.closing, "ul".toList⟩, ⟨.opening, "ul".toList⟩, ⟨.opening, "ol".toList⟩,
      ⟨.closing, "ol".toList⟩, ⟨.closing, "ul".toList⟩, .endDocument] := by decide +kernel
  have hts : liveWord (before ++ [line]) = [⟨.opening, "document".toList⟩,
      ⟨.opening, "ul".toList⟩, ⟨.closing, "ul".toList⟩, ⟨.opening, "ul".toList⟩,
      ⟨.opening, "ol".toList⟩, .endDocument] := by decide +kernel
  refine ⟨by decide +kernel, ⟨nest_nil_eq_some_nil_iff.1 (by decide +kernel), fun name => ?_,
    by decide +kernel, by decide +kernel, by decide +kernel⟩, ?_⟩
  · rw [hgs, hts]
    simp [List.count_cons, Marker.endDocument]
  · rw [← nest_nil_eq_some_nil_iff]
    decide +kernel

end StructureRepair

end LatexRepair
