import LatexRepair.Proofs.Conservation
import LatexRepair.Proofs.EnvironmentWord
import Mathlib.Data.List.Nodup

/-!
# The account of environments

A scan keeps the environments that are open on a stack, and every beginning and every end
of a document is accounted for by what it makes of them (`EnvironmentAccount`).

An `Ending` is an end of the document together with the environments that are open where
it stands. It closes the innermost open environment of its name (`Ending.closed?`), and it
fits when that is the innermost open one of all (`Ending.fits`).

`scan_accounts` : every environment that a document opens is closed by an end of its own
name, reported once as interrupted, or reported once as unclosed, and just one of these;
every end fits, is reported once as mismatched, or is reported once as unmatched, and just
one of these. The places at which lexemes start are all different
(`Lexeme.pairwise_precedes_lexemesFrom`), so that the two counts are about single
beginnings and ends. What carries the proof is that a step keeps the sum of both sides
(`ScanState.count_openings_step`, `ScanState.count_marks_step`).
-/

namespace LatexRepair

/-! ## Places -/

/-- The place stands before another one, by line and column. -/
def Position.Precedes (p q : Position) : Prop :=
  p.line < q.line ∨ p.line = q.line ∧ p.column < q.column

namespace Position

variable {p q r : Position}

theorem Precedes.trans (h : p.Precedes q) (h' : q.Precedes r) : p.Precedes r := by
  unfold Precedes at *
  omega

theorem Precedes.place_ne (h : p.Precedes q) : (p.line, p.column) ≠ (q.line, q.column) := by
  intro heq
  obtain ⟨hline, hcolumn⟩ := Prod.mk.inj heq
  unfold Precedes at h
  omega

theorem precedes_next (p : Position) (c : Char) : p.Precedes (p.next c) := by
  unfold next Precedes
  split <;> simp

theorem precedes_after (p : Position) (c : Char) (t : Text) : p.Precedes (p.after (c :: t)) := by
  induction t generalizing p c with
  | nil => exact p.precedes_next c
  | cons d t ih => exact (p.precedes_next c).trans (ih (p.next c) d)

end Position

/-- The lexemes of a text start at different places, one behind the other. -/
theorem Lexeme.pairwise_precedes_lexemesFrom (p : Position) (t : Text) :
    (lexemesFrom p t).Pairwise fun x y => x.start.Precedes y.start := by
  induction p, t using lexemesFrom.induct with
  | case1 p =>
    rw [lexemesFrom]
    exact .nil
  | case2 p c t token n hlex stop ih =>
    rw [lexemesFrom_cons, hlex]
    refine .cons (fun y hy => ?_) ih
    obtain ⟨s, d, r, xs, -, -, -, hstart⟩ := exists_reads_of_mem hy
    rw [hstart]
    change p.Precedes ((p.after (c :: t.take n)).after s)
    rw [← Position.after_append]
    exact p.precedes_after c _

/-! ## Beginnings and ends -/

/-- The environment that a lexeme opens. -/
def Lexeme.opened? (x : Lexeme) : Option OpenEnvironment :=
  match x.token with
  | .beginEnvironment name => some ⟨name, x.start.line, x.start.column⟩
  | _ => none

/-- The verbatim environment without its end that a lexeme is. -/
def Lexeme.unclosed? (x : Lexeme) : Option OpenEnvironment :=
  match x.token with
  | .verbatim name false => some ⟨name, x.start.line, x.start.column⟩
  | _ => none

/-- The name and the place of the end that a lexeme is. -/
def Lexeme.endMark? (x : Lexeme) : Option (Text × Position) :=
  match x.token with
  | .endEnvironment name => some (name, x.start)
  | _ => none

/-- The end of an environment, with the environments that are open where it stands,
innermost first. -/
structure Ending where
  name : Text
  pos : Position
  open_ : List OpenEnvironment

namespace Ending

/-- The name and the place of the end. -/
def mark (e : Ending) : Text × Position :=
  (e.name, e.pos)

/-- The environment that the end closes : the innermost open one of its name. -/
def closed? (e : Ending) : Option OpenEnvironment :=
  e.open_.find? (·.name = e.name)

/-- The innermost open environment has the name of the end. -/
def fits (e : Ending) : Bool :=
  e.open_.head?.any (·.name = e.name)

/-- The mark of an end that fits. -/
def fitting? (e : Ending) : Option (Text × Position) :=
  if e.fits then some e.mark else none

end Ending

namespace ScanState

/-- The end that a lexeme is, with what is open before it. -/
def ending? (s : ScanState) (x : Lexeme) : Option Ending :=
  match x.token with
  | .endEnvironment name => some ⟨name, x.start, s.environments⟩
  | _ => none

/-- The ends that a scan meets. -/
def endings (s : ScanState) : List Lexeme → List Ending
  | [] => []
  | x :: xs => (s.ending? x).toList ++ (s.step x).endings xs

end ScanState

/-- The environments that a document opens, but for verbatim ones. -/
def openings (t : Text) : List OpenEnvironment :=
  (Lexeme.lexemes t).filterMap Lexeme.opened?

/-- The verbatim environments of a document that have no end. -/
def unclosedVerbatims (t : Text) : List OpenEnvironment :=
  (Lexeme.lexemes t).filterMap Lexeme.unclosed?

/-- The names and places of the ends of a document. -/
def endMarks (t : Text) : List (Text × Position) :=
  (Lexeme.lexemes t).filterMap Lexeme.endMark?

/-- The ends of a document, each with what is open before it. -/
def endings (t : Text) : List Ending :=
  ScanState.endings {} (Lexeme.lexemes t)

namespace Finding

/-- The environment that a finding reports as interrupted. -/
def interrupted? : Finding → Option OpenEnvironment
  | interrupted env _ _ => some env
  | _ => none

/-- The environment that a finding reports as unclosed. -/
def unclosed? : Finding → Option OpenEnvironment
  | unclosed env => some env
  | _ => none

/-- The end that a finding reports as mismatched. -/
def mismatched? : Finding → Option (Text × Position)
  | mismatchedEnd name _ _ p => some (name, p)
  | _ => none

/-- The end that a finding reports as unmatched. -/
def unmatched? : Finding → Option (Text × Position)
  | unmatchedEnd name p => some (name, p)
  | _ => none

end Finding

/-! ## The environments at one end -/

namespace ScanState

variable {name : Text} {p : Position} {open_ : List OpenEnvironment}

/-- An end leaves no environment out. -/
theorem splitAtEnd_append (name : Text) (open_ : List OpenEnvironment) :
    (splitAtEnd name open_).1 ++ ((splitAtEnd name open_).2.1.toList ++
      (splitAtEnd name open_).2.2) = open_ := by
  unfold splitAtEnd
  cases h : open_.findIdx? (·.name = name) with
  | none => exact List.take_append_drop 1 open_
  | some i =>
    obtain ⟨hi, -⟩ := List.findIdx?_eq_some_iff_getElem.1 h
    dsimp only
    rw [List.getElem?_eq_getElem hi, Option.toList_some, List.singleton_append,
      List.getElem_cons_drop, List.take_append_drop]

/-- An end closes the innermost environment of its name. -/
theorem closed_splitAtEnd (name : Text) (open_ : List OpenEnvironment) :
    (splitAtEnd name open_).2.1 = open_.find? (·.name = name) := by
  rw [splitAtEnd, List.find?_eq_bind_findIdx?_getElem?]
  cases open_.findIdx? (·.name = name) <;> rfl

/-- The environments that an end is reported to interrupt are those that it takes away
without closing them. -/
theorem filterMap_interrupted?_endFindings (name : Text) (p : Position)
    (open_ : List OpenEnvironment) :
    (endFindings name p open_).filterMap Finding.interrupted? = (splitAtEnd name open_).1 := by
  cases open_ with
  | nil => rfl
  | cons top outer =>
    rw [endFindings]
    split
    · rename_i h
      rw [splitAtEnd_cons_of_eq h]
      rfl
    · rw [List.filterMap_append, List.filterMap_map]
      exact (List.append_nil _).trans List.filterMap_some

/-- An end fits or is reported, as mismatched or as unmatched. -/
theorem marks_endFindings (name : Text) (p : Position) (open_ : List OpenEnvironment) :
    (Ending.fitting? ⟨name, p, open_⟩).toList ++
      ((endFindings name p open_).filterMap Finding.mismatched? ++
        (endFindings name p open_).filterMap Finding.unmatched?) = [(name, p)] := by
  cases open_ with
  | nil => rfl
  | cons top outer =>
    have hnone : ∀ envs : List OpenEnvironment, ∀ f : Finding → Option (Text × Position),
        (∀ env, f (.interrupted env name p) = none) →
          (envs.map (Finding.interrupted · name p)).filterMap f = [] := fun envs f hf => by
      rw [List.filterMap_map, List.filterMap_eq_nil_iff]
      exact fun env _ => hf env
    by_cases h : top.name = name
    · simp [Ending.fitting?, Ending.fits, Ending.mark, endFindings, h]
    · have hfits : Ending.fitting? ⟨name, p, top :: outer⟩ = none := by
        simp [Ending.fitting?, Ending.fits, h]
      have hfindings : endFindings name p (top :: outer) =
          (splitAtEnd name (top :: outer)).1.map (.interrupted · name p) ++
            [.mismatchedEnd name top.name top.line p] := if_neg h
      rw [hfits, hfindings, List.filterMap_append, List.filterMap_append, hnone _ _ fun _ => rfl,
        hnone _ _ fun _ => rfl]
      rfl

/-- What an end may report. -/
theorem eq_of_mem_endFindings {f : Finding} (h : f ∈ endFindings name p open_) :
    f = .unmatchedEnd name p ∨ (∃ env, f = .interrupted env name p) ∨
      ∃ expected line, f = .mismatchedEnd name expected line p := by
  unfold endFindings at h
  split at h
  · exact .inl (List.mem_singleton.1 h)
  · split at h
    · cases h
    · rcases List.mem_append.1 h with h | h
      · obtain ⟨env, -, rfl⟩ := List.mem_map.1 h
        exact .inr (.inl ⟨env, rfl⟩)
      · exact .inr (.inr ⟨_, _, List.mem_singleton.1 h⟩)

/-- A mismatched end interrupts the innermost environment, which it names. -/
theorem exists_interrupted_of_mem_endFindings {expected name' : Text} {line : Nat} {p' : Position}
    (h : .mismatchedEnd name' expected line p' ∈ endFindings name p open_) :
    ∃ env, .interrupted env name' p' ∈ endFindings name p open_ ∧ env.name = expected ∧
      env.line = line := by
  cases open_ with
  | nil => simp [endFindings] at h
  | cons top outer =>
    rw [endFindings] at h ⊢
    split at h
    · cases h
    · rename_i hne
      obtain ⟨rfl, rfl, rfl, rfl⟩ :
          name' = name ∧ expected = top.name ∧ line = top.line ∧ p' = p := by
        simpa using h
      have htop : top ∈ (splitAtEnd name' (top :: outer)).1 := by
        unfold splitAtEnd
        rw [List.findIdx?_cons]
        cases outer.findIdx? (·.name = name') <;> simp [hne]
      refine ⟨top, ?_, rfl, rfl⟩
      rw [if_neg hne]
      exact List.mem_append_left _ (List.mem_map_of_mem htop)

end ScanState

/-! ## The account of a run -/

/-- A lexeme that declares nothing neither opens nor ends an environment. -/
theorem Lexeme.of_declares_eq_false (x : Lexeme) (h : x.token.declares = false) :
    x.opened? = none ∧ x.unclosed? = none ∧ x.endMark? = none ∧
      ∀ s : ScanState, s.ending? x = none := by
  obtain ⟨token, start, stop⟩ := x
  cases token with
  | beginEnvironment | endEnvironment => cases h
  | verbatim name closed =>
    cases closed with
    | false => cases h
    | true => exact ⟨rfl, rfl, rfl, fun _ => rfl⟩
  | _ => exact ⟨rfl, rfl, rfl, fun _ => rfl⟩

namespace ScanState

variable (s : ScanState) (x : Lexeme) (xs : List Lexeme)

theorem filterMap_endings_cons {β : Type*} (f : Ending → Option β) :
    (s.endings (x :: xs)).filterMap f =
      ((s.ending? x).bind f).toList ++ ((s.step x).endings xs).filterMap f := by
  rw [endings, List.filterMap_append]
  cases s.ending? x with
  | none => rfl
  | some e => rw [Option.toList_some, filterMap_cons_eq, List.filterMap_nil, List.append_nil]; rfl

/-- The end of an environment is reported as `endFindings` says. -/
theorem findings_closeEnvironment (p : Option Position) (name : Text) :
    (closeEnvironment { s with trailingContent := p } name x.start x.stop).findings =
      (endFindings name x.start s.environments).reverse ++ s.findings := rfl

/-- The environments that are opened go where environments go : closed, interrupted, or
still open. -/
theorem count_openings_step (env : OpenEnvironment) :
    s.environments.count env + x.opened?.toList.count env +
        (s.findings.filterMap Finding.interrupted?).count env =
      (((s.ending? x).bind Ending.closed?).toList).count env +
        ((s.step x).findings.filterMap Finding.interrupted?).count env +
          (s.step x).environments.count env := by
  obtain ⟨p, h⟩ := s.exists_acts_step x
  generalize s.step x = s' at h
  cases h with
  | begins hx =>
    simp only [Lexeme.opened?, ending?, hx, openEnvironment, Option.toList_some, Option.bind_none,
      Option.toList_none, List.count_cons, List.count_nil]
    omega
  | @ends name hx =>
    have hsplit := congrArg (List.count env) (splitAtEnd_append name s.environments)
    rw [List.count_append, List.count_append, closed_splitAtEnd] at hsplit
    have henv :
        (closeEnvironment { s with trailingContent := p } name x.start x.stop).environments =
        (splitAtEnd name s.environments).2.2 := rfl
    rw [henv, findings_closeEnvironment, List.filterMap_append, List.filterMap_reverse,
      List.count_append, List.count_reverse, filterMap_interrupted?_endFindings]
    simp only [Lexeme.opened?, ending?, hx, Option.toList_none, Option.bind_some, List.count_nil,
      Ending.closed?]
    omega
  | documentClass hx | includes hx | unclosed hx =>
    simp [Lexeme.opened?, ending?, hx, List.filterMap_cons, Finding.interrupted?, Nat.add_comm]
  | delimits ds hx =>
    obtain ⟨hopened, -, -, hending⟩ := x.of_declares_eq_false hx
    simp [hopened, hending, Nat.add_comm]

theorem count_openings_run (env : OpenEnvironment) :
    s.environments.count env + (xs.filterMap Lexeme.opened?).count env +
        (s.findings.filterMap Finding.interrupted?).count env =
      ((s.endings xs).filterMap Ending.closed?).count env +
        ((s.run xs).findings.filterMap Finding.interrupted?).count env +
          (s.run xs).environments.count env := by
  induction xs generalizing s with
  | nil => simp [endings, run, Nat.add_comm]
  | cons x xs ih =>
    have hstep := s.count_openings_step x env
    have hrun := ih (s.step x)
    rw [run_cons, filterMap_cons_eq, filterMap_endings_cons, List.count_append,
      List.count_append]
    omega

/-- An end goes where ends go : it fits, or it is reported. -/
theorem count_marks_step (m : Text × Position) :
    x.endMark?.toList.count m + (s.findings.filterMap Finding.mismatched?).count m +
        (s.findings.filterMap Finding.unmatched?).count m =
      (((s.ending? x).bind Ending.fitting?).toList).count m +
        ((s.step x).findings.filterMap Finding.mismatched?).count m +
          ((s.step x).findings.filterMap Finding.unmatched?).count m := by
  obtain ⟨p, h⟩ := s.exists_acts_step x
  generalize s.step x = s' at h
  cases h with
  | @ends name hx =>
    have hmarks := congrArg (List.count m) (marks_endFindings name x.start s.environments)
    rw [List.count_append, List.count_append] at hmarks
    rw [findings_closeEnvironment, List.filterMap_append, List.filterMap_append,
      List.filterMap_reverse, List.filterMap_reverse, List.count_append, List.count_append,
      List.count_reverse, List.count_reverse]
    simp only [Lexeme.endMark?, ending?, hx, Option.toList_some, Option.bind_some]
    omega
  | begins hx | documentClass hx | includes hx | unclosed hx =>
    simp [Lexeme.endMark?, ending?, hx, List.filterMap_cons, Finding.mismatched?,
      Finding.unmatched?, openEnvironment]
  | delimits ds hx =>
    obtain ⟨-, -, hmark, hending⟩ := x.of_declares_eq_false hx
    simp [hmark, hending]

theorem count_marks_run (m : Text × Position) :
    (xs.filterMap Lexeme.endMark?).count m + (s.findings.filterMap Finding.mismatched?).count m +
        (s.findings.filterMap Finding.unmatched?).count m =
      ((s.endings xs).filterMap Ending.fitting?).count m +
        ((s.run xs).findings.filterMap Finding.mismatched?).count m +
          ((s.run xs).findings.filterMap Finding.unmatched?).count m := by
  induction xs generalizing s with
  | nil => simp [endings, run]
  | cons x xs ih =>
    have hstep := s.count_marks_step x m
    have hrun := ih (s.step x)
    rw [run_cons, filterMap_cons_eq, filterMap_endings_cons, List.count_append,
      List.count_append]
    omega

/-- Only verbatim environments without end are reported as unclosed before the document
ends. -/
theorem count_unclosed_step (env : OpenEnvironment) :
    ((s.step x).findings.filterMap Finding.unclosed?).count env =
      x.unclosed?.toList.count env + (s.findings.filterMap Finding.unclosed?).count env := by
  obtain ⟨p, h⟩ := s.exists_acts_step x
  generalize s.step x = s' at h
  cases h with
  | @ends name hx =>
    have hnone : (endFindings name x.start s.environments).filterMap Finding.unclosed? = [] := by
      refine List.filterMap_eq_nil_iff.2 fun f hf => ?_
      obtain rfl | ⟨env, rfl⟩ | ⟨expected, line, rfl⟩ := eq_of_mem_endFindings hf <;> rfl
    rw [findings_closeEnvironment, List.filterMap_append, List.filterMap_reverse, hnone]
    simp [Lexeme.unclosed?, hx]
  | unclosed hx =>
    rw [filterMap_cons_eq, List.count_append]
    simp [Lexeme.unclosed?, hx, Finding.unclosed?]
  | begins hx | documentClass hx | includes hx => simp [Lexeme.unclosed?, hx, openEnvironment]
  | delimits ds hx => simp [(x.of_declares_eq_false hx).2.1]

theorem count_unclosed_run (env : OpenEnvironment) :
    ((s.run xs).findings.filterMap Finding.unclosed?).count env =
      (xs.filterMap Lexeme.unclosed?).count env +
        (s.findings.filterMap Finding.unclosed?).count env := by
  induction xs generalizing s with
  | nil => simp [run]
  | cons x xs ih =>
    rw [run_cons, ih, count_unclosed_step, filterMap_cons_eq, List.count_append]
    omega

/-- Every mismatched end is reported beside the environment that it names. -/
def Accompanied (fs : List Finding) : Prop :=
  ∀ name expected line p, .mismatchedEnd name expected line p ∈ fs →
    ∃ env, .interrupted env name p ∈ fs ∧ env.name = expected ∧ env.line = line

theorem accompanied_step (h : Accompanied s.findings) : Accompanied (s.step x).findings := by
  obtain ⟨p, hacts⟩ := s.exists_acts_step x
  generalize s.step x = s' at hacts
  cases hacts with
  | @ends name hx =>
    intro name' expected line p' hmem
    rcases List.mem_append.1 hmem with hmem | hmem
    · obtain ⟨env, henv, hnames⟩ :=
        exists_interrupted_of_mem_endFindings (List.mem_reverse.1 hmem)
      exact ⟨env, List.mem_append_left _ (List.mem_reverse.2 henv), hnames⟩
    · obtain ⟨env, henv, hnames⟩ := h name' expected line p' hmem
      exact ⟨env, List.mem_append_right _ henv, hnames⟩
  | unclosed hx =>
    intro name' expected line p' hmem
    obtain ⟨env, henv, hnames⟩ := h name' expected line p' (by simpa using hmem)
    exact ⟨env, List.mem_cons_of_mem _ henv, hnames⟩
  | begins hx | documentClass hx | includes hx | delimits ds hx => exact h

theorem accompanied_run (h : Accompanied s.findings) : Accompanied (s.run xs).findings := by
  induction xs generalizing s with
  | nil => exact h
  | cons x xs ih => exact ih _ (s.accompanied_step x h)

theorem map_mark_endings : (s.endings xs).map Ending.mark = xs.filterMap Lexeme.endMark? := by
  induction xs generalizing s with
  | nil => rfl
  | cons x xs ih =>
    rw [endings, List.map_append, ih, filterMap_cons_eq]
    congr 1
    unfold ending? Lexeme.endMark?
    cases x.token <;> rfl

end ScanState

/-! ## The account of a document -/

/-- The places of the lexemes of a document tell them apart. -/
theorem Lexeme.eq_of_place_eq {t : Text} {x y : Lexeme} (hx : x ∈ lexemes t) (hy : y ∈ lexemes t)
    (h : (x.start.line, x.start.column) = (y.start.line, y.start.column)) : x = y := by
  have hnodup : ((lexemes t).map fun x => (x.start.line, x.start.column)).Nodup :=
    List.pairwise_map.2 ((pairwise_precedes_lexemesFrom .start t).imp Position.Precedes.place_ne)
  exact List.inj_on_of_nodup_map hnodup hx hy h

/-- What is read off lexemes together with their places is read off once. -/
theorem nodup_filterMap_lexemes {β : Type*} {f : Lexeme → Option β} (t : Text)
    (h : ∀ x y b, f x = some b → f y = some b →
      (x.start.line, x.start.column) = (y.start.line, y.start.column)) :
    ((Lexeme.lexemes t).filterMap f).Nodup := by
  refine List.pairwise_filterMap.2 ((Lexeme.pairwise_precedes_lexemesFrom .start t).imp ?_)
  rintro x y hxy b hb b' hb' rfl
  exact hxy.place_ne (h x y b hb hb')

theorem Lexeme.opened?_eq_some_iff {x : Lexeme} {env : OpenEnvironment} :
    x.opened? = some env ↔ x.token = .beginEnvironment env.name ∧
      (env.line, env.column) = (x.start.line, x.start.column) := by
  obtain ⟨name, line, column⟩ := env
  unfold opened?
  split
  · rename_i heq
    simp [heq, eq_comm]
  · rename_i hne
    exact iff_of_false (by simp) fun h => hne _ h.1

theorem Lexeme.unclosed?_eq_some_iff {x : Lexeme} {env : OpenEnvironment} :
    x.unclosed? = some env ↔ x.token = .verbatim env.name false ∧
      (env.line, env.column) = (x.start.line, x.start.column) := by
  obtain ⟨name, line, column⟩ := env
  unfold unclosed?
  split
  · rename_i heq
    simp [heq, eq_comm]
  · rename_i hne
    exact iff_of_false (by simp) fun h => hne _ h.1

/-- What findings say about environments does not depend on delimiters, nor on order. -/
theorem filterMap_findings_scan_perm {β : Type*} {f : Finding → Option β}
    (h : ∀ g, g.delimiter? ≠ none → f g = none) (t : Text) :
    ((scan t).findings.filterMap f).Perm
      ((ScanState.run {} (Lexeme.lexemes t)).findings.filterMap f ++
        (ScanState.run {} (Lexeme.lexemes t)).environments.filterMap (f ∘ .unclosed)) := by
  have hsort := (List.mergeSort_perm (ScanState.run {} (Lexeme.lexemes t)).allFindings
    fun f g => Position.le f.place g.place).filterMap f
  refine hsort.trans ?_
  generalize ScanState.run {} (Lexeme.lexemes t) = s
  have hdelimiters : (Delimiter.all.flatMap fun d =>
      Finding.ofStack d (s.delimiters.get d)).filterMap f = [] := by
    refine List.filterMap_eq_nil_iff.2 fun g hg => h g ?_
    obtain ⟨d, -, hg⟩ := List.mem_flatMap.1 hg
    rw [delimiter?_of_mem_ofStack hg]
    exact Option.some_ne_none d
  rw [ScanState.allFindings, List.filterMap_append, List.filterMap_append, hdelimiters,
    List.append_nil, List.filterMap_map, List.filterMap_reverse, List.filterMap_reverse]
  exact (List.reverse_perm _).append (List.reverse_perm _)

/-- What a scan reports about environments accounts for the beginnings and the ends of a
document. -/
structure EnvironmentAccount (t : Text) : Prop where
  /-- Every environment is closed by an end, reported as interrupted or reported as unclosed,
  and that once. -/
  opened : ∀ env ∈ openings t,
    ((endings t).filterMap Ending.closed?).count env +
      ((scan t).findings.filterMap Finding.interrupted?).count env +
        ((scan t).findings.filterMap Finding.unclosed?).count env = 1
  /-- An end closes an environment of its own name. -/
  closed : ∀ e ∈ endings t, ∀ env, e.closed? = some env → env.name = e.name ∧ env ∈ openings t
  /-- Every end fits, is reported as mismatched or is reported as unmatched, and that once. -/
  ended : ∀ m ∈ endMarks t,
    ((endings t).filterMap Ending.fitting?).count m +
      ((scan t).findings.filterMap Finding.mismatched?).count m +
        ((scan t).findings.filterMap Finding.unmatched?).count m = 1
  marks : (endings t).map Ending.mark = endMarks t
  /-- Nothing else is reported. -/
  interrupted_subset : (scan t).findings.filterMap Finding.interrupted? ⊆ openings t
  unclosed_subset :
    (scan t).findings.filterMap Finding.unclosed? ⊆ openings t ++ unclosedVerbatims t
  mismatched_subset : (scan t).findings.filterMap Finding.mismatched? ⊆ endMarks t
  unmatched_subset : (scan t).findings.filterMap Finding.unmatched? ⊆ endMarks t
  /-- Beside a mismatched end the environment is reported that it does not match. -/
  accompanied : ∀ name expected line p,
    .mismatchedEnd name expected line p ∈ (scan t).findings →
      ∃ env, .interrupted env name p ∈ (scan t).findings ∧ env.name = expected ∧ env.line = line
  /-- Nothing is reported exactly when the markers are well nested and the verbatim
  environments have their ends. -/
  quiet_iff : (∀ f ∈ (scan t).findings, f.delimiter? ≠ none) ↔
    WellNested (markersOf (Lexeme.lexemes t)) ∧
      ∀ x ∈ Lexeme.lexemes t, x.token.isUnclosed = false

/-- The environments that are closed or reported are those that are opened, and the verbatim
ones without end. -/
theorem count_environments (t : Text) (env : OpenEnvironment) :
    ((endings t).filterMap Ending.closed?).count env +
        ((scan t).findings.filterMap Finding.interrupted?).count env ≤ (openings t).count env ∧
      ((endings t).filterMap Ending.closed?).count env +
        ((scan t).findings.filterMap Finding.interrupted?).count env +
          ((scan t).findings.filterMap Finding.unclosed?).count env =
        (openings t).count env + (unclosedVerbatims t).count env := by
  have hinterrupted := (filterMap_findings_scan_perm (f := Finding.interrupted?)
    (fun g hg => by cases g <;> first | rfl | exact absurd rfl hg) t).count_eq env
  have hunclosed := (filterMap_findings_scan_perm (f := Finding.unclosed?)
    (fun g hg => by cases g <;> first | rfl | exact absurd rfl hg) t).count_eq env
  have hopenings := ScanState.count_openings_run {} (Lexeme.lexemes t) env
  have hverbatims := ScanState.count_unclosed_run {} (Lexeme.lexemes t) env
  rw [List.count_append] at hinterrupted hunclosed
  have hnone : ∀ envs : List OpenEnvironment,
      envs.filterMap (Finding.interrupted? ∘ .unclosed) = [] := fun envs =>
    List.filterMap_eq_nil_iff.2 fun _ _ => rfl
  have hall : ∀ envs : List OpenEnvironment,
      envs.filterMap (Finding.unclosed? ∘ .unclosed) = envs := fun envs => List.filterMap_some
  rw [hnone] at hinterrupted
  rw [hall] at hunclosed
  simp only [List.count_nil, List.filterMap_nil] at hinterrupted hopenings hverbatims
  unfold openings unclosedVerbatims endings
  omega

/-- The ends that fit or are reported are those of the document. -/
theorem count_marks (t : Text) (m : Text × Position) :
    ((endings t).filterMap Ending.fitting?).count m +
        ((scan t).findings.filterMap Finding.mismatched?).count m +
          ((scan t).findings.filterMap Finding.unmatched?).count m = (endMarks t).count m := by
  have hmismatched := (filterMap_findings_scan_perm (f := Finding.mismatched?)
    (fun g hg => by cases g <;> first | rfl | exact absurd rfl hg) t).count_eq m
  have hunmatched := (filterMap_findings_scan_perm (f := Finding.unmatched?)
    (fun g hg => by cases g <;> first | rfl | exact absurd rfl hg) t).count_eq m
  have hmarks := ScanState.count_marks_run {} (Lexeme.lexemes t) m
  have hnone : ∀ (envs : List OpenEnvironment) (f : Finding → Option (Text × Position)),
      (∀ env, f (.unclosed env) = none) → envs.filterMap (f ∘ .unclosed) = [] := fun envs f hf =>
    List.filterMap_eq_nil_iff.2 fun env _ => hf env
  rw [hnone _ _ fun _ => rfl, List.append_nil] at hmismatched hunmatched
  simp only [List.count_nil, List.filterMap_nil] at hmarks
  unfold endMarks endings
  omega

/-- A finding about environments is met on the way, or is an environment left open. -/
theorem mem_findings_scan_iff {f : Finding} (hf : f.delimiter? = none) (t : Text) :
    f ∈ (scan t).findings ↔ f ∈ (ScanState.run {} (Lexeme.lexemes t)).findings ∨
      ∃ env ∈ (ScanState.run {} (Lexeme.lexemes t)).environments, f = .unclosed env := by
  have hmem : f ∈ (scan t).findings ↔
      f ∈ (ScanState.run {} (Lexeme.lexemes t)).allFindings :=
    (List.mergeSort_perm _ _).mem_iff
  have hdelimiters : ∀ s : ScanState, f ∉ Delimiter.all.flatMap fun d =>
      Finding.ofStack d (s.delimiters.get d) := fun s hmem => by
    obtain ⟨d, -, hmem⟩ := List.mem_flatMap.1 hmem
    rw [delimiter?_of_mem_ofStack hmem] at hf
    cases hf
  rw [hmem, ScanState.allFindings, List.mem_append, List.mem_append, or_iff_left (hdelimiters _),
    List.mem_reverse, List.mem_map]
  simp only [List.mem_reverse, eq_comm]

/-- No finding is about environments exactly when none was met on the way and none is left
open. -/
theorem forall_delimiter?_ne_none_iff (t : Text) :
    (∀ f ∈ (scan t).findings, f.delimiter? ≠ none) ↔
      (ScanState.run {} (Lexeme.lexemes t)).findings = [] ∧
        (ScanState.run {} (Lexeme.lexemes t)).environments = [] := by
  have hfindings : ∀ f ∈ (ScanState.run {} (Lexeme.lexemes t)).findings, f.delimiter? = none :=
    ScanState.delimiter?_of_mem_findings_run (by simp)
  constructor
  · intro h
    refine ⟨List.eq_nil_iff_forall_not_mem.2 fun f hf => ?_,
      List.eq_nil_iff_forall_not_mem.2 fun env henv => ?_⟩
    · exact h f ((mem_findings_scan_iff (hfindings f hf) t).2 (.inl hf)) (hfindings f hf)
    · exact h (.unclosed env) ((mem_findings_scan_iff rfl t).2 (.inr ⟨env, henv, rfl⟩)) rfl
  · rintro ⟨hnil, henvs⟩ f hf hnone
    rw [mem_findings_scan_iff hnone, hnil, henvs] at hf
    simp at hf

/-- No environment is opened twice, and none both opened and read as verbatim. -/
theorem nodup_openings (t : Text) :
    (openings t).Nodup ∧ ∀ env ∈ openings t, env ∉ unclosedVerbatims t := by
  refine ⟨nodup_filterMap_lexemes t fun x y env hx hy => ?_, fun env henv henv' => ?_⟩
  · exact (Lexeme.opened?_eq_some_iff.1 hx).2.symm.trans (Lexeme.opened?_eq_some_iff.1 hy).2
  · obtain ⟨x, hx, hxenv⟩ := List.mem_filterMap.1 henv
    obtain ⟨y, hy, hyenv⟩ := List.mem_filterMap.1 henv'
    rw [Lexeme.opened?_eq_some_iff] at hxenv
    rw [Lexeme.unclosed?_eq_some_iff] at hyenv
    obtain rfl := Lexeme.eq_of_place_eq hx hy (hxenv.2.symm.trans hyenv.2)
    rw [hxenv.1] at hyenv
    cases hyenv.1

theorem nodup_endMarks (t : Text) : (endMarks t).Nodup := by
  have hstart : ∀ {x : Lexeme} {m : Text × Position}, x.endMark? = some m → m.2 = x.start :=
    fun {x m} h => by
      unfold Lexeme.endMark? at h
      split at h
      · cases h
        rfl
      · cases h
  refine nodup_filterMap_lexemes t fun x y m hx hy => ?_
  rw [← hstart hx, ← hstart hy]

/-- What a scan reports about environments accounts for all beginnings and ends. -/
theorem scan_accounts (t : Text) : EnvironmentAccount t := by
  obtain ⟨hopened, hdisjoint⟩ := nodup_openings t
  refine ⟨fun env henv => ?_, fun e he env henv => ?_, fun m hm => ?_,
    ScanState.map_mark_endings {} _, fun env henv => ?_, fun env henv => ?_, fun m hm => ?_,
    fun m hm => ?_, fun name expected line p hmem => ?_, ?_⟩
  · have hone := List.count_eq_one_of_mem hopened henv
    have hzero := List.count_eq_zero_of_not_mem (hdisjoint env henv)
    rw [(count_environments t env).2, hone, hzero]
  · refine ⟨by simpa using List.find?_some henv, ?_⟩
    have hclosed : 0 < ((endings t).filterMap Ending.closed?).count env :=
      List.count_pos_iff.2 (List.mem_filterMap.2 ⟨e, he, henv⟩)
    have := (count_environments t env).1
    exact List.count_pos_iff.1 (by omega)
  · rw [count_marks, List.count_eq_one_of_mem (nodup_endMarks t) hm]
  · have := List.count_pos_iff.2 henv
    have := (count_environments t env).1
    exact List.count_pos_iff.1 (by omega)
  · have := List.count_pos_iff.2 henv
    have := (count_environments t env).2
    rw [← List.count_pos_iff, List.count_append]
    omega
  · have := List.count_pos_iff.2 hm
    have := count_marks t m
    exact List.count_pos_iff.1 (by omega)
  · have := List.count_pos_iff.2 hm
    have := count_marks t m
    exact List.count_pos_iff.1 (by omega)
  · rw [mem_findings_scan_iff rfl] at hmem
    obtain ⟨env, henv, hnames⟩ := ScanState.accompanied_run {} (Lexeme.lexemes t)
      (fun _ _ _ _ h => absurd h List.not_mem_nil) name expected line p
        (hmem.resolve_right (by simp))
    exact ⟨env, (mem_findings_scan_iff rfl t).2 (.inl henv), hnames⟩
  · rw [forall_delimiter?_ne_none_iff, ScanState.quiet_run_iff]

end LatexRepair
