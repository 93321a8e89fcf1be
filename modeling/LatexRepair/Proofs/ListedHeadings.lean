import LatexRepair.Heading
import LatexRepair.Proofs.Search
import LatexRepair.Proofs.TextComparison
import Mathlib.Data.List.Induction
import Mathlib.Data.List.Nodup

/-!
# The listing of headings

The sections of a document are its headings, each key once. What a block adds to them depends on
the blocks before it only by their keys and by whether one of them mentions the appendix
(`Section.new?`, `Section.behind_append`), so the sections in the order of the blocks can be read
off place by place (`Section.collect_eq_filterMap`). The sort by page and number is stable
(`pairwise_mergeSort_stable`).

`headingsListed_iff` : these properties say what the list of sections is. It is sorted, with ties
in the order of the blocks; the keys are different; every heading has a section with its key; and
each section is that of the earliest heading with its key (`Section.FoundAt`).
-/

namespace LatexRepair

/-! ## Stable sorting -/

section

variable {α : Type*} {le : α → α → Bool} (trans : ∀ a b c, le a b = true → le b c = true → le a c)
  (total : ∀ a b, (le a b || le b a) = true) {l : List α}

include trans total

/-- Entries that may all stand either way stay in their order. -/
theorem filter_mergeSort {p : α → Bool} (hp : ∀ a b, p a = true → p b = true → le a b = true) :
    (l.mergeSort le).filter p = l.filter p := by
  have hpairwise : (l.filter p).Pairwise fun a b => le a b = true :=
    List.pairwise_filter.2 (List.pairwise_of_forall fun a b ha hb => hp a b ha hb)
  have hsublist : (l.filter p).Sublist ((l.mergeSort le).filter p) := by
    have := (List.sublist_mergeSort trans total hpairwise List.filter_sublist).filter p
    rwa [List.filter_eq_self.2 fun a ha => (List.mem_filter.1 ha).2] at this
  exact (hsublist.eq_of_length ((List.mergeSort_perm l le).filter p).length_eq.symm).symm

/-- A sort keeps the order of two entries that may stand either way. -/
theorem pairwise_mergeSort_stable {r : α → α → Prop} (h : l.Pairwise r) :
    (l.mergeSort le).Pairwise fun a b => le a b = true ∧ (le b a = true → r a b) := by
  refine List.pairwise_iff_forall_sublist.2 fun {a b} hab => ?_
  have hle : le a b = true :=
    List.pairwise_iff_forall_sublist.1 (List.pairwise_mergeSort trans total l) hab
  refine ⟨hle, fun hba => ?_⟩
  have hrefl : le b b = true := by simpa using total b b
  -- Both are among the entries that may stand on either side of `b`, which stay in their order.
  have hties := hab.filter fun x => le x b && le b x
  rw [filter_mergeSort trans total] at hties
  · rw [List.filter_eq_self.2 (by simp [hle, hba, hrefl])] at hties
    exact List.pairwise_iff_forall_sublist.1 h (hties.trans List.filter_sublist)
  · intro x y hx hy
    rw [Bool.and_eq_true] at hx hy
    exact trans x b y hx.1 hy.2

end

/-! ## What is read off a block -/

/-- What tells the sections of headings apart. -/
def Heading.key (h : Heading) : HeadingKind × Text :=
  (h.kind, if h.number.isEmpty then Text.toLower h.title else h.number)

/-- The block is as long as a heading and mentions the appendix. -/
structure TextBlock.NamesAppendix (b : TextBlock) : Prop where
  two_le : 2 ≤ (Text.trim b.text).length
  le : (Text.trim b.text).length ≤ 150
  word : "appendix".toList <:+: Text.toLower (Text.trim b.text) ∨
    "附录".toList <:+: Text.trim b.text

theorem TextBlock.mentionsAppendix_iff {b : TextBlock} :
    b.mentionsAppendix = true ↔ b.NamesAppendix := by
  rw [mentionsAppendix, candidate?, Option.any_eq_true]
  constructor
  · rintro ⟨t, ht, hword⟩
    obtain ⟨hlength, ht⟩ := Option.ite_none_right_eq_some.1 ht
    obtain rfl := Option.some.inj ht
    simp only [Bool.and_eq_true, decide_eq_true_eq] at hlength
    rw [Bool.or_eq_true, Text.contains_iff_infix, Text.contains_iff_infix] at hword
    exact ⟨hlength.1, hlength.2, hword⟩
  · rintro ⟨htwo, hle, hword⟩
    refine ⟨_, if_pos (by simp [htwo, hle]), ?_⟩
    rwa [Bool.or_eq_true, Text.contains_iff_infix, Text.contains_iff_infix]

instance (b : TextBlock) : Decidable b.NamesAppendix :=
  decidable_of_iff _ TextBlock.mentionsAppendix_iff

theorem any_mentionsAppendix_iff {bs : List TextBlock} :
    bs.any (·.mentionsAppendix) = true ↔ ∃ b ∈ bs, b.NamesAppendix := by
  simp only [List.any_eq_true, TextBlock.mentionsAppendix_iff]

theorem HeadingKind.isAppendix_iff {k : HeadingKind} :
    k.isAppendix = true ↔ k = .appendix ∨ k = .appendixSubsection := by
  cases k <;> simp [HeadingKind.isAppendix]

/-- The keys of the headings among blocks. -/
def headingKeys (bs : List TextBlock) : List (HeadingKind × Text) :=
  bs.filterMap fun b => b.heading?.map Heading.key

/-- A heading with the key stands among the blocks. -/
def HasHeading (bs : List TextBlock) (k : HeadingKind × Text) : Prop :=
  ∃ b ∈ bs, ∃ h, b.heading? = some h ∧ h.key = k

theorem mem_headingKeys {bs : List TextBlock} {k : HeadingKind × Text} :
    k ∈ headingKeys bs ↔ HasHeading bs k := by
  simp [headingKeys, HasHeading, List.mem_filterMap]

instance (bs : List TextBlock) (k : HeadingKind × Text) : Decidable (HasHeading bs k) :=
  decidable_of_iff ((headingKeys bs).contains k = true)
    (List.contains_iff_mem.trans mem_headingKeys)

theorem headingKeys_append_singleton (bs : List TextBlock) (b : TextBlock) :
    headingKeys (bs ++ [b]) = headingKeys bs ++ (b.heading?.map Heading.key).toList := by
  rw [headingKeys, List.filterMap_append]
  cases hb : b.heading? <;> simp [headingKeys, hb]

namespace Section

/-- What the text of the heading says. -/
def heading (s : Section) : Heading :=
  ⟨s.kind, s.number, s.title, s.level⟩

theorem key_heading (s : Section) : s.heading.key = s.key :=
  rfl

/-! ## Block by block -/

section

variable {b : TextBlock} {h : Heading} (inAppendix : Bool) (seen : List (HeadingKind × Text))
  (bs : List TextBlock)

theorem collect_of_none (hb : b.heading? = none) : collect inAppendix seen (b :: bs) =
    collect (inAppendix || b.mentionsAppendix) seen bs := by
  rw [collect, hb]

theorem collect_of_some (hb : b.heading? = some h) : collect inAppendix seen (b :: bs) =
    if h.key ∈ seen then collect (inAppendix || b.mentionsAppendix) seen bs
    else ofHeading (inAppendix || b.mentionsAppendix) b h ::
      collect (inAppendix || b.mentionsAppendix) (h.key :: seen) bs := by
  rw [collect, hb]
  rfl

end

/-- Of the keys that were seen before only the members matter. -/
theorem collect_congr {seen seen' : List (HeadingKind × Text)} (h : ∀ k, k ∈ seen ↔ k ∈ seen')
    (inAppendix : Bool) (bs : List TextBlock) :
    collect inAppendix seen bs = collect inAppendix seen' bs := by
  induction bs generalizing inAppendix seen seen' with
  | nil => rfl
  | cons b bs ih =>
    cases hb : b.heading? with
    | none => rw [collect_of_none _ _ _ hb, collect_of_none _ _ _ hb, ih h]
    | some g =>
      have hkeys : ∀ k, k ∈ g.key :: seen ↔ k ∈ g.key :: seen' := fun k => by
        rw [List.mem_cons, List.mem_cons, h k]
      simp only [collect_of_some _ _ _ hb, h, ih h, ih hkeys]

/-- The sections of blocks behind other ones. -/
def behind (before bs : List TextBlock) : List Section :=
  collect (before.any (·.mentionsAppendix)) (headingKeys before) bs

/-- The section of a block behind other ones, if it is a heading with a new key. -/
def new? (before : List TextBlock) (b : TextBlock) : Option Section :=
  b.heading?.bind fun h =>
    if HasHeading before h.key then none
    else some (ofHeading ((before ++ [b]).any (·.mentionsAppendix)) b h)

theorem behind_cons (before : List TextBlock) (b : TextBlock) (bs : List TextBlock) :
    behind before (b :: bs) = (new? before b).toList ++ behind (before ++ [b]) bs := by
  have hany : (before.any (·.mentionsAppendix) || b.mentionsAppendix) =
      (before ++ [b]).any (·.mentionsAppendix) := by simp
  rw [behind, behind, new?, headingKeys_append_singleton, ← hany]
  cases hb : b.heading? with
  | none => simp [collect_of_none _ _ _ hb]
  | some h =>
    rw [collect_of_some _ _ _ hb, Option.bind_some, Option.map_some, Option.toList_some]
    by_cases hmem : h.key ∈ headingKeys before
    · rw [if_pos hmem, if_pos (mem_headingKeys.1 hmem)]
      refine collect_congr (fun k => ?_) _ _
      simpa using fun hk => hk ▸ hmem
    · rw [if_neg hmem, if_neg (mt mem_headingKeys.2 hmem)]
      refine congrArg (List.cons _) (collect_congr (fun k => ?_) _ _)
      simp [or_comm]

theorem behind_append (before bs bs' : List TextBlock) :
    behind before (bs ++ bs') = behind before bs ++ behind (before ++ bs) bs' := by
  induction bs generalizing before with
  | nil => simp [behind, collect]
  | cons b bs ih => simp [behind_cons, ih]

theorem collect_append (bs bs' : List TextBlock) :
    collect false [] (bs ++ bs') = collect false [] bs ++ behind bs bs' :=
  behind_append [] bs bs'

theorem collect_append_singleton (bs : List TextBlock) (b : TextBlock) :
    collect false [] (bs ++ [b]) = collect false [] bs ++ (new? bs b).toList := by
  rw [collect_append, behind_cons, behind, collect, List.append_nil]

/-- The section that the block at a place adds. -/
def newAt? (blocks : List TextBlock) (i : Nat) : Option Section :=
  blocks[i]?.bind (new? (blocks.take i))

theorem collect_eq_filterMap (blocks : List TextBlock) :
    collect false [] blocks = (List.range blocks.length).filterMap (newAt? blocks) := by
  induction blocks using List.reverseRecOn with
  | nil => rfl
  | append_singleton bs b ih =>
    have hfront : ∀ i ∈ List.range bs.length, newAt? (bs ++ [b]) i = newAt? bs i := by
      intro i hi
      have hlt := List.mem_range.1 hi
      rw [newAt?, newAt?, List.getElem?_append_left hlt, List.take_append_of_le_length hlt.le]
    have hlast : [bs.length].filterMap (newAt? (bs ++ [b])) = (new? bs b).toList := by
      cases hb : new? bs b <;> simp [newAt?, hb]
    rw [collect_append_singleton, ih, List.length_append, List.length_singleton,
      List.range_succ, List.filterMap_append, List.filterMap_congr hfront, hlast]

/-- Every heading has a section with its key. -/
theorem exists_mem_collect {bs : List TextBlock} {k : HeadingKind × Text}
    (hk : HasHeading bs k) : ∃ s ∈ collect false [] bs, s.key = k := by
  induction bs using List.reverseRecOn with
  | nil => simp [HasHeading] at hk
  | append_singleton bs b ih =>
    rw [collect_append_singleton]
    by_cases hseen : HasHeading bs k
    · obtain ⟨s, hs, hkey⟩ := ih hseen
      exact ⟨s, List.mem_append_left _ hs, hkey⟩
    · rw [← mem_headingKeys] at hk hseen
      rw [headingKeys_append_singleton, List.mem_append, Option.mem_toList,
        Option.map_eq_some_iff] at hk
      obtain ⟨h, hheading, rfl⟩ := hk.resolve_left hseen
      rw [mem_headingKeys] at hseen
      refine ⟨ofHeading ((bs ++ [b]).any (·.mentionsAppendix)) b h, ?_, rfl⟩
      rw [new?, hheading, Option.bind_some, if_neg hseen]
      exact List.mem_append_right _ (List.mem_singleton_self _)

/-! ## Places -/

/-- The section is that of the heading at the place `i`, the first one with its key. It belongs to
the appendix by its kind, or because that block or one before it mentions the appendix. -/
structure FoundAt (blocks : List TextBlock) (i : Nat) (s : Section) : Prop where
  heading : ∃ b, blocks[i]? = some b ∧ b.heading? = some s.heading ∧ b.page = s.page
  first : ¬HasHeading (blocks.take i) s.key
  isAppendix_iff : s.isAppendix = true ↔ s.kind = .appendix ∨ s.kind = .appendixSubsection ∨
    ∃ b ∈ blocks.take (i + 1), b.NamesAppendix

theorem new?_eq_some_iff {before : List TextBlock} {b : TextBlock} {s : Section} :
    new? before b = some s ↔ b.heading? = some s.heading ∧ b.page = s.page ∧
      ¬HasHeading before s.key ∧
      ((before ++ [b]).any (·.mentionsAppendix) || s.kind.isAppendix) = s.isAppendix := by
  rw [new?, Option.bind_eq_some_iff]
  constructor
  · rintro ⟨h, hheading, hnew⟩
    obtain ⟨hkey, hs⟩ := Option.ite_none_left_eq_some.1 hnew
    obtain rfl := Option.some.inj hs
    exact ⟨hheading, rfl, hkey, rfl⟩
  · rintro ⟨hheading, hpage, hkey, happendix⟩
    refine ⟨_, hheading, ?_⟩
    rw [key_heading, if_neg hkey, ofHeading, hpage]
    exact congrArg (fun a => some { s with isAppendix := a }) happendix

theorem newAt?_eq_some_iff {blocks : List TextBlock} {i : Nat} {s : Section} :
    newAt? blocks i = some s ↔ s.FoundAt blocks i := by
  rw [newAt?, Option.bind_eq_some_iff]
  have happendix : ∀ b, blocks[i]? = some b →
      (((blocks.take i ++ [b]).any (·.mentionsAppendix) || s.kind.isAppendix) = s.isAppendix ↔
        (s.isAppendix = true ↔ s.kind = .appendix ∨ s.kind = .appendixSubsection ∨
          ∃ b ∈ blocks.take (i + 1), b.NamesAppendix)) := by
    intro b hb
    rw [List.take_add_one, hb, Option.toList_some, ← any_mentionsAppendix_iff, ← or_assoc,
      ← HeadingKind.isAppendix_iff, ← Bool.or_eq_true, ← Bool.eq_iff_iff, Bool.or_comm, eq_comm]
  constructor
  · rintro ⟨b, hb, hnew⟩
    obtain ⟨hheading, hpage, hkey, hs⟩ := new?_eq_some_iff.1 hnew
    exact ⟨⟨b, hb, hheading, hpage⟩, hkey, (happendix b hb).1 hs⟩
  · rintro ⟨⟨b, hb, hheading, hpage⟩, hkey, hs⟩
    exact ⟨b, hb, new?_eq_some_iff.2 ⟨hheading, hpage, hkey, (happendix b hb).2 hs⟩⟩

variable {blocks : List TextBlock} {i j : Nat} {s t : Section}

theorem FoundAt.le_of_key_eq (hs : s.FoundAt blocks i) (ht : t.FoundAt blocks j)
    (hkey : s.key = t.key) : j ≤ i := by
  by_contra hlt
  obtain ⟨b, hb, hheading, -⟩ := hs.heading
  have hmem : b ∈ blocks.take j := by
    rw [← List.getElem?_take_of_lt (not_le.1 hlt)] at hb
    exact List.mem_of_getElem? hb
  exact ht.first ⟨b, hmem, _, hheading, hkey⟩

/-- There is one place and one section for each key. -/
theorem FoundAt.eq_of_key_eq (hs : s.FoundAt blocks i) (ht : t.FoundAt blocks j)
    (hkey : s.key = t.key) : i = j ∧ s = t := by
  have hij : i = j := le_antisymm (ht.le_of_key_eq hs hkey.symm) (hs.le_of_key_eq ht hkey)
  subst hij
  exact ⟨rfl, Option.some.inj
    ((newAt?_eq_some_iff.2 hs).symm.trans (newAt?_eq_some_iff.2 ht))⟩

theorem mem_collect_iff : s ∈ collect false [] blocks ↔ ∃ i, s.FoundAt blocks i := by
  rw [collect_eq_filterMap, List.mem_filterMap]
  refine exists_congr fun i => ?_
  rw [newAt?_eq_some_iff, List.mem_range]
  refine and_iff_right_of_imp fun h => ?_
  obtain ⟨b, hb, -⟩ := h.heading
  exact (List.getElem?_eq_some_iff.1 hb).1

/-- Sections are collected in the order of their blocks. -/
theorem pairwise_collect : (collect false [] blocks).Pairwise fun s t =>
    ∀ i j, s.FoundAt blocks i → t.FoundAt blocks j → i < j := by
  rw [collect_eq_filterMap, List.pairwise_filterMap]
  refine List.pairwise_lt_range.imp fun {i j} hij s hs t ht i' j' hs' ht' => ?_
  obtain ⟨rfl, -⟩ := (newAt?_eq_some_iff.1 hs).eq_of_key_eq hs' rfl
  obtain ⟨rfl, -⟩ := (newAt?_eq_some_iff.1 ht).eq_of_key_eq ht' rfl
  exact hij

theorem nodup_collect : (collect false [] blocks).map key |>.Nodup := by
  refine List.pairwise_map.2 (pairwise_collect.imp_of_mem fun {s t} hs ht hlt hkey => ?_)
  obtain ⟨i, hi⟩ := mem_collect_iff.1 hs
  obtain ⟨j, hj⟩ := mem_collect_iff.1 ht
  exact (hlt i j hi hj).ne (hi.eq_of_key_eq hj hkey).1

/-! ## The order by page and number -/

theorem le_iff : s.le t = true ↔ s.page < t.page ∨ s.page = t.page ∧ s.number ≤ t.number := by
  rw [le, Bool.or_eq_true, Bool.and_eq_true, decide_eq_true_eq, decide_eq_true_eq,
    Text.le_eq_true_iff]

theorem le_trans (r s t : Section) (hrs : r.le s = true) (hst : s.le t = true) :
    r.le t = true := by
  rw [le_iff] at *
  rcases hrs with h | ⟨h, hnumber⟩ <;> rcases hst with h' | ⟨h', hnumber'⟩
  · exact .inl (h.trans h')
  · exact .inl (h.trans_eq h')
  · exact .inl (h.trans_lt h')
  · exact .inr ⟨h.trans h', hnumber.trans hnumber'⟩

theorem le_or_le (s t : Section) : (s.le t || t.le s) = true := by
  rw [Bool.or_eq_true, le_iff, le_iff]
  rcases lt_trichotomy s.page t.page with h | h | h
  · exact .inl (.inl h)
  · exact (le_total s.number t.number).imp (fun hle => .inr ⟨h, hle⟩)
      fun hle => .inr ⟨h.symm, hle⟩
  · exact .inr (.inl h)

end Section

/-! ## The listing -/

/-- The sections are the headings of the blocks, each key once, by page and number. -/
structure HeadingsListed (blocks : List TextBlock) (ss : List Section) : Prop where
  sorted : ss.Pairwise fun s t => s.page < t.page ∨ s.page = t.page ∧ s.number ≤ t.number
  /-- Ties are in the order of the blocks. -/
  ties : ss.Pairwise fun s t => s.page = t.page → s.number = t.number →
    ∀ i j, s.FoundAt blocks i → t.FoundAt blocks j → i < j
  keys : (ss.map Section.key).Nodup
  all : ∀ k, HasHeading blocks k → ∃ s ∈ ss, s.key = k
  found : ∀ s ∈ ss, ∃ i, s.FoundAt blocks i

theorem headingsListed_sections (blocks : List TextBlock) :
    HeadingsListed blocks (sections blocks) := by
  have hperm := List.mergeSort_perm (Section.collect false [] blocks) Section.le
  have hsorted := pairwise_mergeSort_stable Section.le_trans Section.le_or_le
    (@Section.pairwise_collect blocks)
  constructor
  · exact hsorted.imp fun h => Section.le_iff.1 h.1
  · exact hsorted.imp fun h hpage hnumber =>
      h.2 (Section.le_iff.2 (.inr ⟨hpage.symm, hnumber.symm.le⟩))
  · exact (hperm.map _).nodup_iff.2 Section.nodup_collect
  · intro k hk
    obtain ⟨s, hs, hkey⟩ := Section.exists_mem_collect hk
    exact ⟨s, hperm.mem_iff.2 hs, hkey⟩
  · exact fun s hs => Section.mem_collect_iff.1 (hperm.mem_iff.1 hs)

namespace HeadingsListed

variable {blocks : List TextBlock} {ss : List Section}

theorem mem_iff (h : HeadingsListed blocks ss) {s : Section} :
    s ∈ ss ↔ ∃ i, s.FoundAt blocks i := by
  refine ⟨h.found s, fun ⟨i, hi⟩ => ?_⟩
  obtain ⟨b, hb, hheading, -⟩ := hi.heading
  obtain ⟨t, ht, hkey⟩ := h.all s.key ⟨b, List.mem_of_getElem? hb, _, hheading, rfl⟩
  obtain ⟨j, hj⟩ := h.found t ht
  obtain ⟨-, rfl⟩ := hj.eq_of_key_eq hi hkey
  exact ht

end HeadingsListed

/-- The list of sections is the listing of the headings. -/
theorem headingsListed_iff {blocks : List TextBlock} {ss : List Section} :
    HeadingsListed blocks ss ↔ ss = sections blocks := by
  refine ⟨fun h => ?_, fun h => h ▸ headingsListed_sections blocks⟩
  have h' := headingsListed_sections blocks
  have hperm : ss.Perm (sections blocks) :=
    (List.perm_ext_iff_of_nodup (h.keys.of_map _) (h'.keys.of_map _)).2 fun s => by
      rw [h.mem_iff, h'.mem_iff]
  refine hperm.eq_of_pairwise ?_ (h.sorted.and h.ties) (h'.sorted.and h'.ties)
  rintro s t hs ht ⟨hst, htie⟩ ⟨hts, htie'⟩
  obtain ⟨i, hi⟩ := h.found s hs
  obtain ⟨j, hj⟩ := h'.found t ht
  have hpage : s.page = t.page := by omega
  have hnumber : s.number = t.number :=
    le_antisymm (hst.resolve_left hpage.not_lt).2 (hts.resolve_left hpage.not_gt).2
  exact absurd (htie hpage hnumber i j hi hj) (htie' hpage.symm hnumber.symm j i hj hi).not_gt

end LatexRepair
