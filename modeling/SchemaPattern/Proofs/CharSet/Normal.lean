import Mathlib.Data.List.Basic
import SchemaPattern.Proofs.CharSet.Spans

/-!
# The normal form of sets of characters

Every operation yields a set in normal form, and says of each character whether it is in the
result.  Two sets in normal form with the same characters are equal.
-/

namespace SchemaPattern

namespace CharSet

/-- Ascending ranges, none of them empty or across the surrogates, and no two of them touching. -/
structure Normal (s : CharSet) : Prop where
  ordered : ∀ r ∈ s.ranges.toList, r.first.toNat ≤ r.last.toNat
  one_side : ∀ r ∈ s.ranges.toList,
    r.last.toNat < firstSurrogate ∨ lastSurrogate < r.first.toNat
  separated : s.ranges.toList.Pairwise fun r t => r.last.toNat + 1 < t.first.toNat

theorem mem_iff_toList {c : Char} {s : CharSet} : c ∈ s ↔ ∃ r ∈ s.ranges.toList, c ∈ r := by
  simp [mem_def]

theorem normal_empty : Normal ∅ where
  ordered := by simp [EmptyCollection.emptyCollection]
  one_side := by simp [EmptyCollection.emptyCollection]
  separated := by simp [EmptyCollection.emptyCollection]

/-! ## Sets of spans -/

theorem normal_characters {spans : List (Nat × Nat)} (ho : Ordered spans) (hb : Bounded spans)
    (hs : Separated spans) : Normal ⟨(spans.flatMap characters).toArray⟩ := by
  have hpart : ∀ s ∈ spans, ∀ r ∈ characters s, PartOf s r := fun s hmem =>
    partOf_characters (ho s hmem) (hb s hmem)
  constructor
  · intro r hr
    obtain ⟨s, hmem, hrs⟩ := List.mem_flatMap.1 hr
    exact (hpart s hmem r hrs).ordered
  · intro r hr
    obtain ⟨s, hmem, hrs⟩ := List.mem_flatMap.1 hr
    exact (hpart s hmem r hrs).one_side
  · refine List.pairwise_flatMap.2 ⟨fun s hmem => pairwise_characters (hb s hmem), ?_⟩
    apply hs.imp_of_mem
    intro s t hsmem htmem hapart r hr u hu
    have hlast := (hpart s hsmem r hr).le_last
    have hfirst := (hpart t htmem u hu).first_le
    omega

theorem mem_of_characters {spans : List (Nat × Nat)} (ho : Ordered spans) (hb : Bounded spans)
    (c : Char) : c ∈ (⟨(spans.flatMap characters).toArray⟩ : CharSet) ↔
      Covers spans c.toNat := by
  rw [mem_iff_toList]
  constructor
  · rintro ⟨r, hr, hc⟩
    obtain ⟨s, hmem, hrs⟩ := List.mem_flatMap.1 hr
    exact ⟨s, hmem, (mem_characters (ho s hmem) (hb s hmem) c).1 ⟨r, hrs, hc⟩⟩
  · rintro ⟨s, hmem, hwithin⟩
    obtain ⟨r, hrs, hc⟩ := (mem_characters (ho s hmem) (hb s hmem) c).2 hwithin
    exact ⟨r, List.mem_flatMap.2 ⟨s, hmem, hrs⟩, hc⟩

def sortedSpans (spans : List (Nat × Nat)) : List (Nat × Nat) :=
  (spans.filter fun s => s.1 ≤ s.2).mergeSort spanLE

theorem ordered_sortedSpans (spans : List (Nat × Nat)) : Ordered (sortedSpans spans) := by
  intro s hs
  rw [sortedSpans, List.mem_mergeSort, List.mem_filter] at hs
  simpa using hs.2

theorem bounded_sortedSpans {spans : List (Nat × Nat)} (hb : Bounded spans) :
    Bounded (sortedSpans spans) := by
  intro s hs
  rw [sortedSpans, List.mem_mergeSort, List.mem_filter] at hs
  exact hb s hs.1

theorem ascending_sortedSpans (spans : List (Nat × Nat)) : Ascending (sortedSpans spans) := by
  have hsorted : (sortedSpans spans).Pairwise fun s t => spanLE s t = true := by
    refine List.pairwise_mergeSort ?_ ?_ _
    · intro s t u hst htu
      simp only [spanLE, Bool.or_eq_true, Bool.and_eq_true, decide_eq_true_eq, beq_iff_eq] at *
      omega
    · intro s t
      simp only [spanLE, Bool.or_eq_true, Bool.and_eq_true, decide_eq_true_eq, beq_iff_eq]
      omega
  apply hsorted.imp
  intro s t hst
  simp only [spanLE, Bool.or_eq_true, Bool.and_eq_true, decide_eq_true_eq, beq_iff_eq] at hst
  omega

theorem covers_sortedSpans (spans : List (Nat × Nat)) (n : Nat) :
    Covers (sortedSpans spans) n ↔ Covers spans n := by
  constructor
  · rintro ⟨s, hs, hn⟩
    rw [sortedSpans, List.mem_mergeSort, List.mem_filter] at hs
    exact ⟨s, hs.1, hn⟩
  · rintro ⟨s, hs, hn⟩
    have hordered : s.1 ≤ s.2 := Nat.le_trans hn.1 hn.2
    refine ⟨s, ?_, hn⟩
    rw [sortedSpans, List.mem_mergeSort, List.mem_filter]
    exact ⟨hs, by simpa using hordered⟩

theorem normal_ofSpans {spans : List (Nat × Nat)} (hb : Bounded spans) :
    (ofSpans spans).Normal :=
  normal_characters (ordered_joinTouching (ordered_sortedSpans spans))
    (bounded_joinTouching (bounded_sortedSpans hb))
    (separated_joinTouching (ascending_sortedSpans spans))

theorem mem_ofSpans {spans : List (Nat × Nat)} (hb : Bounded spans) (c : Char) :
    c ∈ ofSpans spans ↔ Covers spans c.toNat := by
  have ho := ordered_sortedSpans spans
  calc c ∈ ofSpans spans
      ↔ Covers (joinTouching (sortedSpans spans)) c.toNat :=
        mem_of_characters (ordered_joinTouching ho)
          (bounded_joinTouching (bounded_sortedSpans hb)) c
    _ ↔ Covers (sortedSpans spans) c.toNat :=
        covers_joinTouching ho (ascending_sortedSpans spans) _
    _ ↔ Covers spans c.toNat := covers_sortedSpans spans _

/-! ## Sets of ranges -/

theorem bounded_spans (ranges : List CharRange) : Bounded (ranges.map CharRange.span) := by
  intro s hs
  obtain ⟨r, -, rfl⟩ := List.mem_map.1 hs
  exact toNat_le_max r.last

theorem covers_spans {ranges : List CharRange} {c : Char} :
    Covers (ranges.map CharRange.span) c.toNat ↔ ∃ r ∈ ranges, c ∈ r := by
  simp only [Covers, List.mem_map, exists_exists_and_eq_and]
  rfl

theorem normal_ofRanges (ranges : List CharRange) : (ofRanges ranges).Normal :=
  normal_ofSpans (bounded_spans ranges)

@[simp] theorem mem_ofRanges {ranges : List CharRange} {c : Char} :
    c ∈ ofRanges ranges ↔ ∃ r ∈ ranges, c ∈ r := by
  rw [ofRanges, mem_ofSpans (bounded_spans ranges), covers_spans]

@[simp] theorem mem_single {c d : Char} : d ∈ single c ↔ d = c := by
  simp only [single, mem_ofRanges, List.mem_singleton, exists_eq_left, CharRange.mem_iff_toNat,
    CharRange.single, ← Char.toNat_inj]
  omega

theorem normal_union (s t : CharSet) : (s.union t).Normal := normal_ofRanges _

@[simp] theorem mem_union {s t : CharSet} {c : Char} : c ∈ s.union t ↔ c ∈ s ∨ c ∈ t := by
  rw [union, mem_ofRanges, mem_iff_toList, mem_iff_toList]
  simp only [List.mem_append, or_and_right, exists_or]

/-! ## Complements -/

theorem normal_complement {s : CharSet} (h : s.Normal) : s.complement.Normal :=
  normal_characters (ordered_gaps 0 _) (bounded_gaps 0 _) (separated_gaps h.ordered h.separated)

theorem mem_complement {s : CharSet} (h : s.Normal) {c : Char} : c ∈ s.complement ↔ c ∉ s := by
  rw [complement, mem_of_characters (ordered_gaps 0 _) (bounded_gaps 0 _),
    covers_gaps h.ordered h.separated (fun _ _ => Nat.zero_le _) (toNat_le_max c),
    covers_spans, ← mem_iff_toList]
  simp

theorem normal_inter (s t : CharSet) : (s.inter t).Normal :=
  normal_complement (normal_union _ _)

theorem mem_inter {s t : CharSet} (hs : s.Normal) (ht : t.Normal) {c : Char} :
    c ∈ s.inter t ↔ c ∈ s ∧ c ∈ t := by
  rw [inter, mem_complement (normal_union _ _), mem_union, mem_complement hs, mem_complement ht]
  simp

/-! ## Equal sets -/

/-- The first range of a set starts at its least character. -/
theorem first_le_of_mem {r : CharRange} {rest : List CharRange}
    (hs : (r :: rest).Pairwise fun r t => r.last.toNat + 1 < t.first.toNat)
    (ho : r.first.toNat ≤ r.last.toNat) {c : Char} (hc : ∃ t ∈ r :: rest, c ∈ t) :
    r.first.toNat ≤ c.toNat := by
  obtain ⟨t, ht, hct⟩ := hc
  rcases List.mem_cons.1 ht with rfl | ht
  · exact hct.1
  · have hafter := (List.pairwise_cons.1 hs).1 t ht
    have hfirst := (CharRange.mem_iff_toNat.1 hct).1
    omega

/-- Where the first ranges of two sets start at the same character, the one that ends earlier is
followed by a character that is not in its set. -/
theorem last_le_of_subset {r t : CharRange} {rest others : List CharRange}
    (hs : (r :: rest).Pairwise fun r t => r.last.toNat + 1 < t.first.toNat)
    (hr : r.last.toNat < firstSurrogate ∨ lastSurrogate < r.first.toNat)
    (ht : t.last.toNat < firstSurrogate ∨ lastSurrogate < t.first.toNat)
    (hfirst : r.first.toNat = t.first.toNat) (ho : r.first.toNat ≤ r.last.toNat)
    (hsub : ∀ c : Char, (∃ u ∈ t :: others, c ∈ u) → ∃ u ∈ r :: rest, c ∈ u) :
    t.last.toNat ≤ r.last.toNat := by
  by_contra hlt
  have hmax := toNat_le_max t.last
  have hvalid : (r.last.toNat + 1).isValidChar := by
    simp only [Nat.isValidChar, maxCodePoint, firstSurrogate, lastSurrogate] at *
    omega
  have hnumber := toNat_ofNat_of_valid hvalid
  obtain ⟨u, hu, hmem⟩ := hsub (Char.ofNat (r.last.toNat + 1))
    ⟨t, List.mem_cons_self, by rw [CharRange.mem_iff_toNat, hnumber]; omega⟩
  rw [CharRange.mem_iff_toNat, hnumber] at hmem
  rcases List.mem_cons.1 hu with rfl | hu
  · omega
  · have hafter := (List.pairwise_cons.1 hs).1 u hu
    omega

theorem notMem_of_mem_tail {r : CharRange} {rest : List CharRange} {c : Char}
    (hs : (r :: rest).Pairwise fun r t => r.last.toNat + 1 < t.first.toNat)
    (hc : ∃ t ∈ rest, c ∈ t) : c ∉ r := by
  intro hcr
  obtain ⟨t, ht, hct⟩ := hc
  have hafter := (List.pairwise_cons.1 hs).1 t ht
  rw [CharRange.mem_iff_toNat] at hcr hct
  omega

theorem ranges_eq_of_mem_iff {ranges others : List CharRange}
    (h : Normal ⟨ranges.toArray⟩) (g : Normal ⟨others.toArray⟩)
    (hmem : ∀ c : Char, (∃ r ∈ ranges, c ∈ r) ↔ ∃ r ∈ others, c ∈ r) : ranges = others := by
  induction ranges generalizing others with
  | nil =>
      cases others with
      | nil => rfl
      | cons t others =>
          have hfirst : t.first ∈ t := ⟨Nat.le_refl _, g.ordered t (by simp)⟩
          obtain ⟨r, hr, -⟩ := (hmem t.first).2 ⟨t, by simp, hfirst⟩
          cases hr
  | cons r rest ih =>
      cases others with
      | nil =>
          have hfirst : r.first ∈ r := ⟨Nat.le_refl _, h.ordered r (by simp)⟩
          obtain ⟨t, ht, -⟩ := (hmem r.first).1 ⟨r, by simp, hfirst⟩
          cases ht
      | cons t others =>
          obtain ⟨ho, hone, hs⟩ := h
          obtain ⟨go, gone, gs⟩ := g
          simp only [List.forall_mem_cons] at ho hone go gone hs gs
          have hfirst : r.first.toNat = t.first.toNat := by
            have hle := first_le_of_mem hs ho.1
              ((hmem t.first).2 ⟨t, by simp, Nat.le_refl _, go.1⟩)
            have hge := first_le_of_mem gs go.1
              ((hmem r.first).1 ⟨r, by simp, Nat.le_refl _, ho.1⟩)
            omega
          have hlast : r.last.toNat = t.last.toNat := by
            have hle := last_le_of_subset gs gone.1 hone.1 hfirst.symm go.1
              fun c hc => (hmem c).1 hc
            have hge := last_le_of_subset hs hone.1 gone.1 hfirst ho.1
              fun c hc => (hmem c).2 hc
            omega
          have hhead : r = t := by
            cases r
            cases t
            simp only [Char.toNat_inj] at hfirst hlast
            rw [hfirst, hlast]
          subst hhead
          have htail : rest = others := by
            refine ih ⟨ho.2, hone.2, hs.of_cons⟩ ⟨go.2, gone.2, gs.of_cons⟩ ?_
            intro c
            have hiff := hmem c
            simp only [List.mem_cons, or_and_right, exists_or, exists_eq_left] at hiff
            constructor
            · intro hc
              exact (hiff.1 (.inr hc)).resolve_left (notMem_of_mem_tail hs hc)
            · intro hc
              exact (hiff.2 (.inr hc)).resolve_left (notMem_of_mem_tail gs hc)
          rw [htail]

theorem Normal.ext {s t : CharSet} (hs : s.Normal) (ht : t.Normal)
    (h : ∀ c : Char, c ∈ s ↔ c ∈ t) : s = t := by
  simp only [mem_iff_toList] at h
  have hranges : s.ranges.toList = t.ranges.toList :=
    ranges_eq_of_mem_iff hs ht h
  cases s
  cases t
  simpa using hranges

theorem Normal.ofRanges_toList {s : CharSet} (h : s.Normal) : ofRanges s.ranges.toList = s :=
  (normal_ofRanges _).ext h fun c => by rw [mem_ofRanges, mem_iff_toList]

/-! ## Search -/

section

variable {ranges : Array CharRange} {c : Char}

theorem last_lt_first {i j : Nat} {hi : i < ranges.size} {hj : j < ranges.size}
    (hs : ranges.toList.Pairwise fun r t => r.last.toNat + 1 < t.first.toNat) (hij : i < j) :
    ranges[i].last.toNat < ranges[j].first.toNat := by
  have hafter := List.pairwise_iff_getElem.1 hs i j hi hj hij
  exact Nat.lt_of_succ_lt hafter

theorem index_gt_of_last_lt {i mid : Nat} {hi : i < ranges.size} {hmid : mid < ranges.size}
    (hs : ranges.toList.Pairwise fun r t => r.last.toNat + 1 < t.first.toNat)
    (ho : ∀ r ∈ ranges.toList, r.first.toNat ≤ r.last.toNat)
    (hlast : ranges[mid].last < c) (hc : c ∈ ranges[i]) : mid < i := by
  rw [char_lt_iff] at hlast
  rw [CharRange.mem_iff_toNat] at hc
  rcases Nat.lt_trichotomy i mid with hlt | rfl | hgt
  · have hafter : ranges[i].last.toNat < ranges[mid].first.toNat := last_lt_first hs hlt
    have hordered := ho ranges[mid] (by simp)
    omega
  · omega
  · exact hgt

theorem index_lt_of_lt_first {i mid : Nat} {hi : i < ranges.size} {hmid : mid < ranges.size}
    (hs : ranges.toList.Pairwise fun r t => r.last.toNat + 1 < t.first.toNat)
    (ho : ∀ r ∈ ranges.toList, r.first.toNat ≤ r.last.toNat)
    (hfirst : c < ranges[mid].first) (hc : c ∈ ranges[i]) : i < mid := by
  rw [char_lt_iff] at hfirst
  rw [CharRange.mem_iff_toNat] at hc
  rcases Nat.lt_trichotomy i mid with hlt | rfl | hgt
  · exact hlt
  · omega
  · have hafter : ranges[mid].last.toNat < ranges[i].first.toNat := last_lt_first hs hgt
    have hordered := ho ranges[mid] (by simp)
    omega

theorem search_iff {lo hi : Nat} {h : hi ≤ ranges.size}
    (hs : ranges.toList.Pairwise fun r t => r.last.toNat + 1 < t.first.toNat)
    (ho : ∀ r ∈ ranges.toList, r.first.toNat ≤ r.last.toNat) :
    search ranges c lo hi h = true ↔
      ∃ i, ∃ hi' : i < ranges.size, lo ≤ i ∧ i < hi ∧ c ∈ ranges[i] := by
  fun_induction search ranges c lo hi h with
  | case1 lo hi h hlt mid hmid r hlast ih =>
      apply Iff.trans ih
      constructor
      · rintro ⟨i, hi', hlo, hhi, hc⟩
        exact ⟨i, hi', by omega, hhi, hc⟩
      · rintro ⟨i, hi', hlo, hhi, hc⟩
        exact ⟨i, hi', index_gt_of_last_lt hs ho hlast hc, hhi, hc⟩
  | case2 lo hi h hlt mid hmid r hlast hfirst ih =>
      apply Iff.trans ih
      constructor
      · rintro ⟨i, hi', hlo, hhi, hc⟩
        exact ⟨i, hi', hlo, by omega, hc⟩
      · rintro ⟨i, hi', hlo, hhi, hc⟩
        exact ⟨i, hi', hlo, index_lt_of_lt_first hs ho hfirst hc, hc⟩
  | case3 lo hi h hlt mid hmid r hlast hfirst =>
      rw [char_lt_iff] at hlast hfirst
      refine iff_of_true rfl ⟨mid, by omega, by omega, hmid, ?_⟩
      exact CharRange.mem_iff_toNat.2 ⟨Nat.le_of_not_lt hfirst, Nat.le_of_not_lt hlast⟩
  | case4 lo hi h hle =>
      apply iff_of_false (by simp)
      rintro ⟨i, -, hlo, hhi, -⟩
      omega

end

theorem Normal.contains_iff {s : CharSet} (h : s.Normal) {c : Char} :
    s.contains c = true ↔ c ∈ s := by
  rw [contains, search_iff h.separated h.ordered, mem_def]
  constructor
  · rintro ⟨i, hi, -, -, hc⟩
    exact ⟨s.ranges[i], by simp, hc⟩
  · rintro ⟨r, hr, hc⟩
    obtain ⟨i, hi, rfl⟩ := Array.mem_iff_getElem.1 hr
    exact ⟨i, hi, Nat.zero_le _, hi, hc⟩

end CharSet

end SchemaPattern
