import SchemaPattern.CharSet

/-!
# Spans of code points

What joining touching spans, taking the gaps between ranges, and cutting out the surrogates do to
the code points that are covered, and to the order of what covers them.
-/

namespace SchemaPattern

/-! ## Characters by number -/

theorem char_lt_iff {c d : Char} : c < d ↔ c.toNat < d.toNat := Iff.rfl

theorem toNat_ofNat_of_valid {n : Nat} (h : n.isValidChar) : (Char.ofNat n).toNat = n := by
  rw [Char.ofNat, dif_pos h]
  rfl

theorem toNat_valid (c : Char) : c.toNat.isValidChar := c.valid

theorem toNat_le_max (c : Char) : c.toNat ≤ CharSet.maxCodePoint := by
  have h := toNat_valid c
  simp only [Nat.isValidChar, CharSet.maxCodePoint] at *
  omega

theorem CharRange.mem_iff_toNat {c : Char} {r : CharRange} :
    c ∈ r ↔ r.first.toNat ≤ c.toNat ∧ c.toNat ≤ r.last.toNat := Iff.rfl

namespace CharSet

/-! ## Coverage -/

def Within (s : Nat × Nat) (n : Nat) : Prop := s.1 ≤ n ∧ n ≤ s.2

def Covers (spans : List (Nat × Nat)) (n : Nat) : Prop := ∃ s ∈ spans, Within s n

@[simp] theorem covers_nil (n : Nat) : Covers [] n ↔ False := by simp [Covers]

@[simp] theorem covers_cons (s : Nat × Nat) (spans : List (Nat × Nat)) (n : Nat) :
    Covers (s :: spans) n ↔ Within s n ∨ Covers spans n := by
  simp [Covers]

def Bounded (spans : List (Nat × Nat)) : Prop := ∀ s ∈ spans, s.2 ≤ maxCodePoint

instance (spans : List (Nat × Nat)) : Decidable (Bounded spans) :=
  inferInstanceAs (Decidable (∀ s ∈ spans, s.2 ≤ maxCodePoint))

theorem bounded_append {spans others : List (Nat × Nat)} :
    Bounded (spans ++ others) ↔ Bounded spans ∧ Bounded others := by
  simp only [Bounded, List.forall_mem_append]

def Ordered (spans : List (Nat × Nat)) : Prop := ∀ s ∈ spans, s.1 ≤ s.2

def Ascending (spans : List (Nat × Nat)) : Prop := spans.Pairwise fun s t => s.1 ≤ t.1

/-- Between two spans there is a code point that neither covers. -/
def Separated (spans : List (Nat × Nat)) : Prop := spans.Pairwise fun s t => s.2 + 1 < t.1

/-! ## Joining -/

theorem covers_joinTouching {spans : List (Nat × Nat)} (ho : Ordered spans)
    (ha : Ascending spans) (n : Nat) : Covers (joinTouching spans) n ↔ Covers spans n := by
  fun_induction joinTouching spans with
  | case1 => rfl
  | case2 => rfl
  | case3 s t rest htouch ih =>
      simp only [Ordered, Ascending, List.forall_mem_cons, List.pairwise_cons] at ho ha ih
      obtain ⟨hs, ht, hrest⟩ := ho
      obtain ⟨⟨hst, hsrest⟩, htrest, hpair⟩ := ha
      have hjoined : Within (s.1, max s.2 t.2) n ↔ Within s n ∨ Within t n := by
        simp only [Within]
        omega
      rw [ih ⟨by omega, hrest⟩ ⟨hsrest, hpair⟩, covers_cons, covers_cons, covers_cons,
        hjoined, or_assoc]
  | case4 s t rest hapart ih =>
      have htail : Ordered (t :: rest) := fun u hu => ho u (List.mem_cons_of_mem _ hu)
      rw [covers_cons, ih htail (List.Pairwise.of_cons ha), ← covers_cons]

theorem ordered_joinTouching {spans : List (Nat × Nat)} (ho : Ordered spans) :
    Ordered (joinTouching spans) := by
  fun_induction joinTouching spans with
  | case1 => exact ho
  | case2 => exact ho
  | case3 s t rest htouch ih =>
      simp only [Ordered, List.forall_mem_cons] at ho ih
      exact ih ⟨by omega, ho.2.2⟩
  | case4 s t rest hapart ih =>
      simp only [Ordered, List.forall_mem_cons] at ho ih ⊢
      exact ⟨ho.1, ih ho.2⟩

theorem bounded_joinTouching {spans : List (Nat × Nat)} (hb : Bounded spans) :
    Bounded (joinTouching spans) := by
  fun_induction joinTouching spans with
  | case1 => exact hb
  | case2 => exact hb
  | case3 s t rest htouch ih =>
      simp only [Bounded, List.forall_mem_cons] at hb ih
      exact ih ⟨by omega, hb.2.2⟩
  | case4 s t rest hapart ih =>
      simp only [Bounded, List.forall_mem_cons] at hb ih ⊢
      exact ⟨hb.1, ih hb.2⟩

theorem le_first_joinTouching {spans : List (Nat × Nat)} {n : Nat}
    (h : ∀ s ∈ spans, n ≤ s.1) : ∀ s ∈ joinTouching spans, n ≤ s.1 := by
  fun_induction joinTouching spans with
  | case1 => exact h
  | case2 => exact h
  | case3 s t rest htouch ih =>
      simp only [List.forall_mem_cons] at h ih
      exact ih ⟨h.1, h.2.2⟩
  | case4 s t rest hapart ih =>
      simp only [List.forall_mem_cons] at h ih ⊢
      exact ⟨h.1, ih h.2⟩

theorem separated_joinTouching {spans : List (Nat × Nat)} (ha : Ascending spans) :
    Separated (joinTouching spans) := by
  fun_induction joinTouching spans with
  | case1 => exact List.Pairwise.nil
  | case2 => exact List.pairwise_singleton ..
  | case3 s t rest htouch ih =>
      simp only [Ascending, List.pairwise_cons, List.forall_mem_cons] at ha ih
      exact ih ⟨ha.1.2, ha.2.2⟩
  | case4 s t rest hapart ih =>
      simp only [Ascending, List.pairwise_cons] at ha ih
      have hlater : ∀ u ∈ joinTouching (t :: rest), t.1 ≤ u.1 :=
        le_first_joinTouching (by simpa using ha.2.1)
      refine List.pairwise_cons.2 ⟨?_, ih ha.2⟩
      intro u hu
      have := hlater u hu
      omega

/-! ## Gaps -/

/-- A code point from `start` on is in a gap exactly if no range has it. -/
theorem covers_gaps {ranges : List CharRange} {start n : Nat}
    (ho : ∀ r ∈ ranges, r.first.toNat ≤ r.last.toNat)
    (hs : ranges.Pairwise fun r t => r.last.toNat + 1 < t.first.toNat)
    (hstart : ∀ r ∈ ranges, start ≤ r.first.toNat) (hn : n ≤ maxCodePoint) :
    Covers (gaps start ranges) n ↔ start ≤ n ∧ ¬ Covers (ranges.map CharRange.span) n := by
  induction ranges generalizing start with
  | nil =>
      unfold gaps
      split
      · simp [Within, hn]
      · simp only [covers_nil, List.map_nil, false_iff]
        omega
  | cons r rest ih =>
      simp only [List.forall_mem_cons, List.pairwise_cons] at ho hs hstart
      have hnext : ∀ t ∈ rest, r.last.toNat + 1 ≤ t.first.toNat := fun t ht =>
        Nat.le_of_lt (hs.1 t ht)
      have hrest := ih ho.2 hs.2 hnext
      have hbehind : Covers (rest.map CharRange.span) n → r.last.toNat < n := by
        rintro ⟨s, hmem, hfirst, -⟩
        obtain ⟨t, ht, rfl⟩ := List.mem_map.1 hmem
        have := hnext t ht
        simp only [CharRange.span] at hfirst
        omega
      simp only [gaps, List.map_cons, covers_cons, Within, CharRange.span]
      have hfirst := hstart.1
      have hordered := ho.1
      by_cases hcovered : Covers (rest.map CharRange.span) n
      · have := hbehind hcovered
        split
        · simp only [covers_cons, hrest, Within, hcovered, or_true, not_true_eq_false,
            and_false, or_false, iff_false]
          omega
        · simp only [hrest, hcovered, or_true, not_true_eq_false, and_false]
      · split
        · simp only [covers_cons, hrest, Within, hcovered, or_false, not_false_eq_true,
            and_true]
          omega
        · simp only [hrest, hcovered, or_false, not_false_eq_true,
            and_true]
          omega

theorem ordered_gaps (start : Nat) (ranges : List CharRange) : Ordered (gaps start ranges) := by
  induction ranges generalizing start with
  | nil =>
      unfold gaps
      split <;> simp [Ordered, *]
  | cons r rest ih =>
      unfold gaps
      split
      · exact List.forall_mem_cons.2 ⟨by simp only; omega, ih _⟩
      · exact ih _

theorem bounded_gaps (start : Nat) (ranges : List CharRange) : Bounded (gaps start ranges) := by
  induction ranges generalizing start with
  | nil =>
      unfold gaps
      split <;> simp [Bounded]
  | cons r rest ih =>
      unfold gaps
      split
      · have := toNat_le_max r.first
        exact List.forall_mem_cons.2 ⟨by simp only; omega, ih _⟩
      · exact ih _

theorem le_first_gaps {start n : Nat} {ranges : List CharRange} (hn : n ≤ start)
    (ho : ∀ r ∈ ranges, n ≤ r.last.toNat) : ∀ s ∈ gaps start ranges, n ≤ s.1 := by
  induction ranges generalizing start with
  | nil =>
      unfold gaps
      split <;> simp [hn]
  | cons r rest ih =>
      simp only [List.forall_mem_cons] at ho
      have hrest : ∀ s ∈ gaps (r.last.toNat + 1) rest, n ≤ s.1 := ih (by omega) ho.2
      unfold gaps
      split
      · exact List.forall_mem_cons.2 ⟨hn, hrest⟩
      · exact hrest

theorem separated_gaps {start : Nat} {ranges : List CharRange}
    (ho : ∀ r ∈ ranges, r.first.toNat ≤ r.last.toNat)
    (hs : ranges.Pairwise fun r t => r.last.toNat + 1 < t.first.toNat) :
    Separated (gaps start ranges) := by
  induction ranges generalizing start with
  | nil =>
      unfold gaps
      split <;> simp [Separated]
  | cons r rest ih =>
      simp only [List.forall_mem_cons, List.pairwise_cons] at ho hs
      have hrest : Separated (gaps (r.last.toNat + 1) rest) := ih ho.2 hs.2
      have hlater : ∀ t ∈ rest, r.last.toNat + 1 ≤ t.last.toNat := by
        intro t ht
        have := hs.1 t ht
        have := ho.2 t ht
        omega
      unfold gaps
      split
      · refine List.pairwise_cons.2 ⟨?_, hrest⟩
        intro s hsmem
        have := le_first_gaps (Nat.le_refl _) hlater s hsmem
        have := ho.1
        simp only
        omega
      · exact hrest

/-! ## Cutting out the surrogates -/

theorem toNat_not_surrogate (c : Char) : c.toNat < firstSurrogate ∨ lastSurrogate < c.toNat := by
  have h := toNat_valid c
  simp only [Nat.isValidChar, firstSurrogate, lastSurrogate] at *
  omega

/-- A part of a span without surrogates. -/
structure PartOf (s : Nat × Nat) (r : CharRange) : Prop where
  ordered : r.first.toNat ≤ r.last.toNat
  one_side : r.last.toNat < firstSurrogate ∨ lastSurrogate < r.first.toNat
  first_le : s.1 ≤ r.first.toNat
  le_last : r.last.toNat ≤ s.2

theorem partOf_characters {s : Nat × Nat} (ho : s.1 ≤ s.2) (hb : s.2 ≤ maxCodePoint) :
    ∀ r ∈ characters s, PartOf s r := by
  intro r hr
  simp only [characters, List.mem_append, List.mem_ite_nil_right, List.mem_singleton] at hr
  simp only [maxCodePoint, firstSurrogate, lastSurrogate] at *
  rcases hr with ⟨hlow, rfl⟩ | ⟨hhigh, rfl⟩
  · have hfirst : (Char.ofNat s.1).toNat = s.1 :=
      toNat_ofNat_of_valid (by simp only [Nat.isValidChar]; omega)
    have hlast : (Char.ofNat (min s.2 (0xD800 - 1))).toNat = min s.2 (0xD800 - 1) :=
      toNat_ofNat_of_valid (by simp only [Nat.isValidChar]; omega)
    constructor <;> simp only [hfirst, hlast, firstSurrogate, lastSurrogate] <;> omega
  · have hfirst : (Char.ofNat (max s.1 (0xDFFF + 1))).toNat = max s.1 (0xDFFF + 1) :=
      toNat_ofNat_of_valid (by simp only [Nat.isValidChar]; omega)
    have hlast : (Char.ofNat s.2).toNat = s.2 :=
      toNat_ofNat_of_valid (by simp only [Nat.isValidChar]; omega)
    constructor <;> simp only [hfirst, hlast, firstSurrogate, lastSurrogate] <;> omega

theorem mem_characters {s : Nat × Nat} (ho : s.1 ≤ s.2) (hb : s.2 ≤ maxCodePoint) (c : Char) :
    (∃ r ∈ characters s, c ∈ r) ↔ Within s c.toNat := by
  have hc := toNat_not_surrogate c
  simp only [characters, List.mem_append, List.mem_ite_nil_right, List.mem_singleton,
    or_and_right, exists_or, and_assoc, CharRange.mem_iff_toNat, Within,
    exists_and_left, exists_eq_left]
  simp only [maxCodePoint, firstSurrogate, lastSurrogate] at *
  constructor
  · rintro (⟨hlow, hrange⟩ | ⟨hhigh, hrange⟩)
    · rw [toNat_ofNat_of_valid (by simp only [Nat.isValidChar]; omega),
        toNat_ofNat_of_valid (by simp only [Nat.isValidChar]; omega)] at hrange
      omega
    · rw [toNat_ofNat_of_valid (by simp only [Nat.isValidChar]; omega),
        toNat_ofNat_of_valid (by simp only [Nat.isValidChar]; omega)] at hrange
      omega
  · intro hwithin
    rcases hc with hlow | hhigh
    · left
      rw [toNat_ofNat_of_valid (by simp only [Nat.isValidChar]; omega),
        toNat_ofNat_of_valid (by simp only [Nat.isValidChar]; omega)]
      omega
    · right
      rw [toNat_ofNat_of_valid (by simp only [Nat.isValidChar]; omega),
        toNat_ofNat_of_valid (by simp only [Nat.isValidChar]; omega)]
      omega

/-- The parts of one span are apart from each other by all the surrogates. -/
theorem pairwise_characters {s : Nat × Nat} (hb : s.2 ≤ maxCodePoint) :
    (characters s).Pairwise fun r t => r.last.toNat + 1 < t.first.toNat := by
  unfold characters
  split
  · split
    · next hlow hhigh =>
      simp only [List.singleton_append, List.pairwise_cons, List.mem_singleton, forall_eq,
        List.not_mem_nil, false_implies, implies_true, List.Pairwise.nil, and_true]
      simp only [maxCodePoint, firstSurrogate, lastSurrogate] at *
      rw [toNat_ofNat_of_valid (by simp only [Nat.isValidChar]; omega),
        toNat_ofNat_of_valid (by simp only [Nat.isValidChar]; omega)]
      omega
    · exact List.pairwise_singleton ..
  · split
    · exact List.pairwise_singleton ..
    · exact List.Pairwise.nil

end CharSet

end SchemaPattern
