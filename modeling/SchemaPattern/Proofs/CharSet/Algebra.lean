import SchemaPattern.Proofs.CharSet.Folding
import SchemaPattern.Proofs.Escape

/-!
# The algebra of sets of characters

The sets that the operations build are those in normal form.  They are equal as soon as the search
finds the same characters in them, so each law of unions, complements and case variants that holds
of their characters is an equation of sets.
-/

namespace SchemaPattern

namespace CharSet

open Unicode

/-! ## Built sets -/

/-- The sets that come of ranges and of the table of escapes by any sequence of operations. -/
inductive Built : CharSet → Prop
  | empty : Built ∅
  | ofRanges (ranges : List CharRange) : Built (ofRanges ranges)
  | escape {name : EscapeName} {s : CharSet} (h : name.chars? = some s) : Built s
  | union {s t : CharSet} (hs : Built s) (ht : Built t) : Built (s.union t)
  | complement {s : CharSet} (h : Built s) : Built s.complement
  | caseFolded {s : CharSet} (h : Built s) : Built s.caseFolded

theorem Built.normal {s : CharSet} (h : s.Built) : s.Normal := by
  induction h with
  | empty => exact normal_empty
  | ofRanges ranges => exact normal_ofRanges ranges
  | escape h => exact EscapeName.normal_chars h
  | union hs ht => exact normal_union _ _
  | complement h ih => exact normal_complement ih
  | caseFolded h => exact normal_caseFolded _

theorem Normal.built {s : CharSet} (h : s.Normal) : s.Built :=
  h.ofRanges_toList ▸ .ofRanges _

theorem Built.inter {s t : CharSet} (hs : s.Built) (ht : t.Built) : (s.inter t).Built :=
  (hs.complement.union ht.complement).complement

/-! ## What the search finds -/

section

variable {s t : CharSet}

theorem Built.contains_iff (h : s.Built) {c : Char} : s.contains c = true ↔ c ∈ s :=
  h.normal.contains_iff

theorem contains_ofRanges (ranges : List CharRange) (c : Char) :
    (ofRanges ranges).contains c = true ↔ ∃ r ∈ ranges, c ∈ r := by
  rw [(normal_ofRanges ranges).contains_iff, mem_ofRanges]

theorem Built.contains_union (hs : s.Built) (ht : t.Built) (c : Char) :
    (s.union t).contains c = (s.contains c || t.contains c) := by
  rw [Bool.eq_iff_iff, Bool.or_eq_true, (hs.union ht).contains_iff, mem_union, hs.contains_iff,
    ht.contains_iff]

theorem Built.contains_complement (h : s.Built) (c : Char) :
    s.complement.contains c = !s.contains c := by
  rw [Bool.eq_iff_iff, Bool.not_eq_true', ← Bool.not_eq_true, h.complement.contains_iff,
    mem_complement h.normal, h.contains_iff]

theorem Built.contains_inter (hs : s.Built) (ht : t.Built) (c : Char) :
    (s.inter t).contains c = (s.contains c && t.contains c) := by
  rw [Bool.eq_iff_iff, Bool.and_eq_true, (hs.inter ht).contains_iff,
    mem_inter hs.normal ht.normal, hs.contains_iff, ht.contains_iff]

theorem Built.contains_caseFolded (h : s.Built) (c : Char) :
    s.caseFolded.contains c = true ↔ ∃ d, CaseVariant c d ∧ s.contains d = true := by
  rw [h.caseFolded.contains_iff, h.normal.mem_caseFolded]
  simp only [h.contains_iff, and_comm]

/-- A set without characters has no ranges, since each range has its first character. -/
theorem Built.isEmpty_iff (h : s.Built) : s.isEmpty = true ↔ ∀ c, s.contains c = false := by
  have hcontains : (∀ c, s.contains c = false) ↔ ∀ c, c ∉ s := by
    simp only [← Bool.not_eq_true, h.contains_iff]
  rw [isEmpty, Array.isEmpty_iff, hcontains]
  constructor
  · intro hempty c hc
    rw [mem_def, hempty] at hc
    simp at hc
  · intro hnone
    by_contra hne
    obtain ⟨r, hr⟩ := Array.exists_mem_of_ne_empty _ hne
    exact hnone r.first ⟨r, hr, Nat.le_refl _, h.normal.ordered r (by simpa using hr)⟩

theorem Built.eq_iff (hs : s.Built) (ht : t.Built) :
    s = t ↔ ∀ c, s.contains c = t.contains c := by
  refine ⟨fun h c => h ▸ rfl, fun h => hs.normal.ext ht.normal fun c => ?_⟩
  rw [← hs.contains_iff, ← ht.contains_iff, h c]

end

theorem ofRanges_eq_iff (ranges others : List CharRange) :
    ofRanges ranges = ofRanges others ↔
      ∀ c, (∃ r ∈ ranges, c ∈ r) ↔ ∃ r ∈ others, c ∈ r := by
  constructor
  · intro h c
    rw [← mem_ofRanges, h, mem_ofRanges]
  · intro h
    refine (normal_ofRanges ranges).ext (normal_ofRanges others) fun c => ?_
    rw [mem_ofRanges, mem_ofRanges, h c]

/-! ## Normal forms -/

/-- Built sets are in normal form, and no others are; any two of them differ in a character that the
search finds in one of them.  The set of a list of ranges depends on nothing but the characters in
these. -/
theorem normal_form_unique :
    (∀ s : CharSet, s.Built ↔ s.Normal) ∧
      (∀ s t : CharSet, s.Built → t.Built → (s = t ↔ ∀ c, s.contains c = t.contains c)) ∧
      ∀ ranges others : List CharRange, ofRanges ranges = ofRanges others ↔
        ∀ c, (∃ r ∈ ranges, c ∈ r) ↔ ∃ r ∈ others, c ∈ r :=
  ⟨fun _ => ⟨Built.normal, Normal.built⟩, fun _ _ => Built.eq_iff, ofRanges_eq_iff⟩

/-- Ranges that overlap, run backwards or touch across the surrogates, and one range for them. -/
theorem normal_form_unique_across :
    let s := ofRanges [⟨'\uE000', '\uE001'⟩, ⟨'d', '\uD7FF'⟩, ⟨'c', 'e'⟩, ⟨'z', 'b'⟩]
    let t := (ofRanges [⟨'c', '\uE001'⟩]).complement.complement
    s.Normal ∧ s = t := by
  intro s t
  have hs : s.Built := .ofRanges _
  have ht : t.Built := .complement (.complement (.ofRanges _))
  refine ⟨(normal_form_unique.1 s).1 hs, (normal_form_unique.2.1 s t hs ht).2 fun c => ?_⟩
  have hc := toNat_not_surrogate c
  rw [Built.contains_complement (.complement (.ofRanges _)),
    Built.contains_complement (.ofRanges _), Bool.not_not, Bool.eq_iff_iff, contains_ofRanges,
    contains_ofRanges]
  simp [CharRange.mem_iff_toNat, firstSurrogate, lastSurrogate] at hc ⊢
  omega

/-! ## Unions and complements -/

section

variable {s t : CharSet}

/-- The search and the operations make a Boolean algebra of the built sets. -/
theorem boolean_laws (hs : s.Built) (ht : t.Built) (ranges : List CharRange) (c : Char) :
    (s.contains c = true ↔ ∃ r ∈ s.ranges, r.first ≤ c ∧ c ≤ r.last) ∧
      ((ofRanges ranges).contains c = true ↔ ∃ r ∈ ranges, r.first ≤ c ∧ c ≤ r.last) ∧
      (s.union t).contains c = (s.contains c || t.contains c) ∧
      s.complement.contains c = (!s.contains c) ∧
      (s.inter t).contains c = (s.contains c && t.contains c) ∧
      (s.isEmpty = true ↔ ∀ d, s.contains d = false) ∧
      s.complement.complement = s ∧
      (s.union t).complement = s.complement.inter t.complement ∧
      (s.inter t).complement = s.complement.union t.complement := by
  have hcc := hs.complement
  have htc := ht.complement
  refine ⟨hs.contains_iff, contains_ofRanges ranges c, hs.contains_union ht c,
    hs.contains_complement c, hs.contains_inter ht c, hs.isEmpty_iff, ?_, ?_, ?_⟩
  · refine (hcc.complement.eq_iff hs).2 fun d => ?_
    rw [hcc.contains_complement, hs.contains_complement, Bool.not_not]
  · refine ((hs.union ht).complement.eq_iff (hcc.inter htc)).2 fun d => ?_
    rw [(hs.union ht).contains_complement, hs.contains_union ht, hcc.contains_inter htc,
      hs.contains_complement, ht.contains_complement, Bool.not_or]
  · refine ((hs.inter ht).complement.eq_iff (hcc.union htc)).2 fun d => ?_
    rw [(hs.inter ht).contains_complement, hs.contains_inter ht, hcc.contains_union htc,
      hs.contains_complement, ht.contains_complement, Bool.not_and]

/-- The complement of a set with a gap at `b` begins again behind the surrogates. -/
theorem boolean_laws_surrogates :
    let s := ofRanges [⟨'\x00', 'a'⟩, ⟨'c', '\uD7FF'⟩]
    s.complement.contains 'b' = true ∧ s.complement.contains '\uE000' = true ∧
      s.complement.complement = s ∧
      (s.union EscapeName.spaces).complement = s.complement.inter EscapeName.spaces.complement := by
  intro s
  have hs : s.Built := .ofRanges _
  have ht : EscapeName.spaces.Built := @Built.escape (.multi 's') _ rfl
  have hlaws := boolean_laws hs ht [⟨'\x00', 'a'⟩, ⟨'c', '\uD7FF'⟩]
  have hnot (c : Char) (hc : ¬ ∃ r ∈ [CharRange.mk '\x00' 'a', ⟨'c', '\uD7FF'⟩],
      r.first ≤ c ∧ c ≤ r.last) : s.complement.contains c = true := by
    obtain ⟨-, hranges, -, hcomplement, -⟩ := hlaws c
    rw [hcomplement, Bool.not_eq_true', ← Bool.not_eq_true, hranges]
    exact hc
  obtain ⟨-, -, -, -, -, -, htwice, hdeMorgan, -⟩ := hlaws 'b'
  exact ⟨hnot 'b' (by decide), hnot '\uE000' (by decide), htwice, hdeMorgan⟩

/-! ## Case variants -/

theorem Built.contains_caseFolded_of_variant (h : s.Built) {c d : Char} (hvariant : CaseVariant c d)
    (hc : s.caseFolded.contains c = true) : s.caseFolded.contains d = true := by
  rw [h.contains_caseFolded] at hc ⊢
  obtain ⟨e, hce, he⟩ := hc
  exact ⟨e, hvariant.symm.trans hce, he⟩

/-- A set that has all variants of its characters is its own folded set. -/
theorem Built.caseFolded_eq_self (h : s.Built)
    (hclosed : ∀ c d, CaseVariant c d → s.contains c = true → s.contains d = true) :
    s.caseFolded = s := by
  refine (h.caseFolded.eq_iff h).2 fun c => ?_
  rw [Bool.eq_iff_iff, h.contains_caseFolded]
  constructor
  · rintro ⟨d, hvariant, hd⟩
    exact hclosed d c hvariant.symm hd
  · intro hc
    exact ⟨c, .refl c, hc⟩

theorem Built.caseFolded_mono (hs : s.Built) (ht : t.Built)
    (h : ∀ c, s.contains c = true → t.contains c = true) (c : Char)
    (hc : s.caseFolded.contains c = true) : t.caseFolded.contains c = true := by
  rw [hs.contains_caseFolded] at hc
  obtain ⟨d, hvariant, hd⟩ := hc
  exact (ht.contains_caseFolded c).2 ⟨d, hvariant, h d hd⟩

theorem Built.caseFolded_union (hs : s.Built) (ht : t.Built) :
    (s.union t).caseFolded = s.caseFolded.union t.caseFolded := by
  refine ((hs.union ht).caseFolded.eq_iff (hs.caseFolded.union ht.caseFolded)).2 fun c => ?_
  rw [Bool.eq_iff_iff, (hs.union ht).contains_caseFolded,
    hs.caseFolded.contains_union ht.caseFolded, Bool.or_eq_true, hs.contains_caseFolded,
    ht.contains_caseFolded]
  simp only [hs.contains_union ht, Bool.or_eq_true, and_or_left, exists_or]

/-- Together with a character, a folded set leaves out all variants of it. -/
theorem Built.caseFolded_complement (h : s.Built) :
    s.caseFolded.complement.caseFolded = s.caseFolded.complement := by
  refine h.caseFolded.complement.caseFolded_eq_self fun c d hvariant hc => ?_
  rw [h.caseFolded.contains_complement, Bool.not_eq_true', ← Bool.not_eq_true] at hc ⊢
  exact fun hd => hc (h.contains_caseFolded_of_variant hvariant.symm hd)

/-- Folding adds the case variants of the characters of a set, and nothing else. -/
theorem folding_closure (hs : s.Built) (ht : t.Built) (c : Char) :
    (s.caseFolded.contains c = true ↔
        s.contains c = true ∨ ∃ d, CaseVariant c d ∧ s.contains d = true) ∧
      (s.contains c = true → s.caseFolded.contains c = true) ∧
      s.caseFolded.caseFolded = s.caseFolded ∧
      ((∀ d, s.contains d = true → t.contains d = true) →
        ∀ d, s.caseFolded.contains d = true → t.caseFolded.contains d = true) ∧
      (s.union t).caseFolded = s.caseFolded.union t.caseFolded ∧
      s.caseFolded.complement.caseFolded = s.caseFolded.complement := by
  have hself : s.contains c = true → ∃ d, CaseVariant c d ∧ s.contains d = true :=
    fun hc => ⟨c, .refl c, hc⟩
  refine ⟨?_, ?_, ?_, hs.caseFolded_mono ht, hs.caseFolded_union ht, hs.caseFolded_complement⟩
  · rw [hs.contains_caseFolded]
    exact ⟨.inr, fun h => h.elim hself id⟩
  · rw [hs.contains_caseFolded]
    exact hself
  · exact hs.caseFolded.caseFolded_eq_self fun c d => hs.contains_caseFolded_of_variant

end

/-- The Kelvin sign is a variant of the letter, so no complement of a folded set with it has it. -/
theorem folding_closure_kelvin :
    let s := single 'k'
    let t := ofRanges [⟨'a', 'z'⟩]
    s.caseFolded.contains '\u212A' = true ∧ t.caseFolded.contains '\u212A' = true ∧
      t.caseFolded.complement.caseFolded = t.caseFolded.complement := by
  intro s t
  have hs : s.Built := .ofRanges _
  have ht : t.Built := .ofRanges _
  have hsub (d : Char) (hd : s.contains d = true) : t.contains d = true := by
    rw [hs.contains_iff, mem_single] at hd
    rw [hd, contains_ofRanges]
    decide
  have hk : s.contains 'k' = true := by rw [hs.contains_iff, mem_single]
  obtain ⟨hvariants, -, -, hmono, -⟩ := folding_closure hs ht '\u212A'
  have hkelvin := hvariants.2 (.inr ⟨'k', by decide +kernel, hk⟩)
  exact ⟨hkelvin, hmono hsub _ hkelvin, (folding_closure ht ht 'k').2.2.2.2.2⟩

end CharSet

end SchemaPattern
