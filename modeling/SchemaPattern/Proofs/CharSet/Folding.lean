import SchemaPattern.Unicode.Folding
import SchemaPattern.Proofs.CharSet.Normal

/-!
# Case variants

Two characters are variants of each other if they fold to the same one.  The folded set has all
variants of the characters of a set, and no others.
-/

namespace SchemaPattern

namespace Unicode

def CaseVariant (c d : Char) : Prop := fold c = fold d

instance (c d : Char) : Decidable (CaseVariant c d) := inferInstanceAs (Decidable (_ = _))

theorem CaseVariant.refl (c : Char) : CaseVariant c c := rfl

theorem CaseVariant.symm {c d : Char} (h : CaseVariant c d) : CaseVariant d c := Eq.symm h

theorem CaseVariant.trans {c d e : Char} (h : CaseVariant c d) (h' : CaseVariant d e) :
    CaseVariant c e := Eq.trans h h'

theorem mem_sources_of_covers {run : FoldRun} {n : Nat} (h : run.covers n = true) :
    n ∈ run.sources := by
  simp only [FoldRun.covers, Bool.and_eq_true, decide_eq_true_eq, beq_iff_eq] at h
  obtain ⟨⟨hfirst, hlast⟩, hstride⟩ := h
  refine List.mem_map.2 ⟨(n - run.first) / run.stride, List.mem_range.2 ?_, ?_⟩
  · have : (n - run.first) / run.stride ≤ (run.last - run.first) / run.stride :=
      Nat.div_le_div_right (by omega)
    omega
  · rw [Nat.mul_div_cancel' (Nat.dvd_of_mod_eq_zero hstride)]
    omega

theorem cased_of_fold_ne {c : Char} (h : fold c ≠ c) : c ∈ casedChars ∧ fold c ∈ casedChars := by
  unfold fold at h ⊢
  split at h
  · next run hrun =>
    have hcovers := List.find?_some hrun
    have hmem : ∀ d ∈ [Char.ofNat c.toNat, run.target c.toNat], d ∈ casedChars := fun d hd =>
      List.mem_flatMap.2 ⟨run, List.mem_of_find?_eq_some hrun,
        List.mem_flatMap.2 ⟨c.toNat, mem_sources_of_covers hcovers, hd⟩⟩
    exact ⟨hmem c (by simp), hmem _ (by simp)⟩
  · exact absurd rfl h

theorem cased_of_variant {c d : Char} (h : CaseVariant c d) (hne : c ≠ d) : c ∈ casedChars := by
  by_cases hc : fold c = c
  · have hd : fold d ≠ d := fun hd => hne (by rw [← hc, h, hd])
    have hfold : fold d = c := by rw [← h, hc]
    exact hfold ▸ (cased_of_fold_ne hd).2
  · exact (cased_of_fold_ne hc).1

end Unicode

namespace CharSet

open Unicode

theorem normal_caseFolded (s : CharSet) : s.caseFolded.Normal := normal_ofRanges _

theorem mem_ofRanges_single {α : Type} {l : List α} {f : α → Char} {c : Char} :
    c ∈ ofRanges (l.map fun a => .single (f a)) ↔ ∃ a ∈ l, c = f a := by
  simp only [mem_ofRanges, List.mem_map, exists_exists_and_eq_and, CharRange.mem_iff_toNat,
    CharRange.single, ← Char.toNat_inj]
  refine exists_congr fun a => and_congr_right fun _ => ?_
  omega

theorem Normal.mem_caseFolded {s : CharSet} (h : s.Normal) {c : Char} :
    c ∈ s.caseFolded ↔ ∃ d ∈ s, CaseVariant c d := by
  have hfolds : ∀ e : Char, e ∈ ofRanges ((casedFolds.filter fun p => s.contains p.1).map
      fun p => .single p.2) ↔ ∃ d ∈ casedChars, d ∈ s ∧ e = fold d := by
    intro e
    rw [mem_ofRanges_single]
    simp [casedFolds, h.contains_iff, and_assoc]
  have hvariants : c ∈ s.caseFolded ↔
      c ∈ s ∨ c ∈ casedChars ∧ ∃ d ∈ casedChars, d ∈ s ∧ fold c = fold d := by
    rw [caseFolded, mem_ofRanges]
    simp only [List.mem_append, or_and_right, exists_or]
    rw [← mem_iff_toList, ← mem_ofRanges, mem_ofRanges_single]
    simp only [List.mem_filter, (normal_ofRanges _).contains_iff, hfolds]
    simp only [casedFolds, List.mem_map]
    constructor
    · rintro (hc | ⟨-, ⟨⟨e, he, rfl⟩, hfold⟩, rfl⟩)
      · exact .inl hc
      · exact .inr ⟨he, hfold⟩
    · rintro (hc | ⟨hc, hfold⟩)
      · exact .inl hc
      · exact .inr ⟨(c, fold c), ⟨⟨c, hc, rfl⟩, hfold⟩, rfl⟩
  rw [hvariants]
  constructor
  · rintro (hc | ⟨-, d, -, hd, hfold⟩)
    · exact ⟨c, hc, .refl c⟩
    · exact ⟨d, hd, hfold⟩
  · rintro ⟨d, hd, hvariant⟩
    by_cases hne : c = d
    · exact .inl (hne ▸ hd)
    · exact .inr ⟨cased_of_variant hvariant hne, d,
        cased_of_variant hvariant.symm (Ne.symm hne), hd, hvariant⟩

end CharSet

end SchemaPattern
