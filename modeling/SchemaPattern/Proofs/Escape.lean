import SchemaPattern.Escape
import SchemaPattern.Proofs.CharSet.Normal

/-!
# The sets of the escape table

Every set of the table is in normal form, since all spans of the tables lie among the code points.
-/

namespace SchemaPattern

open CharSet

namespace Unicode

theorem bounded_letter : Bounded letter := by decide +kernel

theorem bounded_mark : Bounded mark := by decide +kernel

theorem bounded_number : Bounded number := by decide +kernel

theorem bounded_punctuation : Bounded punctuation := by decide +kernel

theorem bounded_separator : Bounded separator := by decide +kernel

theorem bounded_symbol : Bounded symbol := by decide +kernel

theorem bounded_unseen : Bounded (control ++ format ++ privateUse) := by decide +kernel

theorem bounded_names : Bounded (nameStart ++ nameFurther) := by decide +kernel

theorem bounded_blocks : ∀ b ∈ blocks, Bounded b.2 := by decide +kernel

theorem normal_unassigned : unassigned.Normal := by
  refine normal_complement (normal_ofSpans ?_)
  have hunseen := bounded_unseen
  simp only [bounded_append] at hunseen ⊢
  simp only [bounded_letter, bounded_mark, bounded_number, bounded_punctuation,
    bounded_separator, bounded_symbol, hunseen, and_self]

theorem normal_other : other.Normal := normal_union _ _

theorem normal_categories : ∀ p ∈ categories, p.2.Normal := by
  have hletter := bounded_letter
  have hmark := bounded_mark
  have hnumber := bounded_number
  have hpunctuation := bounded_punctuation
  have hseparator := bounded_separator
  have hsymbol := bounded_symbol
  have hunseen := bounded_unseen
  simp only [letter, mark, number, bounded_append] at hletter hmark hnumber
  simp only [punctuation, separator, symbol, bounded_append] at hpunctuation hseparator hsymbol
  simp only [bounded_append] at hunseen
  simp only [categories, List.forall_mem_cons]
  simp only [normal_ofSpans, bounded_letter, bounded_mark, bounded_number, bounded_punctuation,
    bounded_separator, bounded_symbol, hletter, hmark, hnumber, hpunctuation, hseparator, hsymbol,
    hunseen, normal_other, normal_unassigned, List.not_mem_nil, false_implies, implies_true,
    and_self]

end Unicode

namespace EscapeName

open Unicode

theorem normal_multiTable : ∀ p ∈ multiTable, p.2.Normal := by
  have hnames := bounded_append.1 bounded_names
  have hnumber := bounded_number
  simp only [number, bounded_append] at hnumber
  simp only [multiTable, List.forall_mem_cons]
  exact ⟨normal_ofRanges _, normal_ofSpans hnames.1, normal_ofSpans bounded_names,
    normal_ofSpans hnumber.1.1, normal_complement (normal_union _ _), by simp⟩

theorem normal_categoryTable : ∀ p ∈ categoryTable, p.2.Normal := by
  simp only [categoryTable, List.forall_mem_append, List.forall_mem_map]
  exact ⟨normal_categories, fun b hb => normal_ofSpans (bounded_blocks b hb)⟩

theorem mem_of_lookup {α β : Type} [BEq α] [LawfulBEq α] {l : List (α × β)} {a : α} {b : β}
    (h : l.lookup a = some b) : (a, b) ∈ l := by
  obtain ⟨before, after, rfl, -⟩ := List.lookup_eq_some_iff.1 h
  simp

theorem normal_chars {name : EscapeName} {s : CharSet} (h : name.chars? = some s) : s.Normal := by
  cases name with
  | multi letter =>
      obtain ⟨t, ht, rfl⟩ := Option.map_eq_some_iff.1 h
      have hnormal := normal_multiTable _ (mem_of_lookup ht)
      split
      · exact normal_complement hnormal
      · exact hnormal
  | category name negated =>
      obtain ⟨t, ht, rfl⟩ := Option.map_eq_some_iff.1 h
      have hnormal := normal_categoryTable _ (mem_of_lookup ht)
      split
      · exact normal_complement hnormal
      · exact hnormal

end EscapeName

end SchemaPattern
