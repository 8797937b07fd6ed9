import Mathlib.Data.Nat.Bitwise
import Mathlib.Order.MinMax
import SchemaPattern.GroupSet

/-!
# A set of group numbers is a set

Adding a number adds that number and no other, whatever the length of the row of words.  So a set
holds the numbers that have been added one after the other, and its words depend on them alone.
-/

namespace SchemaPattern

namespace GroupSet

/-! ## Words and their bits -/

/-- A word of the row; those behind its end are zero. -/
def wordAt (s : GroupSet) (i : Nat) : UInt64 := s.words[i]?.getD 0

theorem toNat_bit (n : Nat) : (bit n).toNat = 2 ^ (n % 64) := by
  have hlt : n % 64 < 64 := Nat.mod_lt n (by decide)
  have hshift : (UInt64.ofNat (n % 64)).toNat = n % 64 :=
    Nat.mod_eq_of_lt (Nat.lt_trans hlt (by decide))
  have hpow : 2 ^ (n % 64) < 2 ^ 64 := Nat.pow_lt_pow_right (by decide) hlt
  simp only [bit, UInt64.toNat_shiftLeft, hshift, Nat.mod_eq_of_lt hlt]
  rw [show (1 : UInt64).toNat = 1 from rfl, Nat.one_shiftLeft, Nat.mod_eq_of_lt hpow]

theorem and_bit_ne_zero {word : UInt64} {n : Nat} :
    (word &&& bit n != 0) = word.toNat.testBit (n % 64) := by
  have hzero : (word &&& bit n = 0) ↔ word.toNat.testBit (n % 64) = false := by
    rw [← UInt64.toNat_inj, UInt64.toNat_and, toNat_bit, Nat.and_two_pow]
    cases word.toNat.testBit (n % 64) <;> simp
  rw [Bool.eq_iff_iff, bne_iff_ne, ne_eq, hzero, Bool.not_eq_false]

theorem contains_eq_testBit (s : GroupSet) (n : Nat) :
    s.contains n = (s.wordAt (n / 64)).toNat.testBit (n % 64) := by
  unfold contains wordAt
  split
  · next word h => rw [h, Option.getD_some, and_bit_ne_zero]
  · next h => simp [h]

/-! ## Adding a number -/

theorem wordAt_grow (words : Array UInt64) (size i : Nat) :
    wordAt ⟨grow words size⟩ i = wordAt ⟨words⟩ i := by
  unfold wordAt grow
  rw [Array.getElem?_append]
  split
  · rfl
  · -- Behind the old row there are only zeros, and behind the new one nothing.
    next h =>
    rw [Array.getElem?_eq_none (Nat.le_of_not_lt h)]
    rw [Array.getElem?_replicate]
    split <;> rfl

theorem contains_grow (words : Array UInt64) (size n : Nat) :
    contains ⟨grow words size⟩ n = contains ⟨words⟩ n := by
  rw [contains_eq_testBit, contains_eq_testBit, wordAt_grow]

theorem size_grow (words : Array UInt64) (size : Nat) :
    (grow words size).size = max words.size size := by
  simp only [grow, Array.size_append, Array.size_replicate]
  omega

theorem size_insert (s : GroupSet) (n : Nat) :
    (s.insert n).words.size = max s.words.size (n / 64 + 1) := by
  simp only [insert, Array.size_modify, size_grow]

theorem wordAt_insert (s : GroupSet) (n i : Nat) :
    (s.insert n).wordAt i = if i = n / 64 then s.wordAt i ||| bit n else s.wordAt i := by
  have hsize : n / 64 < (grow s.words (n / 64 + 1)).size := by
    rw [size_grow]
    omega
  rw [← wordAt_grow s.words (n / 64 + 1)]
  unfold insert wordAt
  rw [Array.getElem?_modify]
  split
  · next h =>
    subst h
    rw [if_pos rfl, Array.getElem?_eq_getElem hsize]
    rfl
  · next h => rw [if_neg (Ne.symm h)]

theorem contains_insert {s : GroupSet} {n m : Nat} :
    (s.insert n).contains m = true ↔ m = n ∨ s.contains m = true := by
  rw [contains_eq_testBit, contains_eq_testBit, wordAt_insert]
  split
  · next h =>
    rw [UInt64.toNat_or, Nat.testBit_or, toNat_bit, Nat.testBit_two_pow, Bool.or_eq_true,
      decide_eq_true_eq, or_comm]
    apply or_congr_left
    omega
  · next h =>
    have hne : m ≠ n := fun hmn => h (by rw [hmn])
    simp [hne]

theorem contains_empty (n : Nat) : ({} : GroupSet).contains n = false := rfl

/-- A number whose bit would stand behind the end of the row is not in the set. -/
theorem contains_of_size_le {s : GroupSet} {n : Nat} (h : 64 * s.words.size ≤ n) :
    s.contains n = false := by
  have hword : s.words.size ≤ n / 64 := by omega
  unfold contains
  rw [Array.getElem?_eq_none hword]

/-! ## Numbers one after the other -/

/-- The set to which these numbers have been added, the first of them first. -/
def ofList (ns : List Nat) : GroupSet := ns.foldl insert {}

theorem contains_foldl_insert (ns : List Nat) {s : GroupSet} {m : Nat} :
    (ns.foldl insert s).contains m = true ↔ s.contains m = true ∨ m ∈ ns := by
  induction ns generalizing s with
  | nil => simp
  | cons n ns ih =>
      rw [List.foldl_cons, ih, contains_insert, List.mem_cons]
      rw [or_assoc, or_left_comm]

theorem contains_ofList {ns : List Nat} {m : Nat} : (ofList ns).contains m = true ↔ m ∈ ns := by
  simp [ofList, contains_foldl_insert, contains_empty]

theorem lt_size_foldl_insert (ns : List Nat) {s : GroupSet} {i : Nat} :
    i < (ns.foldl insert s).words.size ↔ i < s.words.size ∨ ∃ n ∈ ns, i ≤ n / 64 := by
  induction ns generalizing s with
  | nil => simp
  | cons n ns ih =>
      rw [List.foldl_cons, ih, size_insert, lt_max_iff, Nat.lt_succ_iff]
      simp only [List.mem_cons, exists_eq_or_imp, or_assoc]

/-- The row ends with the word of the greatest number. -/
theorem lt_size_ofList {ns : List Nat} {i : Nat} :
    i < (ofList ns).words.size ↔ ∃ n ∈ ns, i ≤ n / 64 := by
  simp [ofList, lt_size_foldl_insert]

/-! ## Sets of the same numbers -/

theorem wordAt_eq_of_contains {s t : GroupSet} (h : ∀ n, s.contains n = t.contains n) (i : Nat) :
    s.wordAt i = t.wordAt i := by
  apply UInt64.toNat_inj.1
  apply Nat.eq_of_testBit_eq
  intro j
  -- Each bit of a word says whether some number is in the set; a word has no others.
  by_cases hj : j < 64
  · have hindex : (64 * i + j) / 64 = i ∧ (64 * i + j) % 64 = j := by omega
    have hbit := h (64 * i + j)
    rwa [contains_eq_testBit, contains_eq_testBit, hindex.1, hindex.2] at hbit
  · have hbound (word : UInt64) : word.toNat.testBit j = false :=
      Nat.testBit_lt_two_pow (Nat.lt_of_lt_of_le word.toNat_lt
        (Nat.pow_le_pow_right (by decide) (Nat.le_of_not_lt hj)))
    rw [hbound, hbound]

theorem eq_of_contains {s t : GroupSet} (hsize : s.words.size = t.words.size)
    (h : ∀ n, s.contains n = t.contains n) : s = t := by
  obtain ⟨ss⟩ := s
  obtain ⟨ts⟩ := t
  refine congrArg mk (Array.ext hsize fun i hs ht => ?_)
  simpa [wordAt, hs, ht] using wordAt_eq_of_contains h i

/-- Neither the order in which numbers are added nor how often one is added makes a difference. -/
theorem ofList_eq_iff {ms ns : List Nat} : ofList ms = ofList ns ↔ ∀ m, m ∈ ms ↔ m ∈ ns := by
  constructor
  · intro h m
    rw [← contains_ofList, h, contains_ofList]
  · intro h
    apply eq_of_contains
    · apply eq_of_forall_lt_iff
      intro i
      simp only [lt_size_ofList, h]
    · intro n
      rw [Bool.eq_iff_iff, contains_ofList, contains_ofList, h]

/-- A set holds the numbers that have been added, in whatever order and however often, and no others.
A longer row holds the same numbers, one more number adds only itself, and numbers behind the row
are not in the set. -/
theorem holds_added_numbers (ns : List Nat) :
    let s : GroupSet := ofList ns
    (∀ m, s.contains m = true ↔ m ∈ ns) ∧
      (∀ ms, ofList ms = s ↔ ∀ m, m ∈ ms ↔ m ∈ ns) ∧
      (∀ size m, contains ⟨grow s.words size⟩ m = s.contains m) ∧
      (∀ n m, (s.insert n).contains m = (m == n || s.contains m)) ∧
      ∀ m, 64 * s.words.size ≤ m → s.contains m = false := by
  intro s
  refine ⟨fun m => contains_ofList, fun ms => ofList_eq_iff, fun size m => contains_grow _ _ _,
    fun n m => ?_, fun m hm => contains_of_size_le hm⟩
  rw [Bool.eq_iff_iff, contains_insert, Bool.or_eq_true, beq_iff_eq]

/-- Numbers on both sides of the edges of words, the greatest of them first and one of them
twice. -/
theorem holds_added_numbers_edges :
    let s := ofList [191, 64, 127, 64]
    s.contains 64 = true ∧ s.contains 63 = false ∧ (s.insert 63).contains 128 = false ∧
      s = ofList [64, 127, 191] ∧ (64 * s.words.size ≤ 192 ∧ s.contains 192 = false) := by
  intro s
  obtain ⟨hmem, heq, -, hinsert, hbeyond⟩ := holds_added_numbers [191, 64, 127, 64]
  have hsize : 64 * s.words.size ≤ 192 := by decide
  have h63 : s.contains 63 = false := by
    rw [← Bool.not_eq_true, hmem]
    decide
  have h128 : s.contains 128 = false := by
    rw [← Bool.not_eq_true, hmem]
    decide
  refine ⟨(hmem 64).2 (by decide), h63, ?_, ?_, hsize, hbeyond 192 hsize⟩
  · rw [hinsert, h128]
    rfl
  · refine ((heq [64, 127, 191]).2 fun m => ?_).symm
    simp only [List.mem_cons, List.not_mem_nil, or_false]
    tauto

end GroupSet

end SchemaPattern
