import SchemaPattern.Numeral

/-!
# Numerals can be read back

What is read from the digits of a number one by one, the most significant first, is the number.
-/

namespace SchemaPattern

namespace Numeral

/-! ## Digits in any base -/

theorem digits_ne_nil (base n : Nat) : digits base n ≠ [] := by
  rw [digits]
  split <;> simp

theorem forall_mem_digits {base : Nat} {p : Char → Prop} (hbase : 2 ≤ base)
    (hdigit : ∀ d < base, p (digit d)) (n : Nat) : ∀ c ∈ digits base n, p c := by
  fun_induction digits base n with
  | case1 n hsmall =>
      rw [List.forall_mem_singleton]
      exact hdigit n (by omega)
  | case2 n hlarge ih =>
      rw [List.forall_mem_append, List.forall_mem_singleton]
      exact ⟨ih, hdigit (n % base) (Nat.mod_lt n (by omega))⟩

theorem foldl_digits {base : Nat} {value : Char → Nat} (hbase : 2 ≤ base)
    (hvalue : ∀ d < base, value (digit d) = d) (n : Nat) :
    (digits base n).foldl (fun m c => base * m + value c) 0 = n := by
  fun_induction digits base n with
  | case1 n hsmall =>
      have hfirst := hvalue n (by omega)
      simp [hfirst]
  | case2 n hlarge ih =>
      have hlast := hvalue (n % base) (Nat.mod_lt n (by omega))
      rw [List.foldl_append, ih, List.foldl_cons, List.foldl_nil, hlast, Nat.div_add_mod]

/-! ## Decimal digits -/

theorem digit_spec {d : Nat} (h : d < 10) :
    (digit d).isDigit = true ∧ (digit d).toNat - 48 = d ∧ (digit d = '0' → d = 0) := by
  have hall : ∀ e ∈ List.range 10,
      (digit e).isDigit = true ∧ (digit e).toNat - 48 = e ∧ (digit e = '0' → e = 0) := by decide
  exact hall d (List.mem_range.2 h)

theorem digit_toNat {c : Char} (h : c.isDigit = true) :
    c.toNat - 48 < 10 ∧ digit (c.toNat - 48) = c := by
  simp only [Char.isDigit, Bool.and_eq_true, decide_eq_true_eq, ge_iff_le, UInt32.le_iff_toNat_le]
    at h
  have hlow : 48 ≤ c.toNat := h.1
  have hhigh : c.toNat ≤ 57 := h.2
  have hlt : c.toNat - 48 < 10 := by omega
  refine ⟨hlt, ?_⟩
  rw [digit, if_pos hlt, Nat.sub_add_cancel hlow, Char.ofNat_toNat]

theorem decimal_spec (n : Nat) :
    decimal n ≠ [] ∧ (∀ d ∈ decimal n, d.isDigit = true) ∧ decimalValue (decimal n) = n := by
  refine ⟨digits_ne_nil 10 n, ?_, ?_⟩
  · exact forall_mem_digits (by decide) (fun d hd => (digit_spec hd).1) n
  · exact foldl_digits (by decide) (fun d hd => (digit_spec hd).2.1) n

/-! ## Digits of base sixteen -/

theorem digit_spec_hex {d : Nat} (h : d < 16) :
    digitValue? (digit d).toLower = some d ∧ (digit d).toLower ≠ '}' := by
  have hall : ∀ e ∈ List.range 16,
      digitValue? (digit e).toLower = some e ∧ (digit e).toLower ≠ '}' := by decide
  exact hall d (List.mem_range.2 h)

/-- The value of digits of base sixteen, in either case. -/
def hexValue (ds : List Char) : Nat := ds.foldl (fun n c => 16 * n + (digitValue? c).getD 0) 0

theorem hex_spec (n : Nat) :
    hexValue ((hex n).map Char.toLower) = n ∧ ∀ c ∈ (hex n).map Char.toLower, c ≠ '}' := by
  constructor
  · rw [hexValue, List.foldl_map]
    refine foldl_digits (by decide) (fun d hd => ?_) n
    rw [(digit_spec_hex hd).1, Option.getD_some]
  · rw [List.forall_mem_map]
    exact forall_mem_digits (by decide) (fun d hd => (digit_spec_hex hd).2) n

end Numeral

end SchemaPattern
