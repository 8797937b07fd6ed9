/-!
# Numerals

Digits, most significant first, in a base of up to sixteen.
-/

namespace SchemaPattern.Numeral

def digit (d : Nat) : Char :=
  if d < 10 then Char.ofNat (d + 48) else Char.ofNat (d + 55)

/-- The digits of `n` without leading zeros. -/
def digits (base n : Nat) : List Char :=
  if _ : n < base ∨ base < 2 then [digit n]
  else digits base (n / base) ++ [digit (n % base)]
  termination_by n
  decreasing_by
    have : 2 ≤ base ∧ base ≤ n := by omega
    exact Nat.div_lt_self (by omega) (by omega)

def decimal (n : Nat) : List Char := digits 10 n

def hex (n : Nat) : List Char := digits 16 n

/-- The value of a digit of base sixteen or less, letters in either case. -/
def digitValue? (c : Char) : Option Nat :=
  if '0' ≤ c ∧ c ≤ '9' then some (c.toNat - 48)
  else if 'A' ≤ c ∧ c ≤ 'F' then some (c.toNat - 55)
  else if 'a' ≤ c ∧ c ≤ 'f' then some (c.toNat - 87)
  else none

/-- The value of decimal digits, leading zeros or not. -/
def decimalValue (ds : List Char) : Nat :=
  ds.foldl (fun n c => 10 * n + (c.toNat - 48)) 0

end SchemaPattern.Numeral
