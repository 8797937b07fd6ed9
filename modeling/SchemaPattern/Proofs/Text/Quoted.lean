import Mathlib.Data.List.TakeWhile
import SchemaPattern.Proofs.Numeral
import SchemaPattern.Quoted

/-!
# Characters in quotes can be read back

A character between quotes is told from what is written, and so is where the quotes end.
-/

namespace SchemaPattern

/-- The character that is written at the beginning of a text, and what stands behind it. -/
def unquote : List Char → Option (Char × List Char)
  | '\\' :: '0' :: rest => some ('\x00', rest)
  | '\\' :: 't' :: rest => some ('\t', rest)
  | '\\' :: 'n' :: rest => some ('\n', rest)
  | '\\' :: 'r' :: rest => some ('\r', rest)
  | '\\' :: 'u' :: '{' :: rest =>
      some (Char.ofNat (Numeral.hexValue (rest.takeWhile (· ≠ '}'))),
        (rest.dropWhile (· ≠ '}')).tail)
  | '\\' :: c :: rest => some (c, rest)
  | c :: rest => some (c, rest)
  | [] => none

theorem unquote_hex (c : Char) (rest : List Char) :
    unquote ('\\' :: 'u' :: '{' :: ((Numeral.hex c.toNat).map Char.toLower ++ '}' :: rest)) =
      some (c, rest) := by
  obtain ⟨hvalue, hbrace⟩ := Numeral.hex_spec c.toNat
  have htake : ∀ d ∈ (Numeral.hex c.toNat).map Char.toLower, decide (d ≠ '}') = true := by
    simpa using hbrace
  simp only [unquote, List.takeWhile_append_of_pos htake, List.dropWhile_append_of_pos htake]
  simp [hvalue]

theorem unquote_quoted (c : Char) (rest : List Char) :
    unquote (quoted c ++ rest) = some (c, rest) := by
  unfold quoted
  split_ifs with hzero htab hnewline hreturn hescaped hinvisible
  · rw [hzero]; rfl
  · rw [htab]; rfl
  · rw [hnewline]; rfl
  · rw [hreturn]; rfl
  · rcases hescaped with rfl | rfl | rfl <;> rfl
  · simpa using unquote_hex c rest
  · simp only [not_or] at hescaped
    simp [unquote, hescaped]

theorem quotedText_append_inj {c d : Char} {r s : List Char}
    (h : quotedText c ++ r = quotedText d ++ s) : c = d ∧ r = s := by
  simp only [quotedText, List.cons_append, List.append_assoc, List.cons.injEq, true_and] at h
  have hread := congrArg unquote h
  rw [unquote_quoted, unquote_quoted] at hread
  simpa using hread

end SchemaPattern
