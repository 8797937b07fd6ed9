import SchemaPattern.Proofs.Bounded
import SchemaPattern.Proofs.LocatedFaults

/-!
# Lines and columns of tokens and faults

The places of tokens, and of the faults that show at characters, have the line and the column that
the newlines before them give them.  A position behind the last character or token is off if that is
a newline, since it is reckoned in the line of that character.
-/

namespace SchemaPattern

/-- No token but the newline itself has one in its text. -/
theorem Token.eq_newline_of_spelledBy {t : Token} {text : List Char} (hlegible : t.Legible)
    (hspelled : t.SpelledBy text) (h : '\n' ∈ text) : text = ['\n'] := by
  have hdigit : ∀ n < 10, '\n' ≠ Numeral.digit n := by decide
  cases t with
  | char c | digit c =>
      obtain rfl := hspelled
      obtain rfl : '\n' = c := by simpa [spelling] using h
      rfl
  | singleEscape c =>
      obtain rfl := hspelled
      exact absurd h (@Lexer.forall_mem_of_all (['\n', '\r', '\t'] ++ Lexer.metaChars)
        (fun c => '\n' ∉ (singleEscape c).spelling) _ (by decide) c hlegible)
  | multiEscape letter =>
      obtain rfl := hspelled
      exact absurd h (@Lexer.forall_mem_of_all Lexer.multiLetters
        (fun c => '\n' ∉ (multiEscape c).spelling) _ (by decide) letter hlegible)
  | categoryEscape name negated =>
      obtain rfl := hspelled
      obtain ⟨-, hname⟩ := hlegible
      have hnot : '\n' ∉ name.toList := fun hmem => absurd (hname _ hmem) (by decide)
      cases negated <;> simp [spelling, hnot] at h
  | backReference n =>
      obtain rfl := hspelled
      exact absurd h (by simp [spelling, hdigit n (by have := hlegible.2; omega)])
  | number n => exact absurd (hspelled.2.1 _ h) (by decide)
  | _ =>
      obtain rfl := hspelled
      exact absurd h (by decide)

/-- The character before a position is a newline. -/
def Location.BehindNewline (pattern : List Char) (l : Location) : Prop :=
  l.length = 0 ∧ (pattern.take l.index).getLast? = some '\n'

theorem Location.accurate_after_iff_behind {before word behind : List Char} (hne : word ≠ [])
    (hline : '\n' ∈ word → word = ['\n']) :
    (ofPiece before word).after.Accurate (before ++ (word ++ behind)) ↔
      ¬ (ofPiece before word).after.BehindNewline (before ++ (word ++ behind)) := by
  rw [accurate_after_iff hne, BehindNewline, index_after_ofPiece hne, ← List.append_assoc,
    ← List.length_append, List.take_left, List.getLast?_append_of_ne_nil _ hne]
  refine not_congr ⟨fun h => ⟨rfl, ?_⟩, fun h => List.mem_of_getLast? h.2⟩
  rw [hline h]
  rfl

theorem Fault.Located.accurate_iff {flags : Flags} {pattern : String} {f : Fault} {l : Location}
    (h : f.Located flags pattern l) :
    l.Accurate pattern.toList ↔ ¬ l.BehindNewline pattern.toList := by
  cases h with
  | inside _ hpiece =>
      have hpos := hpiece.pos
      exact iff_of_true hpiece.accurate fun hbehind => Nat.ne_of_gt hpos hbehind.1
  | @behindText cause before c _ hpattern =>
      rw [hpattern]
      have hone : '\n' ∈ [c] → [c] = ['\n'] := by
        intro hmem
        rw [List.mem_singleton.1 hmem]
      exact @Location.accurate_after_iff_behind before [c] [] (by simp) hone
  | behindTokens hpattern _ hlegible hspelled =>
      rw [hpattern]
      exact Location.accurate_after_iff_behind hspelled.ne_nil
        (Token.eq_newline_of_spelledBy hlegible hspelled)

/-- The line and the column of each token are those of its first character, and so are those of each
fault, but for positions behind a newline. -/
theorem lines_and_columns (flags : Flags) (pattern : String) :
    (∀ ls, lex flags pattern = .ok ls → ∀ l ∈ ls, l.range.Accurate pattern.toList) ∧
      ∀ f, lex flags pattern = .error f ∨ parsePattern flags pattern = .error f →
        ∃ l, f.report.location = some l ∧
          (l.Accurate pattern.toList ↔ ¬ l.BehindNewline pattern.toList) := by
  refine ⟨fun ls h l hl => ?_, fun f h => ?_⟩
  · have hitems : patternItems flags pattern = Parser.items ls := lexemes_ok_iff.1 h
    have hmem : .lexeme l ∈ patternItems flags pattern := hitems ▸ List.mem_map_of_mem hl
    exact (writtenIn_patternItems hmem).pieceOf.accurate
  · obtain ⟨l, hlocation, hlocated⟩ := h.elim located_of_lex located_of_parsePattern
    exact ⟨l, hlocation, hlocated.accurate_iff⟩

/-- The class ends at the beginning of the second line, and the fault is said to stand in the
first one. -/
theorem lines_and_columns_open_class :
    let pattern := "[\n"
    let f : Fault := .lexical ⟨.unclosedClass, ⟨2, 0, 2, 0⟩⟩
    lex {} pattern = .error f ∧ parsePattern {} pattern = .error f ∧
      f.report.location = some ⟨2, 0, 2, 0⟩ ∧
      ¬ (⟨2, 0, 2, 0⟩ : Location).Accurate pattern.toList ∧
      (⟨2, 1, 0, 0⟩ : Location).Accurate pattern.toList := by
  intro pattern f
  have hitems : patternItems {} pattern =
      [.lexeme ⟨.classOpen, ⟨0, 0, 0, 1⟩⟩, .lexeme ⟨.char '\n', ⟨1, 0, 1, 1⟩⟩,
        .fault ⟨.unclosedClass, ⟨2, 0, 2, 0⟩⟩] :=
    @patternItems_of_within 5 _ _ _ (by decide +kernel)
  refine ⟨?_, @parsePattern_of_within 10 _ _ _ _ hitems rfl, rfl, fun h => ?_, by decide, by decide⟩
  · exact congrArg lexemes hitems
  · exact absurd h.line (by decide)

end SchemaPattern
