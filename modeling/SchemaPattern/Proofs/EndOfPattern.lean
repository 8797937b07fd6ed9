import SchemaPattern.Proofs.Bounded
import SchemaPattern.Proofs.LocatedFaults

/-!
# Faults at the end of a pattern

That a pattern ends too early shows at a position.  If the lexer finds it, this is the end of the
pattern.  The parser finds it behind the last token, which is the end unless a gap stands there.
-/

namespace SchemaPattern

theorem Location.fragment_eq_nil_iff {pattern : List Char} {l : Location}
    (hle : l.index ≤ pattern.length) : l.fragment pattern = [] ↔ l.index = pattern.length := by
  have hmax : max l.length 1 ≠ 0 := by omega
  rw [fragment, List.take_eq_nil_iff, or_iff_right hmax, List.drop_eq_nil_iff]
  omega

section

variable {flags : Flags} {pattern : String} {place : Location}

/-- The lexer finds the end where the pattern ends. -/
theorem index_of_lexical {cause : LexicalCause} (hcause : cause.AtEnd)
    (h : parsePattern flags pattern = .error (.lexical ⟨cause, place⟩)) :
    place.length = 0 ∧ place.index = pattern.length := by
  obtain ⟨l, hlocation, hlocated⟩ := located_of_parsePattern h
  obtain rfl := Option.some.inj hlocation
  cases hlocated with
  | inside hnot => exact absurd hcause hnot
  | @behindText _ before c _ hpattern =>
      refine ⟨rfl, ?_⟩
      rw [Location.index_after_ofPiece (by simp), ← String.length_toList, hpattern]
      simp

/-- The parser finds it where the last token ends, and behind that a gap may stand. -/
theorem index_of_ended {expected : Expected}
    (h : parsePattern flags pattern = .error (.grammar none expected place)) :
    place.length = 0 ∧ GapBehind flags (pattern.toList.drop place.index) ∧
      ∃ ls m, lex flags pattern = .ok (ls ++ [m]) ∧
        place.index = m.range.index + m.range.length := by
  obtain ⟨l, hlocation, hlocated⟩ := located_of_parsePattern h
  obtain rfl := Option.some.inj hlocation
  cases hlocated with
  | inside hnot => exact absurd trivial hnot
  | @behindTokens _ before word gap t ls hpattern hlex _ hspelled hgap =>
      have hindex := @Location.index_after_ofPiece before word hspelled.ne_nil
      refine ⟨rfl, ?_, ls, _, hlex, by simpa using hindex⟩
      rw [hindex, hpattern, ← List.append_assoc, ← List.length_append, List.drop_left]
      exact hgap

end

/-- That the pattern ends too early is located at its end if the lexer finds it, and behind the last
token if the parser does.  This is the end unless a gap is skipped there, and its fragment is empty
just at the end. -/
theorem end_of_pattern (flags : Flags) (pattern : String) :
    (∀ cause place, cause.AtEnd →
        parsePattern flags pattern = .error (.lexical ⟨cause, place⟩) →
        place.length = 0 ∧ place.index = pattern.length ∧ place.fragment pattern.toList = []) ∧
      ∀ expected place, parsePattern flags pattern = .error (.grammar none expected place) →
        place.length = 0 ∧ GapBehind flags (pattern.toList.drop place.index) ∧
          (∃ ls m, lex flags pattern = .ok (ls ++ [m]) ∧
            place.index = m.range.index + m.range.length) ∧
          (flags.stripWhitespace = false → place.index = pattern.length) ∧
          (place.fragment pattern.toList = [] ↔ place.index = pattern.length) := by
  have hempty {f : Fault} {place : Location} (h : parsePattern flags pattern = .error f)
      (hplace : f.report.location = some place) :
      place.index ≤ pattern.length ∧
        (place.fragment pattern.toList = [] ↔ place.index = pattern.length) := by
    obtain ⟨l, hlocation, hlocated⟩ := located_of_parsePattern h
    obtain rfl := Option.some.inj (hplace.symm.trans hlocation)
    have hle : place.index ≤ pattern.toList.length := Nat.le_of_add_right_le hlocated.end_le
    have hiff := Location.fragment_eq_nil_iff hle
    rw [String.length_toList] at hle hiff
    exact ⟨hle, hiff⟩
  constructor
  · intro cause place hcause h
    obtain ⟨hlength, hindex⟩ := index_of_lexical hcause h
    exact ⟨hlength, hindex, (hempty h rfl).2.2 hindex⟩
  · intro expected place h
    obtain ⟨hle, hfragment⟩ := hempty h rfl
    obtain ⟨hlength, hgap, hlast⟩ := index_of_ended h
    refine ⟨hlength, hgap, hlast, fun hkeep => ?_, hfragment⟩
    have hnil : pattern.toList.drop place.index = [] := by
      refine hgap.resolve_right fun hstrip => ?_
      simp [hkeep] at hstrip
    have hge := List.drop_eq_nil_iff.1 hnil
    rw [String.length_toList] at hge
    exact Nat.le_antisymm hle hge

/-- With blanks at the end, that a group is not closed shows before them, and that bounds are not
closed shows behind them. -/
theorem end_of_pattern_blanks :
    let flags : Flags := { stripWhitespace := true }
    let f : Fault := .grammar none .groupClose ⟨2, 0, 2, 0⟩
    let g : Fault := .lexical ⟨.unclosedQuantifier, ⟨5, 0, 5, 0⟩⟩
    (parsePattern flags "(a  " = .error f ∧ f.report.location = some ⟨2, 0, 2, 0⟩ ∧
        "(a  ".length = 4 ∧ f.report.fragment "(a  " = some " ") ∧
      parsePattern flags "a\x7b2  " = .error g ∧ "a\x7b2  ".length = 5 := by
  intro flags f g
  have hgroup : patternItems flags "(a  " =
      [.lexeme ⟨.groupOpen, ⟨0, 0, 0, 1⟩⟩, .lexeme ⟨.char 'a', ⟨1, 0, 1, 1⟩⟩] :=
    @patternItems_of_within 5 _ _ _ (by decide +kernel)
  have hbounds : patternItems flags "a\x7b2  " =
      [.lexeme ⟨.char 'a', ⟨0, 0, 0, 1⟩⟩, .lexeme ⟨.quantifierOpen, ⟨1, 0, 1, 1⟩⟩,
        .lexeme ⟨.number 2, ⟨2, 0, 2, 1⟩⟩, .fault ⟨.unclosedQuantifier, ⟨5, 0, 5, 0⟩⟩] :=
    @patternItems_of_within 8 _ _ _ (by decide +kernel)
  exact ⟨⟨@parsePattern_of_within 10 _ _ _ _ hgroup rfl, rfl, rfl, rfl⟩,
    @parsePattern_of_within 10 _ _ _ _ hbounds rfl, rfl⟩

end SchemaPattern
