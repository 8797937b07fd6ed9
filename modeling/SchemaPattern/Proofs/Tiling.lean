import SchemaPattern.Proofs.Bounded
import SchemaPattern.Proofs.Lexer.Layout

/-!
# Tokens tile a pattern

Each character of a pattern belongs to one token, or to a gap between tokens.  There are gaps only
where blanks are skipped, and none in a class.
-/

namespace SchemaPattern

/-- The lexemes stand next to each other, from the index `n` up to the index `stop`. -/
def Adjoin : Nat → List Lexeme → Nat → Prop
  | n, [], stop => n = stop
  | n, l :: ls, stop => l.range.index = n ∧ Adjoin (n + l.range.length) ls stop

/-- From the index `n` on, where `depth` classes are open, nothing but gaps stand before and behind
the lexemes, and no gap stands in a class. -/
def GapsBetween (pattern : List Char) : Nat → Nat → List Lexeme → Prop
  | depth, n, [] => n = pattern.length ∨ depth = 0 ∧ LastGap (pattern.drop n)
  | depth, n, l :: ls =>
      (l.range.index = n ∨ depth = 0 ∧ Gap ((pattern.drop n).take (l.range.index - n))) ∧
        GapsBetween pattern (l.token.depthBehind depth) (l.range.index + l.range.length) ls

/-! ## Depths -/

/-- How many classes are open in a mode. -/
def Mode.depth : Mode → Nat
  | charClass n => n + 1
  | _ => 0

theorem Mode.depth_eq_zero {mode : Mode} : mode.depth = 0 ↔ ¬ mode.InClass := by
  cases mode <;> simp [depth, InClass]

theorem Mode.Admits.depth {extended : Bool} {mode : Mode} {previous : Option Token} {t : Token}
    (h : mode.Admits extended previous t) : (mode.behind t).depth = t.depthBehind mode.depth := by
  cases mode with
  | outside => cases t <;> rfl
  | bounds => cases t <;> first | rfl | exact absurd h id
  | charClass n => cases n <;> cases t <;> rfl

namespace Lexer

section

variable {flags : Flags} {mode after : Mode} {before text : List Char} {ls : List Lexeme}

theorem Laid.pairwise (h : Laid flags mode before text ls after) :
    ls.Pairwise fun l m => l.range.index + l.range.length ≤ m.range.index := by
  induction h with
  | nil => exact .nil
  | cons _ _ _ _ hrest ih =>
      refine .cons (fun m hm => ?_) ih
      have := hrest.le_index m hm
      simp only [List.length_append] at this
      simp
      omega

theorem Laid.adjoin (h : Laid flags mode before text ls after)
    (hstrip : flags.stripWhitespace = false) :
    Adjoin before.length ls (before.length + text.length) := by
  induction h with
  | nil => rfl
  | cons hgap _ _ _ _ ih =>
      obtain rfl := hgap.eq_nil (.inl hstrip)
      refine ⟨by simp, ?_⟩
      simpa [Nat.add_assoc] using ih

/-- Where nothing is skipped, the texts of the lexemes make up the whole text. -/
theorem Laid.fragments (h : Laid flags mode before text ls after)
    (hstrip : flags.stripWhitespace = false) (behind : List Char) :
    (ls.flatMap fun l => l.range.fragment (before ++ (text ++ behind))) = text := by
  induction h with
  | nil => rfl
  | @cons _ _ before gap first rest t ls hgap _ _ hspelled _ ih =>
      obtain rfl := hgap.eq_nil (.inl hstrip)
      have hfirst : (Location.ofPiece (before ++ []) first).fragment
          (before ++ ([] ++ (first ++ rest) ++ behind)) = first := by
        simpa using @Location.fragment_ofPiece before first (rest ++ behind) hspelled.ne_nil
      rw [List.flatMap_cons, hfirst]
      simpa using ih

theorem Laid.gapsBetween (h : Laid flags mode before text ls after) {rest : List Char}
    (hafter : after = .outside) (hrest : GapBehind flags rest) :
    GapsBetween (before ++ (text ++ rest)) mode.depth before.length ls := by
  induction h with
  | nil =>
      subst hafter
      rcases hrest with rfl | ⟨-, hrest⟩
      · exact .inl (by simp)
      · exact .inr ⟨rfl, by simpa using hrest⟩
  | @cons mode _ before gap first tail t ls hgap _ hadmits _ _ ih =>
      obtain ⟨previous, hadmits⟩ := hadmits
      refine ⟨?_, ?_⟩
      · rcases hgap with rfl | ⟨-, hclass, hgap⟩
        · exact .inl (by simp)
        · exact .inr ⟨Mode.depth_eq_zero.2 hclass, by simpa using hgap⟩
      · rw [← hadmits.depth]
        simpa [Nat.add_assoc] using ih hafter

end

end Lexer

/-! ## Whole patterns -/

theorem laid_of_lex {flags : Flags} {pattern : String} {ls : List Lexeme}
    (h : lex flags pattern = .ok ls) : ∃ front rest, pattern.toList = front ++ rest ∧
      Lexer.Laid flags .outside [] front ls .outside ∧ GapBehind flags rest := by
  have hitems : patternItems flags pattern = Parser.items ls ++ [] := by
    rw [List.append_nil]
    exact lexemes_ok_iff.1 h
  obtain ⟨front, rest, after, hpattern, hlaid, hrest⟩ := laid_of_items hitems
  obtain ⟨rfl, hgap⟩ := hrest rfl
  exact ⟨front, rest, hpattern, hlaid, hgap⟩

/-- Each token of a pattern has a text in it, which spells the token.  These texts do not overlap,
stand in the order of the tokens, and make up the pattern but for gaps.  No gap stands in a class,
and there are none where blanks are not skipped. -/
theorem lexemes_tile_pattern {flags : Flags} {pattern : String} {ls : List Lexeme}
    (h : lex flags pattern = .ok ls) :
    (∀ l ∈ ls, 1 ≤ l.range.length ∧ l.range.index + l.range.length ≤ pattern.length ∧
        l.token.Legible ∧ l.token.SpelledBy (l.range.fragment pattern.toList)) ∧
      ls.Pairwise (fun l m => l.range.index + l.range.length ≤ m.range.index) ∧
      (flags.stripWhitespace = false → Adjoin 0 ls pattern.length ∧
        (ls.flatMap fun l => l.range.fragment pattern.toList) = pattern.toList) ∧
      GapsBetween pattern.toList 0 0 ls := by
  obtain ⟨front, rest, hpattern, hlaid, hrest⟩ := laid_of_lex h
  have hlength : pattern.length = front.length + rest.length := by
    rw [← String.length_toList, hpattern, List.length_append]
  refine ⟨fun l hl => ?_, hlaid.pairwise, fun hstrip => ?_, ?_⟩
  · have hwritten := hlaid.writtenIn rest l hl
    rw [List.nil_append, ← hpattern] at hwritten
    have hend := hwritten.pieceOf.end_le
    rw [String.length_toList] at hend
    exact ⟨hwritten.pieceOf.pos, hend, hwritten.spelled⟩
  · obtain rfl : rest = [] := by
      rcases hrest with hnil | ⟨htrue, -⟩
      · exact hnil
      · simp [hstrip] at htrue
    have hadjoin := hlaid.adjoin hstrip
    have hfragments := hlaid.fragments hstrip []
    simp only [List.append_nil, List.nil_append] at hpattern hfragments
    rw [hpattern, hlength]
    exact ⟨by simpa using hadjoin, hfragments⟩
  · rw [hpattern]
    exact hlaid.gapsBetween rfl hrest

/-- The blank in the class is a token, and the one at the beginning is not. -/
theorem lexemes_tile_pattern_spaced :
    let flags : Flags := { stripWhitespace := true }
    let pattern := " a#one\n\x7b07\x7d[ ]#two"
    let ls : List Lexeme := [⟨.char 'a', ⟨1, 0, 1, 1⟩⟩, ⟨.quantifierOpen, ⟨7, 1, 0, 1⟩⟩,
      ⟨.number 7, ⟨8, 1, 1, 2⟩⟩, ⟨.quantifierClose, ⟨10, 1, 3, 1⟩⟩, ⟨.classOpen, ⟨11, 1, 4, 1⟩⟩,
      ⟨.char ' ', ⟨12, 1, 5, 1⟩⟩, ⟨.classClose, ⟨13, 1, 6, 1⟩⟩]
    lex flags pattern = .ok ls ∧
      (∀ l ∈ ls, 1 ≤ l.range.length ∧ l.range.index + l.range.length ≤ pattern.length ∧
        l.token.Legible ∧ l.token.SpelledBy (l.range.fragment pattern.toList)) ∧
      ls.Pairwise (fun l m => l.range.index + l.range.length ≤ m.range.index) ∧
      GapsBetween pattern.toList 0 0 ls := by
  intro flags pattern ls
  have hitems : patternItems flags pattern = Parser.items ls :=
    @patternItems_of_within 30 _ _ _ (by decide +kernel)
  have hlex : lex flags pattern = .ok ls := lexemes_ok_iff.2 hitems
  obtain ⟨hspelled, hpairwise, -, hgaps⟩ := lexemes_tile_pattern hlex
  exact ⟨hlex, hspelled, hpairwise, hgaps⟩

end SchemaPattern
