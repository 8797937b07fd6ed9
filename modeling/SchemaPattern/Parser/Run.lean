import SchemaPattern.Parser

/-!
# Running the parser

The parser over any feed of items ends because a step takes an item or falls in rank.
-/

namespace SchemaPattern

namespace Parser

open Lexer (Item)

/-! ## Progress -/

/-- A move takes one of the items that are there, or leads to a state of lower rank. -/
def Move.Progress (st : State) (p0 : Option Item) : Move → Prop
  | .shift count next =>
      (0 < count ∧ p0.isSome) ∨ (count = 0 ∧ next.mode.rank < st.mode.rank)
  | .done _ | .fail _ => True

theorem unexpected_progress (st : State) (p0 p : Option Item) (place : Location)
    (expected : Expected) : (unexpected p place expected).Progress st p0 := by
  unfold unexpected
  split <;> trivial

theorem shift_progress (st next : State) (item : Item) (count : Nat) :
    (Move.shift (count + 1) next).Progress st (some item) :=
  Or.inl ⟨Nat.succ_pos _, rfl⟩

theorem take_progress (st : State) (item : Item) (range : Location) (next : State → State) :
    (take st range next).Progress st (some item) :=
  shift_progress ..

theorem takeEscape_progress (st : State) (item : Item) (range : Location) (name : EscapeName)
    (next : Escape → State → State) :
    (takeEscape st range name next).Progress st (some item) := by
  unfold takeEscape
  split
  · exact take_progress ..
  · trivial

theorem stay_progress {st next : State} (h : next.mode.rank < st.mode.rank) (p0 : Option Item) :
    (stay next).Progress st p0 :=
  Or.inr ⟨rfl, h⟩

theorem branch_progress {st : State} (h : st.mode = .branch) (p0 : Option Item) :
    (branch st p0).Progress st p0 := by
  unfold branch
  split
  · trivial
  · exact take_progress ..
  · exact take_progress ..
  · split
    · exact stay_progress (by simp [h, Mode.rank]) _
    · exact unexpected_progress ..
  · trivial
  · exact unexpected_progress ..

theorem openClass_progress (st : State) (item : Item) (range : Location) (p1 : Option Item) :
    (openClass st range p1).Progress st (some item) := by
  unfold openClass
  split
  · exact shift_progress ..
  · exact take_progress ..

theorem atom_progress (flags : Flags) (st : State) (p0 p1 : Option Item) :
    (atom flags st p0 p1).Progress st p0 := by
  unfold atom
  match p0 with
  | some (.lexeme ⟨t, _⟩) =>
    cases t <;>
      simp only [take_progress, takeEscape_progress, openClass_progress, unexpected_progress]
  | some (.fault _) => exact unexpected_progress ..
  | none => exact unexpected_progress ..

theorem quantifier_progress {st : State} {e : Expr} (h : st.mode = .quantifier e)
    (p0 : Option Item) : (quantifier st e p0).Progress st p0 := by
  unfold quantifier
  split
  · trivial
  · exact take_progress ..
  · exact take_progress ..
  · exact take_progress ..
  · exact take_progress ..
  · exact stay_progress (by simp [h, State.withPiece, Mode.rank]) _

theorem minimum_progress (st : State) (e : Expr) (start : Location) (p0 : Option Item) :
    (minimum st e start p0).Progress st p0 := by
  unfold minimum
  split
  · exact take_progress ..
  · exact unexpected_progress ..

theorem comma_progress {st : State} {e : Expr} {start : Location} {min : Nat}
    (h : st.mode = .comma e start min) (p0 : Option Item) :
    (comma st e start min p0).Progress st p0 := by
  unfold comma
  split
  · trivial
  · exact take_progress ..
  · exact stay_progress (by simp [h, Mode.rank]) _

theorem maximum_progress {st : State} {e : Expr} {start : Location} {min : Nat}
    (h : st.mode = .maximum e start min) (p0 p1 : Option Item) :
    (maximum st e start min p0 p1).Progress st p0 := by
  unfold maximum
  split
  · trivial
  · split
    · exact take_progress ..
    · split <;> trivial
  · exact stay_progress (by simp [h, Mode.rank]) _

theorem closingBrace_progress (st : State) (e : Expr) (q : Quantifier) (p0 : Option Item) :
    (closingBrace st e q p0).Progress st p0 := by
  unfold closingBrace
  split
  · exact take_progress ..
  · exact unexpected_progress ..

theorem lazyMark_progress {st : State} {e : Expr} {q : Quantifier} (h : st.mode = .lazyMark e q)
    (p0 : Option Item) : (lazyMark st e q p0).Progress st p0 := by
  unfold lazyMark
  split
  · trivial
  · exact take_progress ..
  · exact stay_progress (by simp [h, State.withPiece, Mode.rank]) _

theorem referenceEnd_progress {st : State} {index : Nat} {start : Location}
    (h : st.mode = .reference index start) (p0 : Option Item) :
    (referenceEnd st index start).Progress st p0 := by
  unfold referenceEnd
  split
  · exact stay_progress (by simp [h, State.withAtom, Mode.rank]) _
  · trivial

theorem reference_progress {st : State} {index : Nat} {start : Location}
    (h : st.mode = .reference index start) (p0 : Option Item) :
    (reference st index start p0).Progress st p0 := by
  unfold reference
  split
  · trivial
  · split
    · exact take_progress ..
    · exact referenceEnd_progress h _
  · exact referenceEnd_progress h _

theorem classChar_progress (st : State) (k : OpenClass) (c : Char) (l : Lexeme)
    (p1 p2 : Option Item) :
    (classChar st k c l.range p1 p2).Progress st (some (.lexeme l)) := by
  unfold classChar
  split
  · trivial
  · split
    · trivial
    · exact take_progress ..
    · exact take_progress ..
    · exact take_progress ..
    · exact shift_progress ..
  · exact take_progress ..

theorem groupEnd_progress (st : State) (k : OpenClass) (p0 p1 p2 : Option Item) :
    (groupEnd st k p0 p1 p2).Progress st p0 := by
  unfold groupEnd
  split
  · exact unexpected_progress ..
  · split
    · unfold subtrahend
      split
      · exact shift_progress ..
      · exact shift_progress ..
      · exact unexpected_progress ..
    · exact take_progress ..
    · exact unexpected_progress ..

theorem members_progress (st : State) (k : OpenClass) (p0 p1 p2 : Option Item) :
    (members st k p0 p1 p2).Progress st p0 := by
  unfold members
  split
  · split
    · exact classChar_progress ..
    · exact takeEscape_progress ..
    · exact groupEnd_progress ..
  · exact groupEnd_progress ..

theorem rangeEnd_progress (st : State) (k : OpenClass) (low : Char) (start : Location)
    (p0 : Option Item) : (rangeEnd st k low start p0).Progress st p0 := by
  unfold rangeEnd
  split
  · split
    · split
      · exact take_progress ..
      · trivial
    · exact unexpected_progress ..
  · exact unexpected_progress ..

theorem closing_progress {st : State} {c : CharClass} {outer : List CharGroup}
    (h : st.mode = .closing c outer) (p0 : Option Item) :
    (closing st c outer p0).Progress st p0 := by
  unfold closing
  split
  · exact stay_progress (by simp [h, State.withAtom, Mode.rank]) _
  · split
    · exact take_progress ..
    · exact unexpected_progress ..

theorem step_progress (flags : Flags) (st : State) (p0 p1 p2 : Option Item) :
    (step flags st p0 p1 p2).Progress st p0 := by
  unfold step
  split
  · next h => exact branch_progress h _
  · exact atom_progress ..
  · next h => exact quantifier_progress h _
  · exact minimum_progress ..
  · next h => exact comma_progress h _
  · next h => exact maximum_progress h _ _
  · exact closingBrace_progress ..
  · next h => exact lazyMark_progress h _
  · next h => exact reference_progress h _
  · exact members_progress ..
  · exact rangeEnd_progress ..
  · next h => exact closing_progress h _

/-! ## Whole runs -/

def run {σ : Type} [Feed σ Item] (flags : Flags) (st : State) (feed : σ) : Except Fault Expr :=
  match _ : step flags st (Feed.peek feed 0) (Feed.peek feed 1) (Feed.peek feed 2) with
  | .done e => .ok e
  | .fail f => .error f
  | .shift count next => run flags next (Source.drop count feed)
  termination_by (Source.size feed, st.mode.rank)
  decreasing_by
    have hp := step_progress flags st (Feed.peek feed 0) (Feed.peek feed 1) (Feed.peek feed 2)
    rw [‹step flags st _ _ _ = _›] at hp
    rcases hp with ⟨hc, hs⟩ | ⟨hc, hr⟩
    · obtain ⟨a, ha⟩ := Option.isSome_iff_exists.1 hs
      exact Prod.Lex.left _ _ (Source.size_drop_lt hc (Feed.isSome_pull ha))
    · subst hc
      exact Prod.Lex.right _ hr

end Parser

def parseItems {σ : Type} [Feed σ Lexer.Item] (flags : Flags) (feed : σ) : Except Fault Expr :=
  Parser.run flags {} feed

/-- The expression of a pattern.  The parser reads the tokens through a window, and the lexer the
characters through another one. -/
def parsePattern (flags : Flags) (pattern : String) : Except Fault Expr :=
  parseItems flags (Window.fill windowWidth (patternTokens flags pattern))

end SchemaPattern
