import SchemaPattern.Lexer

/-!
# Running the lexer

The lexer over any feed of characters is a source of items.  It ends because a step takes a
character or falls in rank.
-/

namespace SchemaPattern

namespace Lexer

/-! ## Progress -/

/-- A move takes one of the characters that are there, or leads to a state of lower rank. -/
def Move.Progress (st : State) (p0 : Option Placed) : Move → Prop
  | .shift count next | .emit count _ next =>
      (0 < count ∧ p0.isSome) ∨ (count = 0 ∧ next.scan.rank < st.scan.rank)
  | .stop => True

theorem fail_progress {st : State} (h : 0 < st.scan.rank) (p0 : Option Placed)
    (cause : LexicalCause) (place : Location) : (fail st cause place).Progress st p0 :=
  Or.inr ⟨rfl, h⟩

theorem token_progress (st : State) (c : Placed) (count : Nat) (start last : Location)
    (t : Token) (context : Context) :
    (token (count + 1) start last t context).Progress st (some c) :=
  Or.inl ⟨Nat.succ_pos _, rfl⟩

theorem shift_progress (st next : State) (c : Placed) (count : Nat) :
    (Move.shift (count + 1) next).Progress st (some c) :=
  Or.inl ⟨Nat.succ_pos _, rfl⟩

theorem escape_progress {st : State} (h : 0 < st.scan.rank) (c : Placed) (start : Location)
    (p1 p2 : Option Placed) : (escape st start p1 p2).Progress st (some c) := by
  unfold escape
  repeat' split
  all_goals simp only [fail_progress h, token_progress, shift_progress]

theorem outside_progress (flags : Flags) {st : State} (h : 0 < st.scan.rank) (c : Placed)
    (p1 p2 : Option Placed) : (outside flags st c p1 p2).Progress st (some c) := by
  unfold outside
  repeat' split
  all_goals simp only [fail_progress h, token_progress, escape_progress h]

theorem inClass_progress {st : State} (h : 0 < st.scan.rank) (enclosing : Nat) (spot : Spot)
    (c : Placed) (p1 p2 : Option Placed) :
    (inClass st enclosing spot c p1 p2).Progress st (some c) := by
  unfold inClass
  repeat' split
  all_goals simp only [fail_progress h, token_progress, escape_progress h]

theorem inQuantifier_progress {st : State} (h : 0 < st.scan.rank) (c : Placed) :
    (inQuantifier st c).Progress st (some c) := by
  unfold inQuantifier
  repeat' split
  all_goals simp only [fail_progress h, token_progress, shift_progress]

theorem between_progress (flags : Flags) {st : State} (h : 0 < st.scan.rank) (c : Placed)
    (p1 p2 : Option Placed) : (between flags st c p1 p2).Progress st (some c) := by
  unfold between
  repeat' split
  all_goals simp only [inClass_progress h, shift_progress, inQuantifier_progress h,
    outside_progress _ h]

theorem closeNumber_progress {st : State} (h : 1 < st.scan.rank) (p0 : Option Placed)
    (start : Location) (digits : List Char) : (closeNumber st start digits).Progress st p0 := by
  unfold closeNumber
  split
  · exact Or.inr ⟨rfl, h⟩
  · exact fail_progress (Nat.lt_of_succ_lt h) ..

theorem categoryName_progress {st : State} (h : 0 < st.scan.rank) (start : Location)
    (negated : Bool) (name : List Char) (p0 : Option Placed) :
    (categoryName st start negated name p0).Progress st p0 := by
  unfold categoryName
  repeat' split
  all_goals simp only [fail_progress h, token_progress, shift_progress]

theorem step_progress (flags : Flags) (st : State) (p0 p1 p2 : Option Placed) :
    (step flags st p0 p1 p2).Progress st p0 := by
  unfold step
  split
  · trivial
  · next h =>
    unfold atEnd
    split
    · trivial
    · exact fail_progress (by simp [h, Scan.rank]) ..
    · exact fail_progress (by simp [h, Scan.rank]) ..
  · next h => exact between_progress _ (by simp [h, Scan.rank]) ..
  · next h => exact Or.inr ⟨rfl, by simp [h, Scan.rank]⟩
  · exact shift_progress ..
  · next h =>
    split
    · split
      · exact shift_progress ..
      · exact closeNumber_progress (by simp [h, Scan.rank]) ..
    · exact closeNumber_progress (by simp [h, Scan.rank]) ..
  · next h => exact categoryName_progress (by simp [h, Scan.rank]) ..

/-! ## Pulling items -/

section

variable {σ : Type} [Feed σ Placed]

def pullItem (flags : Flags) (st : State) (feed : σ) : Option (Item × State × σ) :=
  match _ : step flags st (Feed.peek feed 0) (Feed.peek feed 1) (Feed.peek feed 2) with
  | .stop => none
  | .emit count item next => some (item, next, Source.drop count feed)
  | .shift count next => pullItem flags next (Source.drop count feed)
  termination_by (Source.size feed, st.scan.rank)
  decreasing_by
    have hp := step_progress flags st (Feed.peek feed 0) (Feed.peek feed 1) (Feed.peek feed 2)
    rw [‹step flags st _ _ _ = _›] at hp
    rcases hp with ⟨hc, hs⟩ | ⟨hc, hr⟩
    · obtain ⟨a, ha⟩ := Option.isSome_iff_exists.1 hs
      exact Prod.Lex.left _ _ (Source.size_drop_lt hc (Feed.isSome_pull ha))
    · subst hc
      exact Prod.Lex.right _ hr

theorem size_after_move {st next : State} {feed : σ} {count : Nat}
    (h : (0 < count ∧ (Feed.peek feed 0).isSome) ∨
      (count = 0 ∧ next.scan.rank < st.scan.rank)) :
    3 * Source.size (Source.drop count feed) + next.scan.rank <
      3 * Source.size feed + st.scan.rank := by
  rcases h with ⟨hc, hs⟩ | ⟨rfl, hr⟩
  · obtain ⟨a, ha⟩ := Option.isSome_iff_exists.1 hs
    have := Source.size_drop_lt hc (Feed.isSome_pull ha)
    have := next.scan.rank_le
    omega
  · simpa [Source.drop] using hr

theorem size_pullItem {flags : Flags} {st : State} {feed : σ} {r : Item × State × σ}
    (h : pullItem flags st feed = some r) :
    3 * Source.size r.2.2 + r.2.1.scan.rank < 3 * Source.size feed + st.scan.rank := by
  fun_induction pullItem flags st feed with
  | case1 => simp at h
  | case2 st feed count item next hm =>
    have hp := step_progress flags st (Feed.peek feed 0) (Feed.peek feed 1) (Feed.peek feed 2)
    rw [hm] at hp
    obtain rfl := Option.some.inj h
    exact size_after_move hp
  | case3 st feed count next hm ih =>
    have hp := step_progress flags st (Feed.peek feed 0) (Feed.peek feed 1) (Feed.peek feed 2)
    rw [hm] at hp
    exact Nat.lt_trans (ih h) (size_after_move hp)

end

end Lexer

/-- The tokens of a feed of characters, from a state of the lexer on. -/
structure Tokens (σ : Type) where
  flags : Flags
  chars : σ
  state : Lexer.State := {}

namespace Tokens

variable {σ : Type} [Feed σ Placed]

def pull (t : Tokens σ) : Option (Lexer.Item × Tokens σ) :=
  (Lexer.pullItem t.flags t.state t.chars).map fun r => (r.1, ⟨t.flags, r.2.2, r.2.1⟩)

/-- Falls with each character and with each fall in rank. -/
def size (t : Tokens σ) : Nat := 3 * Source.size t.chars + t.state.scan.rank

instance : Source (Tokens σ) Lexer.Item where
  pull := pull
  size := size
  size_lt {t item u} h := by
    simp only [pull, Option.map_eq_some_iff, Prod.mk.injEq] at h
    obtain ⟨r, hr, -, rfl⟩ := h
    exact Lexer.size_pullItem hr

end Tokens

/-! ## Whole patterns -/

/-- How many characters the lexer sees ahead, and how many tokens the parser. -/
def windowWidth : Nat := 3

def patternChars (pattern : String) : Window Positions Placed :=
  Window.fill windowWidth { rest := pattern.toList }

/-- The tokens of a pattern, read as they are asked for. -/
def patternTokens (flags : Flags) (pattern : String) : Tokens (Window Positions Placed) :=
  { flags, chars := patternChars pattern }

def lexemes : List Lexer.Item → Except Fault (List Lexeme)
  | [] => .ok []
  | .fault f :: _ => .error (.lexical f)
  | .lexeme l :: rest => (lexemes rest).map (l :: ·)

def lex (flags : Flags) (pattern : String) : Except Fault (List Lexeme) :=
  lexemes (Source.toList (patternTokens flags pattern))

end SchemaPattern
