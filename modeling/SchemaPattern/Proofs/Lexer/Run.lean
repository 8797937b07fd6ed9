import SchemaPattern.Proofs.Parser.Run

/-!
# Runs of the lexer over lists

A lexer that reads through a window yields what it would yield for the list of all characters with
their places.
-/

namespace SchemaPattern

/-- The characters of a text with their places, the first of them at `place`. -/
def placed (place : Location) : List Char → List Placed
  | [] => []
  | c :: rest => ⟨c, place⟩ :: placed (place.next c) rest

/-- The place behind a text that begins at `place`. -/
def Location.past (place : Location) (text : List Char) : Location := text.foldl Location.next place

theorem placed_append (place : Location) (text others : List Char) :
    placed place (text ++ others) = placed place text ++ placed (place.past text) others := by
  induction text generalizing place with
  | nil => rfl
  | cons c text ih =>
      rw [List.cons_append, placed, placed, ih]
      rfl

theorem length_placed (place : Location) (text : List Char) :
    (placed place text).length = text.length := by
  induction text generalizing place with
  | nil => rfl
  | cons c text ih => simp [placed, ih]

theorem map_char_placed (place : Location) (text : List Char) :
    (placed place text).map Placed.char = text := by
  induction text generalizing place with
  | nil => rfl
  | cons c text ih => rw [placed, List.map_cons, ih]

theorem toList_positions (place : Location) (text : List Char) :
    Source.toList ({ rest := text, place } : Positions) = placed place text := by
  induction text generalizing place with
  | nil => exact Source.toList_of_pull_none rfl
  | cons c text ih =>
      have hpull : Source.pull ({ rest := c :: text, place } : Positions) =
          some (⟨c, place⟩, { rest := text, place := place.next c }) := rfl
      rw [Source.toList_of_pull_some hpull, ih, placed]

namespace Lexer

/-- One step, with the next three characters of a list. -/
def stepOn (flags : Flags) (st : State) (chars : List Placed) : Move :=
  step flags st chars[0]? chars[1]? chars[2]?

/-! ## Feeds -/

section

variable {σ : Type} [Feed σ Placed]

theorem pullItem_eq (flags : Flags) (st : State) (feed : σ) :
    pullItem flags st feed =
      match step flags st (Feed.peek feed 0) (Feed.peek feed 1) (Feed.peek feed 2) with
      | .stop => none
      | .emit count item next => some (item, next, Source.drop count feed)
      | .shift count next => pullItem flags next (Source.drop count feed) := by
  rw [pullItem]
  split <;> simp_all

variable {flags : Flags} {st next : State} {feed : σ} {count : Nat}

theorem toList_stop
    (h : step flags st (Feed.peek feed 0) (Feed.peek feed 1) (Feed.peek feed 2) = .stop) :
    Source.toList (⟨flags, feed, st⟩ : Tokens σ) = [] := by
  apply Source.toList_of_pull_none
  simp only [Source.pull, Tokens.pull, pullItem_eq flags st, h, Option.map_none]

theorem toList_emit {item : Item}
    (h : step flags st (Feed.peek feed 0) (Feed.peek feed 1) (Feed.peek feed 2) =
      .emit count item next) :
    Source.toList (⟨flags, feed, st⟩ : Tokens σ) =
      item :: Source.toList (⟨flags, Source.drop count feed, next⟩ : Tokens σ) := by
  apply Source.toList_of_pull_some
  simp only [Source.pull, Tokens.pull, pullItem_eq flags st, h, Option.map_some]

theorem toList_shift
    (h : step flags st (Feed.peek feed 0) (Feed.peek feed 1) (Feed.peek feed 2) =
      .shift count next) :
    Source.toList (⟨flags, feed, st⟩ : Tokens σ) =
      Source.toList (⟨flags, Source.drop count feed, next⟩ : Tokens σ) := by
  have hpull : Source.pull (⟨flags, feed, st⟩ : Tokens σ) =
      Source.pull (⟨flags, Source.drop count feed, next⟩ : Tokens σ) := by
    simp only [Source.pull, Tokens.pull, pullItem_eq flags st, h]
  cases hnext : Source.pull (⟨flags, Source.drop count feed, next⟩ : Tokens σ) with
  | none =>
      rw [Source.toList_of_pull_none hnext]
      exact Source.toList_of_pull_none (hpull.trans hnext)
  | some pulled =>
      rw [Source.toList_of_pull_some hnext]
      exact Source.toList_of_pull_some (hpull.trans hnext)

end

/-! ## Lists -/

/-- The items that the lexer yields for characters, from a state on. -/
def itemsFrom (flags : Flags) (st : State) (chars : List Placed) : List Item :=
  Source.toList (⟨flags, chars, st⟩ : Tokens (List Placed))

section

variable {flags : Flags} {st next : State} {chars : List Placed} {count : Nat}

theorem itemsFrom_stop (h : stepOn flags st chars = .stop) : itemsFrom flags st chars = [] :=
  toList_stop h

theorem itemsFrom_emit {item : Item} (h : stepOn flags st chars = .emit count item next) :
    itemsFrom flags st chars = item :: itemsFrom flags next (chars.drop count) := by
  rw [itemsFrom, ← drop_list]
  exact @toList_emit _ _ flags st next chars count item h

theorem itemsFrom_shift (h : stepOn flags st chars = .shift count next) :
    itemsFrom flags st chars = itemsFrom flags next (chars.drop count) := by
  rw [itemsFrom, ← drop_list]
  exact @toList_shift _ _ flags st next chars count h

theorem lt_of_stepOn
    (h : (∃ item, stepOn flags st chars = .emit count item next) ∨
      stepOn flags st chars = .shift count next) :
    3 * (chars.drop count).length + next.scan.rank < 3 * chars.length + st.scan.rank := by
  have hp : (stepOn flags st chars).Progress st chars[0]? := step_progress ..
  rw [← drop_list]
  rcases h with ⟨item, h⟩ | h
  · rw [h] at hp
    exact @size_after_move _ _ st next chars count hp
  · rw [h] at hp
    exact @size_after_move _ _ st next chars count hp

/-- A property of states and of the characters to come holds if it is established by a step that
ends the run, and passed back over the other steps. -/
theorem itemsFrom_induction {motive : State → List Placed → Prop} (flags : Flags)
    (stop : ∀ st chars, stepOn flags st chars = .stop → motive st chars)
    (emit : ∀ st chars count item next, stepOn flags st chars = .emit count item next →
      motive next (chars.drop count) → motive st chars)
    (shift : ∀ st chars count next, stepOn flags st chars = .shift count next →
      motive next (chars.drop count) → motive st chars)
    (st : State) (chars : List Placed) : motive st chars := by
  match h : stepOn flags st chars with
  | .stop => exact stop st chars h
  | .emit count item next =>
      exact emit st chars count item next h
        (itemsFrom_induction flags stop emit shift next (chars.drop count))
  | .shift count next =>
      exact shift st chars count next h
        (itemsFrom_induction flags stop emit shift next (chars.drop count))
  termination_by 3 * chars.length + st.scan.rank
  decreasing_by
    · exact lt_of_stepOn (.inl ⟨item, h⟩)
    · exact lt_of_stepOn (.inr h)

end

theorem toList_window {σ : Type} [Source σ Placed] {flags : Flags} {st : State}
    {w : Window σ Placed} {chars : List Placed} (h : w.Shows windowWidth chars) :
    Source.toList (⟨flags, w, st⟩ : Tokens (Window σ Placed)) = itemsFrom flags st chars := by
  have hstep : ∀ {st : State} {w : Window σ Placed} {chars : List Placed},
      w.Shows windowWidth chars →
        step flags st (Feed.peek w 0) (Feed.peek w 1) (Feed.peek w 2) =
          stepOn flags st chars := by
    intro st w chars h
    have hpeek : ∀ n < windowWidth, Feed.peek w n = chars[n]? := fun n hn => h.peek_eq hn
    rw [stepOn, hpeek 0 (by decide), hpeek 1 (by decide), hpeek 2 (by decide)]
  induction st, chars using itemsFrom_induction flags generalizing w with
  | stop st chars hmove => rw [toList_stop ((hstep h).trans hmove), itemsFrom_stop hmove]
  | emit st chars count item next hmove ih =>
      rw [toList_emit ((hstep h).trans hmove), itemsFrom_emit hmove, ih (h.drop (by decide) count)]
  | shift st chars count next hmove ih =>
      rw [toList_shift ((hstep h).trans hmove), itemsFrom_shift hmove, ih (h.drop (by decide) count)]

end Lexer

/-- The lexer reads a pattern through a window as it would read the list of its characters. -/
theorem patternItems_eq (flags : Flags) (pattern : String) :
    patternItems flags pattern = Lexer.itemsFrom flags {} (placed .origin pattern.toList) := by
  rw [← toList_positions]
  exact Lexer.toList_window (Window.fill_shows windowWidth _)

end SchemaPattern
