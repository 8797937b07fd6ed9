import SchemaPattern.Parser.Run
import SchemaPattern.Proofs.Lookahead

/-!
# Runs of the parser over lists

A parser that reads through a window does what it would do with the list of all items.
-/

namespace SchemaPattern

namespace Parser

open Lexer (Item)

/-- One step, with the next three items of a list. -/
def stepOn (flags : Flags) (st : State) (items : List Item) : Move :=
  step flags st items[0]? items[1]? items[2]?

section

variable {flags : Flags} {st next : State} {items : List Item}

theorem run_eq {σ : Type} [Feed σ Item] (flags : Flags) (st : State) (feed : σ) :
    run flags st feed =
      match step flags st (Feed.peek feed 0) (Feed.peek feed 1) (Feed.peek feed 2) with
      | .done e => .ok e
      | .fail f => .error f
      | .shift count next => run flags next (Source.drop count feed) := by
  rw [run]
  split <;> simp_all

theorem run_list (flags : Flags) (st : State) (items : List Item) :
    run flags st items =
      match stepOn flags st items with
      | .done e => .ok e
      | .fail f => .error f
      | .shift count next => run flags next (items.drop count) := by
  rw [run_eq]
  simp only [drop_list]
  rfl

theorem run_done {e : Expr} (h : stepOn flags st items = .done e) :
    run flags st items = .ok e := by
  rw [run_list, h]

theorem run_fail {f : Fault} (h : stepOn flags st items = .fail f) :
    run flags st items = .error f := by
  rw [run_list, h]

theorem run_shift {count : Nat} (h : stepOn flags st items = .shift count next) :
    run flags st items = run flags next (items.drop count) := by
  rw [run_list, h]

/-- A property of states and of the items to come holds if a step that ends the run and a step that
goes on establish it. -/
theorem run_induction {motive : State → List Item → Prop} (flags : Flags)
    (done : ∀ st items e, stepOn flags st items = .done e → motive st items)
    (fail : ∀ st items f, stepOn flags st items = .fail f → motive st items)
    (shift : ∀ st items count next, stepOn flags st items = .shift count next →
      motive next (items.drop count) → motive st items)
    (st : State) (items : List Item) : motive st items := by
  fun_induction run flags st items with
  | case1 st items e h => exact done st items e h
  | case2 st items f h => exact fail st items f h
  | case3 st items count next h ih =>
      rw [drop_list] at ih
      exact shift st items count next h ih

end

theorem run_window {σ : Type} [Source σ Item] {flags : Flags} {st : State}
    {w : Window σ Item} {items : List Item} (h : w.Shows windowWidth items) :
    run flags st w = run flags st items := by
  have hstep : ∀ {st : State} {w : Window σ Item} {items : List Item},
      w.Shows windowWidth items →
        step flags st (Feed.peek w 0) (Feed.peek w 1) (Feed.peek w 2) =
          stepOn flags st items := by
    intro st w items h
    have hpeek : ∀ n < windowWidth, Feed.peek w n = items[n]? := fun n hn => h.peek_eq hn
    rw [stepOn, hpeek 0 (by decide), hpeek 1 (by decide), hpeek 2 (by decide)]
  induction st, items using run_induction flags generalizing w with
  | done st items e hmove => rw [run_eq, hstep h, hmove, run_done hmove]
  | fail st items f hmove => rw [run_eq, hstep h, hmove, run_fail hmove]
  | shift st items count next hmove ih =>
      rw [run_eq, hstep h, hmove, run_shift hmove]
      exact ih (h.drop (by decide) count)

end Parser

/-- The parser reads a source through a window as it would read the list of its items. -/
theorem parseItems_fill {σ : Type} [Source σ Lexer.Item] (flags : Flags) (source : σ) :
    parseItems flags (Window.fill windowWidth source) = parseItems flags (Source.toList source) :=
  Parser.run_window (Window.fill_shows windowWidth _)

/-- The items that the lexer yields for a pattern. -/
def patternItems (flags : Flags) (pattern : String) : List Lexer.Item :=
  Source.toList (patternTokens flags pattern)

theorem parsePattern_eq (flags : Flags) (pattern : String) :
    parsePattern flags pattern = parseItems flags (patternItems flags pattern) :=
  parseItems_fill flags _

end SchemaPattern
