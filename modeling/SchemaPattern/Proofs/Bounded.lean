import SchemaPattern.Proofs.Lexer.Run
import SchemaPattern.Proofs.Parser.Reach

/-!
# Runs within a bound

With a bound on the number of steps the lexer and the parser are recursions on that number, and
runs over a fixed pattern can be evaluated.
-/

namespace SchemaPattern

namespace Lexer

variable {σ : Type} [Feed σ Placed]

/-- The items of a feed, if so many steps yield all of them. -/
def itemsWithin (flags : Flags) : Nat → State → σ → Option (List Item)
  | 0, _, _ => none
  | steps + 1, st, feed =>
      match step flags st (Feed.peek feed 0) (Feed.peek feed 1) (Feed.peek feed 2) with
      | .stop => some []
      | .emit count item next =>
          (itemsWithin flags steps next (Source.drop count feed)).map (item :: ·)
      | .shift count next => itemsWithin flags steps next (Source.drop count feed)

theorem toList_of_itemsWithin {flags : Flags} {steps : Nat} {st : State} {feed : σ}
    {items : List Item} (h : itemsWithin flags steps st feed = some items) :
    Source.toList (⟨flags, feed, st⟩ : Tokens σ) = items := by
  induction steps generalizing st feed items with
  | zero => cases h
  | succ steps ih =>
      rw [itemsWithin] at h
      split at h
      · next hmove =>
        cases h
        exact toList_stop hmove
      · next count item next hmove =>
        obtain ⟨later, hlater, rfl⟩ := Option.map_eq_some_iff.1 h
        rw [← ih hlater]
        exact toList_emit hmove
      · next count next hmove =>
        rw [← ih h]
        exact toList_shift hmove

end Lexer

namespace Parser

open Lexer (Item)

/-- The outcome of a run, if it ends within so many steps. -/
def runWithin (flags : Flags) : Nat → State → List Item → Option (Except Fault Expr)
  | 0, _, _ => none
  | steps + 1, st, items =>
      match stepOn flags st items with
      | .done e => some (.ok e)
      | .fail f => some (.error f)
      | .shift count next => runWithin flags steps next (items.drop count)

theorem run_of_runWithin {flags : Flags} {steps : Nat} {st : State} {items : List Item}
    {outcome : Except Fault Expr} (h : runWithin flags steps st items = some outcome) :
    run flags st items = outcome := by
  induction steps generalizing st items with
  | zero => cases h
  | succ steps ih =>
      rw [runWithin] at h
      cases hmove : stepOn flags st items with
      | done e =>
          rw [hmove] at h
          cases h
          exact run_done hmove
      | fail f =>
          rw [hmove] at h
          cases h
          exact run_fail hmove
      | shift count next =>
          rw [hmove] at h
          rw [run_shift hmove]
          exact ih h

/-- The items taken after so many steps, those to come, and the state. -/
def after (flags : Flags) : Nat → List Item → List Item → State → List Item × List Item × State
  | 0, taken, rest, st => (taken, rest, st)
  | steps + 1, taken, rest, st =>
      match stepOn flags st rest with
      | .shift count next =>
          after flags steps (taken ++ rest.take count) (rest.drop count) next
      | .done _ | .fail _ => (taken, rest, st)

theorem reaches_after {flags : Flags} {its taken rest : List Item} {st : State} (steps : Nat)
    (h : Reaches flags its taken rest st) :
    Reaches flags its (after flags steps taken rest st).1 (after flags steps taken rest st).2.1
      (after flags steps taken rest st).2.2 := by
  induction steps generalizing taken rest st with
  | zero => exact h
  | succ steps ih =>
      unfold after
      split
      · next hmove => exact ih (.step h hmove)
      · exact h
      · exact h

theorem reaches_of_after {flags : Flags} {its taken rest : List Item} {st : State} {steps : Nat}
    (h : after flags steps [] its {} = (taken, rest, st)) : Reaches flags its taken rest st := by
  have hstart : Reaches flags its [] its {} := .start
  have hreaches := reaches_after steps hstart
  rwa [h] at hreaches

end Parser

def patternItemsWithin (steps : Nat) (flags : Flags) (pattern : String) :
    Option (List Lexer.Item) :=
  Lexer.itemsWithin flags steps {} (patternChars pattern)

theorem patternItems_of_within {steps : Nat} {flags : Flags} {pattern : String}
    {items : List Lexer.Item} (h : patternItemsWithin steps flags pattern = some items) :
    patternItems flags pattern = items :=
  Lexer.toList_of_itemsWithin h

theorem parsePattern_of_within {steps : Nat} {flags : Flags} {pattern : String}
    {items : List Lexer.Item} {outcome : Except Fault Expr}
    (hitems : patternItems flags pattern = items)
    (hrun : Parser.runWithin flags steps {} items = some outcome) :
    parsePattern flags pattern = outcome := by
  rw [parsePattern_eq, hitems]
  exact Parser.run_of_runWithin hrun

end SchemaPattern
