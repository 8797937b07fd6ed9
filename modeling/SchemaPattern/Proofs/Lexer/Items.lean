import SchemaPattern.Proofs.Lookahead
import SchemaPattern.Lexer.Run

/-!
# Items that the lexer yields

What holds of the item that each step yields holds of all items of a pattern.  So a token for a
digit holds a decimal digit.
-/

namespace SchemaPattern

namespace Lexer

/-! ## Items of steps -/

def Move.Yields (property : Item → Prop) : Move → Prop
  | .emit _ item _ => property item
  | .shift .. | .stop => True

theorem pullItem_yields {σ : Type} [Feed σ Placed] {flags : Flags} {property : Item → Prop}
    (hstep : ∀ st p0 p1 p2, (step flags st p0 p1 p2).Yields property) {st : State} {feed : σ}
    {r : Item × State × σ} (h : pullItem flags st feed = some r) : property r.1 := by
  fun_induction pullItem flags st feed with
  | case1 => cases h
  | case2 st feed count item next hmove =>
      cases h
      have hyields := hstep st (Feed.peek feed 0) (Feed.peek feed 1) (Feed.peek feed 2)
      rwa [hmove] at hyields
  | case3 st feed count next hmove ih => exact ih h

theorem forall_mem_tokens {σ : Type} [Feed σ Placed] {property : Item → Prop}
    (t : Tokens σ) (hstep : ∀ st p0 p1 p2, (step t.flags st p0 p1 p2).Yields property) :
    ∀ item ∈ Source.toList t, property item := by
  fun_induction Source.toList t with
  | case1 => simp
  | case2 t item u hpull ih =>
      simp only [Source.pull, Tokens.pull, Option.map_eq_some_iff, Prod.mk.injEq] at hpull
      obtain ⟨r, hr, rfl, rfl⟩ := hpull
      intro item hmem
      rcases List.mem_cons.1 hmem with rfl | hmem
      · exact pullItem_yields hstep hr
      · exact ih hstep item hmem

/-! ## Digits -/

def Decimal : Item → Prop
  | .lexeme ⟨.digit c, _⟩ => c.isDigit = true
  | _ => True

theorem escape_decimal (st : State) (start : Location) (p1 p2 : Option Placed) :
    (escape st start p1 p2).Yields Decimal := by
  unfold escape
  repeat' split
  all_goals trivial

theorem outside_decimal (flags : Flags) (st : State) (c : Placed) (p1 p2 : Option Placed) :
    (outside flags st c p1 p2).Yields Decimal := by
  unfold outside
  repeat' split
  all_goals first | trivial | exact escape_decimal ..

theorem inClass_decimal (st : State) (enclosing : Nat) (spot : Spot) (c : Placed)
    (p1 p2 : Option Placed) : (inClass st enclosing spot c p1 p2).Yields Decimal := by
  unfold inClass
  repeat' split
  all_goals first | trivial | exact escape_decimal ..

theorem between_decimal (flags : Flags) (st : State) (c : Placed) (p1 p2 : Option Placed) :
    (between flags st c p1 p2).Yields Decimal := by
  unfold between
  repeat' split
  · exact inClass_decimal ..
  · trivial
  · trivial
  · unfold inQuantifier
    repeat' split
    all_goals trivial
  · exact outside_decimal ..

theorem step_decimal (flags : Flags) (st : State) (p0 p1 p2 : Option Placed) :
    (step flags st p0 p1 p2).Yields Decimal := by
  unfold step
  split
  · trivial
  · unfold atEnd
    split <;> trivial
  · exact between_decimal ..
  · trivial
  · trivial
  · unfold closeNumber
    repeat' split
    all_goals trivial
  · unfold categoryName
    repeat' split
    all_goals trivial

end Lexer

end SchemaPattern
