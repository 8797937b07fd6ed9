import Mathlib.Data.List.Forall2
import SchemaPattern.Proofs.Lexer.Run

/-!
# The lexer at another place

A text that begins at another place has the same items, as far behind the others as the text.
-/

namespace SchemaPattern

/-! ## Places -/

/-- The second place is a number of characters behind the first, and as long. -/
def Location.Shifted (d : Nat) (a b : Location) : Prop :=
  b.index = a.index + d ∧ b.length = a.length

namespace Location

variable {d n : Nat} {a b a' b' : Location}

theorem Shifted.withLength (h : Shifted d a b) (n : Nat) :
    Shifted d (a.withLength n) (b.withLength n) := ⟨h.1, rfl⟩

theorem Shifted.through (h : Shifted d a b) (h' : Shifted d a' b') :
    Shifted d (a.through a') (b.through b') := by
  refine ⟨h.1, ?_⟩
  have hstart := h.1
  have hlast := h'.1
  simp only [Location.through, Location.withLength]
  omega

theorem Shifted.join (h : Shifted d a b) (h' : Shifted d a' b') :
    Shifted d (a.join a') (b.join b') := by
  refine ⟨h.1, ?_⟩
  have hstart := h.1
  obtain ⟨hindex, hlength⟩ := h'
  simp only [Location.join, Location.withLength]
  omega

theorem Shifted.after (h : Shifted d a b) : Shifted d a.after b.after := by
  obtain ⟨hindex, hlength⟩ := h
  refine ⟨?_, rfl⟩
  simp only [Location.after, position, hlength]
  omega

theorem Shifted.next (h : Shifted d a b) (c : Char) : Shifted d (a.next c) (b.next c) := by
  have hindex := h.1
  unfold Location.next
  split <;> refine ⟨?_, rfl⟩ <;> simp only [position] <;> omega

end Location

inductive Placed.Shifted (d : Nat) : Placed → Placed → Prop
  | mk (c : Char) {a b : Location} (h : a.Shifted d b) : Shifted d ⟨c, a⟩ ⟨c, b⟩

namespace Lexer

/-! ## What is shifted -/

inductive Item.Shifted (d : Nat) : Item → Item → Prop
  | lexeme (t : Token) {a b : Location} (h : a.Shifted d b) (hpos : 0 < a.length) :
      Shifted d (.lexeme ⟨t, a⟩) (.lexeme ⟨t, b⟩)
  | fault (cause : LexicalCause) {a b : Location} (h : a.Shifted d b) :
      Shifted d (.fault ⟨cause, a⟩) (.fault ⟨cause, b⟩)

inductive Scan.Shifted (d : Nat) : Scan → Scan → Prop
  | ready : Shifted d .ready .ready
  | comment : Shifted d .comment .comment
  | number {a b : Location} (digits : List Char) (h : a.Shifted d b) :
      Shifted d (.number a digits) (.number b digits)
  | category {a b : Location} (negated : Bool) (name : List Char) (h : a.Shifted d b) :
      Shifted d (.category a negated name) (.category b negated name)
  | finished : Shifted d .finished .finished

/-- The place of the last character can matter no more. -/
def State.Idle (st : State) : Prop :=
  st.scan = .finished ∨ st.context = .outside ∧ (st.scan = .ready ∨ st.scan = .comment)

structure State.Shifted (d : Nat) (st st' : State) : Prop where
  context : st'.context = st.context
  scan : st.scan.Shifted d st'.scan
  last : st.Idle ∨ ∃ a b, st.last = some a ∧ st'.last = some b ∧ a.Shifted d b

inductive Move.Shifted (d : Nat) : Move → Move → Prop
  | shift (count : Nat) {next next' : State} (h : next.Shifted d next') :
      Shifted d (.shift count next) (.shift count next')
  | emit (count : Nat) {item item' : Item} {next next' : State} (hitem : Item.Shifted d item item')
      (h : next.Shifted d next') : Shifted d (.emit count item next) (.emit count item' next')
  | stop : Shifted d .stop .stop

section

variable {d : Nat} {flags : Flags} {st st' : State} {c : Char} {a b a' b' : Location}
  {p0 p1 p2 p0' p1' p2' : Option Placed}

/-! ## Steps -/

theorem fail_shifted (h : st.Shifted d st') (cause : LexicalCause) (hplace : a.Shifted d b) :
    (fail st cause a).Shifted d (fail st' cause b) :=
  .emit 0 (.fault cause hplace) ⟨h.context, .finished, .inl (.inl rfl)⟩

theorem token_shifted (count : Nat) (t : Token) (context : Context) (hstart : a.Shifted d b)
    (hlast : a'.Shifted d b') :
    (token count a a' t context).Shifted d (token count b b' t context) :=
  .emit count (.lexeme t (hstart.through hlast) (Nat.succ_pos _))
    ⟨rfl, .ready, .inr ⟨_, _, rfl, rfl, hlast⟩⟩

theorem inside_shifted (h : st.Shifted d st') : st'.inside = st.inside := by
  rw [State.inside, State.inside, h.context]

theorem escape_shifted (h : st.Shifted d st') (hstart : a.Shifted d b)
    (h1 : Option.Rel (Placed.Shifted d) p1 p1') (h2 : Option.Rel (Placed.Shifted d) p2 p2') :
    (escape st a p1 p2).Shifted d (escape st' b p1' p2') := by
  cases h1 with
  | none => exact fail_shifted h _ (hstart.withLength 1)
  | some hp1 =>
      obtain ⟨c, hplace⟩ := hp1
      have hfound (t : Token) := token_shifted 2 t st.inside hstart hplace
      have hfail (cause : LexicalCause) := fail_shifted h cause (hstart.through hplace)
      simp only [escape, inside_shifted h, h.context]
      split_ifs with hn hr ht hmeta hmulti hcategory hzero hdigit
      · exact hfound _
      · exact hfound _
      · exact hfound _
      · exact hfound _
      · exact hfound _
      · cases h2 with
        | none => exact hfail _
        | some hp2 =>
            obtain ⟨brace, hbrace⟩ := hp2
            by_cases hopen : brace = '{'
            · subst hopen
              exact .shift 3 ⟨rfl, .category _ _ hstart, .inr ⟨_, _, rfl, rfl, hbrace⟩⟩
            · simpa [hopen] using hfail .categoryWithoutBrace
      · split <;> exact hfail _
      · split
        · exact hfail _
        · exact hfound _
      · exact hfail _

theorem outside_other (flags : Flags) (st : State) (p1 p2 : Option Placed) (hc : c ∉ metaChars) :
    outside flags st ⟨c, a⟩ p1 p2 =
      token 1 a a (if c.isDigit then .digit c else .char c) .outside := by
  unfold outside
  split <;> simp_all [metaChars]
  split <;> rfl

theorem group_shifted (h : st.Shifted d st') (hplace : a.Shifted d b)
    (h1 : Option.Rel (Placed.Shifted d) p1 p1') (h2 : Option.Rel (Placed.Shifted d) p2 p2') :
    (outside flags st ⟨'(', a⟩ p1 p2).Shifted d (outside flags st' ⟨'(', b⟩ p1' p2') := by
  have hfound := token_shifted 1 .groupOpen .outside hplace hplace
  have hfail (cause : LexicalCause) := fail_shifted h cause (hplace.withLength 2)
  have hother : (if flags.extended then fail st .unknownGroup (a.withLength 2)
      else fail st .groupNeedsExtended (a.withLength 2)).Shifted d
      (if flags.extended then fail st' .unknownGroup (b.withLength 2)
        else fail st' .groupNeedsExtended (b.withLength 2)) := by
    split_ifs <;> exact hfail _
  cases h1 with
  | none => exact hfound
  | some hp1 =>
      obtain ⟨mark, hmark⟩ := hp1
      by_cases hquestion : mark = '?'
      · subst hquestion
        cases h2 with
        | none => exact hother
        | some hp2 =>
            obtain ⟨colon, hlast⟩ := hp2
            by_cases hcolon : colon = ':'
            · subst hcolon
              simp only [outside]
              split_ifs
              · exact token_shifted 3 _ _ hplace hlast
              · exact hfail _
            · simpa [outside, hcolon] using hother
      · simpa [outside, hquestion] using hfound

theorem outside_shifted (h : st.Shifted d st') (hplace : a.Shifted d b)
    (h1 : Option.Rel (Placed.Shifted d) p1 p1') (h2 : Option.Rel (Placed.Shifted d) p2 p2') :
    (outside flags st ⟨c, a⟩ p1 p2).Shifted d (outside flags st' ⟨c, b⟩ p1' p2') := by
  have hfound (t : Token) := token_shifted 1 t .outside hplace hplace
  have hfail (cause : LexicalCause) (n : Nat) := fail_shifted h cause (hplace.withLength n)
  by_cases hmeta : c ∈ metaChars
  · simp only [metaChars, List.mem_cons, List.not_mem_nil, or_false] at hmeta
    rcases hmeta with rfl | rfl | rfl | rfl | rfl | rfl | rfl | rfl | rfl | rfl | rfl | rfl | rfl |
      rfl | rfl
    · exact escape_shifted h hplace h1 h2
    · exact hfound .alternation
    · exact hfound .wildcard
    · exact hfound (.char '-')
    · exact hfound .lineStart
    · exact hfound .optional
    · exact hfound .zeroOrMore
    · exact hfound .oneOrMore
    · exact token_shifted 1 .quantifierOpen .quantifier hplace hplace
    · exact hfail _ 1
    · exact group_shifted h hplace h1 h2
    · exact hfound .groupClose
    · exact token_shifted 1 .classOpen (.charClass 0 .start) hplace hplace
    · exact hfail _ 1
    · exact hfound .lineEnd
  · rw [outside_other _ _ _ _ hmeta, outside_other _ _ _ _ hmeta]
    exact hfound _

theorem inClass_other (st : State) (n : Nat) (spot : Spot) (p1 p2 : Option Placed)
    (hc : c ∉ ['^', '[', ']', '-', '\\']) :
    inClass st n spot ⟨c, a⟩ p1 p2 =
      token 1 a a (if c.isDigit then .digit c else .char c) (.charClass n .inside) := by
  unfold inClass
  split <;> simp_all

theorem inClass_shifted (n : Nat) (spot : Spot) (h : st.Shifted d st') (hplace : a.Shifted d b)
    (h1 : Option.Rel (Placed.Shifted d) p1 p1') (h2 : Option.Rel (Placed.Shifted d) p2 p2') :
    (inClass st n spot ⟨c, a⟩ p1 p2).Shifted d (inClass st' n spot ⟨c, b⟩ p1' p2') := by
  have hfound (t : Token) (context : Context) := token_shifted 1 t context hplace hplace
  by_cases hspecial : c ∈ ['^', '[', ']', '-', '\\']
  · simp only [List.mem_cons, List.not_mem_nil, or_false] at hspecial
    rcases hspecial with rfl | rfl | rfl | rfl | rfl
    · exact hfound _ _
    · simp only [inClass]
      split_ifs
      · exact hfound _ _
      · exact fail_shifted h _ (hplace.withLength 1)
    · exact hfound _ _
    · cases h1 with
      | none => exact hfound _ _
      | some hp1 =>
          obtain ⟨next, hnext⟩ := hp1
          by_cases hbracket : next = '['
          · subst hbracket
            exact hfound _ _
          · simpa [inClass, hbracket] using hfound (.char '-') (.charClass n .inside)
    · exact escape_shifted h hplace h1 h2
  · rw [inClass_other _ _ _ _ _ hspecial, inClass_other _ _ _ _ _ hspecial]
    exact hfound _ _

theorem inQuantifier_shifted (h : st.Shifted d st') (hplace : a.Shifted d b) :
    (inQuantifier st ⟨c, a⟩).Shifted d (inQuantifier st' ⟨c, b⟩) := by
  unfold inQuantifier
  split_ifs
  · exact .shift 1 ⟨h.context, .number _ hplace, .inr ⟨_, _, rfl, rfl, hplace⟩⟩
  · exact token_shifted 1 _ _ hplace hplace
  · exact token_shifted 1 _ _ hplace hplace
  · exact fail_shifted h _ (hplace.withLength 1)

/-- Within a token the place of the last character is known. -/
theorem sinceStart_shifted (h : st.Shifted d st') (hidle : ¬ st.Idle) (hplace : a.Shifted d b) :
    (st.sinceStart a).Shifted d (st'.sinceStart b) := by
  obtain ⟨l, l', hl, hl', hlast⟩ := h.last.resolve_left hidle
  rw [State.sinceStart, State.sinceStart, hl, hl']
  exact hplace.through hlast

theorem closeNumber_shifted (h : st.Shifted d st') (hidle : ¬ st.Idle) (hplace : a.Shifted d b)
    (digits : List Char) : (closeNumber st a digits).Shifted d (closeNumber st' b digits) := by
  have hrange := sinceStart_shifted h hidle hplace
  unfold closeNumber
  split_ifs
  · refine .emit 0 (.lexeme _ hrange (Nat.succ_pos _)) ⟨h.context, .ready, .inr ?_⟩
    exact h.last.resolve_left hidle
  · exact fail_shifted h _ hrange

theorem categoryName_shifted (h : st.Shifted d st') (hidle : ¬ st.Idle) (hplace : a.Shifted d b)
    (negated : Bool) (name : List Char) (h0 : Option.Rel (Placed.Shifted d) p0 p0') :
    (categoryName st a negated name p0).Shifted d (categoryName st' b negated name p0') := by
  cases h0 with
  | none => exact fail_shifted h _ (sinceStart_shifted h hidle hplace)
  | some hp0 =>
      obtain ⟨c, hc⟩ := hp0
      simp only [categoryName, inside_shifted h]
      split_ifs
      · exact fail_shifted h _ (hplace.through hc)
      · exact token_shifted 1 _ _ hplace hc
      · exact .shift 1 ⟨h.context, .category _ _ hplace, .inr ⟨_, _, rfl, rfl, hc⟩⟩
      · exact fail_shifted h _ (hplace.through hc)

theorem atEnd_shifted (h : st.Shifted d st') (hscan : st.scan = .ready) :
    (atEnd st).Shifted d (atEnd st') := by
  have hend (hcontext : st.context ≠ .outside) : st.endPlace.Shifted d st'.endPlace := by
    have hidle : ¬ st.Idle := by simp [State.Idle, hscan, hcontext]
    obtain ⟨l, l', hl, hl', hlast⟩ := h.last.resolve_left hidle
    rw [State.endPlace, State.endPlace, hl, hl']
    exact hlast.after
  unfold atEnd
  rw [h.context]
  cases hcontext : st.context with
  | outside => exact .stop
  | _ => exact fail_shifted h _ (hend (by simp [hcontext]))

theorem between_shifted (h : st.Shifted d st') (hplace : a.Shifted d b)
    (h1 : Option.Rel (Placed.Shifted d) p1 p1') (h2 : Option.Rel (Placed.Shifted d) p2 p2') :
    (between flags st ⟨c, a⟩ p1 p2).Shifted d (between flags st' ⟨c, b⟩ p1' p2') := by
  have hskip (context : Context) {scan scan' : Scan} (hscan : scan.Shifted d scan') :
      Move.Shifted d (.shift 1 { context, scan, last := some a })
        (.shift 1 { context, scan := scan', last := some b }) :=
    .shift 1 ⟨rfl, hscan, .inr ⟨_, _, rfl, rfl, hplace⟩⟩
  unfold between
  rw [h.context]
  cases st.context with
  | charClass n spot => exact inClass_shifted n spot h hplace h1 h2
  | outside =>
      simp only [reduceCtorEq, ↓reduceIte]
      split_ifs
      · exact hskip _ h.scan
      · exact hskip _ .comment
      · exact outside_shifted h hplace h1 h2
  | quantifier =>
      simp only [↓reduceIte]
      split_ifs
      · exact hskip _ h.scan
      · exact hskip _ .comment
      · exact inQuantifier_shifted h hplace

theorem step_shifted (h : st.Shifted d st') (h0 : Option.Rel (Placed.Shifted d) p0 p0')
    (h1 : Option.Rel (Placed.Shifted d) p1 p1') (h2 : Option.Rel (Placed.Shifted d) p2 p2') :
    (step flags st p0 p1 p2).Shifted d (step flags st' p0' p1' p2') := by
  obtain ⟨context, scan, last⟩ := st
  obtain ⟨context', scan', last'⟩ := st'
  have hscan : scan.Shifted d scan' := h.scan
  cases hscan with
  | finished =>
      cases h0 <;> exact .stop
  | ready =>
      cases h0 with
      | none => exact atEnd_shifted h rfl
      | some hp0 =>
          obtain ⟨c, hc⟩ := hp0
          exact between_shifted h hc h1 h2
  | comment =>
      cases h0 with
      | none =>
          refine .shift 0 ⟨h.context, .ready, h.last.imp_left ?_⟩
          rintro (hfinished | ⟨houtside, -⟩)
          · cases hfinished
          · exact .inr ⟨houtside, .inl rfl⟩
      | some hp0 =>
          obtain ⟨c, hc⟩ := hp0
          refine .shift 1 ⟨h.context, ?_, .inr ⟨_, _, rfl, rfl, hc⟩⟩
          dsimp only
          split_ifs
          · exact .ready
          · exact .comment
  | number digits hstart =>
      have hclose := closeNumber_shifted h (by simp [State.Idle]) hstart digits
      cases h0 with
      | none => exact hclose
      | some hp0 =>
          obtain ⟨c, hc⟩ := hp0
          simp only [step]
          split_ifs
          · exact .shift 1 ⟨h.context, .number _ hstart, .inr ⟨_, _, rfl, rfl, hc⟩⟩
          · exact hclose
  | category negated name hstart =>
      have hname := categoryName_shifted h (by simp [State.Idle]) hstart negated name h0
      cases h0 <;> exact hname

/-! ## Runs -/

theorem getElem?_shifted {chars chars' : List Placed}
    (h : List.Forall₂ (Placed.Shifted d) chars chars') (n : Nat) :
    Option.Rel (Placed.Shifted d) chars[n]? chars'[n]? := by
  induction h generalizing n with
  | nil => exact .none
  | cons hchar hrest ih =>
      cases n with
      | zero => exact .some hchar
      | succ n => exact ih n

theorem itemsFrom_shifted {chars chars' : List Placed} (h : st.Shifted d st')
    (hchars : List.Forall₂ (Placed.Shifted d) chars chars') :
    List.Forall₂ (Item.Shifted d) (itemsFrom flags st chars) (itemsFrom flags st' chars') := by
  have hstep {st st' : State} {chars chars' : List Placed} (h : st.Shifted d st')
      (hchars : List.Forall₂ (Placed.Shifted d) chars chars') :
      (stepOn flags st chars).Shifted d (stepOn flags st' chars') :=
    step_shifted h (getElem?_shifted hchars 0) (getElem?_shifted hchars 1)
      (getElem?_shifted hchars 2)
  induction st, chars using itemsFrom_induction flags generalizing st' chars' with
  | stop st chars hmove =>
      have hmoves := hstep h hchars
      rw [hmove] at hmoves
      generalize hmove' : stepOn flags st' chars' = move' at hmoves
      cases hmoves with
      | stop =>
          rw [itemsFrom_stop hmove, itemsFrom_stop hmove']
          exact .nil
  | emit st chars count item next hmove ih =>
      have hmoves := hstep h hchars
      rw [hmove] at hmoves
      generalize hmove' : stepOn flags st' chars' = move' at hmoves
      cases hmoves with
      | emit _ hitem hnext =>
          rw [itemsFrom_emit hmove, itemsFrom_emit hmove']
          exact .cons hitem (ih hnext (List.forall₂_drop count hchars))
  | shift st chars count next hmove ih =>
      have hmoves := hstep h hchars
      rw [hmove] at hmoves
      generalize hmove' : stepOn flags st' chars' = move' at hmoves
      cases hmoves with
      | shift _ hnext =>
          rw [itemsFrom_shift hmove, itemsFrom_shift hmove']
          exact ih hnext (List.forall₂_drop count hchars)

theorem placed_shifted (h : a.Shifted d b) (text : List Char) :
    List.Forall₂ (Placed.Shifted d) (placed a text) (placed b text) := by
  induction text generalizing a b with
  | nil => exact .nil
  | cons c text ih => exact .cons (.mk c h) (ih (h.next c))

end

end Lexer

end SchemaPattern
