import SchemaPattern.Proofs.Checked.Lexer
import SchemaPattern.Proofs.Parser.Places

/-!
# Parsing with checks

A second parser, which looks at a token again where it has to know what it is, and which joins two
places only in their order.  No pattern leads to a breach: what the lexer with checks yields, the
parser with checks reads as the parser does, within a number of steps that the number of items
bounds.
-/

namespace SchemaPattern

/-- As `join`, if `last` is not before `first`. -/
def Location.join? (first last : Location) : Except Breach Location :=
  if first.index ≤ last.index then .ok (first.join last) else .error (.backwards first last)

theorem Location.join?_eq {first last : Location} (h : first.index ≤ last.index) :
    first.join? last = .ok (first.join last) :=
  if_pos h

instance : DecidablePred Token.StartsQuantifier :=
  fun _ => inferInstanceAs (Decidable (_ ∨ _ ∨ _ ∨ _))

namespace Parser

open Lexer (Item InOrder)

namespace Checked

/-! ## Steps -/

section

variable {σ : Type} [Source σ Item]

/-- An atom, where a token that begins one has been seen. -/
def atom (flags : Flags) (st : State) (w : Window σ Item) : Except Breach Move := do
  match ← w.look 0 with
  | none => .error (.noAtom none)
  | some (.fault f) => .ok (.fail (.lexical f))
  | some (.lexeme ⟨t, range⟩) =>
      match t with
      | .char c | .digit c | .singleEscape c => .ok (take st range (·.withAtom (.literal c)))
      | .wildcard => .ok (take st range (·.withAtom (.wildcard flags.dotAll)))
      | .lineStart => .ok (take st range (·.withAtom (.border true flags.multiline)))
      | .lineEnd => .ok (take st range (·.withAtom (.border false flags.multiline)))
      | .multiEscape letter =>
          .ok (takeEscape st range (.multi letter) fun e st => st.withAtom (.escape e))
      | .categoryEscape name negated =>
          .ok (takeEscape st range (.category name negated) fun e st => st.withAtom (.escape e))
      | .classOpen => .ok (openClass st range (← w.look 1))
      | .groupOpen => .ok (take st range (·.openGroup true))
      | .nonCapturingGroupOpen => .ok (take st range (·.openGroup false))
      | .backReference n => .ok (take st range fun st => { st with mode := .reference n range })
      | t => .error (.noAtom (some t))

/-- The mark of a quantifier, where a token that begins one has been seen. -/
def mark (st : State) (e : Expr) (w : Window σ Item) : Except Breach Move := do
  match ← w.look 0 with
  | none => .error (.noQuantifier none)
  | some (.fault f) => .ok (.fail (.lexical f))
  | some (.lexeme ⟨t, range⟩) =>
      let found (min : Nat) (max : Option Nat) : Except Breach Move :=
        .ok (take st range fun st => { st with mode := .lazyMark e { min, max } })
      match t with
      | .optional => found 0 (some 1)
      | .zeroOrMore => found 0 none
      | .oneOrMore => found 1 none
      | .quantifierOpen => .ok (take st range fun st => { st with mode := .minimum e range })
      | t => .error (.noQuantifier (some t))

def quantifier (st : State) (e : Expr) (w : Window σ Item) : Except Breach Move := do
  match ← w.look 0 with
  | none => .ok (stay (st.withPiece e))
  | some (.fault f) => .ok (.fail (.lexical f))
  | some (.lexeme l) =>
      if l.token.StartsQuantifier then mark st e w else .ok (stay (st.withPiece e))

def move (flags : Flags) (st : State) (w : Window σ Item) : Except Breach Move := do
  match st.mode with
  | .branch => .ok (branch st (← w.look 0))
  | .atom => atom flags st w
  | .quantifier e => quantifier st e w
  | .minimum e start => .ok (minimum st e start (← w.look 0))
  | .comma e start min => .ok (comma st e start min (← w.look 0))
  | .maximum e start min => .ok (maximum st e start min (← w.look 0) (← w.look 1))
  | .closingBrace e q => .ok (closingBrace st e q (← w.look 0))
  | .lazyMark e q => .ok (lazyMark st e q (← w.look 0))
  | .reference index start => .ok (reference st index start (← w.look 0))
  | .members k => .ok (members st k (← w.look 0) (← w.look 1) (← w.look 2))
  | .rangeEnd k low start => .ok (rangeEnd st k low start (← w.look 0))
  | .closing c outer => .ok (closing st c outer (← w.look 0))

/-- A fault from one token to another is reported where both are joined. -/
def joined (f : Fault) : Except Breach Fault :=
  match f with
  | .bounds _ _ first last | .charRange _ _ first last | .backReference _ first last => do
      let _ ← first.join? last
      .ok f
  | f => .ok f

/-- The outcome, which is to be reached in so many steps. -/
def outcome (flags : Flags) : Nat → State → Window σ Item → Except Breach (Except Fault Expr)
  | 0, _, _ => .error .endless
  | steps + 1, st, w => do
      match ← move flags st w with
      | .done e => .ok (.ok e)
      | .fail f => .ok (.error (← joined f))
      | .shift count next => outcome flags steps next (Source.drop count w)

end

section

variable {σ : Type} [Source σ Item] {flags : Flags} {st next : State} {its taken rest : List Item}
  {w : Window σ Item}

theorem atom_eq {l : Lexeme} (hstart : l.token.startsAtom = true)
    (hw : w.Shows windowWidth (.lexeme l :: rest)) :
    atom flags st w = .ok (Parser.atom flags st (some (.lexeme l)) rest[0]?) := by
  have h0 : w.look 0 = .ok (some (.lexeme l)) := hw.look_eq (by decide)
  have h1 : w.look 1 = .ok rest[0]? := hw.look_eq (by decide)
  obtain ⟨t, range⟩ := l
  unfold atom
  rw [h0, h1]
  cases t with
  | groupClose | alternation | optional | zeroOrMore | oneOrMore | quantifierOpen | number | comma
    | quantifierClose | classClose | negation | subtract => cases hstart
  | _ => rfl

theorem quantifier_eq (e : Expr) (hw : w.Shows windowWidth its) :
    quantifier st e w = .ok (Parser.quantifier st e its[0]?) := by
  have h0 : w.look 0 = .ok its[0]? := hw.look_eq (by decide)
  simp only [quantifier, mark, h0, bind, Except.bind]
  rcases its[0]? with _ | ⟨⟨t, range⟩ | f⟩
  · rfl
  · cases t <;> rfl
  · rfl

theorem move_eq (hatom : st.mode = .atom →
      ∃ l later, its = .lexeme l :: later ∧ l.token.startsAtom = true)
    (hw : w.Shows windowWidth its) : move flags st w = .ok (stepOn flags st its) := by
  have h0 : w.look 0 = .ok its[0]? := hw.look_eq (by decide)
  have h1 : w.look 1 = .ok its[1]? := hw.look_eq (by decide)
  have h2 : w.look 2 = .ok its[2]? := hw.look_eq (by decide)
  cases hmode : st.mode with
  | atom =>
      obtain ⟨l, later, rfl, hstart⟩ := hatom hmode
      simp only [move, stepOn, step, hmode]
      exact atom_eq hstart hw
  | quantifier e =>
      simp only [move, stepOn, step, hmode]
      exact quantifier_eq e hw
  | _ => simp only [move, stepOn, step, hmode, h0, h1, h2, bind, Except.bind]

theorem joined_eq {f : Fault} (h : f.Forward) : joined f = .ok f := by
  cases f with
  | bounds | charRange | backReference =>
      unfold joined
      dsimp only
      rw [Location.join?_eq h]
      rfl
  | _ => rfl

end

end Checked

section

variable {flags : Flags} {st next : State} {its taken rest : List Item}

theorem Mode.rank_le (mode : Mode) : mode.rank ≤ 3 := by
  cases mode <;> simp [rank]

/-- The parser goes on to an atom where a token begins one. -/
theorem Reaches.startsAtom (h : Reaches flags its taken rest st) (hmode : st.mode = .atom) :
    ∃ l later, rest = .lexeme l :: later ∧ l.token.startsAtom = true := by
  have hstep (ls now : List Lexeme) (rest : List Item) (st next : State)
      (hmoves : Moves flags st now (tokens rest) next) (hnext : next.mode = .atom) :
      ∃ t, (tokens rest).head? = some t ∧ t.startsAtom = true := by
    generalize tokens rest = ts at hmoves
    cases hmoves with
    | piece _ hstart => exact ⟨_, rfl, hstart⟩
    | _ => simp_all [State.withAtom, State.withPiece, State.openGroup, State.closeGroup]
  obtain ⟨ls, -, hhead⟩ := h.invariant
    (motive := fun _ rest st => st.mode = .atom →
      ∃ t, (tokens rest).head? = some t ∧ t.startsAtom = true)
    (fun hbranch => by cases hbranch) fun ls now rest st next _ => hstep ls now rest st next
  obtain ⟨t, ht, hstart⟩ := hhead hmode
  obtain ⟨range, hfirst⟩ := getElem?_of_head? ht
  obtain ⟨later, rfl⟩ := eq_cons_of_getElem? hfirst
  exact ⟨⟨t, range⟩, later, rfl, hstart⟩

theorem lt_of_shift {count : Nat} (h : stepOn flags st its = .shift count next) :
    4 * (its.drop count).length + next.mode.rank < 4 * its.length + st.mode.rank := by
  have hprogress : (stepOn flags st its).Progress st its[0]? := step_progress ..
  rw [h] at hprogress
  rcases hprogress with ⟨hcount, hfirst⟩ | ⟨rfl, hrank⟩
  · have hle := next.mode.rank_le
    have hpos : 0 < its.length := by
      cases its <;> simp_all
    rw [List.length_drop]
    omega
  · exact Nat.add_lt_add_left hrank _

end

namespace Checked

variable {σ : Type} [Source σ Item] {flags : Flags} {st : State} {its taken rest : List Item}
  {w : Window σ Item}

/-- Every step takes an item or falls in rank, which bounds their number. -/
theorem outcome_eq {steps : Nat} (horder : InOrder 0 its) (h : Reaches flags its taken rest st)
    (hw : w.Shows windowWidth rest) (hsteps : 4 * rest.length + st.mode.rank < steps) :
    outcome flags steps st w = .ok (run flags st rest) := by
  induction st, rest using run_induction flags generalizing taken w steps with
  | done st rest e hmove =>
      obtain ⟨steps, rfl⟩ := Nat.exists_eq_add_of_lt hsteps
      rw [outcome, move_eq h.startsAtom hw, hmove, run_done hmove]
      rfl
  | fail st rest f hmove =>
      have hfails := stepOn_failing flags st rest
      rw [hmove] at hfails
      obtain ⟨ls, rfl, hmarks⟩ := h.marks
      have hforward := hfails.forward hmarks (h.split ▸ horder)
      obtain ⟨steps, rfl⟩ := Nat.exists_eq_add_of_lt hsteps
      rw [outcome, move_eq h.startsAtom hw, hmove, run_fail hmove]
      change (joined f >>= _) = _
      rw [joined_eq hforward]
      rfl
  | shift st rest count next hmove ih =>
      have hlt := lt_of_shift hmove
      obtain ⟨steps, rfl⟩ := Nat.exists_eq_add_of_lt hsteps
      rw [outcome, move_eq h.startsAtom hw, hmove, run_shift hmove]
      exact ih (h.step hmove) (hw.drop (by decide) count)
        (Nat.lt_of_lt_of_le hlt (Nat.le_add_right _ steps))

end Checked

end Parser

/-! ## Patterns -/

/-- The outcome of a pattern, lexed and parsed with checks.  It is lexed to its end even where the
parser stops before. -/
def checkedOutcome (flags : Flags) (pattern : String) : Except Breach (Except Fault Expr) := do
  let its ← Lexer.Checked.items flags (3 * pattern.toList.length + 2) {} (patternChars pattern)
  Parser.Checked.outcome flags (4 * its.length + 2) {} (Window.fill windowWidth its)

theorem checkedItems_eq (flags : Flags) (pattern : String) :
    Lexer.Checked.items flags (3 * pattern.toList.length + 2) {} (patternChars pattern) =
      .ok (patternItems flags pattern) := by
  have hshows : (patternChars pattern).Shows windowWidth (placed .origin pattern.toList) := by
    rw [← toList_positions]
    exact Window.fill_shows windowWidth _
  rw [patternItems_eq]
  refine Lexer.Checked.items_eq Lexer.taken_start (inRow_placed rfl _) hshows ?_
  simp [length_placed, Lexer.Scan.rank]

/-- Whatever a pattern is, it is read to an end without a breach. -/
theorem reads_without_breach (flags : Flags) (pattern : String) :
    checkedOutcome flags pattern = .ok (parsePattern flags pattern) := by
  have hshows : (Window.fill windowWidth (patternItems flags pattern)).Shows windowWidth
      (patternItems flags pattern) := by
    have hfill := Window.fill_shows windowWidth (patternItems flags pattern)
    rwa [toList_list] at hfill
  rw [checkedOutcome, checkedItems_eq, parsePattern_eq]
  refine Parser.Checked.outcome_eq (inOrder_patternItems flags pattern) .start hshows ?_
  simp [Parser.Mode.rank]

end SchemaPattern
