import SchemaPattern.Proofs.Lexer.Places

/-!
# Lexing with checks

A second lexer, which takes nothing for granted.  It counts the classes that it is in, keeps its
other marks as flags of their own, looks into the window anew where it needs a character, and takes
from one index only another one that is not greater.  Where an expectation fails there is a breach.
No pattern leads to one: the lexer with checks yields what the lexer yields, and it is done after a
number of steps that the length of the pattern bounds.
-/

namespace SchemaPattern

/-! ## Breaches -/

/-- What must not happen in reading a pattern, whatever is wrong with the pattern. -/
inductive Breach
  /-- The window does not reach to this offset. -/
  | offset (n : Nat)
  /-- A place is to end at `last`, but it begins behind it. -/
  | backwards (first last : Location)
  /-- A class is to end where none is open. -/
  | depth
  /-- There is no character where one has been seen before. -/
  | noCharacter
  /-- There is no token, or none that begins an atom, where one has been seen before. -/
  | noAtom (found : Option Token)
  /-- There is no token, or none that begins a quantifier, where one has been seen before. -/
  | noQuantifier (found : Option Token)
  /-- The end is not reached within the bound. -/
  | endless
  deriving DecidableEq, Repr, Inhabited

section

variable {σ α : Type} [Source σ α]

/-- The item at an offset, to which the window has to reach. -/
def Window.look (w : Window σ α) (offset : Nat) : Except Breach (Option α) :=
  if offset < windowWidth then .ok (w.peek offset) else .error (.offset offset)

theorem Window.Shows.look_eq {w : Window σ α} {items : List α} (h : w.Shows windowWidth items)
    {offset : Nat} (hoffset : offset < windowWidth) : w.look offset = .ok items[offset]? := by
  rw [Window.look, if_pos hoffset, h.peek_eq hoffset]

end

/-- As `through`, if `last` is not before `start`. -/
def Location.through? (start last : Location) : Except Breach Location :=
  if start.index ≤ last.index then .ok (start.through last) else .error (.backwards start last)

theorem Location.through?_eq {start last : Location} (h : start.index ≤ last.index) :
    start.through? last = .ok (start.through last) :=
  if_pos h

namespace Lexer

namespace Checked

/-! ## States -/

/-- What the lexer remembers, mark by mark. -/
structure State where
  /-- The number of classes around. -/
  depth : Nat := 0
  /-- Directly behind the `[` of a class. -/
  classStart : Bool := false
  /-- Directly behind the `-` of a subtraction. -/
  subtractPending : Bool := false
  inQuantifier : Bool := false
  scan : Scan := .ready
  last : Option Location := none

inductive Move
  | shift (count : Nat) (next : State)
  | emit (count : Nat) (l : Lexeme) (next : State)
  | fault (f : LexicalFault)
  | stop

/-! ## Steps -/

def fail (cause : LexicalCause) (place : Location) : Except Breach Move :=
  .ok (.fault ⟨cause, place⟩)

def shift (count : Nat) (next : State) : Except Breach Move := .ok (.shift count next)

def emit (count : Nat) (l : Lexeme) (next : State) : Except Breach Move :=
  .ok (.emit count l next)

/-- A token of one character. -/
def single (st : State) (c : Placed) (t : Token) : Except Breach Move :=
  emit 1 ⟨t, c.place.withLength 1⟩ { st with last := some c.place }

def State.endPlace (st : State) : Location :=
  match st.last with
  | some l => l.after
  | none => .origin

/-- From `start` to the character that was taken last. -/
def State.since (st : State) (start : Location) : Except Breach Location :=
  start.through? (st.last.getD .origin)

section

variable {σ : Type} [Source σ Placed]

def escape (st : State) (inClass : Bool) (start : Location) (w : Window σ Placed) :
    Except Breach Move := do
  match ← w.look 1 with
  | none => fail .incompleteEscape (start.withLength 1)
  | some e =>
      let whole ← start.through? e.place
      let found (t : Token) := emit 2 ⟨t, whole⟩ { st with last := some e.place }
      if e.char = 'n' then found (.singleEscape '\n')
      else if e.char = 'r' then found (.singleEscape '\r')
      else if e.char = 't' then found (.singleEscape '\t')
      else if e.char ∈ metaChars then found (.singleEscape e.char)
      else if e.char ∈ multiLetters then found (.multiEscape e.char)
      else if e.char = 'p' ∨ e.char = 'P' then
        match ← w.look 2 with
        | some ⟨'{', place⟩ =>
            shift 3 { st with scan := .category start (e.char = 'P') [], last := some place }
        | _ => fail .categoryWithoutBrace whole
      else if e.char.isDigit then
        if inClass then fail .backReferenceInClass whole
        else if e.char = '0' then fail .backReferenceToZero whole
        else found (.backReference (e.char.toNat - '0'.toNat))
      else fail (.unknownEscape e.char) whole

/-- A parenthesis at `c`, and what says which kind of group it opens. -/
def group (flags : Flags) (st : State) (c : Placed) (w : Window σ Placed) :
    Except Breach Move := do
  match ← w.look 1 with
  | some ⟨'?', _⟩ =>
      if flags.extended then
        match ← w.look 2 with
        | some ⟨':', last⟩ =>
            let whole ← c.place.through? last
            emit 3 ⟨.nonCapturingGroupOpen, whole⟩ { st with last := some last }
        | _ => fail .unknownGroup (c.place.withLength 2)
      else fail .groupNeedsExtended (c.place.withLength 2)
  | _ => single st c .groupOpen

/-- Outside of classes and quantifiers. -/
def outside (flags : Flags) (st : State) (w : Window σ Placed) : Except Breach Move := do
  match ← w.look 0 with
  | none => .error .noCharacter
  | some c =>
      match c.char with
      | '[' => single { st with depth := 1, classStart := true } c .classOpen
      | ']' => fail .strayClassClose (c.place.withLength 1)
      | '{' => single { st with inQuantifier := true } c .quantifierOpen
      | '}' => fail .strayQuantifierClose (c.place.withLength 1)
      | '(' => group flags st c w
      | ')' => single st c .groupClose
      | '|' => single st c .alternation
      | '?' => single st c .optional
      | '*' => single st c .zeroOrMore
      | '+' => single st c .oneOrMore
      | '.' => single st c .wildcard
      | '^' => single st c .lineStart
      | '$' => single st c .lineEnd
      | '\\' => escape st false c.place w
      | ch => if ch.isDigit then single st c (.digit ch) else single st c (.char ch)

def inClass (st : State) (w : Window σ Placed) : Except Breach Move := do
  match ← w.look 0 with
  | none => .error .noCharacter
  | some c =>
      let inside := { st with classStart := false, subtractPending := false }
      match c.char with
      | '^' => single inside c (if st.classStart then .negation else .char '^')
      | '[' =>
          if st.subtractPending then
            single { inside with depth := st.depth + 1, classStart := true } c .classOpen
          else fail .classInClass (c.place.withLength 1)
      | ']' =>
          if 0 < st.depth then single { inside with depth := st.depth - 1 } c .classClose
          else .error .depth
      | '-' =>
          match ← w.look 1 with
          | some ⟨'[', _⟩ => single { inside with subtractPending := true } c .subtract
          | _ => single inside c (.char '-')
      | '\\' => escape inside true c.place w
      | ch => single inside c (if ch.isDigit then .digit ch else .char ch)

def inQuantifier (st : State) (w : Window σ Placed) : Except Breach Move := do
  match ← w.look 0 with
  | none => .error .noCharacter
  | some c =>
      if c.char.isDigit then
        shift 1 { st with scan := .number c.place [c.char], last := some c.place }
      else if c.char = ',' then single st c .comma
      else if c.char = '}' then single { st with inQuantifier := false } c .quantifierClose
      else fail (.quantifierChar c.char) (c.place.withLength 1)

def atEnd (st : State) : Except Breach Move :=
  if 0 < st.depth then fail .unclosedClass st.endPlace
  else if st.inQuantifier then fail .unclosedQuantifier st.endPlace
  else .ok .stop

/-- At the beginning of a token, or of what is skipped before one. -/
def ready (flags : Flags) (st : State) (w : Window σ Placed) : Except Breach Move := do
  match ← w.look 0 with
  | none => atEnd st
  | some c =>
      if flags.stripWhitespace ∧ st.depth = 0 ∧ isBlank c.char then
        shift 1 { st with last := some c.place }
      else if flags.stripWhitespace ∧ st.depth = 0 ∧ c.char = '#' then
        shift 1 { st with scan := .comment, last := some c.place }
      else if st.inQuantifier then inQuantifier st w
      else if 0 < st.depth then inClass st w
      else outside flags st w

def closeNumber (st : State) (start : Location) (digits : List Char) : Except Breach Move := do
  let whole ← st.since start
  if Numeral.decimalValue digits.reverse < boundLimit then
    emit 0 ⟨.number (Numeral.decimalValue digits.reverse), whole⟩ { st with scan := .ready }
  else fail (.boundTooLarge (String.ofList digits.reverse)) whole

def number (st : State) (start : Location) (digits : List Char) (w : Window σ Placed) :
    Except Breach Move := do
  match ← w.look 0 with
  | some c =>
      if c.char.isDigit then
        shift 1 { st with scan := .number start (c.char :: digits), last := some c.place }
      else closeNumber st start digits
  | none => closeNumber st start digits

def categoryName (st : State) (start : Location) (negated : Bool) (name : List Char)
    (w : Window σ Placed) : Except Breach Move := do
  match ← w.look 0 with
  | none => fail .unclosedCategory (← st.since start)
  | some c =>
      let whole ← start.through? c.place
      if c.char = '}' then
        if name = [] then fail .emptyCategory whole
        else
          emit 1 ⟨.categoryEscape (String.ofList name.reverse) negated, whole⟩
            { st with scan := .ready, last := some c.place }
      else if isNameChar c.char then
        shift 1 { st with scan := .category start negated (c.char :: name), last := some c.place }
      else fail (.categoryChar c.char) whole

def step (flags : Flags) (st : State) (w : Window σ Placed) : Except Breach Move := do
  match st.scan with
  | .finished => .ok .stop
  | .ready => ready flags st w
  | .comment =>
      match ← w.look 0 with
      | none => shift 0 { st with scan := .ready }
      | some c =>
          shift 1 { st with
            scan := if c.char = '\n' then .ready else .comment
            last := some c.place }
  | .number start digits => number st start digits w
  | .category start negated name => categoryName st start negated name w

/-- The items to come, all of which are to be yielded in so many steps. -/
def items (flags : Flags) : Nat → State → Window σ Placed → Except Breach (List Item)
  | 0, _, _ => .error .endless
  | steps + 1, st, w => do
      match ← step flags st w with
      | .stop => .ok []
      | .fault f => .ok [.fault f]
      | .emit count l next =>
          let rest ← items flags steps next (Source.drop count w)
          .ok (.lexeme l :: rest)
      | .shift count next => items flags steps next (Source.drop count w)

end

/-! ## The marks of a state -/

/-- A category in a class is read after the marks of the class have been cleared. -/
def spot? (st : Lexer.State) : Option Spot :=
  match st.scan, st.context with
  | .category .., _ => none
  | _, .charClass _ spot => some spot
  | _, _ => none

def ofState (st : Lexer.State) : State where
  depth :=
    match st.context with
    | .charClass enclosing _ => enclosing + 1
    | _ => 0
  classStart := spot? st = some .start
  subtractPending := spot? st = some .beforeSubtrahend
  inQuantifier := st.context = .quantifier
  scan := st.scan
  last := st.last

def ofMove : Lexer.Move → Move
  | .shift count next => .shift count (ofState next)
  | .emit count (.lexeme l) next => .emit count l (ofState next)
  | .emit _ (.fault f) _ => .fault f
  | .stop => .stop

section

variable {σ : Type} [Source σ Placed] {flags : Flags} {st : Lexer.State} {n : Nat} {c : Placed}
  {chars : List Placed} {w : Window σ Placed}

theorem ite_eq_ofMove {p : Prop} [Decidable p] {a b : Except Breach Move} {x y : Lexer.Move}
    (hpos : p → a = .ok (ofMove x)) (hneg : ¬ p → b = .ok (ofMove y)) :
    (if p then a else b) = .ok (ofMove (if p then x else y)) := by
  by_cases h : p
  · rw [if_pos h, if_pos h]
    exact hpos h
  · rw [if_neg h, if_neg h]
    exact hneg h

theorem escape_eq (hscan : st.scan = .ready) (hchars : InRow n (c :: chars))
    (hw : w.Shows windowWidth (c :: chars)) {marks : State} {inClass : Bool}
    (hmarks : marks = ofState { st with context := st.inside })
    (hinClass : inClass = decide (0 < marks.depth)) :
    escape marks inClass c.place w =
      .ok (ofMove (Lexer.escape st c.place chars[0]? chars[1]?)) := by
  obtain ⟨hindex, -⟩ := hchars 0 c rfl
  obtain ⟨context, scan, last⟩ := st
  subst hscan hmarks hinClass
  have h1 : w.look 1 = .ok chars[0]? := hw.look_eq (by decide)
  have h2 : w.look 2 = .ok chars[1]? := hw.look_eq (by decide)
  unfold escape
  simp only [h1, h2]
  rcases chars with _ | ⟨e, rest⟩
  · rfl
  · obtain ⟨hnext, -⟩ := hchars 1 e rfl
    have hwhole : c.place.through? e.place = .ok (c.place.through e.place) :=
      Location.through?_eq (by omega)
    simp only [List.getElem?_cons_zero, List.getElem?_cons_succ, Lexer.escape, hwhole, bind,
      Except.bind]
    iterate 5 refine ite_eq_ofMove (fun _ => rfl) fun _ => ?_
    refine ite_eq_ofMove (fun _ => ?_) fun _ => ite_eq_ofMove (fun _ => ?_) fun _ => rfl
    · by_cases hbrace : ∃ place, rest[0]? = some ⟨'{', place⟩
      · obtain ⟨place, hbrace⟩ := hbrace
        rw [hbrace]
        cases context <;> rfl
      · -- Without a brace both matches come to their last case.
        have hnone (place : Location) (h : rest[0]? = some ⟨'{', place⟩) : False :=
          hbrace ⟨place, h⟩
        simp only
        rfl
    · -- A digit: the class around the escape shows in the depth.
      cases context with
      | charClass => rfl
      | outside | quantifier =>
          change (if e.char = '0' then _ else _) =
            Except.ok (ofMove (if e.char = '0' then _ else _))
          exact ite_eq_ofMove (fun _ => rfl) fun _ => rfl

theorem single_eq {marks : State} {t : Token} {context : Context}
    (h : { marks with last := some c.place } = ofState { context, last := some c.place }) :
    single marks c t = .ok (ofMove (token 1 c.place c.place t context)) := by
  rw [single, token, Location.through_self, h]
  rfl

theorem group_eq (hcontext : st.context = .outside) (hscan : st.scan = .ready)
    (hchars : InRow n (c :: chars)) (hw : w.Shows windowWidth (c :: chars)) (hchar : c.char = '(') :
    group flags (ofState st) c w =
      .ok (ofMove (Lexer.outside flags st c chars[0]? chars[1]?)) := by
  obtain ⟨hindex, -⟩ := hchars 0 c rfl
  obtain ⟨context, scan, last⟩ := st
  obtain rfl : context = .outside := hcontext
  obtain rfl : scan = .ready := hscan
  have h1 : w.look 1 = .ok chars[0]? := hw.look_eq (by decide)
  have h2 : w.look 2 = .ok chars[1]? := hw.look_eq (by decide)
  have hsingle (t : Token) : single (ofState ⟨.outside, .ready, last⟩) c t =
      .ok (ofMove (token 1 c.place c.place t .outside)) := single_eq rfl
  have hwhole : ∀ d ∈ chars[1]?, c.place.through? d.place = .ok (c.place.through d.place) := by
    intro d hd
    obtain ⟨hthird, -⟩ := hchars 2 d hd
    exact Location.through?_eq (by omega)
  simp only [group, Lexer.outside, hchar, h1, h2, bind, Except.bind, hsingle]
  split
  · next mark hmark =>
    rw [hmark]
    split_ifs with hextended
    · split
      · next last hlast =>
        rw [hlast, hwhole _ hlast]
        rfl
      · next hnone =>
        split
        · exact absurd ‹_› (hnone _)
        · rfl
        · next hother _ => exact absurd rfl (hother mark)
    · split
      · rfl
      · rfl
      · next hother _ => exact absurd rfl (hother mark)
  · next hnone =>
    split
    · exact absurd ‹_› (hnone _)
    · exact absurd ‹_› (hnone _)
    · rfl

theorem outside_eq (hcontext : st.context = .outside) (hscan : st.scan = .ready)
    (hchars : InRow n (c :: chars)) (hw : w.Shows windowWidth (c :: chars)) :
    outside flags (ofState st) w =
      .ok (ofMove (Lexer.outside flags st c chars[0]? chars[1]?)) := by
  have hgroup := @group_eq _ _ flags _ _ _ _ _ hcontext hscan hchars hw
  obtain ⟨context, scan, last⟩ := st
  obtain rfl : context = .outside := hcontext
  obtain rfl : scan = .ready := hscan
  have h0 : w.look 0 = .ok (some c) := hw.look_eq (by decide)
  have hescape : escape (ofState ⟨.outside, .ready, last⟩) false c.place w =
      .ok (ofMove (Lexer.escape ⟨.outside, .ready, last⟩ c.place chars[0]? chars[1]?)) :=
    escape_eq rfl hchars hw rfl rfl
  obtain ⟨ch, place⟩ := c
  simp only [outside, h0, bind, Except.bind]
  split
  case h_2 | h_4 => rfl
  case h_5 => exact hgroup rfl
  case h_14 => exact hescape
  case h_15 =>
    have hplain : Lexer.outside flags ⟨.outside, .ready, last⟩ ⟨ch, place⟩ chars[0]? chars[1]? =
        if ch.isDigit then token 1 place place (.digit ch) .outside
        else token 1 place place (.char ch) .outside := by
      unfold Lexer.outside
      split <;> first | contradiction | rfl
    rw [hplain]
    split
    · exact single_eq rfl
    · exact single_eq rfl
  all_goals exact single_eq rfl

theorem inClass_eq {enclosing : Nat} {spot : Spot}
    (hcontext : st.context = .charClass enclosing spot) (hscan : st.scan = .ready)
    (hchars : InRow n (c :: chars)) (hw : w.Shows windowWidth (c :: chars)) :
    inClass (ofState st) w =
      .ok (ofMove (Lexer.inClass st enclosing spot c chars[0]? chars[1]?)) := by
  obtain ⟨context, scan, last⟩ := st
  obtain rfl : context = .charClass enclosing spot := hcontext
  obtain rfl : scan = .ready := hscan
  have h0 : w.look 0 = .ok (some c) := hw.look_eq (by decide)
  have h1 : w.look 1 = .ok chars[0]? := hw.look_eq (by decide)
  have hescape : escape (ofState ⟨.charClass enclosing .inside, .ready, last⟩) true c.place w =
      .ok (ofMove (Lexer.escape ⟨.charClass enclosing spot, .ready, last⟩ c.place
        chars[0]? chars[1]?)) :=
    escape_eq rfl hchars hw rfl rfl
  obtain ⟨ch, place⟩ := c
  simp only [inClass, h0, h1, bind, Except.bind]
  split
  · cases spot <;> exact single_eq rfl
  · cases spot with
    | beforeSubtrahend => exact single_eq rfl
    | start | inside => rfl
  · cases enclosing <;> exact single_eq rfl
  · split
    · next bracket hbracket =>
      rw [hbracket]
      exact single_eq rfl
    · next hnone =>
      have hdash : Lexer.inClass ⟨.charClass enclosing spot, .ready, last⟩ enclosing spot
          ⟨'-', place⟩ chars[0]? chars[1]? =
            token 1 place place (.char '-') (.charClass enclosing .inside) := by
        simp only [Lexer.inClass]
      rw [hdash]
      exact single_eq rfl
  · exact hescape
  · have hplain : Lexer.inClass ⟨.charClass enclosing spot, .ready, last⟩ enclosing spot
        ⟨ch, place⟩ chars[0]? chars[1]? =
          token 1 place place (if ch.isDigit then .digit ch else .char ch)
            (.charClass enclosing .inside) := by
      unfold Lexer.inClass
      split <;> first | contradiction | rfl
    rw [hplain]
    exact single_eq rfl

theorem inQuantifier_eq (hcontext : st.context = .quantifier) (hscan : st.scan = .ready)
    (hw : w.Shows windowWidth (c :: chars)) :
    inQuantifier (ofState st) w = .ok (ofMove (Lexer.inQuantifier st c)) := by
  obtain ⟨context, scan, last⟩ := st
  obtain rfl : context = .quantifier := hcontext
  obtain rfl : scan = .ready := hscan
  have h0 : w.look 0 = .ok (some c) := hw.look_eq (by decide)
  simp only [inQuantifier, Lexer.inQuantifier, h0, bind, Except.bind]
  split_ifs
  · rfl
  · exact single_eq rfl
  · exact single_eq rfl
  · rfl

theorem atEnd_eq (st : Lexer.State) : atEnd (ofState st) = .ok (ofMove (Lexer.atEnd st)) := by
  obtain ⟨context, scan, last⟩ := st
  cases context <;> rfl

theorem ready_eq (hscan : st.scan = .ready) (hchars : InRow n chars)
    (hw : w.Shows windowWidth chars) :
    ready flags (ofState st) w = .ok (ofMove (stepOn flags st chars)) := by
  obtain ⟨context, scan, last⟩ := st
  obtain rfl : scan = .ready := hscan
  have h0 : w.look 0 = .ok chars[0]? := hw.look_eq (by decide)
  simp only [ready, h0, bind, Except.bind]
  rcases chars with _ | ⟨c, rest⟩
  · exact atEnd_eq _
  · simp only [stepOn, Lexer.step, List.getElem?_cons_zero, List.getElem?_cons_succ]
    cases context with
    | charClass enclosing spot =>
        have hdepth : (ofState ⟨.charClass enclosing spot, .ready, last⟩).depth =
            enclosing + 1 := rfl
        have hmark : (ofState ⟨.charClass enclosing spot, .ready, last⟩).inQuantifier =
            false := rfl
        simp only [between, hdepth, hmark, Nat.succ_ne_zero, Nat.succ_pos, false_and, and_false,
          if_false, if_true, Bool.false_eq_true]
        exact inClass_eq rfl rfl hchars hw
    | quantifier =>
        have hdepth : (ofState ⟨.quantifier, .ready, last⟩).depth = 0 := rfl
        have hmark : (ofState ⟨.quantifier, .ready, last⟩).inQuantifier = true := rfl
        simp only [between, hdepth, hmark, true_and, if_true]
        split_ifs
        · rfl
        · rfl
        · exact inQuantifier_eq rfl rfl hw
    | outside =>
        have hdepth : (ofState ⟨.outside, .ready, last⟩).depth = 0 := rfl
        have hmark : (ofState ⟨.outside, .ready, last⟩).inQuantifier = false := rfl
        simp only [between, hdepth, hmark, true_and, if_false, Bool.false_eq_true, Nat.lt_irrefl,
          reduceCtorEq]
        split_ifs
        · rfl
        · rfl
        · exact outside_eq rfl rfl hchars hw

theorem since_eq (h : st.Taken n) {start : Location} (hstart : start.index < n) :
    (ofState st).since start = .ok (st.sinceStart start) := by
  cases hlast : st.last with
  | none =>
      have := h.none hlast
      omega
  | some l =>
      obtain ⟨-, hindex⟩ := h.last l hlast
      have hend : (ofState st).last = some l := hlast
      rw [State.since, Lexer.State.sinceStart, hend, hlast]
      exact Location.through?_eq (show start.index ≤ l.index by omega)

theorem closeNumber_eq (h : st.Taken n) {start : Location} (hstart : start.index < n)
    {digits : List Char} (hscan : st.scan = .number start digits) :
    closeNumber (ofState st) start digits = .ok (ofMove (Lexer.closeNumber st start digits)) := by
  simp only [closeNumber, Lexer.closeNumber, since_eq h hstart, bind, Except.bind]
  obtain ⟨context, scan, last⟩ := st
  obtain rfl : scan = .number start digits := hscan
  split
  · cases context <;> rfl
  · rfl

theorem number_eq (h : st.Taken n) {start : Location} (hstart : start.index < n)
    {digits : List Char} (hscan : st.scan = .number start digits) (hw : w.Shows windowWidth chars) :
    number (ofState st) start digits w = .ok (ofMove (stepOn flags st chars)) := by
  have h0 : w.look 0 = .ok chars[0]? := hw.look_eq (by decide)
  have hclose := closeNumber_eq h hstart hscan
  obtain ⟨context, scan, last⟩ := st
  obtain rfl : scan = .number start digits := hscan
  simp only [number, stepOn, Lexer.step, h0, bind, Except.bind]
  cases chars[0]? with
  | none => exact hclose
  | some c =>
      dsimp only
      split
      · cases context <;> rfl
      · exact hclose

theorem categoryName_eq (h : st.Taken n) {start : Location} (hstart : start.index < n)
    {negated : Bool} {name : List Char} (hscan : st.scan = .category start negated name)
    (hchars : InRow n chars) (hw : w.Shows windowWidth chars) :
    categoryName (ofState st) start negated name w = .ok (ofMove (stepOn flags st chars)) := by
  have h0 : w.look 0 = .ok chars[0]? := hw.look_eq (by decide)
  have hsince := since_eq h hstart
  obtain ⟨context, scan, last⟩ := st
  obtain rfl : scan = .category start negated name := hscan
  simp only [categoryName, stepOn, Lexer.step, Lexer.categoryName, h0, bind, Except.bind]
  cases hfirst : chars[0]? with
  | none => simp only [hsince]; rfl
  | some c =>
      obtain ⟨hindex, -⟩ := hchars 0 c hfirst
      have hwhole : start.through? c.place = .ok (start.through c.place) :=
        Location.through?_eq (by omega)
      simp only [hwhole]
      split_ifs
      · rfl
      · cases context <;> rfl
      · rfl
      · rfl

/-! ## Runs -/

/-- The lexer with checks takes the steps that the lexer takes. -/
theorem step_eq (flags : Flags) (h : st.Taken n) (hchars : InRow n chars)
    (hw : w.Shows windowWidth chars) :
    step flags (ofState st) w = .ok (ofMove (stepOn flags st chars)) := by
  have hscan : (ofState st).scan = st.scan := rfl
  unfold step
  rw [hscan]
  cases hscan : st.scan with
  | finished => simp only [stepOn, Lexer.step, hscan]; rfl
  | ready => exact ready_eq hscan hchars hw
  | comment =>
      have h0 : w.look 0 = .ok chars[0]? := hw.look_eq (by decide)
      obtain ⟨context, scan, last⟩ := st
      obtain rfl : scan = .comment := hscan
      simp only [stepOn, Lexer.step, h0, bind, Except.bind]
      cases chars[0]? with
      | none => cases context <;> rfl
      | some c =>
          dsimp only
          split <;> cases context <;> rfl
  | number start digits =>
      exact number_eq h (h.start start (by simp [hscan, Scan.start?])) hscan hw
  | category start negated name =>
      exact categoryName_eq h (h.start start (by simp [hscan, Scan.start?])) hscan hchars hw

/-- Every step takes a character or falls in rank, which bounds their number. -/
theorem items_eq {steps : Nat} (h : st.Taken n) (hchars : InRow n chars)
    (hw : w.Shows windowWidth chars) (hsteps : 3 * chars.length + st.scan.rank < steps) :
    items flags steps (ofState st) w = .ok (itemsFrom flags st chars) := by
  induction st, chars using itemsFrom_induction flags generalizing n w steps with
  | stop st chars hmove =>
      obtain ⟨steps, rfl⟩ := Nat.exists_eq_add_of_lt hsteps
      rw [items, step_eq flags h hchars hw, hmove, itemsFrom_stop hmove]
      rfl
  | emit st chars count item next hmove ih =>
      have hplaces := stepOn_places flags h hchars
      have hlt := lt_of_stepOn (.inl ⟨item, hmove⟩)
      obtain ⟨steps, rfl⟩ := Nat.exists_eq_add_of_lt hsteps
      rw [items, step_eq flags h hchars hw, hmove, itemsFrom_emit hmove]
      rw [hmove] at hplaces
      cases item with
      | fault f =>
          rw [itemsFrom_finished hplaces.1]
          rfl
      | lexeme l =>
          have hitems := @ih _ (Source.drop count w) _ hplaces.2.1 (hchars.drop count)
            (hw.drop (by decide) count) (Nat.lt_of_lt_of_le hlt (Nat.le_add_right _ steps))
          change (items flags _ (ofState next) (Source.drop count w) >>= _) = _
          rw [hitems]
          rfl
  | shift st chars count next hmove ih =>
      have hplaces := stepOn_places flags h hchars
      have hlt := lt_of_stepOn (.inr hmove)
      obtain ⟨steps, rfl⟩ := Nat.exists_eq_add_of_lt hsteps
      rw [items, step_eq flags h hchars hw, hmove, itemsFrom_shift hmove]
      rw [hmove] at hplaces
      exact ih hplaces.2.1 (hchars.drop count) (hw.drop (by decide) count)
        (Nat.lt_of_lt_of_le hlt (Nat.le_add_right _ steps))

end

end Checked

end Lexer

end SchemaPattern
