import SchemaPattern.Flags
import SchemaPattern.Lookahead

/-!
# From characters to tokens

What a character means depends on where it stands, so the lexer is a machine: it remembers whether
it is in a class, in a bounded quantifier or outside of both, and what it has read of a token of
several characters.  Each step sees the next three characters and takes some of them.  A lexical
fault is the last thing that the machine yields.
-/

namespace SchemaPattern

/-! ## Characters with their places -/

structure Placed where
  char : Char
  place : Location
  deriving DecidableEq, Repr, Inhabited

structure Positions where
  rest : List Char
  place : Location := .origin
  deriving DecidableEq, Repr, Inhabited

namespace Positions

def pull (p : Positions) : Option (Placed × Positions) :=
  match p.rest with
  | [] => none
  | c :: rest => some (⟨c, p.place⟩, ⟨rest, p.place.next c⟩)

instance : Source Positions Placed where
  pull := pull
  size p := p.rest.length
  size_lt {p c q} h := by
    unfold pull at h
    split at h
    · simp at h
    · next hr =>
      simp only [Option.some.injEq, Prod.mk.injEq] at h
      simp [hr, ← h.2]

end Positions

namespace Lexer

/-- What the lexer yields: tokens, and at last perhaps a fault. -/
inductive Item
  | lexeme (l : Lexeme)
  | fault (f : LexicalFault)
  deriving DecidableEq, Repr, Inhabited

/-! ## States -/

/-- A place in a class: behind the `[`, behind the `-` of a subtraction, or elsewhere. -/
inductive Spot
  | start
  | beforeSubtrahend
  | inside
  deriving DecidableEq, Repr, Inhabited

inductive Context
  | outside
  | quantifier
  /-- In a class that stands in `enclosing` others. -/
  | charClass (enclosing : Nat) (spot : Spot)
  deriving DecidableEq, Repr, Inhabited

/-- What has been read of the next token; digits and names have their newest character first. -/
inductive Scan
  | ready
  | comment
  | number (start : Location) (digits : List Char)
  | category (start : Location) (negated : Bool) (name : List Char)
  | finished
  deriving DecidableEq, Repr, Inhabited

/-- Falls in each step that takes no character. -/
def Scan.rank : Scan → Nat
  | finished => 0
  | ready => 1
  | _ => 2

theorem Scan.rank_le (s : Scan) : s.rank ≤ 2 := by
  cases s <;> simp [rank]

structure State where
  context : Context := .outside
  scan : Scan := .ready
  /-- Where the character stands that was taken last. -/
  last : Option Location := none
  deriving DecidableEq, Repr, Inhabited

namespace State

def endPlace (st : State) : Location :=
  match st.last with
  | some l => l.after
  | none => .origin

/-- The token that began at `start` and ends with the character taken last. -/
def sinceStart (st : State) (start : Location) : Location :=
  start.through (st.last.getD start)

def inside (st : State) : Context :=
  match st.context with
  | .charClass enclosing _ => .charClass enclosing .inside
  | context => context

end State

/-! ## Steps -/

inductive Move
  | shift (count : Nat) (next : State)
  | emit (count : Nat) (item : Item) (next : State)
  | stop
  deriving DecidableEq, Repr, Inhabited

def boundLimit : Nat := 0x100000000

def isBlank (c : Char) : Bool := c = ' ' || c = '\t' || c = '\r' || c = '\n'

/-- The characters that a backslash makes literal. -/
def metaChars : List Char :=
  ['\\', '|', '.', '-', '^', '?', '*', '+', '{', '}', '(', ')', '[', ']', '$']

/-- The letters that after a backslash stand for a set of characters. -/
def multiLetters : List Char := ['s', 'S', 'i', 'I', 'c', 'C', 'd', 'D', 'w', 'W']

def isNameChar (c : Char) : Bool := c.isAlphanum || c = '-'

def fail (st : State) (cause : LexicalCause) (place : Location) : Move :=
  .emit 0 (.fault ⟨cause, place⟩) { st with scan := .finished }

/-- A token of `count` characters, the last of which stands at `last`. -/
def token (count : Nat) (start last : Location) (t : Token) (context : Context) : Move :=
  .emit count (.lexeme ⟨t, start.through last⟩) { context, scan := .ready, last := some last }

/-- A backslash at `start` and the characters that follow it. -/
def escape (st : State) (start : Location) (p1 p2 : Option Placed) : Move :=
  match p1 with
  | none => fail st .incompleteEscape (start.withLength 1)
  | some e =>
      let whole := start.through e.place
      let found (t : Token) := token 2 start e.place t st.inside
      if e.char = 'n' then found (.singleEscape '\n')
      else if e.char = 'r' then found (.singleEscape '\r')
      else if e.char = 't' then found (.singleEscape '\t')
      else if e.char ∈ metaChars then found (.singleEscape e.char)
      else if e.char ∈ multiLetters then found (.multiEscape e.char)
      else if e.char = 'p' ∨ e.char = 'P' then
        match p2 with
        | some ⟨'{', place⟩ =>
            .shift 3 { st with scan := .category start (e.char = 'P') [], last := some place }
        | _ => fail st .categoryWithoutBrace whole
      else if e.char.isDigit then
        match st.context with
        | .charClass .. => fail st .backReferenceInClass whole
        | _ =>
            if e.char = '0' then fail st .backReferenceToZero whole
            else found (.backReference (e.char.toNat - '0'.toNat))
      else fail st (.unknownEscape e.char) whole

def outside (flags : Flags) (st : State) (c : Placed) (p1 p2 : Option Placed) : Move :=
  let found (t : Token) := token 1 c.place c.place t .outside
  match c.char with
  | '[' => token 1 c.place c.place .classOpen (.charClass 0 .start)
  | ']' => fail st .strayClassClose (c.place.withLength 1)
  | '{' => token 1 c.place c.place .quantifierOpen .quantifier
  | '}' => fail st .strayQuantifierClose (c.place.withLength 1)
  | '(' =>
      match p1, p2 with
      | some ⟨'?', _⟩, some ⟨':', last⟩ =>
          if flags.extended then token 3 c.place last .nonCapturingGroupOpen .outside
          else fail st .groupNeedsExtended (c.place.withLength 2)
      | some ⟨'?', _⟩, _ =>
          if flags.extended then fail st .unknownGroup (c.place.withLength 2)
          else fail st .groupNeedsExtended (c.place.withLength 2)
      | _, _ => found .groupOpen
  | ')' => found .groupClose
  | '|' => found .alternation
  | '?' => found .optional
  | '*' => found .zeroOrMore
  | '+' => found .oneOrMore
  | '.' => found .wildcard
  | '^' => found .lineStart
  | '$' => found .lineEnd
  | '\\' => escape st c.place p1 p2
  | ch => if ch.isDigit then found (.digit ch) else found (.char ch)

/-- The character `c` in a class that stands in `enclosing` others. -/
def inClass (st : State) (enclosing : Nat) (spot : Spot) (c : Placed) (p1 p2 : Option Placed) :
    Move :=
  let found (t : Token) := token 1 c.place c.place t
  match c.char with
  | '^' =>
      found (if spot = .start then .negation else .char '^') (.charClass enclosing .inside)
  | '[' =>
      if spot = .beforeSubtrahend then found .classOpen (.charClass (enclosing + 1) .start)
      else fail st .classInClass (c.place.withLength 1)
  | ']' =>
      found .classClose <|
        match enclosing with
        | 0 => .outside
        | n + 1 => .charClass n .inside
  | '-' =>
      match p1 with
      | some ⟨'[', _⟩ => found .subtract (.charClass enclosing .beforeSubtrahend)
      | _ => found (.char '-') (.charClass enclosing .inside)
  | '\\' => escape st c.place p1 p2
  | ch => found (if ch.isDigit then .digit ch else .char ch) (.charClass enclosing .inside)

def inQuantifier (st : State) (c : Placed) : Move :=
  if c.char.isDigit then
    .shift 1 { st with scan := .number c.place [c.char], last := some c.place }
  else if c.char = ',' then token 1 c.place c.place .comma .quantifier
  else if c.char = '}' then token 1 c.place c.place .quantifierClose .outside
  else fail st (.quantifierChar c.char) (c.place.withLength 1)

def closeNumber (st : State) (start : Location) (digits : List Char) : Move :=
  if Numeral.decimalValue digits.reverse < boundLimit then
    .emit 0 (.lexeme ⟨.number (Numeral.decimalValue digits.reverse), st.sinceStart start⟩)
      { st with scan := .ready }
  else fail st (.boundTooLarge (String.ofList digits.reverse)) (st.sinceStart start)

/-- The next character, or the end, in the name of a category. -/
def categoryName (st : State) (start : Location) (negated : Bool) (name : List Char)
    (p0 : Option Placed) : Move :=
  match p0 with
  | none => fail st .unclosedCategory (st.sinceStart start)
  | some c =>
      if c.char = '}' then
        if name = [] then fail st .emptyCategory (start.through c.place)
        else
          token 1 start c.place (.categoryEscape (String.ofList name.reverse) negated) st.inside
      else if isNameChar c.char then
        .shift 1 { st with scan := .category start negated (c.char :: name), last := some c.place }
      else fail st (.categoryChar c.char) (start.through c.place)

def atEnd (st : State) : Move :=
  match st.context with
  | .outside => .stop
  | .quantifier => fail st .unclosedQuantifier st.endPlace
  | .charClass .. => fail st .unclosedClass st.endPlace

def between (flags : Flags) (st : State) (c : Placed) (p1 p2 : Option Placed) : Move :=
  match st.context with
  | .charClass enclosing spot => inClass st enclosing spot c p1 p2
  | context =>
      if flags.stripWhitespace ∧ isBlank c.char then
        .shift 1 { st with last := some c.place }
      else if flags.stripWhitespace ∧ c.char = '#' then
        .shift 1 { st with scan := .comment, last := some c.place }
      else if context = .quantifier then inQuantifier st c
      else outside flags st c p1 p2

def step (flags : Flags) (st : State) (p0 p1 p2 : Option Placed) : Move :=
  match st.scan, p0 with
  | .finished, _ => .stop
  | .ready, none => atEnd st
  | .ready, some c => between flags st c p1 p2
  | .comment, none => .shift 0 { st with scan := .ready }
  | .comment, some c =>
      .shift 1 { st with scan := if c.char = '\n' then .ready else .comment, last := some c.place }
  | .number start digits, p0 =>
      match p0 with
      | some c =>
          if c.char.isDigit then
            .shift 1 { st with scan := .number start (c.char :: digits), last := some c.place }
          else closeNumber st start digits
      | none => closeNumber st start digits
  | .category start negated name, p0 => categoryName st start negated name p0

end Lexer

end SchemaPattern
