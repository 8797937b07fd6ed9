import SchemaPattern.Expr
import SchemaPattern.GroupSet
import SchemaPattern.Lexer.Run

/-!
# From tokens to expressions

The grammar, where a class character is a character, a digit or a single escape:

    expression ::= branch ( "|" branch )*
    branch     ::= piece*
    piece      ::= atom quantifier?
    quantifier ::= ( "?" | "*" | "+" | "{" quantity "}" ) "?"?
    quantity   ::= number ( "," number? )?
    atom       ::= class character | escape | "." | "^" | "$" | class | back-reference
                 | "(" expression ")" | "(?:" expression ")"
    class      ::= "[" "^"? member+ ( "-" class )? "]"
    member     ::= class character ( "-" class character )? | escape

The parser is a machine with a stack for the groups that are open.  Each step sees the next three
items of the lexer and takes some of them.  A lexical fault is met, and ends the run, when a step
has to know the item in whose place it stands.
-/

namespace SchemaPattern

namespace Parser

/-! ## States -/

/-- The groups seen so far: how many are open or closed, and which are closed. -/
structure Groups where
  count : Nat := 0
  closed : GroupSet := {}
  deriving DecidableEq, Repr, Inhabited

/-- An expression being read: finished branches, and the pieces of the current one.  Both have
their newest element first. -/
structure Level where
  branches : List Expr := []
  pieces : List Expr := []
  deriving Repr, Inhabited

namespace Level

def add (level : Level) (e : Expr) : Level := { level with pieces := e :: level.pieces }

def currentBranch (level : Level) : Expr := .ofPieces level.pieces.reverse

def nextBranch (level : Level) : Level := ⟨level.currentBranch :: level.branches, []⟩

def close (level : Level) : Expr := .ofBranches (level.currentBranch :: level.branches).reverse

end Level

/-- A group whose end has not been seen, with its number if it captures. -/
structure OpenGroup where
  number : Option Nat
  outer : Level
  deriving Repr, Inhabited

/-- A class whose end has not been seen.  The members have the newest first; `outer` holds the
groups from which the class is to be subtracted, the innermost first. -/
structure OpenClass where
  negative : Bool
  members : List ClassMember := []
  outer : List CharGroup := []
  deriving Repr, Inhabited

namespace OpenClass

def add (k : OpenClass) (m : ClassMember) : OpenClass := { k with members := m :: k.members }

def charGroup (k : OpenClass) : CharGroup := ⟨k.negative, k.members.reverse⟩

end OpenClass

inductive Mode
  /-- A piece, or what ends a branch. -/
  | branch
  | atom
  /-- The quantifier of an atom, if it has one. -/
  | quantifier (atom : Expr)
  | minimum (atom : Expr) (start : Location)
  | comma (atom : Expr) (start : Location) (min : Nat)
  | maximum (atom : Expr) (start : Location) (min : Nat)
  | closingBrace (atom : Expr) (q : Quantifier)
  /-- The mark of a lazy quantifier, if it is one. -/
  | lazyMark (atom : Expr) (q : Quantifier)
  /-- Further digits of a back-reference. -/
  | reference (index : Nat) (start : Location)
  | members (k : OpenClass)
  | rangeEnd (k : OpenClass) (low : Char) (start : Location)
  /-- The ends of the classes around one that has ended. -/
  | closing (c : CharClass) (outer : List CharGroup)
  deriving Repr, Inhabited

/-- Falls in each step that takes no item. -/
def Mode.rank : Mode → Nat
  | atom | closingBrace .. => 0
  | branch | comma .. | maximum .. => 1
  | quantifier _ | lazyMark .. => 2
  | closing .. | reference .. => 3
  | _ => 0

structure State where
  mode : Mode := .branch
  level : Level := {}
  openGroups : List OpenGroup := []
  groups : Groups := {}
  /-- Where the token stands that was taken last. -/
  last : Location := .origin
  deriving Repr, Inhabited

namespace State

def endPlace (st : State) : Location :=
  if st.last.length = 0 ∧ st.last.index = 0 then st.last else st.last.after

def withPiece (st : State) (e : Expr) : State :=
  { st with mode := .branch, level := st.level.add e }

def withAtom (st : State) (e : Expr) : State := { st with mode := .quantifier e }

/-- After the `(` of a group, which gets the next number if it captures. -/
def openGroup (st : State) (capturing : Bool) : State :=
  let count := if capturing then st.groups.count + 1 else st.groups.count
  { st with
    mode := .branch
    level := {}
    openGroups := ⟨if capturing then some count else none, st.level⟩ :: st.openGroups
    groups := { st.groups with count } }

def closeGroup (st : State) (g : OpenGroup) (outer : List OpenGroup) : State :=
  { st with
    mode := .quantifier (.group g.number.isSome st.level.close)
    level := g.outer
    openGroups := outer
    groups :=
      match g.number with
      | some n => { st.groups with closed := st.groups.closed.insert n }
      | none => st.groups }

end State

/-! ## Steps -/

inductive Move
  | shift (count : Nat) (next : State)
  | done (e : Expr)
  | fail (f : Fault)
  deriving Repr, Inhabited

open Lexer (Item)

/-- The item at hand is a lexical fault, or not what is expected. -/
def unexpected (p : Option Item) (place : Location) (expected : Expected) : Move :=
  match p with
  | some (.fault f) => .fail (.lexical f)
  | some (.lexeme l) => .fail (.grammar (some l.token) expected l.range)
  | none => .fail (.grammar none expected place)

def take (st : State) (range : Location) (next : State → State) : Move :=
  .shift 1 (next { st with last := range })

def stay (st : State) : Move := .shift 0 st

def takeEscape (st : State) (range : Location) (name : EscapeName) (next : Escape → State → State) :
    Move :=
  match name.chars? with
  | some chars => take st range (next ⟨name, chars⟩)
  | none => .fail (.unknownEscape name range)

/-- In a branch, at its end the bar, the end of the group, or the end of the pattern. -/
def branch (st : State) (p0 : Option Item) : Move :=
  match p0, st.openGroups with
  | some (.fault f), _ => .fail (.lexical f)
  | some (.lexeme ⟨.alternation, range⟩), _ =>
      take st range fun st => { st with level := st.level.nextBranch }
  | some (.lexeme ⟨.groupClose, range⟩), g :: outer => take st range (·.closeGroup g outer)
  | some (.lexeme l), outer =>
      if l.token.startsAtom then stay { st with mode := .atom }
      else unexpected p0 l.range (if outer.isEmpty then .piece else .groupClose)
  | none, [] => .done st.level.close
  | none, _ :: _ => unexpected none st.endPlace .groupClose

/-- The `[` of a class, at `range`, with the `^` behind it if there is one. -/
def openClass (st : State) (range : Location) (p1 : Option Item) : Move :=
  match p1 with
  | some (.lexeme ⟨.negation, range⟩) =>
      .shift 2 { st with mode := .members { negative := true }, last := range }
  | _ => take st range fun st => { st with mode := .members { negative := false } }

def atom (flags : Flags) (st : State) (p0 p1 : Option Item) : Move :=
  match p0 with
  | some (.lexeme ⟨t, range⟩) =>
      match t with
      | .char c | .digit c | .singleEscape c => take st range (·.withAtom (.literal c))
      | .wildcard => take st range (·.withAtom (.wildcard flags.dotAll))
      | .lineStart => take st range (·.withAtom (.border true flags.multiline))
      | .lineEnd => take st range (·.withAtom (.border false flags.multiline))
      | .multiEscape letter =>
          takeEscape st range (.multi letter) fun e st => st.withAtom (.escape e)
      | .categoryEscape name negated =>
          takeEscape st range (.category name negated) fun e st => st.withAtom (.escape e)
      | .classOpen => openClass st range p1
      | .groupOpen => take st range (·.openGroup true)
      | .nonCapturingGroupOpen => take st range (·.openGroup false)
      | .backReference n => take st range fun st => { st with mode := .reference n range }
      | _ => unexpected p0 range .atom
  | _ => unexpected p0 st.endPlace .atom

def quantifier (st : State) (e : Expr) (p0 : Option Item) : Move :=
  match p0 with
  | some (.fault f) => .fail (.lexical f)
  | some (.lexeme ⟨.optional, range⟩) =>
      take st range fun st => { st with mode := .lazyMark e { min := 0, max := some 1 } }
  | some (.lexeme ⟨.zeroOrMore, range⟩) =>
      take st range fun st => { st with mode := .lazyMark e { min := 0, max := none } }
  | some (.lexeme ⟨.oneOrMore, range⟩) =>
      take st range fun st => { st with mode := .lazyMark e { min := 1, max := none } }
  | some (.lexeme ⟨.quantifierOpen, range⟩) =>
      take st range fun st => { st with mode := .minimum e range }
  | _ => stay (st.withPiece e)

def minimum (st : State) (e : Expr) (start : Location) (p0 : Option Item) : Move :=
  match p0 with
  | some (.lexeme ⟨.number n, range⟩) =>
      take st range fun st => { st with mode := .comma e start n }
  | _ => unexpected p0 st.endPlace .number

def comma (st : State) (e : Expr) (start : Location) (min : Nat) (p0 : Option Item) : Move :=
  match p0 with
  | some (.fault f) => .fail (.lexical f)
  | some (.lexeme ⟨.comma, range⟩) =>
      take st range fun st => { st with mode := .maximum e start min }
  | _ => stay { st with mode := .closingBrace e { min, max := some min } }

/-- Bounds in the wrong order are reported with the brace that follows them, if one does. -/
def maximum (st : State) (e : Expr) (start : Location) (min : Nat) (p0 p1 : Option Item) : Move :=
  match p0 with
  | some (.fault f) => .fail (.lexical f)
  | some (.lexeme ⟨.number max, range⟩) =>
      if min ≤ max then
        take st range fun st => { st with mode := .closingBrace e { min, max := some max } }
      else
        match p1 with
        | some (.fault f) => .fail (.lexical f)
        | some (.lexeme ⟨.quantifierClose, brace⟩) => .fail (.bounds min max start brace)
        | _ => .fail (.bounds min max start range)
  | _ => stay { st with mode := .closingBrace e { min, max := none } }

def closingBrace (st : State) (e : Expr) (q : Quantifier) (p0 : Option Item) : Move :=
  match p0 with
  | some (.lexeme ⟨.quantifierClose, range⟩) =>
      take st range fun st => { st with mode := .lazyMark e q }
  | _ => unexpected p0 st.endPlace .quantifierClose

def lazyMark (st : State) (e : Expr) (q : Quantifier) (p0 : Option Item) : Move :=
  match p0 with
  | some (.fault f) => .fail (.lexical f)
  | some (.lexeme ⟨.optional, range⟩) =>
      take st range (·.withPiece (.piece e { q with lazy := true }))
  | _ => stay (st.withPiece (.piece e q))

def referenceEnd (st : State) (index : Nat) (start : Location) : Move :=
  if st.groups.closed.contains index then stay (st.withAtom (.backReference index))
  else .fail (.backReference index start st.last)

/-- A digit belongs to a back-reference as long as the number is one of an opened group. -/
def reference (st : State) (index : Nat) (start : Location) (p0 : Option Item) : Move :=
  match p0 with
  | some (.fault f) => .fail (.lexical f)
  | some (.lexeme ⟨.digit c, range⟩) =>
      if c.isDigit ∧ index * 10 + (c.toNat - '0'.toNat) ≤ st.groups.count then
        take st range fun st =>
          { st with mode := .reference (index * 10 + (c.toNat - '0'.toNat)) start }
      else referenceEnd st index start
  | _ => referenceEnd st index start

def takeMember (st : State) (range : Location) (k : OpenClass) (m : ClassMember) : Move :=
  take st range fun st => { st with mode := .members (k.add m) }

/-- A dash behind a class character makes a range, unless the group ends behind it. -/
def classChar (st : State) (k : OpenClass) (c : Char) (range : Location) (p1 p2 : Option Item) :
    Move :=
  match p1 with
  | some (.fault f) => .fail (.lexical f)
  | some (.lexeme ⟨.char '-', dash⟩) =>
      match p2 with
      | some (.fault f) => .fail (.lexical f)
      | none | some (.lexeme ⟨.classClose, _⟩) | some (.lexeme ⟨.subtract, _⟩) =>
          takeMember st range k (.char c)
      | _ => .shift 2 { st with mode := .rangeEnd k c range, last := dash }
  | _ => takeMember st range k (.char c)

/-- Behind the `-` of a subtraction, which stands at `dash`. -/
def subtrahend (st : State) (k : OpenClass) (dash : Location) (p1 p2 : Option Item) : Move :=
  let inner (negative : Bool) : OpenClass := { negative, outer := k.charGroup :: k.outer }
  match p1, p2 with
  | some (.lexeme ⟨.classOpen, _⟩), some (.lexeme ⟨.negation, range⟩) =>
      .shift 3 { st with mode := .members (inner true), last := range }
  | some (.lexeme ⟨.classOpen, range⟩), _ =>
      .shift 2 { st with mode := .members (inner false), last := range }
  | _, _ => unexpected p1 { st with last := dash }.endPlace .classOpen

def groupEnd (st : State) (k : OpenClass) (p0 p1 p2 : Option Item) : Move :=
  if k.members.isEmpty then unexpected p0 st.endPlace .member
  else
    match p0 with
    | some (.lexeme ⟨.subtract, range⟩) => subtrahend st k range p1 p2
    | some (.lexeme ⟨.classClose, range⟩) =>
        take st range fun st => { st with mode := .closing (.group k.charGroup) k.outer }
    | _ => unexpected p0 st.endPlace .classClose

def members (st : State) (k : OpenClass) (p0 p1 p2 : Option Item) : Move :=
  match p0 with
  | some (.lexeme l) =>
      match l.token.classChar?, l.token.escapeName? with
      | some c, _ => classChar st k c l.range p1 p2
      | none, some name =>
          takeEscape st l.range name fun e st => { st with mode := .members (k.add (.escape e)) }
      | none, none => groupEnd st k p0 p1 p2
  | _ => groupEnd st k p0 p1 p2

def rangeEnd (st : State) (k : OpenClass) (low : Char) (start : Location) (p0 : Option Item) :
    Move :=
  match p0 with
  | some (.lexeme l) =>
      match l.token.classChar? with
      | some high =>
          if low ≤ high then takeMember st l.range k (.range ⟨low, high⟩)
          else .fail (.charRange low high start l.range)
      | none => unexpected p0 st.endPlace .rangeEnd
  | _ => unexpected p0 st.endPlace .rangeEnd

def closing (st : State) (c : CharClass) (outer : List CharGroup) (p0 : Option Item) : Move :=
  match outer with
  | [] => stay (st.withAtom (.charClass c))
  | g :: outer =>
      match p0 with
      | some (.lexeme ⟨.classClose, range⟩) =>
          take st range fun st => { st with mode := .closing (.difference g c) outer }
      | _ => unexpected p0 st.endPlace .classClose

def step (flags : Flags) (st : State) (p0 p1 p2 : Option Item) : Move :=
  match st.mode with
  | .branch => branch st p0
  | .atom => atom flags st p0 p1
  | .quantifier e => quantifier st e p0
  | .minimum e start => minimum st e start p0
  | .comma e start min => comma st e start min p0
  | .maximum e start min => maximum st e start min p0 p1
  | .closingBrace e q => closingBrace st e q p0
  | .lazyMark e q => lazyMark st e q p0
  | .reference index start => reference st index start p0
  | .members k => members st k p0 p1 p2
  | .rangeEnd k low start => rangeEnd st k low start p0
  | .closing c outer => closing st c outer p0

end Parser

end SchemaPattern
