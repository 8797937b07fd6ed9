import SchemaPattern.Host.Node
import SchemaPattern.Numeral
import SchemaPattern.Unicode.Folding

/-!
# Reading host patterns

The reader takes one character at a time.  Outside of classes it knows alternation, rows, the
quantifiers `? * + {m} {m,} {m,n}` with a further `?` for lazy ones, capturing groups, groups with
flags, `.`, `^`, `$`, references, and a backslash before an operator, before `n`, `r` or `t`, or
before a number of base sixteen in braces after `x`.  A class is a list of characters, ranges and
classes, the complement of one after `^`, or the intersection of several between `&&`.
-/

namespace SchemaPattern

namespace Host

namespace Reader

/-! ## States -/

structure Scope where
  ignoreCase : Bool := false
  multiline : Bool := false
  dotAll : Bool := false
  deriving DecidableEq, Repr, Inhabited

/-- What stands before the next character: nothing that a quantifier can follow, an atom, or an
atom with its quantifier. -/
inductive Before
  | nothing
  | atom
  | quantifier
  deriving DecidableEq, Repr, Inhabited

/-- An expression being read; branches and items have their newest element first. -/
structure Level where
  branches : List Node := []
  items : List Node := []
  before : Before := .nothing
  deriving Repr, Inhabited

namespace Level

def add (level : Level) (n : Node) : Level :=
  { level with items := n :: level.items, before := .atom }

def currentBranch (level : Level) : Node := .ofItems level.items.reverse

def nextBranch (level : Level) : Level := { branches := level.currentBranch :: level.branches }

def close (level : Level) : Node := .ofBranches (level.currentBranch :: level.branches).reverse

def quantify (level : Level) (min : Nat) (max : Option Nat) : Option Level :=
  match level.before, level.items with
  | .atom, n :: rest =>
      some { level with items := .repeated n min max false :: rest, before := .quantifier }
  | _, _ => none

def makeLazy (level : Level) : Option Level :=
  match level.items with
  | .repeated n min max false :: rest =>
      some { level with items := .repeated n min max true :: rest, before := .nothing }
  | _ => none

end Level

/-- A group whose end has not been read, with its number if it captures. -/
structure OpenGroup where
  number : Option Nat
  outer : Level
  scope : Scope
  deriving Repr, Inhabited

/-- A class whose end has not been read: the intersection of what stands before the last `&&`, and
the ranges read after it. -/
structure OpenClass where
  negative : Bool := false
  left : Option CharSet := none
  ranges : List CharRange := []
  deriving Repr, Inhabited

/-- A place in a class.  A character may turn out to be the first of a range; `low` is the first
character of a range of which the last is being read. -/
inductive Spot
  | start
  | plain
  | char (c : Char)
  | dash (low : Char)
  | ampersand
  | escape (low : Option Char)
  | hexStart (low : Option Char)
  | hex (low : Option Char) (value : Nat)
  deriving DecidableEq, Repr, Inhabited

inductive Mode
  | text
  | escape
  | reference (number : Nat)
  | hexStart
  | hex (value : Nat)
  | groupStart
  /-- In the flags of a group, which switch on or off. -/
  | flags (on : Bool) (scope : Scope)
  /-- In the lower bound of a quantifier, of which some digits have been read or none. -/
  | minimum (value : Option Nat)
  | maximum (min : Nat) (value : Option Nat)
  /-- In a class inside others, of which the innermost comes first. -/
  | charClass (k : OpenClass) (outer : List OpenClass) (spot : Spot)
  deriving Repr, Inhabited

structure State where
  mode : Mode := .text
  level : Level := {}
  openGroups : List OpenGroup := []
  count : Nat := 0
  scope : Scope := {}
  deriving Repr, Inhabited

namespace State

def inText (st : State) (level : Level) : State := { st with mode := .text, level }

def add (st : State) (n : Node) : State := st.inText (st.level.add n)

def addSet (st : State) (s : CharSet) : State :=
  st.add (.set (if st.scope.ignoreCase then s.caseFolded else s))

def addChar (st : State) (c : Char) : State := st.addSet (.single c)

def openGroup (st : State) (capturing : Bool) (scope : Scope) : State :=
  let count := if capturing then st.count + 1 else st.count
  { mode := .text
    level := {}
    openGroups := ⟨if capturing then some count else none, st.level, st.scope⟩ :: st.openGroups
    count
    scope }

end State

/-! ## Characters of classes -/

/-- The characters that a backslash before them makes literal. -/
def isOperator (c : Char) : Bool :=
  ['\\', '.', '+', '*', '?', '(', ')', '|', '[', ']', '{', '}', '^', '$', '-', '&', '#',
    '~'].contains c

def controlEscapes : List (Char × Char) := [('n', '\n'), ('r', '\r'), ('t', '\t')]

def escaped? (c : Char) : Option Char :=
  if isOperator c then some c else controlEscapes.lookup c

def charOfNumber? (n : Nat) : Option Char :=
  if n.isValidChar then some (Char.ofNat n) else none

namespace OpenClass

def flush (k : OpenClass) : Spot → OpenClass
  | .char c => { k with ranges := .single c :: k.ranges }
  | _ => k

/-- What has been read since the last `&&`, with what stands before it. -/
def operand (k : OpenClass) (ignoreCase : Bool) : CharSet :=
  let s := CharSet.ofRanges k.ranges
  let s := if ignoreCase then s.caseFolded else s
  match k.left with
  | some left => left.inter s
  | none => s

def close (k : OpenClass) (ignoreCase : Bool) : CharSet :=
  if k.negative then (k.operand ignoreCase).complement else k.operand ignoreCase

end OpenClass

def classUnit (st : State) (k : OpenClass) (outer : List OpenClass) (low : Option Char)
    (c : Char) : Option State :=
  match low with
  | none => some { st with mode := .charClass k outer (.char c) }
  | some first =>
      if first ≤ c then
        some { st with mode := .charClass { k with ranges := ⟨first, c⟩ :: k.ranges } outer .plain }
      else none

/-- A character of a class behind `spot`, which is not inside an escape. -/
def classChar (st : State) (k : OpenClass) (outer : List OpenClass) (spot : Spot) (c : Char) :
    Option State :=
  let low : Option Char :=
    match spot with
    | .dash first => some first
    | _ => none
  let flushed := k.flush spot
  match c with
  | '\\' => some { st with mode := .charClass flushed outer (.escape low) }
  | '[' =>
      if low.isNone then some { st with mode := .charClass {} (flushed :: outer) .start }
      else none
  | ']' =>
      if low.isNone then
        let s := flushed.close st.scope.ignoreCase
        match outer with
        | [] => some (st.add (.set s))
        | k :: outer =>
            let k := { k with ranges := s.ranges.toList ++ k.ranges }
            some { st with mode := .charClass k outer .plain }
      else none
  | '&' =>
      if low.isNone then some { st with mode := .charClass flushed outer .ampersand }
      else classUnit st k outer low c
  | '-' =>
      match spot with
      | .char first => some { st with mode := .charClass k outer (.dash first) }
      | _ => classUnit st k outer low c
  | _ => classUnit st flushed outer low c

def charClass (st : State) (k : OpenClass) (outer : List OpenClass) (spot : Spot) (c : Char) :
    Option State :=
  match spot with
  | .start =>
      if c = '^' then some { st with mode := .charClass { k with negative := true } outer .plain }
      else classChar st k outer .plain c
  | .plain | .char _ | .dash _ => classChar st k outer spot c
  | .ampersand =>
      if c = '&' then
        let k := { k with left := some (k.operand st.scope.ignoreCase), ranges := [] }
        some { st with mode := .charClass k outer .plain }
      else classChar st k outer (.char '&') c
  | .escape low =>
      if c = 'x' then some { st with mode := .charClass k outer (.hexStart low) }
      else (escaped? c).bind (classUnit st k outer low)
  | .hexStart low =>
      if c = '{' then some { st with mode := .charClass k outer (.hex low 0) } else none
  | .hex low value =>
      if c = '}' then (charOfNumber? value).bind (classUnit st k outer low)
      else
        (Numeral.digitValue? c).map fun d =>
          { st with mode := .charClass k outer (.hex low (16 * value + d)) }

/-! ## Characters outside of classes -/

def anyChar : CharSet := CharSet.complement ∅

def inLine : CharSet := (CharSet.single '\n').complement

def closeGroup (st : State) : Option State :=
  match st.openGroups with
  | [] => none
  | g :: outer =>
      let body := st.level.close
      let n := match g.number with
        | some number => .capture number body
        | none => .group body
      some { st with
        mode := .text
        level := g.outer.add n
        openGroups := outer
        scope := g.scope }

def text (st : State) (c : Char) : Option State :=
  match c with
  | '\\' => some { st with mode := .escape }
  | '(' => some { st with mode := .groupStart }
  | ')' => closeGroup st
  | '[' => some { st with mode := .charClass {} [] .start }
  | '|' => some (st.inText st.level.nextBranch)
  | '?' =>
      if st.level.before = .quantifier then st.level.makeLazy.map st.inText
      else (st.level.quantify 0 (some 1)).map st.inText
  | '*' => (st.level.quantify 0 none).map st.inText
  | '+' => (st.level.quantify 1 none).map st.inText
  | '{' => some { st with mode := .minimum none }
  | '.' => some (st.add (.set (if st.scope.dotAll then anyChar else inLine)))
  | '^' => some (st.add (.border true st.scope.multiline))
  | '$' => some (st.add (.border false st.scope.multiline))
  | _ => some (st.addChar c)

def setFlag (scope : Scope) (on : Bool) (c : Char) : Option Scope :=
  match c with
  | 'i' => some { scope with ignoreCase := on }
  | 'm' => some { scope with multiline := on }
  | 's' => some { scope with dotAll := on }
  | _ => none

def decimalDigit? (c : Char) : Option Nat :=
  if c.isDigit then some (c.toNat - '0'.toNat) else none

def step (st : State) (c : Char) : Option State :=
  match st.mode with
  | .text => text st c
  | .escape =>
      if c = 'x' then some { st with mode := .hexStart }
      else
        match decimalDigit? c with
        | some 0 => none
        | some d => some { st with mode := .reference d }
        | none => (escaped? c).map st.addChar
  | .reference number =>
      match decimalDigit? c with
      | some d => some { st with mode := .reference (10 * number + d) }
      | none => text (st.add (.reference number st.scope.ignoreCase)) c
  | .hexStart => if c = '{' then some { st with mode := .hex 0 } else none
  | .hex value =>
      if c = '}' then (charOfNumber? value).map st.addChar
      else (Numeral.digitValue? c).map fun d => { st with mode := .hex (16 * value + d) }
  | .groupStart =>
      if c = '?' then some { st with mode := .flags true st.scope }
      else text (st.openGroup true st.scope) c
  | .flags on scope =>
      if c = ':' then some (st.openGroup false scope)
      else if c = '-' then some { st with mode := .flags false scope }
      else (setFlag scope on c).map fun scope => { st with mode := .flags on scope }
  | .minimum value =>
      match decimalDigit? c, value with
      | some d, _ => some { st with mode := .minimum (some (10 * value.getD 0 + d)) }
      | none, some min =>
          if c = '}' then (st.level.quantify min (some min)).map st.inText
          else if c = ',' then some { st with mode := .maximum min none }
          else none
      | none, none => none
  | .maximum min value =>
      match decimalDigit? c with
      | some d => some { st with mode := .maximum min (some (10 * value.getD 0 + d)) }
      | none => if c = '}' then (st.level.quantify min value).map st.inText else none
  | .charClass k outer spot => charClass st k outer spot c

/-- The tree at the end of a pattern, and the number of its capturing groups. -/
def finish (st : State) : Option (Node × Nat) :=
  match st.mode, st.openGroups with
  | .text, [] => some (st.level.close, st.count)
  | .reference number, [] =>
      some ((st.add (.reference number st.scope.ignoreCase)).level.close, st.count)
  | _, _ => none

end Reader

/-- The tree of a pattern that begins under the given flags, and the number of its capturing
groups. -/
def read (scope : Reader.Scope) (pattern : List Char) : Option (Node × Nat) :=
  (pattern.foldlM Reader.step { scope }).bind Reader.finish

/-- The pattern that matches a text and nothing else. -/
def escapeText (s : List Char) : List Char :=
  s.flatMap fun c => if Reader.isOperator c then ['\\', c] else [c]

end Host

end SchemaPattern
