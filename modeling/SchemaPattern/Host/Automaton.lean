import Std.Data.HashSet
import SchemaPattern.Host.Cursor
import SchemaPattern.Host.Node

/-!
# Automata

The instructions of a node that holds no reference.  They are followed in the order of preference,
the first alternative before the second, and each of them at most once at a position: what comes
to an instruction that has been followed there is given up.  That is what ends a loop whose copies
take no character, and it bounds the search by the size of the automaton times that of the input.
-/

namespace SchemaPattern

namespace Host

/-- Numbers of instructions say what comes next. -/
inductive Instruction
  | take (chars : CharSet) (next : Nat)
  | border (atStart multiline : Bool) (next : Nat)
  | enter (group next : Nat)
  | leave (group next : Nat)
  /-- The preferred way comes first. -/
  | choose (ways : List Nat)
  | accept
  deriving Repr, Inhabited

abbrev Code := Array Instruction

def Code.add (code : Code) (i : Instruction) : Code × Nat :=
  let number := code.size
  (code.push i, number)

/-! ## Fragments -/

/-- Adds instructions that lead to `next`, and gives the number of the first of them. -/
abbrev Fragment := (next : Nat) → Code → Code × Nat

/-- The copies of a loop go on with the loop or leave it. -/
def Instruction.fork (lazy : Bool) (more stop : Nat) : Instruction :=
  .choose (if lazy then [stop, more] else [more, stop])

namespace Fragment

def single (i : Nat → Instruction) : Fragment := fun next code => Code.add code (i next)

def followedBy (f g : Fragment) : Fragment := fun next code =>
  let (code, middle) := g next code
  f middle code

def times (f : Fragment) : Nat → Fragment
  | 0, next, code => (code, next)
  | n + 1, next, code =>
      let (code, copy) := f next code
      times f n copy code

/-- Up to so many copies, in front of each of which `stop` is another way. -/
def upTo (f : Fragment) (lazy : Bool) (stop : Nat) : Nat → Fragment
  | 0, next, code => (code, next)
  | n + 1, next, code =>
      let (code, copy) := f next code
      let (code, fork) := Code.add code (.fork lazy copy stop)
      upTo f lazy stop n fork code

/-- One copy or more.  Gives the number of the fork behind a copy too. -/
def loop (f : Fragment) (lazy : Bool) (next : Nat) (code : Code) : Code × Nat × Nat :=
  let (code, again) := Code.add code (.choose [])
  let (code, copy) := f again code
  (code.setIfInBounds again (.fork lazy copy next), copy, again)

def oneOrMore (f : Fragment) (lazy : Bool) : Fragment := fun next code =>
  let (code, copy, _) := f.loop lazy next code
  (code, copy)

/-- Any number of copies.  A loop whose copies can be empty has a fork of its own before the first
copy; otherwise the fork behind the copies serves. -/
def zeroOrMore (f : Fragment) (emptyCopies lazy : Bool) : Fragment := fun next code =>
  let (code, copy, again) := f.loop lazy next code
  if emptyCopies then Code.add code (.fork lazy copy next) else (code, again)

def repeated (f : Fragment) (emptyCopies : Bool) (min : Nat) (max : Option Nat) (lazy : Bool) :
    Fragment :=
  match max, min with
  | some max, min => (f.times min).followedBy fun next => f.upTo lazy next (max - min) next
  | none, 0 => f.zeroOrMore emptyCopies lazy
  | none, n + 1 => (f.times n).followedBy (f.oneOrMore lazy)

end Fragment

namespace Node

mutual

/-- The instructions of a node.  A reference has none: what comes to it is given up. -/
def fragment : Node → Fragment
  | alternation branches => fun next code =>
      let (code, ways) := fragments branches next code
      Code.add code (.choose ways)
  | row items => fragmentOfRow items
  | repeated item min max lazy =>
      let (min, max) := item.extent.bounds min max
      Fragment.repeated (fragment item) (item.extent.least == 0) min max lazy
  | capture number body =>
      (Fragment.single (.enter number)).followedBy
        ((fragment body).followedBy (Fragment.single (.leave number)))
  | group body => fragment body
  | reference _ _ => Fragment.single fun _ => .choose []
  | border atStart multiline => Fragment.single (.border atStart multiline)
  | set chars => Fragment.single (.take chars)

def fragmentOfRow : List Node → Fragment
  | [] => fun next code => (code, next)
  | n :: rest => (fragment n).followedBy (fragmentOfRow rest)

def fragments : List Node → (next : Nat) → Code → Code × List Nat
  | [], _, code => (code, [])
  | n :: rest, next, code =>
      let (code, ways) := fragments rest next code
      let (code, way) := fragment n next code
      (code, way :: ways)

end

end Node

/-! ## Runs -/

structure Automaton where
  code : Code
  start : Nat
  groups : List Nat
  deriving Repr, Inhabited

/-- A way through the automaton, with the positions at which it entered groups, later ones first. -/
structure Thread where
  state : Nat
  progress : Progress
  entered : List (Nat × Cursor) := []
  deriving Repr, Inhabited

def Instruction.follow (i : Instruction) (t : Thread) : List Thread :=
  match i with
  | take chars next =>
      match t.progress.cursor.next? with
      | some (c, cursor) =>
          if chars.contains c then
            [{ t with state := next, progress := { t.progress with cursor } }]
          else []
      | none => []
  | border atStart multiline next =>
      if t.progress.cursor.atBorder atStart multiline then [{ t with state := next }] else []
  | enter group next =>
      [{ t with state := next, entered := (group, t.progress.cursor) :: t.entered }]
  | leave group next =>
      match t.entered.lookup group with
      | some start => [{ t with state := next, progress := t.progress.captured group start }]
      | none => []
  | choose ways => ways.map fun state => { t with state }
  | accept => []

def Instruction.ways : Instruction → Nat
  | choose ways => ways.length
  | _ => 1

namespace Automaton

def ofNode (n : Node) : Automaton :=
  let (code, start) := n.fragment 0 #[.accept]
  ⟨code, start, n.groups⟩

/-- Follows the threads, the preferred one first, until one is accepted.  `seen` holds the
instructions that have been followed, with the position. -/
def explore (a : Automaton) :
    (fuel : Nat) → (seen : Std.HashSet (Nat × Nat)) → List Thread → Option Progress
  | _, _, [] => none
  | 0, _, _ => none
  | fuel + 1, seen, t :: rest =>
      if seen.contains (t.state, t.progress.cursor.index) then explore a fuel seen rest
      else
        match a.code[t.state]? with
        | some .accept => some t.progress
        | some i =>
            explore a fuel (seen.insert (t.state, t.progress.cursor.index)) (i.follow t ++ rest)
        | none => explore a fuel seen rest

/-- The number of threads that there can be, if each instruction is followed once at each of so
many positions. -/
def threadBound (a : Automaton) (positions : Nat) : Nat :=
  1 + positions * a.code.foldl (fun n i => n + i.ways) 0

/-- The preferred match of all those that begin where `p` stands.  What the groups of the automaton
matched before is forgotten. -/
def run (a : Automaton) (p : Progress) : Option Progress :=
  a.explore (a.threadBound (p.cursor.rest.length + 1)) ∅
    [{ state := a.start, progress := p.without a.groups }]

end Automaton

end Host

end SchemaPattern
