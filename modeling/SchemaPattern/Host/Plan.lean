import SchemaPattern.Host.Automaton

/-!
# How a node is to be matched

An automaton cannot match references: what it takes for a group is not known before it has
accepted, and it does not come back for another way.  A node is bound if it is a reference, a group
that is referred to, or has one of these in it.  Bound nodes are matched by backtracking, and so is
what stands before a bound one, unless it takes as many characters in every way.  The rest is left
to automata, in a pattern without references the whole of it.
-/

namespace SchemaPattern

namespace Host

inductive Plan
  | automatic (a : Automaton)
  | alternation (branches : List Plan)
  | row (items : List Plan)
  | repeated (item : Plan) (min : Nat) (max : Option Nat) (lazy : Bool)
  | capture (number : Nat) (body : Plan)
  | reference (number : Nat) (ignoreCase : Bool)
  | border (atStart multiline : Bool)
  | set (chars : CharSet)
  deriving Repr, Inhabited

namespace Node

mutual

def references : Node → List Nat
  | alternation branches => referencesOfAll branches
  | row items => referencesOfAll items
  | repeated item _ _ _ => references item
  | capture _ body => references body
  | group body => references body
  | reference number _ => [number]
  | border _ _ | set _ => []

def referencesOfAll : List Node → List Nat
  | [] => []
  | n :: rest => references n ++ referencesOfAll rest

end

mutual

/-- Whether a node has a reference in it, or one of the groups that are referred to. -/
def isBound (referred : List Nat) : Node → Bool
  | alternation branches => isAnyBound referred branches
  | row items => isAnyBound referred items
  | repeated item _ _ _ => isBound referred item
  | capture number body => referred.contains number || isBound referred body
  | group body => isBound referred body
  | reference _ _ => true
  | border _ _ | set _ => false

def isAnyBound (referred : List Nat) : List Node → Bool
  | [] => false
  | n :: rest => isBound referred n || isAnyBound referred rest

end

def sizeLimit : Nat := 1000000

def automatic? (n : Node) : Option Plan :=
  if n.size < sizeLimit then some (.automatic (.ofNode n)) else none

/-- The automaton of items in a row, if there are any. -/
def automaticRow? : List Node → Option (List Plan)
  | [] => some []
  | items => (automatic? (ofItems items)).map ([·])

/-- The items at the front of a row that are one automaton: not bound and of a fixed extent. -/
def front (referred : List Nat) (items : List Node) : List Node :=
  items.takeWhile fun n => !n.isBound referred && n.extent.isFixed

/-- The items at the end of a row that are one automaton: not bound and, unless the row is the
last one, of a fixed extent. -/
def back (referred : List Nat) (last : Bool) (items : List Node) : List Node :=
  (items.reverse.takeWhile fun n => !n.isBound referred && (last || n.extent.isFixed)).reverse

mutual

/-- The plan of a node, if no automaton in it is too large.  If the node is `last`, nothing is to
be matched behind it; an optional item can be the last one, a copy of any other repetition
cannot. -/
def plan? (referred : List Nat) (last : Bool) (n : Node) : Option Plan :=
  if last && !isBound referred n then n.automatic?
  else
    match n with
    | alternation branches => (plans? referred last branches).map .alternation
    | row items =>
        let front := front referred items
        let others := items.drop front.length
        let back := back referred last others
        (plans? referred false items).bind fun each =>
          (automaticRow? front).bind fun atFront =>
            (automaticRow? back).map fun atBack =>
              let middle := (each.drop front.length).take (others.length - back.length)
              .row (atFront ++ middle ++ atBack)
    | repeated item min max lazy =>
        (plan? referred (last && min == 0 && max == some 1) item).map (.repeated · min max lazy)
    | capture number body => (plan? referred last body).map (.capture number)
    | group body => plan? referred last body
    | reference number ignoreCase => some (.reference number ignoreCase)
    | border atStart multiline => some (.border atStart multiline)
    | set chars => some (.set chars)

def plans? (referred : List Nat) (last : Bool) : List Node → Option (List Plan)
  | [] => some []
  | n :: rest =>
      (plan? referred last n).bind fun p => (plans? referred last rest).map (p :: ·)

end

end Node

end Host

end SchemaPattern
