import SchemaPattern.CharSet

/-!
# What a host pattern means

The tree that the host engine reads from a pattern.  All flags have been applied: a set holds every
case variant that it stands for, a border says whether it is one of lines, and a reference whether
it compares by case.
-/

namespace SchemaPattern

namespace Host

inductive Node
  | alternation (branches : List Node)
  | row (items : List Node)
  | repeated (item : Node) (min : Nat) (max : Option Nat) (lazy : Bool)
  | capture (number : Nat) (body : Node)
  | group (body : Node)
  | reference (number : Nat) (ignoreCase : Bool)
  | border (atStart multiline : Bool)
  | set (chars : CharSet)
  deriving Repr, Inhabited

namespace Node

def ofItems : List Node → Node
  | [n] => n
  | items => row items

def ofBranches : List Node → Node
  | [n] => n
  | branches => alternation branches

end Node

/-! ## Extents -/

/-- How many characters a node takes: no fewer than `least` and, if there is a bound, no more than
`greatest`. -/
structure Extent where
  least : Nat
  greatest : Option Nat
  deriving DecidableEq, Repr, Inhabited

namespace Extent

def nothing : Extent := ⟨0, some 0⟩

def add (e f : Extent) : Extent :=
  ⟨e.least + f.least, e.greatest.bind fun m => f.greatest.map (m + ·)⟩

def either (e f : Extent) : Extent :=
  ⟨Nat.min e.least f.least, e.greatest.bind fun m => f.greatest.map (Nat.max m ·)⟩

def isNothing (e : Extent) : Bool := e.greatest == some 0

def isFixed (e : Extent) : Bool := e.greatest == some e.least

/-- The bounds that matter for a repetition: where nothing is taken, more than one copy is as good
as one. -/
def bounds (e : Extent) (min : Nat) (max : Option Nat) : Nat × Option Nat :=
  if e.isNothing then (Nat.min min 1, some (Nat.min (max.getD 1) 1)) else (min, max)

def times (e : Extent) (min : Nat) (max : Option Nat) : Extent :=
  match e.bounds min max with
  | (_, some 0) => nothing
  | (min, max) => ⟨min * e.least, max.bind fun m => e.greatest.map (m * ·)⟩

end Extent

namespace Node

mutual

def extent : Node → Extent
  | alternation branches => extentOfEither branches
  | row items => extentOfRow items
  | repeated item min max _ => (extent item).times min max
  | capture _ body => extent body
  | group body => extent body
  | reference _ _ => ⟨0, none⟩
  | border _ _ => .nothing
  | set _ => ⟨1, some 1⟩

def extentOfRow : List Node → Extent
  | [] => .nothing
  | n :: rest => (extent n).add (extentOfRow rest)

def extentOfEither : List Node → Extent
  | [] => .nothing
  | [n] => extent n
  | n :: rest => (extent n).either (extentOfEither rest)

end

/-! ## Size -/

mutual

/-- The largest product of the copies of repetitions inside one another. -/
def size : Node → Nat
  | alternation branches => largest branches
  | row items => largest items
  | repeated item min max _ =>
      match (extent item).bounds min max with
      | (_, some 0) => 1
      | (min, max) => Nat.max 1 (max.getD min) * size item
  | capture _ body => size body
  | group body => size body
  | reference _ _ | border _ _ | set _ => 1

def largest : List Node → Nat
  | [] => 1
  | n :: rest => Nat.max (size n) (largest rest)

end

/-! ## Groups -/

mutual

/-- The numbers of the groups that a match can enter; it does not enter the item of a repetition
that has no copies. -/
def groups : Node → List Nat
  | alternation branches => groupsOfAll branches
  | row items => groupsOfAll items
  | repeated item _ max _ => if max = some 0 then [] else groups item
  | capture number body => number :: groups body
  | group body => groups body
  | reference _ _ | border _ _ | set _ => []

def groupsOfAll : List Node → List Nat
  | [] => []
  | n :: rest => groups n ++ groupsOfAll rest

end

end Node

end Host

end SchemaPattern
