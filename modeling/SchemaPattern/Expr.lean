import SchemaPattern.Escape

/-!
# Pattern expressions

The tree of a pattern.  A disjunction has two or more branches; a branch stands for pieces in a
row and is left out around a single piece, so an empty branch matches the empty string.
-/

namespace SchemaPattern

/-- From `min` to `max` repetitions, without an upper bound if `max` is `none`. -/
structure Quantifier where
  min : Nat
  max : Option Nat
  lazy : Bool := false
  deriving DecidableEq, Repr, Inhabited

/-! ## Character classes -/

inductive ClassMember
  | char (c : Char)
  | range (r : CharRange)
  | escape (e : Escape)
  deriving DecidableEq, Repr, Inhabited

structure CharGroup where
  negative : Bool
  members : List ClassMember
  deriving DecidableEq, Repr, Inhabited

/-- A group of characters, or a group without the characters of another class. -/
inductive CharClass
  | group (g : CharGroup)
  | difference (g : CharGroup) (subtrahend : CharClass)
  deriving DecidableEq, Repr, Inhabited

/-! ## Expressions -/

inductive Expr
  | disjunction (branches : List Expr)
  | branch (pieces : List Expr)
  | piece (atom : Expr) (quantifier : Quantifier)
  | group (capturing : Bool) (body : Expr)
  | backReference (index : Nat)
  | literal (c : Char)
  | wildcard (dotAll : Bool)
  | border (atStart multiline : Bool)
  | charClass (c : CharClass)
  | escape (e : Escape)
  deriving Repr, Inhabited

namespace Expr

def ofPieces : List Expr → Expr
  | [e] => e
  | pieces => branch pieces

def ofBranches : List Expr → Expr
  | [e] => e
  | branches => disjunction branches

def ofText (text : List Char) : Expr := ofPieces (text.map literal)

end Expr

/-! ## The escapes of a tree -/

def ClassMember.escape? : ClassMember → Option Escape
  | escape e => some e
  | _ => none

def CharGroup.escapes (g : CharGroup) : List Escape := g.members.filterMap ClassMember.escape?

/-- The escapes of a class, those of the group before those of its subtrahend. -/
def CharClass.escapes : CharClass → List Escape
  | group g => g.escapes
  | difference g subtrahend => g.escapes ++ subtrahend.escapes

namespace Expr

mutual

def escapes : Expr → List Escape
  | disjunction branches => escapesOfAll branches
  | branch pieces => escapesOfAll pieces
  | piece atom _ => escapes atom
  | group _ body => escapes body
  | charClass c => c.escapes
  | escape e => [e]
  | backReference _ | literal _ | wildcard _ | border _ _ => []

def escapesOfAll : List Expr → List Escape
  | [] => []
  | e :: rest => escapes e ++ escapesOfAll rest

end

end Expr

end SchemaPattern
