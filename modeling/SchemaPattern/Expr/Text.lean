import SchemaPattern.Expr
import SchemaPattern.Quoted

/-!
# A readable form of expressions

Branches are joined by two bars and pieces by commas; a quantifier is written as the name of what
it does, applied to its atom, and a group as parentheses, after the word `index` if it captures.
A branch of several pieces is put in parentheses where it stands in a disjunction, as a group that
does not capture would be.
-/

namespace SchemaPattern

def parenthesized (text : List Char) : List Char := '(' :: text ++ [')']

def EscapeName.chars (name : EscapeName) : List Char := name.text.toList

namespace ClassMember

def text : ClassMember → List Char
  | char c => quotedText c
  | range r => quotedText r.first ++ "..".toList ++ quotedText r.last
  | escape e => e.name.chars

end ClassMember

def joined (separator : List Char) (texts : List (List Char)) : List Char :=
  separator.intercalate texts

def CharGroup.text (g : CharGroup) : List Char :=
  (if g.negative then "![".toList else ['[']) ++
    joined ", ".toList (g.members.map ClassMember.text) ++ [']']

def CharClass.text : CharClass → List Char
  | group g => g.text
  | difference g subtrahend => parenthesized (g.text ++ " - ".toList ++ subtrahend.text)

namespace Quantifier

def name (q : Quantifier) : List Char :=
  (match q.min, q.max with
    | 0, some 1 => "optional"
    | 0, none => "zero_or_more"
    | 1, none => "one_or_more"
    | _, none => "at_least"
    | m, some n => if m = n then "repeat" else "repeat_range").toList ++
  if q.lazy then "_lazy".toList else []

/-- The numbers that a quantifier's name leaves open, each after a comma. -/
def arguments (q : Quantifier) : List Char :=
  match q.min, q.max with
  | 0, some 1 | 0, none | 1, none => []
  | m, none => ", ".toList ++ Numeral.decimal m
  | m, some n =>
      if m = n then ", ".toList ++ Numeral.decimal m
      else ", ".toList ++ Numeral.decimal m ++ ", ".toList ++ Numeral.decimal n

end Quantifier

namespace Expr

/-- An empty branch has a name, and one of several pieces parentheses. -/
def isRow : Expr → Bool
  | branch (_ :: _ :: _) => true
  | _ => false

mutual

def text : Expr → List Char
  | disjunction branches => joined " || ".toList (branchTexts branches)
  | branch [] => "empty".toList
  | branch (e :: rest) => joined ", ".toList (texts (e :: rest))
  | piece atom q => q.name ++ parenthesized (text atom ++ q.arguments)
  | group capturing body =>
      (if capturing then "index".toList else []) ++ parenthesized (text body)
  | backReference index => '^' :: Numeral.decimal index
  | literal c => quotedText c
  | wildcard dotAll => (if dotAll then "char_any_or_newline" else "char_any").toList
  | border atStart multiline =>
      ((if multiline then "line_" else "") ++ if atStart then "start" else "end").toList
  | charClass c => c.text
  | escape e => e.name.chars

def texts : List Expr → List (List Char)
  | [] => []
  | e :: rest => text e :: texts rest

def branchTexts : List Expr → List (List Char)
  | [] => []
  | e :: rest => (if e.isRow then parenthesized (text e) else text e) :: branchTexts rest

end

end Expr

end SchemaPattern
