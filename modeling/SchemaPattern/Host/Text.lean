import SchemaPattern.Expr
import SchemaPattern.Numeral
import SchemaPattern.Unicode.Folding

/-!
# Host patterns

The text that the host engine is given for an expression.  What the two dialects read differently
is written so that the host's own flags do not matter: anchors and the dot carry their flags, a
back-reference is a group of its own so that no digit can join it, and every class and escape is a
class of plain ranges.  Under case-insensitive matching a character or a range stands for all its
case variants, an escape for its own characters only.
-/

namespace SchemaPattern

namespace Host

/-! ## Characters and classes -/

def hexEscape (c : Char) : List Char := '\\' :: 'x' :: '{' :: Numeral.hex c.toNat ++ ['}']

def classChar (c : Char) : List Char := if c.isAlphanum then [c] else hexEscape c

def rangeText (r : CharRange) : List Char :=
  if r.first = r.last then classChar r.first else classChar r.first ++ '-' :: classChar r.last

def setContent (s : CharSet) : List Char := s.ranges.toList.flatMap rangeText

def fullContent : List Char := rangeText ⟨'\x00', Char.ofNat 0x10FFFF⟩

/-- A class of ranges.  The host has no class without ranges, so the empty class is the complement
of the full one, and its complement the full one. -/
def bracketed (content : List Char) (negative : Bool) : List Char :=
  match content, negative with
  | [], false => "[^".toList ++ fullContent ++ [']']
  | [], true => '[' :: fullContent ++ [']']
  | content, false => '[' :: content ++ [']']
  | content, true => "[^".toList ++ content ++ [']']

def setText (s : CharSet) : List Char := bracketed (setContent s) false

/-- The characters of a range, and under `ignoreCase` all their variants. -/
def variants (ignoreCase : Bool) (r : CharRange) : CharSet :=
  let s := CharSet.ofRanges [r]
  if ignoreCase then s.caseFolded else s

def memberSet (ignoreCase : Bool) : ClassMember → CharSet
  | .char c => variants ignoreCase (.single c)
  | .range r => variants ignoreCase r
  | .escape e => e.chars

def groupText (ignoreCase : Bool) (g : CharGroup) : List Char :=
  bracketed (g.members.flatMap fun m => setContent (memberSet ignoreCase m)) g.negative

/-- A difference is the intersection with the complement. -/
def classText (ignoreCase : Bool) : CharClass → List Char
  | .group g => groupText ignoreCase g
  | .difference g subtrahend =>
      '[' :: groupText ignoreCase g ++ "&&[^".toList ++ classText ignoreCase subtrahend ++
        "]]".toList

/-! ## Literals and quantifiers -/

def operatorChars : List Char :=
  ['\\', '.', '+', '*', '?', '(', ')', '|', '[', ']', '{', '}', '^', '$']

def isControl (c : Char) : Bool := c.toNat < 0x20 || (0x7F ≤ c.toNat && c.toNat < 0xA0)

/-- Blank characters, the space left out. -/
def isBlank (c : Char) : Bool :=
  (9 ≤ c.toNat && c.toNat ≤ 13) || (0x2000 ≤ c.toNat && c.toNat ≤ 0x200A) ||
    [0x85, 0xA0, 0x1680, 0x2028, 0x2029, 0x202F, 0x205F, 0x3000].contains c.toNat

def literalText (ignoreCase : Bool) (c : Char) : List Char :=
  let s := variants ignoreCase (.single c)
  if s.ranges.toList ≠ [.single c] then setText s
  else if c ∈ operatorChars then ['\\', c]
  else if isControl c || isBlank c then hexEscape c
  else [c]

def quantifierText (q : Quantifier) : List Char :=
  (match q.min, q.max with
    | 0, some 1 => ['?']
    | 0, none => ['*']
    | 1, none => ['+']
    | m, none => '{' :: Numeral.decimal m ++ [',', '}']
    | m, some n =>
        if m = n then '{' :: Numeral.decimal m ++ ['}']
        else '{' :: Numeral.decimal m ++ ',' :: Numeral.decimal n ++ ['}']) ++
  if q.lazy then ['?'] else []

def borderText (atStart multiline : Bool) : List Char :=
  (if multiline then "(?m:" else "(?-m:").toList ++ [if atStart then '^' else '$', ')']

def wildcardText (dotAll : Bool) : List Char :=
  (if dotAll then "(?s:.)" else "[^\\n\\r]").toList

def referenceText (ignoreCase : Bool) (index : Nat) : List Char :=
  (if ignoreCase then "(?i:\\" else "(?:\\").toList ++ Numeral.decimal index ++ [')']

end Host

/-! ## Expressions -/

namespace Expr

mutual

def hostText (ignoreCase : Bool) : Expr → List Char
  | disjunction branches => hostBranches ignoreCase branches
  | branch pieces => hostRow ignoreCase pieces
  | piece atom q => hostText ignoreCase atom ++ Host.quantifierText q
  | group true body => '(' :: hostText ignoreCase body ++ [')']
  | group false body => "(?:".toList ++ hostText ignoreCase body ++ [')']
  | backReference index => Host.referenceText ignoreCase index
  | literal c => Host.literalText ignoreCase c
  | wildcard dotAll => Host.wildcardText dotAll
  | border atStart multiline => Host.borderText atStart multiline
  | charClass c => Host.classText ignoreCase c
  | escape e => Host.setText e.chars

def hostBranches (ignoreCase : Bool) : List Expr → List Char
  | [] => []
  | [e] => hostText ignoreCase e
  | e :: rest => hostText ignoreCase e ++ '|' :: hostBranches ignoreCase rest

def hostRow (ignoreCase : Bool) : List Expr → List Char
  | [] => []
  | e :: rest => hostText ignoreCase e ++ hostRow ignoreCase rest

end

end Expr

end SchemaPattern
