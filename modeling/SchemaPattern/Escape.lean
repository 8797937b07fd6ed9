import SchemaPattern.Unicode.Block
import SchemaPattern.Unicode.Category
import SchemaPattern.Unicode.NameChar

/-!
# Escapes that stand for a set of characters

`\s`, `\i`, `\c`, `\d`, `\w` and, in upper case, their complements; `\p` with the name of a general
category, or of a block after `Is`; and `\P` for the complement of that.
-/

namespace SchemaPattern

inductive EscapeName
  | multi (letter : Char)
  | category (name : String) (negated : Bool)
  deriving DecidableEq, Repr, Inhabited

namespace EscapeName

def text : EscapeName → String
  | multi letter => "\\" ++ letter.toString
  | category name negated =>
      (if negated then "\\P\x7b" else "\\p\x7b") ++ name ++ "\x7d"

/-! ## The table of escapes -/

def spaces : CharSet :=
  .ofRanges [.single ' ', .single '\t', .single '\n', .single '\r']

/-- All characters but those of the categories `P`, `Z` and `C`. -/
def wordChars : CharSet :=
  ((CharSet.ofSpans (Unicode.punctuation ++ Unicode.separator)).union Unicode.other).complement

/-- The sets of the letters in lower case. -/
def multiTable : List (Char × CharSet) :=
  [('s', spaces),
   ('i', .ofSpans Unicode.nameStart),
   ('c', .ofSpans (Unicode.nameStart ++ Unicode.nameFurther)),
   ('d', .ofSpans Unicode.decimalNumber),
   ('w', wordChars)]

/-- The sets of the categories and, after `Is`, of the blocks. -/
def categoryTable : List (String × CharSet) :=
  Unicode.categories ++
    Unicode.blocks.map fun b => ("Is" ++ b.1, .ofSpans b.2)

/-- The set that an escape stands for, if its name is known. -/
def chars? : EscapeName → Option CharSet
  | multi letter =>
      (multiTable.lookup letter.toLower).map fun s =>
        if letter.isUpper then s.complement else s
  | category name negated =>
      (categoryTable.lookup name).map fun s => if negated then s.complement else s

end EscapeName

structure Escape where
  name : EscapeName
  chars : CharSet
  deriving DecidableEq, Repr, Inhabited

end SchemaPattern
