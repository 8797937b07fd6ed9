import SchemaPattern.CharSet
import SchemaPattern.Unicode.Letter
import SchemaPattern.Unicode.Mark
import SchemaPattern.Unicode.Number
import SchemaPattern.Unicode.Punctuation
import SchemaPattern.Unicode.Symbol
import SchemaPattern.Unicode.Other

/-!
# General categories

A name of one letter stands for all categories whose names begin with it.  The two separator
categories that hold a single character have no name of their own here, though `Z` holds both.
-/

namespace SchemaPattern.Unicode

def letter : List (Nat × Nat) :=
  uppercaseLetter ++ lowercaseLetter ++ titlecaseLetter ++ modifierLetter ++ otherLetter

def mark : List (Nat × Nat) := nonspacingMark ++ spacingMark ++ enclosingMark

def number : List (Nat × Nat) := decimalNumber ++ letterNumber ++ otherNumber

def punctuation : List (Nat × Nat) :=
  connectorPunctuation ++ dashPunctuation ++ openPunctuation ++ closePunctuation ++
  initialPunctuation ++ finalPunctuation ++ otherPunctuation

def separator : List (Nat × Nat) := spaceSeparator ++ lineSeparator ++ paragraphSeparator

def symbol : List (Nat × Nat) :=
  mathSymbol ++ currencySymbol ++ modifierSymbol ++ otherSymbol

/-- The characters that are in no other category. -/
def unassigned : CharSet :=
  (CharSet.ofSpans (letter ++ mark ++ number ++ punctuation ++ separator ++ symbol ++
    control ++ format ++ privateUse)).complement

def other : CharSet :=
  (CharSet.ofSpans (control ++ format ++ privateUse)).union unassigned

def categories : List (String × CharSet) :=
  [("L", .ofSpans letter), ("Lu", .ofSpans uppercaseLetter), ("Ll", .ofSpans lowercaseLetter),
   ("Lt", .ofSpans titlecaseLetter), ("Lm", .ofSpans modifierLetter), ("Lo", .ofSpans otherLetter),
   ("M", .ofSpans mark), ("Mn", .ofSpans nonspacingMark), ("Mc", .ofSpans spacingMark),
   ("Me", .ofSpans enclosingMark),
   ("N", .ofSpans number), ("Nd", .ofSpans decimalNumber), ("Nl", .ofSpans letterNumber),
   ("No", .ofSpans otherNumber),
   ("P", .ofSpans punctuation), ("Pc", .ofSpans connectorPunctuation),
   ("Pd", .ofSpans dashPunctuation), ("Ps", .ofSpans openPunctuation),
   ("Pe", .ofSpans closePunctuation), ("Pi", .ofSpans initialPunctuation),
   ("Pf", .ofSpans finalPunctuation), ("Po", .ofSpans otherPunctuation),
   ("Z", .ofSpans separator), ("Zs", .ofSpans spaceSeparator),
   ("S", .ofSpans symbol), ("Sm", .ofSpans mathSymbol), ("Sc", .ofSpans currencySymbol),
   ("Sk", .ofSpans modifierSymbol), ("So", .ofSpans otherSymbol),
   ("C", other), ("Cc", .ofSpans control), ("Cf", .ofSpans format), ("Co", .ofSpans privateUse),
   ("Cn", unassigned)]

end SchemaPattern.Unicode
