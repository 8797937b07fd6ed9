import SchemaPattern.Escape
import SchemaPattern.Location
import SchemaPattern.Quoted

/-!
# Tokens

A token stands for one to many characters of a pattern.  Characters and digits stand for
themselves, a single escape for the character it resolves to; a back-reference holds only its first
digit, since how many of the next digits belong to it depends on the groups before it.
-/

namespace SchemaPattern

inductive Token
  | char (c : Char)
  | digit (c : Char)
  | singleEscape (c : Char)
  | multiEscape (letter : Char)
  | categoryEscape (name : String) (negated : Bool)
  | backReference (firstDigit : Nat)
  | wildcard
  | lineStart
  | lineEnd
  | groupOpen
  | nonCapturingGroupOpen
  | groupClose
  | alternation
  | optional
  | zeroOrMore
  | oneOrMore
  | quantifierOpen
  | number (value : Nat)
  | comma
  | quantifierClose
  | classOpen
  | classClose
  | negation
  | subtract
  deriving DecidableEq, Repr, Inhabited

structure Lexeme where
  token : Token
  range : Location
  deriving DecidableEq, Repr, Inhabited

namespace Token

/-- The character that a token stands for inside a class. -/
def classChar? : Token → Option Char
  | char c | digit c | singleEscape c => some c
  | _ => none

def escapeName? : Token → Option EscapeName
  | multiEscape letter => some (.multi letter)
  | categoryEscape name negated => some (.category name negated)
  | _ => none

def startsAtom : Token → Bool
  | char _ | digit _ | singleEscape _ | multiEscape _ | categoryEscape .. | backReference _
  | wildcard | lineStart | lineEnd | classOpen | groupOpen | nonCapturingGroupOpen => true
  | _ => false

def text : Token → String
  | char c | digit c => inQuotes c
  | singleEscape c => "escaped char " ++ inQuotes c
  | multiEscape letter => "escape \"" ++ (EscapeName.multi letter).text ++ "\""
  | categoryEscape name negated =>
      "escape \"" ++ (EscapeName.category name negated).text ++ "\""
  | backReference n => "back-reference \"\\" ++ toString n ++ "\""
  | wildcard => "\".\""
  | lineStart => "\"^\""
  | lineEnd => "\"$\""
  | groupOpen => "\"(\""
  | nonCapturingGroupOpen => "\"(?:\""
  | groupClose => "\")\""
  | alternation => "\"|\""
  | optional => "\"?\""
  | zeroOrMore => "\"*\""
  | oneOrMore => "\"+\""
  | quantifierOpen => "\"\x7b\""
  | number value => "number " ++ toString value
  | comma => "\",\""
  | quantifierClose => "\"\x7d\""
  | classOpen => "\"[\""
  | classClose => "\"]\""
  | negation => "negation \"^\""
  | subtract => "subtraction \"-[\""

end Token

end SchemaPattern
