import SchemaPattern.Token

/-!
# What can be wrong with a pattern

A fault is a cause and the place where it shows.  A report is what is said of it: its kind, a
message, and the piece of the pattern that it points to.
-/

namespace SchemaPattern

/-! ## Causes -/

inductive ModifierCause
  | unknown
  /-- The literal mode belongs to the extended syntax. -/
  | needsExtended
  deriving DecidableEq, Repr, Inhabited

inductive LexicalCause
  | unclosedClass
  | unclosedQuantifier
  | strayClassClose
  | strayQuantifierClose
  | unknownGroup
  | groupNeedsExtended
  | classInClass
  | quantifierChar (c : Char)
  | boundTooLarge (digits : String)
  | incompleteEscape
  | unknownEscape (c : Char)
  | backReferenceInClass
  | backReferenceToZero
  | categoryWithoutBrace
  | categoryChar (c : Char)
  | unclosedCategory
  | emptyCategory
  deriving DecidableEq, Repr, Inhabited

/-- What the grammar allows where something else was found. -/
inductive Expected
  | atom
  | piece
  | number
  | member
  | rangeEnd
  | groupClose
  | quantifierClose
  | classOpen
  | classClose
  deriving DecidableEq, Repr, Inhabited

/-- A lexical fault, after which a pattern has no more tokens. -/
structure LexicalFault where
  cause : LexicalCause
  place : Location
  deriving DecidableEq, Repr, Inhabited

inductive HostCause
  | unreadable
  /-- The repetitions in the pattern multiply to more than the engine takes. -/
  | tooLarge
  deriving DecidableEq, Repr, Inhabited

inductive Fault
  | modifier (c : Char) (cause : ModifierCause)
  | lexical (fault : LexicalFault)
  /-- The token at hand, or the end of the pattern, is none of what is expected. -/
  | grammar (found : Option Token) (expected : Expected) (place : Location)
  | bounds (min max : Nat) (first last : Location)
  | charRange (low high : Char) (first last : Location)
  | unknownEscape (name : EscapeName) (place : Location)
  /-- No group of this number is closed yet. -/
  | backReference (index : Nat) (first last : Location)
  | host (cause : HostCause)
  deriving DecidableEq, Repr, Inhabited

/-! ## Wording -/

def ModifierCause.message (c : Char) : ModifierCause → String
  | unknown => "Unrecognized modifier '" ++ c.toString ++ "'."
  | needsExtended => "Modifier '" ++ c.toString ++ "' requires the extended syntax."

def LexicalCause.message : LexicalCause → String
  | unclosedClass => "Incomplete char class, expect \"]\"."
  | unclosedQuantifier => "Incomplete quantifier, expect \"\x7d\"."
  | strayClassClose =>
      "Unexpected \"]\" outside of a char class, use \"\\]\" for the literal char."
  | strayQuantifierClose => "Unexpected \"\x7d\", use \"\\\x7d\" for the literal char."
  | unknownGroup => "Unsupported group, only \"(?:\" is allowed."
  | groupNeedsExtended => "Non-capturing groups require the extended syntax."
  | classInClass =>
      "Unexpected \"[\" in char class, use \"\\[\" for the literal char, " ++
      "or \"-[\" for subtraction."
  | quantifierChar c =>
      "Invalid char " ++ inQuotes c ++ " in quantifier, expect a number, \",\" or \"\x7d\"."
  | boundTooLarge digits => "Quantifier bound \"" ++ digits ++ "\" is too large."
  | incompleteEscape => "Incomplete escape sequence."
  | unknownEscape c => "Unknown escape sequence \"\\" ++ c.toString ++ "\"."
  | backReferenceInClass => "Back-references are not allowed in a char class."
  | backReferenceToZero => "Cannot back-reference group 0."
  | categoryWithoutBrace => "Missing the brace \"\x7b\" for category escape."
  | categoryChar c => "Invalid char " ++ inQuotes c ++ " in category escape."
  | unclosedCategory => "Incomplete category escape, expect \"\x7d\"."
  | emptyCategory => "Empty category escape name."

def HostCause.message : HostCause → String
  | unreadable => "The host cannot read the compiled pattern."
  | tooLarge => "The compiled pattern is too large."

def Expected.text : Expected → String
  | atom => "a char, a char class or a group"
  | piece => "a char, a char class, a group or \"|\""
  | number => "a number"
  | member => "a char, a char range or an escape"
  | rangeEnd => "a char or an escaped char"
  | groupClose => "closing parenthesis \")\""
  | quantifierClose => "closing brace \"\x7d\""
  | classOpen => "opening bracket \"[\""
  | classClose => "closing bracket \"]\""

/-! ## Reports -/

inductive FaultKind
  | modifier
  | lexical
  | grammar
  | quantifierRange
  | charRange
  | unknownEscape
  | backReference
  | host
  deriving DecidableEq, Repr, Inhabited

def FaultKind.text : FaultKind → String
  | modifier => "invalid modifier"
  | lexical => "invalid token"
  | grammar => "syntax error"
  | quantifierRange => "invalid quantifier"
  | charRange => "invalid character range"
  | unknownEscape => "unknown escape"
  | backReference => "invalid back-reference"
  | host => "host engine error"

inductive Subject
  | modifier (c : Char)
  | place (l : Location)
  | none
  deriving DecidableEq, Repr, Inhabited

structure Report where
  kind : FaultKind
  message : String
  subject : Subject
  deriving DecidableEq, Repr, Inhabited

namespace Report

def location (r : Report) : Option Location :=
  match r.subject with
  | .place l => some l
  | _ => none

/-- The offending modifier, or the offending text of the pattern. -/
def fragment (r : Report) (pattern : String) : Option String :=
  match r.subject with
  | .modifier c => some c.toString
  | .place l => some (String.ofList (l.fragment pattern.toList))
  | .none => none

def text (r : Report) : String :=
  r.kind.text ++ ": " ++ r.message ++
    match r.location with
    | some l => " at char " ++ toString l.index
    | none => ""

end Report

namespace Fault

def kind : Fault → FaultKind
  | modifier .. => .modifier
  | lexical _ => .lexical
  | grammar .. => .grammar
  | bounds .. => .quantifierRange
  | charRange .. => .charRange
  | unknownEscape .. => .unknownEscape
  | backReference .. => .backReference
  | host _ => .host

def message : Fault → String
  | modifier c cause => cause.message c
  | lexical fault => fault.cause.message
  | grammar (some token) expected _ =>
      "Unexpected " ++ token.text ++ ", expect " ++ expected.text ++ "."
  | grammar none expected _ => "Unexpected end of pattern, expect " ++ expected.text ++ "."
  | bounds min max _ _ =>
      "Illegal quantifier, lower > upper bound: \x7b" ++ toString min ++ "," ++ toString max ++
      "\x7d."
  | charRange low high _ _ =>
      "Illegal range, lower > upper bound: " ++ inQuotes low ++ "-" ++ inQuotes high ++ "."
  | unknownEscape name _ => "Unknown escape: " ++ name.text ++ "."
  | backReference index _ _ => "Illegal back-reference: \\" ++ toString index ++ "."
  | host cause => cause.message

def subject : Fault → Subject
  | modifier c _ => .modifier c
  | lexical fault => .place fault.place
  | grammar _ _ place | unknownEscape _ place => .place place
  | bounds _ _ first last | charRange _ _ first last | backReference _ first last =>
      .place (first.join last)
  | host _ => .none

def report (f : Fault) : Report := ⟨f.kind, f.message, f.subject⟩

end Fault

end SchemaPattern
