import SchemaPattern.Unicode.Folding

/-!
# Positions in an input

Where a match stands, and what its groups have matched so far.
-/

namespace SchemaPattern

namespace Host

structure Cursor where
  index : Nat
  previous : Option Char
  rest : List Char
  deriving DecidableEq, Repr, Inhabited

structure Capture where
  start : Nat
  stop : Nat
  text : List Char
  deriving DecidableEq, Repr, Inhabited

structure Progress where
  cursor : Cursor
  /-- The captures by group number, later ones first. -/
  captures : List (Nat × Capture) := []
  deriving DecidableEq, Repr, Inhabited

def utf8Length (text : List Char) : Nat :=
  text.foldl (fun bytes c => bytes + c.utf8Size) 0

/-! ## Pieces that a reference takes -/

/-- The piece of so many bytes that a text begins with, unless a character goes beyond it. -/
def piece? : (bytes : Nat) → (text : List Char) → Option (List Char)
  | 0, _ => some []
  | _ + 1, [] => none
  | bytes + 1, c :: rest =>
      if c.utf8Size ≤ bytes + 1 then (piece? (bytes + 1 - c.utf8Size) rest).map (c :: ·) else none

def standsIn (text : List Char) : (piece : List Char) → Bool
  | [] => text.isEmpty
  | c :: rest => text.isPrefixOf (c :: rest) || standsIn text rest

/-- Whether a piece is taken for the text of a reference, which has as many bytes.  If case is
ignored, a piece of ASCII has to be that text in some case.  In any other piece the text in some
case may stand anywhere: variants of a character need not have as many bytes, and what is left over
can be any text. -/
def answers (ignoreCase : Bool) (text piece : List Char) : Bool :=
  piece == text ||
    (ignoreCase &&
      let text := text.map Unicode.fold
      let folded := piece.map Unicode.fold
      if piece.all fun c => c.utf8Size == 1 then folded == text else standsIn text folded)

/-! ## Positions -/

namespace Cursor

/-- The position behind the next character, if there is one. -/
def next? (cur : Cursor) : Option (Char × Cursor) :=
  match cur.rest with
  | [] => none
  | c :: rest => some (c, ⟨cur.index + 1, some c, rest⟩)

def upTo (cur later : Cursor) : Capture :=
  ⟨cur.index, later.index, cur.rest.take (later.index - cur.index)⟩

/-- At the beginning or else the end of the input or, if `multiline`, of a line. -/
def atBorder (cur : Cursor) (atStart multiline : Bool) : Bool :=
  let neighbour := if atStart then cur.previous else cur.rest.head?
  neighbour.isNone || (multiline && neighbour == some '\n')

/-- The position behind so many characters, as far as there are any. -/
def advance (cur : Cursor) : Nat → Cursor
  | 0 => cur
  | n + 1 =>
      match cur.next? with
      | some (_, later) => advance later n
      | none => cur

/-- The position behind the text of a reference: as many bytes are taken as that text has. -/
def skipReference (ignoreCase : Bool) (cur : Cursor) (text : List Char) : Option Cursor :=
  match piece? (utf8Length text) cur.rest with
  | some piece => if answers ignoreCase text piece then some (cur.advance piece.length) else none
  | none => none

end Cursor

/-- How a reference is matched: the position behind the text of its group, if that stands next. -/
abbrev ReferenceRule := (ignoreCase : Bool) → Cursor → (text : List Char) → Option Cursor

/-- The group `number` has matched the text from `start` on. -/
def Progress.captured (p : Progress) (number : Nat) (start : Cursor) : Progress :=
  { p with captures := (number, start.upTo p.cursor) :: p.captures }

def Progress.without (p : Progress) (groups : List Nat) : Progress :=
  { p with captures := p.captures.filter fun c => !groups.contains c.1 }

end Host

end SchemaPattern
