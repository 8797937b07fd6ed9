/-!
# Places in a pattern

All fields count characters from zero.  A place of length zero is a position between characters.
-/

namespace SchemaPattern

structure Location where
  index : Nat
  line : Nat
  column : Nat
  length : Nat
  deriving DecidableEq, Repr, Inhabited

namespace Location

def position (index line column : Nat) : Location := ⟨index, line, column, 0⟩

def origin : Location := position 0 0 0

def withLength (l : Location) (length : Nat) : Location := { l with length }

/-- From the position `start` to the position `last`, the character at `last` included. -/
def through (start last : Location) : Location :=
  start.withLength (last.index - start.index + 1)

/-- From the beginning of `first` to the end of `last`. -/
def join (first last : Location) : Location :=
  first.withLength (last.index - first.index + last.length)

/-- The position behind a place; a position counts as the character that follows it. -/
def after (l : Location) : Location :=
  let width := max l.length 1
  position (l.index + width) l.line (l.column + width)

/-- The position that follows a character at position `l`. -/
def next (l : Location) (c : Char) : Location :=
  if c = '\n' then position (l.index + 1) (l.line + 1) 0
  else position (l.index + 1) l.line (l.column + 1)

theorem index_next (l : Location) (c : Char) : (l.next c).index = l.index + 1 := by
  unfold next
  split <;> rfl

theorem length_next (l : Location) (c : Char) : (l.next c).length = 0 := by
  unfold next
  split <;> rfl

theorem through_self (l : Location) : l.through l = l.withLength 1 := by
  rw [through, Nat.sub_self]

/-- The text at a place; a position stands for the character that follows it. -/
def fragment (l : Location) (pattern : List Char) : List Char :=
  (pattern.drop l.index).take (max l.length 1)

end Location

end SchemaPattern
