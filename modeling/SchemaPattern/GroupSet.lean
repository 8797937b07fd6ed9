/-!
# Sets of group numbers

A number is a bit in a row of words of 64 bits; the row grows when a number beyond its end is
added.
-/

namespace SchemaPattern

structure GroupSet where
  words : Array UInt64 := #[]
  deriving DecidableEq, Repr, Inhabited

namespace GroupSet

/-- The word that has only the bit of `index` set. -/
def bit (index : Nat) : UInt64 := 1 <<< UInt64.ofNat (index % 64)

/-- The words with zero words behind them up to `size` words in all. -/
def grow (words : Array UInt64) (size : Nat) : Array UInt64 :=
  words ++ Array.replicate (size - words.size) 0

def insert (s : GroupSet) (index : Nat) : GroupSet :=
  ⟨(grow s.words (index / 64 + 1)).modify (index / 64) (· ||| bit index)⟩

def contains (s : GroupSet) (index : Nat) : Bool :=
  match s.words[index / 64]? with
  | some word => word &&& bit index != 0
  | none => false

end GroupSet

end SchemaPattern
