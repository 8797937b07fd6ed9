/-!
# Sets of characters

A set is a list of ranges in normal form: ascending, each with its first character not above its
last, and no two of them touching.  The surrogate code points are no characters, so a span of code
points that runs across them becomes the range below and the range above.
-/

namespace SchemaPattern

/-- The characters from `first` to `last`, both included; none if `last` comes before `first`. -/
structure CharRange where
  first : Char
  last : Char
  deriving DecidableEq, Repr, Inhabited

namespace CharRange

def single (c : Char) : CharRange := ⟨c, c⟩

instance : Membership Char CharRange := ⟨fun r c => r.first ≤ c ∧ c ≤ r.last⟩

instance (c : Char) (r : CharRange) : Decidable (c ∈ r) :=
  inferInstanceAs (Decidable (_ ∧ _))

def span (r : CharRange) : Nat × Nat := (r.first.toNat, r.last.toNat)

end CharRange

structure CharSet where
  ranges : Array CharRange := #[]
  deriving DecidableEq, Repr, Inhabited

namespace CharSet

/-! ## Spans of code points -/

def maxCodePoint : Nat := 0x10FFFF
def firstSurrogate : Nat := 0xD800
def lastSurrogate : Nat := 0xDFFF

/-- Joins each span of an ascending list with those after it that overlap or touch it. -/
def joinTouching : List (Nat × Nat) → List (Nat × Nat)
  | [] => []
  | [s] => [s]
  | s :: t :: rest =>
      if t.1 ≤ s.2 + 1 then joinTouching ((s.1, max s.2 t.2) :: rest)
      else s :: joinTouching (t :: rest)
  termination_by spans => spans.length

/-- The characters of a span: the part below the surrogates and the part above them. -/
def characters (s : Nat × Nat) : List CharRange :=
  (if s.1 < firstSurrogate then
    [⟨Char.ofNat s.1, Char.ofNat (min s.2 (firstSurrogate - 1))⟩] else []) ++
  (if lastSurrogate < s.2 then
    [⟨Char.ofNat (max s.1 (lastSurrogate + 1)), Char.ofNat s.2⟩] else [])

def spanLE (s t : Nat × Nat) : Bool :=
  s.1 < t.1 || (s.1 == t.1 && s.2 ≤ t.2)

/-- The set of all characters in some of the spans, which may overlap, touch, or be empty. -/
def ofSpans (spans : List (Nat × Nat)) : CharSet :=
  let ascending := (spans.filter fun s => s.1 ≤ s.2).mergeSort spanLE
  ⟨((joinTouching ascending).flatMap characters).toArray⟩

/-- The set of all characters in some of the ranges, in any order and with any overlaps. -/
def ofRanges (ranges : List CharRange) : CharSet :=
  ofSpans (ranges.map CharRange.span)

/-! ## Set operations -/

def single (c : Char) : CharSet := ofRanges [.single c]

instance : EmptyCollection CharSet := ⟨⟨#[]⟩⟩

def isEmpty (s : CharSet) : Bool := s.ranges.isEmpty

def union (s t : CharSet) : CharSet :=
  ofRanges (s.ranges.toList ++ t.ranges.toList)

/-- The spans of code points between the ranges of an ascending list, from `start` on. -/
def gaps (start : Nat) : List CharRange → List (Nat × Nat)
  | [] => if start ≤ maxCodePoint then [(start, maxCodePoint)] else []
  | r :: rest =>
      if start < r.first.toNat then
        (start, r.first.toNat - 1) :: gaps (r.last.toNat + 1) rest
      else gaps (r.last.toNat + 1) rest

def complement (s : CharSet) : CharSet :=
  ⟨((gaps 0 s.ranges.toList).flatMap characters).toArray⟩

def inter (s t : CharSet) : CharSet :=
  (s.complement.union t.complement).complement

def size (s : CharSet) : Nat :=
  s.ranges.foldl (fun n r => n + (r.last.toNat + 1 - r.first.toNat)) 0

/-! ## Membership -/

instance : Membership Char CharSet := ⟨fun s c => ∃ r ∈ s.ranges, c ∈ r⟩

theorem mem_def {c : Char} {s : CharSet} : c ∈ s ↔ ∃ r ∈ s.ranges, c ∈ r := Iff.rfl

/-- Looks for `c` among the ranges `lo`, …, `hi - 1` by halving. -/
def search (ranges : Array CharRange) (c : Char) (lo hi : Nat) (h : hi ≤ ranges.size) : Bool :=
  if hlt : lo < hi then
    let mid := (lo + hi) / 2
    have hmid : mid < hi := by omega
    let r := ranges[mid]
    if r.last < c then search ranges c (mid + 1) hi h
    else if c < r.first then search ranges c lo mid (by omega)
    else true
  else false
  termination_by hi - lo

def contains (s : CharSet) (c : Char) : Bool :=
  search s.ranges c 0 s.ranges.size (Nat.le_refl _)

end CharSet

end SchemaPattern
