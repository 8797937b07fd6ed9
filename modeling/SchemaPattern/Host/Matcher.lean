import SchemaPattern.Host.Plan

/-!
# Matching

The host looks for the leftmost match: it takes the first alternative before the second, a greedy
quantifier takes as many copies as it can, a lazy one as few.  Where no automaton does it, it
backtracks: each construct is given what is to be matched behind it, and succeeds with the first of
its own ways from which that succeeds too.  What a reference takes is up to a rule.
-/

namespace SchemaPattern

namespace Host

/-! ## Repetition -/

/-- What is to be matched behind a construct. -/
abbrev Rest := Progress → Option Progress

abbrev Matcher := Progress → Rest → Option Progress

namespace Matcher

def times (m : Matcher) : Nat → Matcher
  | 0, p, k => k p
  | n + 1, p, k => m p fun p => times m n p k

/-- Between going on and stopping, the one that is preferred comes first. -/
def choose (lazy : Bool) (more stop : Unit → Option Progress) : Option Progress :=
  if lazy then (stop ()).orElse more else (more ()).orElse stop

def upTo (m : Matcher) (lazy : Bool) : Nat → Matcher
  | 0, p, k => k p
  | n + 1, p, k => choose lazy (fun _ => m p fun p => upTo m lazy n p k) fun _ => k p

/-- Up to so many copies, where one that takes no character is the last. -/
def untilEmpty (m : Matcher) (lazy : Bool) : Nat → Matcher
  | 0, p, k => k p
  | n + 1, p, k =>
      choose lazy
        (fun _ => m p fun q =>
          if q.cursor.index = p.cursor.index then k q else untilEmpty m lazy n q k)
        fun _ => k p

/-- Any number of copies.  All but the last one take a character, so there is at most one more than
there are characters left. -/
def zeroOrMore (m : Matcher) (lazy : Bool) : Matcher :=
  fun p k => untilEmpty m lazy (p.cursor.rest.length + 1) p k

def repeated (m : Matcher) (min : Nat) (max : Option Nat) (lazy : Bool) : Matcher :=
  fun p k =>
    times m min p fun p =>
      match max with
      | some max => upTo m lazy (max - min) p k
      | none => zeroOrMore m lazy p k

end Matcher

/-! ## Plans -/

namespace Plan

section

variable (rule : ReferenceRule)

mutual

def run : Plan → Matcher
  | automatic a, p, k => (a.run p).bind k
  | alternation branches, p, k => runAny branches p k
  | row items, p, k => runAll items p k
  | repeated item min max lazy, p, k => Matcher.repeated (run item) min max lazy p k
  | capture number body, p, k => run body p fun q => k (q.captured number p.cursor)
  | reference number ignoreCase, p, k =>
      match p.captures.lookup number with
      | none => none
      | some c => (rule ignoreCase p.cursor c.text).bind fun cur => k { p with cursor := cur }
  | border atStart multiline, p, k => if p.cursor.atBorder atStart multiline then k p else none
  | set chars, p, k =>
      match p.cursor.next? with
      | some (c, cur) => if chars.contains c then k { p with cursor := cur } else none
      | none => none

def runAll : List Plan → Matcher
  | [], p, k => k p
  | n :: rest, p, k => run n p fun p => runAll rest p k

def runAny : List Plan → Matcher
  | [], _, _ => none
  | n :: rest, p, k => (run n p k).orElse fun _ => runAny rest p k

end

def matchAt (n : Plan) (cur : Cursor) : Option Progress := run rule n ⟨cur, []⟩ some

/-- The first position from `index` on at which a match begins, and the match. -/
def findFrom (n : Plan) (index : Nat) (previous : Option Char) :
    List Char → Option (Cursor × Progress)
  | [] => (n.matchAt rule ⟨index, previous, []⟩).map fun p => (⟨index, previous, []⟩, p)
  | c :: rest =>
      match n.matchAt rule ⟨index, previous, c :: rest⟩ with
      | some p => some (⟨index, previous, c :: rest⟩, p)
      | none => n.findFrom (index + 1) (some c) rest

def find (n : Plan) (input : List Char) : Option (Cursor × Progress) := n.findFrom rule 0 none input

end

end Plan

end Host

end SchemaPattern
