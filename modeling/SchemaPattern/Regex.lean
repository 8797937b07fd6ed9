import SchemaPattern.Compile
import SchemaPattern.Host.Matcher
import SchemaPattern.Host.Reader

/-!
# Matching with patterns

A compiled pattern that the host has read, ready to be searched for.  In literal mode the host
reads the text with every operator escaped, and ignores case by itself if it is to.
-/

namespace SchemaPattern

structure Regex where
  compiled : Compiled
  plan : Host.Plan
  groupCount : Nat
  deriving Repr, Inhabited

/-- A piece of an input, in bytes of its UTF-8 form. -/
structure Match where
  start : Nat
  stop : Nat
  text : String
  deriving DecidableEq, Repr, Inhabited

namespace Match

def byteOffset (input : List Char) (n : Nat) : Nat := Host.utf8Length (input.take n)

def ofCapture (input : List Char) (c : Host.Capture) : Match :=
  ⟨byteOffset input c.start, byteOffset input c.stop, String.ofList c.text⟩

end Match

namespace Regex

def hostPattern (c : Compiled) : List Char :=
  if c.isLiteral then Host.escapeText c.pattern.toList else c.pattern.toList

/-- The flags under which the host reads.  Outside of literal mode all variants of case are written
in the pattern. -/
def hostScope (c : Compiled) : Host.Reader.Scope where
  ignoreCase := c.isLiteral && c.flags.caseInsensitive
  multiline := c.flags.multiline
  dotAll := c.flags.dotAll

/-- A pattern that the host has read, with the number of groups in it.  In a pattern without
references the groups behind the last one that can be entered do not count. -/
def ofNode? (c : Compiled) (node : Host.Node) (groups : Nat) : Option Regex :=
  (node.plan? node.references true).map fun plan =>
    ⟨c, plan, if node.references.isEmpty then node.groups.foldl Nat.max 0 else groups⟩

def ofCompiled (c : Compiled) : Except Fault Regex :=
  match Host.read (hostScope c) (hostPattern c) with
  | none => .error (.host .unreadable)
  | some (node, groups) =>
      match ofNode? c node groups with
      | some r => .ok r
      | none => .error (.host .tooLarge)

def build (pattern modifiers : String) (extended : Bool) : Except Fault Regex := do
  ofCompiled (← compile pattern modifiers extended)

/-! ## Searching

The engine's own rule for references can be replaced by another one. -/

section

variable (rule : Host.ReferenceRule)

def capturesUnder? (r : Regex) (input : List Char) : Option (List (Option Host.Capture)) :=
  (r.plan.find rule input).map fun (start, p) =>
    some (start.upTo p.cursor) ::
      (List.range r.groupCount).map fun n => p.captures.lookup (n + 1)

def isMatchUnder (r : Regex) (input : String) : Bool := (r.plan.find rule input.toList).isSome

def findUnder (r : Regex) (input : String) : Option Match :=
  (r.plan.find rule input.toList).map fun (start, p) =>
    .ofCapture input.toList (start.upTo p.cursor)

/-- The leftmost match, followed by the text of each group that took part in it. -/
def capturesUnder (r : Regex) (input : String) : Option (List (Option Match)) :=
  (r.capturesUnder? rule input.toList).map fun groups =>
    groups.map (·.map (.ofCapture input.toList))

end

def isMatch : Regex → String → Bool := isMatchUnder Host.Cursor.skipReference

def find : Regex → String → Option Match := findUnder Host.Cursor.skipReference

def captures : Regex → String → Option (List (Option Match)) :=
  capturesUnder Host.Cursor.skipReference

end Regex

end SchemaPattern
