import SchemaPattern.Host.Text
import SchemaPattern.Parser.Run

/-!
# Compiling patterns

The pattern, its modifiers, and whether the extended syntax is meant, give an expression and a
pattern for the host.  In literal mode nothing is read into the pattern: the expression is the row
of its characters, and the host is to search for the text itself.
-/

namespace SchemaPattern

structure Compiled where
  /-- The host pattern, or in literal mode the text to search for. -/
  pattern : String
  flags : Flags
  deriving DecidableEq, Repr, Inhabited

def Compiled.isLiteral (c : Compiled) : Bool := c.flags.literal

def parseWith (flags : Flags) (pattern : String) : Except Fault Expr :=
  if flags.literal then .ok (.ofText pattern.toList) else parsePattern flags pattern

def parse (pattern modifiers : String) (extended : Bool) : Except Fault Expr := do
  let flags ← Flags.ofModifiers modifiers extended
  parseWith flags pattern

def compileWith (flags : Flags) (pattern : String) : Except Fault Compiled :=
  if flags.literal then .ok ⟨pattern, flags⟩
  else
    (parsePattern flags pattern).map fun e =>
      ⟨String.ofList (e.hostText flags.caseInsensitive), flags⟩

def compile (pattern modifiers : String) (extended : Bool) : Except Fault Compiled := do
  let flags ← Flags.ofModifiers modifiers extended
  compileWith flags pattern

end SchemaPattern
