import SchemaPattern.Fault

/-!
# Flags

Five flags are set by modifiers; the sixth, which the caller sets, selects the extended syntax.
-/

namespace SchemaPattern

structure Flags where
  caseInsensitive : Bool := false
  multiline : Bool := false
  dotAll : Bool := false
  literal : Bool := false
  stripWhitespace : Bool := false
  extended : Bool := false
  deriving DecidableEq, Repr, Inhabited

namespace Flags

/-- Sets the flag of one modifier. -/
def add (flags : Flags) (c : Char) : Except Fault Flags :=
  match c with
  | 'i' => .ok { flags with caseInsensitive := true }
  | 'm' => .ok { flags with multiline := true }
  | 's' => .ok { flags with dotAll := true }
  | 'x' => .ok { flags with stripWhitespace := true }
  | 'q' =>
      if flags.extended then .ok { flags with literal := true }
      else .error (.modifier c .needsExtended)
  | _ => .error (.modifier c .unknown)

/-- The flags of a string of modifiers, each of which may be repeated. -/
def ofModifiers (modifiers : String) (extended : Bool) : Except Fault Flags :=
  modifiers.toList.foldlM add { extended }

end Flags

end SchemaPattern
