import Mathlib.Data.List.Basic
import SchemaPattern.Flags

/-!
# The flags of modifiers

A flag is set if its letter is among the modifiers, wherever it stands and however often.
-/

namespace SchemaPattern

namespace Flags

def having (flags : Flags) (modifiers : List Char) : Flags where
  caseInsensitive := flags.caseInsensitive || modifiers.contains 'i'
  multiline := flags.multiline || modifiers.contains 'm'
  dotAll := flags.dotAll || modifiers.contains 's'
  literal := flags.literal || modifiers.contains 'q'
  stripWhitespace := flags.stripWhitespace || modifiers.contains 'x'
  extended := flags.extended

variable {flags flags' : Flags}

theorem having_nil (flags : Flags) : flags.having [] = flags := by
  simp [having]

theorem having_having (flags : Flags) (c : Char) (rest : List Char) :
    (flags.having [c]).having rest = flags.having (c :: rest) := by
  simp [having, Bool.or_assoc]

theorem eq_of_add {c : Char} (h : flags.add c = .ok flags') : flags' = flags.having [c] := by
  unfold add at h
  split at h
  case h_5 =>
      split at h
      · cases h
        simp [having]
      · cases h
  case h_6 => cases h
  all_goals
    cases h
    simp [having]

theorem eq_of_foldlM_add {modifiers : List Char} (h : modifiers.foldlM add flags = .ok flags') :
    flags' = flags.having modifiers := by
  induction modifiers generalizing flags with
  | nil =>
      cases h
      exact (having_nil flags').symm
  | cons c rest ih =>
      rw [List.foldlM_cons] at h
      cases hadd : add flags c with
      | error f =>
          rw [hadd] at h
          cases h
      | ok next =>
          rw [hadd] at h
          rw [ih h, eq_of_add hadd, having_having]

theorem eq_of_ofModifiers {modifiers : String} {extended : Bool}
    (h : ofModifiers modifiers extended = .ok flags) :
    flags = having { extended } modifiers.toList :=
  eq_of_foldlM_add h

end Flags

end SchemaPattern
