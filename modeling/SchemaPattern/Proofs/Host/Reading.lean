import SchemaPattern.Host.Reader
import SchemaPattern.Host.Text
import SchemaPattern.Proofs.CharSet.Normal

/-!
# Reading pieces of host text

The reader is run over a text piece by piece: a run over two texts in a row is a run over the first
and then one over the second.  Numbers and the characters of a class are read back here.
-/

namespace SchemaPattern

namespace Host

namespace Reader

/-! ## Runs of the reader -/

/-- The reader goes over the whole text without refusing it. -/
def Reads (st : State) (text : List Char) (after : State) : Prop :=
  text.foldlM step st = some after

theorem Reads.nil (st : State) : Reads st [] st := rfl

theorem Reads.cons {st next after : State} {c : Char} {text : List Char}
    (h : step st c = some next) (hrest : Reads next text after) : Reads st (c :: text) after := by
  rw [Reads, List.foldlM_cons, h]
  exact hrest

theorem Reads.single {st next : State} {c : Char} (h : step st c = some next) :
    Reads st [c] next :=
  .cons h (.nil next)

theorem Reads.append {st middle after : State} {text others : List Char}
    (h : Reads st text middle) (hrest : Reads middle others after) :
    Reads st (text ++ others) after := by
  rw [Reads, List.foldlM_append, h]
  exact hrest

/-- What is read from a state depends only on where the first character leads. -/
theorem Reads.of_step_eq {st other after : State} {c : Char} {text : List Char}
    (heq : step st c = step other c) (h : Reads other (c :: text) after) :
    Reads st (c :: text) after := by
  rw [Reads, List.foldlM_cons, heq]
  exact h

/-! ## Numbers -/

theorem digitValue?_digit {d : Nat} (h : d < 16) :
    Numeral.digitValue? (Numeral.digit d) = some d := by
  have hall : ∀ e ∈ List.range 16, Numeral.digitValue? (Numeral.digit e) = some e := by decide
  exact hall d (List.mem_range.2 h)

theorem decimalDigit?_digit {d : Nat} (h : d < 10) :
    decimalDigit? (Numeral.digit d) = some d := by
  have hall : ∀ e ∈ List.range 10, decimalDigit? (Numeral.digit e) = some e := by decide
  exact hall d (List.mem_range.2 h)

theorem digit_ne_brace {d : Nat} (h : d < 16) : Numeral.digit d ≠ '}' := by
  have hall : ∀ e ∈ List.range 16, Numeral.digit e ≠ '}' := by decide
  exact hall d (List.mem_range.2 h)

/-- A reader that takes in digits one by one ends with their number.  The first digit is zero only
if the number is. -/
theorem reads_digits {base n : Nat} (hbase : 2 ≤ base) {st : State} (value : Nat → State)
    (hfirst : ∀ d < base, (0 < n → 0 < d) → step st (Numeral.digit d) = some (value d))
    (hnext : ∀ m, ∀ d < base, step (value m) (Numeral.digit d) = some (value (base * m + d))) :
    Reads st (Numeral.digits base n) (value n) := by
  fun_induction Numeral.digits base n with
  | case1 n hsmall =>
      exact .single (hfirst n (by omega) id)
  | case2 n hlarge ih =>
      have hquotient : 0 < n / base := Nat.div_pos (by omega) (by omega)
      have hlast := hnext (n / base) (n % base) (Nat.mod_lt n (by omega))
      rw [Nat.div_add_mod] at hlast
      refine (ih ?_).append (.single hlast)
      intro d hd hpos
      exact hfirst d hd fun _ => hpos hquotient

/-! ## Characters of a class -/

/-- The first character of a range of which the last is still to come. -/
def Spot.low? : Spot → Option Char
  | .dash first => some first
  | _ => none

/-- Places in a class that are not within an escape or behind an ampersand. -/
def Spot.Plain : Spot → Prop
  | .start | .plain | .char _ | .dash _ => True
  | _ => False

def inClass (st : State) (k : OpenClass) (outer : List OpenClass) (spot : Spot) : State :=
  { st with mode := .charClass k outer spot }

section

variable {st after : State} {k : OpenClass} {outer : List OpenClass} {spot : Spot} {c : Char}

theorem charOfNumber?_toNat (c : Char) : charOfNumber? c.toNat = some c := by
  rw [charOfNumber?, if_pos (toNat_valid c), Char.ofNat_toNat]

theorem reads_hexDigits (low : Option Char) (n : Nat) :
    Reads (inClass st k outer (.hex low 0)) (Numeral.hex n)
      (inClass st k outer (.hex low n)) := by
  have hdigit : ∀ m, ∀ d < 16, step (inClass st k outer (.hex low m)) (Numeral.digit d) =
      some (inClass st k outer (.hex low (16 * m + d))) := by
    intro m d hd
    simp only [step, inClass, charClass, digit_ne_brace hd, if_false, digitValue?_digit hd,
      Option.map_some]
  refine reads_digits (by decide) (fun m => inClass st k outer (.hex low m)) ?_ hdigit
  intro d hd _
  simpa using hdigit 0 d hd

theorem step_backslash (hspot : spot.Plain) :
    step (inClass st k outer spot) '\\' =
      some (inClass st (k.flush spot) outer (.escape spot.low?)) := by
  cases spot <;> first | exact absurd hspot id | rfl

theorem isAlphanum_ne {d : Char} (h : c.isAlphanum = true) (hd : d.isAlphanum = false) :
    c ≠ d := by
  rintro rfl
  simp [h] at hd

theorem step_alphanum (hspot : spot.Plain) (hc : c.isAlphanum = true) :
    step (inClass st k outer spot) c = classUnit st (k.flush spot) outer spot.low? c := by
  have hplain : ∀ k spot, spot.Plain → classChar st k outer spot c =
      classUnit st (k.flush spot) outer spot.low? c := by
    intro k spot hspot
    have hoperators : c ≠ '\\' ∧ c ≠ '[' ∧ c ≠ ']' ∧ c ≠ '&' ∧ c ≠ '-' :=
      ⟨isAlphanum_ne hc (by decide), isAlphanum_ne hc (by decide), isAlphanum_ne hc (by decide),
        isAlphanum_ne hc (by decide), isAlphanum_ne hc (by decide)⟩
    cases spot with
    | start | plain | char _ | dash _ =>
        simp only [classChar, Spot.low?]
        split
        · exact absurd rfl hoperators.1
        · exact absurd rfl hoperators.2.1
        · exact absurd rfl hoperators.2.2.1
        · exact absurd rfl hoperators.2.2.2.1
        · exact absurd rfl hoperators.2.2.2.2
        · rfl
    | ampersand | escape _ | hexStart _ | hex _ _ => exact absurd hspot id
  have hcaret : c ≠ '^' := isAlphanum_ne hc (by decide)
  cases spot with
  | start =>
      simp only [step, inClass, charClass, hcaret, if_false]
      exact hplain k .plain trivial
  | plain | char _ | dash _ => exact hplain k _ hspot
  | ampersand | escape _ | hexStart _ | hex _ _ => exact absurd hspot id

/-- A character written for a class is read as that character, alone or as the last of a range. -/
theorem reads_classChar (hspot : spot.Plain)
    (h : classUnit st (k.flush spot) outer spot.low? c = some after) :
    Reads (inClass st k outer spot) (Host.classChar c) after := by
  unfold Host.classChar
  split
  · next hc => exact .single ((step_alphanum hspot hc).trans h)
  · have hclose : step (inClass st (k.flush spot) outer (.hex spot.low? c.toNat)) '}' =
        some after := by
      simp only [step, inClass, charClass, if_true, charOfNumber?_toNat]
      exact h
    exact .cons (step_backslash hspot) <| .cons rfl <| .cons rfl <|
      (reads_hexDigits _ _).append (.single hclose)

theorem classUnit_none : classUnit st k outer none c = some (inClass st k outer (.char c)) := rfl

theorem classUnit_some {first : Char} (h : first ≤ c) :
    classUnit st k outer (some first) c =
      some (inClass st { k with ranges := ⟨first, c⟩ :: k.ranges } outer .plain) := by
  simp only [classUnit, h, if_true]
  rfl

end

end Reader

end Host

end SchemaPattern
