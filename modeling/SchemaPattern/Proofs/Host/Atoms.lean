import SchemaPattern.Proofs.Host.Adding
import SchemaPattern.Proofs.Host.Class

/-!
# Reading atoms and quantifiers

The text of each kind of atom without a body of its own, and of each quantifier, is read back as
one node.
-/

namespace SchemaPattern

namespace Host

open CharSet

namespace Reader

section

variable {n m : Nat}

/-! ## Sets -/

theorem addsAtom_classText (ignoreCase : Bool) {c : CharClass}
    (h : ∀ e ∈ c.escapes, e.chars.Normal) (n : Nat) :
    AddsAtom (classText ignoreCase c) n n (.set (classSet ignoreCase c)) := by
  intro st hst
  rw [← hst.add_eq]
  exact reads_classText ignoreCase (hst.step_eq '[') hst.case h

theorem addsAtom_setText {s : CharSet} (h : s.Normal) (n : Nat) :
    AddsAtom (setText s) n n (.set s) := by
  intro st hst
  have hbegins : Begins st st [] := hst.step_eq '['
  have hread := reads_bracketed false hbegins hst.case h.ordered
  rw [bracketSet, if_neg Bool.false_ne_true, h.ofRanges_toList] at hread
  rw [← hst.add_eq]
  exact hread

def withinLine : CharSet := (ofRanges [.single '\r', .single '\n']).complement

theorem normal_withinLine : withinLine.Normal := normal_complement (normal_ofRanges _)

theorem mem_withinLine {x : Char} : x ∈ withinLine ↔ x ≠ '\n' ∧ x ≠ '\r' := by
  rw [withinLine, mem_complement (normal_ofRanges _), mem_ofRanges]
  constructor
  · intro h
    refine ⟨?_, ?_⟩
    · rintro rfl
      exact h ⟨.single '\n', by simp, mem_charRange_single.2 rfl⟩
    · rintro rfl
      exact h ⟨.single '\r', by simp, mem_charRange_single.2 rfl⟩
  · rintro ⟨hn, hr⟩ ⟨r, hmem, hx⟩
    simp only [List.mem_cons, List.not_mem_nil, or_false] at hmem
    rcases hmem with rfl | rfl
    · exact hr (mem_charRange_single.1 hx)
    · exact hn (mem_charRange_single.1 hx)

theorem addsAtom_withinLine (n : Nat) :
    AddsAtom (wildcardText false) n n (.set withinLine) := by
  intro st hst
  let k : OpenClass := { negative := true, ranges := [.single '\n'] }
  have hopen : Reads st ['[', '^', '\\', 'n', '\\', 'r'] (inClass st k [] (.char '\r')) :=
    .cons (hst.step_eq '[') (.cons rfl (.cons rfl (.cons rfl (.cons rfl (.single rfl)))))
  have hclose : step (inClass st k [] (.char '\r')) ']' = some (st.add (.set withinLine)) :=
    step_closeBracket k [] trivial hst.case
  rw [← hst.add_eq]
  exact hopen.append (.single hclose)

/-! ## Numbers -/

section

variable {st : State}

theorem reads_reference {index : Nat} (h : 0 < index) :
    Reads { st with mode := .escape } (Numeral.decimal index)
      { st with mode := .reference index } := by
  refine reads_digits (by decide) (fun k => { st with mode := .reference k }) ?_ ?_
  · intro d hd hpos
    have hdigit := decimalDigit?_digit hd
    have hx : Numeral.digit d ≠ 'x' := by
      intro heq
      rw [heq] at hdigit
      cases hdigit
    obtain ⟨e, rfl⟩ : ∃ e, d = e + 1 := ⟨d - 1, by have := hpos h; omega⟩
    simp only [step, hx, if_false, hdigit]
  · intro k d hd
    simp only [step, decimalDigit?_digit hd]

theorem reads_minimum (n : Nat) :
    Reads { st with mode := .minimum none } (Numeral.decimal n)
      { st with mode := .minimum (some n) } := by
  refine reads_digits (by decide) (fun k => { st with mode := .minimum (some k) }) ?_ ?_
  · intro d hd _
    simp [step, decimalDigit?_digit hd]
  · intro k d hd
    simp [step, decimalDigit?_digit hd]

theorem reads_maximum (min n : Nat) :
    Reads { st with mode := .maximum min none } (Numeral.decimal n)
      { st with mode := .maximum min (some n) } := by
  refine reads_digits (by decide) (fun k => { st with mode := .maximum min (some k) }) ?_ ?_
  · intro d hd _
    simp [step, decimalDigit?_digit hd]
  · intro k d hd
    simp [step, decimalDigit?_digit hd]

theorem reads_hex (n : Nat) :
    Reads { st with mode := .hex 0 } (Numeral.hex n) { st with mode := .hex n } := by
  refine reads_digits (by decide) (fun k => { st with mode := .hex k }) ?_ ?_
  · intro d hd _
    simp [step, digit_ne_brace hd, digitValue?_digit hd]
  · intro k d hd
    simp [step, digit_ne_brace hd, digitValue?_digit hd]

end

/-! ## Groups with flags -/

theorem normal_anyChar : anyChar.Normal := normal_complement normal_empty

theorem mem_anyChar {x : Char} : x ∈ anyChar := by
  rw [anyChar, mem_complement normal_empty, mem_iff_toList]
  rintro ⟨r, hr, -⟩
  cases hr

theorem addsAtom_anyChar (n : Nat) :
    AddsAtom (wildcardText true) n n (.group (.set anyChar)) := by
  intro st hst
  rw [← hst.eq_text]
  rfl

theorem addsAtom_border (atStart multiline : Bool) (n : Nat) :
    AddsAtom (borderText atStart multiline) n n (.group (.border atStart multiline)) := by
  intro st hst
  rw [← hst.eq_text]
  cases atStart <;> cases multiline <;> rfl

theorem addsAtom_reference (ignoreCase : Bool) {index : Nat} (h : 0 < index) (n : Nat) :
    AddsAtom (referenceText ignoreCase index) n n (.group (.reference index ignoreCase)) := by
  intro st hst
  let inner : State := st.openGroup false { st.scope with ignoreCase }
  have hopen : Reads st (if ignoreCase then "(?i:\\" else "(?:\\").toList
      { inner with mode := .escape } := by
    obtain ⟨mode, level, openGroups, count, ⟨_, multiline, dotAll⟩⟩ := st
    obtain ⟨hmode, hcase, -⟩ := hst
    simp only at hmode hcase
    subst hmode hcase
    cases ignoreCase <;> rfl
  -- The bracket behind the digits ends the number, whatever follows the reference.
  have hdigits : Reads { inner with mode := .escape } (Numeral.decimal index)
      { inner with mode := .reference index } := reads_reference h
  have hclose : step { inner with mode := .reference index } ')' =
      some (st.adding [.group (.reference index ignoreCase)] .atom n) := by
    rw [← hst.count]
    rfl
  exact (hopen.append hdigits).append (.single hclose)

/-! ## Literals -/

theorem variants_eq_single {ignoreCase : Bool} {c : Char}
    (h : (variants ignoreCase (.single c)).ranges.toList = [.single c]) :
    variants ignoreCase (.single c) = single c := by
  rw [← (normal_variants ignoreCase (.single c)).ofRanges_toList, h]
  rfl

theorem InText.addChar_eq {st : State} (hst : InText st n) (c : Char) :
    st.addChar c = st.adding [.set (single c)] .atom n := by
  rw [State.addChar, State.addSet, hst.case, if_neg Bool.false_ne_true, hst.add_eq]

theorem escaped?_operator {c : Char} (h : c ∈ operatorChars) :
    escaped? c = some c ∧ decimalDigit? c = none ∧ c ≠ 'x' := by
  have hall : operatorChars.all (fun d =>
      escaped? d = some d ∧ decimalDigit? d = none ∧ d ≠ 'x') = true := by decide
  exact of_decide_eq_true (List.all_eq_true.1 hall c h)

theorem text_plain {st : State} {c : Char} (h : c ∉ operatorChars) :
    text st c = some (st.addChar c) := by
  unfold text
  split <;> first | rfl | exact absurd (by decide) h

theorem reads_single {st : State} (hst : InText st n) (c : Char) :
    Reads st (if c ∈ operatorChars then ['\\', c]
      else if isControl c || isBlank c then hexEscape c else [c]) (st.addChar c) := by
  split
  · next hc =>
    obtain ⟨hescaped, hdigit, hx⟩ := escaped?_operator hc
    refine .cons (hst.step_eq '\\') (.single ?_)
    simp only [step, hx, if_false, hdigit, hescaped]
    rfl
  · next hc =>
    split
    · have hopen : Reads st ['\\', 'x', '{'] { st with mode := .hex 0 } :=
        .cons (hst.step_eq '\\') (.cons rfl (.single rfl))
      have hclose : step { st with mode := .hex c.toNat } '}' = some (st.addChar c) := by
        simp only [step, if_true, charOfNumber?_toNat]
        rfl
      exact hopen.append ((reads_hex c.toNat).append (.single hclose))
    · exact .single ((hst.step_eq c).trans (text_plain hc))

theorem addsAtom_literalText (ignoreCase : Bool) (c : Char) (n : Nat) :
    AddsAtom (literalText ignoreCase c) n n (.set (variants ignoreCase (.single c))) := by
  by_cases hsingle : (variants ignoreCase (.single c)).ranges.toList = [.single c]
  · intro st hst
    rw [variants_eq_single hsingle, ← hst.addChar_eq, literalText, if_neg (not_not.2 hsingle)]
    exact reads_single hst c
  · rw [literalText, if_pos hsingle]
    exact addsAtom_setText (normal_variants _ _) n

/-! ## Quantifiers -/

theorem AddsAtom.quantified {text : List Char} {node : Node} (h : AddsAtom text n m node)
    (q : Quantifier) :
    Adds (text ++ quantifierText q) n m [.repeated node q.min q.max q.lazy] := by
  intro st hst
  obtain ⟨min, max, lazy⟩ := q
  let atom := st.adding [node] .atom m
  let greedy := st.adding [.repeated node min max false] .quantifier m
  have hminimum : Reads atom ('{' :: Numeral.decimal min)
      { atom with mode := .minimum (some min) } :=
    .cons rfl (reads_minimum min)
  have hgreedy : Reads atom (quantifierText ⟨min, max, false⟩) greedy := by
    unfold quantifierText
    simp only [Bool.false_eq_true, if_false, List.append_nil]
    split
    · exact .single rfl
    · exact .single rfl
    · exact .single rfl
    · exact hminimum.append (.cons rfl (.single rfl))
    · next k _ =>
      split
      · next heq =>
        subst heq
        exact hminimum.append (.single rfl)
      · exact (hminimum.append (.cons rfl (reads_maximum min k))).append (.single rfl)
  cases lazy with
  | false => exact ⟨.quantifier, (h st hst).append hgreedy⟩
  | true =>
      -- Behind a lazy quantifier a further question mark has nothing to repeat.
      refine ⟨.nothing, (h st hst).append ?_⟩
      have hlazy : quantifierText ⟨min, max, true⟩ = quantifierText ⟨min, max, false⟩ ++ ['?'] := by
        simp [quantifierText]
      rw [hlazy]
      exact hgreedy.append (.single rfl)

end

end Reader

end Host

end SchemaPattern
