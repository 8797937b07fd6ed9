import SchemaPattern.Compile
import SchemaPattern.Proofs.Bounded
import SchemaPattern.Proofs.Lexer.Spelling
import SchemaPattern.Proofs.Parser.Faults
import SchemaPattern.Proofs.Parser.Places

/-!
# The two dialects

The extended dialect adds to the other one.  Their lexers do the same up to the first `(?`, which
is a fault in the one dialect only.  A parser that does not meet this fault has not looked at what
stands in its place, so it does the same in both.
-/

namespace SchemaPattern

/-! ## Flags -/

/-- The same flags in one of the dialects. -/
def Flags.inDialect (flags : Flags) (extended : Bool) : Flags := { flags with extended }

namespace Flags

theorem add_inDialect (flags : Flags) (extended : Bool) {c : Char} (hc : c ≠ 'q') :
    (flags.inDialect extended).add c = (flags.add c).map (·.inDialect extended) := by
  unfold add
  split
  case h_5 => exact absurd rfl hc
  all_goals rfl

theorem foldlM_add_inDialect (flags : Flags) (extended : Bool) {modifiers : List Char}
    (hq : 'q' ∉ modifiers) :
    modifiers.foldlM add (flags.inDialect extended) =
      (modifiers.foldlM add flags).map (·.inDialect extended) := by
  induction modifiers generalizing flags with
  | nil => rfl
  | cons c rest ih =>
      obtain ⟨hc, hrest⟩ := not_or.1 (List.mem_cons.not.1 hq)
      rw [List.foldlM_cons, List.foldlM_cons, add_inDialect flags extended (Ne.symm hc)]
      cases flags.add c with
      | error f => rfl
      | ok next => exact ih next hrest

/-- Without the letter that belongs to the extended dialect, modifiers set the same flags in
both. -/
theorem ofModifiers_inDialect {modifiers : String} (hq : 'q' ∉ modifiers.toList) (extended : Bool) :
    ofModifiers modifiers extended = (ofModifiers modifiers false).map (·.inDialect extended) :=
  foldlM_add_inDialect {} extended hq

end Flags

/-! ## Lexing -/

namespace Lexer

theorem outside_inDialect (flags : Flags) (st : State) (c : Placed) (p1 p2 : Option Placed) :
    outside (flags.inDialect false) st c p1 p2 = outside (flags.inDialect true) st c p1 p2 ∨
      c.char = '(' ∧ p1.map Placed.char = some '?' ∧
        outside (flags.inDialect false) st c p1 p2 =
          fail st .groupNeedsExtended (c.place.withLength 2) := by
  by_cases hparen : c.char = '('
  · by_cases hmark : p1.map Placed.char = some '?'
    · right
      obtain ⟨⟨a, place⟩, rfl, rfl⟩ := Option.map_eq_some_iff.1 hmark
      refine ⟨hparen, rfl, ?_⟩
      unfold outside
      simp only [hparen]
      split
      · rfl
      · rfl
      · next hnone _ => exact absurd rfl (hnone place)
    · left
      have hcapturing (extended : Bool) : outside (flags.inDialect extended) st c p1 p2 =
          token 1 c.place c.place .groupOpen .outside := by
        unfold outside
        simp only [hparen]
        split <;> simp_all
      rw [hcapturing, hcapturing]
  · left
    unfold outside
    split <;> first | rfl | exact absurd ‹_› hparen

theorem between_inDialect (flags : Flags) (st : State) (c : Placed) (p1 p2 : Option Placed) :
    between (flags.inDialect false) st c p1 p2 = between (flags.inDialect true) st c p1 p2 ∨
      c.char = '(' ∧ p1.map Placed.char = some '?' ∧
        between (flags.inDialect false) st c p1 p2 =
          fail st .groupNeedsExtended (c.place.withLength 2) := by
  rcases outside_inDialect flags st c p1 p2 with hsame | ⟨hparen, hmark, hfail⟩
  · left
    simp only [between, hsame]
    rfl
  · cases hcontext : st.context with
    | charClass enclosing spot =>
        left
        simp only [between, hcontext]
    | quantifier =>
        left
        simp only [between, hcontext]
        rfl
    | outside =>
        right
        refine ⟨hparen, hmark, ?_⟩
        simp [between, hcontext, hparen, isBlank, hfail]

/-- The lexer does the same in both dialects, or it is before `(?` outside of classes. -/
theorem step_inDialect (flags : Flags) (st : State) (p0 p1 p2 : Option Placed) :
    step (flags.inDialect false) st p0 p1 p2 = step (flags.inDialect true) st p0 p1 p2 ∨
      ∃ c ∈ p0, c.char = '(' ∧ p1.map Placed.char = some '?' ∧
        step (flags.inDialect false) st p0 p1 p2 =
          fail st .groupNeedsExtended (c.place.withLength 2) := by
  cases hscan : st.scan with
  | ready =>
      cases p0 with
      | none =>
          left
          simp only [step, hscan]
      | some c =>
          simp only [step, hscan]
          rcases between_inDialect flags st c p1 p2 with hsame | hfail
          · exact .inl hsame
          · exact .inr ⟨c, rfl, hfail⟩
  | comment =>
      left
      cases p0 <;> simp only [step, hscan]
  | _ =>
      left
      simp only [step, hscan]

theorem fragment_of_row {n : Nat} {chars : List Placed} {pattern : List Char} {c : Placed}
    (hrow : InRow n chars) (htext : chars.map Placed.char = pattern.drop n)
    (hfirst : c ∈ chars[0]?) (length : Nat) :
    (c.place.withLength length).fragment pattern =
      (chars.map Placed.char).take (max length 1) := by
  obtain ⟨hindex, -⟩ := hrow 0 c hfirst
  rw [Location.fragment, htext]
  exact congrArg (fun k => (pattern.drop k).take _) hindex

theorem stepOn_inDialect (flags : Flags) (st : State) {n : Nat} {chars : List Placed}
    {pattern : List Char} (hrow : InRow n chars) (htext : chars.map Placed.char = pattern.drop n) :
    stepOn (flags.inDialect false) st chars = stepOn (flags.inDialect true) st chars ∨
      ∃ place, place.fragment pattern = ['(', '?'] ∧
        stepOn (flags.inDialect false) st chars = fail st .groupNeedsExtended place := by
  rcases step_inDialect flags st chars[0]? chars[1]? chars[2]? with
    hsame | ⟨c, hfirst, hparen, hmark, hfail⟩
  · exact .inl hsame
  · refine .inr ⟨_, ?_, hfail⟩
    rw [fragment_of_row hrow htext hfirst]
    match chars with
    | [] => cases hfirst
    | [_] => cases hmark
    | _ :: _ :: _ => simp_all

/-- The items are the same in both dialects, or they are the same up to the fault that `(?` is in
the one of them. -/
theorem itemsFrom_inDialect (flags : Flags) (st : State) {n : Nat} {chars : List Placed}
    {pattern : List Char} (hrow : InRow n chars) (htext : chars.map Placed.char = pattern.drop n) :
    itemsFrom (flags.inDialect false) st chars = itemsFrom (flags.inDialect true) st chars ∨
      ∃ its rest place, place.fragment pattern = ['(', '?'] ∧
        itemsFrom (flags.inDialect false) st chars =
          its ++ [.fault ⟨.groupNeedsExtended, place⟩] ∧
        itemsFrom (flags.inDialect true) st chars = its ++ rest := by
  have hdrop {chars : List Placed} {n : Nat} (htext : chars.map Placed.char = pattern.drop n)
      (count : Nat) : (chars.drop count).map Placed.char = pattern.drop (n + count) := by
    rw [List.map_drop, htext, List.drop_drop]
  induction st, chars using itemsFrom_induction (flags.inDialect true) generalizing n with
  | stop st chars hmove =>
      rcases stepOn_inDialect flags st hrow htext with hsame | ⟨place, hplace, hfail⟩
      · exact .inl ((itemsFrom_stop (hsame.trans hmove)).trans (itemsFrom_stop hmove).symm)
      · exact .inr ⟨[], _, place, hplace, itemsFrom_fail hfail, rfl⟩
  | emit st chars count item next hmove ih =>
      rcases stepOn_inDialect flags st hrow htext with hsame | ⟨place, hplace, hfail⟩
      · rw [itemsFrom_emit (hsame.trans hmove), itemsFrom_emit hmove]
        rcases ih (hrow.drop count) (hdrop htext count) with
          hitems | ⟨its, rest, place, hplace, hits, hrest⟩
        · exact .inl (congrArg _ hitems)
        · exact .inr ⟨item :: its, rest, place, hplace, congrArg _ hits, congrArg _ hrest⟩
      · exact .inr ⟨[], _, place, hplace, itemsFrom_fail hfail, rfl⟩
  | shift st chars count next hmove ih =>
      rcases stepOn_inDialect flags st hrow htext with hsame | ⟨place, hplace, hfail⟩
      · rw [itemsFrom_shift (hsame.trans hmove), itemsFrom_shift hmove]
        exact ih (hrow.drop count) (hdrop htext count)
      · exact .inr ⟨[], _, place, hplace, itemsFrom_fail hfail, rfl⟩

end Lexer

theorem patternItems_inDialect (flags : Flags) (pattern : String) :
    patternItems (flags.inDialect false) pattern = patternItems (flags.inDialect true) pattern ∨
      ∃ ls rest place, place.fragment pattern.toList = ['(', '?'] ∧
        patternItems (flags.inDialect false) pattern =
          Parser.items ls ++ [.fault ⟨.groupNeedsExtended, place⟩] ∧
        patternItems (flags.inDialect true) pattern = Parser.items ls ++ rest := by
  have hitems := Lexer.itemsFrom_inDialect flags {}
    (@inRow_placed .origin rfl pattern.toList) (map_char_placed .origin pattern.toList)
  rw [← patternItems_eq, ← patternItems_eq] at hitems
  refine hitems.imp_right ?_
  rintro ⟨its, rest, place, hplace, hfault, hrest⟩
  -- Behind a fault there is nothing, so all items before this one are lexemes.
  have horder := inOrder_patternItems (flags.inDialect false) pattern
  obtain ⟨ls, hls⟩ := horder.eq_of_fault (hfault ▸ List.mem_append_right its (.head _))
  obtain rfl : its = Parser.items ls := List.append_cancel_right (hfault.symm.trans hls)
  exact ⟨ls, rest, place, hplace, hfault, hrest⟩

/-! ## Parsing -/

theorem parseItems_inDialect (flags : Flags) (extended : Bool) (its : List Lexer.Item) :
    parseItems (flags.inDialect extended) its = parseItems flags its := by
  have hstep (st : Parser.State) (its : List Lexer.Item) :
      Parser.stepOn (flags.inDialect extended) st its = Parser.stepOn flags st its := rfl
  unfold parseItems
  generalize ({} : Parser.State) = st
  induction st, its using Parser.run_induction flags with
  | done st its e hmove => rw [Parser.run_done hmove, Parser.run_done ((hstep st its).trans hmove)]
  | fail st its f hmove => rw [Parser.run_fail hmove, Parser.run_fail ((hstep st its).trans hmove)]
  | shift st its count next hmove ih =>
      rw [Parser.run_shift hmove, Parser.run_shift ((hstep st its).trans hmove), ih]

/-- The fault that non-capturing groups are where they do not belong to the syntax. -/
def groupFault (place : Location) : Fault := .lexical ⟨.groupNeedsExtended, place⟩

theorem parsePattern_inDialect (flags : Flags) (pattern : String) :
    parsePattern (flags.inDialect false) pattern = parsePattern (flags.inDialect true) pattern ∨
      ∃ place, parsePattern (flags.inDialect false) pattern = .error (groupFault place) ∧
        place.fragment pattern.toList = ['(', '?'] := by
  rw [parsePattern_eq, parsePattern_eq, parseItems_inDialect, parseItems_inDialect]
  rcases patternItems_inDialect flags pattern with hitems | ⟨ls, rest, place, hplace, hfault, hrest⟩
  · exact .inl (congrArg _ hitems)
  · rw [hfault, hrest]
    rcases Parser.run_fault_or flags {} ls ⟨.groupNeedsExtended, place⟩ [] rest with hmet | hsame
    · exact .inr ⟨place, hmet, hplace⟩
    · exact .inl hsame

/-! ## Patterns and modifiers -/

/-- In literal mode a pattern is not read at all. -/
theorem parseWith_inDialect (flags : Flags) (pattern : String) :
    parseWith (flags.inDialect false) pattern = parseWith (flags.inDialect true) pattern ∧
        (compileWith (flags.inDialect false) pattern).map Compiled.pattern =
          (compileWith (flags.inDialect true) pattern).map Compiled.pattern ∨
      ∃ place, parseWith (flags.inDialect false) pattern = .error (groupFault place) ∧
        compileWith (flags.inDialect false) pattern = .error (groupFault place) ∧
        place.fragment pattern.toList = ['(', '?'] := by
  have hliteral (extended : Bool) : (flags.inDialect extended).literal = flags.literal := rfl
  have hcase (extended : Bool) :
      (flags.inDialect extended).caseInsensitive = flags.caseInsensitive := rfl
  unfold parseWith compileWith
  simp only [hliteral, hcase]
  split
  · exact .inl ⟨rfl, rfl⟩
  · rcases parsePattern_inDialect flags pattern with hsame | ⟨place, hfault, hplace⟩
    · rw [hsame]
      refine .inl ⟨rfl, ?_⟩
      cases parsePattern (flags.inDialect true) pattern <;> rfl
    · rw [hfault]
      exact .inr ⟨place, rfl, rfl, hplace⟩

theorem parse_inDialect {modifiers : String} (hq : 'q' ∉ modifiers.toList) (pattern : String)
    (extended : Bool) :
    parse pattern modifiers extended =
      (Flags.ofModifiers modifiers false).bind fun flags =>
        parseWith (flags.inDialect extended) pattern := by
  rw [parse, Flags.ofModifiers_inDialect hq extended]
  cases Flags.ofModifiers modifiers false <;> rfl

theorem compile_inDialect {modifiers : String} (hq : 'q' ∉ modifiers.toList) (pattern : String)
    (extended : Bool) :
    compile pattern modifiers extended =
      (Flags.ofModifiers modifiers false).bind fun flags =>
        compileWith (flags.inDialect extended) pattern := by
  rw [compile, Flags.ofModifiers_inDialect hq extended]
  cases Flags.ofModifiers modifiers false <;> rfl

/-- Both dialects read a pattern in the same way and compile it to the same text, or the narrower
one refuses it for a `(?`. -/
theorem extended_conservative (pattern modifiers : String) (hq : 'q' ∉ modifiers.toList) :
    (parse pattern modifiers false = parse pattern modifiers true ∧
        (compile pattern modifiers false).map Compiled.pattern =
          (compile pattern modifiers true).map Compiled.pattern ∨
      ∃ place, parse pattern modifiers false = .error (groupFault place) ∧
        compile pattern modifiers false = .error (groupFault place) ∧
        (groupFault place).report.fragment pattern = some "(?") ∧
      ∀ e, parse pattern modifiers false = .ok e → parse pattern modifiers true = .ok e := by
  have hparse := parse_inDialect hq pattern
  have hcompile := compile_inDialect hq pattern
  cases hflags : Flags.ofModifiers modifiers false with
  | error f =>
      rw [hflags] at hparse hcompile
      rw [hparse false, hparse true, hcompile false, hcompile true]
      exact ⟨.inl ⟨rfl, rfl⟩, fun e h => h⟩
  | ok flags =>
      simp only [hflags, Except.bind] at hparse hcompile
      rw [hparse false, hparse true, hcompile false, hcompile true]
      rcases parseWith_inDialect flags pattern with hsame | ⟨place, hfault, hcompiled, hplace⟩
      · exact ⟨.inl hsame, fun e h => hsame.1 ▸ h⟩
      · refine ⟨.inr ⟨place, hfault, hcompiled, ?_⟩, fun e h => ?_⟩
        · exact congrArg (fun text => some (String.ofList text)) hplace
        · rw [hfault] at h
          cases h

/-- What is wrong before the first `(?` is found in both dialects. -/
theorem extended_conservative_unmet :
    let f : Fault := .bounds 2 1 ⟨4, 0, 4, 1⟩ ⟨8, 0, 8, 1⟩
    'q' ∉ "i".toList ∧ parse "[(?]{2,1}(?:b)" "i" false = .error f ∧
      parse "[(?]{2,1}(?:b)" "i" true = .error f := by
  intro f
  have hq : 'q' ∉ "i".toList := by decide
  have hflags : Flags.ofModifiers "i" false = .ok { caseInsensitive := true } := rfl
  have hparse : parse "[(?]{2,1}(?:b)" "i" false = .error f := by
    rw [parse, hflags]
    exact @parsePattern_of_within 40 _ _ _ _ (@patternItems_of_within 40 _ _ _ rfl) rfl
  refine ⟨hq, hparse, ?_⟩
  obtain ⟨⟨hsame, -⟩ | ⟨place, hfault, -⟩, -⟩ := extended_conservative "[(?]{2,1}(?:b)" "i" hq
  · exact hsame.symm.trans hparse
  · have hsame : f = groupFault place := Except.error.inj (hparse.symm.trans hfault)
    simp [f, groupFault] at hsame

end SchemaPattern
