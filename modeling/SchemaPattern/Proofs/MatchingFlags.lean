import SchemaPattern.Proofs.Bounded
import SchemaPattern.Proofs.LiteralMode

/-!
# Flags for matching

Three of the modifiers are there for the search.  One of them leaves no trace in an expression; the
other two are kept by its wildcards and by its borders.  None of them has a say in what the lexer
and the parser accept, or in the fault with which they stop: the parser goes through the same steps
whatever these flags are, and its states differ in the wildcards and borders read so far.
-/

namespace SchemaPattern

/-! ## Expressions under other flags -/

namespace Expr

mutual

/-- The expression as it is read under these flags. -/
def flagged (dotAll multiline : Bool) : Expr → Expr
  | disjunction branches => disjunction (flaggedAll dotAll multiline branches)
  | branch pieces => branch (flaggedAll dotAll multiline pieces)
  | piece atom q => piece (flagged dotAll multiline atom) q
  | group capturing body => group capturing (flagged dotAll multiline body)
  | backReference index => backReference index
  | literal c => literal c
  | wildcard _ => wildcard dotAll
  | border atStart _ => border atStart multiline
  | charClass c => charClass c
  | escape e => escape e

def flaggedAll (dotAll multiline : Bool) : List Expr → List Expr
  | [] => []
  | e :: rest => flagged dotAll multiline e :: flaggedAll dotAll multiline rest

end

section

variable (dotAll multiline : Bool)

theorem flaggedAll_eq_map (es : List Expr) :
    flaggedAll dotAll multiline es = es.map (flagged dotAll multiline) := by
  induction es with
  | nil => simp [flaggedAll]
  | cons e es ih => simp [flaggedAll, ih]

mutual

/-- Of two settings the last one stays. -/
theorem flagged_flagged (dotAll' multiline' : Bool) :
    ∀ e : Expr, (e.flagged dotAll' multiline').flagged dotAll multiline =
      e.flagged dotAll multiline
  | disjunction branches => by simp [flagged, flaggedAll_flaggedAll dotAll' multiline' branches]
  | branch pieces => by simp [flagged, flaggedAll_flaggedAll dotAll' multiline' pieces]
  | piece atom _ => by simp [flagged, flagged_flagged dotAll' multiline' atom]
  | group _ body => by simp [flagged, flagged_flagged dotAll' multiline' body]
  | backReference _ | literal _ | wildcard _ | border _ _ | charClass _ | escape _ => by
      simp [flagged]

theorem flaggedAll_flaggedAll (dotAll' multiline' : Bool) :
    ∀ es : List Expr, flaggedAll dotAll multiline (flaggedAll dotAll' multiline' es) =
      flaggedAll dotAll multiline es
  | [] => by simp [flaggedAll]
  | e :: rest => by
      simp [flaggedAll, flagged_flagged dotAll' multiline' e,
        flaggedAll_flaggedAll dotAll' multiline' rest]

end

@[simp] theorem flagged_ofPieces (pieces : List Expr) :
    (ofPieces pieces).flagged dotAll multiline =
      ofPieces (pieces.map (flagged dotAll multiline)) := by
  rcases pieces with _ | ⟨e, _ | ⟨e', rest⟩⟩ <;> simp [ofPieces, flagged, flaggedAll_eq_map]

@[simp] theorem flagged_ofBranches (branches : List Expr) :
    (ofBranches branches).flagged dotAll multiline =
      ofBranches (branches.map (flagged dotAll multiline)) := by
  rcases branches with _ | ⟨e, _ | ⟨e', rest⟩⟩ <;> simp [ofBranches, flagged, flaggedAll_eq_map]

end

end Expr

/-! ## Steps of the parser under other flags -/

namespace Parser

open Lexer (Item)

def Level.flagged (dotAll multiline : Bool) (level : Level) : Level :=
  ⟨level.branches.map (.flagged dotAll multiline), level.pieces.map (.flagged dotAll multiline)⟩

def OpenGroup.flagged (dotAll multiline : Bool) (g : OpenGroup) : OpenGroup :=
  { g with outer := g.outer.flagged dotAll multiline }

def Mode.flagged (dotAll multiline : Bool) : Mode → Mode
  | branch => branch
  | atom => atom
  | quantifier e => quantifier (e.flagged dotAll multiline)
  | minimum e start => minimum (e.flagged dotAll multiline) start
  | comma e start min => comma (e.flagged dotAll multiline) start min
  | maximum e start min => maximum (e.flagged dotAll multiline) start min
  | closingBrace e q => closingBrace (e.flagged dotAll multiline) q
  | lazyMark e q => lazyMark (e.flagged dotAll multiline) q
  | reference index start => reference index start
  | members k => members k
  | rangeEnd k low start => rangeEnd k low start
  | closing c outer => closing c outer

def State.flagged (dotAll multiline : Bool) (st : State) : State :=
  { st with
    mode := st.mode.flagged dotAll multiline
    level := st.level.flagged dotAll multiline
    openGroups := st.openGroups.map (.flagged dotAll multiline) }

def Move.flagged (dotAll multiline : Bool) : Move → Move
  | shift count next => shift count (next.flagged dotAll multiline)
  | done e => done (e.flagged dotAll multiline)
  | fail f => fail f

section

variable (dotAll multiline : Bool) (st : State)

@[simp] theorem flagged_close (level : Level) :
    (level.flagged dotAll multiline).close = level.close.flagged dotAll multiline := by
  simp [Level.close, Level.flagged, Level.currentBranch]

@[simp] theorem flagged_unexpected (p : Option Item) (place : Location) (expected : Expected) :
    (unexpected p place expected).flagged dotAll multiline = unexpected p place expected := by
  rcases p with _ | (_ | _) <;> simp [unexpected, Move.flagged]

theorem groups_flagged : (st.flagged dotAll multiline).groups = st.groups := rfl

theorem flagged_add (level : Level) (e : Expr) :
    (level.add e).flagged dotAll multiline =
      (level.flagged dotAll multiline).add (e.flagged dotAll multiline) := by
  simp [Level.add, Level.flagged]

theorem flagged_nextBranch (level : Level) :
    level.nextBranch.flagged dotAll multiline = (level.flagged dotAll multiline).nextBranch := by
  simp [Level.nextBranch, Level.flagged, Level.currentBranch]

theorem flagged_closeGroup (g : OpenGroup) (outer : List OpenGroup) :
    (st.closeGroup g outer).flagged dotAll multiline =
      (st.flagged dotAll multiline).closeGroup (g.flagged dotAll multiline)
        (outer.map (.flagged dotAll multiline)) := by
  simp [State.closeGroup, State.flagged, Mode.flagged, Expr.flagged, OpenGroup.flagged]

theorem branch_flagged (p0 : Option Item) :
    branch (st.flagged dotAll multiline) p0 = (branch st p0).flagged dotAll multiline := by
  obtain ⟨mode, level, openGroups, groups, last⟩ := st
  match p0, openGroups with
  | some (.fault f), _ => rfl
  | none, [] => simp [branch, State.flagged, Move.flagged]
  | none, g :: outer => rfl
  | some (.lexeme ⟨t, range⟩), [] =>
      cases t with
      | alternation => simp [branch, take, State.flagged, Move.flagged, flagged_nextBranch]
      | _ => rfl
  | some (.lexeme ⟨t, range⟩), g :: outer =>
      cases t with
      | alternation => simp [branch, take, State.flagged, Move.flagged, flagged_nextBranch]
      | groupClose =>
          have hclose := flagged_closeGroup dotAll multiline
            ⟨mode, level, g :: outer, groups, range⟩ g outer
          exact congrArg (Move.shift 1) hclose.symm
      | _ => rfl

theorem takeEscape_flagged (range : Location) (name : EscapeName) {next : Escape → State → State}
    (hnext : ∀ e st, next e (State.flagged dotAll multiline st) =
      (next e st).flagged dotAll multiline) :
    takeEscape (st.flagged dotAll multiline) range name next =
      (takeEscape st range name next).flagged dotAll multiline := by
  unfold takeEscape
  cases name.chars? with
  | none => rfl
  | some chars => exact congrArg (Move.shift 1) (hnext ⟨name, chars⟩ { st with last := range })

theorem openClass_flagged (range : Location) (p1 : Option Item) :
    openClass (st.flagged dotAll multiline) range p1 =
      (openClass st range p1).flagged dotAll multiline := by
  unfold openClass
  split <;> rfl

/-- The atoms that are read are those of the flags at hand. -/
theorem atom_flagged (flags flags' : Flags) (p0 p1 : Option Item) :
    atom flags' (st.flagged flags'.dotAll flags'.multiline) p0 p1 =
      (atom flags st p0 p1).flagged flags'.dotAll flags'.multiline := by
  match p0 with
  | none => rfl
  | some (.fault f) => rfl
  | some (.lexeme ⟨t, range⟩) =>
      have hescape (name : EscapeName) := @takeEscape_flagged flags'.dotAll flags'.multiline st range
        name (fun e st => st.withAtom (.escape e)) fun _ _ => rfl
      cases t with
      | multiEscape letter => exact hescape (.multi letter)
      | categoryEscape name negated => exact hescape (.category name negated)
      | classOpen => exact openClass_flagged flags'.dotAll flags'.multiline st range p1
      | _ => rfl

theorem quantifier_flagged (e : Expr) (p0 : Option Item) :
    quantifier (st.flagged dotAll multiline) (e.flagged dotAll multiline) p0 =
      (quantifier st e p0).flagged dotAll multiline := by
  simp only [quantifier]
  split <;> rfl

theorem minimum_flagged (e : Expr) (start : Location) (p0 : Option Item) :
    minimum (st.flagged dotAll multiline) (e.flagged dotAll multiline) start p0 =
      (minimum st e start p0).flagged dotAll multiline := by
  simp only [minimum]
  split
  · rfl
  · exact (flagged_unexpected ..).symm

theorem comma_flagged (e : Expr) (start : Location) (min : Nat) (p0 : Option Item) :
    comma (st.flagged dotAll multiline) (e.flagged dotAll multiline) start min p0 =
      (comma st e start min p0).flagged dotAll multiline := by
  simp only [comma]
  split <;> rfl

theorem maximum_flagged (e : Expr) (start : Location) (min : Nat) (p0 p1 : Option Item) :
    maximum (st.flagged dotAll multiline) (e.flagged dotAll multiline) start min p0 p1 =
      (maximum st e start min p0 p1).flagged dotAll multiline := by
  simp only [maximum]
  split
  · rfl
  · split_ifs
    · rfl
    · split <;> rfl
  · rfl

theorem closingBrace_flagged (e : Expr) (q : Quantifier) (p0 : Option Item) :
    closingBrace (st.flagged dotAll multiline) (e.flagged dotAll multiline) q p0 =
      (closingBrace st e q p0).flagged dotAll multiline := by
  simp only [closingBrace]
  split
  · rfl
  · exact (flagged_unexpected ..).symm

theorem lazyMark_flagged (e : Expr) (q : Quantifier) (p0 : Option Item) :
    lazyMark (st.flagged dotAll multiline) (e.flagged dotAll multiline) q p0 =
      (lazyMark st e q p0).flagged dotAll multiline := by
  simp only [lazyMark]
  split
  · rfl
  · simp [take, Move.flagged, State.flagged, State.withPiece, Mode.flagged, flagged_add,
      Expr.flagged]
  · simp [stay, Move.flagged, State.flagged, State.withPiece, Mode.flagged, flagged_add,
      Expr.flagged]

theorem referenceEnd_flagged (index : Nat) (start : Location) :
    referenceEnd (st.flagged dotAll multiline) index start =
      (referenceEnd st index start).flagged dotAll multiline := by
  by_cases hclosed : st.groups.closed.contains index = true
  · simp [referenceEnd, hclosed, stay, Move.flagged, State.flagged, State.withAtom, Mode.flagged,
      Expr.flagged]
  · simp [referenceEnd, hclosed, Move.flagged, State.flagged]

theorem reference_flagged (index : Nat) (start : Location) (p0 : Option Item) :
    reference (st.flagged dotAll multiline) index start p0 =
      (reference st index start p0).flagged dotAll multiline := by
  simp only [reference, referenceEnd_flagged, groups_flagged]
  split
  · rfl
  · rw [apply_ite (Move.flagged dotAll multiline)]
    rfl
  · rfl

theorem classChar_flagged (k : OpenClass) (c : Char) (range : Location) (p1 p2 : Option Item) :
    classChar (st.flagged dotAll multiline) k c range p1 p2 =
      (classChar st k c range p1 p2).flagged dotAll multiline := by
  simp only [classChar]
  split
  · rfl
  · split <;> rfl
  · rfl

theorem groupEnd_flagged (k : OpenClass) (p0 p1 p2 : Option Item) :
    groupEnd (st.flagged dotAll multiline) k p0 p1 p2 =
      (groupEnd st k p0 p1 p2).flagged dotAll multiline := by
  simp only [groupEnd]
  split_ifs
  · exact (flagged_unexpected ..).symm
  · split
    · simp only [subtrahend]
      split
      · rfl
      · rfl
      · exact (flagged_unexpected ..).symm
    · rfl
    · exact (flagged_unexpected ..).symm

theorem members_flagged (k : OpenClass) (p0 p1 p2 : Option Item) :
    members (st.flagged dotAll multiline) k p0 p1 p2 =
      (members st k p0 p1 p2).flagged dotAll multiline := by
  simp only [members, classChar_flagged, groupEnd_flagged]
  split
  · split
    · rfl
    · apply takeEscape_flagged
      exact fun _ _ => rfl
    · rfl
  · rfl

theorem rangeEnd_flagged (k : OpenClass) (low : Char) (start : Location) (p0 : Option Item) :
    rangeEnd (st.flagged dotAll multiline) k low start p0 =
      (rangeEnd st k low start p0).flagged dotAll multiline := by
  simp only [rangeEnd]
  split
  · split
    · split_ifs <;> rfl
    · exact (flagged_unexpected ..).symm
  · exact (flagged_unexpected ..).symm

theorem closing_flagged (c : CharClass) (outer : List CharGroup) (p0 : Option Item) :
    closing (st.flagged dotAll multiline) c outer p0 =
      (closing st c outer p0).flagged dotAll multiline := by
  cases outer with
  | nil => rfl
  | cons g outer =>
      simp only [closing]
      split
      · rfl
      · exact (flagged_unexpected ..).symm

end

/-- A step does the same under other flags, to the state with those. -/
theorem step_flagged (flags flags' : Flags) (st : State) (p0 p1 p2 : Option Item) :
    step flags' (st.flagged flags'.dotAll flags'.multiline) p0 p1 p2 =
      (step flags st p0 p1 p2).flagged flags'.dotAll flags'.multiline := by
  have hflagged : (st.flagged flags'.dotAll flags'.multiline).mode =
      st.mode.flagged flags'.dotAll flags'.multiline := rfl
  rw [step, step, hflagged]
  cases st.mode with
  | branch => apply branch_flagged
  | atom => apply atom_flagged
  | quantifier e => apply quantifier_flagged
  | minimum e start => apply minimum_flagged
  | comma e start min => apply comma_flagged
  | maximum e start min => apply maximum_flagged
  | closingBrace e q => apply closingBrace_flagged
  | lazyMark e q => apply lazyMark_flagged
  | reference index start => apply reference_flagged
  | members k => apply members_flagged
  | rangeEnd k low start => apply rangeEnd_flagged
  | closing c outer => apply closing_flagged

/-! ## Runs -/

theorem run_flagged (flags flags' : Flags) (st : State) (items : List Item) :
    run flags' (st.flagged flags'.dotAll flags'.multiline) items =
      (run flags st items).map (.flagged flags'.dotAll flags'.multiline) := by
  have hstep (st : State) (items : List Item) :
      stepOn flags' (st.flagged flags'.dotAll flags'.multiline) items =
        (stepOn flags st items).flagged flags'.dotAll flags'.multiline := step_flagged ..
  induction st, items using run_induction flags with
  | done st items e hmove =>
      have hmove' := hstep st items
      rw [hmove] at hmove'
      rw [run_done hmove, run_done hmove']
      rfl
  | fail st items f hmove =>
      have hmove' := hstep st items
      rw [hmove] at hmove'
      rw [run_fail hmove, run_fail hmove']
      rfl
  | shift st items count next hmove ih =>
      have hmove' := hstep st items
      rw [hmove] at hmove'
      rw [run_shift hmove, run_shift hmove', ih]

end Parser

namespace Lexer

/-- The lexer looks at two of the flags. -/
theorem itemsFrom_congr {flags flags' : Flags}
    (hstrip : flags'.stripWhitespace = flags.stripWhitespace)
    (hextended : flags'.extended = flags.extended) (st : State) (chars : List Placed) :
    itemsFrom flags' st chars = itemsFrom flags st chars := by
  have hstep (st : State) (chars : List Placed) :
      stepOn flags' st chars = stepOn flags st chars := by
    simp only [stepOn, step, between, outside, hstrip, hextended]
  induction st, chars using itemsFrom_induction flags with
  | stop st chars hmove => rw [itemsFrom_stop hmove, itemsFrom_stop ((hstep st chars).trans hmove)]
  | emit st chars count item next hmove ih =>
      rw [itemsFrom_emit hmove, itemsFrom_emit ((hstep st chars).trans hmove), ih]
  | shift st chars count next hmove ih =>
      rw [itemsFrom_shift hmove, itemsFrom_shift ((hstep st chars).trans hmove), ih]

end Lexer

/-! ## Patterns -/

theorem parsePattern_flagged {flags flags' : Flags}
    (hstrip : flags'.stripWhitespace = flags.stripWhitespace)
    (hextended : flags'.extended = flags.extended) (pattern : String) :
    parsePattern flags' pattern =
      (parsePattern flags pattern).map (.flagged flags'.dotAll flags'.multiline) := by
  rw [parsePattern_eq, parsePattern_eq, patternItems_eq, patternItems_eq,
    Lexer.itemsFrom_congr hstrip hextended]
  exact Parser.run_flagged flags flags' {} _

/-- Without literal mode, modifiers are read as flags, and parsing is that under these. -/
theorem parse_having {modifiers : String} (h : ∀ c ∈ modifiers.toList, c ∈ ['i', 'm', 's', 'x'])
    (pattern : String) (extended : Bool) :
    parse pattern modifiers extended =
      parsePattern (Flags.having { extended } modifiers.toList) pattern := by
  have hflags : Flags.ofModifiers modifiers extended =
      .ok (Flags.having { extended } modifiers.toList) :=
    Flags.foldlM_add_ok fun c hc => .inl (h c hc)
  have hliteral : (Flags.having { extended } modifiers.toList).literal = false := by
    have hq : 'q' ∉ modifiers.toList := mt (h 'q') (by decide)
    simp [Flags.having, hq]
  rw [parse_eq hflags, parseWith, if_neg (by simp [hliteral])]

theorem parse_flagged {modifiers modifiers' : String}
    (h : ∀ c ∈ modifiers.toList, c ∈ ['i', 'm', 's', 'x'])
    (h' : ∀ c ∈ modifiers'.toList, c ∈ ['i', 'm', 's', 'x'])
    (hx : 'x' ∈ modifiers.toList ↔ 'x' ∈ modifiers'.toList) (pattern : String) (extended : Bool) :
    parse pattern modifiers' extended =
      (parse pattern modifiers extended).map
        (.flagged (modifiers'.toList.contains 's') (modifiers'.toList.contains 'm')) := by
  let flags := Flags.having { extended } modifiers.toList
  let flags' := Flags.having { extended } modifiers'.toList
  have hstrip : flags'.stripWhitespace = flags.stripWhitespace := by
    simp [flags, flags', Flags.having, hx]
  have hflagged : parsePattern flags' pattern =
      (parsePattern flags pattern).map (.flagged flags'.dotAll flags'.multiline) :=
    parsePattern_flagged hstrip rfl pattern
  rw [parse_having h, parse_having h', hflagged]
  rfl

/-- Modifiers that agree on `x` give the same fault, or expressions that differ at most in the flags
of their wildcards and borders, which are those of the modifiers. -/
theorem parse_matching_flags {modifiers modifiers' : String}
    (h : ∀ c ∈ modifiers.toList, c ∈ ['i', 'm', 's', 'x'])
    (h' : ∀ c ∈ modifiers'.toList, c ∈ ['i', 'm', 's', 'x'])
    (hx : 'x' ∈ modifiers.toList ↔ 'x' ∈ modifiers'.toList) (pattern : String) (extended : Bool) :
    (∀ f, parse pattern modifiers extended = .error f ↔
        parse pattern modifiers' extended = .error f) ∧
      (∀ e e', parse pattern modifiers extended = .ok e →
        parse pattern modifiers' extended = .ok e' →
        e.flagged false false = e'.flagged false false ∧
          e.flagged (modifiers.toList.contains 's') (modifiers.toList.contains 'm') = e ∧
          e'.flagged (modifiers'.toList.contains 's') (modifiers'.toList.contains 'm') = e') ∧
      (('m' ∈ modifiers.toList ↔ 'm' ∈ modifiers'.toList) →
        ('s' ∈ modifiers.toList ↔ 's' ∈ modifiers'.toList) →
        parse pattern modifiers extended = parse pattern modifiers' extended) := by
  have hsame := parse_flagged h h Iff.rfl pattern extended
  have hother := parse_flagged h h' hx pattern extended
  refine ⟨fun f => ?_, fun e e' he he' => ?_, fun hm hs => ?_⟩
  · rw [hother]
    cases parse pattern modifiers extended <;> simp [Except.map]
  · rw [he, he'] at hother
    rw [he] at hsame
    have he : e.flagged (modifiers.toList.contains 's') (modifiers.toList.contains 'm') = e :=
      (Except.ok.inj hsame).symm
    have he' : e' = e.flagged (modifiers'.toList.contains 's') (modifiers'.toList.contains 'm') :=
      Except.ok.inj hother
    refine ⟨?_, he, ?_⟩
    · rw [he', Expr.flagged_flagged]
    · rw [he', Expr.flagged_flagged]
  · have hm : modifiers.toList.contains 'm' = modifiers'.toList.contains 'm' := by simp [hm]
    have hs : modifiers.toList.contains 's' = modifiers'.toList.contains 's' := by simp [hs]
    rw [hm, hs, ← hother] at hsame
    exact hsame

/-- A wildcard between two borders, with a blank that is skipped. -/
theorem parse_matching_flags_borders :
    let e : Expr := .branch [.border true false, .wildcard true, .border false false]
    let e' : Expr := .branch [.border true true, .wildcard false, .border false true]
    (∀ c ∈ "xis".toList, c ∈ ['i', 'm', 's', 'x']) ∧
      (∀ c ∈ "mx".toList, c ∈ ['i', 'm', 's', 'x']) ∧
      ('x' ∈ "xis".toList ↔ 'x' ∈ "mx".toList) ∧
      parse "^. $" "xis" false = .ok e ∧ parse "^. $" "mx" false = .ok e' ∧
      e.flagged false false = e'.flagged false false ∧
      e.flagged true false = e ∧ e'.flagged false true = e' := by
  intro e e'
  have h : ∀ c ∈ "xis".toList, c ∈ ['i', 'm', 's', 'x'] := by simp
  have h' : ∀ c ∈ "mx".toList, c ∈ ['i', 'm', 's', 'x'] := by simp
  have hx : 'x' ∈ "xis".toList ↔ 'x' ∈ "mx".toList := by simp
  let items : List Lexer.Item :=
    [.lexeme ⟨.lineStart, ⟨0, 0, 0, 1⟩⟩, .lexeme ⟨.wildcard, ⟨1, 0, 1, 1⟩⟩,
      .lexeme ⟨.lineEnd, ⟨3, 0, 3, 1⟩⟩]
  have hitems : patternItems (Flags.having {} "xis".toList) "^. $" = items :=
    @patternItems_of_within 6 _ _ _ (by decide +kernel)
  have hitems' : patternItems (Flags.having {} "mx".toList) "^. $" = items :=
    @patternItems_of_within 6 _ _ _ (by decide +kernel)
  have he : parse "^. $" "xis" false = .ok e :=
    (parse_having h _ _).trans (@parsePattern_of_within 10 _ _ _ _ hitems rfl)
  have he' : parse "^. $" "mx" false = .ok e' :=
    (parse_having h' _ _).trans (@parsePattern_of_within 10 _ _ _ _ hitems' rfl)
  exact ⟨h, h', hx, he, he', (parse_matching_flags h h' hx "^. $" false).2.1 e e' he he'⟩

end SchemaPattern
