import Mathlib.Data.List.Forall2
import SchemaPattern.Proofs.Parser.Moves

/-!
# Parsers that run side by side

Two runs over items that differ only in their places go the same way.  One of them may begin in the
middle of an expression: its first branch and its first pieces are then those that it began with.
-/

namespace SchemaPattern

namespace Parser

open Lexer (Item)

/-! ## What is alike -/

/-- How the places of one run go with those of another: places of tokens, and places that faults
point to. -/
structure Placing where
  range : Location → Location → Prop
  report : Location → Location → Prop
  report_range : ∀ {a b : Location}, range a b → report a b
  report_end : ∀ {st st' : State}, range st.last st'.last → report st.endPlace st'.endPlace
  report_join : ∀ {a b c d : Location}, range a b → range c d → report (a.join c) (b.join d)

/-- The second level is the first with everything of `base` before it. -/
inductive Level.Continues (base : Level) : Level → Level → Prop
  | first (pieces : List Expr) :
      Continues base ⟨[], pieces⟩ ⟨base.branches, pieces ++ base.pieces⟩
  | later (first : List Expr) (branches pieces : List Expr) :
      Continues base ⟨branches ++ [.ofPieces first], pieces⟩
        ⟨branches ++ .ofPieces (base.pieces.reverse ++ first) :: base.branches, pieces⟩

/-- Two runs: how their places go together, whether they count groups alike, and what the second
one began with. -/
structure Likeness where
  placing : Placing
  sameGroups : Prop
  base : Level

namespace Likeness

variable (k : Likeness)

inductive Items : Item → Item → Prop
  | lexeme (t : Token) (a b : Location) (h : k.placing.range a b)
      (href : ∀ n, t = .backReference n → k.sameGroups) : Items (.lexeme ⟨t, a⟩) (.lexeme ⟨t, b⟩)
  | fault (cause : LexicalCause) (a b : Location) (h : k.placing.report a b) :
      Items (.fault ⟨cause, a⟩) (.fault ⟨cause, b⟩)

inductive Modes : Mode → Mode → Prop
  | branch : Modes .branch .branch
  | atom : Modes .atom .atom
  | quantifier {e : Expr} : Modes (.quantifier e) (.quantifier e)
  | minimum {e : Expr} {a b : Location} (h : k.placing.range a b) :
      Modes (.minimum e a) (.minimum e b)
  | comma {e : Expr} {a b : Location} {min : Nat} (h : k.placing.range a b) :
      Modes (.comma e a min) (.comma e b min)
  | maximum {e : Expr} {a b : Location} {min : Nat} (h : k.placing.range a b) :
      Modes (.maximum e a min) (.maximum e b min)
  | closingBrace {e : Expr} {q : Quantifier} : Modes (.closingBrace e q) (.closingBrace e q)
  | lazyMark {e : Expr} {q : Quantifier} : Modes (.lazyMark e q) (.lazyMark e q)
  | reference {n : Nat} {a b : Location} (h : k.placing.range a b) (hsame : k.sameGroups) :
      Modes (.reference n a) (.reference n b)
  | members {c : OpenClass} : Modes (.members c) (.members c)
  | rangeEnd {c : OpenClass} {low : Char} {a b : Location} (h : k.placing.range a b) :
      Modes (.rangeEnd c low a) (.rangeEnd c low b)
  | closing {c : CharClass} {outer : List CharGroup} : Modes (.closing c outer) (.closing c outer)

/-- The outermost level continues what the second run began with; inside of groups the levels are
the same. -/
inductive Levels : Level → List OpenGroup → Level → List OpenGroup → Prop
  | outermost {level level' : Level} (h : k.base.Continues level level') :
      Levels level [] level' []
  | inside {level outer outer' : Level} {number number' : Option Nat} {gs gs' : List OpenGroup}
      (hcaptures : number'.isSome = number.isSome) (hsame : k.sameGroups → number' = number)
      (h : Levels outer gs outer' gs') :
      Levels level (⟨number, outer⟩ :: gs) level (⟨number', outer'⟩ :: gs')

structure States (st st' : State) : Prop where
  mode : k.Modes st.mode st'.mode
  levels : k.Levels st.level st.openGroups st'.level st'.openGroups
  groups : k.sameGroups → st'.groups = st.groups
  last : k.placing.range st.last st'.last

structure Faults (f f' : Fault) : Prop where
  kind : f'.kind = f.kind
  message : f'.message = f.message
  place : ∃ a b, f.subject = .place a ∧ f'.subject = .place b ∧ k.placing.report a b

inductive Moves : Move → Move → Prop
  | shift {count : Nat} {next next' : State} (h : k.States next next') :
      Moves (.shift count next) (.shift count next')
  | done {level level' : Level} (h : k.base.Continues level level') :
      Moves (.done level.close) (.done level'.close)
  | fail {f f' : Fault} (h : k.Faults f f') : Moves (.fail f) (.fail f')

inductive Outcomes : Except Fault Expr → Except Fault Expr → Prop
  | ok {level level' : Level} (h : k.base.Continues level level') :
      Outcomes (.ok level.close) (.ok level'.close)
  | error {f f' : Fault} (h : k.Faults f f') : Outcomes (.error f) (.error f')

end Likeness

/-! ## Levels -/

section

variable {base level level' : Level}

theorem Level.Continues.add (h : base.Continues level level') (e : Expr) :
    base.Continues (level.add e) (level'.add e) := by
  cases h with
  | first pieces => exact .first (e :: pieces)
  | later first branches pieces => exact .later first branches (e :: pieces)

theorem Level.Continues.nextBranch (h : base.Continues level level') :
    base.Continues level.nextBranch level'.nextBranch := by
  cases h with
  | first pieces =>
      have hcontinues := @Level.Continues.later base pieces.reverse [] []
      rwa [← List.reverse_append] at hcontinues
  | later first branches pieces => exact .later first (.ofPieces pieces.reverse :: branches) []

end

namespace Likeness

variable {k : Likeness} {st st' : State}

theorem Levels.add {level level' : Level} {gs gs' : List OpenGroup}
    (h : k.Levels level gs level' gs') (e : Expr) :
    k.Levels (level.add e) gs (level'.add e) gs' := by
  cases h with
  | outermost h => exact .outermost (h.add e)
  | inside hcaptures hsame h => exact .inside hcaptures hsame h

theorem Levels.nextBranch {level level' : Level} {gs gs' : List OpenGroup}
    (h : k.Levels level gs level' gs') :
    k.Levels level.nextBranch gs level'.nextBranch gs' := by
  cases h with
  | outermost h => exact .outermost h.nextBranch
  | inside hcaptures hsame h => exact .inside hcaptures hsame h

/-! ## States -/

theorem States.withMode (h : k.States st st') {mode mode' : Mode} (hmode : k.Modes mode mode') :
    k.States { st with mode } { st' with mode := mode' } := { h with mode := hmode }

theorem States.withLast (h : k.States st st') {a b : Location} (hlast : k.placing.range a b) :
    k.States { st with last := a } { st' with last := b } := { h with last := hlast }

theorem States.withPiece (h : k.States st st') (e : Expr) :
    k.States (st.withPiece e) (st'.withPiece e) :=
  { h with mode := .branch, levels := h.levels.add e }

theorem States.nextBranch (h : k.States st st') :
    k.States { st with level := st.level.nextBranch }
      { st' with level := st'.level.nextBranch } :=
  { h with levels := h.levels.nextBranch }

theorem States.withAtom (h : k.States st st') (e : Expr) :
    k.States (st.withAtom e) (st'.withAtom e) := h.withMode .quantifier

theorem States.openGroup (h : k.States st st') (capturing : Bool) :
    k.States (st.openGroup capturing) (st'.openGroup capturing) where
  mode := .branch
  levels := by
    apply Levels.inside _ _ h.levels
    · cases capturing <;> rfl
    · intro hsame
      rw [h.groups hsame]
  groups hsame := by rw [State.openGroup, State.openGroup, h.groups hsame]
  last := h.last

theorem States.closeGroup (h : k.States st st') {number number' : Option Nat}
    {outer outer' : Level} {gs gs' : List OpenGroup} (hlevel : st'.level = st.level)
    (hcaptures : number'.isSome = number.isSome) (hsame : k.sameGroups → number' = number)
    (hlevels : k.Levels outer gs outer' gs') :
    k.States (st.closeGroup ⟨number, outer⟩ gs) (st'.closeGroup ⟨number', outer'⟩ gs') where
  mode := by
    simp only [State.closeGroup, hlevel, hcaptures]
    exact .quantifier
  levels := hlevels
  groups h' := by simp only [State.closeGroup, hsame h', h.groups h']
  last := h.last

/-! ## Moves -/

theorem take_alike (h : k.States st st') {a b : Location} (hrange : k.placing.range a b)
    {f f' : State → State}
    (hf : ∀ {st st' : State}, k.States st st' → k.States (f st) (f' st')) :
    k.Moves (take st a f) (take st' b f') := .shift (hf (h.withLast hrange))

theorem unexpected_alike {p p' : Option Item} (hp : Option.Rel k.Items p p') {a b : Location}
    (h : p = none → k.placing.report a b) (expected : Expected) :
    k.Moves (unexpected p a expected) (unexpected p' b expected) := by
  cases hp with
  | none => exact .fail ⟨rfl, rfl, a, b, rfl, rfl, h rfl⟩
  | some hitem =>
      cases hitem with
      | lexeme t a b hrange hsame =>
          exact .fail ⟨rfl, rfl, _, _, rfl, rfl, k.placing.report_range hrange⟩
      | fault cause a b hreport => exact .fail ⟨rfl, rfl, _, _, rfl, rfl, hreport⟩

theorem lexical_alike {cause : LexicalCause} {a b : Location} (h : k.placing.report a b) :
    k.Moves (.fail (.lexical ⟨cause, a⟩)) (.fail (.lexical ⟨cause, b⟩)) :=
  .fail ⟨rfl, rfl, a, b, rfl, rfl, h⟩

theorem takeEscape_alike (h : k.States st st') {a b : Location} (hrange : k.placing.range a b)
    (name : EscapeName) {f f' : Escape → State → State}
    (hf : ∀ (e : Escape) {st st' : State}, k.States st st' → k.States (f e st) (f' e st')) :
    k.Moves (takeEscape st a name f) (takeEscape st' b name f') := by
  unfold takeEscape
  cases name.chars? with
  | some chars => exact take_alike h hrange (hf _)
  | none => exact .fail ⟨rfl, rfl, a, b, rfl, rfl, k.placing.report_range hrange⟩

variable {p0 p1 p2 p0' p1' p2' : Option Item}

theorem branch_alike (h : k.States st st') (h0 : Option.Rel k.Items p0 p0') :
    k.Moves (branch st p0) (branch st' p0') := by
  obtain ⟨mode, level, openGroups, groups, last⟩ := st
  obtain ⟨mode', level', openGroups', groups', last'⟩ := st'
  have hlevels : k.Levels level openGroups level' openGroups' := h.levels
  cases h0 with
  | none =>
      cases hlevels with
      | outermost hcontinues => exact .done hcontinues
      | inside hcaptures hsame hlevels =>
          exact unexpected_alike .none (fun _ => k.placing.report_end h.last) _
  | some hitem =>
      cases hitem with
      | fault cause a b hreport => exact lexical_alike hreport
      | lexeme t a b hrange href =>
          have hunexpected (expected : Expected) :
              k.Moves (unexpected (some (.lexeme ⟨t, a⟩)) a expected)
                (unexpected (some (.lexeme ⟨t, b⟩)) b expected) :=
            unexpected_alike (.some (.lexeme t a b hrange href)) (by simp) expected
          by_cases hstart : t.startsAtom = true
          · rw [branch_of_startsAtom hstart, branch_of_startsAtom hstart]
            exact .shift (h.withMode .atom)
          · cases t with
            | alternation =>
                exact take_alike h hrange fun h => h.nextBranch
            | groupClose =>
                cases hlevels with
                | outermost hcontinues => exact hunexpected .piece
                | inside hcaptures hsame hlevels =>
                    exact .shift ((h.withLast hrange).closeGroup rfl hcaptures hsame hlevels)
            | optional | zeroOrMore | oneOrMore | quantifierOpen | number | comma
            | quantifierClose | classClose | negation | subtract =>
                cases hlevels with
                | outermost hcontinues => exact hunexpected .piece
                | inside hcaptures hsame hlevels => exact hunexpected .groupClose
            | _ => exact absurd rfl hstart

theorem atom_alike {flags flags' : Flags} (hdotAll : flags'.dotAll = flags.dotAll)
    (hmultiline : flags'.multiline = flags.multiline) (h : k.States st st')
    (h0 : Option.Rel k.Items p0 p0') (h1 : Option.Rel k.Items p1 p1') :
    k.Moves (atom flags st p0 p1) (atom flags' st' p0' p1') := by
  cases h0 with
  | none => exact unexpected_alike .none (fun _ => k.placing.report_end h.last) _
  | some hitem =>
      cases hitem with
      | fault cause a b hreport => exact lexical_alike hreport
      | lexeme t a b hrange href =>
          have hliteral (c : Char) : k.Moves (take st a (·.withAtom (.literal c)))
              (take st' b (·.withAtom (.literal c))) :=
            take_alike h hrange fun h => h.withAtom _
          have hwildcard : k.Moves (take st a (·.withAtom (.wildcard flags.dotAll)))
              (take st' b (·.withAtom (.wildcard flags'.dotAll))) := by
            rw [hdotAll]
            exact take_alike h hrange fun h => h.withAtom _
          have hborder (atStart : Bool) :
              k.Moves (take st a (·.withAtom (.border atStart flags.multiline)))
                (take st' b (·.withAtom (.border atStart flags'.multiline))) := by
            rw [hmultiline]
            exact take_alike h hrange fun h => h.withAtom _
          have hunexpected : k.Moves (unexpected (some (.lexeme ⟨t, a⟩)) a .atom)
              (unexpected (some (.lexeme ⟨t, b⟩)) b .atom) :=
            unexpected_alike (.some (.lexeme t a b hrange href)) (by simp) _
          cases t with
          | char c | digit c | singleEscape c => exact hliteral c
          | wildcard => exact hwildcard
          | lineStart => exact hborder true
          | lineEnd => exact hborder false
          | multiEscape letter => exact takeEscape_alike h hrange _ fun e _ _ h => h.withAtom (.escape e)
          | categoryEscape name negated =>
              exact takeEscape_alike h hrange _ fun e _ _ h => h.withAtom (.escape e)
          | classOpen =>
              have hpositive : k.Moves
                  (take st a fun st => { st with mode := .members { negative := false } })
                  (take st' b fun st => { st with mode := .members { negative := false } }) :=
                take_alike h hrange fun h => h.withMode .members
              cases h1 with
              | none => exact hpositive
              | some hitem =>
                  cases hitem with
                  | fault cause c d hreport => exact hpositive
                  | lexeme u c d hnext _ =>
                      cases u with
                      | negation => exact .shift ((h.withMode .members).withLast hnext)
                      | _ => exact hpositive
          | groupOpen | nonCapturingGroupOpen =>
              exact take_alike h hrange fun h => h.openGroup _
          | backReference n =>
              exact .shift ((h.withMode (.reference hrange (href n rfl))).withLast hrange)
          | _ => exact hunexpected

theorem quantifier_alike (h : k.States st st') (e : Expr) (h0 : Option.Rel k.Items p0 p0') :
    k.Moves (quantifier st e p0) (quantifier st' e p0') := by
  have hstay : k.Moves (stay (st.withPiece e)) (stay (st'.withPiece e)) := .shift (h.withPiece e)
  cases h0 with
  | none => exact hstay
  | some hitem =>
      cases hitem with
      | fault cause a b hreport => exact lexical_alike hreport
      | lexeme t a b hrange _ =>
          cases t with
          | optional | zeroOrMore | oneOrMore =>
              exact take_alike h hrange fun h => h.withMode .lazyMark
          | quantifierOpen => exact take_alike h hrange fun h => h.withMode (.minimum hrange)
          | _ => exact hstay

theorem minimum_alike (h : k.States st st') (e : Expr) {start start' : Location}
    (hstart : k.placing.range start start') (h0 : Option.Rel k.Items p0 p0') :
    k.Moves (minimum st e start p0) (minimum st' e start' p0') := by
  have hunexpected := unexpected_alike h0 (fun _ => k.placing.report_end h.last) .number
  cases h0 with
  | none => exact hunexpected
  | some hitem =>
      cases hitem with
      | fault cause a b hreport => exact hunexpected
      | lexeme t a b hrange _ =>
          cases t with
          | number n => exact take_alike h hrange fun h => h.withMode (.comma hstart)
          | _ => exact hunexpected

theorem comma_alike (h : k.States st st') (e : Expr) {start start' : Location} (min : Nat)
    (hstart : k.placing.range start start') (h0 : Option.Rel k.Items p0 p0') :
    k.Moves (comma st e start min p0) (comma st' e start' min p0') := by
  have hstay : k.Moves (stay { st with mode := .closingBrace e { min, max := some min } })
      (stay { st' with mode := .closingBrace e { min, max := some min } }) :=
    .shift (h.withMode .closingBrace)
  cases h0 with
  | none => exact hstay
  | some hitem =>
      cases hitem with
      | fault cause a b hreport => exact lexical_alike hreport
      | lexeme t a b hrange _ =>
          cases t with
          | comma => exact take_alike h hrange fun h => h.withMode (.maximum hstart)
          | _ => exact hstay

theorem maximum_alike (h : k.States st st') (e : Expr) {start start' : Location} (min : Nat)
    (hstart : k.placing.range start start') (h0 : Option.Rel k.Items p0 p0')
    (h1 : Option.Rel k.Items p1 p1') :
    k.Moves (maximum st e start min p0 p1) (maximum st' e start' min p0' p1') := by
  have hstay : k.Moves (stay { st with mode := .closingBrace e { min, max := none } })
      (stay { st' with mode := .closingBrace e { min, max := none } }) :=
    .shift (h.withMode .closingBrace)
  have hbounds {max : Nat} {a b : Location} (hrange : k.placing.range a b) :
      k.Moves (.fail (.bounds min max start a)) (.fail (.bounds min max start' b)) :=
    .fail ⟨rfl, rfl, _, _, rfl, rfl, k.placing.report_join hstart hrange⟩
  cases h0 with
  | none => exact hstay
  | some hitem =>
      cases hitem with
      | fault cause a b hreport => exact lexical_alike hreport
      | lexeme t a b hrange _ =>
          cases t with
          | number max =>
              simp only [maximum]
              split_ifs
              · exact take_alike h hrange fun h => h.withMode .closingBrace
              · cases h1 with
                | none => exact hbounds hrange
                | some hitem =>
                    cases hitem with
                    | fault cause a b hreport => exact lexical_alike hreport
                    | lexeme u c d hbrace _ =>
                        cases u with
                        | quantifierClose => exact hbounds hbrace
                        | _ => exact hbounds hrange
          | _ => exact hstay

theorem closingBrace_alike (h : k.States st st') (e : Expr) (q : Quantifier)
    (h0 : Option.Rel k.Items p0 p0') :
    k.Moves (closingBrace st e q p0) (closingBrace st' e q p0') := by
  have hunexpected := unexpected_alike h0 (fun _ => k.placing.report_end h.last) .quantifierClose
  cases h0 with
  | none => exact hunexpected
  | some hitem =>
      cases hitem with
      | fault cause a b hreport => exact hunexpected
      | lexeme t a b hrange _ =>
          cases t with
          | quantifierClose => exact take_alike h hrange fun h => h.withMode .lazyMark
          | _ => exact hunexpected

theorem lazyMark_alike (h : k.States st st') (e : Expr) (q : Quantifier)
    (h0 : Option.Rel k.Items p0 p0') : k.Moves (lazyMark st e q p0) (lazyMark st' e q p0') := by
  have hstay : k.Moves (stay (st.withPiece (.piece e q))) (stay (st'.withPiece (.piece e q))) :=
    .shift (h.withPiece _)
  cases h0 with
  | none => exact hstay
  | some hitem =>
      cases hitem with
      | fault cause a b hreport => exact lexical_alike hreport
      | lexeme t a b hrange _ =>
          cases t with
          | optional => exact take_alike h hrange fun h => h.withPiece _
          | _ => exact hstay

theorem reference_alike (h : k.States st st') (index : Nat) {start start' : Location}
    (hstart : k.placing.range start start') (hsame : k.sameGroups)
    (h0 : Option.Rel k.Items p0 p0') :
    k.Moves (reference st index start p0) (reference st' index start' p0') := by
  have hend : k.Moves (referenceEnd st index start) (referenceEnd st' index start') := by
    simp only [referenceEnd, h.groups hsame]
    split_ifs
    · exact .shift (h.withAtom _)
    · exact .fail ⟨rfl, rfl, _, _, rfl, rfl, k.placing.report_join hstart h.last⟩
  cases h0 with
  | none => exact hend
  | some hitem =>
      cases hitem with
      | fault cause a b hreport => exact lexical_alike hreport
      | lexeme t a b hrange _ =>
          cases t with
          | digit c =>
              simp only [reference, h.groups hsame]
              split_ifs
              · exact take_alike h hrange fun h => h.withMode (.reference hstart hsame)
              · exact hend
          | _ => exact hend

theorem classChar_alike (h : k.States st st') (c : OpenClass) (low : Char) {a b : Location}
    (hrange : k.placing.range a b) (h1 : Option.Rel k.Items p1 p1')
    (h2 : Option.Rel k.Items p2 p2') :
    k.Moves (classChar st c low a p1 p2) (classChar st' c low b p1' p2') := by
  have hmember : k.Moves (takeMember st a c (.char low)) (takeMember st' b c (.char low)) :=
    take_alike h hrange fun h => h.withMode .members
  cases h1 with
  | none => exact hmember
  | some hitem =>
      cases hitem with
      | fault cause a b hreport => exact lexical_alike hreport
      | lexeme t d d' hdash _ =>
          by_cases ht : t = .char '-'
          · subst ht
            have hrangeEnd : k.Moves (.shift 2 { st with mode := .rangeEnd c low a, last := d })
                (.shift 2 { st' with mode := .rangeEnd c low b, last := d' }) :=
              .shift ((h.withMode (.rangeEnd hrange)).withLast hdash)
            cases h2 with
            | none => exact hmember
            | some hitem =>
                cases hitem with
                | fault cause a b hreport => exact lexical_alike hreport
                | lexeme u _ _ hnext _ =>
                    cases u with
                    | classClose | subtract => exact hmember
                    | _ => exact hrangeEnd
          · have hclassChar (st : State) (a d : Location) (p2 : Option Item) :
                classChar st c low a (some (.lexeme ⟨t, d⟩)) p2 =
                  takeMember st a c (.char low) := by
              unfold classChar
              split <;> simp_all
            rw [hclassChar, hclassChar]
            exact hmember

theorem subtrahend_alike (h : k.States st st') (c : OpenClass) {a b : Location}
    (hrange : k.placing.range a b) (h1 : Option.Rel k.Items p1 p1')
    (h2 : Option.Rel k.Items p2 p2') :
    k.Moves (subtrahend st c a p1 p2) (subtrahend st' c b p1' p2') := by
  have hunexpected := unexpected_alike h1
    (fun _ => k.placing.report_end (h.withLast hrange).last) .classOpen
  cases h1 with
  | none => exact hunexpected
  | some hitem =>
      cases hitem with
      | fault cause a b hreport => exact hunexpected
      | lexeme t d d' hbracket _ =>
          by_cases ht : t = .classOpen
          · subst ht
            have hpositive : k.Moves
                (.shift 2 { st with
                  mode := .members { negative := false, outer := c.charGroup :: c.outer }
                  last := d })
                (.shift 2 { st' with
                  mode := .members { negative := false, outer := c.charGroup :: c.outer }
                  last := d' }) :=
              .shift ((h.withMode .members).withLast hbracket)
            cases h2 with
            | none => exact hpositive
            | some hitem =>
                cases hitem with
                | fault cause a b hreport => exact hpositive
                | lexeme u e e' hnext _ =>
                    cases u with
                    | negation => exact .shift ((h.withMode .members).withLast hnext)
                    | _ => exact hpositive
          · cases t with
            | classOpen => exact absurd rfl ht
            | _ => exact hunexpected

theorem groupEnd_alike (h : k.States st st') (c : OpenClass) (h0 : Option.Rel k.Items p0 p0')
    (h1 : Option.Rel k.Items p1 p1') (h2 : Option.Rel k.Items p2 p2') :
    k.Moves (groupEnd st c p0 p1 p2) (groupEnd st' c p0' p1' p2') := by
  have hunexpected (expected : Expected) :=
    unexpected_alike h0 (fun _ => k.placing.report_end h.last) expected
  unfold groupEnd
  split_ifs
  · exact hunexpected .member
  · cases h0 with
    | none => exact hunexpected .classClose
    | some hitem =>
        cases hitem with
        | fault cause a b hreport => exact hunexpected .classClose
        | lexeme t a b hrange _ =>
            cases t with
            | classClose => exact take_alike h hrange fun h => h.withMode .closing
            | subtract => exact subtrahend_alike h c hrange h1 h2
            | _ => exact hunexpected .classClose

theorem members_alike (h : k.States st st') (c : OpenClass) (h0 : Option.Rel k.Items p0 p0')
    (h1 : Option.Rel k.Items p1 p1') (h2 : Option.Rel k.Items p2 p2') :
    k.Moves (members st c p0 p1 p2) (members st' c p0' p1' p2') := by
  have hend := groupEnd_alike h c h0 h1 h2
  cases h0 with
  | none => exact hend
  | some hitem =>
      cases hitem with
      | fault cause a b hreport => exact hend
      | lexeme t a b hrange _ =>
          simp only [members]
          split
          · exact classChar_alike h c _ hrange h1 h2
          · exact takeEscape_alike h hrange _ fun e _ _ h => h.withMode .members
          · exact hend

theorem rangeEnd_alike (h : k.States st st') (c : OpenClass) (low : Char)
    {start start' : Location} (hstart : k.placing.range start start')
    (h0 : Option.Rel k.Items p0 p0') :
    k.Moves (rangeEnd st c low start p0) (rangeEnd st' c low start' p0') := by
  have hunexpected := unexpected_alike h0 (fun _ => k.placing.report_end h.last) .rangeEnd
  cases h0 with
  | none => exact hunexpected
  | some hitem =>
      cases hitem with
      | fault cause a b hreport => exact hunexpected
      | lexeme t a b hrange _ =>
          simp only [rangeEnd]
          split
          · split_ifs
            · exact take_alike h hrange fun h => h.withMode .members
            · exact .fail ⟨rfl, rfl, _, _, rfl, rfl, k.placing.report_join hstart hrange⟩
          · exact hunexpected

theorem closing_alike (h : k.States st st') (c : CharClass) (outer : List CharGroup)
    (h0 : Option.Rel k.Items p0 p0') :
    k.Moves (closing st c outer p0) (closing st' c outer p0') := by
  have hunexpected := unexpected_alike h0 (fun _ => k.placing.report_end h.last) .classClose
  cases outer with
  | nil => exact .shift (h.withAtom _)
  | cons g outer =>
      cases h0 with
      | none => exact hunexpected
      | some hitem =>
          cases hitem with
          | fault cause a b hreport => exact hunexpected
          | lexeme t a b hrange _ =>
              cases t with
              | classClose => exact take_alike h hrange fun h => h.withMode .closing
              | _ => exact hunexpected

theorem step_alike {flags flags' : Flags} (hdotAll : flags'.dotAll = flags.dotAll)
    (hmultiline : flags'.multiline = flags.multiline) (h : k.States st st')
    (h0 : Option.Rel k.Items p0 p0') (h1 : Option.Rel k.Items p1 p1')
    (h2 : Option.Rel k.Items p2 p2') :
    k.Moves (step flags st p0 p1 p2) (step flags' st' p0' p1' p2') := by
  have hmode := h.mode
  unfold step
  generalize st.mode = mode at hmode
  generalize st'.mode = mode' at hmode
  cases hmode with
  | branch => exact branch_alike h h0
  | atom => exact atom_alike hdotAll hmultiline h h0 h1
  | quantifier => exact quantifier_alike h _ h0
  | minimum hstart => exact minimum_alike h _ hstart h0
  | comma hstart => exact comma_alike h _ _ hstart h0
  | maximum hstart => exact maximum_alike h _ _ hstart h0 h1
  | closingBrace => exact closingBrace_alike h _ _ h0
  | lazyMark => exact lazyMark_alike h _ _ h0
  | reference hstart hsame => exact reference_alike h _ hstart hsame h0
  | members => exact members_alike h _ h0 h1 h2
  | rangeEnd hstart => exact rangeEnd_alike h _ _ hstart h0
  | closing => exact closing_alike h _ _ h0

/-! ## Runs -/

theorem getElem?_alike {its its' : List Item} (h : List.Forall₂ k.Items its its') (n : Nat) :
    Option.Rel k.Items its[n]? its'[n]? := by
  induction h generalizing n with
  | nil => exact .none
  | cons hitem hrest ih =>
      cases n with
      | zero => exact .some hitem
      | succ n => exact ih n

/-- Runs from states that are alike have outcomes that are alike. -/
theorem run_alike {flags flags' : Flags} (hdotAll : flags'.dotAll = flags.dotAll)
    (hmultiline : flags'.multiline = flags.multiline) {its its' : List Item}
    (h : k.States st st') (hitems : List.Forall₂ k.Items its its') :
    k.Outcomes (run flags st its) (run flags' st' its') := by
  have hstep {st st' : State} {its its' : List Item} (h : k.States st st')
      (hitems : List.Forall₂ k.Items its its') :
      k.Moves (stepOn flags st its) (stepOn flags' st' its') :=
    step_alike hdotAll hmultiline h (getElem?_alike hitems 0) (getElem?_alike hitems 1)
      (getElem?_alike hitems 2)
  induction st, its using run_induction flags generalizing st' its' with
  | done st its e hmove =>
      have hmoves := hstep h hitems
      rw [hmove] at hmoves
      generalize hmove' : stepOn flags' st' its' = move' at hmoves
      cases hmoves with
      | done hcontinues =>
          rw [run_done hmove, run_done hmove']
          exact .ok hcontinues
  | fail st its f hmove =>
      have hmoves := hstep h hitems
      rw [hmove] at hmoves
      generalize hmove' : stepOn flags' st' its' = move' at hmoves
      cases hmoves with
      | fail hfault =>
          rw [run_fail hmove, run_fail hmove']
          exact .error hfault
  | shift st its count next hmove ih =>
      have hmoves := hstep h hitems
      rw [hmove] at hmoves
      generalize hmove' : stepOn flags' st' its' = move' at hmoves
      cases hmoves with
      | shift hnext =>
          rw [run_shift hmove, run_shift hmove']
          exact ih hnext (List.forall₂_drop count hitems)

end Likeness

/-- Before a piece, where no group is open, it does not matter which token was taken last. -/
theorem run_last {flags : Flags} {level : Level} {groups : Groups} (a b : Location)
    (its : List Item) :
    run flags { level, groups, last := a } its = run flags { level, groups, last := b } its := by
  rw [run_list, run_list flags { level, groups, last := b }]
  rcases its with _ | ⟨⟨t, range⟩ | f, rest⟩
  · rfl
  · by_cases hstart : t.startsAtom = true
    · have hpiece (last : Location) : stepOn flags { level, groups, last }
          (.lexeme ⟨t, range⟩ :: rest) = .shift 0 { mode := .atom, level, groups, last } :=
        branch_of_startsAtom hstart
      have hatom : stepOn flags { mode := .atom, level, groups, last := a }
            (.lexeme ⟨t, range⟩ :: rest) =
          stepOn flags { mode := .atom, level, groups, last := b }
            (.lexeme ⟨t, range⟩ :: rest) := by
        simp only [stepOn, step]
        cases t <;> rfl
      rw [hpiece, hpiece]
      simp only [List.drop_zero]
      rw [run_list, hatom, ← run_list]
    · cases t <;> first | rfl | exact absurd rfl hstart
  · rfl

end Parser

end SchemaPattern
