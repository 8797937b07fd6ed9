import SchemaPattern.Proofs.Parser.Reach

/-!
# How the parser fails

The steps that fail, one rule for each fault.  A lexical fault is found among the items and passed
on; every other fault shows at lexemes, those that have been taken or those to come, or at the end
of the pattern if there is no fault among the items at all.
-/

namespace SchemaPattern

namespace Parser

open Lexer (Item)

/-! ## Rules -/

/-- The place of the last of some lexemes, or of what stands before them. -/
def lastRange (place : Location) (ls : List Lexeme) : Location :=
  ls.foldl (fun _ l => l.range) place

/-- A step fails in a state that has these items before it. -/
inductive Fails (st : State) (its : List Item) : Fault → Prop
  | lexical {f : LexicalFault} (h : .fault f ∈ its) : Fails st its (.lexical f)
  | unexpected {l : Lexeme} {expected : Expected} (h : .lexeme l ∈ its) :
      Fails st its (.grammar (some l.token) expected l.range)
  | ended {ls : List Lexeme} {expected : Expected} (h : its = items ls) :
      Fails st its (.grammar none expected { st with last := lastRange st.last ls }.endPlace)
  | bounds {e : Expr} {start range : Location} {min max : Nat} {rest : List Item}
      (hmode : st.mode = .maximum e start min) (h : its = .lexeme ⟨.number max, range⟩ :: rest)
      (hbounds : max < min) (hrest : ∀ brace, rest[0]? ≠ some (.lexeme ⟨.quantifierClose, brace⟩)) :
      Fails st its (.bounds min max start range)
  | braced {e : Expr} {start range brace : Location} {min max : Nat} {rest : List Item}
      (hmode : st.mode = .maximum e start min)
      (h : its = .lexeme ⟨.number max, range⟩ :: .lexeme ⟨.quantifierClose, brace⟩ :: rest)
      (hbounds : max < min) : Fails st its (.bounds min max start brace)
  | charRange {k : OpenClass} {low high : Char} {start : Location} {l : Lexeme} {rest : List Item}
      (hmode : st.mode = .rangeEnd k low start) (h : its = .lexeme l :: rest)
      (hhigh : l.token.classChar? = some high) (hlt : ¬ low ≤ high) :
      Fails st its (.charRange low high start l.range)
  | unknownEscape {l : Lexeme} {rest : List Item} {name : EscapeName} (h : its = .lexeme l :: rest)
      (hname : l.token.escapeName? = some name) (hchars : name.chars? = none) :
      Fails st its (.unknownEscape name l.range)
  | backReference {index : Nat} {start : Location} (hmode : st.mode = .reference index start)
      (hclosed : st.groups.closed.contains index = false) :
      Fails st its (.backReference index start st.last)

/-- What a move says of the state and of the items it was made for, if it fails. -/
def Move.Failing (st : State) (its : List Item) : Move → Prop
  | .fail f => Fails st its f
  | .shift .. | .done _ => True

section

variable {flags : Flags} {st : State} {its rest : List Item}

theorem eq_nil_of_getElem? (h : its[0]? = none) : its = [] := by
  cases its with
  | nil => rfl
  | cons item rest => cases h

theorem fault_failing {f : LexicalFault} (h : .fault f ∈ its) :
    (Move.fail (.lexical f)).Failing st its :=
  .lexical h

/-- The item at hand is one of the items, unless they end behind lexemes that it stands behind. -/
theorem unexpected_failing {p : Option Item} {place : Location} {expected : Expected}
    (hp : ∀ item ∈ p, item ∈ its)
    (hend : p = none → ∃ ls, its = items ls ∧
      place = { st with last := lastRange st.last ls }.endPlace) :
    (unexpected p place expected).Failing st its := by
  rcases p with _ | l | f
  · obtain ⟨ls, rfl, rfl⟩ := hend rfl
    exact .ended rfl
  · exact .unexpected (hp _ rfl)
  · exact .lexical (hp _ rfl)

theorem unexpected_first_failing (st : State) (its : List Item) (expected : Expected) :
    (unexpected its[0]? st.endPlace expected).Failing st its := by
  refine unexpected_failing (fun item hitem => List.mem_of_getElem? hitem) fun hnone => ?_
  exact ⟨[], eq_nil_of_getElem? hnone, rfl⟩

theorem takeEscape_failing (l : Lexeme) {name : EscapeName} (next : Escape → State → State)
    (hname : l.token.escapeName? = some name) :
    (takeEscape st l.range name next).Failing st (.lexeme l :: rest) := by
  unfold takeEscape
  split
  · trivial
  · next hchars => exact .unknownEscape rfl hname hchars

theorem branch_failing (st : State) (its : List Item) : (branch st its[0]?).Failing st its := by
  unfold branch
  split
  · next h => exact fault_failing (List.mem_of_getElem? h)
  · trivial
  · trivial
  · next h _ =>
    split
    · trivial
    · refine unexpected_failing (fun item hitem => List.mem_of_getElem? hitem) fun hnone => ?_
      rw [h] at hnone
      cases hnone
  · trivial
  · next h _ =>
    rw [← h]
    exact unexpected_first_failing st its .groupClose

theorem openClass_failing (st : State) (range : Location) (p1 : Option Item) (its : List Item) :
    (openClass st range p1).Failing st its := by
  unfold openClass
  split <;> trivial

theorem atom_failing (flags : Flags) (st : State) (its : List Item) :
    (atom flags st its[0]? its[1]?).Failing st its := by
  rcases its with _ | ⟨⟨t, range⟩ | f, rest⟩
  · exact unexpected_first_failing st [] .atom
  · cases t with
    | multiEscape letter =>
        exact takeEscape_failing ⟨.multiEscape letter, range⟩ (fun e st => st.withAtom (.escape e))
          rfl
    | categoryEscape name negated =>
        exact takeEscape_failing ⟨.categoryEscape name negated, range⟩
          (fun e st => st.withAtom (.escape e)) rfl
    | classOpen => exact openClass_failing st range _ _
    | groupClose | alternation | optional | zeroOrMore | oneOrMore | quantifierOpen | number |
        comma | quantifierClose | classClose | negation | subtract =>
        exact .unexpected (.head _)
    | _ => trivial
  · exact fault_failing (.head _)

theorem quantifier_failing (st : State) (e : Expr) (its : List Item) :
    (quantifier st e its[0]?).Failing st its := by
  unfold quantifier
  split
  · next h => exact fault_failing (List.mem_of_getElem? h)
  all_goals trivial

theorem minimum_failing (st : State) (e : Expr) (start : Location) (its : List Item) :
    (minimum st e start its[0]?).Failing st its := by
  unfold minimum
  split
  · trivial
  · exact unexpected_first_failing st its .number

theorem comma_failing (st : State) (e : Expr) (start : Location) (min : Nat) (its : List Item) :
    (comma st e start min its[0]?).Failing st its := by
  unfold comma
  split
  · next h => exact fault_failing (List.mem_of_getElem? h)
  all_goals trivial

theorem maximum_failing {e : Expr} {start : Location} {min : Nat}
    (hmode : st.mode = .maximum e start min) :
    (maximum st e start min its[0]? its[1]?).Failing st its := by
  unfold maximum
  split
  · next h => exact fault_failing (List.mem_of_getElem? h)
  · next max range h =>
    obtain ⟨rest, rfl⟩ := eq_cons_of_getElem? h
    split
    · trivial
    · next hbounds =>
      rw [List.getElem?_cons_succ]
      split
      · next h => exact fault_failing (.tail _ (List.mem_of_getElem? h))
      · next brace h =>
        obtain ⟨more, rfl⟩ := eq_cons_of_getElem? h
        exact .braced hmode rfl (Nat.lt_of_not_le hbounds)
      · next h => exact .bounds hmode rfl (Nat.lt_of_not_le hbounds) h
  · trivial

theorem closingBrace_failing (st : State) (e : Expr) (q : Quantifier) (its : List Item) :
    (closingBrace st e q its[0]?).Failing st its := by
  unfold closingBrace
  split
  · trivial
  · exact unexpected_first_failing st its .quantifierClose

theorem lazyMark_failing (st : State) (e : Expr) (q : Quantifier) (its : List Item) :
    (lazyMark st e q its[0]?).Failing st its := by
  unfold lazyMark
  split
  · next h => exact fault_failing (List.mem_of_getElem? h)
  all_goals trivial

theorem reference_failing {index : Nat} {start : Location}
    (hmode : st.mode = .reference index start) :
    (reference st index start its[0]?).Failing st its := by
  have hend : (referenceEnd st index start).Failing st its := by
    unfold referenceEnd
    split
    · trivial
    · next hclosed => exact .backReference hmode (by simpa using hclosed)
  unfold reference
  split
  · next h => exact fault_failing (List.mem_of_getElem? h)
  · split
    · trivial
    · exact hend
  · exact hend

theorem classChar_failing (st : State) (k : OpenClass) (c : Char) (range : Location) (item : Item)
    (rest : List Item) : (classChar st k c range rest[0]? rest[1]?).Failing st (item :: rest) := by
  unfold classChar
  split
  · next h => exact fault_failing (.tail _ (List.mem_of_getElem? h))
  · split
    · next h => exact fault_failing (.tail _ (List.mem_of_getElem? h))
    · trivial
    · trivial
    · trivial
    · trivial
  · trivial

theorem subtrahend_failing (st : State) (k : OpenClass) (dash : Lexeme) (rest : List Item) :
    (subtrahend st k dash.range rest[0]? rest[1]?).Failing st (.lexeme dash :: rest) := by
  unfold subtrahend
  split
  · trivial
  · trivial
  · refine unexpected_failing (fun item hitem => .tail _ (List.mem_of_getElem? hitem)) fun hnone => ?_
    exact ⟨[dash], by rw [eq_nil_of_getElem? hnone]; rfl, rfl⟩

theorem groupEnd_failing (st : State) (k : OpenClass) (its : List Item) :
    (groupEnd st k its[0]? its[1]? its[2]?).Failing st its := by
  unfold groupEnd
  split
  · exact unexpected_first_failing st its .member
  · split
    · next dash h =>
      obtain ⟨rest, rfl⟩ := eq_cons_of_getElem? h
      exact subtrahend_failing st k ⟨.subtract, dash⟩ rest
    · trivial
    · exact unexpected_first_failing st its .classClose

theorem members_failing (st : State) (k : OpenClass) (its : List Item) :
    (members st k its[0]? its[1]? its[2]?).Failing st its := by
  unfold members
  split
  · next l h =>
    obtain ⟨rest, rfl⟩ := eq_cons_of_getElem? h
    split
    · exact classChar_failing st k _ _ _ rest
    · next hname => exact takeEscape_failing l _ hname
    · exact groupEnd_failing st k _
  · exact groupEnd_failing st k its

theorem rangeEnd_failing {k : OpenClass} {low : Char} {start : Location}
    (hmode : st.mode = .rangeEnd k low start) :
    (rangeEnd st k low start its[0]?).Failing st its := by
  unfold rangeEnd
  split
  · next l h =>
    obtain ⟨rest, rfl⟩ := eq_cons_of_getElem? h
    split
    · next hhigh =>
      split
      · trivial
      · next hlt => exact .charRange hmode rfl hhigh hlt
    · exact unexpected_first_failing st _ .rangeEnd
  · exact unexpected_first_failing st its .rangeEnd

theorem closing_failing (st : State) (c : CharClass) (outer : List CharGroup) (its : List Item) :
    (closing st c outer its[0]?).Failing st its := by
  unfold closing
  split
  · trivial
  · split
    · trivial
    · exact unexpected_first_failing st its .classClose

theorem stepOn_failing (flags : Flags) (st : State) (its : List Item) :
    (stepOn flags st its).Failing st its := by
  unfold stepOn step
  split
  · exact branch_failing st its
  · exact atom_failing flags st its
  · exact quantifier_failing st _ its
  · exact minimum_failing st _ _ its
  · exact comma_failing st _ _ _ its
  · next hmode => exact maximum_failing hmode
  · exact closingBrace_failing st _ _ its
  · exact lazyMark_failing st _ _ its
  · next hmode => exact reference_failing hmode
  · exact members_failing st _ its
  · next hmode => exact rangeEnd_failing hmode
  · exact closing_failing st _ _ its

/-! ## Runs -/

theorem Reaches.fails {taken : List Item} {f : Fault} (h : Reaches flags its taken rest st)
    (hrun : run flags st rest = .error f) :
    ∃ taken' rest' st', Reaches flags its taken' rest' st' ∧ Fails st' rest' f := by
  induction st, rest using run_induction flags generalizing taken with
  | done st rest e hmove =>
      rw [run_done hmove] at hrun
      cases hrun
  | fail st rest f' hmove =>
      rw [run_fail hmove] at hrun
      cases hrun
      have hfailing := stepOn_failing flags st rest
      rw [hmove] at hfailing
      exact ⟨taken, rest, st, h, hfailing⟩
  | shift st rest count next hmove ih =>
      rw [run_shift hmove] at hrun
      exact ih (h.step hmove) hrun

theorem fails_of_parseItems {f : Fault} (h : parseItems flags its = .error f) :
    ∃ taken rest st, Reaches flags its taken rest st ∧ Fails st rest f :=
  Reaches.start.fails h

end

/-! ## A fault among the items -/

section

variable {flags : Flags} {st : State}

/-- Only in a class a step looks at a third item. -/
theorem step_third (hmode : ∀ k, st.mode ≠ .members k) (p0 p1 p2 p2' : Option Item) :
    step flags st p0 p1 p2 = step flags st p0 p1 p2' := by
  unfold step
  split <;> first | rfl | exact absurd ‹_› (hmode _)

theorem stepOn_members {k : OpenClass} (hmode : st.mode = .members k) (f : LexicalFault)
    (more : List Item) : stepOn flags st (.fault f :: more) = .fail (.lexical f) := by
  simp only [stepOn, step, hmode, List.getElem?_cons_zero, members, groupEnd]
  split_ifs <;> rfl

/-- Behind a class character the third item is looked at only if the second one is a dash. -/
theorem classChar_fault (st : State) (k : OpenClass) (c : Char) (range : Location)
    (p1 : Option Item) (f : LexicalFault) :
    classChar st k c range p1 (some (.fault f)) = .fail (.lexical f) ∨
      ∀ p2, classChar st k c range p1 (some (.fault f)) = classChar st k c range p1 p2 := by
  by_cases hdash : ∃ dash, p1 = some (.lexeme ⟨.char '-', dash⟩)
  · obtain ⟨dash, rfl⟩ := hdash
    exact .inl rfl
  · have hplain (p2 : Option Item) :
        classChar st k c range p1 p2 = classChar st k c range p1 none := by
      unfold classChar
      split
      · rfl
      · exact absurd ⟨_, rfl⟩ hdash
      · rfl
    exact .inr fun p2 => (hplain _).trans (hplain p2).symm

/-- With a fault behind the lexemes a step meets it, or does what it would do with other items in
place of the fault, or takes all of the lexemes and is in a class. -/
theorem stepOn_fault (flags : Flags) (st : State) (ls : List Lexeme) (f : LexicalFault)
    (more its : List Item) :
    stepOn flags st (items ls ++ .fault f :: more) = .fail (.lexical f) ∨
      stepOn flags st (items ls ++ .fault f :: more) = stepOn flags st (items ls ++ its) ∨
      ∃ next k, stepOn flags st (items ls ++ .fault f :: more) = .shift ls.length next ∧
        next.mode = .members k := by
  match ls with
  | [] =>
      cases hmode : st.mode with
      | members k => exact .inl (stepOn_members hmode f more)
      | closing c outer =>
          simp only [stepOn, step, hmode]
          cases outer with
          | nil => exact .inr (.inl rfl)
          | cons g outer => exact .inl rfl
      | _ =>
          simp only [stepOn, step, hmode]
          exact .inl rfl
  | [⟨t, range⟩] =>
      cases hmode : st.mode with
      | atom =>
          simp only [stepOn, step, hmode]
          cases t with
          | classOpen => exact .inr (.inr ⟨_, _, rfl, rfl⟩)
          | _ => exact .inr (.inl rfl)
      | maximum e start min =>
          simp only [stepOn, step, hmode]
          cases t with
          | number max =>
              by_cases hle : min ≤ max
              · exact .inr (.inl ((if_pos hle).trans (if_pos hle).symm))
              · exact .inl (if_neg hle)
          | _ => exact .inr (.inl rfl)
      | members k =>
          simp only [stepOn, step, hmode]
          cases t with
          | char c | digit c | singleEscape c => exact .inl rfl
          | subtract =>
              by_cases hempty : k.members.isEmpty = true
              · exact .inr (.inl ((if_pos hempty).trans (if_pos hempty).symm))
              · exact .inl (if_neg hempty)
          | _ => exact .inr (.inl rfl)
      | _ =>
          simp only [stepOn, step, hmode]
          exact .inr (.inl rfl)
  | [⟨t, range⟩, ⟨t', range'⟩] =>
      cases hmode : st.mode with
      | members k =>
          simp only [stepOn, step, hmode]
          cases t with
          | char c | digit c | singleEscape c =>
              rcases classChar_fault st k c range (some (.lexeme ⟨t', range'⟩)) f with h | h
              · exact .inl h
              · exact .inr (.inl (h _))
          | subtract =>
              by_cases hempty : k.members.isEmpty = true
              · exact .inr (.inl ((if_pos hempty).trans (if_pos hempty).symm))
              · cases t' with
                | classOpen => exact .inr (.inr ⟨_, _, if_neg hempty, rfl⟩)
                | _ => exact .inr (.inl ((if_neg hempty).trans (if_neg hempty).symm))
          | _ => exact .inr (.inl rfl)
      | _ => exact .inr (.inl (step_third (by simp [hmode]) _ _ _ _))
  | _ :: _ :: _ :: _ => exact .inr (.inl rfl)

/-- Lexemes that are taken from before a fault. -/
theorem append_of_items_eq {ls taken : List Lexeme} {f : LexicalFault} {more rest : List Item}
    (h : items ls ++ .fault f :: more = items taken ++ rest) :
    ∃ later, ls = taken ++ later ∧ rest = items later ++ .fault f :: more := by
  induction taken generalizing ls with
  | nil => exact ⟨ls, rfl, h.symm⟩
  | cons l taken ih =>
      cases ls with
      | nil => cases h
      | cons l' ls =>
          obtain ⟨heq, htail⟩ := List.cons.inj h
          obtain ⟨later, rfl, hrest⟩ := ih htail
          cases heq
          exact ⟨later, rfl, hrest⟩

/-- A run meets a fault, or what stands in its place makes no difference. -/
theorem run_fault_or (flags : Flags) (st : State) (ls : List Lexeme) (f : LexicalFault)
    (more its : List Item) :
    run flags st (items ls ++ .fault f :: more) = .error (.lexical f) ∨
      run flags st (items ls ++ .fault f :: more) = run flags st (items ls ++ its) := by
  generalize hall : items ls ++ .fault f :: more = all
  induction st, all using run_induction flags generalizing ls with
  | done st all e hmove =>
      subst hall
      rcases stepOn_fault flags st ls f more its with h | h | ⟨next, k, h, -⟩
      · exact .inl (run_fail h)
      · exact .inr ((run_done hmove).trans (run_done (h ▸ hmove)).symm)
      · cases hmove.symm.trans h
  | fail st all f' hmove =>
      subst hall
      rcases stepOn_fault flags st ls f more its with h | h | ⟨next, k, h, -⟩
      · exact .inl (run_fail h)
      · exact .inr ((run_fail hmove).trans (run_fail (h ▸ hmove)).symm)
      · cases hmove.symm.trans h
  | shift st all count next hmove ih =>
      subst hall
      have hfollows := stepOn_follows flags st (items ls ++ .fault f :: more)
      rw [hmove] at hfollows
      obtain ⟨taken, rest, hsplit, rfl, -⟩ := hfollows
      obtain ⟨later, rfl, rfl⟩ := append_of_items_eq hsplit
      have hdrop (behind : List Item) :
          (items (taken ++ later) ++ behind).drop taken.length = items later ++ behind := by
        have hlength : taken.length = (items taken).length := (List.length_map _).symm
        rw [items_append, List.append_assoc, hlength, List.drop_left]
      have hbehind := ih later (hdrop _).symm
      rw [hdrop] at hbehind
      rw [run_shift hmove, hdrop]
      rcases stepOn_fault flags st (taken ++ later) f more its with h | h | ⟨next', k, h, hmode⟩
      · cases hmove.symm.trans h
      · rwa [run_shift (h.symm.trans hmove), hdrop]
      · obtain ⟨hcount, rfl⟩ := Move.shift.inj (hmove.symm.trans h)
        obtain rfl : later = [] := by simpa using hcount
        exact .inl (run_fail (stepOn_members hmode f more))

end

end Parser

end SchemaPattern
