import Mathlib.Data.List.Forall2
import SchemaPattern.Host.Matcher
import SchemaPattern.Proofs.Host.Folded

/-!
# Searches in inputs that differ in case

Two inputs are alike if their characters are variants of each other, one by one.  A folded plan goes
the same way in both: the runs stand at the same positions, and their groups begin and end at the same
positions.  All that is asked of the rule for references is that it respects this.
-/

namespace SchemaPattern

open Unicode

namespace Host

/-! ## What is alike -/

section

variable (R : Char → Char → Prop)

structure Cursor.Alike (cur cur' : Cursor) : Prop where
  index : cur'.index = cur.index
  previous : Option.Rel R cur.previous cur'.previous
  rest : List.Forall₂ R cur.rest cur'.rest

structure Capture.Alike (c c' : Capture) : Prop where
  start : c'.start = c.start
  stop : c'.stop = c.stop
  text : List.Forall₂ R c.text c'.text

/-- Under the same numbers there are values that the relation holds of. -/
def Numbered {α : Type} (relation : α → α → Prop) : List (Nat × α) → List (Nat × α) → Prop :=
  List.Forall₂ fun a b => b.1 = a.1 ∧ relation a.2 b.2

structure Progress.Alike (p p' : Progress) : Prop where
  cursor : p.cursor.Alike R p'.cursor
  captures : Numbered (Capture.Alike R) p.captures p'.captures

/-- References that ignore case take as much of the one input as of the other. -/
def ReferenceRule.Respects (rule : ReferenceRule) : Prop :=
  ∀ {cur cur' : Cursor} {text text' : List Char}, cur.Alike R cur' → List.Forall₂ R text text' →
    Option.Rel (Cursor.Alike R) (rule true cur text) (rule true cur' text')

end

/-! ## Options and lists -/

section

variable {α β : Type} {relation : α → α → Prop}

theorem rel_isSome {a b : Option α} (h : Option.Rel relation a b) : b.isSome = a.isSome := by
  cases h <;> rfl

theorem map_eq_of_rel {a b : Option α} {f g : α → β} (h : Option.Rel relation a b)
    (hfg : ∀ x y, relation x y → f x = g y) : a.map f = b.map g := by
  cases h with
  | none => rfl
  | some h => exact congrArg some (hfg _ _ h)

theorem rel_orElse {a b : Option α} {c d : Unit → Option α} (h : Option.Rel relation a b)
    (hother : Option.Rel relation (c ()) (d ())) :
    Option.Rel relation (a.orElse c) (b.orElse d) := by
  cases h with
  | none => exact hother
  | some h => exact .some h

theorem rel_bind {other : β → β → Prop} {a b : Option α} {f g : α → Option β}
    (h : Option.Rel relation a b)
    (hfg : ∀ x y, relation x y → Option.Rel other (f x) (g y)) :
    Option.Rel other (a.bind f) (b.bind g) := by
  cases h with
  | none => exact .none
  | some h => exact hfg _ _ h

theorem Numbered.lookup {l l' : List (Nat × α)} (h : Numbered relation l l') (n : Nat) :
    Option.Rel relation (l.lookup n) (l'.lookup n) := by
  induction h with
  | nil => exact .none
  | @cons a b l l' hab _ ih =>
      obtain ⟨hnumber, hvalue⟩ := hab
      rw [List.lookup_cons, List.lookup_cons, hnumber]
      split
      · exact .some hvalue
      · exact ih

theorem Numbered.filter {l l' : List (Nat × α)} (h : Numbered relation l l') (keep : Nat → Bool) :
    Numbered relation (l.filter fun a => keep a.1) (l'.filter fun a => keep a.1) := by
  induction h with
  | nil => exact .nil
  | @cons a b l l' hab _ ih =>
      rw [List.filter_cons, List.filter_cons, hab.1]
      split
      · exact .cons hab ih
      · exact ih

end

/-! ## Positions -/

section

variable {R : Char → Char → Prop}

namespace Cursor

variable {cur cur' : Cursor}

theorem Alike.next (h : cur.Alike R cur') :
    Option.Rel (fun a b => R a.1 b.1 ∧ a.2.Alike R b.2) cur.next? cur'.next? := by
  obtain ⟨index, previous, rest⟩ := cur
  obtain ⟨index', previous', rest'⟩ := cur'
  obtain ⟨hindex, -, hrest⟩ := h
  cases hrest with
  | nil => exact .none
  | cons hvariant hrest => exact .some ⟨hvariant, congrArg (· + 1) hindex, .some hvariant, hrest⟩

theorem Alike.advance (h : cur.Alike R cur') (n : Nat) :
    (cur.advance n).Alike R (cur'.advance n) := by
  induction n generalizing cur cur' with
  | zero => exact h
  | succ n ih =>
      have hnext := h.next
      unfold Cursor.advance
      generalize cur.next? = next at hnext
      generalize cur'.next? = next' at hnext
      cases hnext with
      | none => exact h
      | some hnext => exact ih hnext.2

theorem Alike.upTo {later later' : Cursor} (h : cur.Alike R cur')
    (hlater : later.Alike R later') : (cur.upTo later).Alike R (cur'.upTo later') where
  start := h.index
  stop := hlater.index
  text := by
    simp only [Cursor.upTo, h.index, hlater.index]
    exact List.forall₂_take _ h.rest

/-- No character but the end of a line counts as one. -/
theorem newline_iff (hcase : ∀ c d, R c d → CaseVariant c d) {c d : Option Char}
    (h : Option.Rel R c d) : (d == some '\n') = (c == some '\n') := by
  cases h with
  | none => rfl
  | @some c d h =>
      have hne := FoldedProperty.ne_of_notMem newline_notMem_cased c d (hcase c d h)
      rw [Bool.eq_iff_iff]
      simpa using (not_iff_not.1 hne).symm

theorem Alike.atBorder (hcase : ∀ c d, R c d → CaseVariant c d) (h : cur.Alike R cur')
    (atStart multiline : Bool) : cur'.atBorder atStart multiline = cur.atBorder atStart multiline := by
  have hhead : Option.Rel R cur.rest.head? cur'.rest.head? := by
    have hrest := h.rest
    generalize cur.rest = rest at hrest
    generalize cur'.rest = rest' at hrest
    cases hrest with
    | nil => exact .none
    | cons hvariant _ => exact .some hvariant
  have hneighbour : Option.Rel R (if atStart then cur.previous else cur.rest.head?)
      (if atStart then cur'.previous else cur'.rest.head?) := by
    cases atStart
    · exact hhead
    · exact h.previous
  simp only [Cursor.atBorder, newline_iff hcase hneighbour]
  rw [← Option.not_isSome, ← Option.not_isSome, rel_isSome hneighbour]

end Cursor

section

variable {p p' : Progress}

theorem Progress.Alike.withCursor (h : p.Alike R p') {cur cur' : Cursor}
    (hcursor : cur.Alike R cur') :
    Progress.Alike R { p with cursor := cur } { p' with cursor := cur' } := ⟨hcursor, h.captures⟩

theorem Progress.Alike.captured (h : p.Alike R p') (number : Nat) {start start' : Cursor}
    (hstart : start.Alike R start') :
    (p.captured number start).Alike R (p'.captured number start') :=
  ⟨h.cursor, .cons ⟨rfl, hstart.upTo h.cursor⟩ h.captures⟩

theorem Progress.Alike.without (h : p.Alike R p') (groups : List Nat) :
    (p.without groups).Alike R (p'.without groups) :=
  ⟨h.cursor, h.captures.filter fun n => !groups.contains n⟩

end

end

/-! ## Automata -/

structure Thread.Alike (R : Char → Char → Prop) (t t' : Thread) : Prop where
  state : t'.state = t.state
  progress : t.progress.Alike R t'.progress
  entered : Numbered (Cursor.Alike R) t.entered t'.entered

section

variable {R : Char → Char → Prop} (hcase : ∀ c d, R c d → CaseVariant c d)

include hcase

theorem Instruction.Folded.follow {i : Instruction} (hi : i.Folded) {t t' : Thread}
    (h : t.Alike R t') : List.Forall₂ (Thread.Alike R) (i.follow t) (i.follow t') := by
  cases i with
  | take chars next =>
      have hnext := h.progress.cursor.next
      unfold Instruction.follow
      generalize t.progress.cursor.next? = first at hnext
      generalize t'.progress.cursor.next? = first' at hnext
      cases hnext with
      | none => exact .nil
      | some hnext =>
          simp only [← hi _ _ (hcase _ _ hnext.1)]
          split
          · exact .cons ⟨rfl, h.progress.withCursor hnext.2, h.entered⟩ .nil
          · exact .nil
  | border atStart multiline next =>
      unfold Instruction.follow
      simp only [h.progress.cursor.atBorder hcase]
      split
      · exact .cons ⟨rfl, h.progress, h.entered⟩ .nil
      · exact .nil
  | enter group next =>
      exact .cons ⟨rfl, h.progress, .cons ⟨rfl, h.progress.cursor⟩ h.entered⟩ .nil
  | leave group next =>
      have hstart := h.entered.lookup group
      simp only [Instruction.follow]
      generalize t.entered.lookup group = start at hstart
      generalize t'.entered.lookup group = start' at hstart
      cases hstart with
      | none => exact .nil
      | some hstart => exact .cons ⟨rfl, h.progress.captured group hstart, h.entered⟩ .nil
  | choose ways =>
      rw [Instruction.follow, Instruction.follow, List.forall₂_map_left_iff,
        List.forall₂_map_right_iff, List.forall₂_same]
      exact fun _ _ => ⟨rfl, h.progress, h.entered⟩
  | accept => exact .nil

namespace Automaton

variable {a : Automaton}

/-- Both searches follow the same instructions at the same positions. -/
theorem explore_alike (ha : a.code.Folded) (fuel : Nat) (seen : Std.HashSet (Nat × Nat))
    {ts ts' : List Thread} (h : List.Forall₂ (Thread.Alike R) ts ts') :
    Option.Rel (Progress.Alike R) (a.explore fuel seen ts) (a.explore fuel seen ts') := by
  induction fuel generalizing seen ts ts' with
  | zero => cases h <;> exact .none
  | succ fuel ih =>
      cases h with
      | nil => exact .none
      | @cons t t' rest rest' ht hrest =>
          rw [explore, explore, ht.state, ht.progress.cursor.index]
          split
          · exact ih seen hrest
          · cases hcode : a.code[t.state]? with
            | none => exact ih seen hrest
            | some i =>
                have hi := ha i (Array.mem_of_getElem? hcode)
                cases i with
                | accept => exact .some ht.progress
                | _ => exact ih _ (List.rel_append (hi.follow hcase ht) hrest)

theorem run_alike (ha : a.code.Folded) {p p' : Progress} (h : p.Alike R p') :
    Option.Rel (Progress.Alike R) (a.run p) (a.run p') := by
  rw [run, run, h.cursor.rest.length_eq]
  exact explore_alike hcase ha _ _ (.cons ⟨rfl, h.without a.groups, .nil⟩ .nil)

end Automaton

end

/-! ## Matchers -/

section

variable (R : Char → Char → Prop)

/-- What is to be matched behind goes the same way. -/
def Rest.Alike (k k' : Rest) : Prop :=
  ∀ p p', p.Alike R p' → Option.Rel (Progress.Alike R) (k p) (k' p')

/-- The matcher does not tell case. -/
def Matcher.Blind (m : Matcher) : Prop :=
  ∀ {p p' : Progress} {k k' : Rest}, p.Alike R p' → k.Alike R k' →
    Option.Rel (Progress.Alike R) (m p k) (m p' k')

end

namespace Matcher

variable {R : Char → Char → Prop} {m : Matcher}

theorem choose_alike (lazy : Bool) {more more' stop stop' : Unit → Option Progress}
    (hmore : Option.Rel (Progress.Alike R) (more ()) (more' ()))
    (hstop : Option.Rel (Progress.Alike R) (stop ()) (stop' ())) :
    Option.Rel (Progress.Alike R) (choose lazy more stop) (choose lazy more' stop') := by
  cases lazy with
  | false => exact rel_orElse hmore hstop
  | true => exact rel_orElse hstop hmore

theorem Blind.times (hm : m.Blind R) (n : Nat) : (times m n).Blind R := by
  induction n with
  | zero => exact fun hp hk => hk _ _ hp
  | succ n ih => exact fun hp hk => hm hp fun _ _ hq => ih hq hk

theorem Blind.upTo (hm : m.Blind R) (lazy : Bool) (n : Nat) : (upTo m lazy n).Blind R := by
  induction n with
  | zero => exact fun hp hk => hk _ _ hp
  | succ n ih =>
      exact fun hp hk => choose_alike lazy (hm hp fun _ _ hq => ih hq hk) (hk _ _ hp)

theorem Blind.untilEmpty (hm : m.Blind R) (lazy : Bool) (n : Nat) : (untilEmpty m lazy n).Blind R := by
  induction n with
  | zero => exact fun hp hk => hk _ _ hp
  | succ n ih =>
      intro p p' k k' hp hk
      refine choose_alike lazy (hm hp fun q q' hq => ?_) (hk _ _ hp)
      simp only [hq.cursor.index, hp.cursor.index]
      split
      · exact hk _ _ hq
      · exact ih hq hk

theorem Blind.zeroOrMore (hm : m.Blind R) (lazy : Bool) : (zeroOrMore m lazy).Blind R := by
  intro p p' k k' hp hk
  rw [Matcher.zeroOrMore, Matcher.zeroOrMore, hp.cursor.rest.length_eq]
  exact hm.untilEmpty lazy _ hp hk

theorem Blind.repeated (hm : m.Blind R) (min : Nat) (max : Option Nat) (lazy : Bool) :
    (repeated m min max lazy).Blind R := by
  intro p p' k k' hp hk
  refine hm.times min hp fun q q' hq => ?_
  cases max with
  | none => exact hm.zeroOrMore lazy hq hk
  | some max => exact hm.upTo lazy _ hq hk

end Matcher

/-! ## Plans -/

namespace Plan

variable {R : Char → Char → Prop} {rule : ReferenceRule}

theorem blind_runAll {items : List Plan} (h : ∀ n ∈ items, (run rule n).Blind R) :
    (runAll rule items).Blind R := by
  induction items with
  | nil => exact fun hp hk => hk _ _ hp
  | cons n items ih =>
      obtain ⟨hn, hitems⟩ := List.forall_mem_cons.1 h
      exact fun hp hk => hn hp fun _ _ hq => ih hitems hq hk

theorem blind_runAny {branches : List Plan} (h : ∀ n ∈ branches, (run rule n).Blind R) :
    (runAny rule branches).Blind R := by
  induction branches with
  | nil => exact fun _ _ => .none
  | cons n branches ih =>
      obtain ⟨hn, hbranches⟩ := List.forall_mem_cons.1 h
      exact fun hp hk => rel_orElse (hn hp hk) (ih hbranches hp hk)

/-- Where a match begins and how it ends. -/
def MatchesAlike (R : Char → Char → Prop) (a b : Cursor × Progress) : Prop :=
  a.1.Alike R b.1 ∧ a.2.Alike R b.2

section

variable (hcase : ∀ c d, R c d → CaseVariant c d) (hrule : rule.Respects R)

include hcase hrule

theorem Folded.run {n : Plan} (h : n.Folded) : (run rule n).Blind R := by
  induction h with
  | automatic h => exact fun hp hk => rel_bind (Automaton.run_alike hcase h hp) hk
  | alternation h ih => exact blind_runAny ih
  | row h ih => exact blind_runAll ih
  | repeated min max lazy h ih => exact ih.repeated min max lazy
  | capture number h ih =>
      exact fun hp hk => ih hp fun _ _ hq => hk _ _ (hq.captured number hp.cursor)
  | reference number =>
      intro p p' k k' hp hk
      have hcapture := hp.captures.lookup number
      unfold Plan.run
      generalize p.captures.lookup number = c at hcapture
      generalize p'.captures.lookup number = c' at hcapture
      cases hcapture with
      | none => exact .none
      | some hcapture =>
          exact rel_bind (hrule hp.cursor hcapture.text) fun _ _ hcursor =>
            hk _ _ (hp.withCursor hcursor)
  | border atStart multiline =>
      intro p p' k k' hp hk
      simp only [Plan.run, hp.cursor.atBorder hcase]
      split
      · exact hk _ _ hp
      · exact .none
  | set h =>
      intro p p' k k' hp hk
      have hnext := hp.cursor.next
      unfold Plan.run
      generalize p.cursor.next? = next at hnext
      generalize p'.cursor.next? = next' at hnext
      cases hnext with
      | none => exact .none
      | some hnext =>
          simp only [← h _ _ (hcase _ _ hnext.1)]
          split
          · exact hk _ _ (hp.withCursor hnext.2)
          · exact .none

theorem Folded.findFrom {n : Plan} (h : n.Folded) (index : Nat)
    {previous previous' : Option Char} (hprevious : Option.Rel R previous previous')
    {text text' : List Char} (htext : List.Forall₂ R text text') :
    Option.Rel (MatchesAlike R) (n.findFrom rule index previous text)
      (n.findFrom rule index previous' text') := by
  have hmatch {index : Nat} {previous previous' : Option Char} {text text' : List Char}
      (hprevious : Option.Rel R previous previous') (htext : List.Forall₂ R text text') :
      Option.Rel (Progress.Alike R) (n.matchAt rule ⟨index, previous, text⟩)
        (n.matchAt rule ⟨index, previous', text'⟩) :=
    h.run hcase hrule ⟨⟨rfl, hprevious, htext⟩, .nil⟩ fun _ _ hp => .some hp
  induction htext generalizing index previous previous' with
  | nil =>
      have hhere := @hmatch index _ _ [] [] hprevious .nil
      unfold Plan.findFrom
      generalize n.matchAt rule ⟨index, previous, []⟩ = here at hhere
      generalize n.matchAt rule ⟨index, previous', []⟩ = here' at hhere
      cases hhere with
      | none => exact .none
      | some hhere => exact .some ⟨⟨rfl, hprevious, .nil⟩, hhere⟩
  | @cons c c' rest rest' hvariant hrest ih =>
      have hhere := @hmatch index _ _ _ _ hprevious (.cons hvariant hrest)
      unfold Plan.findFrom
      generalize n.matchAt rule ⟨index, previous, c :: rest⟩ = here at hhere
      generalize n.matchAt rule ⟨index, previous', c' :: rest'⟩ = here' at hhere
      cases hhere with
      | none => exact ih (index + 1) (.some hvariant)
      | some hhere => exact .some ⟨⟨rfl, hprevious, .cons hvariant hrest⟩, hhere⟩

end

end Plan

end Host

end SchemaPattern
