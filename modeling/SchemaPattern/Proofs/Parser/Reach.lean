import SchemaPattern.Proofs.GroupSet
import SchemaPattern.Proofs.Nesting
import SchemaPattern.Proofs.Parser.Moves

/-!
# What the parser knows of groups

At each state of a run the counter holds the number of capturing groups opened so far, the set
holds those that are complete, and the stack holds those that are open.
-/

namespace SchemaPattern

namespace Parser

open Lexer (Item)

/-! ## States of a run -/

/-- The parser has taken items and is about to read the rest of them in a state. -/
inductive Reaches (flags : Flags) (its : List Item) : List Item → List Item → State → Prop
  | start : Reaches flags its [] its {}
  | step {taken rest : List Item} {st next : State} {count : Nat}
      (h : Reaches flags its taken rest st) (hmove : stepOn flags st rest = .shift count next) :
      Reaches flags its (taken ++ rest.take count) (rest.drop count) next

section

variable {flags : Flags} {its taken rest : List Item} {st : State}

theorem Reaches.split (h : Reaches flags its taken rest st) : its = taken ++ rest := by
  induction h with
  | start => rfl
  | step h hmove ih => rw [ih, List.append_assoc, List.take_append_drop]

theorem Reaches.parseItems_eq (h : Reaches flags its taken rest st) :
    parseItems flags its = run flags st rest := by
  induction h with
  | start => rfl
  | step h hmove ih => rw [ih, run_shift hmove]

/-- What holds at the beginning and is kept by each rule holds in all states of a run. -/
theorem Reaches.invariant {motive : List Lexeme → List Item → State → Prop}
    (start : motive [] its {})
    (step : ∀ ls now rest st next, motive ls (items now ++ rest) st →
      Moves flags st now (tokens rest) next → motive (ls ++ now) rest next)
    (h : Reaches flags its taken rest st) : ∃ ls, taken = items ls ∧ motive ls rest st := by
  induction h with
  | start => exact ⟨[], rfl, start⟩
  | step h hmove ih =>
      rename_i rest st next count
      obtain ⟨ls, rfl, hmotive⟩ := ih
      have hfollows := stepOn_follows flags st rest
      rw [hmove] at hfollows
      obtain ⟨now, later, rfl, rfl, hmoves⟩ := hfollows
      have hcount : now.length = (items now).length := (List.length_map _).symm
      refine ⟨ls ++ now, ?_, ?_⟩
      · rw [items_append, hcount, List.take_left]
      · rw [hcount, List.drop_left]
        exact step ls now later st next hmotive hmoves

end

/-! ## The invariant -/

inductive OpenIn : List Token → List OpenGroup → Prop
  | nil {ts : List Token} (h : Balanced ts) : OpenIn ts []
  | cons {before inside : List Token} {t : Token} {f : OpenGroup} {outer : List OpenGroup}
      (h : OpenIn before outer) (ht : t.opensGroup = true)
      (hnumber : f.number = if t = .groupOpen then some (before.count .groupOpen + 1) else none)
      (hinside : Balanced inside) : OpenIn (before ++ t :: inside) (f :: outer)

structure Tracks (ts : List Token) (st : State) : Prop where
  count : st.groups.count = ts.count .groupOpen
  closed : ∀ n, st.groups.closed.contains n = true ↔ ClosedFrom 0 ts n
  nested : OpenIn ts st.openGroups

theorem tracks_start : Tracks [] {} where
  count := rfl
  closed n := by
    apply iff_of_false (by simp [GroupSet.contains_empty])
    rintro ⟨before, inside, after, heq, -⟩
    simp at heq
  nested := .nil balanced_nil

section

variable {ts us : List Token} {outer : List OpenGroup}

theorem OpenIn.append (h : OpenIn ts outer) (hus : Balanced us) : OpenIn (ts ++ us) outer := by
  cases h with
  | nil h => exact .nil (h.append hus)
  | cons h ht hnumber hinside =>
      rw [List.append_assoc, List.cons_append]
      exact .cons h ht hnumber (hinside.append hus)

theorem OpenIn.close {f : OpenGroup} (h : OpenIn ts (f :: outer)) :
    OpenIn (ts ++ [.groupClose]) outer := by
  cases h with
  | cons h ht hnumber hinside =>
      rw [List.append_assoc]
      exact h.append (balanced_group ht hinside)

/-- The group that is closed next is the innermost one that is open. -/
theorem OpenIn.closes_iff {f : OpenGroup} (h : OpenIn ts (f :: outer)) (n : Nat) :
    (∃ before inside, ts = before ++ .groupOpen :: inside ∧ Balanced inside ∧
      0 + before.count .groupOpen + 1 = n) ↔ f.number = some n := by
  cases h with
  | cons h ht hnumber hinside =>
      rw [hnumber]
      constructor
      · rintro ⟨before, inside, heq, hbalanced, hn⟩
        obtain ⟨rfl, rfl, rfl⟩ := opening_unique heq ht rfl hinside hbalanced
        rw [if_pos rfl, ← hn, Nat.zero_add]
      · intro hn
        split at hn
        · next hopen =>
          cases hn
          subst hopen
          exact ⟨_, _, rfl, hinside, by rw [Nat.zero_add]⟩
        · cases hn

end

/-! ## Steps preserve it -/

section

variable {flags : Flags} {st next : State} {taken : List Lexeme} {rest ts : List Token}

/-- A step opens a group, closes the innermost one, or leaves them all alone. -/
theorem moves_groups (h : Moves flags st taken rest next) :
    ((∀ l ∈ taken, l.token.bracketsGroup = false) ∧ next.groups = st.groups ∧
        next.openGroups = st.openGroups) ∨
      (∃ capturing range,
        taken = [⟨if capturing then .groupOpen else .nonCapturingGroupOpen, range⟩] ∧
          next.groups = (st.openGroup capturing).groups ∧
          next.openGroups = (st.openGroup capturing).openGroups) ∨
      ∃ f outer range, st.openGroups = f :: outer ∧ taken = [⟨.groupClose, range⟩] ∧
        next.groups = (st.closeGroup f outer).groups ∧ next.openGroups = outer := by
  cases h with
  | closeGroup hmode hopen => exact .inr (.inr ⟨_, _, _, hopen, rfl, rfl, rfl⟩)
  | openGroup hmode => exact .inr (.inl ⟨true, _, rfl, rfl, rfl⟩)
  | openUncounted hmode => exact .inr (.inl ⟨false, _, rfl, rfl, rfl⟩)
  | literal hmode hc => exact .inl ⟨by simp [Token.bracketsGroup_of_classChar hc], rfl, rfl⟩
  | escape hmode hname => exact .inl ⟨by simp [Token.bracketsGroup_of_escape hname], rfl, rfl⟩
  | memberEscape hmode hname => exact .inl ⟨by simp [Token.bracketsGroup_of_escape hname], rfl, rfl⟩
  | member hmode hc => exact .inl ⟨by simp [Token.bracketsGroup_of_classChar hc], rfl, rfl⟩
  | dash hmode hc =>
      have hdash : (Token.char '-').bracketsGroup = false := rfl
      exact .inl ⟨by simp [Token.bracketsGroup_of_classChar hc, hdash], rfl, rfl⟩
  | rangeEnd hmode hhigh => exact .inl ⟨by simp [Token.bracketsGroup_of_classChar hhigh], rfl, rfl⟩
  | _ => exact .inl ⟨by simp [Token.bracketsGroup, Token.opensGroup], rfl, rfl⟩

theorem Tracks.others (h : Tracks ts st) (htaken : ∀ l ∈ taken, l.token.bracketsGroup = false)
    (hgroups : next.groups = st.groups) (hopen : next.openGroups = st.openGroups) :
    Tracks (ts ++ taken.map Lexeme.token) next := by
  have hothers : ∀ t ∈ taken.map Lexeme.token, t.bracketsGroup = false := by
    simpa using htaken
  constructor
  · rw [hgroups, h.count, List.count_append, count_others hothers, Nat.add_zero]
  · intro n
    rw [hgroups, closedFrom_others hothers]
    exact h.closed n
  · rw [hopen]
    exact h.nested.append (balanced_of_others hothers)

theorem Tracks.opens (h : Tracks ts st) (capturing : Bool)
    (hgroups : next.groups = (st.openGroup capturing).groups)
    (hopen : next.openGroups = (st.openGroup capturing).openGroups) :
    Tracks (ts ++ [if capturing then .groupOpen else .nonCapturingGroupOpen]) next := by
  constructor
  · rw [hgroups, List.count_append]
    cases capturing <;> simp [State.openGroup, h.count]
  · intro n
    rw [hgroups, closedFrom_concat]
    cases capturing <;> simp [State.openGroup, h.closed]
  · rw [hopen]
    refine .cons h.nested ?_ ?_ balanced_nil
    · cases capturing <;> rfl
    · cases capturing <;> simp [h.count]

theorem Tracks.closes {f : OpenGroup} {outer : List OpenGroup} (h : Tracks ts st)
    (hstack : st.openGroups = f :: outer)
    (hgroups : next.groups = (st.closeGroup f outer).groups) (hopen : next.openGroups = outer) :
    Tracks (ts ++ [.groupClose]) next := by
  have hnested := h.nested
  rw [hstack] at hnested
  constructor
  · rw [hgroups, List.count_append]
    have hcount : (st.closeGroup f outer).groups.count = st.groups.count := by
      unfold State.closeGroup
      split <;> rfl
    rw [hcount, h.count]
    rfl
  · intro n
    rw [hgroups, closedFrom_concat, ← h.closed n, and_iff_right rfl, hnested.closes_iff]
    unfold State.closeGroup
    cases f.number with
    | none => simp
    | some m =>
        refine GroupSet.contains_insert.trans ?_
        rw [Option.some.injEq, or_comm, @eq_comm _ n m]
  · rw [hopen]
    exact hnested.close

theorem Tracks.moves (h : Tracks ts st) (hmove : Moves flags st taken rest next) :
    Tracks (ts ++ taken.map Lexeme.token) next := by
  rcases moves_groups hmove with ⟨htaken, hgroups, hopen⟩ |
    ⟨capturing, range, rfl, hgroups, hopen⟩ | ⟨f, outer, range, hstack, rfl, hgroups, hopen⟩
  · exact h.others htaken hgroups hopen
  · exact h.opens capturing hgroups hopen
  · exact h.closes hstack hgroups hopen

theorem Reaches.tracks {its taken rest : List Item} (h : Reaches flags its taken rest st) :
    ∃ ls, taken = items ls ∧ Tracks (ls.map Lexeme.token) st := by
  refine h.invariant (motive := fun ls _ st => Tracks (ls.map Lexeme.token) st) tracks_start ?_
  intro ls now rest st next htracks hmoves
  rw [List.map_append]
  exact htracks.moves hmoves

end

end Parser

end SchemaPattern
