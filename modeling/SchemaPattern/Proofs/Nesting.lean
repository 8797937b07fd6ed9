import Mathlib.Data.List.Basic
import SchemaPattern.Token

/-!
# How groups nest

The tokens that open and close groups are brackets.  The end of a group is the first token behind
its opening at which as many groups have been closed as opened.
-/

namespace SchemaPattern

def Token.opensGroup : Token → Bool
  | groupOpen | nonCapturingGroupOpen => true
  | _ => false

def Token.bracketsGroup (t : Token) : Bool := t.opensGroup || t = groupClose

theorem Token.bracketsGroup_of_classChar {t : Token} {c : Char} (h : t.classChar? = some c) :
    t.bracketsGroup = false := by
  cases t <;> first | rfl | cases h

theorem Token.bracketsGroup_of_escape {t : Token} {name : EscapeName}
    (h : t.escapeName? = some name) : t.bracketsGroup = false := by
  cases t <;> first | rfl | cases h

/-- How many groups are open behind a token, given how many are before it. -/
def nest (depth : Nat) (t : Token) : Option Nat :=
  match t with
  | .groupOpen | .nonCapturingGroupOpen => some (depth + 1)
  | .groupClose => if depth = 0 then none else some (depth - 1)
  | _ => some depth

/-- Each group that is opened is closed, and no other one. -/
def Balanced (ts : List Token) : Prop := ts.foldlM nest 0 = some 0

/-- The group of this number is opened and closed in tokens before which a number of groups has
been opened. -/
def ClosedFrom (opened : Nat) (ts : List Token) (n : Nat) : Prop :=
  ∃ before inside after, ts = before ++ .groupOpen :: inside ++ .groupClose :: after ∧
    Balanced inside ∧ opened + before.count .groupOpen + 1 = n

section

variable {t s : Token} {ts us : List Token} {depth depth' n : Nat}

/-! ## Balanced tokens -/

theorem nest_opening (h : t.opensGroup = true) : nest depth t = some (depth + 1) := by
  cases t <;> first | rfl | cases h

theorem nest_other (h : t.bracketsGroup = false) : nest depth t = some depth := by
  cases t <;> first | rfl | cases h

theorem nest_add (h : nest depth t = some depth') : nest (depth + n) t = some (depth' + n) := by
  cases t with
  | groupOpen =>
      cases h
      exact congrArg some (Nat.add_right_comm depth n 1)
  | nonCapturingGroupOpen =>
      cases h
      exact congrArg some (Nat.add_right_comm depth n 1)
  | groupClose =>
      simp only [nest] at h ⊢
      split at h
      · cases h
      · next hdepth =>
        cases h
        rw [if_neg (by omega)]
        exact congrArg some (by omega)
  | _ =>
      cases h
      rfl

theorem nesting_add (h : ts.foldlM nest depth = some depth') :
    ts.foldlM nest (depth + n) = some (depth' + n) := by
  induction ts generalizing depth with
  | nil =>
      cases h
      rfl
  | cons t ts ih =>
      rw [List.foldlM_cons, Option.bind_eq_bind, Option.bind_eq_some_iff] at h
      obtain ⟨mid, hmid, hrest⟩ := h
      rw [List.foldlM_cons, nest_add hmid]
      exact ih hrest

theorem Balanced.nesting (h : Balanced ts) (depth : Nat) :
    ts.foldlM nest depth = some depth := by
  have hadd : ts.foldlM nest (0 + depth) = some (0 + depth) := nesting_add h
  rwa [Nat.zero_add] at hadd

theorem balanced_nil : Balanced [] := rfl

theorem Balanced.append (h : Balanced ts) (h' : Balanced us) : Balanced (ts ++ us) := by
  rw [Balanced, List.foldlM_append, h]
  exact h'

theorem balanced_group (ht : t.opensGroup = true) (h : Balanced ts) :
    Balanced (t :: ts ++ [.groupClose]) := by
  rw [Balanced, List.cons_append, List.foldlM_cons, nest_opening ht]
  refine (List.foldlM_append ..).trans ?_
  rw [h.nesting]
  rfl

theorem balanced_of_others (h : ∀ t ∈ ts, t.bracketsGroup = false) : Balanced ts := by
  induction ts with
  | nil => rfl
  | cons t ts ih =>
      rw [Balanced, List.foldlM_cons, nest_other (h t (.head _))]
      exact ih fun u hu => h u (.tail _ hu)

theorem nesting_filter (ts : List Token) (depth : Nat) :
    (ts.filter Token.bracketsGroup).foldlM nest depth = ts.foldlM nest depth := by
  induction ts generalizing depth with
  | nil => rfl
  | cons t ts ih =>
      cases ht : t.bracketsGroup with
      | true =>
          rw [List.filter_cons_of_pos ht, List.foldlM_cons, List.foldlM_cons]
          exact bind_congr ih
      | false =>
          rw [List.filter_cons_of_neg (by simp [ht]), List.foldlM_cons, nest_other ht, ih]
          rfl

theorem Balanced.of_filter_eq
    (h : ts.filter Token.bracketsGroup = us.filter Token.bracketsGroup) (hus : Balanced us) :
    Balanced ts := by
  rw [Balanced, ← nesting_filter, h, nesting_filter]
  exact hus

/-- An opening that is not closed in balanced tokens behind which other balanced ones stand. -/
theorem not_balanced_opening (ht : t.opensGroup = true) (h : Balanced us) :
    ¬ Balanced (ts ++ t :: us) := by
  intro hbalanced
  rw [Balanced, List.foldlM_append, Option.bind_eq_bind, Option.bind_eq_some_iff] at hbalanced
  obtain ⟨depth, -, hrest⟩ := hbalanced
  rw [List.foldlM_cons, nest_opening ht] at hrest
  have hopen : us.foldlM nest (depth + 1) = some 0 := hrest
  rw [h.nesting] at hopen
  cases hopen

/-- The innermost open group is found in one way only. -/
theorem opening_unique {before before' inside inside' : List Token}
    (h : before ++ t :: inside = before' ++ s :: inside') (ht : t.opensGroup = true)
    (hs : s.opensGroup = true) (hinside : Balanced inside) (hinside' : Balanced inside') :
    before = before' ∧ t = s ∧ inside = inside' := by
  rcases List.append_eq_append_iff.1 h with ⟨ws, rfl, hws⟩ | ⟨ws, rfl, hws⟩
  · cases ws with
    | nil =>
        cases hws
        simp
    | cons w ws =>
        cases hws
        exact absurd hinside (not_balanced_opening hs hinside')
  · cases ws with
    | nil =>
        cases hws
        simp
    | cons w ws =>
        cases hws
        exact absurd hinside' (not_balanced_opening ht hinside)

/-! ## Closed groups -/

theorem ClosedFrom.append_left {opened : Nat} (h : ClosedFrom opened ts n) :
    ClosedFrom opened (ts ++ us) n := by
  obtain ⟨before, inside, after, rfl, hinside, hn⟩ := h
  exact ⟨before, inside, after ++ us, by simp, hinside, hn⟩

theorem ClosedFrom.append_right {opened : Nat}
    (h : ClosedFrom (opened + ts.count .groupOpen) us n) : ClosedFrom opened (ts ++ us) n := by
  obtain ⟨before, inside, after, rfl, hinside, rfl⟩ := h
  refine ⟨ts ++ before, inside, after, by simp, hinside, ?_⟩
  rw [List.count_append]
  omega

/-- A group is closed behind one more token if it was before, or if that token closes it. -/
theorem closedFrom_concat {opened : Nat} :
    ClosedFrom opened (ts ++ [t]) n ↔
      ClosedFrom opened ts n ∨ t = .groupClose ∧ ∃ before inside,
        ts = before ++ .groupOpen :: inside ∧ Balanced inside ∧
          opened + before.count .groupOpen + 1 = n := by
  constructor
  · rintro ⟨before, inside, after, heq, hinside, hn⟩
    rcases List.eq_nil_or_concat after with rfl | ⟨after, u, rfl⟩
    · obtain ⟨rfl, hlast⟩ := List.append_inj' heq rfl
      cases hlast
      exact .inr ⟨rfl, before, inside, rfl, hinside, hn⟩
    · rw [List.concat_eq_append, ← List.cons_append, ← List.append_assoc] at heq
      obtain ⟨rfl, -⟩ := List.append_inj' heq rfl
      exact .inl ⟨before, inside, after, rfl, hinside, hn⟩
  · rintro (h | ⟨rfl, before, inside, rfl, hinside, hn⟩)
    · exact h.append_left
    · exact ⟨before, inside, [], rfl, hinside, hn⟩

theorem closedFrom_others {opened n : Nat} (h : ∀ t ∈ us, t.bracketsGroup = false) :
    ClosedFrom opened (ts ++ us) n ↔ ClosedFrom opened ts n := by
  induction us generalizing ts with
  | nil => rw [List.append_nil]
  | cons u us ih =>
      have hu : u ≠ .groupClose := by
        rintro rfl
        exact absurd (h _ (.head _)) (by decide)
      rw [← List.singleton_append, ← List.append_assoc]
      rw [ih fun t ht => h t (.tail _ ht), closedFrom_concat]
      simp [hu]

theorem count_others (h : ∀ t ∈ us, t.bracketsGroup = false) : us.count .groupOpen = 0 := by
  refine List.count_eq_zero.2 fun hmem => ?_
  exact absurd (h _ hmem) (by decide)

theorem count_groupOpen_filter :
    (ts.filter Token.bracketsGroup).count .groupOpen = ts.count .groupOpen :=
  List.count_filter rfl

end

end SchemaPattern
