import SchemaPattern.Proofs.Nesting
import SchemaPattern.Proofs.Parser.Soundness

/-!
# Groups of an expression

An expression holds no numbers for its groups.  Read from left to right, it shows the brackets of
its groups and its references in the order of the pattern.
-/

namespace SchemaPattern

inductive GroupMark
  | opens (capturing : Bool) (body : Expr)
  | closes
  | refers (n : Nat)

namespace GroupMark

def token : GroupMark → Token
  | opens true _ => .groupOpen
  | opens false _ => .nonCapturingGroupOpen
  | closes => .groupClose
  | refers n => .backReference n

def capture? : GroupMark → Option Expr
  | opens true body => some body
  | _ => none

end GroupMark

namespace Expr

mutual

/-- The brackets of groups and the references, in the order of the pattern. -/
def groupMarks : Expr → List GroupMark
  | disjunction branches => groupMarksOfAll branches
  | branch pieces => groupMarksOfAll pieces
  | piece atom _ => groupMarks atom
  | group capturing body => .opens capturing body :: groupMarks body ++ [.closes]
  | backReference n => [.refers n]
  | literal _ | wildcard _ | border _ _ | charClass _ | escape _ => []

def groupMarksOfAll : List Expr → List GroupMark
  | [] => []
  | e :: rest => groupMarks e ++ groupMarksOfAll rest

end

def groupTokens (e : Expr) : List Token := e.groupMarks.map GroupMark.token

/-- What stands in the capturing groups, in the order in which they begin. -/
def captures (e : Expr) : List Expr := e.groupMarks.filterMap GroupMark.capture?

theorem collects_groupMarks : Collects groupMarks groupMarksOfAll :=
  ⟨fun es => by rw [groupMarks], fun es => by rw [groupMarks], rfl, fun e es => rfl⟩

end Expr

namespace Grammar

def Phrase.groupMarks : Phrase → List GroupMark
  | .atom e | .piece e => e.groupMarks
  | .pieces es => Expr.groupMarksOfAll es
  | .branches bs => bs.flatMap Expr.groupMarksOfAll

theorem groupMarks_branches (bs : List (List Expr)) :
    (Phrase.branches bs).groupMarks = (expression bs).groupMarks :=
  (Expr.collects_groupMarks.expression bs).symm

/-! ## Groups of derived tokens -/

/-- The body of the group number `k` of the phrase, counted from zero, is what its tokens derive. -/
def Captured (flags : Flags) (g : Groups) (ts rest : List Token) (k : Nat) (body : Expr) : Prop :=
  ∃ before inside after bs g₁ g₂, ts = before ++ .groupOpen :: inside ++ .groupClose :: after ∧
    before.count .groupOpen = k ∧ Balanced inside ∧ g₁.opened = g.opened + k + 1 ∧
      Derives flags g₁ inside (.groupClose :: after ++ rest) (.branches bs) g₂ ∧
        body = expression bs

/-- What a phrase with these marks says of its groups. -/
structure Numbered (flags : Flags) (g : Groups) (ts rest : List Token) (marks : List GroupMark)
    (g' : Groups) : Prop where
  brackets : (marks.map GroupMark.token).filter Token.bracketsGroup =
    ts.filter Token.bracketsGroup
  balanced : Balanced ts
  opened : g'.opened = g.opened + ts.count .groupOpen
  closed : ∀ n ∈ g'.closed,
    n ∈ g.closed ∨ ClosedFrom g.opened (marks.map GroupMark.token) n
  count : (marks.filterMap GroupMark.capture?).length = ts.count .groupOpen
  capture : ∀ k body, (marks.filterMap GroupMark.capture?)[k]? = some body →
    Captured flags g ts rest k body
  reference : ∀ before n after,
    marks.map GroupMark.token = before ++ .backReference n :: after →
      n ∈ g.closed ∨ ClosedFrom g.opened before n

section

variable {flags : Flags} {g g' g'' : Groups} {ts us rest : List Token} {ms ms' : List GroupMark}

theorem filter_others (h : ∀ t ∈ ts, t.bracketsGroup = false) :
    ts.filter Token.bracketsGroup = [] :=
  List.filter_eq_nil_iff.2 fun t ht => by simp [h t ht]

theorem Numbered.others (h : ∀ t ∈ ts, t.bracketsGroup = false) :
    Numbered flags g ts rest [] g where
  brackets := (filter_others h).symm
  balanced := balanced_of_others h
  opened := by rw [count_others h, Nat.add_zero]
  closed n hn := .inl hn
  count := (count_others h).symm
  capture k body hk := by cases hk
  reference before n after heq := by simp at heq

theorem Numbered.count_marks (h : Numbered flags g ts rest ms g') :
    (ms.map GroupMark.token).count .groupOpen = ts.count .groupOpen := by
  rw [← count_groupOpen_filter, h.brackets, count_groupOpen_filter]

theorem Captured.append_left {k : Nat} {body : Expr} (h : Captured flags g ts (us ++ rest) k body) :
    Captured flags g (ts ++ us) rest k body := by
  obtain ⟨before, inside, after, bs, g₁, g₂, rfl, hk, hbalanced, hopened, hderives, hbody⟩ := h
  refine ⟨before, inside, after ++ us, bs, g₁, g₂, by simp, hk, hbalanced, hopened, ?_, hbody⟩
  simpa using hderives

theorem Captured.append_right {k : Nat} {body : Expr}
    (hopened : g'.opened = g.opened + ts.count .groupOpen) (h : Captured flags g' us rest k body) :
    Captured flags g (ts ++ us) rest (ts.count .groupOpen + k) body := by
  obtain ⟨before, inside, after, bs, g₁, g₂, rfl, hk, hbalanced, hinner, hderives, hbody⟩ := h
  refine ⟨ts ++ before, inside, after, bs, g₁, g₂, by simp, ?_, hbalanced, ?_, hderives, hbody⟩
  · rw [List.count_append, hk]
  · rw [hinner, hopened]
    omega

theorem cons_of_append_eq {α : Type} {xs ys before after : List α} {a : α}
    (h : xs ++ ys = before ++ a :: after) :
    (∃ inner, before = xs ++ inner ∧ ys = inner ++ a :: after) ∨
      ∃ inner, xs = before ++ a :: inner := by
  rcases List.append_eq_append_iff.1 h with ⟨inner, hbefore, hys⟩ | ⟨inner, hxs, hinner⟩
  · exact .inl ⟨inner, hbefore, hys⟩
  · cases inner with
    | nil => exact .inl ⟨[], by simpa using hxs.symm, hinner.symm⟩
    | cons b inner =>
        cases hinner
        exact .inr ⟨inner, hxs⟩

theorem Numbered.append (h : Numbered flags g ts (us ++ rest) ms g')
    (h' : Numbered flags g' us rest ms' g'') :
    Numbered flags g (ts ++ us) rest (ms ++ ms') g'' where
  brackets := by
    rw [List.map_append, List.filter_append, List.filter_append, h.brackets, h'.brackets]
  balanced := h.balanced.append h'.balanced
  opened := by
    rw [h'.opened, h.opened, List.count_append, Nat.add_assoc]
  closed n hn := by
    rw [List.map_append]
    rcases h'.closed n hn with hn | hn
    · exact (h.closed n hn).imp_right ClosedFrom.append_left
    · right
      rw [h.opened, ← h.count_marks] at hn
      exact hn.append_right
  count := by
    rw [List.filterMap_append, List.length_append, h.count, h'.count, List.count_append]
  capture k body hk := by
    rw [List.filterMap_append, List.getElem?_append, h.count] at hk
    split at hk
    · exact (h.capture k body hk).append_left
    · next hlt =>
      have hcaptured := (h'.capture _ body hk).append_right h.opened
      rwa [Nat.add_sub_cancel' (Nat.le_of_not_lt hlt)] at hcaptured
  reference before n after heq := by
    rw [List.map_append] at heq
    rcases cons_of_append_eq heq with ⟨inner, rfl, hinner⟩ | ⟨inner, hinner⟩
    · rcases h'.reference inner n after hinner with hn | hn
      · exact (h.closed n hn).imp_right ClosedFrom.append_left
      · right
        rw [h.opened, ← h.count_marks] at hn
        exact hn.append_right
    · exact h.reference before n inner hinner

theorem filterMap_group (capturing : Bool) (body : Expr) (ms : List GroupMark) :
    (GroupMark.opens capturing body :: ms ++ [GroupMark.closes]).filterMap GroupMark.capture? =
      (if capturing then [body] else []) ++ ms.filterMap GroupMark.capture? := by
  cases capturing <;> simp [List.filterMap_cons, List.filterMap_append, GroupMark.capture?]

theorem Captured.group {t : Token} {k n : Nat} {body : Expr}
    (h : Captured flags g ts (.groupClose :: rest) k body) (hopened : g.opened + k = g'.opened + n)
    (hcount : [t].count .groupOpen + k = n) :
    Captured flags g' (t :: ts ++ [.groupClose]) rest n body := by
  obtain ⟨before, inside, after, bs, g₁, g₂, rfl, rfl, hbalanced, hinner, hderives, hbody⟩ := h
  refine ⟨t :: before, inside, after ++ [.groupClose], bs, g₁, g₂, by simp, ?_, hbalanced, ?_, ?_,
    hbody⟩
  · rw [← hcount, ← List.singleton_append, List.count_append]
  · rw [hinner, hopened]
  · simpa using hderives

theorem reference_inside {before after : List Token} {t : Token} {n : Nat}
    (ht : t.opensGroup = true)
    (h : t :: ms.map GroupMark.token ++ [.groupClose] = before ++ .backReference n :: after) :
    ∃ inside behind, before = t :: inside ∧
      ms.map GroupMark.token = inside ++ .backReference n :: behind := by
  rcases cons_of_append_eq h with ⟨inner, -, hinner⟩ | ⟨behind, hbehind⟩
  · have hmem : Token.backReference n ∈ [Token.groupClose] := by simp [hinner]
    simp at hmem
  · cases before with
    | nil =>
        cases hbehind
        cases ht
    | cons u inside =>
        obtain ⟨rfl, hinside⟩ := List.cons_eq_cons.1 hbehind
        exact ⟨inside, behind, rfl, hinside⟩

theorem Numbered.nonCapturing {body : Expr} (h : Numbered flags g ts (.groupClose :: rest) ms g') :
    Numbered flags g (.nonCapturingGroupOpen :: ts ++ [.groupClose]) rest
      (.opens false body :: ms ++ [.closes]) g' where
  brackets := by
    have hbrackets := h.brackets
    simp_all [GroupMark.token, Token.bracketsGroup, Token.opensGroup]
  balanced := balanced_group rfl h.balanced
  opened := by simp [h.opened]
  closed n hn := by
    refine (h.closed n hn).imp_right fun hn => ?_
    rw [List.map_append, List.map_cons, ← List.singleton_append]
    exact ClosedFrom.append_left (ClosedFrom.append_right hn)
  count := by
    rw [filterMap_group]
    simp [h.count]
  capture k body hk := by
    rw [filterMap_group] at hk
    exact (h.capture k body hk).group rfl (Nat.zero_add k)
  reference before n after heq := by
    rw [List.map_append, List.map_cons] at heq
    obtain ⟨inside, behind, rfl, hinside⟩ := reference_inside rfl heq
    refine (h.reference inside n behind hinside).imp_right fun hn => ?_
    rw [← List.singleton_append]
    exact ClosedFrom.append_right hn

theorem Numbered.capturing {bs : List (List Expr)}
    (h : Numbered flags g.opening ts (.groupClose :: rest) ms g')
    (hderives : Derives flags g.opening ts (.groupClose :: rest) (.branches bs) g') :
    Numbered flags g (.groupOpen :: ts ++ [.groupClose]) rest
      (.opens true (expression bs) :: ms ++ [.closes]) (g'.closing (g.opened + 1)) where
  brackets := by
    have hbrackets := h.brackets
    simp_all [GroupMark.token, Token.bracketsGroup, Token.opensGroup]
  balanced := balanced_group rfl h.balanced
  opened := by
    have hopened : g'.opened = g.opened + 1 + ts.count .groupOpen := h.opened
    simp [Groups.closing, hopened]
    omega
  closed n hn := by
    rw [List.map_append, List.map_cons]
    rcases Set.mem_insert_iff.1 hn with rfl | hn
    · exact .inr ⟨[], _, [], rfl, .of_filter_eq h.brackets h.balanced, rfl⟩
    · refine (h.closed n hn).imp_right fun hn => ?_
      rw [← List.singleton_append]
      exact ClosedFrom.append_left (ClosedFrom.append_right hn)
  count := by
    rw [filterMap_group]
    simp [h.count]
  capture k body hk := by
    rw [filterMap_group] at hk
    cases k with
    | zero =>
        cases hk
        exact ⟨[], ts, [], bs, _, g', rfl, rfl, h.balanced, rfl, hderives, rfl⟩
    | succ k =>
        refine (h.capture k body hk).group ?_ ?_
        · exact Nat.add_right_comm ..
        · exact Nat.add_comm ..
  reference before n after heq := by
    rw [List.map_append, List.map_cons] at heq
    obtain ⟨inside, behind, rfl, hinside⟩ := reference_inside rfl heq
    refine (h.reference inside n behind hinside).imp_right fun hn => ?_
    rw [← List.singleton_append]
    exact ClosedFrom.append_right hn

theorem Numbered.refers {n : Nat} (hn : n ∈ g.closed) (h : ∀ t ∈ ts, t.bracketsGroup = false) :
    Numbered flags g ts rest [.refers n] g where
  brackets := (filter_others h).symm
  balanced := balanced_of_others h
  opened := by rw [count_others h, Nat.add_zero]
  closed n hn := .inl hn
  count := (count_others h).symm
  capture k body hk := by cases hk
  reference before m after heq := by
    cases before with
    | nil =>
        cases heq
        exact .inl hn
    | cons t before => simp at heq

end

/-! ## Phrases without groups -/

section

variable {ts rest : List Token}

theorem others_repetition {m : Nat} {n : Option Nat} (h : Repetition ts m n) :
    ∀ t ∈ ts, t.bracketsGroup = false := by
  cases h <;> simp [Token.bracketsGroup, Token.opensGroup]

theorem others_quantifier {q : Quantifier} (h : QuantifierTokens ts q) :
    ∀ t ∈ ts, t.bracketsGroup = false := by
  cases h with
  | greedy h => exact others_repetition h
  | lazy h =>
      refine List.forall_mem_append.2 ⟨others_repetition h, ?_⟩
      simp [Token.bracketsGroup, Token.opensGroup]

theorem others_reference {opened n k : Nat} (h : Reference opened n ts rest k) :
    ∀ t ∈ ts, t.bracketsGroup = false := by
  induction h with
  | done h => simp
  | digit hdigit hle h ih => exact List.forall_mem_cons.2 ⟨rfl, ih⟩

theorem others_members {ms : List ClassMember} (h : Members ts rest ms) :
    ∀ t ∈ ts, t.bracketsGroup = false := by
  induction h with
  | nil => simp
  | escape hname hchars h ih =>
      exact List.forall_mem_cons.2 ⟨Token.bracketsGroup_of_escape hname, ih⟩
  | char hc hdash h ih =>
      exact List.forall_mem_cons.2 ⟨Token.bracketsGroup_of_classChar hc, ih⟩
  | range hlow hhigh hle h ih =>
      exact List.forall_mem_cons.2 ⟨Token.bracketsGroup_of_classChar hlow,
        List.forall_mem_cons.2 ⟨rfl,
          List.forall_mem_cons.2 ⟨Token.bracketsGroup_of_classChar hhigh, ih⟩⟩⟩

theorem others_opening (negative : Bool) : ∀ t ∈ opening negative, t.bracketsGroup = false := by
  cases negative <;> simp [opening, Token.bracketsGroup, Token.opensGroup]

theorem others_class {c : CharClass} (h : Class ts rest c) :
    ∀ t ∈ ts, t.bracketsGroup = false := by
  induction h with
  | group h hne =>
      simp only [List.forall_mem_append]
      exact ⟨⟨others_opening _, others_members h⟩, by simp [Token.bracketsGroup, Token.opensGroup]⟩
  | difference h hne hsub ih =>
      simp only [List.forall_mem_append, List.forall_mem_cons]
      exact ⟨⟨⟨others_opening _, others_members h⟩, rfl, ih⟩,
        by simp [Token.bracketsGroup, Token.opensGroup]⟩

end

theorem numbered_of_derives {flags : Flags} {g g' : Groups} {ts rest : List Token}
    {phrase : Phrase} (h : Derives flags g ts rest phrase g') :
    Numbered flags g ts rest phrase.groupMarks g' := by
  induction h with
  | literal hc => exact .others (by simp [Token.bracketsGroup_of_classChar hc])
  | escape hname hchars => exact .others (by simp [Token.bracketsGroup_of_escape hname])
  | wildcard => exact .others (by simp [Token.bracketsGroup, Token.opensGroup])
  | lineStart => exact .others (by simp [Token.bracketsGroup, Token.opensGroup])
  | lineEnd => exact .others (by simp [Token.bracketsGroup, Token.opensGroup])
  | charClass h => exact .others (others_class h)
  | backReference h hclosed =>
      exact .refers hclosed (List.forall_mem_cons.2 ⟨rfl, others_reference h⟩)
  | capturing h ih =>
      rw [groupMarks_branches] at ih
      exact ih.capturing h
  | nonCapturing h ih =>
      rw [groupMarks_branches] at ih
      exact ih.nonCapturing
  | bare h ih => exact ih
  | quantified h hq ih =>
      have happend := ih.append (Numbered.others (others_quantifier hq))
      rwa [List.append_nil] at happend
  | noPieces => exact .others (by simp)
  | pieces h hmore ih ihmore => exact ih.append ihmore
  | branch h ih =>
      rw [Phrase.groupMarks, List.flatMap_singleton]
      exact ih
  | alternation h hmore ih ihmore =>
      rename_i g g' g'' ts us rest es bs
      have hbar : Numbered flags g' [.alternation] (us ++ rest) [] g' :=
        .others (by simp [Token.bracketsGroup, Token.opensGroup])
      rw [Phrase.groupMarks, List.flatMap_cons]
      exact ih.append (hbar.append ihmore)

structure KeepsGroups (flags : Flags) (ts : List Token) (e : Expr) : Prop where
  brackets : e.groupTokens.filter Token.bracketsGroup = ts.filter Token.bracketsGroup
  count : e.captures.length = ts.count .groupOpen
  /-- Each capturing group is what the tokens between its opening and its end derive. -/
  capture : ∀ k body, e.captures[k]? = some body → Captured flags {} ts [] k body
  /-- Each reference stands behind the whole of its group. -/
  reference : ∀ before n after, e.groupTokens = before ++ .backReference n :: after →
    ClosedFrom 0 before n

theorem keepsGroups_of_sentence {flags : Flags} {ts : List Token} {e : Expr}
    (h : Sentence flags ts e) : KeepsGroups flags ts e := by
  obtain ⟨bs, g, hderives, rfl⟩ := h
  have hnumbered := numbered_of_derives hderives
  rw [groupMarks_branches] at hnumbered
  refine ⟨hnumbered.brackets, hnumbered.count, hnumbered.capture, fun before n after heq => ?_⟩
  exact (hnumbered.reference before n after heq).resolve_left (Set.notMem_empty n)

end Grammar

end SchemaPattern
