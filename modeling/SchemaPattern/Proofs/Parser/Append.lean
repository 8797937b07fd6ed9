import SchemaPattern.Proofs.Parser.Faults
import SchemaPattern.Proofs.Parser.Soundness

/-!
# Reading on behind a sentence

Of the tokens behind a phrase only a digit can matter to it.  So the parser, where tokens of an
accepted pattern are followed by others, reads those as it would have read them at the beginning,
except that it has an expression to go on with.
-/

namespace SchemaPattern

namespace Grammar

/-! ## Other tokens behind a phrase -/

theorem dashAhead_of_append {ts rest rest' : List Token} {u : Token} (hu : u ≠ .char '-')
    (h : DashAhead (ts ++ u :: rest)) : DashAhead (ts ++ u :: rest') := by
  obtain ⟨t, more, heq, hclose, hsubtract⟩ := h
  match ts with
  | [] =>
      cases heq
      exact absurd rfl hu
  | [a] =>
      cases heq
      exact ⟨_, _, rfl, hclose, hsubtract⟩
  | a :: b :: ts =>
      cases heq
      exact ⟨_, _, rfl, hclose, hsubtract⟩

theorem Members.behind {ts rest rest' : List Token} {ms : List ClassMember} {u : Token}
    (hu : u ≠ .char '-') (h : Members ts (u :: rest) ms) : Members ts (u :: rest') ms := by
  generalize hbehind : u :: rest = behind at h
  induction h with
  | nil => exact .nil
  | escape hname hchars h ih => exact .escape hname hchars (ih hbehind)
  | char hc hdash h ih =>
      subst hbehind
      exact .char hc (fun hahead => hdash (dashAhead_of_append hu hahead)) (ih rfl)
  | range hlow hhigh hle h ih => exact .range hlow hhigh hle (ih hbehind)

theorem Class.behind {ts rest rest' : List Token} {c : CharClass} (h : Class ts rest c) :
    Class ts rest' c := by
  induction h generalizing rest' with
  | group h hne => exact .group (h.behind (by simp)) hne
  | difference h hne hsub ih =>
      refine .difference ?_ hne ih
      exact h.behind (by simp)

/-- What the tokens `rest` do to the phrase before them, the tokens `rest'` do as well, or they
begin with no digit. -/
def Replaces (rest rest' : List Token) : Prop :=
  rest'.head? = rest.head? ∨ ∀ c, rest'.head? ≠ some (.digit c)

theorem Replaces.append {rest rest' : List Token} (ts : List Token) (h : Replaces rest rest') :
    Replaces (ts ++ rest) (ts ++ rest') := by
  cases ts with
  | nil => exact h
  | cons t ts => exact .inl rfl

theorem Reference.behind {opened n k : Nat} {ts rest rest' : List Token}
    (h : Reference opened n ts rest k) (hrest : Replaces rest rest') :
    Reference opened n ts rest' k := by
  induction h with
  | done h =>
      refine .done fun c us hdigit hc => ?_
      rcases hrest with hhead | hnone
      · rw [hdigit] at hhead
        obtain ⟨vs, hvs⟩ := List.head?_eq_some_iff.1 hhead.symm
        exact h c vs hvs hc
      · exact absurd (congrArg List.head? hdigit) (hnone c)
  | digit hdigit hle h ih => exact .digit hdigit hle (ih hrest)

theorem Derives.behind {flags : Flags} {g g' : Groups} {ts rest rest' : List Token}
    {phrase : Phrase} (h : Derives flags g ts rest phrase g') (hrest : Replaces rest rest') :
    Derives flags g ts rest' phrase g' := by
  induction h generalizing rest' with
  | literal hc => exact .literal hc
  | escape hname hchars => exact .escape hname hchars
  | wildcard => exact .wildcard
  | lineStart => exact .lineStart
  | lineEnd => exact .lineEnd
  | charClass h => exact .charClass h.behind
  | backReference h hclosed => exact .backReference (h.behind hrest) hclosed
  | capturing h ih => exact .capturing (ih (.inl rfl))
  | nonCapturing h ih => exact .nonCapturing (ih (.inl rfl))
  | bare h ih => exact .bare (ih hrest)
  | quantified h hq ih => exact .quantified (ih (hrest.append _)) hq
  | noPieces => exact .noPieces
  | pieces h hmore ih ihmore => exact .pieces (ih (hrest.append _)) (ihmore hrest)
  | branch h ih => exact .branch (ih hrest)
  | alternation h hmore ih ihmore => exact .alternation (ih (hrest.append _)) (ihmore hrest)

end Grammar

namespace Parser

open Lexer (Item)

open Grammar (Sentence NoQuantifier Replaces)

/-! ## Lexemes behind -/

section

variable {flags : Flags} {st mid next : State}

/-- In a class the parser does not stop without a further lexeme. -/
theorem Takes.of_members {rest : List Token} {k : OpenClass} (h : Takes flags st [] rest next)
    (hmode : st.mode = .members k) : next.mode = .members k := by
  generalize hnone : ([] : List Lexeme) = ls at h
  cases h with
  | refl => exact hmode
  | step hmove hmore =>
      obtain ⟨rfl, rfl⟩ := List.append_eq_nil_iff.1 hnone.symm
      generalize List.map Lexeme.token [] ++ rest = behind at hmove
      cases hmove <;> simp_all

/-- A step that takes no item looks at one at most. -/
theorem step_first {l : Lexeme} {rest : List Token}
    (h : Moves flags st [] (l.token :: rest) next) (p1 p2 p1' p2' : Option Item) :
    step flags st (some (.lexeme l)) p1 p2 = step flags st (some (.lexeme l)) p1' p2' := by
  generalize hbehind : l.token :: rest = behind at h
  cases h with
  | atLeast hmode hrest =>
      subst hbehind
      obtain ⟨t, range⟩ := l
      simp only [step, hmode]
      cases t with
      | number n => exact absurd rfl (hrest n)
      | _ => rfl
  | piece hmode | bare hmode | exactly hmode | greedy hmode | reference hmode | charClass hmode =>
      simp only [step, hmode]

theorem stepOn_append {taken later : List Lexeme} {l : Lexeme}
    (h : Moves flags st taken ((later ++ [l]).map Lexeme.token) next)
    (hnext : later = [] → ∀ k, next.mode ≠ .members k) (more : List Item) :
    stepOn flags st (items (taken ++ (later ++ [l])) ++ more) = .shift taken.length next := by
  rw [← stepOn_of_moves h]
  match taken, later with
  | [], later =>
      obtain ⟨x, rest, hx⟩ : ∃ x rest, later ++ [l] = x :: rest := by
        cases later <;> exact ⟨_, _, rfl⟩
      rw [hx] at h ⊢
      exact step_first h _ _ _ _
  | [x], [] =>
      have hthird (hmode : ∀ k, st.mode ≠ .members k) :
          stepOn flags st (items ([x] ++ ([] ++ [l])) ++ more) =
            stepOn flags st (items ([x] ++ ([] ++ [l]))) :=
        step_third hmode _ _ _ _
      have hnext := hnext rfl
      generalize ([] ++ [l]).map Lexeme.token = behind at h
      cases h with
      | memberEscape | member => exact absurd rfl (hnext _)
      | closeClass hmode hne =>
          simp only [stepOn, step, hmode]
          rfl
      | _ => exact hthird (by simp_all)
  | [x], y :: later =>
      obtain ⟨z, rest, hz⟩ : ∃ z rest, later ++ [l] = z :: rest := by
        cases later <;> exact ⟨_, _, rfl⟩
      simp only [List.cons_append, List.nil_append, hz]
      rfl
  | x :: y :: taken, later =>
      obtain ⟨z, rest, hz⟩ : ∃ z rest, taken ++ (later ++ [l]) = z :: rest := by
        cases taken <;> cases later <;> exact ⟨_, _, rfl⟩
      rw [List.cons_append, List.cons_append, hz]
      rfl

/-- The lexemes are read although no more than the next one is seen of what stands behind. -/
theorem run_takes_append {taken : List Lexeme} {l : Lexeme}
    (h : Takes flags st taken [l.token] next) (hnext : ∀ k, next.mode ≠ .members k)
    (more : List Item) :
    run flags st (items taken ++ .lexeme l :: more) = run flags next (.lexeme l :: more) := by
  generalize hrest : [l.token] = rest at h
  induction h with
  | refl => rfl
  | step hmove hmore ih =>
      rename_i st mid next taken later rest
      subst hrest
      have hmid : later = [] → ∀ k, mid.mode ≠ .members k := by
        rintro rfl k hmode
        exact hnext k (hmore.of_members hmode)
      have htokens : later.map Lexeme.token ++ [l.token] = (later ++ [l]).map Lexeme.token := by simp
      rw [htokens] at hmove
      have hitems : items (taken ++ later) ++ .lexeme l :: more =
          items (taken ++ (later ++ [l])) ++ more := by simp [items]
      rw [hitems, run_shift (stepOn_append hmove hmid more), ← ih hnext rfl]
      have hdrop : (items (taken ++ (later ++ [l])) ++ more).drop taken.length =
          items later ++ .lexeme l :: more := by
        simp [items]
      rw [hdrop]

end

/-! ## Faults behind -/

/-- A fault behind the lexemes of a sentence is the outcome. -/
theorem run_fault {flags : Flags} {ls : List Lexeme} {e : Expr}
    (h : run flags {} (items ls) = .ok e) (f : LexicalFault) (more : List Item) :
    run flags {} (items ls ++ .fault f :: more) = .error (.lexical f) := by
  rcases run_fault_or flags {} ls f more [] with hfault | hsame
  · exact hfault
  · rw [List.append_nil, h] at hsame
    obtain ⟨ls', hitems, -⟩ := sentence_of_run hsame
    have hmem : Item.fault f ∈ items ls' := hitems ▸ by simp
    obtain ⟨l, -, hl⟩ := List.mem_map.1 hmem
    cases hl

/-! ## Sentences -/

/-- Behind the lexemes of a sentence the parser is in a branch outside of groups, which goes on
with what has been read. -/
theorem run_append {flags : Flags} {ls : List Lexeme} {e : Expr} {its : List Item}
    (h : run flags {} (items ls) = .ok e)
    (hits : ∀ l ∈ its.head?, ∀ t range, l = .lexeme ⟨t, range⟩ →
      ¬ t.StartsQuantifier ∧ ∀ c, t ≠ .digit c) :
    ∃ level groups last, level.close = e ∧
      run flags {} (items ls ++ its) = run flags { level, groups, last } its := by
  obtain ⟨ls', hitems, bs, g, hderives, rfl⟩ := sentence_of_run h
  obtain rfl : ls = ls' := List.map_injective_iff.2 (fun _ _ => Item.lexeme.inj) hitems
  rw [← Level.close_expression hderives.begins] at h ⊢
  match its with
  | [] =>
      refine ⟨_, {}, .origin, rfl, ?_⟩
      rw [List.append_nil, h]
      exact (run_done rfl).symm
  | .fault f :: more =>
      refine ⟨_, {}, .origin, rfl, ?_⟩
      rw [run_fault h]
      exact (run_fail rfl).symm
  | .lexeme ⟨t, range⟩ :: more =>
      obtain ⟨hquantifier, hdigit⟩ := hits _ rfl t range rfl
      have hreplaces : Replaces [] [t] := .inr fun c hc => hdigit c (Option.some.inj hc)
      have hends : EndsAt [t] (.branches bs) := by
        intro u hu
        cases hu
        exact hquantifier
      obtain ⟨groups, last, -, htakes⟩ :=
        takes_derives (hderives.behind hreplaces) {} ls known_empty rfl hends
      exact ⟨_, groups, last, rfl,
        @run_takes_append flags _ _ ls ⟨t, range⟩ htakes (fun _ => Mode.noConfusion) more⟩

end Parser

end SchemaPattern
