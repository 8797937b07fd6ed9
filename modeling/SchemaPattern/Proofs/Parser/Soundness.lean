import Mathlib.Data.Set.Subsingleton
import SchemaPattern.Proofs.Parser.Completeness

/-!
# What the parser reads is derived

For each state this says which tokens complete it to an expression.  Going back over a step, what
completes the state behind it completes the one before it.
-/

namespace SchemaPattern

namespace Parser

open Lexer (Item)

open Grammar

/-! ## Tokens that complete an expression -/

/-- Behind the first tokens of a quantifier come its other ones. -/
def QuantifierRest (then' : Expr → List Token → Prop) (e : Expr) (before ts : List Token) : Prop :=
  ∃ us q vs, ts = us ++ vs ∧ QuantifierTokens (before ++ us) q ∧ then' (.piece e q) vs

/-- An atom goes on with its quantifier, if it has one. -/
def QuantifierThen (then' : Expr → List Token → Prop) (e : Expr) (ts : List Token) : Prop :=
  then' e ts ∨ QuantifierRest then' e [] ts

/-- A quantifier goes on with the mark of a lazy one, if it is one. -/
def LazyThen (then' : Expr → List Token → Prop) (e : Expr) (q : Quantifier) (ts : List Token) :
    Prop :=
  then' (.piece e q) ts ∨ ∃ vs, ts = .optional :: vs ∧ then' (.piece e { q with lazy := true }) vs

/-- A level goes on with more pieces and branches. -/
def BranchesThen (flags : Flags) (then' : Expr → Grammar.Groups → List Token → Prop)
    (level : Level) (g : Grammar.Groups) (ts : List Token) : Prop :=
  ∃ us vs bs g', ts = us ++ vs ∧ Derives flags g us vs (.branches bs) g' ∧
    then' (level.withBranches bs).close g' vs

def OpenGroup.behind (f : OpenGroup) (g : Grammar.Groups) : Grammar.Groups :=
  match f.number with
  | some n => g.closing n
  | none => g

/-- The groups around an expression are closed, which makes it the expression `whole`. -/
def Closes (flags : Flags) (whole : Expr) :
    List OpenGroup → Expr → Grammar.Groups → List Token → Prop
  | [], e, _, ts => ts = [] ∧ e = whole
  | f :: outer, e, g, ts =>
      ∃ us, ts = .groupClose :: us ∧
        QuantifierThen
          (fun e vs =>
            BranchesThen flags (Closes flags whole outer) (f.outer.add e) (f.behind g) vs)
          (.group f.number.isSome e) us

/-- The classes around a class are closed. -/
def ClosesClasses (then' : CharClass → List Token → Prop) :
    List CharGroup → CharClass → List Token → Prop
  | [], c, ts => then' c ts
  | g :: outer, c, ts =>
      ∃ us, ts = .classClose :: us ∧ ClosesClasses then' outer (.difference g c) us

/-- A class goes on with more members, and with a subtraction if it has one. -/
def MembersThen (then' : CharClass → List Token → Prop) (k : OpenClass) (ts : List Token) : Prop :=
  ∃ us vs ms, ts = us ++ vs ∧ Members us vs ms ∧ k.members.reverse ++ ms ≠ [] ∧
    ((∃ ws, vs = .classClose :: ws ∧
        ClosesClasses then' k.outer (.group ⟨k.negative, k.members.reverse ++ ms⟩) ws) ∨
      ∃ xs ws c, vs = .subtract :: xs ++ .classClose :: ws ∧ Class xs (.classClose :: ws) c ∧
        ClosesClasses then' k.outer (.difference ⟨k.negative, k.members.reverse ++ ms⟩ c) ws)

def PieceThen (flags : Flags) (whole : Expr) (st : State) (g : Grammar.Groups) (e : Expr)
    (ts : List Token) : Prop :=
  BranchesThen flags (Closes flags whole st.openGroups) (st.level.add e) g ts

/-- The tokens that complete a state to the expression `whole`. -/
def Completes (flags : Flags) (whole : Expr) (st : State) (ts : List Token) : Prop :=
  let piece := PieceThen flags whole st st.groups.known
  let charClass := fun c => QuantifierThen piece (.charClass c)
  match st.mode with
  | .branch => BranchesThen flags (Closes flags whole st.openGroups) st.level st.groups.known ts
  | .atom =>
      ∃ us vs e g', ts = us ++ vs ∧ Derives flags st.groups.known us vs (.atom e) g' ∧
        QuantifierThen (PieceThen flags whole st g') e vs
  | .quantifier e => QuantifierThen piece e ts
  | .minimum e _ => QuantifierRest piece e [.quantifierOpen] ts
  | .comma e _ m => QuantifierRest piece e [.quantifierOpen, .number m] ts
  | .maximum e _ m => QuantifierRest piece e [.quantifierOpen, .number m, .comma] ts
  | .closingBrace e q => ∃ vs, ts = .quantifierClose :: vs ∧ LazyThen piece e q vs
  | .lazyMark e q => LazyThen piece e q ts
  | .reference n _ =>
      ∃ us k vs, ts = us ++ vs ∧ Reference st.groups.count n us vs k ∧
        st.groups.closed.contains k = true ∧ QuantifierThen piece (.backReference k) vs
  | .members k => MembersThen charClass k ts
  | .rangeEnd k low _ =>
      ∃ u us high, ts = u :: us ∧ u.classChar? = some high ∧ low ≤ high ∧
        MembersThen charClass (k.add (.range ⟨low, high⟩)) us
  | .closing c outer => ClosesClasses charClass outer c ts

/-! ## Going back over a step -/

section

variable {flags : Flags} {g g' : Grammar.Groups} {us vs ts : List Token}
  {then' : Expr → Grammar.Groups → List Token → Prop} {level : Level}

theorem branchesThen_stop (h : then' level.close g ts) : BranchesThen flags then' level g ts :=
  ⟨[], ts, [[]], g, rfl, .branch .noPieces, h⟩

theorem branchesThen_bar (h : BranchesThen flags then' level.nextBranch g ts) :
    BranchesThen flags then' level g (.alternation :: ts) := by
  obtain ⟨us, vs, bs, g', rfl, hderives, hthen⟩ := h
  refine ⟨.alternation :: us, vs, [] :: bs, g', rfl, .alternation .noPieces hderives, ?_⟩
  rw [Level.withBranches_cons _ _ hderives.begins]
  exact hthen

theorem branchesThen_piece {e : Expr} (h : Derives flags g us vs (.piece e) g')
    (hmore : BranchesThen flags then' (level.add e) g' vs) :
    BranchesThen flags then' level g (us ++ vs) := by
  obtain ⟨ws, xs, bs, g'', rfl, hderives, hthen⟩ := hmore
  have hassoc : us ++ (ws ++ xs) = us ++ ws ++ xs := (List.append_assoc ..).symm
  cases hderives with
  | branch hpieces =>
      refine ⟨us ++ ws, xs, [e :: _], g'', hassoc, .branch (.pieces h hpieces), ?_⟩
      simpa only [Level.withBranches, Level.withPieces_cons] using hthen
  | alternation hpieces hbranches =>
      rename_i ys zs es bs
      have hbegins := hbranches.begins
      refine ⟨us ++ ys ++ .alternation :: zs, xs, (e :: es) :: bs, g'', ?_,
        .alternation (.pieces ?_ hpieces) hbranches, ?_⟩
      · simp
      · simpa using h
      · rw [Level.withBranches_cons _ _ hbegins] at hthen ⊢
        rwa [Level.withPieces_cons]

end

section

variable {then' : Expr → List Token → Prop} {e : Expr} {before vs ts : List Token}

theorem quantifierRest_cons {t : Token} (h : QuantifierRest then' e (before ++ [t]) ts) :
    QuantifierRest then' e before (t :: ts) := by
  obtain ⟨us, q, vs, rfl, hq, hthen⟩ := h
  rw [List.append_assoc] at hq
  exact ⟨t :: us, q, vs, rfl, hq, hthen⟩

theorem quantifierRest_lazy {m : Nat} {n : Option Nat} (us : List Token)
    (h : Repetition (before ++ us) m n) (hlazy : LazyThen then' e { min := m, max := n } vs) :
    QuantifierRest then' e before (us ++ vs) := by
  rcases hlazy with hthen | ⟨vs, rfl, hthen⟩
  · exact ⟨us, _, vs, rfl, .greedy h, hthen⟩
  · refine ⟨us ++ [.optional], _, vs, by simp, ?_, hthen⟩
    rw [← List.append_assoc]
    exact .lazy h

theorem quantifierThen_piece {flags : Flags} {g g' : Grammar.Groups}
    {next : Expr → Grammar.Groups → List Token → Prop} {level : Level} {us : List Token}
    (h : Derives flags g us vs (.atom e) g')
    (hmore : QuantifierThen (fun e vs => BranchesThen flags next (level.add e) g' vs) e vs) :
    BranchesThen flags next level g (us ++ vs) := by
  rcases hmore with hthen | ⟨ws, q, xs, rfl, hq, hthen⟩
  · exact branchesThen_piece (.bare h) hthen
  · rw [← List.append_assoc]
    exact branchesThen_piece (.quantified h hq) hthen

end

section

variable {then' : CharClass → List Token → Prop} {k : OpenClass} {ts : List Token}

theorem membersThen_cons (us : List Token) {vs : List Token} {m : ClassMember}
    (hcons : ∀ {ws xs ms}, vs = ws ++ xs → Members ws xs ms → Members (us ++ ws) xs (m :: ms))
    (h : MembersThen then' (k.add m) vs) : MembersThen then' k (us ++ vs) := by
  obtain ⟨ws, xs, ms, rfl, hmembers, hne, hend⟩ := h
  have hreverse : (k.add m).members.reverse ++ ms = k.members.reverse ++ m :: ms := by
    simp [OpenClass.add]
  rw [hreverse] at hne hend
  exact ⟨us ++ ws, xs, m :: ms, (List.append_assoc ..).symm, hcons rfl hmembers, hne, hend⟩

theorem membersThen_close (hne : k.members ≠ [])
    (h : ClosesClasses then' k.outer (.group k.charGroup) ts) :
    MembersThen then' k (.classClose :: ts) := by
  refine ⟨[], _, [], rfl, .nil, by simpa using hne, .inl ⟨ts, rfl, ?_⟩⟩
  rwa [List.append_nil]

theorem membersThen_subtract {negative : Bool} (hne : k.members ≠ [])
    (h : MembersThen then' { negative, outer := k.charGroup :: k.outer } ts) :
    MembersThen then' k (.subtract :: opening negative ++ ts) := by
  obtain ⟨us, vs, ms, rfl, hmembers, hms, hend⟩ := h
  refine ⟨[], _, [], rfl, .nil, by simpa using hne, .inr ?_⟩
  rw [List.append_nil]
  rcases hend with ⟨ws, rfl, hcloses⟩ | ⟨xs, ws, c, rfl, hclass, hcloses⟩
  · obtain ⟨ys, rfl, hcloses⟩ := hcloses
    exact ⟨opening negative ++ us ++ [.classClose], ys, _, by simp,
      .group hmembers hms, hcloses⟩
  · obtain ⟨ys, rfl, hcloses⟩ := hcloses
    exact ⟨opening negative ++ us ++ .subtract :: xs ++ [.classClose], ys, _, by simp,
      .difference hmembers hms hclass, hcloses⟩

theorem class_of_membersThen {negative : Bool} (h : MembersThen then' { negative } ts) :
    ∃ us vs c, opening negative ++ ts = us ++ vs ∧ Class us vs c ∧ then' c vs := by
  obtain ⟨us, vs, ms, rfl, hmembers, hms, hend⟩ := h
  rcases hend with ⟨ws, rfl, hcloses⟩ | ⟨xs, ws, c, rfl, hclass, hcloses⟩
  · exact ⟨opening negative ++ us ++ [.classClose], ws, _, by simp, .group hmembers hms, hcloses⟩
  · exact ⟨opening negative ++ us ++ .subtract :: xs ++ [.classClose], ws, _, by simp,
      .difference hmembers hms hclass, hcloses⟩

end

theorem known_closeGroup (st : State) (f : OpenGroup) (outer : List OpenGroup) :
    (st.closeGroup f outer).groups.known = f.behind st.groups.known := by
  unfold State.closeGroup OpenGroup.behind
  split <;> simp_all [known_closing]

theorem completes_of_moves {flags : Flags} {whole : Expr} {st next : State} {taken : List Lexeme}
    {rest : List Token} (h : Moves flags st taken rest next)
    (hnext : Completes flags whole next rest) :
    Completes flags whole st (taken.map Lexeme.token ++ rest) := by
  -- Each move puts its tokens in front of what completes the state behind it.
  cases h with
  | bar hmode =>
      simp only [Completes, hmode] at hnext ⊢
      exact branchesThen_bar hnext
  | closeGroup hmode hopen =>
      rename_i f outer
      simp only [Completes, hmode, State.closeGroup] at hnext ⊢
      apply branchesThen_stop
      rw [hopen]
      refine ⟨rest, rfl, ?_⟩
      rw [← known_closeGroup st f outer]
      exact hnext
  | piece hmode hstart =>
      simp only [Completes, hmode] at hnext ⊢
      obtain ⟨us, vs, e, g', hrest, hderives, hthen⟩ := hnext
      rw [List.map_nil, List.nil_append, hrest]
      exact quantifierThen_piece hderives hthen
  | literal hmode hc =>
      simp only [Completes, hmode] at hnext ⊢
      exact ⟨_, rest, _, _, rfl, .literal hc, hnext⟩
  | escape hmode hname hchars =>
      simp only [Completes, hmode] at hnext ⊢
      exact ⟨_, rest, _, _, rfl, .escape hname hchars, hnext⟩
  | wildcard hmode =>
      simp only [Completes, hmode] at hnext ⊢
      exact ⟨_, rest, _, _, rfl, .wildcard, hnext⟩
  | lineStart hmode =>
      simp only [Completes, hmode] at hnext ⊢
      exact ⟨_, rest, _, _, rfl, .lineStart, hnext⟩
  | lineEnd hmode =>
      simp only [Completes, hmode] at hnext ⊢
      exact ⟨_, rest, _, _, rfl, .lineEnd, hnext⟩
  | openGroup hmode =>
      simp only [Completes, hmode, State.openGroup] at hnext ⊢
      obtain ⟨us, vs, bs, g', rfl, hderives, ws, rfl, hthen⟩ := hnext
      rw [Level.close_expression hderives.begins] at hthen
      exact ⟨.groupOpen :: us ++ [.groupClose], ws, _, _, by simp, .capturing hderives, hthen⟩
  | openUncounted hmode =>
      simp only [Completes, hmode, State.openGroup, Bool.false_eq_true, if_false] at hnext ⊢
      obtain ⟨us, vs, bs, g', rfl, hderives, ws, rfl, hthen⟩ := hnext
      rw [Level.close_expression hderives.begins] at hthen
      exact ⟨.nonCapturingGroupOpen :: us ++ [.groupClose], ws, _, _, by simp,
        .nonCapturing hderives, hthen⟩
  | openReference hmode =>
      simp only [Completes, hmode] at hnext ⊢
      obtain ⟨us, k, vs, rfl, hreference, hclosed, hthen⟩ := hnext
      exact ⟨_ :: us, vs, _, _, rfl, .backReference hreference hclosed, hthen⟩
  | openClass hmode hrest =>
      simp only [Completes, hmode] at hnext ⊢
      obtain ⟨us, vs, c, heq, hclass, hthen⟩ := class_of_membersThen hnext
      exact ⟨us, vs, _, _, heq, .charClass hclass, hthen⟩
  | openNegative hmode =>
      simp only [Completes, hmode] at hnext ⊢
      obtain ⟨us, vs, c, heq, hclass, hthen⟩ := class_of_membersThen hnext
      exact ⟨us, vs, _, _, heq, .charClass hclass, hthen⟩
  | bare hmode hrest =>
      simp only [Completes, hmode] at hnext ⊢
      exact .inl hnext
  | optional hmode =>
      simp only [Completes, hmode] at hnext ⊢
      exact .inr (quantifierRest_lazy [_] .optional hnext)
  | zeroOrMore hmode =>
      simp only [Completes, hmode] at hnext ⊢
      exact .inr (quantifierRest_lazy [_] .zeroOrMore hnext)
  | oneOrMore hmode =>
      simp only [Completes, hmode] at hnext ⊢
      exact .inr (quantifierRest_lazy [_] .oneOrMore hnext)
  | openBrace hmode =>
      simp only [Completes, hmode] at hnext ⊢
      exact .inr (quantifierRest_cons hnext)
  | minimum hmode =>
      simp only [Completes, hmode] at hnext ⊢
      exact quantifierRest_cons hnext
  | exactly hmode hrest =>
      simp only [Completes, hmode] at hnext ⊢
      obtain ⟨vs, rfl, hlazy⟩ := hnext
      exact quantifierRest_lazy [_] (.exactly _) hlazy
  | comma hmode =>
      simp only [Completes, hmode] at hnext ⊢
      exact quantifierRest_cons hnext
  | atLeast hmode hrest =>
      simp only [Completes, hmode] at hnext ⊢
      obtain ⟨vs, rfl, hlazy⟩ := hnext
      exact quantifierRest_lazy [_] (.atLeast _) hlazy
  | maximum hmode hle =>
      simp only [Completes, hmode] at hnext ⊢
      obtain ⟨vs, rfl, hlazy⟩ := hnext
      exact quantifierRest_lazy [_, _] (.between hle) hlazy
  | closeBrace hmode =>
      simp only [Completes, hmode] at hnext ⊢
      exact ⟨rest, rfl, hnext⟩
  | greedy hmode hrest =>
      simp only [Completes, hmode] at hnext ⊢
      exact .inl hnext
  | lazy hmode =>
      simp only [Completes, hmode] at hnext ⊢
      exact .inr ⟨rest, rfl, hnext⟩
  | digit hmode hdigit hle =>
      simp only [Completes, hmode] at hnext ⊢
      obtain ⟨us, k, vs, rfl, hreference, hthen⟩ := hnext
      exact ⟨_ :: us, k, vs, rfl, .digit hdigit hle hreference, hthen⟩
  | reference hmode hrest hclosed =>
      simp only [Completes, hmode] at hnext ⊢
      exact ⟨[], _, rest, rfl, .done hrest, hclosed, hnext⟩
  | memberEscape hmode hname hchars =>
      simp only [Completes, hmode] at hnext ⊢
      exact membersThen_cons [_] (fun _ hmore => .escape hname hchars hmore) hnext
  | member hmode hc hdash =>
      simp only [Completes, hmode] at hnext ⊢
      refine membersThen_cons [_] (fun hrest hmore => .char hc ?_ hmore) hnext
      exact fun hahead => hdash (hrest ▸ hahead)
  | dash hmode hc hdash =>
      simp only [Completes, hmode] at hnext ⊢
      obtain ⟨u, us, high, rfl, hhigh, hle, hthen⟩ := hnext
      exact membersThen_cons [_, _, u] (fun _ hmore => .range hc hhigh hle hmore) hthen
  | rangeEnd hmode hhigh hle =>
      simp only [Completes, hmode] at hnext ⊢
      exact ⟨_, rest, _, rfl, hhigh, hle, hnext⟩
  | subtract hmode hne hrest =>
      simp only [Completes, hmode] at hnext ⊢
      exact membersThen_subtract hne hnext
  | subtractNegative hmode hne =>
      simp only [Completes, hmode] at hnext ⊢
      exact membersThen_subtract hne hnext
  | closeClass hmode hne =>
      simp only [Completes, hmode] at hnext ⊢
      exact membersThen_close hne hnext
  | closeOuter hmode =>
      simp only [Completes, hmode] at hnext ⊢
      exact ⟨rest, rfl, hnext⟩
  | charClass hmode =>
      simp only [Completes, hmode] at hnext ⊢
      exact hnext

/-! ## Whole runs -/

theorem completes_of_run {flags : Flags} {st : State} {its : List Item} {e : Expr}
    (h : run flags st its = .ok e) :
    ∃ ls, its = items ls ∧ Completes flags e st (ls.map Lexeme.token) := by
  induction st, its using run_induction flags with
  | done st its e' hmove =>
      rw [run_done hmove] at h
      cases h
      have hfollows := stepOn_follows flags st its
      rw [hmove] at hfollows
      obtain ⟨rfl, hmode, hopen, rfl⟩ := hfollows
      refine ⟨[], rfl, ?_⟩
      simp only [Completes, hmode, hopen]
      exact branchesThen_stop ⟨rfl, rfl⟩
  | fail st its f hmove =>
      rw [run_fail hmove] at h
      cases h
  | shift st its count next hmove ih =>
      rw [run_shift hmove] at h
      obtain ⟨ls, hdrop, hcompletes⟩ := ih h
      -- No fault is left behind the step, so it has seen the tokens of all items.
      have hfollows := stepOn_follows flags st its
      rw [hmove] at hfollows
      obtain ⟨taken, rest, rfl, rfl, hmoves⟩ := hfollows
      have hrest : rest = items ls := by
        rw [← hdrop, ← List.length_map Item.lexeme]
        exact List.drop_left.symm
      rw [hrest, tokens_items] at hmoves
      refine ⟨taken ++ ls, by rw [hrest, items_append], ?_⟩
      rw [List.map_append]
      exact completes_of_moves hmoves hcompletes

theorem sentence_of_run {flags : Flags} {its : List Item} {e : Expr}
    (h : run flags {} its = .ok e) :
    ∃ ls, its = items ls ∧ Sentence flags (ls.map Lexeme.token) e := by
  obtain ⟨ls, rfl, us, vs, bs, g, hls, hderives, rfl, hclose⟩ := completes_of_run h
  refine ⟨ls, rfl, bs, g, ?_, ?_⟩
  · rw [hls, List.append_nil, ← known_empty]
    exact hderives
  · rw [← hclose, ← Level.close_expression hderives.begins]

end Parser

theorem parseItems_ok_iff_sentence {flags : Flags} {ls : List Lexeme} {e : Expr} :
    parseItems flags (Parser.items ls) = .ok e ↔
      Grammar.Sentence flags (ls.map Lexeme.token) e := by
  constructor
  · intro h
    obtain ⟨ls', hitems, hsentence⟩ := Parser.sentence_of_run h
    have hinj : Function.Injective Lexer.Item.lexeme := fun _ _ => Lexer.Item.lexeme.inj
    rwa [List.map_injective_iff.2 hinj hitems]
  · intro h
    exact Parser.run_of_sentence h rfl

/-- The parser accepts the sentences of the grammar and no others, and gives each its only
expression. -/
theorem parser_accepts_sentences (flags : Flags) (ls : List Lexeme) :
    (∀ e, parseItems flags (Window.fill windowWidth (ls.map Lexer.Item.lexeme)) = .ok e ↔
        Grammar.Sentence flags (ls.map Lexeme.token) e) ∧
      {e | Grammar.Sentence flags (ls.map Lexeme.token) e}.Subsingleton := by
  constructor
  · intro e
    rw [parseItems_fill, toList_list]
    exact parseItems_ok_iff_sentence
  · intro e he e' he'
    have h := parseItems_ok_iff_sentence.2 he
    rw [parseItems_ok_iff_sentence.2 he'] at h
    cases h
    rfl

end SchemaPattern
