import SchemaPattern.Proofs.Grammar
import SchemaPattern.Proofs.Parser.Run

/-!
# What a step of the parser takes

The steps that go on, one rule for each: the lexemes that are taken, the tokens that stand behind
them as far as they matter, and the next state.
-/

namespace SchemaPattern

def Token.StartsQuantifier (t : Token) : Prop :=
  t = .optional ∨ t = .zeroOrMore ∨ t = .oneOrMore ∨ t = .quantifierOpen

namespace Parser

open Lexer (Item)

open Grammar (DashAhead withDigit)

/-! ## Rules -/

/-- A state takes lexemes, behind which the tokens `rest` stand. -/
inductive Moves (flags : Flags) : State → List Lexeme → List Token → State → Prop
  | bar {st : State} {rest : List Token} {range : Location} (hmode : st.mode = .branch) :
      Moves flags st [⟨.alternation, range⟩] rest
        { st with level := st.level.nextBranch, last := range }
  | closeGroup {st : State} {rest : List Token} {range : Location} {g : OpenGroup}
      {outer : List OpenGroup} (hmode : st.mode = .branch) (hopen : st.openGroups = g :: outer) :
      Moves flags st [⟨.groupClose, range⟩] rest ({ st with last := range }.closeGroup g outer)
  | piece {st : State} {rest : List Token} {t : Token} (hmode : st.mode = .branch)
      (hstart : t.startsAtom = true) : Moves flags st [] (t :: rest) { st with mode := .atom }
  | literal {st : State} {rest : List Token} {t : Token} {range : Location} {c : Char}
      (hmode : st.mode = .atom) (hc : t.classChar? = some c) :
      Moves flags st [⟨t, range⟩] rest ({ st with last := range }.withAtom (.literal c))
  | escape {st : State} {rest : List Token} {t : Token} {range : Location} {name : EscapeName}
      {chars : CharSet} (hmode : st.mode = .atom) (hname : t.escapeName? = some name)
      (hchars : name.chars? = some chars) :
      Moves flags st [⟨t, range⟩] rest ({ st with last := range }.withAtom (.escape ⟨name, chars⟩))
  | wildcard {st : State} {rest : List Token} {range : Location} (hmode : st.mode = .atom) :
      Moves flags st [⟨.wildcard, range⟩] rest
        ({ st with last := range }.withAtom (.wildcard flags.dotAll))
  | lineStart {st : State} {rest : List Token} {range : Location} (hmode : st.mode = .atom) :
      Moves flags st [⟨.lineStart, range⟩] rest
        ({ st with last := range }.withAtom (.border true flags.multiline))
  | lineEnd {st : State} {rest : List Token} {range : Location} (hmode : st.mode = .atom) :
      Moves flags st [⟨.lineEnd, range⟩] rest
        ({ st with last := range }.withAtom (.border false flags.multiline))
  | openGroup {st : State} {rest : List Token} {range : Location} (hmode : st.mode = .atom) :
      Moves flags st [⟨.groupOpen, range⟩] rest ({ st with last := range }.openGroup true)
  | openUncounted {st : State} {rest : List Token} {range : Location} (hmode : st.mode = .atom) :
      Moves flags st [⟨.nonCapturingGroupOpen, range⟩] rest
        ({ st with last := range }.openGroup false)
  | openReference {st : State} {rest : List Token} {range : Location} {n : Nat}
      (hmode : st.mode = .atom) :
      Moves flags st [⟨.backReference n, range⟩] rest
        { st with mode := .reference n range, last := range }
  | openClass {st : State} {rest : List Token} {range : Location} (hmode : st.mode = .atom)
      (hrest : rest.head? ≠ some .negation) :
      Moves flags st [⟨.classOpen, range⟩] rest
        { st with mode := .members { negative := false }, last := range }
  | openNegative {st : State} {rest : List Token} {bracket range : Location}
      (hmode : st.mode = .atom) :
      Moves flags st [⟨.classOpen, bracket⟩, ⟨.negation, range⟩] rest
        { st with mode := .members { negative := true }, last := range }
  | bare {st : State} {rest : List Token} {e : Expr} (hmode : st.mode = .quantifier e)
      (hrest : ∀ t ∈ rest.head?, ¬ t.StartsQuantifier) : Moves flags st [] rest (st.withPiece e)
  | optional {st : State} {rest : List Token} {range : Location} {e : Expr}
      (hmode : st.mode = .quantifier e) :
      Moves flags st [⟨.optional, range⟩] rest
        { st with mode := .lazyMark e { min := 0, max := some 1 }, last := range }
  | zeroOrMore {st : State} {rest : List Token} {range : Location} {e : Expr}
      (hmode : st.mode = .quantifier e) :
      Moves flags st [⟨.zeroOrMore, range⟩] rest
        { st with mode := .lazyMark e { min := 0, max := none }, last := range }
  | oneOrMore {st : State} {rest : List Token} {range : Location} {e : Expr}
      (hmode : st.mode = .quantifier e) :
      Moves flags st [⟨.oneOrMore, range⟩] rest
        { st with mode := .lazyMark e { min := 1, max := none }, last := range }
  | openBrace {st : State} {rest : List Token} {range : Location} {e : Expr}
      (hmode : st.mode = .quantifier e) :
      Moves flags st [⟨.quantifierOpen, range⟩] rest
        { st with mode := .minimum e range, last := range }
  | minimum {st : State} {rest : List Token} {start range : Location} {e : Expr} {n : Nat}
      (hmode : st.mode = .minimum e start) :
      Moves flags st [⟨.number n, range⟩] rest { st with mode := .comma e start n, last := range }
  | exactly {st : State} {rest : List Token} {start : Location} {e : Expr} {m : Nat}
      (hmode : st.mode = .comma e start m) (hrest : rest.head? ≠ some .comma) :
      Moves flags st [] rest { st with mode := .closingBrace e { min := m, max := some m } }
  | comma {st : State} {rest : List Token} {start range : Location} {e : Expr} {m : Nat}
      (hmode : st.mode = .comma e start m) :
      Moves flags st [⟨.comma, range⟩] rest { st with mode := .maximum e start m, last := range }
  | atLeast {st : State} {rest : List Token} {start : Location} {e : Expr} {m : Nat}
      (hmode : st.mode = .maximum e start m) (hrest : ∀ n, rest.head? ≠ some (.number n)) :
      Moves flags st [] rest { st with mode := .closingBrace e { min := m, max := none } }
  | maximum {st : State} {rest : List Token} {start range : Location} {e : Expr} {m n : Nat}
      (hmode : st.mode = .maximum e start m) (hle : m ≤ n) :
      Moves flags st [⟨.number n, range⟩] rest
        { st with mode := .closingBrace e { min := m, max := some n }, last := range }
  | closeBrace {st : State} {rest : List Token} {range : Location} {e : Expr} {q : Quantifier}
      (hmode : st.mode = .closingBrace e q) :
      Moves flags st [⟨.quantifierClose, range⟩] rest
        { st with mode := .lazyMark e q, last := range }
  | greedy {st : State} {rest : List Token} {e : Expr} {q : Quantifier}
      (hmode : st.mode = .lazyMark e q) (hrest : rest.head? ≠ some .optional) :
      Moves flags st [] rest (st.withPiece (.piece e q))
  | lazy {st : State} {rest : List Token} {range : Location} {e : Expr} {q : Quantifier}
      (hmode : st.mode = .lazyMark e q) :
      Moves flags st [⟨.optional, range⟩] rest
        ({ st with last := range }.withPiece (.piece e { q with lazy := true }))
  | digit {st : State} {rest : List Token} {start range : Location} {n : Nat} {c : Char}
      (hmode : st.mode = .reference n start) (hdigit : c.isDigit)
      (hle : withDigit n c ≤ st.groups.count) :
      Moves flags st [⟨.digit c, range⟩] rest
        { st with mode := .reference (withDigit n c) start, last := range }
  | reference {st : State} {rest : List Token} {start : Location} {n : Nat}
      (hmode : st.mode = .reference n start)
      (hrest : ∀ c us, rest = .digit c :: us → c.isDigit → st.groups.count < withDigit n c)
      (hclosed : st.groups.closed.contains n = true) :
      Moves flags st [] rest (st.withAtom (.backReference n))
  | memberEscape {st : State} {rest : List Token} {t : Token} {range : Location} {k : OpenClass}
      {name : EscapeName} {chars : CharSet} (hmode : st.mode = .members k)
      (hname : t.escapeName? = some name) (hchars : name.chars? = some chars) :
      Moves flags st [⟨t, range⟩] rest
        { st with mode := .members (k.add (.escape ⟨name, chars⟩)), last := range }
  | member {st : State} {rest : List Token} {t : Token} {range : Location} {k : OpenClass}
      {c : Char} (hmode : st.mode = .members k) (hc : t.classChar? = some c)
      (hdash : ¬ DashAhead rest) :
      Moves flags st [⟨t, range⟩] rest
        { st with mode := .members (k.add (.char c)), last := range }
  | dash {st : State} {rest : List Token} {t : Token} {start range : Location} {k : OpenClass}
      {c : Char} (hmode : st.mode = .members k) (hc : t.classChar? = some c)
      (hdash : DashAhead (.char '-' :: rest)) :
      Moves flags st [⟨t, start⟩, ⟨.char '-', range⟩] rest
        { st with mode := .rangeEnd k c start, last := range }
  | rangeEnd {st : State} {rest : List Token} {t : Token} {start range : Location}
      {k : OpenClass} {low high : Char} (hmode : st.mode = .rangeEnd k low start)
      (hhigh : t.classChar? = some high) (hle : low ≤ high) :
      Moves flags st [⟨t, range⟩] rest
        { st with mode := .members (k.add (.range ⟨low, high⟩)), last := range }
  | subtract {st : State} {rest : List Token} {dash range : Location} {k : OpenClass}
      (hmode : st.mode = .members k) (hne : k.members ≠ []) (hrest : rest.head? ≠ some .negation) :
      Moves flags st [⟨.subtract, dash⟩, ⟨.classOpen, range⟩] rest
        { st with
          mode := .members { negative := false, outer := k.charGroup :: k.outer }, last := range }
  | subtractNegative {st : State} {rest : List Token} {dash bracket range : Location}
      {k : OpenClass} (hmode : st.mode = .members k) (hne : k.members ≠ []) :
      Moves flags st [⟨.subtract, dash⟩, ⟨.classOpen, bracket⟩, ⟨.negation, range⟩] rest
        { st with
          mode := .members { negative := true, outer := k.charGroup :: k.outer }, last := range }
  | closeClass {st : State} {rest : List Token} {range : Location} {k : OpenClass}
      (hmode : st.mode = .members k) (hne : k.members ≠ []) :
      Moves flags st [⟨.classClose, range⟩] rest
        { st with mode := .closing (.group k.charGroup) k.outer, last := range }
  | closeOuter {st : State} {rest : List Token} {range : Location} {c : CharClass}
      {g : CharGroup} {outer : List CharGroup} (hmode : st.mode = .closing c (g :: outer)) :
      Moves flags st [⟨.classClose, range⟩] rest
        { st with mode := .closing (.difference g c) outer, last := range }
  | charClass {st : State} {rest : List Token} {c : CharClass} (hmode : st.mode = .closing c []) :
      Moves flags st [] rest (st.withAtom (.charClass c))

/-! ## Steps follow the rules -/

/-- The tokens of a list up to its first fault. -/
def tokens : List Item → List Token
  | .lexeme l :: rest => l.token :: tokens rest
  | _ => []

def items (ls : List Lexeme) : List Item := ls.map .lexeme

theorem tokens_items (ls : List Lexeme) : tokens (items ls) = ls.map Lexeme.token := by
  induction ls with
  | nil => rfl
  | cons l ls ih => simp only [items, List.map_cons, tokens] at *; rw [ih]

/-- What a move says of the state and of the items it was made for. -/
def Move.Follows (flags : Flags) (st : State) (its : List Item) : Move → Prop
  | .shift count next =>
      ∃ taken rest, its = items taken ++ rest ∧ taken.length = count ∧
        Moves flags st taken (tokens rest) next
  | .done e => its = [] ∧ st.mode = .branch ∧ st.openGroups = [] ∧ e = st.level.close
  | .fail _ => True

section

variable {flags : Flags} {st next : State} {its rest : List Item}

theorem follows_stay (h : Moves flags st [] (tokens its) next) :
    (stay next).Follows flags st its :=
  ⟨[], its, rfl, rfl, h⟩

theorem follows_take {t : Token} {range : Location} {f : State → State}
    (h : Moves flags st [⟨t, range⟩] (tokens rest) (f { st with last := range })) :
    (take st range f).Follows flags st (.lexeme ⟨t, range⟩ :: rest) :=
  ⟨[⟨t, range⟩], rest, rfl, rfl, h⟩

theorem follows_takeEscape {t : Token} {range : Location} {name : EscapeName}
    {f : Escape → State → State}
    (h : ∀ chars, name.chars? = some chars →
      Moves flags st [⟨t, range⟩] (tokens rest) (f ⟨name, chars⟩ { st with last := range })) :
    (takeEscape st range name f).Follows flags st (.lexeme ⟨t, range⟩ :: rest) := by
  unfold takeEscape
  split
  · next chars hchars => exact follows_take (h chars hchars)
  · trivial

theorem follows_unexpected {p : Option Item} {place : Location} {expected : Expected} :
    (unexpected p place expected).Follows flags st its := by
  unfold unexpected
  split <;> trivial

theorem eq_cons_of_getElem? {t : Token} {range : Location}
    (h : its[0]? = some (.lexeme ⟨t, range⟩)) : ∃ rest, its = .lexeme ⟨t, range⟩ :: rest := by
  cases its with
  | nil => cases h
  | cons item rest =>
      cases h
      exact ⟨rest, rfl⟩

theorem getElem?_of_head? {t : Token} (h : (tokens its).head? = some t) :
    ∃ range, its[0]? = some (.lexeme ⟨t, range⟩) := by
  rcases its with _ | ⟨⟨u, range⟩ | f, rest⟩
  · cases h
  · cases h
    exact ⟨range, rfl⟩
  · cases h

theorem branch_follows (hmode : st.mode = .branch) :
    (branch st its[0]?).Follows flags st its := by
  rcases its with _ | ⟨⟨t, range⟩ | f, rest⟩
  · cases hopen : st.openGroups with
    | nil =>
        simp only [branch, List.getElem?_nil, hopen]
        exact ⟨rfl, hmode, hopen, rfl⟩
    | cons g outer =>
        simp only [branch, List.getElem?_nil, hopen]
        exact follows_unexpected
  · simp only [branch, List.getElem?_cons_zero]
    split
    · trivial
    · next h =>
      cases h
      exact follows_take (.bar hmode)
    · next h hopen =>
      cases h
      exact follows_take (.closeGroup hmode hopen)
    · next h _ =>
      cases h
      split
      · next hstart => exact follows_stay (.piece hmode hstart)
      · exact follows_unexpected
    · next h _ => cases h
    · exact follows_unexpected
  · trivial

theorem openClass_follows {range : Location} (hmode : st.mode = .atom) :
    (openClass st range rest[0]?).Follows flags st (.lexeme ⟨.classOpen, range⟩ :: rest) := by
  unfold openClass
  split
  · next behind h =>
    obtain ⟨more, rfl⟩ := eq_cons_of_getElem? h
    exact ⟨[_, _], more, rfl, rfl, .openNegative hmode⟩
  · next h =>
    refine follows_take (.openClass hmode fun hhead => ?_)
    obtain ⟨behind, hbehind⟩ := getElem?_of_head? hhead
    exact h behind hbehind

theorem atom_follows (hmode : st.mode = .atom) :
    (atom flags st its[0]? its[1]?).Follows flags st its := by
  unfold atom
  split
  · next t range h =>
    obtain ⟨rest, rfl⟩ := eq_cons_of_getElem? h
    cases t with
    | char c => exact follows_take (.literal hmode rfl)
    | digit c => exact follows_take (.literal hmode rfl)
    | singleEscape c => exact follows_take (.literal hmode rfl)
    | multiEscape letter =>
        exact follows_takeEscape fun chars hchars => .escape hmode rfl hchars
    | categoryEscape name negated =>
        exact follows_takeEscape fun chars hchars => .escape hmode rfl hchars
    | wildcard => exact follows_take (.wildcard hmode)
    | lineStart => exact follows_take (.lineStart hmode)
    | lineEnd => exact follows_take (.lineEnd hmode)
    | groupOpen => exact follows_take (.openGroup hmode)
    | nonCapturingGroupOpen => exact follows_take (.openUncounted hmode)
    | backReference n => exact follows_take (.openReference hmode)
    | classOpen => exact openClass_follows hmode
    | _ => exact follows_unexpected
  · exact follows_unexpected

theorem quantifier_follows {e : Expr} (hmode : st.mode = .quantifier e) :
    (quantifier st e its[0]?).Follows flags st its := by
  unfold quantifier
  split
  · trivial
  · next range h =>
    obtain ⟨rest, rfl⟩ := eq_cons_of_getElem? h
    exact follows_take (.optional hmode)
  · next range h =>
    obtain ⟨rest, rfl⟩ := eq_cons_of_getElem? h
    exact follows_take (.zeroOrMore hmode)
  · next range h =>
    obtain ⟨rest, rfl⟩ := eq_cons_of_getElem? h
    exact follows_take (.oneOrMore hmode)
  · next range h =>
    obtain ⟨rest, rfl⟩ := eq_cons_of_getElem? h
    exact follows_take (.openBrace hmode)
  · next hoptional hstar hplus hbrace =>
    refine follows_stay (.bare hmode fun t ht hstart => ?_)
    obtain ⟨range, hrange⟩ := getElem?_of_head? ht
    rcases hstart with rfl | rfl | rfl | rfl
    · exact hoptional range hrange
    · exact hstar range hrange
    · exact hplus range hrange
    · exact hbrace range hrange

theorem minimum_follows {e : Expr} {start : Location} (hmode : st.mode = .minimum e start) :
    (minimum st e start its[0]?).Follows flags st its := by
  unfold minimum
  split
  · next n range h =>
    obtain ⟨rest, rfl⟩ := eq_cons_of_getElem? h
    exact follows_take (.minimum hmode)
  · exact follows_unexpected

theorem comma_follows {e : Expr} {start : Location} {m : Nat}
    (hmode : st.mode = .comma e start m) : (comma st e start m its[0]?).Follows flags st its := by
  unfold comma
  split
  · trivial
  · next range h =>
    obtain ⟨rest, rfl⟩ := eq_cons_of_getElem? h
    exact follows_take (.comma hmode)
  · next h =>
    refine follows_stay (.exactly hmode fun hhead => ?_)
    obtain ⟨range, hrange⟩ := getElem?_of_head? hhead
    exact h range hrange

theorem maximum_follows {e : Expr} {start : Location} {m : Nat}
    (hmode : st.mode = .maximum e start m) :
    (maximum st e start m its[0]? its[1]?).Follows flags st its := by
  unfold maximum
  split
  · trivial
  · next n range h =>
    obtain ⟨rest, rfl⟩ := eq_cons_of_getElem? h
    split
    · next hle => exact follows_take (.maximum hmode hle)
    · split <;> trivial
  · next h =>
    refine follows_stay (.atLeast hmode fun n hhead => ?_)
    obtain ⟨range, hrange⟩ := getElem?_of_head? hhead
    exact h n range hrange

theorem closingBrace_follows {e : Expr} {q : Quantifier} (hmode : st.mode = .closingBrace e q) :
    (closingBrace st e q its[0]?).Follows flags st its := by
  unfold closingBrace
  split
  · next range h =>
    obtain ⟨rest, rfl⟩ := eq_cons_of_getElem? h
    exact follows_take (.closeBrace hmode)
  · exact follows_unexpected

theorem lazyMark_follows {e : Expr} {q : Quantifier} (hmode : st.mode = .lazyMark e q) :
    (lazyMark st e q its[0]?).Follows flags st its := by
  unfold lazyMark
  split
  · trivial
  · next range h =>
    obtain ⟨rest, rfl⟩ := eq_cons_of_getElem? h
    exact follows_take (.lazy hmode)
  · next h =>
    refine follows_stay (.greedy hmode fun hhead => ?_)
    obtain ⟨range, hrange⟩ := getElem?_of_head? hhead
    exact h range hrange

theorem referenceEnd_follows {n : Nat} {start : Location} (hmode : st.mode = .reference n start)
    (hrest : ∀ c us, tokens its = .digit c :: us → c.isDigit → st.groups.count < withDigit n c) :
    (referenceEnd st n start).Follows flags st its := by
  unfold referenceEnd
  split
  · next hclosed => exact follows_stay (.reference hmode hrest hclosed)
  · trivial

theorem reference_follows {n : Nat} {start : Location} (hmode : st.mode = .reference n start) :
    (reference st n start its[0]?).Follows flags st its := by
  unfold reference
  split
  · trivial
  · next c range h =>
    obtain ⟨rest, rfl⟩ := eq_cons_of_getElem? h
    split
    · next hc => exact follows_take (.digit hmode hc.1 hc.2)
    · next hc =>
      refine referenceEnd_follows hmode fun d us hd hdigit => ?_
      cases hd
      exact Nat.lt_of_not_le fun hle => hc ⟨hdigit, hle⟩
  · next h =>
    refine referenceEnd_follows hmode fun d us hd hdigit => ?_
    obtain ⟨range, hrange⟩ := getElem?_of_head? (congrArg List.head? hd)
    exact absurd hrange (h d range)

theorem classChar_follows {k : OpenClass} {c : Char} {t : Token} {range : Location}
    (hmode : st.mode = .members k) (hc : t.classChar? = some c) :
    (classChar st k c range rest[0]? rest[1]?).Follows flags st (.lexeme ⟨t, range⟩ :: rest) := by
  have hplain (hdash : ¬ DashAhead (tokens rest)) :
      (takeMember st range k (.char c)).Follows flags st (.lexeme ⟨t, range⟩ :: rest) :=
    follows_take (.member hmode hc hdash)
  have hrange {dash : Location} {u : Token} {behind : Location} {more : List Item}
      (hclose : u ≠ .classClose) (hsubtract : u ≠ .subtract)
      (hrest : rest = .lexeme ⟨.char '-', dash⟩ :: .lexeme ⟨u, behind⟩ :: more) :
      (Move.shift 2 { st with mode := .rangeEnd k c range, last := dash }).Follows flags st
        (.lexeme ⟨t, range⟩ :: rest) := by
    subst hrest
    exact ⟨[_, _], _, rfl, rfl, .dash hmode hc ⟨u, _, rfl, hclose, hsubtract⟩⟩
  unfold classChar
  rcases rest with _ | ⟨⟨u, dash⟩ | f, rest⟩
  · exact hplain (by simp [tokens, DashAhead])
  · rw [List.getElem?_cons_zero, List.getElem?_cons_succ]
    by_cases hu : u = .char '-'
    · subst hu
      rcases rest with _ | ⟨⟨v, behind⟩ | f, rest⟩
      · exact hplain (by simp [tokens, DashAhead])
      · cases v with
        | classClose => exact hplain (by simp [tokens, DashAhead])
        | subtract => exact hplain (by simp [tokens, DashAhead])
        | _ => exact hrange (by simp) (by simp) rfl
      · trivial
    · split
      · trivial
      · next h =>
        cases h
        exact absurd rfl hu
      · exact hplain (by simp [tokens, DashAhead, hu])
  · trivial

theorem subtrahend_follows {k : OpenClass} {dash : Location} (hmode : st.mode = .members k)
    (hne : k.members ≠ []) :
    (subtrahend st k dash rest[0]? rest[1]?).Follows flags st
      (.lexeme ⟨.subtract, dash⟩ :: rest) := by
  unfold subtrahend
  split
  · next bracket range h h' =>
    obtain ⟨more, rfl⟩ := eq_cons_of_getElem? h
    rw [List.getElem?_cons_succ] at h'
    obtain ⟨more, rfl⟩ := eq_cons_of_getElem? h'
    exact ⟨[_, _, _], more, rfl, rfl, .subtractNegative hmode hne⟩
  · next range h h' =>
    obtain ⟨more, rfl⟩ := eq_cons_of_getElem? h
    refine ⟨[_, _], more, rfl, rfl, .subtract hmode hne fun hhead => ?_⟩
    obtain ⟨behind, hbehind⟩ := getElem?_of_head? hhead
    exact h' behind hbehind
  · exact follows_unexpected

theorem groupEnd_follows {k : OpenClass} (hmode : st.mode = .members k) :
    (groupEnd st k its[0]? its[1]? its[2]?).Follows flags st its := by
  unfold groupEnd
  split
  · exact follows_unexpected
  · next hmembers =>
    have hne : k.members ≠ [] := by simpa using hmembers
    split
    · next dash h =>
      obtain ⟨rest, rfl⟩ := eq_cons_of_getElem? h
      exact subtrahend_follows hmode hne
    · next range h =>
      obtain ⟨rest, rfl⟩ := eq_cons_of_getElem? h
      exact follows_take (.closeClass hmode hne)
    · exact follows_unexpected

theorem members_follows {k : OpenClass} (hmode : st.mode = .members k) :
    (members st k its[0]? its[1]? its[2]?).Follows flags st its := by
  unfold members
  split
  · next l h =>
    obtain ⟨rest, rfl⟩ := eq_cons_of_getElem? h
    split
    · next hc => exact classChar_follows hmode hc
    · next hname =>
      exact follows_takeEscape fun chars hchars => .memberEscape hmode hname hchars
    · exact groupEnd_follows hmode
  · exact groupEnd_follows hmode

theorem rangeEnd_follows {k : OpenClass} {low : Char} {start : Location}
    (hmode : st.mode = .rangeEnd k low start) :
    (rangeEnd st k low start its[0]?).Follows flags st its := by
  unfold rangeEnd
  split
  · next l h =>
    obtain ⟨rest, rfl⟩ := eq_cons_of_getElem? h
    split
    · next hhigh =>
      split
      · next hle => exact follows_take (.rangeEnd hmode hhigh hle)
      · trivial
    · exact follows_unexpected
  · exact follows_unexpected

theorem closing_follows {c : CharClass} {outer : List CharGroup}
    (hmode : st.mode = .closing c outer) : (closing st c outer its[0]?).Follows flags st its := by
  unfold closing
  split
  · exact follows_stay (.charClass hmode)
  · split
    · next range h =>
      obtain ⟨rest, rfl⟩ := eq_cons_of_getElem? h
      exact follows_take (.closeOuter hmode)
    · exact follows_unexpected

theorem stepOn_follows (flags : Flags) (st : State) (its : List Item) :
    (stepOn flags st its).Follows flags st its := by
  unfold stepOn step
  split
  · next h => exact branch_follows h
  · next h => exact atom_follows h
  · next h => exact quantifier_follows h
  · next h => exact minimum_follows h
  · next h => exact comma_follows h
  · next h => exact maximum_follows h
  · next h => exact closingBrace_follows h
  · next h => exact lazyMark_follows h
  · next h => exact reference_follows h
  · next h => exact members_follows h
  · next h => exact rangeEnd_follows h
  · next h => exact closing_follows h

end

/-! ## The rules are steps -/

theorem items_injective : Function.Injective items :=
  List.map_injective_iff.2 fun _ _ => Lexer.Item.lexeme.inj

theorem items_append (ls ls' : List Lexeme) : items (ls ++ ls') = items ls ++ items ls' :=
  List.map_append

theorem getElem?_items_ne_fault (ls : List Lexeme) (n : Nat) (f : LexicalFault) :
    (items ls)[n]? ≠ some (.fault f) := by
  simp [items]

theorem head?_of_getElem?_items {ls : List Lexeme} {l : Lexeme}
    (h : (items ls)[0]? = some (.lexeme l)) : (ls.map Lexeme.token).head? = some l.token := by
  cases ls with
  | nil => cases h
  | cons _ _ =>
      cases h
      rfl

section

variable {flags : Flags} {st : State} {rest : List Lexeme}

theorem branch_of_startsAtom {t : Token} {range : Location} (hstart : t.startsAtom = true) :
    branch st (some (.lexeme ⟨t, range⟩)) = stay { st with mode := .atom } := by
  unfold branch
  split
  · next heq => cases heq
  · next heq =>
    cases heq
    cases hstart
  · next heq _ =>
    cases heq
    cases hstart
  · next heq _ =>
    cases heq
    exact if_pos hstart
  · next heq _ => cases heq
  · next heq _ => cases heq

theorem atom_of_classChar {t : Token} {range : Location} {c : Char} {p1 : Option Item}
    (hc : t.classChar? = some c) :
    atom flags st (some (.lexeme ⟨t, range⟩)) p1 = take st range (·.withAtom (.literal c)) := by
  cases t <;> cases hc <;> rfl

theorem atom_of_escape {t : Token} {range : Location} {name : EscapeName} {chars : CharSet}
    {p1 : Option Item} (hname : t.escapeName? = some name) (hchars : name.chars? = some chars) :
    atom flags st (some (.lexeme ⟨t, range⟩)) p1 =
      take st range (·.withAtom (.escape ⟨name, chars⟩)) := by
  have htake : takeEscape st range name (fun e st => st.withAtom (.escape e)) =
      take st range (·.withAtom (.escape ⟨name, chars⟩)) := by
    simp only [takeEscape, hchars]
  cases t <;> cases hname <;> exact htake

theorem openClass_of_head {range : Location}
    (h : (rest.map Lexeme.token).head? ≠ some .negation) :
    openClass st range (items rest)[0]? =
      take st range fun st => { st with mode := .members { negative := false } } := by
  unfold openClass
  split
  · next heq => exact absurd (head?_of_getElem?_items heq) h
  · rfl

theorem quantifier_of_head {e : Expr}
    (h : ∀ t ∈ (rest.map Lexeme.token).head?, ¬ t.StartsQuantifier) :
    quantifier st e (items rest)[0]? = stay (st.withPiece e) := by
  unfold quantifier
  split
  · next heq => exact absurd heq (getElem?_items_ne_fault _ _ _)
  · next heq => exact absurd (.inl rfl) (h _ (head?_of_getElem?_items heq))
  · next heq => exact absurd (.inr (.inl rfl)) (h _ (head?_of_getElem?_items heq))
  · next heq => exact absurd (.inr (.inr (.inl rfl))) (h _ (head?_of_getElem?_items heq))
  · next heq => exact absurd (.inr (.inr (.inr rfl))) (h _ (head?_of_getElem?_items heq))
  · rfl

theorem comma_of_head {e : Expr} {start : Location} {m : Nat}
    (h : (rest.map Lexeme.token).head? ≠ some .comma) :
    comma st e start m (items rest)[0]? =
      stay { st with mode := .closingBrace e { min := m, max := some m } } := by
  unfold comma
  split
  · next heq => exact absurd heq (getElem?_items_ne_fault _ _ _)
  · next heq => exact absurd (head?_of_getElem?_items heq) h
  · rfl

theorem maximum_of_head {e : Expr} {start : Location} {m : Nat} {p1 : Option Item}
    (h : ∀ n, (rest.map Lexeme.token).head? ≠ some (.number n)) :
    maximum st e start m (items rest)[0]? p1 =
      stay { st with mode := .closingBrace e { min := m, max := none } } := by
  unfold maximum
  split
  · next heq => exact absurd heq (getElem?_items_ne_fault _ _ _)
  · next heq => exact absurd (head?_of_getElem?_items heq) (h _)
  · rfl

theorem lazyMark_of_head {e : Expr} {q : Quantifier}
    (h : (rest.map Lexeme.token).head? ≠ some .optional) :
    lazyMark st e q (items rest)[0]? = stay (st.withPiece (.piece e q)) := by
  unfold lazyMark
  split
  · next heq => exact absurd heq (getElem?_items_ne_fault _ _ _)
  · next heq => exact absurd (head?_of_getElem?_items heq) h
  · rfl

theorem reference_of_tokens {n : Nat} {start : Location}
    (h : ∀ c us, rest.map Lexeme.token = .digit c :: us → c.isDigit →
      st.groups.count < withDigit n c) :
    reference st n start (items rest)[0]? = referenceEnd st n start := by
  rcases rest with _ | ⟨⟨t, range⟩, rest⟩
  · rfl
  · cases t with
    | digit c =>
        have hnot : ¬ (c.isDigit ∧ withDigit n c ≤ st.groups.count) := fun hc =>
          Nat.not_lt_of_le hc.2 (h c _ rfl hc.1)
        exact if_neg hnot
    | _ => rfl

theorem classChar_of_no_dash {k : OpenClass} {c : Char} {range : Location}
    (h : ¬ DashAhead (rest.map Lexeme.token)) :
    classChar st k c range (items rest)[0]? (items rest)[1]? =
      takeMember st range k (.char c) := by
  unfold classChar
  split
  · next heq => exact absurd heq (getElem?_items_ne_fault _ _ _)
  · next heq =>
    rcases rest with _ | ⟨dash, _ | ⟨⟨u, behind⟩, rest⟩⟩
    · rfl
    · rfl
    · cases heq
      cases u with
      | classClose => rfl
      | subtract => rfl
      | _ => exact absurd ⟨_, _, rfl, by simp, by simp⟩ h
  · rfl

theorem classChar_of_dash {k : OpenClass} {c : Char} {start range : Location}
    (h : DashAhead (.char '-' :: rest.map Lexeme.token)) :
    classChar st k c start (some (.lexeme ⟨.char '-', range⟩)) (items rest)[0]? =
      .shift 2 { st with mode := .rangeEnd k c start, last := range } := by
  obtain ⟨t, more, heq, hclose, hsubtract⟩ := h
  rcases rest with _ | ⟨⟨u, behind⟩, rest⟩
  · cases heq
  · cases heq
    cases u <;> first | rfl | exact absurd rfl hclose | exact absurd rfl hsubtract

theorem members_of_classChar {k : OpenClass} {t : Token} {range : Location} {c : Char}
    {p1 p2 : Option Item} (hc : t.classChar? = some c) :
    members st k (some (.lexeme ⟨t, range⟩)) p1 p2 = classChar st k c range p1 p2 := by
  simp only [members, hc]

theorem members_of_escape {k : OpenClass} {t : Token} {range : Location} {name : EscapeName}
    {chars : CharSet} {p1 p2 : Option Item} (hname : t.escapeName? = some name)
    (hchars : name.chars? = some chars) :
    members st k (some (.lexeme ⟨t, range⟩)) p1 p2 =
      take st range fun st => { st with mode := .members (k.add (.escape ⟨name, chars⟩)) } := by
  have hc : t.classChar? = none := by cases t <;> first | rfl | cases hname
  simp only [members, hc, hname, takeEscape, hchars]

theorem subtrahend_of_head {k : OpenClass} {dash range : Location}
    (h : (rest.map Lexeme.token).head? ≠ some .negation) :
    subtrahend st k dash (some (.lexeme ⟨.classOpen, range⟩)) (items rest)[0]? =
      .shift 2 { st with
        mode := .members { negative := false, outer := k.charGroup :: k.outer }
        last := range } := by
  unfold subtrahend
  split
  · next heq => exact absurd (head?_of_getElem?_items heq) h
  · next heq _ =>
    cases heq
    rfl
  · next hother _ => exact absurd rfl (hother range)

end

theorem stepOn_of_moves {flags : Flags} {st next : State} {taken rest : List Lexeme}
    (h : Moves flags st taken (rest.map Lexeme.token) next) :
    stepOn flags st (items (taken ++ rest)) = .shift taken.length next := by
  rw [items_append]
  generalize hfollowing : rest.map Lexeme.token = following at h
  cases h with
  | bar hmode => simp [stepOn, step, items, hmode, branch, take]
  | closeGroup hmode hopen => simp [stepOn, step, items, hmode, hopen, branch, take]
  | piece hmode hstart =>
      rcases rest with _ | ⟨l, rest⟩
      · cases hfollowing
      · cases hfollowing
        simp only [stepOn, step, hmode]
        exact branch_of_startsAtom hstart
  | literal hmode hc =>
      simp only [stepOn, step, hmode]
      exact atom_of_classChar hc
  | escape hmode hname hchars =>
      simp only [stepOn, step, hmode]
      exact atom_of_escape hname hchars
  | wildcard hmode =>
      simp only [stepOn, step, hmode]
      rfl
  | lineStart hmode =>
      simp only [stepOn, step, hmode]
      rfl
  | lineEnd hmode =>
      simp only [stepOn, step, hmode]
      rfl
  | openGroup hmode =>
      simp only [stepOn, step, hmode]
      rfl
  | openUncounted hmode =>
      simp only [stepOn, step, hmode]
      rfl
  | openReference hmode =>
      simp only [stepOn, step, hmode]
      rfl
  | openClass hmode hrest =>
      simp only [stepOn, step, hmode]
      exact openClass_of_head (by rwa [hfollowing])
  | openNegative hmode =>
      simp only [stepOn, step, hmode]
      rfl
  | bare hmode hrest =>
      simp only [stepOn, step, hmode]
      exact quantifier_of_head (by rwa [hfollowing])
  | optional hmode => simp [stepOn, step, items, hmode, quantifier, take]
  | zeroOrMore hmode => simp [stepOn, step, items, hmode, quantifier, take]
  | oneOrMore hmode => simp [stepOn, step, items, hmode, quantifier, take]
  | openBrace hmode => simp [stepOn, step, items, hmode, quantifier, take]
  | minimum hmode => simp [stepOn, step, items, hmode, minimum, take]
  | exactly hmode hrest =>
      simp only [stepOn, step, hmode]
      exact comma_of_head (by rwa [hfollowing])
  | comma hmode => simp [stepOn, step, items, hmode, comma, take]
  | atLeast hmode hrest =>
      simp only [stepOn, step, hmode]
      exact maximum_of_head (by rwa [hfollowing])
  | maximum hmode hle => simp [stepOn, step, items, hmode, maximum, hle, take]
  | closeBrace hmode => simp [stepOn, step, items, hmode, closingBrace, take]
  | greedy hmode hrest =>
      simp only [stepOn, step, hmode]
      exact lazyMark_of_head (by rwa [hfollowing])
  | lazy hmode => simp [stepOn, step, items, hmode, lazyMark, take]
  | digit hmode hdigit hle =>
      simp only [stepOn, step, hmode]
      exact if_pos ⟨hdigit, hle⟩
  | reference hmode hrest hclosed =>
      simp only [stepOn, step, hmode]
      refine (reference_of_tokens (by rwa [hfollowing])).trans ?_
      exact if_pos hclosed
  | memberEscape hmode hname hchars =>
      simp only [stepOn, step, hmode]
      exact members_of_escape hname hchars
  | member hmode hc hdash =>
      simp only [stepOn, step, hmode]
      refine (members_of_classChar hc).trans ?_
      exact classChar_of_no_dash (by rwa [hfollowing])
  | dash hmode hc hdash =>
      simp only [stepOn, step, hmode]
      refine (members_of_classChar hc).trans ?_
      exact classChar_of_dash (by rwa [hfollowing])
  | rangeEnd hmode hhigh hle =>
      simp [stepOn, step, items, hmode, rangeEnd, hhigh, hle, takeMember, take]
  | subtract hmode hne hrest =>
      simp only [stepOn, step, hmode]
      have hmembers : ¬ (OpenClass.members _).isEmpty = true := mt List.isEmpty_iff.1 hne
      refine (if_neg hmembers).trans ?_
      exact subtrahend_of_head (by rwa [hfollowing])
  | subtractNegative hmode hne =>
      simp [stepOn, step, items, hmode, members, groupEnd, hne, Token.classChar?,
        Token.escapeName?, subtrahend]
  | closeClass hmode hne =>
      simp [stepOn, step, items, hmode, members, groupEnd, hne, Token.classChar?,
        Token.escapeName?, take]
  | closeOuter hmode => simp [stepOn, step, items, hmode, closing, take]
  | charClass hmode => simp [stepOn, step, hmode, closing, stay]

/-! ## Many steps -/

/-- From one state to another the lexemes are taken, behind which the tokens `rest` stand. -/
inductive Takes (flags : Flags) : State → List Lexeme → List Token → State → Prop
  | refl {st : State} {rest : List Token} : Takes flags st [] rest st
  | step {st mid next : State} {now later : List Lexeme} {rest : List Token}
      (h : Moves flags st now (later.map Lexeme.token ++ rest) mid)
      (hmore : Takes flags mid later rest next) : Takes flags st (now ++ later) rest next

section

variable {flags : Flags} {st mid next : State} {rest : List Token}

theorem Moves.takes {taken : List Lexeme} (h : Moves flags st taken rest next) :
    Takes flags st taken rest next := by
  rw [← List.append_nil taken]
  exact .step h .refl

theorem Takes.stay {ls : List Lexeme} (h : Moves flags st [] (ls.map Lexeme.token ++ rest) mid)
    (hmore : Takes flags mid ls rest next) : Takes flags st ls rest next := by
  rw [← List.nil_append ls]
  exact .step h hmore

theorem Takes.one {l : Lexeme} {ls : List Lexeme}
    (h : Moves flags st [l] (ls.map Lexeme.token ++ rest) mid)
    (hmore : Takes flags mid ls rest next) : Takes flags st (l :: ls) rest next :=
  .step h hmore

theorem Takes.trans {now later : List Lexeme}
    (h : Takes flags st now (later.map Lexeme.token ++ rest) mid)
    (hmore : Takes flags mid later rest next) : Takes flags st (now ++ later) rest next := by
  generalize hbehind : later.map Lexeme.token ++ rest = behind at h
  induction h with
  | refl => exact hmore
  | step hmove hthen ih =>
      subst hbehind
      rw [List.append_assoc]
      refine .step ?_ (ih hmore rfl)
      rw [List.map_append, List.append_assoc]
      exact hmove

theorem Takes.last {ls : List Lexeme} (h : Takes flags st ls rest mid)
    (hmove : Moves flags mid [] rest next) : Takes flags st ls rest next := by
  rw [← List.append_nil ls]
  exact h.trans hmove.takes

theorem run_takes {taken behind : List Lexeme}
    (h : Takes flags st taken (behind.map Lexeme.token) next) :
    run flags st (items (taken ++ behind)) = run flags next (items behind) := by
  generalize hrest : behind.map Lexeme.token = rest at h
  induction h with
  | refl => rfl
  | step hmove hthen ih =>
      subst hrest
      rw [← List.map_append] at hmove
      rw [List.append_assoc, run_shift (stepOn_of_moves hmove), ← ih rfl]
      rw [items_append, ← List.length_map Item.lexeme]
      exact congrArg (run flags _) List.drop_left

end

end Parser

end SchemaPattern
