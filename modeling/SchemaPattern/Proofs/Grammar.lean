import Mathlib.Data.Set.Insert
import SchemaPattern.Expr
import SchemaPattern.Flags

/-!
# The grammar of patterns

    expression ::= branch ( "|" branch )*
    branch     ::= piece*
    piece      ::= atom quantifier?
    quantifier ::= ( "?" | "*" | "+" | "{" quantity "}" ) "?"?
    quantity   ::= number ( "," number? )?
    atom       ::= class character | escape | "." | "^" | "$" | class | back-reference
                 | "(" expression ")" | "(?:" expression ")"
    class      ::= "[" "^"? member+ ( "-" class )? "]"
    member     ::= class character ( "-" class character )? | escape

A phrase is a list of tokens.  Two rules ask what stands behind a phrase: whether a dash makes a
range, and which digits belong to a back-reference.  So `Derives` speaks of tokens with all that
follow them in the pattern.  It also keeps count of the groups before and behind the phrase.
-/

namespace SchemaPattern

namespace Grammar

/-! ## Quantifiers -/

/-- The tokens that say how often an atom is repeated. -/
inductive Repetition : List Token → Nat → Option Nat → Prop
  | optional : Repetition [.optional] 0 (some 1)
  | zeroOrMore : Repetition [.zeroOrMore] 0 none
  | oneOrMore : Repetition [.oneOrMore] 1 none
  | exactly (n : Nat) : Repetition [.quantifierOpen, .number n, .quantifierClose] n (some n)
  | atLeast (n : Nat) :
      Repetition [.quantifierOpen, .number n, .comma, .quantifierClose] n none
  | between {m n : Nat} (h : m ≤ n) :
      Repetition [.quantifierOpen, .number m, .comma, .number n, .quantifierClose] m (some n)

inductive QuantifierTokens : List Token → Quantifier → Prop
  | greedy {ts : List Token} {m : Nat} {n : Option Nat} (h : Repetition ts m n) :
      QuantifierTokens ts { min := m, max := n }
  | lazy {ts : List Token} {m : Nat} {n : Option Nat} (h : Repetition ts m n) :
      QuantifierTokens (ts ++ [.optional]) { min := m, max := n, lazy := true }

/-! ## Classes -/

/-- A dash that makes a range of the class character before it: one that is followed by a token
which does not end the group. -/
def DashAhead (following : List Token) : Prop :=
  ∃ t rest, following = .char '-' :: t :: rest ∧ t ≠ .classClose ∧ t ≠ .subtract

/-- Members of a group, with the tokens behind them. -/
inductive Members : List Token → List Token → List ClassMember → Prop
  | nil {rest : List Token} : Members [] rest []
  | escape {t : Token} {ts rest : List Token} {name : EscapeName} {chars : CharSet}
      {ms : List ClassMember} (hname : t.escapeName? = some name)
      (hchars : name.chars? = some chars) (h : Members ts rest ms) :
      Members (t :: ts) rest (.escape ⟨name, chars⟩ :: ms)
  | char {t : Token} {ts rest : List Token} {c : Char} {ms : List ClassMember}
      (hc : t.classChar? = some c) (hdash : ¬ DashAhead (ts ++ rest)) (h : Members ts rest ms) :
      Members (t :: ts) rest (.char c :: ms)
  | range {t u : Token} {ts rest : List Token} {low high : Char} {ms : List ClassMember}
      (hlow : t.classChar? = some low) (hhigh : u.classChar? = some high) (hle : low ≤ high)
      (h : Members ts rest ms) :
      Members (t :: .char '-' :: u :: ts) rest (.range ⟨low, high⟩ :: ms)

def opening (negative : Bool) : List Token :=
  if negative then [.classOpen, .negation] else [.classOpen]

/-- A class, with the tokens behind it. -/
inductive Class : List Token → List Token → CharClass → Prop
  | group {negative : Bool} {ts rest : List Token} {ms : List ClassMember}
      (h : Members ts (.classClose :: rest) ms) (hne : ms ≠ []) :
      Class (opening negative ++ ts ++ [.classClose]) rest (.group ⟨negative, ms⟩)
  | difference {negative : Bool} {ts us rest : List Token} {ms : List ClassMember}
      {subtrahend : CharClass} (h : Members ts (.subtract :: us ++ .classClose :: rest) ms)
      (hne : ms ≠ []) (hsub : Class us (.classClose :: rest) subtrahend) :
      Class (opening negative ++ ts ++ .subtract :: us ++ [.classClose]) rest
        (.difference ⟨negative, ms⟩ subtrahend)

/-! ## Groups and references -/

/-- The number of groups opened so far, and the numbers of those that are closed. -/
structure Groups where
  opened : Nat := 0
  closed : Set Nat := ∅

namespace Groups

def opening (g : Groups) : Groups := { g with opened := g.opened + 1 }

def closing (g : Groups) (n : Nat) : Groups := { g with closed := insert n g.closed }

end Groups

/-- The number with one more decimal digit. -/
def withDigit (n : Nat) (c : Char) : Nat := n * 10 + (c.toNat - '0'.toNat)

/-- The digits that belong to a back-reference of which the number so far is given: as many as can
be taken while the number is that of a group that has been opened. -/
inductive Reference (opened : Nat) : Nat → List Token → List Token → Nat → Prop
  | done {n : Nat} {rest : List Token}
      (h : ∀ c us, rest = .digit c :: us → c.isDigit → opened < withDigit n c) :
      Reference opened n [] rest n
  | digit {n k : Nat} {c : Char} {ts rest : List Token} (hdigit : c.isDigit)
      (hle : withDigit n c ≤ opened) (h : Reference opened (withDigit n c) ts rest k) :
      Reference opened n (.digit c :: ts) rest k

/-! ## Expressions -/

/-- Branches to choose from, each of them pieces in a row. -/
def expression (bs : List (List Expr)) : Expr := .ofBranches (bs.map .ofPieces)

inductive Phrase
  | atom (e : Expr)
  | piece (e : Expr)
  | pieces (es : List Expr)
  | branches (bs : List (List Expr))

/-- The tokens `ts`, with `rest` behind them, are a phrase. -/
inductive Derives (flags : Flags) : Groups → List Token → List Token → Phrase → Groups → Prop
  | literal {g : Groups} {t : Token} {rest : List Token} {c : Char}
      (hc : t.classChar? = some c) : Derives flags g [t] rest (.atom (.literal c)) g
  | escape {g : Groups} {t : Token} {rest : List Token} {name : EscapeName} {chars : CharSet}
      (hname : t.escapeName? = some name) (hchars : name.chars? = some chars) :
      Derives flags g [t] rest (.atom (.escape ⟨name, chars⟩)) g
  | wildcard {g : Groups} {rest : List Token} :
      Derives flags g [.wildcard] rest (.atom (.wildcard flags.dotAll)) g
  | lineStart {g : Groups} {rest : List Token} :
      Derives flags g [.lineStart] rest (.atom (.border true flags.multiline)) g
  | lineEnd {g : Groups} {rest : List Token} :
      Derives flags g [.lineEnd] rest (.atom (.border false flags.multiline)) g
  | charClass {g : Groups} {ts rest : List Token} {c : CharClass} (h : Class ts rest c) :
      Derives flags g ts rest (.atom (.charClass c)) g
  | backReference {g : Groups} {ts rest : List Token} {first k : Nat}
      (h : Reference g.opened first ts rest k) (hclosed : k ∈ g.closed) :
      Derives flags g (.backReference first :: ts) rest (.atom (.backReference k)) g
  | capturing {g g' : Groups} {ts rest : List Token} {bs : List (List Expr)}
      (h : Derives flags g.opening ts (.groupClose :: rest) (.branches bs) g') :
      Derives flags g (.groupOpen :: ts ++ [.groupClose]) rest
        (.atom (.group true (expression bs))) (g'.closing (g.opened + 1))
  | nonCapturing {g g' : Groups} {ts rest : List Token} {bs : List (List Expr)}
      (h : Derives flags g ts (.groupClose :: rest) (.branches bs) g') :
      Derives flags g (.nonCapturingGroupOpen :: ts ++ [.groupClose]) rest
        (.atom (.group false (expression bs))) g'
  | bare {g g' : Groups} {ts rest : List Token} {e : Expr}
      (h : Derives flags g ts rest (.atom e) g') : Derives flags g ts rest (.piece e) g'
  | quantified {g g' : Groups} {ts us rest : List Token} {e : Expr} {q : Quantifier}
      (h : Derives flags g ts (us ++ rest) (.atom e) g') (hq : QuantifierTokens us q) :
      Derives flags g (ts ++ us) rest (.piece (.piece e q)) g'
  | noPieces {g : Groups} {rest : List Token} : Derives flags g [] rest (.pieces []) g
  | pieces {g g' g'' : Groups} {ts us rest : List Token} {e : Expr} {es : List Expr}
      (h : Derives flags g ts (us ++ rest) (.piece e) g')
      (hrest : Derives flags g' us rest (.pieces es) g'') :
      Derives flags g (ts ++ us) rest (.pieces (e :: es)) g''
  | branch {g g' : Groups} {ts rest : List Token} {es : List Expr}
      (h : Derives flags g ts rest (.pieces es) g') :
      Derives flags g ts rest (.branches [es]) g'
  | alternation {g g' g'' : Groups} {ts us rest : List Token} {es : List Expr}
      {bs : List (List Expr)} (h : Derives flags g ts (.alternation :: us ++ rest) (.pieces es) g')
      (hrest : Derives flags g' us rest (.branches bs) g'') :
      Derives flags g (ts ++ .alternation :: us) rest (.branches (es :: bs)) g''

/-- The tokens of a whole pattern with this expression. -/
def Sentence (flags : Flags) (ts : List Token) (e : Expr) : Prop :=
  ∃ bs g, Derives flags {} ts [] (.branches bs) g ∧ e = expression bs

end Grammar

/-! ## Collecting from expressions -/

/-- What `f` gives for an expression is what it gives for the parts of it, in their order. -/
structure Expr.Collects {α : Type} (f : Expr → List α) (all : List Expr → List α) : Prop where
  disjunction : ∀ es, f (.disjunction es) = all es
  branch : ∀ es, f (.branch es) = all es
  nil : all [] = []
  cons : ∀ e es, all (e :: es) = f e ++ all es

section

variable {α : Type} {f : Expr → List α} {all : List Expr → List α}

theorem Expr.Collects.ofPieces (h : Collects f all) (es : List Expr) :
    f (.ofPieces es) = all es := by
  unfold Expr.ofPieces
  split
  · rw [h.cons, h.nil, List.append_nil]
  · exact h.branch es

theorem Expr.Collects.ofBranches (h : Collects f all) (es : List Expr) :
    f (.ofBranches es) = all es := by
  unfold Expr.ofBranches
  split
  · rw [h.cons, h.nil, List.append_nil]
  · exact h.disjunction es

theorem Expr.Collects.expression (h : Collects f all) (bs : List (List Expr)) :
    f (Grammar.expression bs) = bs.flatMap all := by
  rw [Grammar.expression, h.ofBranches]
  induction bs with
  | nil => exact h.nil
  | cons es bs ih => rw [List.map_cons, h.cons, h.ofPieces, ih, List.flatMap_cons]

end

end SchemaPattern
