import SchemaPattern.Proofs.Lexer.Modes
import SchemaPattern.Proofs.Parser.BackReference

/-!
# What has been read of a construct

The lexemes of a construct that the parser is reading are those that it took last.  Its mode tells
in which mode the lexer is behind them.
-/

namespace SchemaPattern

theorem Mode.behind_of_classChar {t : Token} {c : Char} (h : t.classChar? = some c) (mode : Mode) :
    mode.behind t = mode := by
  cases t <;> first | (cases mode <;> rfl) | cases h

theorem Mode.behind_of_escape {t : Token} {name : EscapeName} (h : t.escapeName? = some name)
    (mode : Mode) : mode.behind t = mode := by
  cases t <;> first | (cases mode <;> rfl) | cases h

namespace Parser

/-! ## Modes -/

/-- The mode of the lexer behind what the parser has taken. -/
def Mode.lexing : Mode → SchemaPattern.Mode
  | minimum .. | comma .. | maximum .. | closingBrace .. => .bounds
  | members k | rangeEnd k .. => .charClass k.outer.length
  | closing _ (_ :: outer) => .charClass outer.length
  | closing _ [] | branch | atom | quantifier _ | lazyMark .. | reference .. => .outside

def digitLexemes (ds : List (Char × Location)) : List Lexeme :=
  ds.map fun d => ⟨.digit d.1, d.2⟩

/-- What has been taken of the construct that is being read in a mode. -/
def Mode.Construct : Mode → List Lexeme → Prop
  | minimum _ start, ls => ls = [⟨.quantifierOpen, start⟩]
  | comma _ start min, ls => ∃ range, ls = [⟨.quantifierOpen, start⟩, ⟨.number min, range⟩]
  | maximum _ start min, ls => ∃ range comma,
      ls = [⟨.quantifierOpen, start⟩, ⟨.number min, range⟩, ⟨.comma, comma⟩]
  | reference n start, ls => ∃ first ds,
      ls = ⟨.backReference first, start⟩ :: digitLexemes ds ∧ withDigits first ds = n
  | rangeEnd _ low start, ls => ∃ t dash,
      ls = [⟨t, start⟩, ⟨.char '-', dash⟩] ∧ t.classChar? = some low
  | branch, ls | atom, ls | quantifier _, ls | closingBrace .., ls | lazyMark .., ls
  | members _, ls | closing .., ls => ls = []

/-- The lexemes that have been taken lead to the mode of the lexer, and the last of them are those
of the construct. -/
structure Reading (ls : List Lexeme) (mode : Mode) : Prop where
  lexing : (ls.map Lexeme.token).foldl SchemaPattern.Mode.behind .outside = mode.lexing
  construct : ∃ before construct, ls = before ++ construct ∧ mode.Construct construct

/-! ## Steps -/

theorem digitLexemes_concat (ds : List (Char × Location)) (d : Char × Location) :
    digitLexemes (ds ++ [d]) = digitLexemes ds ++ [⟨.digit d.1, d.2⟩] :=
  List.map_append

theorem withDigits_concat (n : Nat) (ds : List (Char × Location)) (d : Char × Location) :
    withDigits n (ds ++ [d]) = Grammar.withDigit (withDigits n ds) d.1 :=
  List.foldl_append

section

variable {flags : Flags} {st next : State} {ls taken : List Lexeme} {rest : List Token}

theorem Moves.lexing (h : Moves flags st taken rest next) :
    (taken.map Lexeme.token).foldl SchemaPattern.Mode.behind st.mode.lexing =
      next.mode.lexing := by
  cases h with
  | literal hmode hc =>
      rw [hmode]
      exact SchemaPattern.Mode.behind_of_classChar hc _
  | member hmode hc | rangeEnd hmode hc =>
      rw [hmode]
      exact SchemaPattern.Mode.behind_of_classChar hc _
  | escape hmode hname =>
      rw [hmode]
      exact SchemaPattern.Mode.behind_of_escape hname _
  | memberEscape hmode hname =>
      rw [hmode]
      exact SchemaPattern.Mode.behind_of_escape hname _
  | dash hmode hc =>
      rw [hmode]
      have hdash : (Token.char '-').classChar? = some '-' := rfl
      simp only [List.map_cons, List.map_nil, List.foldl_cons, List.foldl_nil,
        SchemaPattern.Mode.behind_of_classChar hc, SchemaPattern.Mode.behind_of_classChar hdash]
      rfl
  | @closeClass _ _ k hmode =>
      rw [hmode]
      cases hk : k.outer with
      | nil => simp [Mode.lexing, hk, SchemaPattern.Mode.behind]
      | cons g outer => simp [Mode.lexing, hk, SchemaPattern.Mode.behind]
  | @closeOuter _ _ _ _ outer hmode =>
      rw [hmode]
      cases outer <;> rfl
  | bar hmode =>
      simp only [hmode]
      rfl
  | _ =>
      rw [‹st.mode = _›]
      rfl

theorem Reading.moves (h : Reading ls st.mode) (hmove : Moves flags st taken rest next) :
    Reading (ls ++ taken) next.mode := by
  refine ⟨by rw [List.map_append, List.foldl_append, h.lexing, hmove.lexing], ?_⟩
  obtain ⟨before, construct, rfl, hconstruct⟩ := h.construct
  rw [List.append_assoc]
  -- A construct begins with the lexemes taken, goes on with them, or has ended.
  cases hmove with
  | openBrace => exact ⟨before ++ construct, _, (List.append_assoc ..).symm, rfl⟩
  | openReference =>
      exact ⟨before ++ construct, _, (List.append_assoc ..).symm, _, [], rfl, rfl⟩
  | dash hmode hc =>
      exact ⟨before ++ construct, _, (List.append_assoc ..).symm, _, _, rfl, hc⟩
  | minimum hmode =>
      rw [hmode] at hconstruct
      obtain rfl := hconstruct
      exact ⟨before, _, rfl, _, rfl⟩
  | comma hmode =>
      rw [hmode] at hconstruct
      obtain ⟨range, rfl⟩ := hconstruct
      exact ⟨before, _, rfl, range, _, rfl⟩
  | @digit _ _ range _ c hmode =>
      rw [hmode] at hconstruct
      obtain ⟨first, ds, rfl, rfl⟩ := hconstruct
      exact ⟨before, _, rfl, first, ds ++ [(c, range)], by rw [digitLexemes_concat]; rfl,
        withDigits_concat ..⟩
  | bar hmode =>
      refine ⟨before ++ (construct ++ _), [], (List.append_nil _).symm, ?_⟩
      simp only [hmode]
      rfl
  | _ => exact ⟨before ++ (construct ++ _), [], (List.append_nil _).symm, rfl⟩

/-! ## Runs -/

theorem reading_start : Reading [] ({} : State).mode where
  lexing := rfl
  construct := ⟨[], [], rfl, rfl⟩

theorem Reaches.reading {its taken rest : List Lexer.Item} (h : Reaches flags its taken rest st) :
    ∃ ls, taken = items ls ∧ Reading ls st.mode :=
  h.invariant (motive := fun ls _ st => Reading ls st.mode) reading_start
    fun _ _ _ _ _ hreading hmoves => hreading.moves hmoves

end

end Parser

end SchemaPattern
