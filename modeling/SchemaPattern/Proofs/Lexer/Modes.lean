import SchemaPattern.Proofs.Lexer.Words
import SchemaPattern.Proofs.Numeral

/-!
# Rows of tokens that a pattern can have

Which tokens may stand in a row depends on the mode, outside of classes, in the bounds of a
quantifier or in a class, and on the token before.  A token that is admitted is one that its
spelling spells for the lexer, and the lexer takes no other tokens.
-/

namespace SchemaPattern

/-! ## Spellings -/

namespace Token

/-- What the token holds can be written in a pattern. -/
def Legible : Token → Prop
  | digit c => c.isDigit = true
  | singleEscape c => c ∈ ['\n', '\r', '\t'] ++ Lexer.metaChars
  | multiEscape letter => letter ∈ Lexer.multiLetters
  | categoryEscape name _ => name ≠ "" ∧ ∀ c ∈ name.toList, Lexer.isNameChar c = true
  | backReference n => 1 ≤ n ∧ n ≤ 9
  | number n => n < Lexer.boundLimit
  | _ => True

def spelling : Token → List Char
  | char c | digit c => [c]
  | singleEscape c =>
      ['\\', if c = '\n' then 'n' else if c = '\r' then 'r' else if c = '\t' then 't' else c]
  | multiEscape letter => ['\\', letter]
  | categoryEscape name negated =>
      '\\' :: (if negated then 'P' else 'p') :: '{' :: (name.toList ++ ['}'])
  | backReference n => ['\\', Numeral.digit n]
  | wildcard => ['.']
  | lineStart => ['^']
  | lineEnd => ['$']
  | groupOpen => ['(']
  | nonCapturingGroupOpen => ['(', '?', ':']
  | groupClose => [')']
  | alternation => ['|']
  | optional => ['?']
  | zeroOrMore => ['*']
  | oneOrMore => ['+']
  | quantifierOpen => ['{']
  | number n => Numeral.decimal n
  | comma => [',']
  | quantifierClose => ['}']
  | classOpen => ['[']
  | classClose => [']']
  | negation => ['^']
  | subtract => ['-']

/-- All tokens have one spelling, but numbers, which may have leading zeros. -/
def SpelledBy : Token → List Char → Prop
  | number n, text =>
      text ≠ [] ∧ (∀ d ∈ text, d.isDigit = true) ∧ Numeral.decimalValue text = n
  | t, text => text = t.spelling

theorem spelledBy_spelling (t : Token) : t.SpelledBy t.spelling := by
  cases t with
  | number n => exact Numeral.decimal_spec n
  | _ => rfl

/-! ## Modes -/

/-- The characters that cannot stand for themselves outside of classes. -/
def reserved : List Char :=
  ['[', ']', '{', '}', '(', ')', '|', '?', '*', '+', '.', '^', '$', '\\']

def StandsOutside (extended : Bool) : Token → Prop
  | char c => c ∉ reserved ∧ c.isDigit = false
  | nonCapturingGroupOpen => extended = true
  | number _ | comma | quantifierClose | classClose | negation | subtract => False
  | _ => True

def StandsInBounds : Token → Prop
  | number _ | comma | quantifierClose => True
  | _ => False

def StandsInClass (previous : Option Token) : Token → Prop
  | classOpen => previous = some subtract
  | negation => previous = some classOpen
  | char c => previous ≠ some subtract ∧ c ∉ ['[', ']', '\\'] ∧ c.isDigit = false ∧
      (c = '^' → previous ≠ some classOpen)
  | digit _ | singleEscape _ | multiEscape _ | categoryEscape .. | classClose | subtract =>
      previous ≠ some subtract
  | _ => False

def IsEscape : Token → Prop
  | singleEscape _ | multiEscape _ | categoryEscape .. => True
  | _ => False

/-- With nothing between it and the previous token, the token is not read as one of its own. -/
def Continues : Option Token → Token → Bool
  | some groupOpen, optional => true
  | some (number _), number _ => true
  | _, _ => false

/-- The character of the token could stand in a gap between tokens. -/
def IsGap : Token → Prop
  | char c => Lexer.isBlank c = true ∨ c = '#'
  | _ => False

end Token

/-- Where a token stands: outside of classes and bounds, in the bounds of a quantifier, or in a
class that stands in `enclosing` others. -/
inductive Mode
  | outside
  | bounds
  | charClass (enclosing : Nat)
  deriving DecidableEq, Repr

namespace Mode

def InClass : Mode → Prop
  | charClass _ => True
  | _ => False

def Admits (extended : Bool) (previous : Option Token) : Mode → Token → Prop
  | outside => Token.StandsOutside extended
  | bounds => Token.StandsInBounds
  | charClass _ => Token.StandsInClass previous

/-- The mode behind a token. -/
def behind : Mode → Token → Mode
  | outside, .classOpen => charClass 0
  | outside, .quantifierOpen => bounds
  | bounds, .quantifierClose => outside
  | charClass n, .classOpen => charClass (n + 1)
  | charClass (n + 1), .classClose => charClass n
  | charClass 0, .classClose => outside
  | mode, _ => mode

end Mode

/-- From a mode on, each token is admitted where it stands, and no class and no bounds are left
open.  Where blanks are skipped they are no tokens, and where they are not nothing keeps two tokens
apart. -/
def WellModedFrom (flags : Flags) : Mode → Option Token → List Token → Prop
  | mode, _, [] => mode = .outside
  | mode, previous, t :: ts =>
      t.Legible ∧ mode.Admits flags.extended previous t ∧
        (flags.stripWhitespace = false → t.Continues previous = false) ∧
        (flags.stripWhitespace = true → ¬ mode.InClass → ¬ t.IsGap) ∧
        WellModedFrom flags (mode.behind t) (some t) ts

def WellModed (flags : Flags) (ts : List Token) : Prop := WellModedFrom flags .outside none ts

/-! ## Decisions -/

-- The characters of a name are looked through one by one, not all characters that there are.
instance : DecidablePred Token.Legible := fun t => by
  cases t with
  | categoryEscape name =>
      exact @instDecidableAnd (name ≠ "") _ inferInstance (List.decidableBAll _ name.toList)
  | _ => dsimp only [Token.Legible]; infer_instance

instance (extended : Bool) : DecidablePred (Token.StandsOutside extended) := fun t => by
  cases t <;> (dsimp only [Token.StandsOutside]; infer_instance)

instance : DecidablePred Token.StandsInBounds := fun t => by
  cases t <;> (dsimp only [Token.StandsInBounds]; infer_instance)

instance (previous : Option Token) : DecidablePred (Token.StandsInClass previous) := fun t => by
  cases t <;> (dsimp only [Token.StandsInClass]; infer_instance)

instance : DecidablePred Token.IsGap := fun t => by
  cases t <;> (dsimp only [Token.IsGap]; infer_instance)

instance : DecidablePred Mode.InClass := fun mode => by
  cases mode <;> (dsimp only [Mode.InClass]; infer_instance)

instance (extended : Bool) (previous : Option Token) (mode : Mode) :
    DecidablePred (mode.Admits extended previous) := fun t => by
  cases mode <;> (dsimp only [Mode.Admits]; infer_instance)

instance decidableWellModedFrom (flags : Flags) :
    ∀ mode previous ts, Decidable (WellModedFrom flags mode previous ts)
  | mode, _, [] => inferInstanceAs (Decidable (mode = .outside))
  | mode, _, t :: ts =>
      have := decidableWellModedFrom flags (mode.behind t) (some t) ts
      inferInstanceAs (Decidable (_ ∧ _ ∧ _ ∧ _ ∧ _))

instance (flags : Flags) (ts : List Token) : Decidable (WellModed flags ts) :=
  decidableWellModedFrom flags .outside none ts

namespace Lexer

/-! ## Contexts -/

def Spot.behind : Option Token → Spot
  | some .classOpen => .start
  | some .subtract => .beforeSubtrahend
  | _ => .inside

theorem Spot.behind_eq_start {previous : Option Token} :
    Spot.behind previous = .start ↔ previous = some .classOpen := by
  unfold Spot.behind
  split <;> simp_all

theorem Spot.behind_eq_beforeSubtrahend {previous : Option Token} :
    Spot.behind previous = .beforeSubtrahend ↔ previous = some .subtract := by
  unfold Spot.behind
  split <;> simp_all

end Lexer

/-- The lexer's context in a mode, behind a token. -/
def Mode.context (previous : Option Token) : Mode → Lexer.Context
  | outside => .outside
  | bounds => .quantifier
  | charClass n => .charClass n (.behind previous)

theorem Mode.inClass_context {mode : Mode} {previous : Option Token} :
    (mode.context previous).InClass ↔ mode.InClass := by
  cases mode <;> rfl

/-- The token ends before the next character. -/
def Mode.Ends : Mode → Token → Option Char → Prop
  | outside, .groupOpen, next => next ≠ some '?'
  | bounds, .number _, next => ∀ c ∈ next, c.isDigit = false
  | charClass _, .subtract, next => next = some '['
  | charClass _, .char c, next => c = '-' → next ≠ some '['
  | _, _, _ => True

/-- Behind the previous token the text stands for the token in a mode, and leaves the lexer in a
context. -/
structure Mode.Takes (extended : Bool) (mode : Mode) (previous : Option Token) (text : List Char)
    (next : Option Char) (t : Token) (after : Lexer.Context) : Prop where
  legible : t.Legible
  admits : mode.Admits extended previous t
  spelled : t.SpelledBy text
  ends : mode.Ends t next
  leaves : after = (mode.behind t).context (some t)

namespace Lexer

/-! ## Spelled tokens are those that are admitted -/

theorem metaChars_ne_blank :
    ∀ c ∈ metaChars, c ≠ '\n' ∧ c ≠ '\r' ∧ c ≠ '\t' :=
  forall_mem_of_all (by decide)

theorem spelling_metaChar {c : Char} (h : c ∈ metaChars) :
    (Token.singleEscape c).spelling = ['\\', c] := by
  obtain ⟨hn, hr, ht⟩ := metaChars_ne_blank c h
  rw [Token.spelling, if_neg hn, if_neg hr, if_neg ht]

theorem spellsEscape_iff {text : List Char} {t : Token} :
    SpellsEscape text t ↔ t.IsEscape ∧ t.Legible ∧ t.SpelledBy text := by
  constructor
  · intro h
    cases h with
    | newline | carriageReturn | tab => exact ⟨trivial, by simp [Token.Legible], rfl⟩
    | single h => exact ⟨trivial, List.mem_append_right _ h, (spelling_metaChar h).symm⟩
    | multi h => exact ⟨trivial, h, rfl⟩
    | category negated hne h =>
        refine ⟨trivial, ⟨?_, by simpa using h⟩, by simp [Token.SpelledBy, Token.spelling]⟩
        simpa using hne
  · rintro ⟨hescape, hlegible, hspelled⟩
    cases t with
    | singleEscape c =>
        obtain rfl := hspelled
        simp only [Token.Legible, List.mem_append, List.mem_cons, List.not_mem_nil, or_false]
          at hlegible
        rcases hlegible with (rfl | rfl | rfl) | hmeta
        · exact .newline
        · exact .carriageReturn
        · exact .tab
        · rw [spelling_metaChar hmeta]
          exact .single hmeta
    | multiEscape letter =>
        obtain rfl := hspelled
        exact .multi hlegible
    | categoryEscape name negated =>
        obtain rfl := hspelled
        obtain ⟨hne, hname⟩ := hlegible
        have hcategory := @SpellsEscape.category name.toList negated
          (by simpa using hne) hname
        rwa [String.ofList_toList] at hcategory
    | _ => exact absurd hescape id

section

variable {extended : Bool} {text : List Char} {next : Option Char} {t : Token} {after : Context}

theorem mem_metaChars_iff {c : Char} : c ∈ metaChars ↔ c = '-' ∨ c ∈ Token.reserved := by
  constructor
  · exact @forall_mem_of_all metaChars (fun c => c = '-' ∨ c ∈ Token.reserved) _ (by decide) c
  · rintro (rfl | h)
    · decide
    · exact @forall_mem_of_all Token.reserved (· ∈ metaChars) _ (by decide) c h

theorem metaChars_iff_reserved {c : Char} : (c ∈ metaChars → c = '-') ↔ c ∉ Token.reserved := by
  constructor
  · intro h hmem
    obtain rfl := h (mem_metaChars_iff.2 (.inr hmem))
    exact absurd hmem (by decide)
  · intro h hmem
    exact (mem_metaChars_iff.1 hmem).resolve_right h

theorem digit_reference {n : Nat} (h : 1 ≤ n ∧ n ≤ 9) :
    (Numeral.digit n).isDigit = true ∧ Numeral.digit n ≠ '0' ∧
      (Numeral.digit n).toNat - '0'.toNat = n := by
  obtain ⟨hdigit, hvalue, hzero⟩ := Numeral.digit_spec (show n < 10 by omega)
  refine ⟨hdigit, fun h0 => ?_, hvalue⟩
  have := hzero h0
  omega

theorem legible_reference {d : Char} (hdigit : d.isDigit = true) (hne : d ≠ '0') :
    1 ≤ d.toNat - '0'.toNat ∧ d.toNat - '0'.toNat ≤ 9 ∧
      Numeral.digit (d.toNat - '0'.toNat) = d := by
  obtain ⟨hlt, hd⟩ := Numeral.digit_toNat hdigit
  have hpos : d.toNat - 48 ≠ 0 := by
    intro h0
    rw [h0] at hd
    exact hne hd.symm
  have hzero : '0'.toNat = 48 := rfl
  rw [hzero]
  exact ⟨by omega, by omega, hd⟩

theorem takes_of_spells_outside (previous : Option Token)
    (h : Spells extended .outside text next t after) :
    Mode.outside.Takes extended previous text next t after := by
  cases h with
  | operator h =>
      simp only [operators, List.mem_cons, Prod.mk.injEq, List.not_mem_nil, or_false] at h
      rcases h with ⟨rfl, rfl⟩ | ⟨rfl, rfl⟩ | ⟨rfl, rfl⟩ | ⟨rfl, rfl⟩ | ⟨rfl, rfl⟩ | ⟨rfl, rfl⟩ |
        ⟨rfl, rfl⟩ | ⟨rfl, rfl⟩ <;> exact ⟨trivial, trivial, rfl, trivial, rfl⟩
  | groupOpen h => exact ⟨trivial, trivial, rfl, h, rfl⟩
  | nonCapturing h => exact ⟨trivial, h, rfl, trivial, rfl⟩
  | quantifierOpen | classOpen => exact ⟨trivial, trivial, rfl, trivial, rfl⟩
  | escape h =>
      obtain ⟨hescape, hlegible, hspelled⟩ := spellsEscape_iff.1 h
      cases t with
      | singleEscape | multiEscape | categoryEscape =>
          exact ⟨hlegible, trivial, hspelled, trivial, rfl⟩
      | _ => exact absurd hescape id
  | reference hdigit hne =>
      obtain ⟨hlow, hhigh, hd⟩ := legible_reference hdigit hne
      refine ⟨⟨hlow, hhigh⟩, trivial, ?_, trivial, rfl⟩
      rw [Token.SpelledBy, Token.spelling, hd]
      simp
  | digit h => exact ⟨h, trivial, rfl, trivial, rfl⟩
  | char hmeta hdigit =>
      exact ⟨trivial, ⟨metaChars_iff_reserved.1 hmeta, hdigit⟩, rfl, trivial, rfl⟩

theorem spells_of_takes_outside {previous : Option Token}
    (h : Mode.outside.Takes extended previous text next t after) :
    Spells extended .outside text next t after := by
  obtain ⟨hlegible, hstands, hspelled, hends, rfl⟩ := h
  cases t with
  | char c =>
      obtain rfl := hspelled
      exact .char (metaChars_iff_reserved.2 hstands.1) hstands.2
  | digit c =>
      obtain rfl := hspelled
      exact .digit hlegible
  | singleEscape | multiEscape | categoryEscape =>
      exact .escape (spellsEscape_iff.2 ⟨trivial, hlegible, hspelled⟩)
  | backReference n =>
      obtain rfl := hspelled
      obtain ⟨hdigit, hne, hvalue⟩ := digit_reference hlegible
      have hspells := @Spells.reference extended (Numeral.digit n) next hdigit hne
      rwa [hvalue] at hspells
  | groupOpen =>
      obtain rfl := hspelled
      exact .groupOpen hends
  | nonCapturingGroupOpen =>
      obtain rfl := hspelled
      exact .nonCapturing hstands
  | quantifierOpen =>
      obtain rfl := hspelled
      exact .quantifierOpen
  | classOpen =>
      obtain rfl := hspelled
      exact .classOpen
  | number | comma | quantifierClose | classClose | negation | subtract =>
      exact absurd hstands id
  | _ =>
      obtain rfl := hspelled
      exact .operator (by simp [operators])

theorem spells_bounds_iff {previous : Option Token} :
    Spells extended .quantifier text next t after ↔
      Mode.bounds.Takes extended previous text next t after := by
  constructor
  · intro h
    cases h with
    | number hne hdigits hnext hlimit =>
        exact ⟨hlimit, trivial, ⟨hne, hdigits, rfl⟩, hnext, rfl⟩
    | comma | quantifierClose => exact ⟨trivial, trivial, rfl, trivial, rfl⟩
  · rintro ⟨hlegible, hstands, hspelled, hends, rfl⟩
    cases t with
    | number n =>
        obtain ⟨hne, hdigits, rfl⟩ := hspelled
        exact .number hne hdigits hends hlegible
    | comma =>
        obtain rfl := hspelled
        exact .comma
    | quantifierClose =>
        obtain rfl := hspelled
        exact .quantifierClose
    | _ => exact absurd hstands id

/-- Behind the dash of a subtraction the lexer has seen the bracket. -/
theorem takes_of_spells_class {n : Nat} {previous : Option Token}
    (hprevious : previous = some .subtract → text.head? = some '[')
    (h : Spells extended (.charClass n (.behind previous)) text next t after) :
    (Mode.charClass n).Takes extended previous text next t after := by
  have hnot {c : Char} {rest : List Char} (htext : text = c :: rest) (hc : c ≠ '[') :
      previous ≠ some .subtract := by
    intro hsubtract
    have hhead := hprevious hsubtract
    rw [htext] at hhead
    exact hc (Option.some.inj hhead)
  generalize hspot : Spot.behind previous = spot at h
  cases h with
  | negation => exact ⟨trivial, Spot.behind_eq_start.1 hspot, rfl, trivial, rfl⟩
  | caret hne =>
      refine ⟨trivial, ⟨hnot rfl (by decide), by decide, by decide, fun _ hopen => ?_⟩, rfl,
        by simp [Mode.Ends], rfl⟩
      rw [← Spot.behind_eq_start, hspot] at hopen
      exact hne hopen
  | subtrahend => exact ⟨trivial, Spot.behind_eq_beforeSubtrahend.1 hspot, rfl, trivial, rfl⟩
  | classClose =>
      refine ⟨trivial, hnot rfl (by decide), rfl, trivial, ?_⟩
      cases n <;> rfl
  | subtract => exact ⟨trivial, hnot rfl (by decide), rfl, rfl, rfl⟩
  | dash hne =>
      exact ⟨trivial, ⟨hnot rfl (by decide), by decide, by decide, nofun⟩, rfl, fun _ => hne, rfl⟩
  | classEscape h =>
      obtain ⟨hescape, hlegible, hspelled⟩ := spellsEscape_iff.1 h
      obtain ⟨c, rest, htext⟩ := h.eq_cons
      have hplain := hnot htext (by decide)
      cases t with
      | singleEscape | multiEscape | categoryEscape =>
          exact ⟨hlegible, hplain, hspelled, trivial, rfl⟩
      | _ => exact absurd hescape id
  | @classDigit _ _ d _ hdigit =>
      refine ⟨hdigit, hnot rfl ?_, rfl, trivial, rfl⟩
      rintro rfl
      cases hdigit
  | @classChar _ _ c _ hmeta hdigit =>
      simp only [List.mem_cons, List.not_mem_nil, or_false, not_or] at hmeta
      obtain ⟨hcaret, hopen, hclose, hdash, hbackslash⟩ := hmeta
      refine ⟨trivial, ⟨hnot rfl hopen, by simp [hopen, hclose, hbackslash], hdigit,
        fun hc => absurd hc hcaret⟩, rfl, fun hc => absurd hc hdash, rfl⟩

theorem spells_of_takes_class {n : Nat} {previous : Option Token}
    (h : (Mode.charClass n).Takes extended previous text next t after) :
    Spells extended (.charClass n (.behind previous)) text next t after := by
  obtain ⟨hlegible, hstands, hspelled, hends, rfl⟩ := h
  cases t with
  | char c =>
      obtain rfl := hspelled
      obtain ⟨-, hmeta, hdigit, hcaret⟩ := hstands
      by_cases hc : c = '^'
      · subst hc
        exact .caret fun hspot => hcaret rfl (Spot.behind_eq_start.1 hspot)
      · by_cases hd : c = '-'
        · subst hd
          exact .dash (hends rfl)
        · refine .classChar ?_ hdigit
          simp_all
  | digit c =>
      obtain rfl := hspelled
      exact .classDigit hlegible
  | singleEscape | multiEscape | categoryEscape =>
      exact .classEscape (spellsEscape_iff.2 ⟨trivial, hlegible, hspelled⟩)
  | classOpen =>
      obtain rfl := hspelled
      rw [Spot.behind_eq_beforeSubtrahend.2 hstands]
      exact .subtrahend
  | classClose =>
      obtain rfl := hspelled
      have hbehind : Context.behindClass n =
          ((Mode.charClass n).behind .classClose).context (some .classClose) := by
        cases n <;> rfl
      rw [← hbehind]
      exact .classClose
  | negation =>
      obtain rfl := hspelled
      rw [Spot.behind_eq_start.2 hstands]
      exact .negation
  | subtract =>
      obtain rfl := hspelled
      obtain rfl := hends
      exact .subtract
  | _ => exact absurd hstands id

/-- A text spells a token in a context if the token is admitted there and ends with the text. -/
theorem spells_iff {mode : Mode} {previous : Option Token}
    (hprevious : mode.InClass → previous = some .subtract → text.head? = some '[') :
    Spells extended (mode.context previous) text next t after ↔
      mode.Takes extended previous text next t after := by
  cases mode with
  | outside => exact ⟨takes_of_spells_outside previous, spells_of_takes_outside⟩
  | bounds => exact spells_bounds_iff
  | charClass n => exact ⟨takes_of_spells_class (hprevious trivial), spells_of_takes_class⟩

end

end Lexer

end SchemaPattern
