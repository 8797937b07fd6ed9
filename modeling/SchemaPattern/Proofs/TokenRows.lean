import SchemaPattern.Proofs.Lexer.Modes
import SchemaPattern.Proofs.Spacing

/-!
# Rows of tokens and their spelling

Lexing is the inverse of spelling.  The rows of tokens that patterns have are the well-moded ones,
and from each spelling of such a row the lexer takes the row.
-/

namespace SchemaPattern

/-- The tokens of a pattern. -/
def lexTokens (flags : Flags) (pattern : String) : Except Fault (List Token) :=
  (lex flags pattern).map (List.map Lexeme.token)

/-- Spellings of tokens in their order, with a blank where a token would be read as a part of the
one before it. -/
inductive Spelled : Option Token → List Token → List Char → Prop
  | nil {previous : Option Token} : Spelled previous [] []
  | cons {previous : Option Token} {t : Token} {ts : List Token} {text rest : List Char}
      (h : t.SpelledBy text) (hrest : Spelled (some t) ts rest) :
      Spelled previous (t :: ts) ((if t.Continues previous then [' '] else []) ++ (text ++ rest))

def spellFrom : Option Token → List Token → List Char
  | _, [] => []
  | previous, t :: ts =>
      (if t.Continues previous then [' '] else []) ++ (t.spelling ++ spellFrom (some t) ts)

/-- The text of a row of tokens. -/
def spell (ts : List Token) : String := String.ofList (spellFrom none ts)

theorem spelled_spellFrom (previous : Option Token) (ts : List Token) :
    Spelled previous ts (spellFrom previous ts) := by
  induction ts generalizing previous with
  | nil => exact .nil
  | cons t ts ih => exact .cons t.spelledBy_spelling (ih _)

/-! ## What stands behind a token -/

namespace Token

theorem SpelledBy.ne_nil {t : Token} {text : List Char} (h : t.SpelledBy text) : text ≠ [] := by
  cases t with
  | number n => exact h.1
  | _ =>
      obtain rfl := h
      simp [spelling]

/-- Outside of classes only one token begins with a question mark. -/
theorem eq_optional {extended : Bool} {t : Token} {text : List Char} (hlegible : t.Legible)
    (hstands : t.StandsOutside extended) (h : t.SpelledBy text) (hhead : text.head? = some '?') :
    t = optional := by
  cases t with
  | optional => rfl
  | char c =>
      obtain rfl := h
      obtain rfl := Option.some.inj hhead
      exact absurd (by decide) hstands.1
  | digit c =>
      obtain rfl := h
      obtain rfl := Option.some.inj hhead
      cases hlegible
  | number | comma | quantifierClose | classClose | negation | subtract => exact absurd hstands id
  | _ =>
      obtain rfl := h
      exact absurd (Option.some.inj hhead) (by decide)

/-- In bounds only numbers begin with a digit. -/
theorem eq_number {t : Token} {text : List Char} (hstands : t.StandsInBounds)
    (h : t.SpelledBy text) {d : Char} (hhead : text.head? = some d) (hd : d.isDigit = true) :
    ∃ n, t = number n := by
  cases t with
  | number n => exact ⟨n, rfl⟩
  | comma | quantifierClose =>
      obtain rfl := h
      obtain rfl := Option.some.inj hhead
      cases hd
  | _ => exact absurd hstands id

/-- In a class only the bracket of another class begins with one. -/
theorem eq_classOpen {previous : Option Token} {t : Token} {text : List Char}
    (hlegible : t.Legible) (hstands : t.StandsInClass previous) (h : t.SpelledBy text)
    (hhead : text.head? = some '[') : t = classOpen := by
  cases t with
  | classOpen => rfl
  | char c =>
      obtain rfl := h
      obtain rfl := Option.some.inj hhead
      exact absurd (by decide) hstands.2.1
  | digit c =>
      obtain rfl := h
      obtain rfl := Option.some.inj hhead
      cases hlegible
  | singleEscape | multiEscape | categoryEscape | classClose | negation | subtract =>
      obtain rfl := h
      exact absurd (Option.some.inj hhead) (by decide)
  | _ => exact absurd hstands id

/-- Nothing but the bracket of another class stands behind the dash of a subtraction. -/
theorem eq_classOpen_of_subtract {t : Token} (h : t.StandsInClass (some subtract)) :
    t = classOpen := by
  cases t with
  | classOpen => rfl
  | char c => exact absurd rfl h.1
  | digit | singleEscape | multiEscape | categoryEscape | classClose | subtract =>
      exact absurd rfl h
  | negation => exact absurd (Option.some.inj h) (by decide)
  | _ => exact absurd h id

end Token

section

variable {flags : Flags} {mode : Mode} {previous : Option Token} {t : Token} {ts : List Token}
  {text : List Char}

/-- Where a token would be read as a part of the one before it, the mode is not that of a class. -/
theorem Mode.not_inClass_of_continues {extended : Bool} (h : mode.Admits extended previous t)
    (hcontinues : t.Continues previous = true) : ¬ mode.InClass := by
  unfold Token.Continues at hcontinues
  split at hcontinues
  · cases mode with
    | charClass n => exact absurd h id
    | _ => exact id
  · cases mode with
    | charClass n => exact absurd h id
    | _ => exact id
  · cases hcontinues

/-- The text of a well-moded row begins with a gap or with a token that is admitted there. -/
theorem WellModedFrom.head (h : WellModedFrom flags mode previous ts)
    (hspelled : Spelled previous ts text) {c : Char} (hc : text.head? = some c) :
    c = ' ' ∨ ∃ first spelling, first.Legible ∧ mode.Admits flags.extended previous first ∧
      first.SpelledBy spelling ∧ spelling.head? = some c ∧ first.Continues previous = false := by
  cases hspelled with
  | nil => cases hc
  | @cons _ first rest spelling _ hfirst hrest =>
      obtain ⟨hlegible, hadmits, -⟩ := h
      obtain ⟨d, more, rfl⟩ := List.exists_cons_of_ne_nil hfirst.ne_nil
      by_cases hcontinues : first.Continues previous = true
      · rw [if_pos hcontinues] at hc
        exact .inl (Option.some.inj hc).symm
      · rw [if_neg hcontinues] at hc
        exact .inr ⟨first, _, hlegible, hadmits, hfirst, hc, by simpa using hcontinues⟩

/-- Each end of a well-moded row is one, in a mode and behind a token of its own. -/
theorem WellModedFrom.of_append {before : List Token}
    (h : WellModedFrom flags mode previous (before ++ ts)) :
    ∃ mode' previous', WellModedFrom flags mode' previous' ts := by
  induction before generalizing mode previous with
  | nil => exact ⟨mode, previous, h⟩
  | cons first before ih =>
      obtain ⟨-, -, -, -, hbehind⟩ := h
      exact ih hbehind

/-- The row behind the dash of a subtraction begins with the bracket of a class. -/
theorem WellModedFrom.classOpen_of_subtract {n : Nat}
    (h : WellModedFrom flags (.charClass n) (some .subtract) ts) :
    ∃ rest, ts = .classOpen :: rest := by
  cases ts with
  | nil => cases h
  | cons first rest =>
      obtain ⟨-, hadmits, -⟩ := h
      obtain rfl := Token.eq_classOpen_of_subtract hadmits
      exact ⟨rest, rfl⟩

/-- Before a well-moded row a token ends where its spelling does. -/
theorem ends_of_wellModed (h : WellModedFrom flags (mode.behind t) (some t) ts)
    (hspelled : Spelled (some t) ts text) : mode.Ends t text.head? := by
  unfold Mode.Ends
  split
  · intro hhead
    obtain hc | ⟨first, spelling, hlegible, hadmits, hfirst, hc, hcontinues⟩ :=
      h.head hspelled hhead
    · cases hc
    · rw [Token.eq_optional hlegible hadmits hfirst hc] at hcontinues
      cases hcontinues
  · intro d hhead
    obtain rfl | ⟨first, spelling, -, hadmits, hfirst, hc, hcontinues⟩ := h.head hspelled hhead
    · rfl
    · by_contra hd
      obtain ⟨n, rfl⟩ := Token.eq_number hadmits hfirst hc (by simpa using hd)
      cases hcontinues
  · obtain ⟨rest, rfl⟩ := h.classOpen_of_subtract
    cases hspelled with
    | cons hfirst hrest =>
        obtain rfl := hfirst
        rfl
  · rintro rfl hhead
    obtain hc | ⟨first, spelling, hlegible, hadmits, hfirst, hc, -⟩ := h.head hspelled hhead
    · cases hc
    · have hopen := Token.eq_classOpen hlegible hadmits hfirst hc
      subst hopen
      cases hadmits
  · trivial

/-! ## What is spelled is lexed -/

/-- The first character of a token that is kept is not one that is skipped. -/
theorem not_skipped_of_legible {next : Option Char} {after : Lexer.Context}
    (h : Lexer.Spells flags.extended (mode.context previous) text next t after)
    (hkept : flags.stripWhitespace = true → ¬ mode.InClass → ¬ t.IsGap) :
    ∀ c ∈ text.head?, ¬ Lexer.Skipped flags (mode.context previous) c := by
  rintro c hc ⟨hclass, hstrip, hgap⟩
  refine hkept hstrip (Mode.inClass_context.not.1 hclass) ?_
  rw [h.eq_char hclass hc hgap]
  exact hgap

/-- The blank before a token that would be read as a part of the one before it is skipped. -/
theorem itemsFrom_of_continues (hadmits : mode.Admits flags.extended previous t)
    (hcontinues : flags.stripWhitespace = false → t.Continues previous = false)
    (place : Location) (last : Option Location) (text : List Char) :
    ∃ mid place',
      Lexer.itemsFrom flags { context := mode.context previous, last }
          (placed place ((if t.Continues previous then [' '] else []) ++ text)) =
        Lexer.itemsFrom flags { context := mode.context previous, last := mid }
          (placed place' text) := by
  split
  · next hcontinued =>
    have hstrip : flags.stripWhitespace = true := by
      by_contra hkeep
      rw [hcontinues (by simpa using hkeep)] at hcontinued
      cases hcontinued
    have hclass : ¬ (mode.context previous).InClass :=
      Mode.inClass_context.not.2 (Mode.not_inClass_of_continues hadmits hcontinued)
    obtain ⟨mid, hitems⟩ := @Lexer.itemsFrom_gap flags _ place last hstrip hclass [' ']
      (.blank rfl .nil) text
    exact ⟨mid, _, hitems⟩
  · exact ⟨last, place, rfl⟩

/-- The lexer reads a well-moded row from each of its spellings. -/
theorem itemsFrom_of_spelled (h : WellModedFrom flags mode previous ts)
    (hspelled : Spelled previous ts text) (place : Location) (last : Option Location) :
    ∃ ls, Lexer.itemsFrom flags { context := mode.context previous, last } (placed place text) =
        Parser.items ls ∧ ls.map Lexeme.token = ts := by
  induction hspelled generalizing mode place last with
  | nil =>
      obtain rfl := h
      exact ⟨[], Lexer.itemsFrom_stop rfl, rfl⟩
  | @cons previous t ts text rest hfirst hrest ih =>
      obtain ⟨hlegible, hadmits, hcontinues, hkept, hbehind⟩ := h
      have hprevious : mode.InClass → previous = some .subtract → text.head? = some '[' := by
        rintro hclass rfl
        cases mode with
        | charClass n =>
            obtain rfl := Token.eq_classOpen_of_subtract hadmits
            obtain rfl := hfirst
            rfl
        | _ => exact absurd hclass id
      have hspells := (Lexer.spells_iff hprevious).2
        ⟨hlegible, hadmits, hfirst, ends_of_wellModed hbehind hrest, rfl⟩
      have hskip := not_skipped_of_legible hspells hkept
      obtain ⟨mid, place', hgap⟩ :=
        itemsFrom_of_continues hadmits hcontinues place last (text ++ rest)
      obtain ⟨last', htakes⟩ := @Lexer.takesToken_of_spells flags
        { context := mode.context previous, last := mid } place' text rest t _ _ _ hspells rfl rfl
        rfl hskip
      obtain ⟨ls, hitems, htokens⟩ := ih hbehind (place'.past text) (some last')
      refine ⟨⟨t, place'.withLength text.length⟩ :: ls, ?_, by rw [List.map_cons, htokens]⟩
      rw [hgap, htakes, hitems]
      rfl

/-! ## What is lexed is spelled -/

/-- A token ends before the next character, as far as tokens and not gaps stand behind it. -/
def Token.EndsBefore (flags : Flags) : Token → Option Char → Prop
  | groupOpen, next => flags.stripWhitespace = false → next ≠ some '?'
  | number _, next => flags.stripWhitespace = false → ∀ c ∈ next, c.isDigit = false
  | subtract, next => next = some '['
  | _, _ => True

theorem Mode.Ends.endsBefore {extended : Bool} {next : Option Char} (h : mode.Ends t next)
    (hadmits : mode.Admits extended previous t) : t.EndsBefore flags next := by
  cases t with
  | groupOpen =>
      cases mode with
      | outside => exact fun _ => h
      | _ => exact absurd hadmits id
  | number n =>
      cases mode with
      | bounds => exact fun _ => h
      | _ => exact absurd hadmits id
  | subtract =>
      cases mode with
      | charClass n => exact h
      | _ => exact absurd hadmits id
  | _ => trivial

/-- Of a token that ends before its spelling no text makes another one. -/
theorem not_continues (hstrip : flags.stripWhitespace = false) (hspelled : t.SpelledBy text)
    (hprevious : ∀ p ∈ previous, p.EndsBefore flags text.head?) : t.Continues previous = false := by
  unfold Token.Continues
  split
  · obtain rfl := hspelled
    exact absurd rfl (hprevious _ rfl hstrip)
  · obtain ⟨hne, hdigits, -⟩ := hspelled
    obtain ⟨d, more, rfl⟩ := List.exists_cons_of_ne_nil hne
    have hd := hprevious _ rfl hstrip d rfl
    rw [hdigits d (by simp)] at hd
    cases hd
  · rfl

/-- Where gaps are skipped, what stands behind them does not matter. -/
theorem Token.EndsBefore.of_skipped {p : Token} {context : Lexer.Context} {c : Char}
    (h : p.EndsBefore flags (some c)) (hskipped : Lexer.Skipped flags context c)
    (next : Option Char) : p.EndsBefore flags next := by
  cases p with
  | groupOpen | number =>
      intro hkeep
      rw [hskipped.2.1] at hkeep
      cases hkeep
  | subtract =>
      obtain rfl := Option.some.inj h
      exact absurd hskipped (Lexer.not_skipped (by decide) (by decide))
  | _ => trivial

end

namespace Lexer

variable {flags : Flags} {context : Context} {place : Location} {last : Option Location}

theorem itemsFrom_of_comment (text : List Char) :
    ∃ rest place' last', rest.length ≤ text.length ∧
      itemsFrom flags { context, scan := .comment, last } (placed place text) =
        itemsFrom flags { context, last := last' } (placed place' rest) := by
  induction text generalizing place last with
  | nil =>
      have hshift : stepOn flags { context, scan := .comment, last } (placed place []) =
          .shift 0 { context, last } := rfl
      exact ⟨[], place, last, Nat.le_refl _, itemsFrom_shift hshift⟩
  | cons c text ih =>
      by_cases hend : c = '\n'
      · have hshift : stepOn flags { context, scan := .comment, last } (placed place (c :: text)) =
            .shift 1 { context, last := some place } := by
          simp [stepOn, step, placed, hend]
        exact ⟨text, _, _, Nat.le_succ _, itemsFrom_shift hshift⟩
      · have hshift : stepOn flags { context, scan := .comment, last } (placed place (c :: text)) =
            .shift 1 { context, scan := .comment, last := some place } := by
          simp [stepOn, step, placed, hend]
        obtain ⟨rest, place', last', hlength, hitems⟩ := @ih (place.next c) (some place)
        refine ⟨rest, place', last', Nat.le_succ_of_le hlength, ?_⟩
        rw [itemsFrom_shift hshift]
        exact hitems

/-- A gap is skipped together with what belongs to it, and the lexer is where it was. -/
theorem itemsFrom_of_skipped {c : Char} (text : List Char) (h : Skipped flags context c) :
    ∃ rest place' last', rest.length ≤ text.length ∧
      itemsFrom flags { context, last } (placed place (c :: text)) =
        itemsFrom flags { context, last := last' } (placed place' rest) := by
  obtain ⟨hclass, hstrip, hblank | rfl⟩ := h
  · have hshift : stepOn flags { context, last } (placed place (c :: text)) =
        .shift 1 { context, last := some place } :=
      (stepOn_ready rfl _ _).trans (between_blank hstrip hclass hblank)
    exact ⟨text, _, _, Nat.le_refl _, itemsFrom_shift hshift⟩
  · have hshift : stepOn flags { context, last } (placed place ('#' :: text)) =
        .shift 1 { context, scan := .comment, last := some place } :=
      (stepOn_ready rfl _ _).trans (between_hash hstrip hclass)
    rw [itemsFrom_shift hshift]
    exact itemsFrom_of_comment text

end Lexer

section

variable {flags : Flags} {mode : Mode} {previous : Option Token} {text : List Char}
  {place : Location} {last : Option Location}

/-- At a character that is not skipped the lexer takes an admitted token or finds a fault. -/
theorem takes_or_fault {c : Char} (hprevious : ∀ p ∈ previous, p.EndsBefore flags (some c))
    (hkept : ¬ Lexer.Skipped flags (mode.context previous) c) :
    (∃ first rest t after last', c :: text = first ++ rest ∧ first ≠ [] ∧
        mode.Takes flags.extended previous first rest.head? t after ∧
        Lexer.itemsFrom flags { context := mode.context previous, last }
            (placed place (c :: text)) =
          .lexeme ⟨t, place.withLength first.length⟩ ::
            Lexer.itemsFrom flags { context := after, last := some last' }
              (placed (place.past first) rest)) ∨
      ∃ f, Lexer.itemsFrom flags { context := mode.context previous, last }
        (placed place (c :: text)) = [.fault f] := by
  rcases @Lexer.spellsFirst_or_fault flags { context := mode.context previous, last } place text c
    rfl hkept with ⟨first, rest, t, after, heq, hspells⟩ | hfault
  · left
    obtain ⟨d, more, rfl⟩ := List.exists_cons_of_ne_nil hspells.ne_nil
    obtain rfl : c = d := (List.cons.inj heq).1
    have hsubtract : mode.InClass → previous = some .subtract →
        (c :: more).head? = some '[' := fun _ hp => hprevious _ hp
    have htaken := (Lexer.spells_iff hsubtract).1 hspells
    have hskip : ∀ d ∈ (c :: more).head?, ¬ Lexer.Skipped flags (mode.context previous) d := by
      rintro d ⟨⟩
      exact hkept
    obtain ⟨last', htakes⟩ := @Lexer.takesToken_of_spells flags
      { context := mode.context previous, last } place (c :: more) rest t _ _ _ hspells rfl rfl rfl
      hskip
    rw [← heq] at htakes
    exact ⟨c :: more, rest, t, after, last', heq, by simp, htaken, htakes⟩
  · exact .inr hfault

/-- A token of a character that is not skipped is none that stands for a gap. -/
theorem not_isGap_of_spelled {t : Token} {c : Char} {rest : List Char}
    (hspelled : t.SpelledBy (c :: rest)) (hstrip : flags.stripWhitespace = true)
    (hclass : ¬ mode.InClass) (hkept : ¬ Lexer.Skipped flags (mode.context previous) c) :
    ¬ t.IsGap := by
  intro hgap
  cases t with
  | char d =>
      obtain rfl : c = d := (List.cons.inj hspelled).1
      exact hkept ⟨Mode.inClass_context.not.2 hclass, hstrip, hgap⟩
  | _ => exact hgap

/-- A token that is taken goes before a well-moded row, and its text before a spelling of that. -/
theorem Mode.Takes.cons {c : Char} {more rest : List Char} {t : Token} {ts : List Token}
    {after : Lexer.Context}
    (h : mode.Takes flags.extended previous (c :: more) rest.head? t after)
    (hprevious : ∀ p ∈ previous, p.EndsBefore flags (some c))
    (hkept : ¬ Lexer.Skipped flags (mode.context previous) c)
    (hwell : WellModedFrom flags (mode.behind t) (some t) ts)
    (hrest : flags.stripWhitespace = false → Spelled (some t) ts rest) :
    WellModedFrom flags mode previous (t :: ts) ∧
      (flags.stripWhitespace = false → Spelled previous (t :: ts) (c :: more ++ rest)) := by
  have hcontinues (hstrip : flags.stripWhitespace = false) : t.Continues previous = false :=
    not_continues hstrip h.spelled hprevious
  refine ⟨⟨h.legible, h.admits, hcontinues,
    fun hstrip hclass => not_isGap_of_spelled h.spelled hstrip hclass hkept, hwell⟩,
    fun hstrip => ?_⟩
  have hcons := @Spelled.cons previous _ _ _ _ h.spelled (hrest hstrip)
  rwa [hcontinues hstrip] at hcons

/-- At its end a pattern is lexed outside of classes and bounds only. -/
theorem eq_nil_of_itemsFrom_nil {ls : List Lexeme}
    (h : Lexer.itemsFrom flags { context := mode.context previous, last } (placed place []) =
      Parser.items ls) : mode = .outside ∧ ls = [] := by
  cases mode with
  | outside =>
      rw [Lexer.itemsFrom_stop rfl] at h
      cases ls with
      | nil => exact ⟨rfl, rfl⟩
      | cons l ls => cases h
  | _ =>
      rw [Lexer.itemsFrom_emit rfl] at h
      cases ls <;> cases h

/-- The lexer takes well-moded rows only, and where it skips nothing a spelling of its row. -/
theorem wellModed_of_itemsFrom {ls : List Lexeme}
    (hprevious : ∀ p ∈ previous, p.EndsBefore flags text.head?)
    (h : Lexer.itemsFrom flags { context := mode.context previous, last } (placed place text) =
      Parser.items ls) :
    WellModedFrom flags mode previous (ls.map Lexeme.token) ∧
      (flags.stripWhitespace = false → Spelled previous (ls.map Lexeme.token) text) := by
  induction hlength : text.length using Nat.strong_induction_on
    generalizing mode previous text place last ls with
  | _ length ih =>
      subst hlength
      rcases text with _ | ⟨c, text⟩
      · obtain ⟨rfl, rfl⟩ := eq_nil_of_itemsFrom_nil h
        exact ⟨rfl, fun _ => .nil⟩
      by_cases hskipped : Lexer.Skipped flags (mode.context previous) c
      · obtain ⟨rest, place', last', hle, hitems⟩ :=
          @Lexer.itemsFrom_of_skipped flags _ place last c text hskipped
        have hbehind : ∀ p ∈ previous, p.EndsBefore flags rest.head? := fun p hp =>
          (hprevious p hp).of_skipped hskipped _
        obtain ⟨hwell, -⟩ := ih rest.length (Nat.lt_succ_of_le hle) hbehind (hitems ▸ h) rfl
        refine ⟨hwell, fun hstrip => ?_⟩
        rw [hskipped.2.1] at hstrip
        cases hstrip
      rcases @takes_or_fault flags mode previous text place last c hprevious hskipped with
        ⟨first, rest, t, after, last', heq, hne, htaken, hitems⟩ | ⟨f, hf⟩
      · rw [hitems] at h
        obtain ⟨d, more, rfl⟩ := List.exists_cons_of_ne_nil hne
        obtain ⟨rfl, rfl⟩ := List.cons.inj heq
        cases ls with
        | nil => cases h
        | cons l ls =>
            obtain ⟨hl, hls⟩ := List.cons.inj h
            cases hl
            rw [htaken.leaves] at hls
            have hbehind : ∀ p ∈ some t, p.EndsBefore flags rest.head? := by
              rintro p ⟨⟩
              exact htaken.ends.endsBefore htaken.admits
            have hlt : rest.length < (c :: (more ++ rest)).length := by
              simp only [List.length_cons, List.length_append]
              omega
            obtain ⟨hwell, hrest⟩ := ih _ hlt hbehind hls rfl
            exact htaken.cons hprevious hskipped hwell hrest
      · rw [hf] at h
        cases ls <;> cases h

end

/-! ## Patterns -/

theorem lexTokens_ok_iff {flags : Flags} {pattern : String} {ts : List Token} :
    lexTokens flags pattern = .ok ts ↔
      ∃ ls, patternItems flags pattern = Parser.items ls ∧ ls.map Lexeme.token = ts := by
  have hlex : lex flags pattern = lexemes (patternItems flags pattern) := rfl
  constructor
  · intro h
    cases hls : lex flags pattern with
    | error f =>
        rw [lexTokens, hls] at h
        cases h
    | ok ls =>
        rw [lexTokens, hls] at h
        cases h
        exact ⟨ls, lexemes_ok_iff.1 (hlex ▸ hls), rfl⟩
  · rintro ⟨ls, hls, rfl⟩
    rw [lexTokens, hlex, hls, lexemes_items]
    rfl

section

variable {flags : Flags} {pattern : String} {ts : List Token}

theorem wellModed_of_lexTokens (h : lexTokens flags pattern = .ok ts) :
    WellModed flags ts ∧ (flags.stripWhitespace = false → Spelled none ts pattern.toList) := by
  obtain ⟨ls, hls, rfl⟩ := lexTokens_ok_iff.1 h
  rw [patternItems_eq] at hls
  exact @wellModed_of_itemsFrom flags .outside none _ _ _ _ (by simp) hls

theorem lexTokens_of_spelled (h : WellModed flags ts) (hspelled : Spelled none ts pattern.toList) :
    lexTokens flags pattern = .ok ts := by
  obtain ⟨ls, hls, htokens⟩ := itemsFrom_of_spelled h hspelled .origin none
  exact lexTokens_ok_iff.2 ⟨ls, (patternItems_eq flags pattern).trans hls, htokens⟩

theorem lexTokens_spell (h : WellModed flags ts) : lexTokens flags (spell ts) = .ok ts := by
  refine lexTokens_of_spelled h ?_
  rw [spell, String.toList_ofList]
  exact spelled_spellFrom none ts

/-- What the parser takes for granted behind the dash of a subtraction. -/
theorem classOpen_of_lexTokens {before : List Token}
    (h : lexTokens flags pattern = .ok (before ++ .subtract :: ts)) :
    ∃ rest, ts = .classOpen :: rest := by
  obtain ⟨mode, previous, -, hadmits, -, -, hbehind⟩ := (wellModed_of_lexTokens h).1.of_append
  cases mode with
  | charClass n => exact hbehind.classOpen_of_subtract
  | _ => exact absurd hadmits id

/-- Where the lexer skips nothing, no token stands behind one that would have taken its text. -/
theorem not_continues_of_lexTokens {before : List Token} {t u : Token}
    (h : lexTokens flags pattern = .ok (before ++ t :: u :: ts))
    (hstrip : flags.stripWhitespace = false) : u.Continues (some t) = false := by
  obtain ⟨mode, previous, -, -, -, -, hbehind⟩ := (wellModed_of_lexTokens h).1.of_append
  obtain ⟨-, -, hcontinues, -⟩ := hbehind
  exact hcontinues hstrip

end

/-- Every well-moded row is lexed from its text and from each other spelling of it, and no pattern
has other rows of tokens.  Where the lexer skips nothing, a pattern is a spelling of its row. -/
theorem lexing_inverts_spelling (flags : Flags) (ts : List Token) :
    (lexTokens flags (spell ts) = .ok ts ↔ WellModed flags ts) ∧
      (∀ pattern : String, WellModed flags ts → Spelled none ts pattern.toList →
        lexTokens flags pattern = .ok ts) ∧
      ∀ pattern : String, lexTokens flags pattern = .ok ts →
        WellModed flags ts ∧
          (flags.stripWhitespace = false → Spelled none ts pattern.toList) :=
  ⟨⟨fun h => (wellModed_of_lexTokens h).1, lexTokens_spell⟩,
    fun _ => lexTokens_of_spelled, fun _ => wellModed_of_lexTokens⟩

/-- A class in a class, and a bound with a leading zero. -/
theorem lexing_inverts_spelling_nested :
    let ts : List Token := [.nonCapturingGroupOpen, .classOpen, .negation, .char '^',
      .singleEscape ']', .subtract, .classOpen, .multiEscape 'd', .classClose, .classClose,
      .quantifierOpen, .number 7, .comma, .quantifierClose, .groupClose]
    WellModed { extended := true } ts ∧
      lexTokens { extended := true } "(?:[^^\\]-[\\d]]\x7b7,\x7d)" = .ok ts ∧
      lexTokens { extended := true } "(?:[^^\\]-[\\d]]\x7b07,\x7d)" = .ok ts := by
  intro ts
  have hwell : WellModed { extended := true } ts := by decide
  have hspell : spell ts = "(?:[^^\\]-[\\d]]\x7b7,\x7d)" := by
    have hdecimal : Numeral.decimal 7 = ['7'] := by
      rw [Numeral.decimal, Numeral.digits]
      rfl
    simp only [ts, spell, spellFrom, Token.spelling, hdecimal]
    rfl
  have hzero : Spelled none ts "(?:[^^\\]-[\\d]]\x7b07,\x7d)".toList := by
    have hone {previous : Option Token} {t : Token} {rest : List Token} {text : List Char}
        (hkept : t.Continues previous = false) (h : Spelled (some t) rest text) :
        Spelled previous (t :: rest) (t.spelling ++ text) := by
      have hcons := @Spelled.cons previous _ _ _ _ t.spelledBy_spelling h
      rwa [hkept] at hcons
    have hnumber : (Token.number 7).SpelledBy ['0', '7'] :=
      ⟨by simp, Lexer.forall_mem_of_all (by decide), rfl⟩
    have hbound : Spelled (some .quantifierOpen) [.number 7, .comma, .quantifierClose, .groupClose]
        (['0', '7'] ++ [',', '}', ')']) :=
      .cons hnumber (hone rfl (hone rfl (hone rfl .nil)))
    iterate 11 refine hone rfl ?_
    exact hbound
  obtain ⟨hcanonical, hspelled, -⟩ := lexing_inverts_spelling { extended := true } ts
  exact ⟨hwell, hspell ▸ hcanonical.2 hwell, hspelled _ hwell hzero⟩

/-- A blank keeps the two apart, where blanks are skipped. -/
example : ¬ WellModed {} [.groupOpen, .optional] ∧
    WellModed { stripWhitespace := true } [.groupOpen, .optional] := by decide

end SchemaPattern
