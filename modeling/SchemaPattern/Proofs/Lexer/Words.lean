import Mathlib.Data.List.TakeWhile
import SchemaPattern.Proofs.Lexer.Items
import SchemaPattern.Proofs.Lexer.Spelling
import SchemaPattern.Proofs.Parser.Moves

/-!
# Patterns as rows of words

The lexer has nothing but a fault for a text that begins with no spelling of a token.  So a pattern
that it reads without a fault is a row of words, each of which spells its token before the others.
-/

namespace SchemaPattern

namespace Lexer

/-! ## What is read is spelled -/

/-- A text begins with the spelling of a token in a context. -/
def SpellsFirst (extended : Bool) (context : Context) (text : List Char) : Prop :=
  ∃ first rest t after, text = first ++ rest ∧ Spells extended context first rest.head? t after

section

variable {flags : Flags} {st : State} {place : Location} {text : List Char}

theorem name_or_fault (start : Location) (negated : Bool) (read : List Char)
    (hread : ∀ c ∈ read, isNameChar c = true) (last : Option Location) :
    (∃ name rest, text = name ++ '}' :: rest ∧ read.reverse ++ name ≠ [] ∧
        ∀ c ∈ name, isNameChar c = true) ∨
      ∃ f, itemsFrom flags { st with scan := .category start negated read, last }
        (placed place text) = [.fault f] := by
  induction text generalizing place read last with
  | nil => exact .inr ⟨_, itemsFrom_fail rfl⟩
  | cons c text ih =>
      by_cases hbrace : c = '}'
      · subst hbrace
        by_cases hempty : read = []
        · refine .inr ⟨⟨.emptyCategory, start.through place⟩, itemsFrom_fail ?_⟩
          simp [stepOn, step, placed, categoryName, hempty]
        · exact .inl ⟨[], text, rfl, by simpa using hempty, by simp⟩
      · by_cases hc : isNameChar c = true
        · have hshift : stepOn flags { st with scan := .category start negated read, last }
              (placed place (c :: text)) =
              .shift 1 { st with
                scan := .category start negated (c :: read), last := some place } := by
            simp [stepOn, step, placed, categoryName, hc, hbrace]
          rcases @ih (place.next c) (c :: read) (by simpa [hc] using hread) (some place) with
            ⟨name, rest, rfl, hne, hname⟩ | ⟨f, hf⟩
          · exact .inl ⟨c :: name, rest, rfl, by simp, by simpa [hc] using hname⟩
          · exact .inr ⟨f, (itemsFrom_shift hshift).trans hf⟩
        · refine .inr ⟨⟨.categoryChar c, start.through place⟩, itemsFrom_fail ?_⟩
          simp [stepOn, step, placed, categoryName, hc, hbrace]

/-- Behind a backslash there is an escape, a back-reference or a fault. -/
theorem escape_or_fault
    (hstep : stepOn flags st (placed place ('\\' :: text)) =
      escape st place (placed (place.next '\\') text)[0]? (placed (place.next '\\') text)[1]?) :
    (∃ first rest t, '\\' :: text = first ++ rest ∧ SpellsEscape first t) ∨
      (∃ d rest, '\\' :: text = ['\\', d] ++ rest ∧ d.isDigit = true ∧ d ≠ '0' ∧
        ¬ st.context.InClass) ∨
      ∃ f, itemsFrom flags st (placed place ('\\' :: text)) = [.fault f] := by
  rcases text with _ | ⟨c, rest⟩
  · exact .inr (.inr ⟨_, itemsFrom_fail hstep⟩)
  · simp only [placed, List.getElem?_cons_zero, List.getElem?_cons_succ, escape] at hstep
    split_ifs at hstep with hn hr ht hmeta hmulti hcategory hdigit hzero
    · exact .inl ⟨_, rest, _, by rw [hn]; rfl, .newline⟩
    · exact .inl ⟨_, rest, _, by rw [hr]; rfl, .carriageReturn⟩
    · exact .inl ⟨_, rest, _, by rw [ht]; rfl, .tab⟩
    · exact .inl ⟨_, rest, _, rfl, .single hmeta⟩
    · exact .inl ⟨_, rest, _, rfl, .multi hmulti⟩
    · rcases rest with _ | ⟨brace, rest⟩
      · exact .inr (.inr ⟨_, itemsFrom_fail hstep⟩)
      · by_cases hbrace : brace = '{'
        · subst hbrace
          rcases @name_or_fault flags st _ rest place (c = 'P') [] (by simp) _ with
            ⟨name, rest, rfl, hne, hname⟩ | ⟨f, hf⟩
          · refine .inl ⟨_, rest, _, ?_, .category (c = 'P') hne hname⟩
            rcases hcategory with rfl | rfl <;> simp
          · exact .inr (.inr ⟨f, (itemsFrom_shift hstep).trans hf⟩)
        · simp only [placed, List.getElem?_cons_zero] at hstep
          split at hstep
          · next hsome => simp [hbrace] at hsome
          · exact .inr (.inr ⟨_, itemsFrom_fail hstep⟩)
    · split at hstep <;> exact .inr (.inr ⟨_, itemsFrom_fail hstep⟩)
    · split at hstep
      · exact .inr (.inr ⟨_, itemsFrom_fail hstep⟩)
      · next houtside =>
        refine .inr (.inl ⟨c, rest, rfl, hdigit, hzero, fun hclass => ?_⟩)
        cases hcontext : st.context with
        | charClass n spot => exact houtside n spot hcontext
        | _ => simp [hcontext, Context.InClass] at hclass
    · exact .inr (.inr ⟨_, itemsFrom_fail hstep⟩)


theorem spellsFirst_cons {extended : Bool} {context after : Context} {c a : Char} {t : Token}
    (hc : c = a) (h : Spells extended context [a] text.head? t after) :
    SpellsFirst extended context (c :: text) := ⟨[a], text, t, after, by rw [hc]; rfl, h⟩

theorem outside_or_fault {c : Char} (hscan : st.scan = .ready) (hcontext : st.context = .outside)
    (hskip : ¬ Skipped flags .outside c) :
    SpellsFirst flags.extended .outside (c :: text) ∨
      ∃ f, itemsFrom flags st (placed place (c :: text)) = [.fault f] := by
  have hstep : stepOn flags st (placed place (c :: text)) = outside flags st ⟨c, place⟩
      (placed (place.next c) text)[0]? (placed (place.next c) text)[1]? :=
    (stepOn_ready hscan _ _).trans (between_outside hcontext hskip)
  by_cases hoperator : c ∈ operators.map Prod.fst
  · obtain ⟨⟨_, t⟩, ht, rfl⟩ := List.mem_map.1 hoperator
    exact .inl (spellsFirst_cons rfl (.operator ht))
  unfold outside at hstep
  split at hstep
  · next hc => exact .inl (spellsFirst_cons hc .classOpen)
  · exact .inr ⟨_, itemsFrom_fail hstep⟩
  · next hc => exact .inl (spellsFirst_cons hc .quantifierOpen)
  · exact .inr ⟨_, itemsFrom_fail hstep⟩
  · next hc =>
    split at hstep
    · next hfirst hsecond =>
      split_ifs at hstep with hextended
      · rcases text with _ | ⟨a, _ | ⟨b, rest⟩⟩
        · cases hfirst
        · cases hsecond
        · cases hfirst
          cases hsecond
          cases hc
          exact .inl ⟨['(', '?', ':'], rest, _, _, rfl, .nonCapturing hextended⟩
      · exact .inr ⟨_, itemsFrom_fail hstep⟩
    · split_ifs at hstep <;> exact .inr ⟨_, itemsFrom_fail hstep⟩
    · next hfirst _ =>
      refine .inl (spellsFirst_cons hc (.groupOpen fun hnext => ?_))
      obtain ⟨rest, rfl⟩ := List.head?_eq_some_iff.1 hnext
      exact hfirst _ rfl
  iterate 8
    next hc =>
    cases hc
    exact absurd (by decide) hoperator
  · next hc =>
    cases hc
    rcases escape_or_fault hstep with ⟨first, rest, t, heq, h⟩ | ⟨d, rest, heq, hdigit, hzero, -⟩ | h
    · exact .inl ⟨first, rest, t, _, heq, .escape h⟩
    · exact .inl ⟨_, rest, _, _, heq, .reference hdigit hzero⟩
    · exact .inr h
  · by_cases hdigit : c.isDigit = true
    · exact .inl (spellsFirst_cons rfl (.digit hdigit))
    · refine .inl (spellsFirst_cons rfl (.char ?_ (by simpa using hdigit)))
      simp_all [metaChars]

theorem number_or_fault {c : Char} (hscan : st.scan = .ready)
    (hcontext : st.context = .quantifier) (hdigit : c.isDigit = true) :
    SpellsFirst flags.extended .quantifier (c :: text) ∨
      ∃ f, itemsFrom flags st (placed place (c :: text)) = [.fault f] := by
  let ds := text.takeWhile Char.isDigit
  let rest := text.dropWhile Char.isDigit
  have hds : ∀ d ∈ c :: ds, d.isDigit = true := by
    simpa [hdigit] using fun d (hd : d ∈ ds) => List.mem_takeWhile_imp hd
  have hrest : ∀ d ∈ rest.head?, d.isDigit = false := by
    intro d hd
    have hnot := List.head?_dropWhile_not Char.isDigit text
    rw [hd] at hnot
    simpa using hnot
  have htext : c :: text = c :: ds ++ rest := congrArg _ List.takeWhile_append_dropWhile.symm
  by_cases hlimit : Numeral.decimalValue (c :: ds) < boundLimit
  · exact .inl ⟨c :: ds, rest, _, _, htext, .number (by simp) hds hrest hlimit⟩
  · rw [htext]
    exact .inr ⟨_, itemsFrom_tooLarge hcontext hscan (by simp) hds hrest hlimit⟩

theorem quantifier_or_fault {c : Char} (hscan : st.scan = .ready)
    (hcontext : st.context = .quantifier) (hskip : ¬ Skipped flags .quantifier c) :
    SpellsFirst flags.extended .quantifier (c :: text) ∨
      ∃ f, itemsFrom flags st (placed place (c :: text)) = [.fault f] := by
  have hstep : stepOn flags st (placed place (c :: text)) = inQuantifier st ⟨c, place⟩ :=
    (stepOn_ready hscan _ _).trans (between_quantifier hcontext hskip)
  unfold inQuantifier at hstep
  split_ifs at hstep with hdigit hcomma hclose
  · exact number_or_fault hscan hcontext hdigit
  · exact .inl (spellsFirst_cons hcomma .comma)
  · exact .inl (spellsFirst_cons hclose .quantifierClose)
  · exact .inr ⟨_, itemsFrom_fail hstep⟩

theorem class_or_fault {c : Char} {n : Nat} {spot : Spot} (hscan : st.scan = .ready)
    (hcontext : st.context = .charClass n spot) :
    SpellsFirst flags.extended (.charClass n spot) (c :: text) ∨
      ∃ f, itemsFrom flags st (placed place (c :: text)) = [.fault f] := by
  have hstep : stepOn flags st (placed place (c :: text)) = inClass st n spot ⟨c, place⟩
      (placed (place.next c) text)[0]? (placed (place.next c) text)[1]? :=
    (stepOn_ready hscan _ _).trans (between_class hcontext)
  unfold inClass at hstep
  split at hstep
  · next hc =>
    left
    cases spot with
    | start => exact spellsFirst_cons hc .negation
    | _ => exact spellsFirst_cons hc (.caret (by simp))
  · next hc =>
    split_ifs at hstep with hspot
    · subst hspot
      exact .inl (spellsFirst_cons hc .subtrahend)
    · exact .inr ⟨_, itemsFrom_fail hstep⟩
  · next hc => exact .inl (spellsFirst_cons hc .classClose)
  · next hc =>
    left
    by_cases hnext : text.head? = some '['
    · apply spellsFirst_cons hc
      rw [hnext]
      exact .subtract
    · exact spellsFirst_cons hc (.dash hnext)
  · next hc =>
    cases hc
    rcases escape_or_fault hstep with ⟨first, rest, t, heq, h⟩ | ⟨d, rest, -, -, -, h⟩ | h
    · exact .inl ⟨first, rest, t, _, heq, .classEscape h⟩
    · exact absurd (by simp [hcontext, Context.InClass]) h
    · exact .inr h
  · left
    by_cases hdigit : c.isDigit = true
    · exact spellsFirst_cons rfl (.classDigit hdigit)
    · refine spellsFirst_cons rfl (.classChar ?_ (by simpa using hdigit))
      simp_all

/-- A text that begins with no spelling of a token begins with a fault. -/
theorem spellsFirst_or_fault {c : Char} (hscan : st.scan = .ready)
    (hskip : ¬ Skipped flags st.context c) :
    SpellsFirst flags.extended st.context (c :: text) ∨
      ∃ f, itemsFrom flags st (placed place (c :: text)) = [.fault f] := by
  cases hcontext : st.context with
  | outside => exact outside_or_fault hscan hcontext (hcontext ▸ hskip)
  | quantifier => exact quantifier_or_fault hscan hcontext (hcontext ▸ hskip)
  | charClass n spot => exact class_or_fault hscan hcontext

end

/-! ## Whole texts -/

/-- A token and the text that spells it. -/
structure Word where
  text : List Char
  token : Token

/-- The text of words that stand next to each other. -/
def textOf (words : List Word) : List Char := words.flatMap Word.text

theorem textOf_append (words others : List Word) :
    textOf (words ++ others) = textOf words ++ textOf others := List.flatMap_append

/-- The lexemes of words, the first of which stands at a place. -/
def lexemesAt (place : Location) : List Word → List Lexeme
  | [] => []
  | w :: words => ⟨w.token, place.withLength w.text.length⟩ ::
      lexemesAt (place.past w.text) words

/-- From a context on, each word spells its token before those that follow. -/
inductive Lexes (extended : Bool) : Context → List Word → Prop
  | nil : Lexes extended .outside []
  | cons {context after : Context} {w : Word} {words : List Word}
      (h : Spells extended context w.text (textOf words).head? w.token after)
      (hrest : Lexes extended after words) : Lexes extended context (w :: words)

section

variable {flags : Flags} {context : Context} {words : List Word} {place : Location}
  {last : Option Location}

/-- Where nothing is skipped, a text without a fault consists of the words of its tokens. -/
theorem lexes_of_itemsFrom (hstrip : flags.stripWhitespace = false) {text : List Char}
    {ls : List Lexeme}
    (h : itemsFrom flags { context, last } (placed place text) = Parser.items ls) :
    ∃ words, text = textOf words ∧ ls = lexemesAt place words ∧
      Lexes flags.extended context words := by
  induction hlength : text.length using Nat.strong_induction_on
    generalizing text context place last ls with
  | _ length ih =>
      subst hlength
      rcases text with _ | ⟨c, text⟩
      · cases context with
        | outside =>
            rw [itemsFrom_stop rfl] at h
            cases ls with
            | nil => exact ⟨[], rfl, rfl, .nil⟩
            | cons l ls => cases h
        | _ =>
            rw [itemsFrom_emit rfl] at h
            cases ls <;> cases h
      · have hskip : ∀ c, ¬ Skipped flags context c := by simp [Skipped, hstrip]
        rcases @spellsFirst_or_fault flags { context, last } place text c rfl (hskip c) with
          ⟨first, rest, t, after, heq, hspells⟩ | ⟨f, hf⟩
        · obtain ⟨last', htakes⟩ := @takesToken_of_spells flags { context, last } place first rest t
            _ _ _ hspells rfl rfl rfl fun c _ => hskip c
          rw [heq, htakes] at h
          have hpos := List.length_pos_of_ne_nil hspells.ne_nil
          have hlt : rest.length < (c :: text).length := by
            rw [heq, List.length_append]
            omega
          cases ls with
          | nil => cases h
          | cons l ls =>
              obtain ⟨hl, hls⟩ := List.cons.inj h
              obtain ⟨words, rfl, rfl, hwords⟩ := ih _ hlt hls rfl
              cases hl
              exact ⟨⟨first, t⟩ :: words, heq, rfl, .cons hspells hwords⟩
        · rw [hf] at h
          cases ls <;> cases h

theorem tokens_lexemesAt (place : Location) (words : List Word) :
    (lexemesAt place words).map Lexeme.token = words.map Word.token := by
  induction words generalizing place with
  | nil => rfl
  | cons w words ih => rw [lexemesAt, List.map_cons, ih, List.map_cons]

theorem past_append (place : Location) (text others : List Char) :
    place.past (text ++ others) = (place.past text).past others := List.foldl_append

/-- A text that cannot add to words leaves the next character as it is, or adds to none of them. -/
theorem Lexes.head_append {extended : Bool} (hwords : Lexes extended context words) {q : List Char}
    (hq : ∀ c ∈ q.head?, c ≠ '?' ∧ c.isDigit = false) :
    (textOf words ++ q).head? = (textOf words).head? ∨
      ¬ context.InClass ∧ ∀ c ∈ (textOf words ++ q).head?, c ≠ '?' ∧ c.isDigit = false := by
  cases hwords with
  | nil => exact .inr ⟨id, hq⟩
  | cons h _ =>
      obtain ⟨c, rest, hcons⟩ := List.exists_cons_of_ne_nil h.ne_nil
      left
      simp [textOf, hcons]

theorem Lexes.append {extended : Bool} {others : List Word} (hwords : Lexes extended context words)
    (hothers : Lexes extended .outside others)
    (hq : ∀ c ∈ (textOf others).head?, c ≠ '?' ∧ c.isDigit = false) :
    Lexes extended context (words ++ others) := by
  induction hwords with
  | nil => exact hothers
  | cons h hrest ih =>
      refine .cons ?_ ih
      have hnext := hrest.head_append hq
      rw [← textOf_append] at hnext
      exact h.of_next hnext

/-- Words before a text that cannot add to them are read as they are, and then the text. -/
theorem itemsFrom_of_lexes (hwords : Lexes flags.extended context words)
    (hstrip : flags.stripWhitespace = false) {q : List Char}
    (hq : ∀ c ∈ q.head?, c ≠ '?' ∧ c.isDigit = false) :
    ∃ last', itemsFrom flags { context, last } (placed place (textOf words ++ q)) =
      Parser.items (lexemesAt place words) ++
        itemsFrom flags { last := last' } (placed (place.past (textOf words)) q) := by
  induction hwords generalizing place last with
  | nil => exact ⟨last, rfl⟩
  | cons h hrest ih =>
      rename_i context after w words
      have hskip : ∀ c ∈ w.text.head?, ¬ Skipped flags context c := by simp [Skipped, hstrip]
      obtain ⟨mid, htakes⟩ := @takesToken_of_spells flags { context, last } place w.text
        (textOf words ++ q) _ _ _ _ (h.of_next (hrest.head_append hq)) rfl rfl rfl hskip
      obtain ⟨last', hitems⟩ := @ih (place.past w.text) (some mid)
      refine ⟨last', ?_⟩
      have htext : textOf (w :: words) = w.text ++ textOf words := rfl
      rw [htext, List.append_assoc, htakes, hitems, past_append]
      rfl

/-- A pattern that consists of words has their tokens. -/
theorem patternItems_of_lexes (hwords : Lexes flags.extended .outside words)
    (hstrip : flags.stripWhitespace = false) {pattern : String}
    (hpattern : pattern.toList = textOf words) :
    patternItems flags pattern = Parser.items (lexemesAt .origin words) := by
  obtain ⟨last, hitems⟩ := @itemsFrom_of_lexes flags .outside words .origin none hwords hstrip []
    (by simp)
  have hend : itemsFrom flags { last } (placed (Location.origin.past (textOf words)) []) = [] :=
    itemsFrom_stop rfl
  rw [List.append_nil, hend, List.append_nil, ← hpattern] at hitems
  exact (patternItems_eq flags pattern).trans hitems

end

/-! ## Back-references -/

/-- A back-reference, before which these two characters stand in the text. -/
def ReadsDigit (p0 p1 : Option Placed) : Item → Prop
  | .lexeme ⟨.backReference _, _⟩ =>
      ∃ a d b, p0 = some ⟨'\\', a⟩ ∧ p1 = some ⟨d, b⟩ ∧ d.isDigit = true
  | _ => True

theorem escape_readsDigit (st : State) (start : Location) (p1 p2 : Option Placed) :
    (escape st start p1 p2).Yields (ReadsDigit (some ⟨'\\', start⟩) p1) := by
  cases p1 with
  | none => trivial
  | some e =>
      simp only [escape]
      split_ifs with hn hr ht hmeta hmulti hcategory hdigit hzero
      iterate 5 trivial
      · split <;> trivial
      · split <;> trivial
      · split
        · trivial
        · exact ⟨start, e.char, e.place, rfl, rfl, hdigit⟩
      · trivial

theorem outside_readsDigit (flags : Flags) (st : State) (c : Placed) (p1 p2 : Option Placed) :
    (outside flags st c p1 p2).Yields (ReadsDigit (some c) p1) := by
  obtain ⟨c, place⟩ := c
  by_cases hc : c = '\\'
  · subst hc
    exact escape_readsDigit ..
  · unfold outside
    repeat' split
    all_goals trivial

theorem inClass_readsDigit (st : State) (enclosing : Nat) (spot : Spot) (c : Placed)
    (p1 p2 : Option Placed) : (inClass st enclosing spot c p1 p2).Yields (ReadsDigit (some c) p1) := by
  obtain ⟨c, place⟩ := c
  by_cases hc : c = '\\'
  · subst hc
    exact escape_readsDigit ..
  · unfold inClass
    repeat' split
    all_goals trivial

theorem step_readsDigit (flags : Flags) (st : State) (p0 p1 p2 : Option Placed) :
    (step flags st p0 p1 p2).Yields (ReadsDigit p0 p1) := by
  unfold step
  split
  · trivial
  · unfold atEnd
    split <;> trivial
  · unfold between
    repeat' split
    · exact inClass_readsDigit ..
    · trivial
    · trivial
    · unfold inQuantifier
      repeat' split
      all_goals trivial
    · exact outside_readsDigit ..
  · trivial
  · trivial
  · unfold closeNumber
    repeat' split
    all_goals trivial
  · unfold categoryName
    repeat' split
    all_goals trivial

/-- A text without a backslash before a digit has no back-reference. -/
theorem no_reference {flags : Flags} {st : State} {chars : List Placed}
    (h : ∀ d, d.isDigit = true → ¬ ['\\', d] <:+: chars.map Placed.char) :
    ∀ item ∈ itemsFrom flags st chars, ∀ n range, item ≠ .lexeme ⟨.backReference n, range⟩ := by
  have hdrop {chars : List Placed} (count : Nat)
      (h : ∀ d, d.isDigit = true → ¬ ['\\', d] <:+: chars.map Placed.char) :
      ∀ d, d.isDigit = true → ¬ ['\\', d] <:+: (chars.drop count).map Placed.char := by
    intro d hd hsub
    rw [List.map_drop] at hsub
    exact h d hd (hsub.trans (List.drop_suffix _ _).isInfix)
  induction st, chars using itemsFrom_induction flags with
  | stop st chars hmove =>
      rw [itemsFrom_stop hmove]
      simp
  | emit st chars count item next hmove ih =>
      rw [itemsFrom_emit hmove]
      intro item' hmem
      rcases List.mem_cons.1 hmem with rfl | hmem
      · rintro n range rfl
        have hyields := step_readsDigit flags st chars[0]? chars[1]? chars[2]?
        rw [stepOn] at hmove
        rw [hmove] at hyields
        obtain ⟨a, d, b, h0, h1, hd⟩ := hyields
        apply h d hd
        rcases chars with _ | ⟨c, _ | ⟨c', rest⟩⟩
        · cases h0
        · cases h1
        · cases h0
          cases h1
          exact ⟨[], rest.map Placed.char, rfl⟩
      · exact ih (hdrop count h) item' hmem
  | shift st chars count next hmove ih =>
      rw [itemsFrom_shift hmove]
      exact ih (hdrop count h)

end Lexer

/-! ## Lexemes -/

theorem lexemes_items (ls : List Lexeme) : lexemes (Parser.items ls) = .ok ls := by
  induction ls with
  | nil => rfl
  | cons l ls ih =>
      change (lexemes (Parser.items ls)).map (l :: ·) = _
      rw [ih]
      rfl

theorem lexemes_ok_iff {items : List Lexer.Item} {ls : List Lexeme} :
    lexemes items = .ok ls ↔ items = Parser.items ls := by
  refine ⟨fun h => ?_, fun h => h ▸ lexemes_items ls⟩
  induction items generalizing ls with
  | nil =>
      cases h
      rfl
  | cons item items ih =>
      cases item with
      | fault f => cases h
      | lexeme l =>
          rw [lexemes] at h
          cases hrest : lexemes items with
          | error f =>
              rw [hrest] at h
              cases h
          | ok rest =>
              rw [hrest] at h
              cases h
              rw [ih hrest]
              rfl

end SchemaPattern
