import SchemaPattern.Proofs.Bounded
import SchemaPattern.Proofs.Lexer.Words
import SchemaPattern.Proofs.Parser.Likeness

/-!
# Blanks and comments between tokens

With the flag for it, blanks and comments that stand between the tokens of a pattern, outside of its
classes, change nothing but places.
-/

namespace SchemaPattern

/-! ## Spaced patterns -/

/-- Blanks, and comments that end with their line. -/
inductive Gap : List Char → Prop
  | nil : Gap []
  | blank {c : Char} {rest : List Char} (h : Lexer.isBlank c = true) (hrest : Gap rest) :
      Gap (c :: rest)
  | comment {text rest : List Char} (h : '\n' ∉ text) (hrest : Gap rest) :
      Gap ('#' :: (text ++ '\n' :: rest))

/-- A gap behind which nothing stands, so that nothing needs to end the last comment in it. -/
inductive LastGap : List Char → Prop
  | ended {gap : List Char} (h : Gap gap) : LastGap gap
  | unended {gap text : List Char} (h : Gap gap) (htext : '\n' ∉ text) : LastGap (gap ++ '#' :: text)

/-- How many classes are open behind a token. -/
def Token.depthBehind (depth : Nat) : Token → Nat
  | .classOpen => depth + 1
  | .classClose => depth - 1
  | _ => depth

/-- Outside of classes no token is a character that could stand in a gap. -/
def Unspaced (depth : Nat) : List Token → Prop
  | [] => True
  | t :: ts =>
      (depth = 0 → t ∉ [.char ' ', .char '\t', .char '\r', .char '\n', .char '#']) ∧
        Unspaced (t.depthBehind depth) ts

/-- A token with its text in a pattern. -/
def Lexeme.word (pattern : String) (l : Lexeme) : Lexer.Word :=
  ⟨l.range.fragment pattern.toList, l.token⟩

/-- The text consists of the words, with gaps before and behind them where no class is open. -/
inductive Spaced : Nat → List Lexer.Word → List Char → Prop
  | nil {depth : Nat} {gap : List Char} (hgap : gap = [] ∨ depth = 0 ∧ LastGap gap) :
      Spaced depth [] gap
  | cons {depth : Nat} {gap rest : List Char} {w : Lexer.Word} {words : List Lexer.Word}
      (hgap : gap = [] ∨ depth = 0 ∧ Gap gap) (hrest : Spaced (w.token.depthBehind depth) words rest) :
      Spaced depth (w :: words) (gap ++ (w.text ++ rest))

/-- What may follow a word and does not add to it. -/
theorem Gap.head {gap : List Char} (h : Gap gap) (hne : gap ≠ []) (rest : List Char) :
    ∀ c ∈ (gap ++ rest).head?, c ≠ '?' ∧ c.isDigit = false := by
  cases h with
  | nil => exact absurd rfl hne
  | blank h hrest =>
      rename_i c _
      rintro _ ⟨⟩
      simp only [Lexer.isBlank, Bool.or_eq_true, decide_eq_true_eq] at h
      rcases h with ((rfl | rfl) | rfl) | rfl <;> decide
  | comment h hrest =>
      rintro _ ⟨⟩
      decide

theorem LastGap.head {gap : List Char} (h : LastGap gap) :
    ∀ c ∈ gap.head?, c ≠ '?' ∧ c.isDigit = false := by
  cases h with
  | ended h =>
      by_cases hne : gap = []
      · simp [hne]
      · simpa using h.head hne []
  | @unended gap text h htext =>
      by_cases hne : gap = []
      · rw [hne]
        rintro _ ⟨⟩
        decide
      · exact h.head hne _

namespace Lexer

/-! ## Depths -/

def Context.depth : Context → Nat
  | .charClass n _ => n + 1
  | _ => 0

theorem Context.inClass_iff {context : Context} : context.InClass ↔ context.depth ≠ 0 := by
  cases context <;> simp [InClass, depth]

section

variable {extended : Bool} {context after : Context} {text : List Char} {next : Option Char}
  {t : Token}

theorem Spells.depth (h : Spells extended context text next t after) :
    after.depth = t.depthBehind context.depth := by
  cases h with
  | operator h =>
      simp only [operators, List.mem_cons, Prod.mk.injEq, List.not_mem_nil, or_false] at h
      rcases h with ⟨rfl, rfl⟩ | ⟨rfl, rfl⟩ | ⟨rfl, rfl⟩ | ⟨rfl, rfl⟩ | ⟨rfl, rfl⟩ | ⟨rfl, rfl⟩ |
        ⟨rfl, rfl⟩ | ⟨rfl, rfl⟩ <;> rfl
  | escape h | classEscape h => cases h <;> rfl
  | classClose =>
      rename_i n _
      cases n <;> rfl
  | _ => rfl

/-- Outside of classes a word that begins like a gap is the token of that character. -/
theorem Spells.eq_char (h : Spells extended context text next t after)
    (hcontext : ¬ context.InClass) {c : Char} (hc : c ∈ text.head?)
    (hgap : isBlank c = true ∨ c = '#') : t = .char c := by
  have hnone {others : List Char} (hothers : ∀ d ∈ others, isBlank d = false ∧ d ≠ '#') :
      c ∉ others := fun hmem => by
    have := hothers c hmem
    simp_all
  have hdigit : c.isDigit = false := by
    simp only [isBlank, Bool.or_eq_true, decide_eq_true_eq] at hgap
    rcases hgap with (((rfl | rfl) | rfl) | rfl) | rfl <;> decide
  cases h with
  | char hmeta hplain =>
      cases hc
      rfl
  | operator h =>
      cases hc
      have hmem := @List.mem_map_of_mem _ _ _ _ Prod.fst h
      exact absurd hmem (hnone (forall_mem_of_all (by decide)))
  | escape h =>
      obtain ⟨d, rest, rfl⟩ := h.eq_cons
      cases hc
      exact absurd (.head []) (@hnone ['\\'] (forall_mem_of_all (by decide)))
  | digit h =>
      cases hc
      simp_all
  | number hne hdigits =>
      have := hdigits c (List.mem_of_mem_head? hc)
      simp_all
  | reference =>
      cases hc
      exact absurd (.head []) (@hnone ['\\'] (forall_mem_of_all (by decide)))
  | groupOpen | nonCapturing | quantifierOpen | classOpen | comma | quantifierClose =>
      cases hc
      revert hgap
      decide
  | _ => exact absurd trivial hcontext

end

/-! ## Gaps are skipped -/

section

variable {flags : Flags} {context : Context} {place : Location} {last : Option Location}

theorem itemsFrom_comment {text : List Char} (h : '\n' ∉ text) (rest : List Char) :
    ∃ last', itemsFrom flags { context, scan := .comment, last } (placed place (text ++ rest)) =
      itemsFrom flags { context, scan := .comment, last := last' }
        (placed (place.past text) rest) := by
  induction text generalizing place last with
  | nil => exact ⟨last, rfl⟩
  | cons c text ih =>
      simp only [List.mem_cons, not_or] at h
      have hshift : stepOn flags { context, scan := .comment, last }
          (placed place (c :: text ++ rest)) =
          .shift 1 { context, scan := .comment, last := some place } := by
        simp [stepOn, step, placed, Ne.symm h.1]
      rw [itemsFrom_shift hshift]
      exact ih h.2

variable (hstrip : flags.stripWhitespace = true)

include hstrip

theorem between_blank {st : State} {c : Placed} {p1 p2 : Option Placed}
    (hcontext : ¬ st.context.InClass) (h : isBlank c.char = true) :
    between flags st c p1 p2 = .shift 1 { st with last := some c.place } := by
  cases hcases : st.context with
  | charClass n spot => exact absurd (by rw [hcases]; trivial) hcontext
  | _ => simp [between, hcases, hstrip, h]

theorem between_hash {st : State} {place : Location} {p1 p2 : Option Placed}
    (hcontext : ¬ st.context.InClass) :
    between flags st ⟨'#', place⟩ p1 p2 =
      .shift 1 { st with scan := .comment, last := some place } := by
  cases hcases : st.context with
  | charClass n spot => exact absurd (by rw [hcases]; trivial) hcontext
  | _ => simp [between, hcases, hstrip, isBlank]

theorem itemsFrom_hash (hcontext : ¬ context.InClass) {text : List Char} (h : '\n' ∉ text)
    (rest : List Char) :
    ∃ last', itemsFrom flags { context, last } (placed place ('#' :: (text ++ rest))) =
      itemsFrom flags { context, scan := .comment, last := last' }
        (placed (place.past ('#' :: text)) rest) := by
  have hshift : stepOn flags { context, last } (placed place ('#' :: (text ++ rest))) =
      .shift 1 { context, scan := .comment, last := some place } :=
    (stepOn_ready rfl _ _).trans (between_hash hstrip hcontext)
  rw [itemsFrom_shift hshift]
  exact itemsFrom_comment h rest

theorem itemsFrom_gap (hcontext : ¬ context.InClass) {gap : List Char} (h : Gap gap)
    (rest : List Char) :
    ∃ last', itemsFrom flags { context, last } (placed place (gap ++ rest)) =
      itemsFrom flags { context, last := last' } (placed (place.past gap) rest) := by
  induction h generalizing place last with
  | nil => exact ⟨last, rfl⟩
  | @blank c gap h hgap ih =>
      have hshift : stepOn flags { context, last } (placed place (c :: gap ++ rest)) =
          .shift 1 { context, last := some place } :=
        (stepOn_ready rfl _ _).trans (between_blank hstrip hcontext h)
      rw [itemsFrom_shift hshift]
      exact ih
  | @comment text gap h hgap ih =>
      obtain ⟨mid, hcomment⟩ := @itemsFrom_hash flags context place last hstrip hcontext text h
        ('\n' :: (gap ++ rest))
      have hshift : stepOn flags { context, scan := .comment, last := mid }
          (placed (place.past ('#' :: text)) ('\n' :: (gap ++ rest))) =
          .shift 1 { context, last := some (place.past ('#' :: text)) } := rfl
      have hpast : place.past ('#' :: (text ++ '\n' :: gap)) =
          ((place.past ('#' :: text)).next '\n').past gap := past_append place ('#' :: text) _
      have htext : '#' :: (text ++ '\n' :: gap) ++ rest =
          '#' :: (text ++ '\n' :: (gap ++ rest)) := by simp
      rw [htext, hcomment, itemsFrom_shift hshift, hpast]
      exact ih

theorem itemsFrom_lastGap {gap : List Char} (h : LastGap gap) :
    itemsFrom flags { last } (placed place gap) = [] := by
  cases h with
  | ended h =>
      obtain ⟨last', hitems⟩ := @itemsFrom_gap flags .outside place last hstrip id gap h []
      rw [← List.append_nil gap, hitems]
      exact itemsFrom_stop rfl
  | @unended gap text h htext =>
      obtain ⟨mid, hgap⟩ := @itemsFrom_gap flags .outside place last hstrip id gap h ('#' :: text)
      obtain ⟨last', hcomment⟩ := @itemsFrom_hash flags .outside (place.past gap) mid hstrip id text
        htext []
      rw [List.append_nil] at hcomment
      rw [hgap, hcomment, itemsFrom_shift rfl]
      exact itemsFrom_stop rfl

end

/-! ## Words between gaps -/

/-- The next character is the one that stood there before, or it begins a gap. -/
theorem head_of_spaced {extended : Bool} {context : Context} {words : List Word}
    {text : List Char} (hlexes : Lexes extended context words)
    (h : Spaced context.depth words text) :
    text.head? = (textOf words).head? ∨
      ¬ context.InClass ∧ ∀ c ∈ text.head?, c ≠ '?' ∧ c.isDigit = false := by
  cases hlexes with
  | nil =>
      cases h with
      | nil hgap =>
          rcases hgap with rfl | ⟨-, hgap⟩
          · exact .inl rfl
          · exact .inr ⟨id, hgap.head⟩
  | @cons _ _ w words hspells hrest =>
      obtain ⟨c, more, hw⟩ := List.exists_cons_of_ne_nil hspells.ne_nil
      cases h with
      | @cons _ gap rest _ _ hgap hspaced =>
          by_cases hne : gap = []
          · left
            simp [hne, textOf, hw]
          · obtain ⟨hdepth, hgap⟩ := hgap.resolve_left hne
            exact .inr ⟨by simp [Context.inClass_iff, hdepth], hgap.head hne _⟩

/-- Words with gaps between them are read as they are without the gaps. -/
theorem itemsFrom_of_spaced {flags : Flags} (hstrip : flags.stripWhitespace = true)
    {context : Context} {words : List Word} (hlexes : Lexes flags.extended context words)
    {text : List Char} (hspaced : Spaced context.depth words text)
    (hplain : Unspaced context.depth (words.map Word.token)) (place : Location)
    (last : Option Location) :
    ∃ ls, itemsFrom flags { context, last } (placed place text) = Parser.items ls ∧
      ls.map Lexeme.token = words.map Word.token := by
  induction hlexes generalizing place last text with
  | nil =>
      refine ⟨[], ?_, rfl⟩
      cases hspaced with
      | nil hgap =>
          rcases hgap with rfl | ⟨-, hgap⟩
          · exact itemsFrom_stop rfl
          · exact itemsFrom_lastGap hstrip hgap
  | @cons context after w words hspells hrest ih =>
      cases hspaced with
      | @cons _ gap rest _ _ hgap hspaced =>
          rw [← hspells.depth] at hspaced
          have hplain' := hplain.2
          rw [← hspells.depth] at hplain'
          have hnext := head_of_spaced hrest hspaced
          obtain ⟨mid, hskipped⟩ : ∃ mid,
              itemsFrom flags { context, last } (placed place (gap ++ (w.text ++ rest))) =
                itemsFrom flags { context, last := mid }
                  (placed (place.past gap) (w.text ++ rest)) := by
            rcases hgap with rfl | ⟨hdepth, hgap⟩
            · exact ⟨last, rfl⟩
            · exact itemsFrom_gap hstrip (by simp [Context.inClass_iff, hdepth]) hgap _
          have hskip : ∀ c ∈ w.text.head?, ¬ Skipped flags context c := by
            rintro c hc ⟨hclass, -, hgap⟩
            have hdepth : context.depth = 0 := by
              simpa [Context.inClass_iff] using hclass
            have hnot := hplain.1 hdepth
            rw [hspells.eq_char hclass hc hgap] at hnot
            simp only [isBlank, Bool.or_eq_true, decide_eq_true_eq] at hgap
            rcases hgap with (((rfl | rfl) | rfl) | rfl) | rfl <;> simp at hnot
          obtain ⟨last', htakes⟩ := @takesToken_of_spells flags { context, last := mid }
            (place.past gap) w.text rest _ _ _ _ (hspells.of_next hnext) rfl rfl rfl hskip
          obtain ⟨ls, hitems, htokens⟩ := ih hspaced hplain' ((place.past gap).past w.text)
            (some last')
          refine ⟨⟨w.token, (place.past gap).withLength w.text.length⟩ :: ls, ?_, ?_⟩
          · rw [hskipped, htakes, hitems]
            rfl
          · rw [List.map_cons, htokens, List.map_cons]

/-- The words of a pattern are those of its lexemes. -/
theorem words_lexemesAt {extended : Bool} {context : Context} {words : List Word}
    (hlexes : Lexes extended context words) {pattern : String} {before : List Char}
    (hpattern : pattern.toList = before ++ textOf words) {place : Location}
    (hplace : place.index = before.length) :
    (lexemesAt place words).map (Lexeme.word pattern) = words := by
  induction hlexes generalizing before place with
  | nil => rfl
  | @cons _ _ w words hspells hrest ih =>
      have hpos := List.length_pos_of_ne_nil hspells.ne_nil
      have htext : pattern.toList = (before ++ w.text) ++ textOf words := by
        rw [hpattern, List.append_assoc]
        rfl
      have hfragment : (place.withLength w.text.length).fragment pattern.toList = w.text := by
        have hlength : max w.text.length 1 = w.text.length := by omega
        simp only [Location.fragment, Location.withLength, hlength, hplace, htext]
        simp
      have hrest := @ih _ htext (place.past w.text) (by simp [index_past, hplace])
      rw [lexemesAt, List.map_cons, hrest, Lexeme.word, hfragment]

end Lexer

/-! ## Lexing and parsing -/

namespace Parser

/-- Nothing is asked of the places. -/
def anywhere : Placing where
  range _ _ := True
  report _ _ := True
  report_range _ := trivial
  report_end _ := trivial
  report_join _ _ := trivial

theorem Level.Continues.eq {level level' : Level} (h : Level.Continues {} level level') :
    level' = level := by
  cases h with
  | first pieces => simp
  | later first branches pieces => simp

/-- What is made of items depends on their places only for the place of a fault. -/
theorem parseItems_alike {flags flags' : Flags} (hdotAll : flags'.dotAll = flags.dotAll)
    (hmultiline : flags'.multiline = flags.multiline) {ls ls' : List Lexeme}
    (h : ls'.map Lexeme.token = ls.map Lexeme.token) :
    Likeness.Outcomes ⟨anywhere, True, {}⟩ (parseItems flags (items ls))
      (parseItems flags' (items ls')) := by
  apply Likeness.run_alike hdotAll hmultiline
  · exact ⟨.branch, .outermost (.first []), fun _ => rfl, trivial⟩
  · induction ls generalizing ls' with
    | nil =>
        rw [List.map_eq_nil_iff.1 h]
        exact .nil
    | cons l ls ih =>
        obtain ⟨l', rest, rfl, ht, hrest⟩ := List.map_eq_cons_iff.1 h
        obtain ⟨t, range⟩ := l
        obtain ⟨t', range'⟩ := l'
        cases ht
        exact .cons (.lexeme t range range' trivial fun _ _ => trivial) (ih hrest)

end Parser

/-- Gaps between the tokens of a pattern, outside of its classes, change neither its tokens nor its
expression, and a fault in it only in its place. -/
theorem spacing_transparent {flags : Flags} (hstrip : flags.stripWhitespace = false)
    {pattern spaced : String} {ls : List Lexeme} (hlex : lex flags pattern = .ok ls)
    (hplain : Unspaced 0 (ls.map Lexeme.token))
    (hspaced : Spaced 0 (ls.map (Lexeme.word pattern)) spaced.toList) :
    let stripping := { flags with stripWhitespace := true }
    (∃ ls', lex stripping spaced = .ok ls' ∧ ls'.map Lexeme.token = ls.map Lexeme.token) ∧
      (∀ e, parsePattern flags pattern = .ok e → parsePattern stripping spaced = .ok e) ∧
      ∀ f, parsePattern flags pattern = .error f →
        ∃ f', parsePattern stripping spaced = .error f' ∧
          f'.report.kind = f.report.kind ∧ f'.report.message = f.report.message := by
  intro stripping
  have hitems := lexemes_ok_iff.1 hlex
  obtain ⟨words, hwords, rfl, hlexes⟩ :=
    Lexer.lexes_of_itemsFrom hstrip ((patternItems_eq flags pattern).symm.trans hitems)
  rw [@Lexer.words_lexemesAt _ _ _ hlexes _ [] hwords .origin rfl] at hspaced
  rw [Lexer.tokens_lexemesAt] at hplain
  obtain ⟨ls', hitems', htokens⟩ :=
    @Lexer.itemsFrom_of_spaced stripping rfl .outside words hlexes _ hspaced hplain .origin none
  rw [← Lexer.tokens_lexemesAt .origin] at htokens
  rw [← patternItems_eq] at hitems'
  have houtcomes := @Parser.parseItems_alike flags stripping rfl rfl _ _ htokens
  have hpattern : parsePattern flags pattern =
      parseItems flags (Parser.items (Lexer.lexemesAt .origin words)) := by
    rw [parsePattern_eq]
    exact congrArg _ hitems
  rw [← hitems', ← parsePattern_eq, ← hpattern] at houtcomes
  generalize houtcome : parsePattern stripping spaced = outcome at houtcomes
  refine ⟨⟨ls', lexemes_ok_iff.2 hitems', htokens⟩, ?_, ?_⟩
  · intro e he
    rw [he] at houtcomes
    cases houtcomes with
    | ok hcontinues => rw [hcontinues.eq]
  · intro f hf
    rw [hf] at houtcomes
    cases houtcomes with
    | error hfaults => exact ⟨_, rfl, hfaults.kind, hfaults.message⟩

theorem spacing_transparent_counted :
    let pattern := "a\x7b1\x7d[ ]"
    let spaced := " a#one\n\x7b\t1 \x7d[ ]#two"
    (∃ ls, lex { stripWhitespace := true } spaced = .ok ls ∧ ls.map Lexeme.token =
      [.char 'a', .quantifierOpen, .number 1, .quantifierClose, .classOpen, .char ' ', .classClose]) ∧
      ∀ e, parsePattern {} pattern = .ok e →
        parsePattern { stripWhitespace := true } spaced = .ok e := by
  intro pattern spaced
  let ls : List Lexeme := [⟨.char 'a', ⟨0, 0, 0, 1⟩⟩, ⟨.quantifierOpen, ⟨1, 0, 1, 1⟩⟩,
    ⟨.number 1, ⟨2, 0, 2, 1⟩⟩, ⟨.quantifierClose, ⟨3, 0, 3, 1⟩⟩, ⟨.classOpen, ⟨4, 0, 4, 1⟩⟩,
    ⟨.char ' ', ⟨5, 0, 5, 1⟩⟩, ⟨.classClose, ⟨6, 0, 6, 1⟩⟩]
  have hlex : lex {} pattern = .ok ls := by
    apply lexemes_ok_iff.2
    apply @patternItems_of_within 20
    decide +kernel
  have hplain : Unspaced 0 (ls.map Lexeme.token) := by
    simp [ls, Unspaced, Token.depthBehind]
  have hblank {c : Char} (h : Lexer.isBlank c = true) : Gap [c] := .blank h .nil
  have hword : ls.map (Lexeme.word pattern) =
      [⟨['a'], .char 'a'⟩, ⟨['{'], .quantifierOpen⟩, ⟨['1'], .number 1⟩, ⟨['}'], .quantifierClose⟩,
        ⟨['['], .classOpen⟩, ⟨[' '], .char ' '⟩, ⟨[']'], .classClose⟩] := by
    simp [ls, pattern, Lexeme.word, Location.fragment]
  have htext : spaced.toList =
      [' '] ++ (['a'] ++ ('#' :: (['o', 'n', 'e'] ++ ['\n']) ++ (['{'] ++ (['\t'] ++ (['1'] ++
        ([' '] ++ (['}'] ++ ['[', ' ', ']', '#', 't', 'w', 'o']))))))) := by
    simp [spaced]
  have hspaced : Spaced 0 (ls.map (Lexeme.word pattern)) spaced.toList := by
    rw [hword, htext]
    refine .cons (.inr ⟨rfl, hblank rfl⟩) ?_
    refine .cons (.inr ⟨rfl, @Gap.comment ['o', 'n', 'e'] [] (by decide) .nil⟩) ?_
    refine .cons (.inr ⟨rfl, hblank rfl⟩) ?_
    refine .cons (.inr ⟨rfl, hblank rfl⟩) ?_
    refine .cons (.inl rfl) <| .cons (.inl rfl) <| .cons (.inl rfl) <| .nil (.inr ⟨rfl, ?_⟩)
    exact @LastGap.unended [] ['t', 'w', 'o'] .nil (by decide)
  obtain ⟨hls, hparse, -⟩ := spacing_transparent rfl hlex hplain hspaced
  exact ⟨hls, hparse⟩

end SchemaPattern
