import SchemaPattern.Proofs.Location
import SchemaPattern.Proofs.Parser.Faults
import SchemaPattern.Proofs.TokenRows

/-!
# How the tokens of a pattern are laid out

A pattern begins with the texts of its tokens, one behind the other, and with gaps between them
where blanks are skipped.  This holds whether or not the lexer finds a fault.  If it finds none, at
most a gap is left at the end.
-/

namespace SchemaPattern

/-! ## Gaps -/

theorem LastGap.blank {c : Char} {gap : List Char} (hc : Lexer.isBlank c = true)
    (h : LastGap gap) : LastGap (c :: gap) := by
  cases h with
  | ended h => exact .ended (.blank hc h)
  | unended h htext => exact .unended (.blank hc h) htext

theorem LastGap.comment {text gap : List Char} (hline : '\n' ∉ text) (h : LastGap gap) :
    LastGap ('#' :: (text ++ '\n' :: gap)) := by
  cases h with
  | ended h => exact .ended (.comment hline h)
  | @unended gap rest h htext =>
      have hgap := LastGap.unended (.comment hline h) htext
      simpa using hgap

/-- A text is a gap, or there is a first character behind the gap that it begins with. -/
theorem lastGap_or_kept (text : List Char) :
    LastGap text ∨ ∃ gap c more, text = gap ++ c :: more ∧ Gap gap ∧
      Lexer.isBlank c = false ∧ c ≠ '#' := by
  induction hlength : text.length using Nat.strong_induction_on generalizing text with
  | _ length ih =>
      subst hlength
      rcases text with _ | ⟨c, text⟩
      · exact .inl (.ended .nil)
      by_cases hblank : Lexer.isBlank c = true
      · rcases ih text.length (by simp) text rfl with h | ⟨gap, d, more, rfl, hgap, hkept⟩
        · exact .inl (h.blank hblank)
        · exact .inr ⟨c :: gap, d, more, rfl, .blank hblank hgap, hkept⟩
      by_cases hhash : c = '#'
      · subst hhash
        by_cases hline : '\n' ∈ text
        · obtain ⟨comment, rest, rfl, hcomment⟩ := List.eq_append_cons_of_mem hline
          have hlt : rest.length < ('#' :: (comment ++ '\n' :: rest)).length := by
            simp
            omega
          rcases ih rest.length hlt rest rfl with h | ⟨gap, d, more, rfl, hgap, hkept⟩
          · exact .inl (h.comment hcomment)
          · exact .inr ⟨'#' :: (comment ++ '\n' :: gap), d, more, by simp,
              .comment hcomment hgap, hkept⟩
        · exact .inl (@LastGap.unended [] text .nil hline)
      · exact .inr ⟨[], c, text, rfl, .nil, by simpa using hblank, hhash⟩

/-- What may stand before a token in a mode. -/
def GapBefore (flags : Flags) (mode : Mode) (gap : List Char) : Prop :=
  gap = [] ∨ flags.stripWhitespace = true ∧ ¬ mode.InClass ∧ Gap gap

/-- What may stand behind the last token. -/
def GapBehind (flags : Flags) (gap : List Char) : Prop :=
  gap = [] ∨ flags.stripWhitespace = true ∧ LastGap gap

theorem GapBefore.eq_nil {flags : Flags} {mode : Mode} {gap : List Char}
    (h : GapBefore flags mode gap) (hkept : flags.stripWhitespace = false ∨ mode.InClass) :
    gap = [] := by
  rcases h with h | ⟨hstrip, hclass, -⟩
  · exact h
  · simp [hstrip, hclass] at hkept

/-! ## Lexemes in a pattern -/

/-- At the place of the lexeme the pattern has a text that spells its token. -/
inductive Lexeme.WrittenIn (pattern : List Char) : Lexeme → Prop
  | intro {before text behind : List Char} {t : Token} (h : pattern = before ++ (text ++ behind))
      (hlegible : t.Legible) (hspelled : t.SpelledBy text) :
      WrittenIn pattern ⟨t, .ofPiece before text⟩

section

variable {pattern : List Char} {l : Lexeme}

theorem Lexeme.WrittenIn.pieceOf (h : l.WrittenIn pattern) : l.range.PieceOf pattern := by
  obtain ⟨h, -, hspelled⟩ := h
  exact .intro h hspelled.ne_nil

theorem Lexeme.WrittenIn.spelled (h : l.WrittenIn pattern) :
    l.token.Legible ∧ l.token.SpelledBy (l.range.fragment pattern) := by
  obtain ⟨rfl, hlegible, hspelled⟩ := h
  rw [Location.fragment_ofPiece hspelled.ne_nil]
  exact ⟨hlegible, hspelled⟩

end

namespace Lexer

/-! ## The end of a pattern -/

section

variable {flags : Flags} {context : Context} {place : Location} {last : Option Location}

theorem itemsFrom_skipped (hstrip : flags.stripWhitespace = true) (hcontext : ¬ context.InClass)
    {gap : List Char} (h : LastGap gap) :
    ∃ last' place', itemsFrom flags { context, last } (placed place gap) =
      itemsFrom flags { context, last := last' } (placed place' []) := by
  cases h with
  | ended h =>
      obtain ⟨last', hitems⟩ := @itemsFrom_gap flags context place last hstrip hcontext gap h []
      rw [List.append_nil] at hitems
      exact ⟨last', _, hitems⟩
  | @unended gap text h htext =>
      obtain ⟨mid, hgap⟩ :=
        @itemsFrom_gap flags context place last hstrip hcontext gap h ('#' :: text)
      obtain ⟨last', hcomment⟩ := @itemsFrom_hash flags context (place.past gap) mid hstrip hcontext
        text htext []
      rw [List.append_nil] at hcomment
      rw [hgap, hcomment, itemsFrom_shift rfl]
      exact ⟨last', place, rfl⟩

/-- At its end a pattern has a fault if a class or the bounds of a quantifier are left open. -/
theorem itemsFrom_end (flags : Flags) (mode : Mode) (previous : Option Token)
    (last : Option Location) :
    mode = .outside ∧ itemsFrom flags { context := mode.context previous, last } [] = [] ∨
      ∃ f, itemsFrom flags { context := mode.context previous, last } [] = [.fault f] := by
  cases mode with
  | outside => exact .inl ⟨rfl, itemsFrom_stop rfl⟩
  | bounds => exact .inr ⟨_, itemsFrom_fail rfl⟩
  | charClass n => exact .inr ⟨_, itemsFrom_fail rfl⟩

end

/-! ## Layouts -/

/-- Behind `before` and from a mode on, the text consists of the texts of the lexemes with gaps
before them.  Behind them there is another mode. -/
inductive Laid (flags : Flags) : Mode → List Char → List Char → List Lexeme → Mode → Prop
  | nil {mode : Mode} {before : List Char} : Laid flags mode before [] [] mode
  | cons {mode after : Mode} {before gap text rest : List Char} {t : Token} {ls : List Lexeme}
      (hgap : GapBefore flags mode gap) (hlegible : t.Legible)
      (hadmits : ∃ previous, mode.Admits flags.extended previous t) (hspelled : t.SpelledBy text)
      (hrest : Laid flags (mode.behind t) (before ++ (gap ++ text)) rest ls after) :
      Laid flags mode before (gap ++ (text ++ rest))
        (⟨t, .ofPiece (before ++ gap) text⟩ :: ls) after

section

variable {flags : Flags} {mode after : Mode} {previous : Option Token} {text : List Char}

/-- All that is left is a gap, or there is a first character behind a gap. -/
theorem gap_or_kept (flags : Flags) (mode : Mode) (previous : Option Token) (text : List Char) :
    (text = [] ∨ flags.stripWhitespace = true ∧ ¬ mode.InClass ∧ LastGap text) ∨
      ∃ gap c more, text = gap ++ c :: more ∧ GapBefore flags mode gap ∧
        ¬ Skipped flags (mode.context previous) c := by
  by_cases hskips : flags.stripWhitespace = true ∧ ¬ mode.InClass
  · obtain ⟨hstrip, hclass⟩ := hskips
    rcases lastGap_or_kept text with h | ⟨gap, c, more, rfl, hgap, hblank, hhash⟩
    · exact .inl (.inr ⟨hstrip, hclass, h⟩)
    · exact .inr ⟨gap, c, more, rfl, .inr ⟨hstrip, hclass, hgap⟩, not_skipped hblank hhash⟩
  · rcases text with _ | ⟨c, text⟩
    · exact .inl (.inl rfl)
    · refine .inr ⟨[], c, text, rfl, .inl rfl, ?_⟩
      rintro ⟨hclass, hstrip, -⟩
      exact hskips ⟨hstrip, Mode.inClass_context.not.1 hclass⟩

/-- What ended before a gap ends before what stands behind the gap. -/
theorem endsBefore_of_gap {gap rest : List Char} (hgap : GapBefore flags mode gap)
    (h : ∀ p ∈ previous, p.EndsBefore flags (gap ++ rest).head?) :
    ∀ p ∈ previous, p.EndsBefore flags rest.head? := by
  rcases hgap with rfl | ⟨hstrip, hclass, hgap⟩
  · exact h
  have hskipped {c : Char} (hc : isBlank c = true ∨ c = '#') :
      Skipped flags (mode.context previous) c := ⟨Mode.inClass_context.not.2 hclass, hstrip, hc⟩
  cases hgap with
  | nil => exact h
  | blank hblank => exact fun p hp => (h p hp).of_skipped (hskipped (.inl hblank)) _
  | comment => exact fun p hp => (h p hp).of_skipped (hskipped (.inr rfl)) _

/-- The lexer yields the lexemes of a layout, and then it has come to the end of the text, or to a
fault. -/
theorem laid_itemsFrom (before : List Char) (last : Option Location)
    (hprevious : ∀ p ∈ previous, p.EndsBefore flags text.head?) :
    ∃ ls front rest after, text = front ++ rest ∧ Laid flags mode before front ls after ∧
      (itemsFrom flags { context := mode.context previous, last }
          (placed (Location.origin.past before) text) = Parser.items ls ∧ after = .outside ∧
            GapBehind flags rest ∨
        ∃ f, itemsFrom flags { context := mode.context previous, last }
          (placed (Location.origin.past before) text) = Parser.items ls ++ [.fault f]) := by
  -- A token takes one character or more, so the text behind it is shorter.  What is known of the
  -- token before keeps it from being read as one with the next.
  induction hlength : text.length using Nat.strong_induction_on
    generalizing mode previous text before last with
  | _ length ih =>
      subst hlength
      rcases gap_or_kept flags mode previous text with hend | ⟨gap, c, more, rfl, hgap, hkept⟩
      · refine ⟨[], [], text, mode, rfl, .nil, ?_⟩
        obtain ⟨last', place', hitems⟩ : ∃ last' place',
            itemsFrom flags { context := mode.context previous, last }
              (placed (Location.origin.past before) text) =
                itemsFrom flags { context := mode.context previous, last := last' }
                  (placed place' []) := by
          rcases hend with rfl | ⟨hstrip, hclass, hgap⟩
          · exact ⟨last, _, rfl⟩
          · exact itemsFrom_skipped hstrip (Mode.inClass_context.not.2 hclass) hgap
        rw [hitems]
        rcases itemsFrom_end flags mode previous last' with ⟨rfl, hnone⟩ | hfault
        · exact .inl ⟨hnone, rfl, hend.imp_right fun h => ⟨h.1, h.2.2⟩⟩
        · exact .inr hfault
      · have hprevious := endsBefore_of_gap hgap hprevious
        obtain ⟨mid, hitems⟩ : ∃ mid, itemsFrom flags { context := mode.context previous, last }
            (placed (Location.origin.past before) (gap ++ c :: more)) =
              itemsFrom flags { context := mode.context previous, last := mid }
                (placed (Location.origin.past (before ++ gap)) (c :: more)) := by
          rcases hgap with rfl | ⟨hstrip, hclass, hgap⟩
          · exact ⟨last, by rw [List.append_nil, List.nil_append]⟩
          · rw [past_append]
            exact itemsFrom_gap hstrip (Mode.inClass_context.not.2 hclass) hgap _
        rw [hitems]
        rcases @takes_or_fault flags mode previous more _ mid c hprevious hkept with
          ⟨first, rest, t, context, last', heq, hne, htaken, htakes⟩ | hfault
        · have hbehind : ∀ p ∈ some t, p.EndsBefore flags rest.head? := by
            rintro p ⟨⟩
            exact htaken.ends.endsBefore htaken.admits
          have hlt : rest.length < (gap ++ c :: more).length := by
            have := List.length_pos_of_ne_nil hne
            rw [heq]
            simp
            omega
          obtain ⟨ls, front, tail, after, rfl, hlaid, hrest⟩ :=
            ih _ hlt (before ++ (gap ++ first)) (some last') hbehind rfl
          rw [← List.append_assoc, past_append] at hrest
          refine ⟨_ :: ls, gap ++ (first ++ front), tail, after, ?_,
            .cons hgap htaken.legible ⟨_, htaken.admits⟩ htaken.spelled hlaid, ?_⟩
          · rw [heq]
            simp
          · rw [htakes, htaken.leaves]
            rcases hrest with ⟨hitems, hend⟩ | ⟨f, hitems⟩
            · exact .inl ⟨by rw [hitems]; rfl, hend⟩
            · exact .inr ⟨f, by rw [hitems]; rfl⟩
        · exact ⟨[], [], gap ++ c :: more, mode, rfl, .nil, .inr hfault⟩

/-! ## Parts of layouts -/

variable {before : List Char} {ls ms : List Lexeme}

theorem Laid.append (h : Laid flags mode before text (ls ++ ms) after) :
    ∃ front rest mid, text = front ++ rest ∧ Laid flags mode before front ls mid ∧
      Laid flags mid (before ++ front) rest ms after := by
  induction ls generalizing mode before text with
  | nil => exact ⟨[], text, mode, rfl, .nil, by rwa [List.append_nil]⟩
  | cons l ls ih =>
      cases h with
      | @cons _ _ _ gap first tail t _ hgap hlegible hadmits hspelled htail =>
          obtain ⟨front, rest, mid, rfl, hfront, hrest⟩ := ih htail
          refine ⟨gap ++ (first ++ front), rest, mid, by simp,
            .cons hgap hlegible hadmits hspelled hfront, ?_⟩
          simpa using hrest

/-- The mode behind lexemes is what their tokens make of the one before them. -/
theorem Laid.after_eq (h : Laid flags mode before text ls after) :
    after = (ls.map Lexeme.token).foldl Mode.behind mode := by
  induction h with
  | nil => rfl
  | cons _ _ _ _ _ ih => exact ih

theorem Laid.writtenIn (h : Laid flags mode before text ls after) (behind : List Char) :
    ∀ l ∈ ls, l.WrittenIn (before ++ (text ++ behind)) := by
  induction h with
  | nil => simp
  | @cons mode after before gap first rest t ls hgap hlegible hadmits hspelled hrest ih =>
      have hpattern : before ++ (gap ++ (first ++ rest) ++ behind) =
          (before ++ gap) ++ (first ++ (rest ++ behind)) := by simp
      intro l hl
      rcases List.mem_cons.1 hl with rfl | hl
      · exact .intro hpattern hlegible hspelled
      · simpa using ih l hl

theorem Laid.le_index (h : Laid flags mode before text ls after) :
    ∀ l ∈ ls, before.length ≤ l.range.index := by
  induction h with
  | nil => simp
  | cons _ _ _ _ _ ih =>
      intro l hl
      rcases List.mem_cons.1 hl with rfl | hl
      · simp
      · have := ih l hl
        simp only [List.length_append] at this
        omega

/-- The text ends where its last lexeme ends. -/
theorem Laid.end_eq {l : Lexeme} (h : Laid flags mode before text (ls ++ [l]) after) :
    l.range.index + l.range.length = before.length + text.length := by
  obtain ⟨front, rest, mid, rfl, -, hlast⟩ := h.append
  cases hlast with
  | cons hgap _ _ _ hnil =>
      cases hnil
      simp
      omega

end

end Lexer

/-! ## Whole patterns -/

/-- The lexemes of a pattern are laid out over the text that it begins with.  The rest of the
pattern is a gap, or there is a fault. -/
theorem laid_patternItems (flags : Flags) (pattern : String) :
    ∃ ls front rest after, pattern.toList = front ++ rest ∧
      Lexer.Laid flags .outside [] front ls after ∧
      (patternItems flags pattern = Parser.items ls ∧ after = .outside ∧ GapBehind flags rest ∨
        ∃ f, patternItems flags pattern = Parser.items ls ++ [.fault f]) := by
  rw [patternItems_eq]
  exact @Lexer.laid_itemsFrom flags .outside none _ [] none (by simp)

section

variable {flags : Flags} {pattern : String}

/-- Lexemes that a pattern begins with are laid out over a text that it begins with. -/
theorem laid_of_items {ls : List Lexeme} {its : List Lexer.Item}
    (h : patternItems flags pattern = Parser.items ls ++ its) :
    ∃ front rest after, pattern.toList = front ++ rest ∧
      Lexer.Laid flags .outside [] front ls after ∧
        (its = [] → after = .outside ∧ GapBehind flags rest) := by
  obtain ⟨all, front, rest, after, hpattern, hlaid, ⟨heq, hafter, hrest⟩ | ⟨f, heq⟩⟩ :=
    laid_patternItems flags pattern
  · obtain ⟨now, more, rfl, hnow, hmore⟩ := List.map_eq_append_iff.1 (heq.symm.trans h)
    obtain rfl : now = ls := Parser.items_injective hnow
    obtain ⟨text, tail, mid, rfl, htext, htail⟩ := hlaid.append
    refine ⟨text, tail ++ rest, mid, by rw [hpattern, List.append_assoc], htext, ?_⟩
    rintro rfl
    obtain rfl : more = [] := List.map_eq_nil_iff.1 hmore
    cases htail
    exact ⟨hafter, hrest⟩
  · obtain ⟨more, rfl, rfl⟩ := Parser.append_of_items_eq (heq.symm.trans h)
    obtain ⟨text, tail, mid, rfl, htext, -⟩ := hlaid.append
    refine ⟨text, tail ++ rest, mid, by rw [hpattern, List.append_assoc], htext, fun hnil => ?_⟩
    simp at hnil

theorem writtenIn_patternItems {l : Lexeme} (h : .lexeme l ∈ patternItems flags pattern) :
    l.WrittenIn pattern.toList := by
  obtain ⟨ls, front, rest, after, hpattern, hlaid, hitems⟩ := laid_patternItems flags pattern
  have hl : l ∈ ls := by
    rcases hitems with ⟨heq, -⟩ | ⟨f, heq⟩
    · rw [heq] at h
      simpa [Parser.items] using h
    · rw [heq] at h
      simpa [Parser.items] using h
  rw [hpattern]
  exact hlaid.writtenIn rest l hl

end

end SchemaPattern
