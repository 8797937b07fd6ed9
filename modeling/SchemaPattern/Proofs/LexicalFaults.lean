import SchemaPattern.Proofs.Lexer.Words
import SchemaPattern.Proofs.Parser.Places
import SchemaPattern.Proofs.Parser.Soundness

/-!
# Lexical faults

The parser finds the fault that the lexer finds, or something that is wrong before it.  It takes no
pattern that the lexer does not take, and it does not confuse a lexical fault with the end of the
pattern.
-/

namespace SchemaPattern

theorem lexemes_error_iff {its : List Lexer.Item} {f : Fault} :
    lexemes its = .error f ↔
      ∃ ls g more, its = Parser.items ls ++ .fault g :: more ∧ f = .lexical g := by
  induction its with
  | nil =>
      refine iff_of_false nofun ?_
      rintro ⟨ls, g, more, heq, -⟩
      simp at heq
  | cons item its ih =>
      cases item with
      | fault g =>
          constructor
          · rintro ⟨⟩
            exact ⟨[], g, its, rfl, rfl⟩
          · rintro ⟨_ | ⟨l, ls⟩, g', more, heq, rfl⟩
            · cases heq
              rfl
            · cases heq
      | lexeme l =>
          have hmap : lexemes (.lexeme l :: its) = .error f ↔ lexemes its = .error f := by
            rw [lexemes]
            cases lexemes its <;> simp [Except.map]
          rw [hmap, ih]
          constructor
          · rintro ⟨ls, g, more, rfl, rfl⟩
            exact ⟨l :: ls, g, more, rfl, rfl⟩
          · rintro ⟨_ | ⟨l', ls⟩, g, more, heq, rfl⟩
            · cases heq
            · cases heq
              exact ⟨ls, g, more, rfl, rfl⟩

namespace Parser

open Lexer (Item InOrder)

variable {flags : Flags} {its : List Item}

/-- A lexical fault is the one that the lexer has yielded. -/
theorem mem_of_lexical {f : LexicalFault} (h : parseItems flags its = .error (.lexical f)) :
    .fault f ∈ its := by
  obtain ⟨taken, rest, st, hreaches, hfails⟩ := fails_of_parseItems h
  cases hfails with
  | lexical hf =>
      rw [hreaches.split]
      exact List.mem_append_right _ hf

/-- What the parser finds wrong before a lexical fault ends before it. -/
theorem before_fault (horder : InOrder 0 its) {g : LexicalFault} (hg : .fault g ∈ its)
    {f : Fault} (h : parseItems flags its = .error f) :
    f = .lexical g ∨ f.kind ≠ .lexical ∧ (∀ expected place, f ≠ .grammar none expected place) ∧
      ∃ place, f.report.location = some place ∧ place.index + place.length ≤ g.place.index := by
  obtain ⟨taken, rest, st, hreaches, hfails⟩ := fails_of_parseItems h
  obtain ⟨ls, rfl, hmarks⟩ := hreaches.marks
  rw [hreaches.split] at horder hg
  refine hfails.before_fault hmarks horder ((List.mem_append.1 hg).resolve_left ?_)
  simp [items]

end Parser

/-- A fault that the parser reports in place of a lexical one is of another kind, it is not about
the end of the pattern, and it ends at the latest where the lexical one begins. -/
theorem lexing_and_parsing_agree (flags : Flags) (pattern : String) :
    (∀ e, parsePattern flags pattern = .ok e → ∃ ls, lex flags pattern = .ok ls) ∧
      (∀ f, parsePattern flags pattern = .error (.lexical f) →
        lex flags pattern = .error (.lexical f)) ∧
      ∀ f, lex flags pattern = .error f → ∃ g f', f = .lexical g ∧
        parsePattern flags pattern = .error f' ∧
          (f' = f ∨ f'.kind ≠ .lexical ∧ (∀ expected place, f' ≠ .grammar none expected place) ∧
            ∃ place, f'.report.location = some place ∧
              place.index + place.length ≤ g.place.index) := by
  have hlex : lex flags pattern = lexemes (patternItems flags pattern) := rfl
  have horder := inOrder_patternItems flags pattern
  rw [hlex, parsePattern_eq]
  refine ⟨fun e h => ?_, fun f h => ?_, fun f h => ?_⟩
  · obtain ⟨ls, hls, -⟩ := Parser.sentence_of_run h
    exact ⟨ls, by rw [hls, lexemes_items]⟩
  · obtain ⟨ls, hls⟩ := horder.eq_of_fault (Parser.mem_of_lexical h)
    exact lexemes_error_iff.2 ⟨ls, f, [], hls, rfl⟩
  · obtain ⟨ls, g, more, hits, rfl⟩ := lexemes_error_iff.1 h
    have hg : .fault g ∈ patternItems flags pattern := by simp [hits]
    cases hparse : parseItems flags (patternItems flags pattern) with
    | ok e =>
        obtain ⟨ls', hls', -⟩ := Parser.sentence_of_run hparse
        simp [hls', Parser.items] at hg
    | error f' => exact ⟨g, f', rfl, rfl, Parser.before_fault horder hg hparse⟩

end SchemaPattern
