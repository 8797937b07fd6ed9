import SchemaPattern.Proofs.Lexer.FaultPlaces
import SchemaPattern.Proofs.Lexer.Layout
import SchemaPattern.Proofs.LexicalFaults

/-!
# Where faults are located

A fault shows at a piece of the pattern, unless it is that the pattern ends.  Then it is located at
a position: the lexer takes that behind the last character, and the parser that behind the last
token.
-/

namespace SchemaPattern

/-- What is wrong is that the pattern ends. -/
def Fault.Ended : Fault → Prop
  | grammar none _ _ => True
  | lexical f => f.cause.AtEnd
  | _ => False

/-- How a fault is located in a pattern. -/
inductive Fault.Located (flags : Flags) (pattern : String) : Fault → Location → Prop
  | inside {f : Fault} {l : Location} (hended : ¬ f.Ended) (h : l.PieceOf pattern.toList) :
      Located flags pattern f l
  | behindText {cause : LexicalCause} {before : List Char} {c : Char} (hcause : cause.AtEnd)
      (h : pattern.toList = before ++ [c]) :
      Located flags pattern (.lexical ⟨cause, (Location.ofPiece before [c]).after⟩)
        (Location.ofPiece before [c]).after
  | behindTokens {expected : Expected} {before word gap : List Char} {t : Token}
      {ls : List Lexeme} (h : pattern.toList = before ++ (word ++ gap))
      (hlex : lex flags pattern = .ok (ls ++ [⟨t, .ofPiece before word⟩]))
      (hlegible : t.Legible) (hspelled : t.SpelledBy word) (hgap : GapBehind flags gap) :
      Located flags pattern (.grammar none expected (Location.ofPiece before word).after)
        (Location.ofPiece before word).after

section

variable {flags : Flags} {pattern : String} {f : Fault}

/-- No fault is located behind the end of the pattern. -/
theorem Fault.Located.end_le {l : Location} (h : f.Located flags pattern l) :
    l.index + l.length ≤ pattern.toList.length := by
  cases h with
  | inside _ hpiece => exact hpiece.end_le
  | @behindText cause before c _ hpattern =>
      rw [Location.index_after_ofPiece (by simp), hpattern]
      simp [Location.after, Location.position]
  | behindTokens hpattern _ _ hspelled =>
      rw [Location.index_after_ofPiece hspelled.ne_nil, hpattern]
      simp [Location.after, Location.position]

/-! ## Lexical faults -/

theorem located_of_fault {g : LexicalFault} (h : .fault g ∈ patternItems flags pattern) :
    Fault.Located flags pattern (.lexical g) g.place := by
  cases faultIn_patternItems h with
  | inside hcause hplace => exact .inside hcause hplace
  | atEnd hcause hpattern => exact .behindText hcause hpattern

theorem located_of_lex (h : lex flags pattern = .error f) :
    ∃ l, f.report.location = some l ∧ f.Located flags pattern l := by
  obtain ⟨ls, g, more, hitems, rfl⟩ := lexemes_error_iff.1 h
  have hitems : patternItems flags pattern = Parser.items ls ++ .fault g :: more := hitems
  exact ⟨g.place, rfl, located_of_fault (by simp [hitems])⟩

/-! ## Faults of the parser -/

/-- If there are tokens, the parser takes the pattern to end behind the last one. -/
theorem located_of_ended {ls : List Lexeme} {st : Parser.State} (expected : Expected)
    (hlast : st.last = Parser.lastRange .origin ls) (hne : ls ≠ [])
    (hitems : patternItems flags pattern = Parser.items ls) :
    Fault.Located flags pattern (.grammar none expected st.endPlace) st.endPlace := by
  obtain ⟨front, l, rfl⟩ := (List.eq_nil_or_concat ls).resolve_left hne
  rw [List.concat_eq_append] at hitems hlast
  obtain ⟨text, rest, after, hpattern, hlaid, hrest⟩ :=
    laid_of_items (hitems.trans (List.append_nil _).symm)
  obtain ⟨before, tail, mid, rfl, -, hl⟩ := hlaid.append
  cases hl with
  | @cons _ _ _ gap word _ t _ _ hlegible _ hspelled hnil =>
      cases hnil
      have hrange : st.last = .ofPiece ([] ++ before ++ gap) word := by
        rw [hlast, Parser.lastRange_append]
        rfl
      have hpos := List.length_pos_of_ne_nil hspelled.ne_nil
      have hend : st.endPlace = (Location.ofPiece ([] ++ before ++ gap) word).after := by
        rw [Parser.State.endPlace, hrange, if_neg]
        rw [Location.length_ofPiece]
        omega
      rw [hend]
      exact .behindTokens (by simpa using hpattern) (lexemes_ok_iff.2 hitems) hlegible hspelled
        (hrest rfl).2

/-- Any other fault shows at lexemes. -/
theorem Parser.Fails.pieceOf {st : State} {ls : List Lexeme} {its : List Lexer.Item}
    (h : Fails st its f) (hmarks : Marks ls st) (horder : Lexer.InOrder 0 (items ls ++ its))
    (hpiece : ∀ l, .lexeme l ∈ items ls ++ its → l.range.PieceOf pattern.toList)
    (hkind : f.kind ≠ .lexical) (hended : ¬ f.Ended) :
    ∃ l, f.report.location = some l ∧ l.PieceOf pattern.toList := by
  have hforward := h.forward hmarks horder
  have htaken {l : Lexeme} (hl : l ∈ ls) : l.range.PieceOf pattern.toList :=
    hpiece l (List.mem_append_left _ (List.mem_map_of_mem hl))
  have hcoming {l : Lexeme} (hl : .lexeme l ∈ its) : l.range.PieceOf pattern.toList :=
    hpiece l (List.mem_append_right _ hl)
  -- A construct that is being read began among the lexemes taken.
  have hjoin {start last : Location} (hmode : st.mode.start? = some start)
      (hlast : last.PieceOf pattern.toList) (hle : start.index ≤ last.index) :
      ∃ l, some (start.join last) = some l ∧ l.PieceOf pattern.toList := by
    obtain ⟨begin, hbegin, rfl⟩ := hmarks.start start hmode
    exact ⟨_, rfl, (htaken hbegin).join hlast hle⟩
  cases h with
  | lexical => exact absurd rfl hkind
  | ended => exact absurd trivial hended
  | unexpected hl => exact ⟨_, rfl, hcoming hl⟩
  | unknownEscape heq =>
      subst heq
      exact ⟨_, rfl, hcoming (.head _)⟩
  | bounds hmode heq =>
      subst heq
      exact hjoin (by rw [hmode]; rfl) (hcoming (.head _)) hforward
  | braced hmode heq =>
      subst heq
      exact hjoin (by rw [hmode]; rfl) (hcoming (.tail _ (.head _))) hforward
  | charRange hmode heq =>
      subst heq
      exact hjoin (by rw [hmode]; rfl) (hcoming (.head _)) hforward
  | backReference hmode =>
      obtain ⟨first, hfirst, -⟩ := hmarks.start _ (by rw [hmode]; rfl)
      obtain ⟨last, hlast, heq⟩ := @lastRange_mem .origin ls (List.ne_nil_of_mem hfirst)
      have hend : st.last.PieceOf pattern.toList := by
        rw [hmarks.last, heq]
        exact htaken hlast
      exact hjoin (by rw [hmode]; rfl) hend hforward

/-- A pattern without tokens is that of the empty expression. -/
theorem items_ne_nil_of_parsePattern (h : parsePattern flags pattern = .error f) :
    patternItems flags pattern ≠ [] := by
  intro hnil
  rw [parsePattern_eq, hnil] at h
  have hempty : parseItems flags ([] : List Lexer.Item) = .ok (Parser.Level.close {}) :=
    Parser.run_done rfl
  rw [hempty] at h
  cases h

/-- Each fault of the parser is located. -/
theorem located_of_parsePattern (h : parsePattern flags pattern = .error f) :
    ∃ l, f.report.location = some l ∧ f.Located flags pattern l := by
  have hne := items_ne_nil_of_parsePattern h
  rw [parsePattern_eq] at h
  obtain ⟨taken, rest, st, hreaches, hfails⟩ := Parser.fails_of_parseItems h
  obtain ⟨ls, rfl, hmarks⟩ := hreaches.marks
  have hsplit := hreaches.split
  have horder := inOrder_patternItems flags pattern
  rw [hsplit] at horder
  have hpiece := hfails.pieceOf hmarks horder fun l hl =>
    (writtenIn_patternItems (hsplit ▸ hl)).pieceOf
  cases hfails with
  | @lexical g hg =>
      refine ⟨g.place, rfl, located_of_fault ?_⟩
      rw [hsplit]
      exact List.mem_append_right _ hg
  | @ended ms expected heq =>
      subst heq
      have hall : patternItems flags pattern = Parser.items (ls ++ ms) := by
        rw [hsplit, Parser.items_append]
      refine ⟨_, rfl, located_of_ended expected ?_ (fun hnil => hne ?_) hall⟩
      · rw [Parser.lastRange_append, ← hmarks.last]
      · rw [hall, hnil]
        rfl
  | _ =>
      obtain ⟨l, hlocation, hpieceOf⟩ := hpiece nofun id
      exact ⟨l, hlocation, .inside id hpieceOf⟩

end

end SchemaPattern
