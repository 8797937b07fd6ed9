import SchemaPattern.Proofs.HostText
import SchemaPattern.Proofs.Lexer.Words

/-!
# Literal mode

A text with a backslash before each operator is a pattern for that text.  It has the expression that
literal mode gives the text itself, and the host reads the same node from both.
-/

namespace SchemaPattern

/-! ## Modifiers -/

namespace Flags

theorem add_ok {flags : Flags} {c : Char}
    (h : c ∈ ['i', 'm', 's', 'x'] ∨ c = 'q' ∧ flags.extended = true) :
    flags.add c = .ok (flags.having [c]) := by
  simp only [List.mem_cons, List.not_mem_nil, or_false] at h
  rcases h with (rfl | rfl | rfl | rfl) | ⟨rfl, hextended⟩
  · simp [add, having]
  · simp [add, having]
  · simp [add, having]
  · simp [add, having]
  · simp [add, having, hextended]

theorem foldlM_add_ok {flags : Flags} {modifiers : List Char}
    (h : ∀ c ∈ modifiers, c ∈ ['i', 'm', 's', 'x'] ∨ c = 'q' ∧ flags.extended = true) :
    modifiers.foldlM add flags = .ok (flags.having modifiers) := by
  induction modifiers generalizing flags with
  | nil => rw [having_nil]; rfl
  | cons c modifiers ih =>
      rw [List.foldlM_cons, add_ok (h c (by simp))]
      have hrest := @ih (flags.having [c]) fun d hd => h d (.tail _ hd)
      rwa [having_having] at hrest

end Flags

/-! ## Escaped texts -/

/-- The text with a backslash before each character that would not stand for itself. -/
def escapedText (text : List Char) : List Char :=
  text.flatMap fun c => if c ∈ Lexer.metaChars then ['\\', c] else [c]

namespace Lexer

/-- How a character is spelled that is to stand for itself. -/
def charWord (c : Char) : Word :=
  if c ∈ metaChars then ⟨['\\', c], .singleEscape c⟩
  else ⟨[c], if c.isDigit then .digit c else .char c⟩

theorem textOf_charWord (text : List Char) : textOf (text.map charWord) = escapedText text := by
  rw [textOf, escapedText, List.flatMap_map]
  congr 1
  funext c
  unfold charWord
  split <;> rfl

theorem classChar_charWord (c : Char) : (charWord c).token.classChar? = some c := by
  unfold charWord
  split_ifs <;> rfl

theorem spells_charWord (extended : Bool) (c : Char) (next : Option Char) :
    Spells extended .outside (charWord c).text next (charWord c).token .outside := by
  unfold charWord
  split_ifs with hmeta hdigit
  · exact .escape (.single hmeta)
  · exact .digit hdigit
  · exact .char (fun hmem => absurd hmem hmeta) (by simpa using hdigit)

theorem lexes_charWord (extended : Bool) (text : List Char) :
    Lexes extended .outside (text.map charWord) := by
  induction text with
  | nil => exact .nil
  | cons c text ih => exact .cons (spells_charWord extended c _) ih

end Lexer

namespace Grammar

theorem derives_literals (flags : Flags) (g : Groups) (text : List Char) (rest : List Token) :
    Derives flags g (text.map fun c => (Lexer.charWord c).token) rest
      (.pieces (text.map .literal)) g := by
  induction text with
  | nil => exact .noPieces
  | cons c text ih => exact .pieces (.bare (.literal (Lexer.classChar_charWord c))) ih

end Grammar

theorem parsePattern_escapedText {flags : Flags} (hstrip : flags.stripWhitespace = false)
    (text : List Char) :
    parsePattern flags (String.ofList (escapedText text)) = .ok (.ofText text) := by
  have hitems : patternItems flags (String.ofList (escapedText text)) =
      Parser.items (Lexer.lexemesAt .origin (text.map Lexer.charWord)) := by
    apply Lexer.patternItems_of_lexes (Lexer.lexes_charWord flags.extended text) hstrip
    rw [String.toList_ofList, Lexer.textOf_charWord]
  rw [parsePattern_eq, hitems]
  apply parseItems_ok_iff_sentence.2
  rw [Lexer.tokens_lexemesAt, List.map_map]
  exact ⟨[text.map .literal], {}, (Grammar.derives_literals flags {} text []).branch, rfl⟩

/-! ## What the host reads -/

namespace Host

/-- A node for each character of a text. -/
def textNodes (ignoreCase : Bool) (text : List Char) : List Node :=
  text.map fun c => .set (variants ignoreCase (.single c))

namespace Reader

theorem adds_literals (ignoreCase : Bool) (text : List Char) :
    Adds (Expr.hostRow ignoreCase (text.map .literal)) 0 0 (textNodes ignoreCase text) := by
  induction text with
  | nil => exact .nil 0
  | cons c text ih =>
      rw [List.map_cons, Expr.hostRow, Expr.hostText]
      exact (addsAtom_literalText ignoreCase c 0).adds.append ih

theorem isOperator_escaped {c : Char} (h : isOperator c = true) :
    escaped? c = some c ∧ decimalDigit? c = none ∧ c ≠ 'x' := by
  simp only [isOperator, List.contains_eq_mem, List.mem_cons, List.not_mem_nil, or_false,
    decide_eq_true_eq] at h
  rcases h with rfl | rfl | rfl | rfl | rfl | rfl | rfl | rfl | rfl | rfl | rfl | rfl | rfl | rfl |
    rfl | rfl | rfl | rfl <;> decide

theorem isOperator_of_mem : ∀ c ∈ operatorChars, isOperator c = true :=
  Lexer.forall_mem_of_all (by decide)

theorem reads_escapedChar {st : State} (hmode : st.mode = .text) (c : Char) :
    Reads st (if isOperator c then ['\\', c] else [c]) (st.addChar c) := by
  split_ifs with hc
  · obtain ⟨hescaped, hdigit, hx⟩ := isOperator_escaped hc
    have hbackslash : step st '\\' = some { st with mode := .escape } := by
      rw [step, hmode]
      rfl
    refine .cons hbackslash (.single ?_)
    simp only [step, hx, if_false, hdigit, hescaped]
    rfl
  · apply Reads.single
    rw [step, hmode]
    apply text_plain
    exact fun hmem => hc (isOperator_of_mem c hmem)

theorem reads_escapeText {st : State} (hmode : st.mode = .text) (text : List Char) :
    ∃ before, Reads st (escapeText text)
      (st.adding (textNodes st.scope.ignoreCase text) before st.count) := by
  induction text generalizing st with
  | nil =>
      have hadding : st.adding [] st.level.before st.count = st := by
        obtain ⟨mode, level, openGroups, count, scope⟩ := st
        cases hmode
        rfl
      refine ⟨st.level.before, ?_⟩
      rw [textNodes, List.map_nil, hadding]
      exact .nil st
  | cons c text ih =>
      obtain ⟨before, hrest⟩ := @ih (st.addChar c) rfl
      have hadding : (st.addChar c).adding (textNodes st.scope.ignoreCase text) before st.count =
          st.adding (textNodes st.scope.ignoreCase (c :: text)) before st.count :=
        adding_adding [_] _ _ _
      refine ⟨before, ?_⟩
      rw [← hadding, escapeText, List.flatMap_cons]
      exact (reads_escapedChar hmode c).append hrest

end Reader

theorem read_literals (ignoreCase : Bool) (text : List Char) {scope : Reader.Scope}
    (hscope : scope.ignoreCase = false) :
    read scope ((Expr.ofText text).hostText ignoreCase) =
      some (.ofItems (textNodes ignoreCase text), 0) := by
  rw [Expr.ofText, Expr.hostText_ofPieces]
  exact read_of_addsBranches (Reader.adds_literals ignoreCase text).branch hscope

theorem read_escapeText (scope : Reader.Scope) (text : List Char) :
    read scope (escapeText text) = some (.ofItems (textNodes scope.ignoreCase text), 0) := by
  obtain ⟨before, hread⟩ := @Reader.reads_escapeText { scope } rfl text
  rw [read, hread]
  simp [Reader.finish, Reader.State.adding, Reader.Level.close, Reader.Level.currentBranch,
    Node.ofBranches]

/-! ## Plans -/

section

variable (ignoreCase : Bool) (text : List Char)

theorem size_textNodes : (Node.ofItems (textNodes ignoreCase text)).size = 1 := by
  have hlargest (text : List Char) : Node.largest (textNodes ignoreCase text) = 1 := by
    induction text with
    | nil => rfl
    | cons c text ih => exact (congrArg (Nat.max 1) ih).trans rfl
  rcases text with _ | ⟨c, _ | ⟨d, text⟩⟩
  · exact hlargest []
  · rfl
  · exact hlargest (c :: d :: text)

theorem references_textNodes : (Node.ofItems (textNodes ignoreCase text)).references = [] := by
  have hall (text : List Char) : Node.referencesOfAll (textNodes ignoreCase text) = [] := by
    induction text with
    | nil => rfl
    | cons c text ih => exact ih
  rcases text with _ | ⟨c, _ | ⟨d, text⟩⟩
  · exact hall []
  · rfl
  · exact hall (c :: d :: text)

theorem isBound_textNodes : (Node.ofItems (textNodes ignoreCase text)).isBound [] = false := by
  have hany (text : List Char) : Node.isAnyBound [] (textNodes ignoreCase text) = false := by
    induction text with
    | nil => rfl
    | cons c text ih => exact ih
  rcases text with _ | ⟨c, _ | ⟨d, text⟩⟩
  · exact hany []
  · rfl
  · exact hany (c :: d :: text)

/-- The whole of a text is left to one automaton. -/
theorem plan?_textNodes : (Node.ofItems (textNodes ignoreCase text)).plan? [] true =
    some (.automatic (.ofNode (.ofItems (textNodes ignoreCase text)))) := by
  rw [Node.plan?.eq_def, isBound_textNodes]
  simp [Node.automatic?, size_textNodes, Node.sizeLimit]

end

end Host

/-! ## The two ways -/

/-- What is built of a compiled pattern that the host reads as a row of characters. -/
def Regex.ofText (c : Compiled) (ignoreCase : Bool) (text : List Char) : Regex :=
  let node := Host.Node.ofItems (Host.textNodes ignoreCase text)
  ⟨c, .automatic (.ofNode node), node.groups.foldl Nat.max 0⟩

theorem Regex.ofCompiled_of_read {c : Compiled} {ignoreCase : Bool} {text : List Char}
    (h : Host.read (hostScope c) (hostPattern c) =
      some (.ofItems (Host.textNodes ignoreCase text), 0)) :
    ofCompiled c = .ok (.ofText c ignoreCase text) := by
  have hnode : ofNode? c (.ofItems (Host.textNodes ignoreCase text)) 0 =
      some (.ofText c ignoreCase text) := by
    rw [ofNode?, Host.references_textNodes, Host.plan?_textNodes]
    rfl
  simp only [ofCompiled, h, hnode]

section

variable {modifiers : String} {extended : Bool} {flags : Flags}

theorem parse_eq (hflags : Flags.ofModifiers modifiers extended = .ok flags) (pattern : String) :
    parse pattern modifiers extended = parseWith flags pattern := by
  rw [parse, hflags]
  rfl

theorem build_eq (hflags : Flags.ofModifiers modifiers extended = .ok flags) (pattern : String) :
    Regex.build pattern modifiers extended =
      (compileWith flags pattern).bind Regex.ofCompiled := by
  rw [Regex.build, compile, hflags]
  rfl

theorem build_escapedText (hflags : Flags.ofModifiers modifiers extended = .ok flags)
    (hliteral : flags.literal = false) (hstrip : flags.stripWhitespace = false) (text : String) :
    ∃ c, Regex.build (String.ofList (escapedText text.toList)) modifiers extended =
      .ok (.ofText c flags.caseInsensitive text.toList) := by
  let e : Expr := .ofText text.toList
  let c : Compiled := ⟨String.ofList (e.hostText flags.caseInsensitive), flags⟩
  have hcompile : compileWith flags (String.ofList (escapedText text.toList)) = .ok c := by
    rw [compileWith, if_neg (by simp [hliteral]), parsePattern_escapedText hstrip]
    rfl
  obtain ⟨hpattern, hscope⟩ := @Regex.hostPattern_grammar c hliteral
  refine ⟨c, ?_⟩
  rw [build_eq hflags, hcompile]
  apply Regex.ofCompiled_of_read
  rw [hpattern, String.toList_ofList]
  exact Host.read_literals flags.caseInsensitive text.toList hscope

theorem build_literal (hflags : Flags.ofModifiers modifiers extended = .ok flags)
    (hliteral : flags.literal = true) (text : String) :
    ∃ c, Regex.build text modifiers extended =
      .ok (.ofText c flags.caseInsensitive text.toList) := by
  let c : Compiled := ⟨text, flags⟩
  have hcompile : compileWith flags text = .ok c := by rw [compileWith, if_pos hliteral]
  obtain ⟨hpattern, hcase⟩ := @Regex.hostPattern_literal c hliteral
  refine ⟨c, ?_⟩
  rw [build_eq hflags, hcompile]
  apply Regex.ofCompiled_of_read
  rw [hpattern, Host.read_escapeText, hcase]

end

/-- Literal mode and the escaped text, in either dialect, give the same expression and the same
matches. -/
theorem literal_agrees (text modifiers : String) (extended : Bool)
    (h : ∀ c ∈ modifiers.toList, c ∈ ['i', 'm', 's']) :
    let escaped := String.ofList (escapedText text.toList)
    parse escaped modifiers extended = .ok (.ofText text.toList) ∧
      parse text ("q" ++ modifiers) true = .ok (.ofText text.toList) ∧
      ∃ r r', Regex.build escaped modifiers extended = .ok r ∧
        Regex.build text ("q" ++ modifiers) true = .ok r' ∧
        ∀ input, r.isMatch input = r'.isMatch input ∧ r.find input = r'.find input ∧
          r.captures input = r'.captures input := by
  intro escaped
  have htoList : ("q" ++ modifiers).toList = 'q' :: modifiers.toList := by simp
  have hnot (c : Char) (hc : c ∉ ['i', 'm', 's']) : c ∉ modifiers.toList := mt (h c) hc
  have hknown : ∀ c ∈ modifiers.toList, c ∈ ['i', 'm', 's', 'x'] := fun c hc =>
    List.mem_append_left ['x'] (h c hc)
  have hflags : Flags.ofModifiers modifiers extended =
      .ok (Flags.having { extended } modifiers.toList) :=
    Flags.foldlM_add_ok fun c hc => .inl (hknown c hc)
  have hflags' : Flags.ofModifiers ("q" ++ modifiers) true =
      .ok (Flags.having { extended := true } ('q' :: modifiers.toList)) := by
    rw [Flags.ofModifiers, htoList]
    apply Flags.foldlM_add_ok
    intro c hc
    rcases List.mem_cons.1 hc with rfl | hc
    · exact .inr ⟨rfl, rfl⟩
    · exact .inl (hknown c hc)
  have hgrammar : (Flags.having { extended } modifiers.toList).literal = false := by
    simp [Flags.having, hnot 'q' (by decide)]
  have hstrip : (Flags.having { extended } modifiers.toList).stripWhitespace = false := by
    simp [Flags.having, hnot 'x' (by decide)]
  obtain ⟨c, hbuild⟩ := build_escapedText hflags hgrammar hstrip text
  obtain ⟨c', hbuild'⟩ := build_literal hflags' (by simp [Flags.having]) text
  -- The two differ in the compiled pattern that they keep, which the searches do not look at.
  refine ⟨?_, ?_, _, _, hbuild, hbuild', fun input => ?_⟩
  · rw [parse_eq hflags, parseWith, if_neg (by simp [hgrammar])]
    exact parsePattern_escapedText hstrip text.toList
  · rw [parse_eq hflags', parseWith, if_pos (by simp [Flags.having])]
  · have hcase : (Flags.having { extended := true } ('q' :: modifiers.toList)).caseInsensitive =
        (Flags.having { extended } modifiers.toList).caseInsensitive := by
      simp [Flags.having]
    rw [hcase]
    exact ⟨rfl, rfl, rfl⟩

theorem literal_agrees_operators :
    ∃ r r', Regex.build "a\\.\\\\1" "i" false = .ok r ∧
      Regex.build "a.\\1" "qi" true = .ok r' ∧
      ∀ input, r.isMatch input = r'.isMatch input ∧ r.find input = r'.find input ∧
        r.captures input = r'.captures input := by
  obtain ⟨-, -, r, r', hr, hr', hsame⟩ := literal_agrees "a.\\1" "i" false (by simp)
  have hescaped : String.ofList (escapedText "a.\\1".toList) = "a\\.\\\\1" := by decide
  rw [hescaped] at hr
  exact ⟨r, r', hr, hr', hsame⟩

end SchemaPattern
