import SchemaPattern.Compile
import SchemaPattern.Proofs.HostText
import SchemaPattern.Proofs.Lexer.Shifted
import SchemaPattern.Proofs.Lexer.Words
import SchemaPattern.Proofs.Parser.Append
import SchemaPattern.Proofs.Parser.Likeness

/-!
# Patterns one after the other

A pattern behind an accepted one is read as it would be alone, so the host patterns are put one
behind the other as well, and a fault is the same one, as many characters later.  An accepted
pattern can be put in a group that does not capture.
-/

namespace SchemaPattern

/-! ## Host texts -/

namespace Expr

theorem hostRow_append (ignoreCase : Bool) (es fs : List Expr) :
    hostRow ignoreCase (es ++ fs) = hostRow ignoreCase es ++ hostRow ignoreCase fs := by
  induction es with
  | nil => rw [List.nil_append, hostRow, List.nil_append]
  | cons e es ih => rw [List.cons_append, hostRow, ih, hostRow, List.append_assoc]

theorem hostBranches_of_ne_nil (ignoreCase : Bool) (e : Expr) {es : List Expr} (h : es ≠ []) :
    hostBranches ignoreCase (e :: es) =
      e.hostText ignoreCase ++ '|' :: hostBranches ignoreCase es := by
  cases es with
  | nil => exact absurd rfl h
  | cons f es => rw [hostBranches]; simp

theorem hostBranches_append (ignoreCase : Bool) (before after es fs : List Expr) :
    hostBranches ignoreCase (before ++ .ofPieces (es ++ fs) :: after) =
      hostBranches ignoreCase (before ++ [.ofPieces es]) ++
        hostBranches ignoreCase (.ofPieces fs :: after) := by
  induction before with
  | nil =>
      cases after with
      | nil => simp only [List.nil_append, hostBranches, hostText_ofPieces, hostRow_append]
      | cons e after =>
          rw [List.nil_append, List.nil_append, hostBranches_of_ne_nil _ _ (List.cons_ne_nil _ _),
            hostBranches_of_ne_nil _ _ (List.cons_ne_nil _ _), hostBranches, hostText_ofPieces,
            hostText_ofPieces, hostText_ofPieces, hostRow_append, List.append_assoc]
  | cons e before ih =>
      rw [List.cons_append, List.cons_append, hostBranches_of_ne_nil _ _ (by simp),
        hostBranches_of_ne_nil _ _ (by simp), ih, List.append_assoc, List.cons_append]

end Expr

namespace Parser

theorem Level.Continues.hostText {base level level' : Level} (ignoreCase : Bool)
    (h : base.Continues level level') :
    level'.close.hostText ignoreCase =
      base.close.hostText ignoreCase ++ level.close.hostText ignoreCase := by
  have happend := Expr.hostBranches_append ignoreCase base.branches.reverse
  cases h with
  | first pieces =>
      simpa [close, currentBranch, Expr.hostText_ofBranches] using
        happend [] base.pieces.reverse pieces.reverse
  | later first branches pieces =>
      simpa [close, currentBranch, Expr.hostText_ofBranches] using
        happend (branches.reverse ++ [.ofPieces pieces.reverse]) base.pieces.reverse first

/-- Places that are a number of characters apart. -/
def shifting (d : Nat) : Placing where
  range a b := a.Shifted d b ∧ 0 < a.length
  report a b := a.Shifted d b
  report_range h := h.1
  report_end {st st'} h := by
    obtain ⟨hshifted, hpos⟩ := h
    have hpos' : 0 < st'.last.length := by rwa [hshifted.2]
    rw [State.endPlace, State.endPlace, if_neg (by omega), if_neg (by omega)]
    exact hshifted.after
  report_join h h' := h.1.join h'.1

end Parser

namespace Lexer

theorem items_alike {k : Parser.Likeness} {d : Nat} (hplacing : k.placing = Parser.shifting d)
    {its its' : List Item} (h : List.Forall₂ (Item.Shifted d) its its')
    (href : ∀ item ∈ its, ∀ n range, item ≠ .lexeme ⟨.backReference n, range⟩) :
    List.Forall₂ k.Items its its' := by
  induction h with
  | nil => exact .nil
  | cons hitem hrest ih =>
      refine .cons ?_ (ih fun item hmem => href item (.tail _ hmem))
      cases hitem with
      | lexeme t hshifted hpos =>
          refine .lexeme t _ _ (hplacing ▸ ⟨hshifted, hpos⟩) fun n ht => ?_
          exact absurd (by rw [ht]) (href _ (.head _) n _)
      | fault cause hshifted => exact .fault cause _ _ (hplacing ▸ hshifted)

/-- A text that begins with no quantifier and no digit has no such token at its beginning. -/
theorem Spells.head {extended : Bool} {text : List Char} {next : Option Char} {t : Token}
    {after : Context} (h : Spells extended .outside text next t after)
    (hhead : ∀ c ∈ text.head?, c ∉ ['?', '*', '+', '{'] ∧ c.isDigit = false) :
    ¬ t.StartsQuantifier ∧ ∀ d, t ≠ .digit d := by
  cases h with
  | operator hmem =>
      simp only [operators, List.mem_cons, Prod.mk.injEq, List.not_mem_nil, or_false] at hmem
      rcases hmem with ⟨rfl, rfl⟩ | ⟨rfl, rfl⟩ | ⟨rfl, rfl⟩ | ⟨rfl, rfl⟩ | ⟨rfl, rfl⟩ | ⟨rfl, rfl⟩ |
        ⟨rfl, rfl⟩ | ⟨rfl, rfl⟩ <;> simp_all [Token.StartsQuantifier]
  | escape h => cases h <;> simp [Token.StartsQuantifier]
  | digit hdigit => simp_all
  | quantifierOpen => simp at hhead
  | _ => simp [Token.StartsQuantifier]

theorem head_of_itemsFrom {flags : Flags} {text : List Char} {place : Location}
    (hstrip : flags.stripWhitespace = false)
    (hhead : ∀ c ∈ text.head?, c ∉ ['?', '*', '+', '{'] ∧ c.isDigit = false) {t : Token}
    {range : Location} (last : Option Location)
    (h : (itemsFrom flags { last } (placed place text)).head? = some (.lexeme ⟨t, range⟩)) :
    ¬ t.StartsQuantifier ∧ ∀ d, t ≠ .digit d := by
  cases text with
  | nil =>
      rw [itemsFrom_stop rfl] at h
      cases h
  | cons c text =>
      have hskip : ∀ c, ¬ Skipped flags .outside c := by simp [Skipped, hstrip]
      rcases @spellsFirst_or_fault flags { last } place text c rfl (hskip c) with
        ⟨first, rest, u, after, heq, hspells⟩ | ⟨f, hf⟩
      · obtain ⟨last', htakes⟩ := @takesToken_of_spells flags { last } place first rest u _ _ _
          hspells rfl rfl rfl fun c _ => hskip c
        rw [heq, htakes] at h
        cases h
        apply hspells.head
        obtain ⟨a, first, rfl⟩ := List.exists_cons_of_ne_nil hspells.ne_nil
        rwa [heq] at hhead
      · rw [hf] at h
        cases h

end Lexer

/-! ## Parsing -/

section

variable {flags : Flags} {p q : String} {e : Expr}

/-- An accepted pattern is a row of words. -/
theorem lexes_of_parsePattern (hstrip : flags.stripWhitespace = false)
    (h : parsePattern flags p = .ok e) :
    ∃ words, p.toList = Lexer.textOf words ∧ Lexer.Lexes flags.extended .outside words ∧
      Parser.run flags {} (Parser.items (Lexer.lexemesAt .origin words)) = .ok e := by
  rw [parsePattern_eq] at h
  obtain ⟨ls, hitems, -⟩ := Parser.sentence_of_run h
  obtain ⟨words, hwords, rfl, hlexes⟩ :=
    Lexer.lexes_of_itemsFrom hstrip ((patternItems_eq flags p).symm.trans hitems)
  rw [parseItems, hitems] at h
  exact ⟨words, hwords, hlexes, h⟩

/-- The two outcomes of a pattern, alone and behind an accepted one. -/
theorem outcomes_append (hstrip : flags.stripWhitespace = false)
    (hp : parsePattern flags p = .ok e)
    (hreference : ∀ d, d.isDigit = true → ¬ ['\\', d] <:+: q.toList)
    (hhead : ∀ c ∈ q.toList.head?, c ∉ ['?', '*', '+', '{'] ∧ c.isDigit = false) :
    ∃ level, level.close = e ∧
      Parser.Likeness.Outcomes ⟨Parser.shifting p.length, False, level⟩
        (parsePattern flags q) (parsePattern flags (p ++ q)) := by
  obtain ⟨words, hwords, hlexes, hrun⟩ := lexes_of_parsePattern hstrip hp
  have hhead' : ∀ c ∈ q.toList.head?, c ≠ '?' ∧ c.isDigit = false := by
    intro c hc
    have hnot := hhead c hc
    simp_all
  obtain ⟨last', hitems⟩ := @Lexer.itemsFrom_of_lexes flags .outside words .origin none hlexes hstrip
    q.toList hhead'
  let alone := Lexer.itemsFrom flags {} (placed .origin q.toList)
  let behind :=
    Lexer.itemsFrom flags { last := last' } (placed (Location.origin.past p.toList) q.toList)
  have hpast : Location.origin.Shifted p.length (Location.origin.past p.toList) := by
    constructor
    · rw [Lexer.index_past, String.length_toList]
    · exact Lexer.length_past rfl _
  have hshifted : List.Forall₂ (Lexer.Item.Shifted p.length) alone behind :=
    Lexer.itemsFrom_shifted ⟨rfl, .ready, .inl (.inr ⟨rfl, .inl rfl⟩)⟩
      (Lexer.placed_shifted hpast _)
  have hfirst : ∀ item ∈ behind.head?, ∀ t range, item = .lexeme ⟨t, range⟩ →
      ¬ t.StartsQuantifier ∧ ∀ d, t ≠ .digit d := by
    rintro item hitem t range rfl
    exact Lexer.head_of_itemsFrom hstrip hhead last' hitem
  obtain ⟨level, groups, last, hclose, hbehind⟩ := Parser.run_append hrun hfirst
  let k : Parser.Likeness := ⟨Parser.shifting p.length, False, level⟩
  let before : Location := ⟨0, 0, 0, 1⟩
  let after : Location := ⟨p.length, 0, 0, 1⟩
  have hstates : k.States { last := before } { level, groups, last := after } :=
    ⟨.branch, .outermost (.first []), False.elim, ⟨(Nat.zero_add _).symm, rfl⟩, Nat.one_pos⟩
  have halike : List.Forall₂ k.Items alone behind := by
    apply Lexer.items_alike rfl hshifted
    apply Lexer.no_reference
    rwa [map_char_placed]
  have hq : parsePattern flags q = Parser.run flags { last := before } alone := by
    rw [parsePattern_eq, patternItems_eq]
    exact Parser.run_last _ _ _
  have hpq : parsePattern flags (p ++ q) =
      Parser.run flags { level, groups, last := after } behind := by
    rw [parsePattern_eq, patternItems_eq, String.toList_append, hwords, hitems, parseItems, ← hwords,
      hbehind]
    exact Parser.run_last _ _ _
  rw [hq, hpq]
  exact ⟨level, hclose, Parser.Likeness.run_alike rfl rfl hstates halike⟩

/-- An accepted pattern in a group that does not capture. -/
theorem parsePattern_group (hstrip : flags.stripWhitespace = false)
    (hextended : flags.extended = true) (hp : parsePattern flags p = .ok e) :
    parsePattern flags ("(?:" ++ p ++ ")") = .ok (.group false e) := by
  obtain ⟨words, hwords, hlexes, hrun⟩ := lexes_of_parsePattern hstrip hp
  obtain ⟨ls, hls, bs, g, hderives, rfl⟩ := Parser.sentence_of_run hrun
  obtain rfl := List.map_injective_iff.2 (fun _ _ => Lexer.Item.lexeme.inj) hls
  rw [Lexer.tokens_lexemesAt] at hderives
  let opening : Lexer.Word := ⟨['(', '?', ':'], .nonCapturingGroupOpen⟩
  let closing : Lexer.Word := ⟨[')'], .groupClose⟩
  have hclosing : Lexer.Lexes flags.extended .outside [closing] :=
    .cons (.operator (by decide)) .nil
  have hlexes' : Lexer.Lexes flags.extended .outside (opening :: (words ++ [closing])) :=
    .cons (.nonCapturing hextended) (hlexes.append hclosing (by simp [closing, Lexer.textOf]))
  have htext : ("(?:" ++ p ++ ")").toList = Lexer.textOf (opening :: (words ++ [closing])) := by
    simp [opening, closing, String.toList_append, hwords, Lexer.textOf]
  have hgroup : Grammar.Derives flags {} (.nonCapturingGroupOpen :: words.map Lexer.Word.token ++
      [.groupClose]) [] (.atom (.group false (Grammar.expression bs))) g :=
    .nonCapturing (hderives.behind (.inr (by simp)))
  have hpieces : Grammar.Derives flags {} (.nonCapturingGroupOpen :: words.map Lexer.Word.token ++
      [.groupClose] ++ []) [] (.pieces [.group false (Grammar.expression bs)]) g :=
    .pieces hgroup.bare .noPieces
  rw [parsePattern_eq, Lexer.patternItems_of_lexes hlexes' hstrip htext]
  apply parseItems_ok_iff_sentence.2
  refine ⟨[[.group false (Grammar.expression bs)]], g, ?_, rfl⟩
  rw [Lexer.tokens_lexemesAt]
  simpa [opening, closing] using hpieces.branch

end

/-! ## Compiling -/

/-- What can stand behind a pattern and does not add to its last piece, nor refers to groups. -/
structure Separate (q : String) : Prop where
  reference : ∀ d, d.isDigit = true → ¬ ['\\', d] <:+: q.toList
  head : ∀ c ∈ q.toList.head?, c ∉ ['?', '*', '+', '{'] ∧ c.isDigit = false

/-- The same fault, a number of characters later. -/
structure Fault.Later (d : Nat) (f f' : Fault) : Prop where
  kind : f'.report.kind = f.report.kind
  message : f'.report.message = f.report.message
  location : ∃ l l', f.report.location = some l ∧ f'.report.location = some l' ∧
    l'.index = l.index + d ∧ l'.length = l.length

theorem compileWith_ok_iff {flags : Flags} (hliteral : flags.literal = false) {p : String}
    {c : Compiled} : compileWith flags p = .ok c ↔
      ∃ e, parsePattern flags p = .ok e ∧
        c = ⟨String.ofList (e.hostText flags.caseInsensitive), flags⟩ := by
  rw [compileWith, if_neg (by simp [hliteral])]
  cases parsePattern flags p with
  | error f => simp [Except.map]
  | ok e => simp [Except.map, eq_comm]

theorem compileWith_error_iff {flags : Flags} (hliteral : flags.literal = false) {p : String}
    {f : Fault} : compileWith flags p = .error f ↔ parsePattern flags p = .error f := by
  rw [compileWith, if_neg (by simp [hliteral])]
  cases parsePattern flags p <;> simp [Except.map]

/-- Behind an accepted pattern another one is compiled as it is alone, and a fault in it is the
same, as many characters later.  An accepted pattern can be put in a group. -/
theorem compile_append (flags : Flags) (hstrip : flags.stripWhitespace = false)
    (hliteral : flags.literal = false) :
    (∀ (p q : String) (c : Compiled), compileWith flags p = .ok c → Separate q →
      (∀ c', compileWith flags q = .ok c' →
        compileWith flags (p ++ q) = .ok ⟨c.pattern ++ c'.pattern, flags⟩) ∧
      ∀ f, compileWith flags q = .error f →
        ∃ f', compileWith flags (p ++ q) = .error f' ∧ f.Later p.length f') ∧
    (flags.extended = true → ∀ (p : String) (c : Compiled), compileWith flags p = .ok c →
      compileWith flags ("(?:" ++ p ++ ")") = .ok ⟨"(?:" ++ c.pattern ++ ")", flags⟩) := by
  constructor
  · intro p q c hp hq
    obtain ⟨e, hparse, rfl⟩ := (compileWith_ok_iff hliteral).1 hp
    obtain ⟨level, rfl, houtcomes⟩ := outcomes_append hstrip hparse hq.reference hq.head
    constructor
    · intro c' hc'
      obtain ⟨e', hparse', rfl⟩ := (compileWith_ok_iff hliteral).1 hc'
      rw [hparse'] at houtcomes
      generalize hboth : parsePattern flags (p ++ q) = outcome at houtcomes
      cases houtcomes with
      | ok hcontinues =>
          refine (compileWith_ok_iff hliteral).2 ⟨_, hboth, ?_⟩
          rw [hcontinues.hostText, String.ofList_append]
    · intro f hf
      rw [(compileWith_error_iff hliteral).1 hf] at houtcomes
      generalize hboth : parsePattern flags (p ++ q) = outcome at houtcomes
      cases houtcomes with
      | error hfaults =>
          obtain ⟨hkind, hmessage, l, l', hl, hl', hindex, hlength⟩ := hfaults
          refine ⟨_, (compileWith_error_iff hliteral).2 hboth, hkind, hmessage, l, l', ?_, ?_, hindex,
            hlength⟩
          · simp [Report.location, Fault.report, hl]
          · simp [Report.location, Fault.report, hl']
  · intro hextended p c hp
    obtain ⟨e, hparse, rfl⟩ := (compileWith_ok_iff hliteral).1 hp
    refine (compileWith_ok_iff hliteral).2 ⟨_, parsePattern_group hstrip hextended hparse, ?_⟩
    have hclose : [')'] = ")".toList := by simp
    rw [Expr.hostText, String.ofList_append, String.ofList_append, hclose, String.ofList_toList,
      String.ofList_toList]

/-- A reference, behind it a branch of its own or an unfinished class, and the group around it. -/
theorem compile_append_reference :
    let flags : Flags := { extended := true }
    let referring : Compiled := ⟨"(a)(?:\\1)", flags⟩
    compileWith flags "(a)\\1" = .ok referring ∧ Separate "|b" ∧ Separate "[c" ∧
      compileWith flags ("(a)\\1" ++ "|b") = .ok ⟨referring.pattern ++ "|b", flags⟩ ∧
      (∃ f, compileWith flags ("(a)\\1" ++ "[c") = .error f ∧
        (Fault.lexical ⟨.unclosedClass, .position 2 0 2⟩).Later 5 f) ∧
      compileWith flags ("(?:" ++ "(a)\\1" ++ ")") =
        .ok ⟨"(?:" ++ referring.pattern ++ ")", flags⟩ := by
  intro flags referring
  have hreferring : compileWith flags "(a)\\1" = .ok referring := by
    refine (compileWith_ok_iff rfl).2
      ⟨.branch [.group true (.literal 'a'), .backReference 1], ?_, by decide +kernel⟩
    have hitems : patternItems flags "(a)\\1" = Parser.items
        [⟨.groupOpen, ⟨0, 0, 0, 1⟩⟩, ⟨.char 'a', ⟨1, 0, 1, 1⟩⟩, ⟨.groupClose, ⟨2, 0, 2, 1⟩⟩,
          ⟨.backReference 1, ⟨3, 0, 3, 2⟩⟩] := @patternItems_of_within 20 _ _ _ rfl
    exact @parsePattern_of_within 30 _ _ _ _ hitems rfl
  have hbranch : compileWith flags "|b" = .ok ⟨"|b", flags⟩ := by
    refine (compileWith_ok_iff rfl).2
      ⟨.disjunction [.branch [], .literal 'b'], ?_, by decide +kernel⟩
    have hitems : patternItems flags "|b" = Parser.items
        [⟨.alternation, ⟨0, 0, 0, 1⟩⟩, ⟨.char 'b', ⟨1, 0, 1, 1⟩⟩] :=
      @patternItems_of_within 20 _ _ _ rfl
    exact @parsePattern_of_within 30 _ _ _ _ hitems rfl
  have hclass : compileWith flags "[c" =
      .error (.lexical ⟨.unclosedClass, .position 2 0 2⟩) := by
    apply (compileWith_error_iff rfl).2
    have hitems : patternItems flags "[c" =
        [.lexeme ⟨.classOpen, ⟨0, 0, 0, 1⟩⟩, .lexeme ⟨.char 'c', ⟨1, 0, 1, 1⟩⟩,
          .fault ⟨.unclosedClass, .position 2 0 2⟩] := @patternItems_of_within 20 _ _ _ rfl
    exact @parsePattern_of_within 30 _ _ _ _ hitems rfl
  have hseparate (q : String) (hnone : '\\' ∉ q.toList) {c : Char} (hc : q.toList.head? = some c)
      (hhead : c ∉ ['?', '*', '+', '{'] ∧ c.isDigit = false) : Separate q :=
    ⟨fun d _ hsub => hnone (hsub.subset (by simp)),
      fun d hd => Option.some.inj (hc.symm.trans hd) ▸ hhead⟩
  have hseparateBranch : Separate "|b" := hseparate _ (by decide) rfl (by decide)
  have hseparateClass : Separate "[c" := hseparate _ (by decide) rfl (by decide)
  obtain ⟨happend, hgroup⟩ := compile_append flags rfl rfl
  exact ⟨hreferring, hseparateBranch, hseparateClass,
    (happend _ _ _ hreferring hseparateBranch).1 _ hbranch,
    (happend _ _ _ hreferring hseparateClass).2 _ hclass, hgroup rfl _ _ hreferring⟩

end SchemaPattern
