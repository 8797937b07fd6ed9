import SchemaPattern.Proofs.Bounded
import SchemaPattern.Proofs.Flags
import SchemaPattern.Proofs.GroupMarks
import SchemaPattern.Proofs.Host.Atoms
import SchemaPattern.Proofs.Host.Image
import SchemaPattern.Proofs.Parser.Escapes
import SchemaPattern.Regex

/-!
# Patterns reach the host unchanged

What the host reads from the text of a parsed pattern is the image of the expression.  The proof
follows the derivation of the expression: the text of each phrase adds the images of its parts.
-/

namespace SchemaPattern

open Host Host.Reader

namespace Expr

theorem hostText_ofPieces (ignoreCase : Bool) (es : List Expr) :
    (ofPieces es).hostText ignoreCase = hostRow ignoreCase es := by
  unfold ofPieces
  split
  · rw [hostRow, hostRow, List.append_nil]
  · rw [hostText]

theorem hostText_ofBranches (ignoreCase : Bool) (es : List Expr) :
    (ofBranches es).hostText ignoreCase = hostBranches ignoreCase es := by
  unfold ofBranches
  split
  · rw [hostBranches]
  · rw [hostText]

end Expr

namespace Grammar

theorem hostBranches_cons (ignoreCase : Bool) (es : List Expr) {bs : List (List Expr)}
    (h : bs ≠ []) :
    Expr.hostBranches ignoreCase ((es :: bs).map .ofPieces) =
      Expr.hostRow ignoreCase es ++ '|' :: Expr.hostBranches ignoreCase (bs.map .ofPieces) := by
  cases bs with
  | nil => exact absurd rfl h
  | cons fs bs =>
      rw [List.map_cons, List.map_cons, Expr.hostBranches, Expr.hostText_ofPieces]
      simp

/-! ## Groups that references name -/

def Groups.Positive (g : Groups) : Prop := ∀ k ∈ g.closed, 0 < k

theorem positive_of_derives {flags : Flags} {g g' : Groups} {ts rest : List Token} {phrase : Phrase}
    (h : Derives flags g ts rest phrase g') (hg : g.Positive) : g'.Positive := by
  intro k hk
  rcases (numbered_of_derives h).closed k hk with hk | hk
  · exact hg k hk
  · obtain ⟨before, inside, after, -, -, rfl⟩ := hk
    exact Nat.succ_pos _

/-! ## Phrases -/

/-- The text of the phrase adds its images, of which the capturing groups are counted from `n` to
`m`. -/
def Phrase.Imaged (ignoreCase : Bool) (n m : Nat) : Phrase → Prop
  | .atom e => ∃ node, Image ignoreCase n e node m ∧ AddsAtom (e.hostText ignoreCase) n m node
  | .piece e => ∃ node, Image ignoreCase n e node m ∧ Adds (e.hostText ignoreCase) n m [node]
  | .pieces es => ∃ nodes, Images ignoreCase n es nodes m ∧
      Adds (Expr.hostRow ignoreCase es) n m nodes
  | .branches bs => ∃ nodes, Images ignoreCase n (bs.map .ofPieces) nodes m ∧
      AddsBranches (Expr.hostBranches ignoreCase (bs.map .ofPieces)) n m nodes

theorem imaged_of_derives {flags : Flags} {g g' : Groups} {ts rest : List Token} {phrase : Phrase}
    (ignoreCase : Bool) (h : Derives flags g ts rest phrase g') (hg : g.Positive) :
    phrase.Imaged ignoreCase g.opened g'.opened := by
  -- The grammar counts groups as the host does, so the counts of a phrase are those of its image.
  induction h with
  | literal hc =>
      refine ⟨_, .literal _ ?_, addsAtom_literalText ignoreCase _ _⟩
      refine (normal_variants ignoreCase _).comprises fun x => ?_
      exact mem_memberSet (m := .char _)
  | escape hname hchars =>
      have hnormal := EscapeName.normal_chars hchars
      exact ⟨_, .escape _ (hnormal.comprises fun x => Iff.rfl), addsAtom_setText hnormal _⟩
  | wildcard =>
      cases flags.dotAll with
      | false =>
          exact ⟨_, .withinLine _ (normal_withinLine.comprises fun x => mem_withinLine),
            addsAtom_withinLine _⟩
      | true =>
          exact ⟨_, .anyChar _ (normal_anyChar.comprises fun x => iff_of_true mem_anyChar trivial),
            addsAtom_anyChar _⟩
  | lineStart => exact ⟨_, .border _ _ _, addsAtom_border _ _ _⟩
  | lineEnd => exact ⟨_, .border _ _ _, addsAtom_border _ _ _⟩
  | charClass h =>
      have hescapes := fun e he => (known_class h e he).normal
      exact ⟨_, .charClass _ ((normal_classSet ignoreCase _).comprises fun x => mem_classSet),
        addsAtom_classText ignoreCase hescapes _⟩
  | backReference h hclosed =>
      exact ⟨_, .backReference _ _, addsAtom_reference ignoreCase (hg _ hclosed) _⟩
  | capturing h ih =>
      obtain ⟨nodes, himages, hadds⟩ := ih hg
      refine ⟨_, .capturing himages.ofBranches, ?_⟩
      rw [Expr.hostText, expression, Expr.hostText_ofBranches]
      exact hadds.capture
  | nonCapturing h ih =>
      obtain ⟨nodes, himages, hadds⟩ := ih hg
      refine ⟨_, .nonCapturing himages.ofBranches, ?_⟩
      rw [Expr.hostText, expression, Expr.hostText_ofBranches]
      exact hadds.group
  | bare h ih =>
      obtain ⟨node, himage, hadds⟩ := ih hg
      exact ⟨node, himage, hadds.adds⟩
  | quantified h hq ih =>
      obtain ⟨node, himage, hadds⟩ := ih hg
      exact ⟨_, .piece _ himage, hadds.quantified _⟩
  | noPieces => exact ⟨[], .nil _, .nil _⟩
  | pieces h hmore ih ihmore =>
      obtain ⟨node, himage, hadds⟩ := ih hg
      obtain ⟨nodes, himages, hmoreAdds⟩ := ihmore (positive_of_derives h hg)
      exact ⟨node :: nodes, .cons himage himages, hadds.append hmoreAdds⟩
  | branch h ih =>
      obtain ⟨nodes, himages, hadds⟩ := ih hg
      refine ⟨_, .cons himages.ofPieces (.nil _), ?_⟩
      rw [List.map_singleton, Expr.hostBranches, Expr.hostText_ofPieces]
      exact hadds.branch
  | alternation h hmore ih ihmore =>
      obtain ⟨nodes, himages, hadds⟩ := ih hg
      obtain ⟨others, hothers, hmoreAdds⟩ := ihmore (positive_of_derives h hg)
      refine ⟨_, .cons himages.ofPieces hothers, ?_⟩
      rw [hostBranches_cons ignoreCase _ hmore.begins]
      exact hadds.bar hmoreAdds

theorem read_of_sentence {flags : Flags} {ts : List Token} {e : Expr} (ignoreCase : Bool)
    (h : Sentence flags ts e) :
    ∃ node, Image ignoreCase 0 e node e.captures.length ∧
      ∀ scope : Scope, scope.ignoreCase = false →
        Host.read scope (e.hostText ignoreCase) = some (node, e.captures.length) := by
  obtain ⟨bs, g, hderives, rfl⟩ := h
  have hpositive : Groups.Positive {} := fun k hk => absurd hk (Set.notMem_empty k)
  obtain ⟨nodes, himages, hadds⟩ := imaged_of_derives ignoreCase hderives hpositive
  have himage : Image ignoreCase 0 (expression bs) (.ofBranches nodes) g.opened :=
    himages.ofBranches
  have hcount : g.opened = (expression bs).captures.length := by
    rw [himage.captures.count_eq, Nat.zero_add]
  rw [← hcount]
  refine ⟨_, himage, fun scope hscope => ?_⟩
  rw [expression, Expr.hostText_ofBranches]
  exact read_of_addsBranches hadds hscope

end Grammar

/-! ## Compiled patterns -/

theorem Regex.hostPattern_grammar {c : Compiled} (h : c.flags.literal = false) :
    hostPattern c = c.pattern.toList ∧ (hostScope c).ignoreCase = false := by
  simp [hostPattern, hostScope, Compiled.isLiteral, h]

theorem Regex.hostPattern_literal {c : Compiled} (h : c.flags.literal = true) :
    hostPattern c = escapeText c.pattern.toList ∧
      (hostScope c).ignoreCase = c.flags.caseInsensitive := by
  simp [hostPattern, hostScope, Compiled.isLiteral, h]

/-- Outside of literal mode the host reads the image of the expression. -/
theorem reads_image {flags : Flags} {pattern : String} {e : Expr}
    (hliteral : flags.literal = false) (hparse : parsePattern flags pattern = .ok e) :
    ∃ c node, compileWith flags pattern = .ok c ∧
      Image flags.caseInsensitive 0 e node e.captures.length ∧
      Host.read (Regex.hostScope c) (Regex.hostPattern c) = some (node, e.captures.length) := by
  have hrun := hparse
  rw [parsePattern_eq] at hrun
  obtain ⟨ls, -, hsentence⟩ := Parser.sentence_of_run hrun
  obtain ⟨node, himage, hread⟩ := Grammar.read_of_sentence flags.caseInsensitive hsentence
  let c : Compiled := ⟨String.ofList (e.hostText flags.caseInsensitive), flags⟩
  obtain ⟨hpattern, hscope⟩ := @Regex.hostPattern_grammar c hliteral
  refine ⟨c, node, ?_, himage, ?_⟩
  · rw [compileWith, if_neg (by simp [hliteral]), hparse]
    rfl
  · rw [hpattern, String.toList_ofList]
    exact hread _ hscope

theorem parse_ok {pattern modifiers : String} {extended : Bool} {e : Expr}
    (hliteral : 'q' ∉ modifiers.toList) (h : parse pattern modifiers extended = .ok e) :
    ∃ flags, Flags.ofModifiers modifiers extended = .ok flags ∧ flags.literal = false ∧
      flags.caseInsensitive = modifiers.toList.contains 'i' ∧
      parsePattern flags pattern = .ok e := by
  unfold parse at h
  cases hflags : Flags.ofModifiers modifiers extended with
  | error f =>
      rw [hflags] at h
      cases h
  | ok flags =>
      have hset := Flags.eq_of_ofModifiers hflags
      have hnone : flags.literal = false := by
        rw [hset]
        simpa [Flags.having] using hliteral
      rw [hflags] at h
      change parseWith flags pattern = .ok e at h
      rw [parseWith, if_neg (Bool.not_eq_true _ ▸ hnone)] at h
      refine ⟨flags, rfl, hnone, ?_, h⟩
      rw [hset]
      exact Bool.false_or _

/-- Whatever other flags the host reads under, it reads the image of the expression, with the
capturing groups of the expression in their order. -/
theorem host_reads_image {pattern modifiers : String} {extended : Bool} {e : Expr}
    (hliteral : 'q' ∉ modifiers.toList) (h : parse pattern modifiers extended = .ok e) :
    ∃ c node, compile pattern modifiers extended = .ok c ∧
      Image (modifiers.toList.contains 'i') 0 e node e.captures.length ∧
      Captures (modifiers.toList.contains 'i') 0 e.captures node.captures e.captures.length ∧
      ∀ scope, scope.ignoreCase = (Regex.hostScope c).ignoreCase →
        Host.read scope (Regex.hostPattern c) = some (node, e.captures.length) := by
  obtain ⟨flags, hflags, hnone, hcase, hparse⟩ := parse_ok hliteral h
  have hrun := hparse
  rw [parsePattern_eq] at hrun
  obtain ⟨ls, -, hsentence⟩ := Parser.sentence_of_run hrun
  obtain ⟨node, himage, hread⟩ :=
    Grammar.read_of_sentence (modifiers.toList.contains 'i') hsentence
  let c : Compiled := ⟨String.ofList (e.hostText flags.caseInsensitive), flags⟩
  refine ⟨c, node, ?_, himage, himage.captures, ?_⟩
  · simp only [compile, hflags]
    change compileWith flags pattern = .ok c
    simp [compileWith, hnone, hparse, Except.map, c]
  · intro scope hscope
    have hoff : scope.ignoreCase = false := by
      rw [hscope]
      simp [Regex.hostScope, Compiled.isLiteral, hnone, c]
    have htext : Regex.hostPattern c = e.hostText (modifiers.toList.contains 'i') := by
      simp [Regex.hostPattern, Compiled.isLiteral, hnone, hcase, c]
    rw [htext]
    exact hread scope hoff

/-- A reference to the first group, and behind it a digit that is repeated. -/
theorem host_reads_image_digit :
    let e : Expr := .branch [.group true (.disjunction [.literal 'k', .branch []]),
      .backReference 1, .piece (.literal '2') { min := 1, max := none, lazy := true }]
    'q' ∉ "i".toList ∧ parse "(k|)\\12+?" "i" true = .ok e ∧
      ∃ c node, compile "(k|)\\12+?" "i" true = .ok c ∧ Image true 0 e node 1 ∧
        Captures true 0 e.captures node.captures 1 ∧
        ∀ scope, scope.ignoreCase = (Regex.hostScope c).ignoreCase →
          Host.read scope (Regex.hostPattern c) = some (node, 1) := by
  intro e
  have hliteral : 'q' ∉ "i".toList := by decide
  have hflags : Flags.ofModifiers "i" true =
      .ok { caseInsensitive := true, extended := true } := rfl
  have hitems : patternItems { caseInsensitive := true, extended := true } "(k|)\\12+?" =
      Parser.items
        [⟨.groupOpen, ⟨0, 0, 0, 1⟩⟩, ⟨.char 'k', ⟨1, 0, 1, 1⟩⟩, ⟨.alternation, ⟨2, 0, 2, 1⟩⟩,
          ⟨.groupClose, ⟨3, 0, 3, 1⟩⟩, ⟨.backReference 1, ⟨4, 0, 4, 2⟩⟩,
          ⟨.digit '2', ⟨6, 0, 6, 1⟩⟩, ⟨.oneOrMore, ⟨7, 0, 7, 1⟩⟩, ⟨.optional, ⟨8, 0, 8, 1⟩⟩] :=
    @patternItems_of_within 20 _ _ _ rfl
  have hparse : parse "(k|)\\12+?" "i" true = .ok e := by
    rw [parse, hflags]
    exact @parsePattern_of_within 30 _ _ _ _ hitems rfl
  have hread := host_reads_image hliteral hparse
  exact ⟨hliteral, hparse, hread⟩

end SchemaPattern
