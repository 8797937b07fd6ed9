import SchemaPattern.Proofs.Host.References
import SchemaPattern.Proofs.LiteralMode

/-!
# Matching without regard to case

Under case-insensitive matching, inputs that differ in the case of their characters only have matches
at the same characters.  Escapes are left out: they keep their own characters.  The engine is taken
to match references by simple case folding.
-/

namespace SchemaPattern

open Unicode Host

/-! ## Pieces in characters -/

namespace Match

/-- How many characters there are in so many bytes of a text. -/
def charsWithin : List Char → Nat → Nat
  | [], _ => 0
  | c :: rest, bytes =>
      if c.utf8Size ≤ bytes then charsWithin rest (bytes - c.utf8Size) + 1 else 0

/-- Where a piece of the input begins and ends, in characters. -/
def span (input : String) (m : Match) : Nat × Nat :=
  (charsWithin input.toList m.start, charsWithin input.toList m.stop)

theorem charsWithin_byteOffset (input : List Char) (n : Nat) :
    charsWithin input (byteOffset input n) = min n input.length := by
  induction input generalizing n with
  | nil => simp [charsWithin]
  | cons c input ih =>
      cases n with
      | zero =>
          have hpos := c.utf8Size_pos
          simp [charsWithin, byteOffset, utf8Length]
          omega
      | succ n =>
          rw [byteOffset, List.take_succ_cons, utf8Length_cons, charsWithin, if_pos (by omega),
            Nat.add_sub_cancel_left, ← byteOffset, ih, List.length_cons]
          omega

theorem span_ofCapture (input : String) (c : Capture) :
    (ofCapture input.toList c).span input = (min c.start input.length, min c.stop input.length) := by
  simp only [span, ofCapture, charsWithin_byteOffset, String.length_toList]

/-- Captures at the same characters of inputs that are as long. -/
theorem span_eq {R : Char → Char → Prop} {a b : String} (hlength : a.length = b.length)
    {c c' : Capture} (h : c.Alike R c') :
    (ofCapture a.toList c).span a = (ofCapture b.toList c').span b := by
  rw [span_ofCapture, span_ofCapture, h.start, h.stop, hlength]

end Match

/-! ## Searches -/

namespace Regex

variable {rule : ReferenceRule} {r : Regex}

/-- The matches of two inputs, and the groups in them, stand at the same characters. -/
structure SameMatches (rule : ReferenceRule) (r : Regex) (a b : String) : Prop where
  isMatch : r.isMatchUnder rule a = r.isMatchUnder rule b
  find : (r.findUnder rule a).map (·.span a) = (r.findUnder rule b).map (·.span b)
  captures : (r.capturesUnder rule a).map (·.map (·.map (·.span a))) =
    (r.capturesUnder rule b).map (·.map (·.map (·.span b)))

theorem sameMatches_of_folded {R : Char → Char → Prop} (hcase : ∀ c d, R c d → CaseVariant c d)
    (hrule : rule.Respects R) (h : r.plan.Folded) {a b : String}
    (hinputs : List.Forall₂ R a.toList b.toList) : SameMatches rule r a b := by
  have hlength : a.length = b.length := by
    rw [← String.length_toList, ← String.length_toList, hinputs.length_eq]
  have hfind : Option.Rel (Plan.MatchesAlike R) (r.plan.find rule a.toList)
      (r.plan.find rule b.toList) :=
    h.findFrom hcase hrule 0 .none hinputs
  have hwhole (x y : Cursor × Progress) (h : Plan.MatchesAlike R x y) :
      (Match.ofCapture a.toList (x.1.upTo x.2.cursor)).span a =
        (Match.ofCapture b.toList (y.1.upTo y.2.cursor)).span b :=
    Match.span_eq hlength (h.1.upTo h.2.cursor)
  constructor
  · exact (rel_isSome hfind).symm
  · rw [findUnder, findUnder, Option.map_map, Option.map_map]
    exact map_eq_of_rel hfind hwhole
  · rw [capturesUnder, capturesUnder, capturesUnder?, capturesUnder?, Option.map_map,
      Option.map_map, Option.map_map, Option.map_map]
    refine map_eq_of_rel hfind fun x y h => ?_
    have hgroup (n : Nat) :
        (x.2.captures.lookup n).map (fun c => (Match.ofCapture a.toList c).span a) =
          (y.2.captures.lookup n).map fun c => (Match.ofCapture b.toList c).span b :=
      map_eq_of_rel (h.2.captures.lookup n) fun _ _ => Match.span_eq hlength
    simp [Function.comp_def, hgroup, hwhole x y h]

/-! ## Compiled patterns -/

/-- A host pattern that is read is built, unless it is too large. -/
theorem ofCompiled_of_some {c : Compiled} {node : Node} {groups : Nat}
    (h : Host.read (hostScope c) (hostPattern c) = some (node, groups)) :
    ofCompiled c = .error (.host .tooLarge) ∨
      ∃ r, ofCompiled c = .ok r ∧ node.plan? node.references true = some r.plan := by
  simp only [ofCompiled, h, ofNode?]
  cases node.plan? node.references true with
  | none => exact .inl rfl
  | some plan => exact .inr ⟨_, rfl, rfl⟩

end Regex

section

variable {flags : Flags} {pattern : String} {e : Expr}

theorem folded_textNodes (text : List Char) : (Node.ofItems (textNodes true text)).Folded := by
  apply Node.Folded.ofItems
  intro n hn
  obtain ⟨c, -, rfl⟩ := List.mem_map.1 hn
  have hvariants : (variants true (.single c)).Comprises fun x => CaseVariant x c := by
    refine (normal_variants true _).comprises fun x => ?_
    exact @mem_memberSet true (.char c) x
  exact .set (hvariants.folded (.variants c))

/-- The host reads a folded node from a pattern without escapes. -/
theorem reads_folded (hcase : flags.caseInsensitive = true)
    (hparse : parseWith flags pattern = .ok e) (hescapes : e.escapes = []) :
    ∃ c node groups, compileWith flags pattern = .ok c ∧
      Host.read (Regex.hostScope c) (Regex.hostPattern c) = some (node, groups) ∧ node.Folded := by
  cases hliteral : flags.literal with
  | true =>
      obtain ⟨hpattern, hscope⟩ := @Regex.hostPattern_literal ⟨pattern, flags⟩ hliteral
      refine ⟨⟨pattern, flags⟩, _, 0, ?_, ?_, folded_textNodes pattern.toList⟩
      · rw [compileWith, if_pos hliteral]
      · rw [hpattern, read_escapeText, hscope, hcase]
  | false =>
      rw [parseWith, if_neg (by simp [hliteral])] at hparse
      obtain ⟨c, node, hcompile, himage, hread⟩ := reads_image hliteral hparse
      rw [hcase] at himage
      exact ⟨c, node, e.captures.length, hcompile, hread, himage.folded hescapes⟩

/-- A pattern without escapes, under the modifier for it, is built with a folded plan, unless it is
too large. -/
theorem build_folded {modifiers : String} {extended : Bool} (hcase : 'i' ∈ modifiers.toList)
    (hparse : parse pattern modifiers extended = .ok e) (hescapes : e.escapes = []) :
    Regex.build pattern modifiers extended = .error (.host .tooLarge) ∨
      ∃ r, Regex.build pattern modifiers extended = .ok r ∧ r.plan.Folded := by
  unfold parse at hparse
  cases hflags : Flags.ofModifiers modifiers extended with
  | error f =>
      rw [hflags] at hparse
      cases hparse
  | ok flags =>
      have hset : flags.caseInsensitive = true := by
        rw [Flags.eq_of_ofModifiers hflags]
        simpa [Flags.having] using hcase
      rw [hflags] at hparse
      obtain ⟨c, node, groups, hcompile, hread, hfolded⟩ := reads_folded hset hparse hescapes
      rw [build_eq hflags, hcompile]
      refine (Regex.ofCompiled_of_some hread).imp id ?_
      rintro ⟨r, hr, hplan⟩
      exact ⟨r, hr, hfolded.plan true _ hplan⟩

end

/-- Under the modifier for it, a pattern without escapes has its matches at the same characters of
inputs that differ in case only.  References are taken to be matched by simple case folding. -/
theorem matches_ignore_case {rule : ReferenceRule} (hrule : rule.Folds)
    {pattern modifiers : String} {extended : Bool} {e : Expr} (hcase : 'i' ∈ modifiers.toList)
    (hparse : parse pattern modifiers extended = .ok e) (hescapes : e.escapes = []) :
    Regex.build pattern modifiers extended = .error (.host .tooLarge) ∨
      ∃ r, Regex.build pattern modifiers extended = .ok r ∧
        ∀ a b : String, List.Forall₂ CaseVariant a.toList b.toList → r.SameMatches rule a b := by
  refine (build_folded hcase hparse hescapes).imp id ?_
  rintro ⟨r, hr, hfolded⟩
  exact ⟨r, hr, fun a b => Regex.sameMatches_of_folded (fun _ _ => id) hrule.respects hfolded⟩

/-- A reference to a letter, in inputs in which it stands once in each case. -/
theorem matches_ignore_case_reference :
    ∃ r, Regex.build "(k)\\1" "i" true = .ok r ∧ r.SameMatches foldingRule "kK" "Kk" := by
  let flags : Flags := { caseInsensitive := true, extended := true }
  have hflags : Flags.ofModifiers "i" true = .ok flags := rfl
  have hpattern : parsePattern flags "(k)\\1" =
      .ok (.branch [.group true (.literal 'k'), .backReference 1]) := by
    have hitems : patternItems flags "(k)\\1" = Parser.items
        [⟨.groupOpen, ⟨0, 0, 0, 1⟩⟩, ⟨.char 'k', ⟨1, 0, 1, 1⟩⟩, ⟨.groupClose, ⟨2, 0, 2, 1⟩⟩,
          ⟨.backReference 1, ⟨3, 0, 3, 2⟩⟩] := @patternItems_of_within 20 _ _ _ rfl
    exact @parsePattern_of_within 30 _ _ _ _ hitems rfl
  have hparse := (parse_eq hflags _).trans hpattern
  have hbuild : ∃ r, Regex.build "(k)\\1" "i" true = .ok r := by
    obtain ⟨c, node, hcompile, himage, hread⟩ := reads_image rfl hpattern
    rw [build_eq hflags, hcompile]
    obtain ⟨s, rfl⟩ : ∃ s, node = .row [.capture 1 (.set s), .group (.reference 1 true)] := by
      cases himage with
      | branch hpieces =>
          obtain _ | ⟨hgroup, hrest⟩ := hpieces
          obtain _ | ⟨hreference, hend⟩ := hrest
          cases hend
          cases hreference
          cases hgroup with
          | capturing hbody =>
              cases hbody
              exact ⟨_, rfl⟩
    have hnode : Regex.ofNode? c (.row [.capture 1 (.set s), .group (.reference 1 true)]) 1 =
        some ⟨c, .row [.capture 1 (.set s), .reference 1 true], 1⟩ := rfl
    refine ⟨⟨c, .row [.capture 1 (.set s), .reference 1 true], 1⟩, ?_⟩
    change Regex.ofCompiled c = _
    have hone : Host.read (Regex.hostScope c) (Regex.hostPattern c) =
        some (.row [.capture 1 (.set s), .group (.reference 1 true)], 1) := hread
    simp only [Regex.ofCompiled, hone, hnode]
  obtain herror | ⟨r, hr, hsame⟩ :=
    matches_ignore_case folds_foldingRule (by decide) hparse rfl
  · obtain ⟨r, hr⟩ := hbuild
    rw [hr] at herror
    cases herror
  · exact ⟨r, hr, hsame _ _ (by decide +kernel)⟩

/-- The engine's own rule does as well, if the characters keep their width. -/
theorem matches_ignore_case_of_sameWidth {pattern modifiers : String} {extended : Bool} {e : Expr}
    (hcase : 'i' ∈ modifiers.toList) (hparse : parse pattern modifiers extended = .ok e)
    (hescapes : e.escapes = []) :
    Regex.build pattern modifiers extended = .error (.host .tooLarge) ∨
      ∃ r, Regex.build pattern modifiers extended = .ok r ∧
        ∀ a b : String, List.Forall₂ SameWidth a.toList b.toList →
          r.SameMatches Cursor.skipReference a b := by
  refine (build_folded hcase hparse hescapes).imp id ?_
  rintro ⟨r, hr, hfolded⟩
  exact ⟨r, hr, fun a b =>
    Regex.sameMatches_of_folded (fun _ _ hvariant => hvariant.1) respects_skipReference hfolded⟩

end SchemaPattern
