import SchemaPattern.Proofs.Bounded
import SchemaPattern.Proofs.Flags
import SchemaPattern.Proofs.Parser.Escapes
import SchemaPattern.Compile

/-!
# Well-formed expressions

In a well-formed expression each part binds more closely than the row, the choice or the repetition
that it is a part of, so that no brackets are needed to tell the parts from each other.  Rows and
choices of one are left out, bounds and ranges are in order, classes have members, and escapes and
flags are those that the table and the modifiers give.  The parser yields no other expressions.
-/

namespace SchemaPattern

/-! ## Quantifiers and classes -/

def Quantifier.Ordered (q : Quantifier) : Prop := ∀ max ∈ q.max, q.min ≤ max

structure Escape.WellFormed (e : Escape) : Prop where
  known : e.Known
  normal : e.chars.Normal

def ClassMember.WellFormed : ClassMember → Prop
  | char _ => True
  | range r => r.first ≤ r.last
  | escape e => e.WellFormed

structure CharGroup.WellFormed (g : CharGroup) : Prop where
  nonempty : g.members ≠ []
  members : ∀ m ∈ g.members, m.WellFormed

def CharClass.WellFormed : CharClass → Prop
  | group g => g.WellFormed
  | difference g subtrahend => g.WellFormed ∧ subtrahend.WellFormed

/-! ## Expressions -/

namespace Expr

/-- How loosely the parts of an expression hang together. -/
def looseness : Expr → Nat
  | disjunction _ => 3
  | branch _ => 2
  | piece .. => 1
  | group .. | backReference _ | literal _ | wildcard _ | border .. | charClass _ | escape _ => 0

inductive WellFormed (dotAll multiline : Bool) : Expr → Prop
  | disjunction {branches : List Expr} (hlength : 2 ≤ branches.length)
      (hbinds : ∀ e ∈ branches, e.looseness < 3)
      (h : ∀ e ∈ branches, WellFormed dotAll multiline e) :
      WellFormed dotAll multiline (disjunction branches)
  | branch {pieces : List Expr} (hlength : pieces.length = 0 ∨ 2 ≤ pieces.length)
      (hbinds : ∀ e ∈ pieces, e.looseness < 2)
      (h : ∀ e ∈ pieces, WellFormed dotAll multiline e) :
      WellFormed dotAll multiline (branch pieces)
  | piece {atom : Expr} {q : Quantifier} (hbinds : atom.looseness < 1) (hq : q.Ordered)
      (h : WellFormed dotAll multiline atom) : WellFormed dotAll multiline (piece atom q)
  | group {body : Expr} (capturing : Bool) (h : WellFormed dotAll multiline body) :
      WellFormed dotAll multiline (group capturing body)
  | backReference (index : Nat) : WellFormed dotAll multiline (backReference index)
  | literal (c : Char) : WellFormed dotAll multiline (literal c)
  | wildcard : WellFormed dotAll multiline (wildcard dotAll)
  | border (atStart : Bool) : WellFormed dotAll multiline (border atStart multiline)
  | charClass {c : CharClass} (h : c.WellFormed) : WellFormed dotAll multiline (charClass c)
  | escape {e : Escape} (h : e.WellFormed) : WellFormed dotAll multiline (escape e)

/-- Well-formed, and fit to be a part of what hangs together so loosely. -/
structure Fits (dotAll multiline : Bool) (looseness : Nat) (e : Expr) : Prop where
  wellFormed : e.WellFormed dotAll multiline
  binds : e.looseness < looseness

section

variable {dotAll multiline : Bool} {es : List Expr}

theorem Fits.mono {m n : Nat} {e : Expr} (h : e.Fits dotAll multiline m) (hle : m ≤ n) :
    e.Fits dotAll multiline n :=
  ⟨h.wellFormed, Nat.lt_of_lt_of_le h.binds hle⟩

theorem fits_ofPieces (h : ∀ e ∈ es, e.Fits dotAll multiline 2) :
    (ofPieces es).Fits dotAll multiline 3 := by
  match es with
  | [] => exact ⟨.branch (.inl rfl) (by simp) (by simp), Nat.lt_succ_self 2⟩
  | [e] => exact (h e (.head _)).mono (Nat.le_succ 2)
  | e :: e' :: rest =>
      refine ⟨.branch (.inr ?_) (fun e he => (h e he).binds) fun e he => (h e he).wellFormed,
        Nat.lt_succ_self 2⟩
      simp

theorem wellFormed_ofBranches (hne : es ≠ []) (h : ∀ e ∈ es, e.Fits dotAll multiline 3) :
    (ofBranches es).WellFormed dotAll multiline := by
  match es with
  | [] => exact absurd rfl hne
  | [e] => exact (h e (.head _)).wellFormed
  | e :: e' :: rest =>
      refine .disjunction ?_ (fun e he => (h e he).binds) fun e he => (h e he).wellFormed
      simp

theorem wellFormed_ofText (text : List Char) : (ofText text).WellFormed dotAll multiline := by
  refine (fits_ofPieces fun e he => ?_).wellFormed
  obtain ⟨c, -, rfl⟩ := List.mem_map.1 he
  exact ⟨.literal c, Nat.two_pos⟩

end

end Expr

namespace Grammar

/-! ## Phrases -/

theorem ordered_of_quantifierTokens {ts : List Token} {q : Quantifier}
    (h : QuantifierTokens ts q) : q.Ordered := by
  have hbounds {ts : List Token} {m : Nat} {n : Option Nat} (h : Repetition ts m n) :
      ∀ max ∈ n, m ≤ max := by
    cases h with
    | optional => simp
    | zeroOrMore => simp
    | oneOrMore => simp
    | exactly n => simp
    | atLeast n => simp
    | between h => simpa using h
  cases h with
  | greedy h => exact hbounds h
  | lazy h => exact hbounds h

theorem wellFormed_members {ts rest : List Token} {ms : List ClassMember} (h : Members ts rest ms) :
    ∀ m ∈ ms, m.WellFormed := by
  induction h with
  | nil => simp
  | escape hname hchars h ih =>
      exact List.forall_mem_cons.2 ⟨⟨hchars, EscapeName.normal_chars hchars⟩, ih⟩
  | char hc hdash h ih => exact List.forall_mem_cons.2 ⟨trivial, ih⟩
  | range hlow hhigh hle h ih => exact List.forall_mem_cons.2 ⟨hle, ih⟩

theorem wellFormed_class {ts rest : List Token} {c : CharClass} (h : Class ts rest c) :
    c.WellFormed := by
  induction h with
  | group h hne => exact ⟨hne, wellFormed_members h⟩
  | difference h hne hsub ih => exact ⟨⟨hne, wellFormed_members h⟩, ih⟩

def Phrase.WellFormed (flags : Flags) : Phrase → Prop
  | .atom e => e.Fits flags.dotAll flags.multiline 1
  | .piece e => e.Fits flags.dotAll flags.multiline 2
  | .pieces es => ∀ e ∈ es, e.Fits flags.dotAll flags.multiline 2
  | .branches bs => ∀ es ∈ bs, ∀ e ∈ es, e.Fits flags.dotAll flags.multiline 2

theorem wellFormed_expression {flags : Flags} {bs : List (List Expr)} (hne : bs ≠ [])
    (h : (Phrase.branches bs).WellFormed flags) :
    (expression bs).WellFormed flags.dotAll flags.multiline := by
  refine Expr.wellFormed_ofBranches (by simpa using hne) fun e he => ?_
  obtain ⟨es, hes, rfl⟩ := List.mem_map.1 he
  exact Expr.fits_ofPieces (h es hes)

theorem wellFormed_derives {flags : Flags} {g g' : Groups} {ts rest : List Token}
    {phrase : Phrase} (h : Derives flags g ts rest phrase g') : phrase.WellFormed flags := by
  induction h with
  | literal hc => exact ⟨.literal _, Nat.one_pos⟩
  | escape hname hchars =>
      exact ⟨.escape ⟨hchars, EscapeName.normal_chars hchars⟩, Nat.one_pos⟩
  | wildcard => exact ⟨.wildcard, Nat.one_pos⟩
  | lineStart | lineEnd => exact ⟨.border _, Nat.one_pos⟩
  | charClass h => exact ⟨.charClass (wellFormed_class h), Nat.one_pos⟩
  | backReference h hclosed => exact ⟨.backReference _, Nat.one_pos⟩
  | capturing h ih | nonCapturing h ih =>
      exact ⟨.group _ (wellFormed_expression h.begins ih), Nat.one_pos⟩
  | bare h ih => exact ih.mono (Nat.le_succ 1)
  | quantified h hq ih =>
      exact ⟨.piece ih.binds (ordered_of_quantifierTokens hq) ih.wellFormed, Nat.lt_succ_self 1⟩
  | noPieces => exact fun e he => absurd he List.not_mem_nil
  | pieces h hmore ih ihmore => exact List.forall_mem_cons.2 ⟨ih, ihmore⟩
  | branch h ih => exact List.forall_mem_singleton.2 ih
  | alternation h hmore ih ihmore => exact List.forall_mem_cons.2 ⟨ih, ihmore⟩

end Grammar

/-! ## Patterns -/

theorem wellFormed_parsePattern {flags : Flags} {pattern : String} {e : Expr}
    (h : parsePattern flags pattern = .ok e) : e.WellFormed flags.dotAll flags.multiline := by
  rw [parsePattern_eq] at h
  obtain ⟨ls, -, bs, g, hderives, rfl⟩ := Parser.sentence_of_run h
  exact Grammar.wellFormed_expression hderives.begins (Grammar.wellFormed_derives hderives)

/-- Wildcards and borders have the flags of the modifiers `s` and `m`. -/
theorem parse_wellFormed {pattern modifiers : String} {extended : Bool} {e : Expr}
    (h : parse pattern modifiers extended = .ok e) :
    e.WellFormed (modifiers.toList.contains 's') (modifiers.toList.contains 'm') := by
  unfold parse at h
  cases hflags : Flags.ofModifiers modifiers extended with
  | error f =>
      rw [hflags] at h
      cases h
  | ok flags =>
      rw [hflags] at h
      change parseWith flags pattern = .ok e at h
      obtain rfl := Flags.eq_of_ofModifiers hflags
      unfold parseWith at h
      split at h
      · cases h
        exact Expr.wellFormed_ofText _
      · simpa [Flags.having] using wellFormed_parsePattern h

/-- A choice between a repeated group and a class without another one. -/
theorem parse_wellFormed_nested :
    let e : Expr := .disjunction
      [.branch [.piece (.group true (.branch [.wildcard true, .literal 'b']))
          { min := 2, max := some 3, lazy := true }, .border false true],
        .charClass (.difference ⟨true, [.range ⟨'a', 'z'⟩, .escape ⟨.multi 's', EscapeName.spaces⟩]⟩
          (.group ⟨false, [.char '-']⟩))]
    parse "(.b){2,3}?$|[^a-z\\s-[-]]" "sm" false = .ok e ∧ e.WellFormed true true := by
  intro e
  have hflags : Flags.ofModifiers "sm" false = .ok { multiline := true, dotAll := true } := rfl
  have hparse : parse "(.b){2,3}?$|[^a-z\\s-[-]]" "sm" false = .ok e := by
    rw [parse, hflags]
    exact @parsePattern_of_within 100 _ _ _ _ (@patternItems_of_within 60 _ _ _ rfl) rfl
  exact ⟨hparse, parse_wellFormed hparse⟩

end SchemaPattern
