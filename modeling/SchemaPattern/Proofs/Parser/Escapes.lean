import SchemaPattern.Proofs.Escape
import SchemaPattern.Proofs.Parser.Soundness

/-!
# Escapes of parsed expressions

Every escape of an expression that the parser reads stands for the set that its name stands for.
-/

namespace SchemaPattern

def Escape.Known (e : Escape) : Prop := e.name.chars? = some e.chars

theorem Escape.Known.normal {e : Escape} (h : e.Known) : e.chars.Normal := EscapeName.normal_chars h

namespace Expr

mutual

def charClasses : Expr → List CharClass
  | disjunction branches => charClassesOfAll branches
  | branch pieces => charClassesOfAll pieces
  | piece atom _ => charClasses atom
  | group _ body => charClasses body
  | charClass c => [c]
  | backReference _ | literal _ | wildcard _ | border _ _ | escape _ => []

def charClassesOfAll : List Expr → List CharClass
  | [] => []
  | e :: rest => charClasses e ++ charClassesOfAll rest

end

mutual

/-- The escapes of a class are among those of the expression. -/
theorem mem_escapes_of_charClass {c : CharClass} {x : Escape} (hx : x ∈ c.escapes) :
    ∀ {e : Expr}, c ∈ e.charClasses → x ∈ e.escapes
  | disjunction branches, h => mem_escapesOfAll_of_charClass hx h
  | branch pieces, h => mem_escapesOfAll_of_charClass hx h
  | piece atom q, h => mem_escapes_of_charClass hx (e := atom) h
  | group capturing body, h => mem_escapes_of_charClass hx (e := body) h
  | charClass d, h => by
      rw [List.mem_singleton.1 h] at hx
      exact hx

theorem mem_escapesOfAll_of_charClass {c : CharClass} {x : Escape} (hx : x ∈ c.escapes) :
    ∀ {es : List Expr}, c ∈ charClassesOfAll es → x ∈ escapesOfAll es
  | e :: rest, h => by
      rcases List.mem_append.1 h with h | h
      · exact List.mem_append_left _ (mem_escapes_of_charClass hx h)
      · exact List.mem_append_right _ (mem_escapesOfAll_of_charClass hx h)

end

theorem collects_escapes : Collects escapes escapesOfAll :=
  ⟨fun es => by rw [escapes], fun es => by rw [escapes], rfl, fun e es => rfl⟩

end Expr

namespace Grammar

variable {ts rest : List Token}

theorem known_members {ms : List ClassMember} (h : Members ts rest ms) :
    ∀ e ∈ ms.filterMap ClassMember.escape?, e.Known := by
  induction h with
  | nil => simp
  | escape hname hchars h ih => exact List.forall_mem_cons.2 ⟨hchars, ih⟩
  | char hc hdash h ih => exact ih
  | range hlow hhigh hle h ih => exact ih

theorem known_class {c : CharClass} (h : Class ts rest c) : ∀ e ∈ c.escapes, e.Known := by
  induction h with
  | group h hne => exact known_members h
  | difference h hne hsub ih => exact List.forall_mem_append.2 ⟨known_members h, ih⟩

def Phrase.escapes : Phrase → List Escape
  | .atom e | .piece e => e.escapes
  | .pieces es => Expr.escapesOfAll es
  | .branches bs => bs.flatMap Expr.escapesOfAll

theorem escapes_branches (bs : List (List Expr)) :
    (Phrase.branches bs).escapes = (expression bs).escapes :=
  (Expr.collects_escapes.expression bs).symm

theorem known_derives {flags : Flags} {g g' : Groups} {phrase : Phrase}
    (h : Derives flags g ts rest phrase g') : ∀ e ∈ phrase.escapes, e.Known := by
  induction h with
  | literal hc => simp [Phrase.escapes, Expr.escapes]
  | escape hname hchars => exact List.forall_mem_cons.2 ⟨hchars, by simp⟩
  | wildcard => simp [Phrase.escapes, Expr.escapes]
  | lineStart => simp [Phrase.escapes, Expr.escapes]
  | lineEnd => simp [Phrase.escapes, Expr.escapes]
  | charClass h => exact known_class h
  | backReference h hclosed => simp [Phrase.escapes, Expr.escapes]
  | capturing h ih | nonCapturing h ih =>
      rw [escapes_branches] at ih
      exact ih
  | bare h ih => exact ih
  | quantified h hq ih => exact ih
  | noPieces => simp [Phrase.escapes, Expr.escapesOfAll]
  | pieces h hmore ih ihmore => exact List.forall_mem_append.2 ⟨ih, ihmore⟩
  | branch h ih =>
      rw [Phrase.escapes, List.flatMap_singleton]
      exact ih
  | alternation h hmore ih ihmore =>
      rw [Phrase.escapes, List.flatMap_cons]
      exact List.forall_mem_append.2 ⟨ih, ihmore⟩

end Grammar

theorem known_escapes {flags : Flags} {pattern : String} {e : Expr}
    (h : parsePattern flags pattern = .ok e) : ∀ x ∈ e.escapes, x.Known := by
  rw [parsePattern_eq] at h
  obtain ⟨ls, -, bs, g, hderives, rfl⟩ := Parser.sentence_of_run h
  rw [← Grammar.escapes_branches]
  exact Grammar.known_derives hderives

end SchemaPattern
