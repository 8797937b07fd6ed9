import SchemaPattern.Proofs.Bounded
import SchemaPattern.Proofs.Host.Class
import SchemaPattern.Proofs.Parser.Escapes

/-!
# Classes reach the host unchanged

What the host reads from the text of a parsed class is one set, that of the characters of the
class.
-/

namespace SchemaPattern

open Host.Reader

theorem read_classText {c : CharClass} (ignoreCase multiline dotAll : Bool)
    (h : ∀ e ∈ c.escapes, e.chars.Normal) :
    Host.read { multiline, dotAll } (Host.classText ignoreCase c) =
      some (.set (Host.classSet ignoreCase c), 0) := by
  let start : State := { scope := { multiline, dotAll } }
  have hread : Reads start (Host.classText ignoreCase c)
      (closed start [] (Host.classSet ignoreCase c)) :=
    reads_classText ignoreCase rfl rfl h
  rw [Host.read, hread]
  rfl

/-- Under any flags, the text of a class that the parser has read is for the host the set of the
characters of the class. -/
theorem class_text_denotes (flags flags' : Flags) (pattern : String) (multiline dotAll : Bool)
    {e : Expr} {c : CharClass} (h : parsePattern flags pattern = .ok e) (hc : c ∈ e.charClasses) :
    ∃ s, Host.read { multiline, dotAll } (Host.classText flags'.caseInsensitive c) =
        some (.set s, 0) ∧
      ∀ x, s.contains x = true ↔ c.Has flags'.caseInsensitive x := by
  have hnormal : ∀ x ∈ c.escapes, x.chars.Normal := fun x hx =>
    (known_escapes h x (Expr.mem_escapes_of_charClass hx hc)).normal
  refine ⟨_, read_classText _ multiline dotAll hnormal, fun x => ?_⟩
  rw [(Host.normal_classSet _ c).contains_iff, Host.mem_classSet]

/-- All characters but the variants of `k` and of `e`. -/
theorem class_text_denotes_nested :
    let c := .difference ⟨true, [.char 'k']⟩ (.group ⟨false, [.char 'e']⟩)
    parsePattern {} "[^k-[e]]" = .ok (.charClass c) ∧ c ∈ (Expr.charClass c).charClasses ∧
      ∃ s, Host.read {} (Host.classText true c) = some (.set s, 0) ∧
        ∀ x, s.contains x = true ↔ c.Has true x := by
  intro c
  have hitems : patternItems {} "[^k-[e]]" = Parser.items
      [⟨.classOpen, ⟨0, 0, 0, 1⟩⟩, ⟨.negation, ⟨1, 0, 1, 1⟩⟩, ⟨.char 'k', ⟨2, 0, 2, 1⟩⟩,
        ⟨.subtract, ⟨3, 0, 3, 1⟩⟩, ⟨.classOpen, ⟨4, 0, 4, 1⟩⟩, ⟨.char 'e', ⟨5, 0, 5, 1⟩⟩,
        ⟨.classClose, ⟨6, 0, 6, 1⟩⟩, ⟨.classClose, ⟨7, 0, 7, 1⟩⟩] :=
    @patternItems_of_within 20 _ _ _ rfl
  have hparse : parsePattern {} "[^k-[e]]" = .ok (.charClass c) :=
    @parsePattern_of_within 20 _ _ _ _ hitems rfl
  have hmem : c ∈ (Expr.charClass c).charClasses := .head _
  exact ⟨hparse, hmem,
    class_text_denotes {} { caseInsensitive := true } "[^k-[e]]" false false hparse hmem⟩

end SchemaPattern
