import SchemaPattern.Proofs.Text.Expressions

/-!
# Reading words, classes and quantifiers

What is written is read back, each sort of word by itself.  Texts and forms that no expression has
are read in some way or other.
-/

namespace SchemaPattern

/-! ## Escapes -/

def EscapeName.ofChars : List Char → EscapeName
  | '\\' :: letter :: '\x7b' :: rest => category (String.ofList rest.dropLast) (letter = 'P')
  | '\\' :: letter :: _ => multi letter
  | _ => default

theorem EscapeName.ofChars_chars (name : EscapeName) : ofChars name.chars = name := by
  cases name with
  | multi letter => simp [chars_multi, ofChars]
  | category name negated => cases negated <;> simp [chars_category, ofChars]

/-- The escape of that name. -/
def Escape.ofName (name : EscapeName) : Escape := ⟨name, name.chars?.getD default⟩

theorem Escape.Known.ofName_name {e : Escape} (h : e.Known) : ofName e.name = e := by
  rw [Escape.Known] at h
  rw [ofName, h, Option.getD_some]

/-! ## Characters and classes -/

/-- The character in quotes of which that stands behind the first one. -/
def unquotedChar (t : List Char) : Char := ((unquote t).map Prod.fst).getD default

theorem unquotedChar_quoted (c : Char) (rest : List Char) :
    unquotedChar (quoted c ++ rest) = c := by
  rw [unquotedChar, unquote_quoted, Option.map_some, Option.getD_some]

namespace ClassMember

def ofText : List Char → ClassMember
  | '\'' :: t =>
      match (unquote t).map Prod.snd with
      | some ('\'' :: '.' :: '.' :: '\'' :: u) => range ⟨unquotedChar t, unquotedChar u⟩
      | _ => char (unquotedChar t)
  | t => escape (.ofName (.ofChars t))

theorem ofText_text {m : ClassMember} (h : m.WellFormed) : ofText m.text = m := by
  cases m with
  | char c => simp [text, quotedText, ofText, unquote_quoted, unquotedChar_quoted]
  | range r => simp [text, quotedText, ofText, unquote_quoted, unquotedChar_quoted]
  | escape e =>
      have hquote : ∀ t, e.name.chars ≠ '\'' :: t := by
        intro t
        cases e.name <;> simp [EscapeName.chars_multi, EscapeName.chars_category]
      rw [text, ofText]
      · rw [EscapeName.ofChars_chars, h.known.ofName_name]
      · exact hquote

end ClassMember

def CharGroup.ofForm : Form → CharGroup
  | .call name _ inside => ⟨name = ['!'], inside.items.map fun f => .ofText f.text⟩
  | _ => default

theorem CharGroup.ofForm_form {g : CharGroup} (h : g.WellFormed) : ofForm g.form = g := by
  have hitems := item_members h
  obtain ⟨negative, members⟩ := g
  obtain ⟨hnonempty, hmembers⟩ := h
  have hread : members.map (fun m => ClassMember.ofText m.form.text) = members := by
    conv_rhs => rw [← List.map_id' members]
    apply List.map_congr_left
    intro m hm
    rw [m.text_form, ClassMember.ofText_text (hmembers m hm)]
  have hnegative : decide ((if negative then ['!'] else []) = ['!']) = negative := by
    cases negative <;> rfl
  rw [form, ofForm, Form.items_ofItems (by simpa using hnonempty) hitems, List.map_map, hnegative]
  exact congrArg _ hread

def CharClass.ofForm : Form → CharClass
  | .call _ false (.row _ [g, subtrahend]) => .difference (.ofForm g) (ofForm subtrahend)
  | f => .group (.ofForm f)

theorem CharClass.ofForm_form {c : CharClass} (h : c.WellFormed) : ofForm c.form = c := by
  induction c with
  | group g =>
      have hgroup : CharGroup.ofForm g.form = g := CharGroup.ofForm_form h
      conv_rhs => rw [← hgroup]
      rfl
  | difference g subtrahend ih =>
      rw [form, ofForm, CharGroup.ofForm_form h.1, ih h.2]

/-! ## Quantifiers -/

namespace Quantifier

/-- The quantifier of which a name and numbers are written. -/
def named (name : List Char) : List Nat → Quantifier
  | [] =>
      let isLazy := name.getLast? = some 'y'
      if name.head? = some 'z' then ⟨0, none, isLazy⟩
      else if name[1]? = some 'p' then ⟨0, some 1, isLazy⟩
      else ⟨1, none, isLazy⟩
  | [m] => ⟨m, if name.head? = some 'a' then none else some m, name.getLast? = some 'y'⟩
  | m :: n :: _ => ⟨m, some n, name.getLast? = some 'y'⟩

theorem named_name (q : Quantifier) : named q.name q.numbers = q := by
  obtain ⟨min, max, isLazy⟩ := q
  simp only [name, numbers]
  split
  · cases isLazy <;> rfl
  · cases isLazy <;> rfl
  · cases isLazy <;> rfl
  · cases isLazy <;> simp [named]
  · next n _ =>
    by_cases hsame : min = n
    · cases isLazy <;> simp [named, hsame]
    · cases isLazy <;> simp [named, hsame]

theorem name_ne (q : Quantifier) : q.name ≠ [] ∧ q.name ≠ "index".toList := by
  have hnames : ∀ name ∈ names, name ≠ [] ∧ name ≠ "index".toList := by simp [names]
  exact hnames _ q.name_mem

end Quantifier

/-! ## Words -/

namespace Expr

/-- The expressions whose text is a name. -/
def named : List Expr :=
  [branch [], wildcard false, wildcard true, border true false, border true true,
    border false false, border false true]

def ofWord : List Char → Expr
  | '\'' :: t => literal (unquotedChar t)
  | '^' :: t => backReference (Numeral.decimalValue t)
  | '\\' :: t => escape (.ofName (.ofChars ('\\' :: t)))
  | t => (named.find? fun e => e.text = t).getD default

theorem ofWord_chars {e : Escape} (h : e.Known) : ofWord e.name.chars = escape e := by
  have hread : escape (.ofName (.ofChars e.name.chars)) = escape e := by
    rw [EscapeName.ofChars_chars, h.ofName_name]
  rw [← hread]
  cases e.name with
  | multi letter => rw [EscapeName.chars_multi, ofWord]
  | category name negated => rw [EscapeName.chars_category, ofWord]

end Expr

end SchemaPattern
