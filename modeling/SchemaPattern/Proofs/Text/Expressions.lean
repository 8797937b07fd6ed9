import SchemaPattern.Proofs.Lexer.Modes
import SchemaPattern.Proofs.Text.Forms
import SchemaPattern.Proofs.WellFormed

/-!
# Forms of expressions

The text of an expression is that of a form, which is clear if the expression is well-formed.
-/

namespace SchemaPattern

/-! ## Classes -/

def ClassMember.form : ClassMember → Form
  | char c => .word (quotedText c)
  | range r => .word (quotedText r.first ++ "..".toList ++ quotedText r.last)
  | escape e => .word e.name.chars

def CharGroup.form (g : CharGroup) : Form :=
  .call (if g.negative then ['!'] else []) true
    (.ofItems ", ".toList (g.members.map ClassMember.form))

def CharClass.form : CharClass → Form
  | group g => g.form
  | difference g subtrahend => .call [] false (.row " - ".toList [g.form, subtrahend.form])

theorem ClassMember.text_form (m : ClassMember) : m.form.text = m.text := by
  cases m <;> simp [form, Form.text, text]

theorem CharGroup.text_form (g : CharGroup) : g.form.text = g.text := by
  have hmembers : g.members.map (Form.text ∘ ClassMember.form) = g.members.map ClassMember.text :=
    List.map_congr_left fun m _ => m.text_form
  rw [form, Form.text, Form.text_ofItems, List.map_map, hmembers, text]
  cases g.negative <;> simp

theorem CharClass.text_form (c : CharClass) : c.form.text = c.text := by
  induction c with
  | group g => exact g.text_form
  | difference g subtrahend ih =>
      simp [form, Form.text, Form.texts, Form.joined_cons, text, parenthesized, ih, g.text_form]

/-! ## Quantifiers -/

namespace Quantifier

/-- The numbers that the name of a quantifier leaves open. -/
def numbers (q : Quantifier) : List Nat :=
  match q.min, q.max with
  | 0, some 1 | 0, none | 1, none => []
  | m, none => [m]
  | m, some n => if m = n then [m] else [m, n]

def names : List (List Char) :=
  ["optional", "zero_or_more", "one_or_more", "at_least", "repeat", "repeat_range"].flatMap
    fun name => [name.toList, name.toList ++ "_lazy".toList]

theorem name_mem (q : Quantifier) : q.name ∈ names := by
  obtain ⟨min, max, isLazy⟩ := q
  unfold name
  split
  · cases isLazy <;> simp [names]
  · cases isLazy <;> simp [names]
  · cases isLazy <;> simp [names]
  · cases isLazy <;> simp [names]
  · split_ifs <;> simp [names]

theorem arguments_eq (q : Quantifier) :
    q.arguments = q.numbers.flatMap fun n => ", ".toList ++ Numeral.decimal n := by
  obtain ⟨min, max, isLazy⟩ := q
  simp only [arguments, numbers]
  split
  · rfl
  · rfl
  · rfl
  · simp
  · next n _ => by_cases hsame : min = n <;> simp [hsame]

end Quantifier

/-! ## Expressions -/

namespace Expr

mutual

def form : Expr → Form
  | disjunction branches => .ofItems " || ".toList (branchForms branches)
  | branch [] => .word "empty".toList
  | branch (e :: rest) => .ofItems ", ".toList (forms (e :: rest))
  | piece atom q =>
      .call q.name false
        (.ofItems ", ".toList (form atom :: q.numbers.map fun n => .word (Numeral.decimal n)))
  | group capturing body => .call (if capturing then "index".toList else []) false (form body)
  | backReference index => .word ('^' :: Numeral.decimal index)
  | literal c => .word (quotedText c)
  | wildcard dotAll => .word (if dotAll then "char_any_or_newline" else "char_any").toList
  | border atStart multiline =>
      .word ((if multiline then "line_" else "") ++ if atStart then "start" else "end").toList
  | charClass c => c.form
  | escape e => .word e.name.chars

def forms : List Expr → List Form
  | [] => []
  | e :: rest => form e :: forms rest

def branchForms : List Expr → List Form
  | [] => []
  | e :: rest => (if e.isRow then .call [] false (form e) else form e) :: branchForms rest

end

/-- How an expression stands in a disjunction. -/
def asBranch (e : Expr) : Expr := if e.isRow then group false e else e

theorem form_asBranch (e : Expr) :
    e.asBranch.form = if e.isRow then .call [] false e.form else e.form := by
  unfold asBranch
  split_ifs
  · rw [form]
    rfl
  · rfl

theorem forms_eq_map (es : List Expr) : forms es = es.map form := by
  induction es with
  | nil => rfl
  | cons e es ih => rw [forms, ih, List.map_cons]

theorem branchForms_eq_map (es : List Expr) :
    branchForms es = es.map fun e => e.asBranch.form := by
  induction es with
  | nil => rfl
  | cons e es ih => rw [branchForms, ih, List.map_cons, form_asBranch]

theorem form_disjunction {branches : List Expr} (hlength : 2 ≤ branches.length) :
    (disjunction branches).form =
      .row " || ".toList (branches.map fun e => e.asBranch.form) := by
  rw [form, branchForms_eq_map, Form.ofItems_of_two_le (by simpa using hlength)]

theorem form_branch {pieces : List Expr} (hlength : 2 ≤ pieces.length) :
    (branch pieces).form = .row ", ".toList (pieces.map form) := by
  cases pieces with
  | nil => simp at hlength
  | cons e rest => rw [form, forms_eq_map, Form.ofItems_of_two_le (by simpa using hlength)]

mutual

theorem text_form : ∀ e : Expr, e.form.text = e.text
  | disjunction branches => by
      rw [form, Form.text_ofItems, text, map_text_branchForms]
  | branch [] => by rw [form, Form.text, text]
  | branch (e :: rest) => by rw [form, Form.text_ofItems, text, map_text_forms]
  | piece atom q => by
      rw [form, Form.text, Form.text_ofItems, List.map_cons, Form.joined_cons, text, text_form atom,
        q.arguments_eq]
      simp [parenthesized, List.flatMap_map, Form.text]
  | group capturing body => by
      rw [form, Form.text, text, text_form body]
      simp [parenthesized]
  | backReference _ | literal _ | wildcard _ | border _ _ | escape _ => by
      rw [form, Form.text, text]
  | charClass c => by rw [form, text, c.text_form]

theorem map_text_forms : ∀ es : List Expr, (forms es).map Form.text = texts es
  | [] => rfl
  | e :: rest => by rw [forms, List.map_cons, texts, text_form e, map_text_forms rest]

theorem map_text_branchForms : ∀ es : List Expr, (branchForms es).map Form.text = branchTexts es
  | [] => rfl
  | e :: rest => by
      rw [branchForms, List.map_cons, branchTexts, map_text_branchForms rest]
      split_ifs
      · simp [Form.text, parenthesized, text_form e]
      · rw [text_form e]

end

end Expr

/-! ## Clear forms -/

open Form (marks IsWord)

namespace Numeral

theorem notMem_marks (n : Nat) : ∀ c ∈ decimal n, c ∉ marks := by
  intro c hc
  apply Lexer.notMem_of_isDigit ((decimal_spec n).2.1 c hc)
  exact Lexer.forall_mem_of_all (by decide)

theorem isWord_decimal (n : Nat) : IsWord (decimal n) :=
  .plain (decimal_spec n).1 (notMem_marks n)

end Numeral

namespace EscapeName

theorem notMem_marks_of_multi {letter : Char} {chars : CharSet}
    (h : (multi letter).chars? = some chars) : letter ∉ marks := by
  have hnone : ∀ c ∈ marks, (multiTable.lookup c.toLower).isNone = true :=
    Lexer.forall_mem_of_all (by decide)
  intro hletter
  have := hnone letter hletter
  rw [Option.isNone_iff_eq_none] at this
  simp [chars?, this] at h

-- Each name is looked through once, for the characters that the lexer admits in it.
theorem isNameChar_of_category :
    ∀ p ∈ categoryTable, p.1.toList.all Lexer.isNameChar = true := by
  decide +kernel

theorem chars_multi (letter : Char) : (multi letter).chars = ['\\', letter] := by
  simp [chars, text]

theorem chars_category (name : String) (negated : Bool) :
    (category name negated).chars =
      '\\' :: (if negated then 'P' else 'p') :: '{' :: (name.toList ++ ['}']) := by
  cases negated <;> simp [chars, text]

theorem notMem_marks_of_isNameChar {c : Char} (h : Lexer.isNameChar c = true) : c ∉ marks := by
  have hmarks : ∀ c ∈ marks, Lexer.isNameChar c = false := Lexer.forall_mem_of_all (by decide)
  intro hc
  rw [hmarks c hc] at h
  cases h

theorem isWord_chars {name : EscapeName} {chars : CharSet} (h : name.chars? = some chars) :
    IsWord name.chars := by
  cases name with
  | multi letter =>
      have hletter := notMem_marks_of_multi h
      rw [chars_multi]
      refine .plain (by simp) ?_
      simpa [marks] using hletter
  | category name negated =>
      obtain ⟨s, hlookup, -⟩ := Option.map_eq_some_iff.1 h
      have hname := isNameChar_of_category _ (mem_of_lookup hlookup)
      rw [List.all_eq_true] at hname
      have hplain : ∀ c ∈ name.toList, c ∉ marks := fun c hc =>
        notMem_marks_of_isNameChar (hname c hc)
      rw [chars_category]
      refine .plain (by simp) ?_
      simp only [List.forall_mem_cons, List.forall_mem_append]
      refine ⟨by simp [marks], ?_, by simp [marks], hplain, by simp [marks]⟩
      cases negated <;> simp [marks]

end EscapeName

/-! ### Classes -/

theorem ClassMember.item_form {m : ClassMember} (h : m.WellFormed) : m.form.Item := by
  cases m with
  | char c => exact ⟨.word (.char c), rfl⟩
  | range r => exact ⟨.word (.range r.first r.last), rfl⟩
  | escape e => exact ⟨.word (EscapeName.isWord_chars h.known), rfl⟩

theorem CharGroup.item_members {g : CharGroup} (h : g.WellFormed) :
    ∀ f ∈ g.members.map ClassMember.form, f.Item := by
  rw [List.forall_mem_map]
  exact fun m hm => ClassMember.item_form (h.members m hm)

theorem CharGroup.item_form {g : CharGroup} (h : g.WellFormed) : g.form.Item := by
  refine ⟨.call ?_ (Form.clear_ofItems (by simp [Form.separators]) ?_ (item_members h)), rfl⟩
  · cases g.negative <;> simp [marks]
  · simpa using h.nonempty

theorem CharClass.item_form {c : CharClass} (h : c.WellFormed) : c.form.Item := by
  induction c with
  | group g => exact CharGroup.item_form h
  | difference g subtrahend ih =>
      have hgroup := CharGroup.item_form h.1
      have hsubtrahend := ih h.2
      refine ⟨.call (by simp) (.row (by simp [Form.separators]) (by simp) ?_ ?_), rfl⟩
      · simp [hgroup.single, hsubtrahend.single]
      · simp [hgroup.clear, hsubtrahend.clear]

/-! ### Expressions -/

theorem Quantifier.notMem_marks (q : Quantifier) : ∀ c ∈ q.name, c ∉ marks := by
  have hnames : ∀ name ∈ names, ∀ c ∈ name, c ∉ marks := by simp [names, marks]
  exact hnames _ q.name_mem

namespace Expr

section

variable {dotAll multiline : Bool} {e : Expr}

theorem isRow_form (h : e.looseness < 2) : e.form.isRow = false := by
  cases e with
  | disjunction => simp [looseness] at h
  | branch => simp [looseness] at h
  | charClass c => cases c <;> simp [form, CharClass.form, CharGroup.form, Form.isRow]
  | _ => simp [form, Form.isRow]

theorem isRow_form_asBranch (h : e.Fits dotAll multiline 3) : e.asBranch.form.isRow = false := by
  obtain ⟨hwellFormed, hbinds⟩ := h
  cases hwellFormed with
  | disjunction => simp [looseness] at hbinds
  | @branch pieces hlength =>
      rcases pieces with _ | ⟨e, _ | ⟨e', rest⟩⟩
      · simp [asBranch, isRow, form, Form.isRow]
      · simp at hlength
      · simp [asBranch, isRow, form, Form.isRow]
  | _ =>
      rw [asBranch, if_neg (by simp [isRow])]
      exact isRow_form (by simp [looseness])

theorem item_operands (q : Quantifier) {f : Form} (hf : f.Item) :
    ∀ g ∈ f :: q.numbers.map fun n => Form.word (Numeral.decimal n), g.Item := by
  rw [List.forall_mem_cons, List.forall_mem_map]
  exact ⟨hf, fun n _ => ⟨.word (Numeral.isWord_decimal n), rfl⟩⟩

theorem clear_form (h : e.WellFormed dotAll multiline) : e.form.Clear := by
  induction h with
  | @disjunction branches hlength hbinds h ih =>
      rw [form_disjunction hlength]
      refine .row (by simp [Form.separators]) (by simpa using hlength) ?_ ?_
      · rw [List.forall_mem_map]
        exact fun e he => isRow_form_asBranch ⟨h e he, hbinds e he⟩
      · rw [List.forall_mem_map]
        intro e he
        rw [form_asBranch]
        split_ifs
        · exact .call (by simp) (ih e he)
        · exact ih e he
  | @branch pieces hlength hbinds h ih =>
      rcases hlength with hlength | hlength
      · rw [List.length_eq_zero_iff] at hlength
        rw [hlength]
        exact .word (.plain (by simp) (by simp [marks]))
      · rw [form_branch hlength]
        refine .row (by simp [Form.separators]) (by simpa using hlength) ?_ ?_
        · rw [List.forall_mem_map]
          exact fun e he => isRow_form (hbinds e he)
        · rw [List.forall_mem_map]
          exact ih
  | @piece atom q hbinds hq h ih =>
      rw [form]
      refine .call q.notMem_marks (Form.clear_ofItems (by simp [Form.separators]) (by simp) ?_)
      exact item_operands q ⟨ih, isRow_form (Nat.lt_succ_of_lt hbinds)⟩
  | group capturing h ih =>
      rw [form]
      refine .call ?_ ih
      cases capturing <;> simp [marks]
  | backReference index =>
      rw [form]
      refine .word (.plain (by simp) ?_)
      rw [List.forall_mem_cons]
      exact ⟨by decide, Numeral.notMem_marks index⟩
  | literal c =>
      rw [form]
      exact .word (.char c)
  | wildcard =>
      rw [form]
      cases dotAll <;> exact .word (.plain (by simp) (by simp [marks]))
  | border atStart =>
      rw [form]
      cases multiline <;> cases atStart <;> exact .word (.plain (by simp) (by simp [marks]))
  | charClass h =>
      rw [form]
      exact (CharClass.item_form h).clear
  | escape h =>
      rw [form]
      exact .word (EscapeName.isWord_chars h.known)

end

end Expr

end SchemaPattern
