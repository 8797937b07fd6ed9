import SchemaPattern.Proofs.Text.Reading

/-!
# What the texts of two expressions tell

A row in a disjunction is written in brackets, and so is one that is a group already.  But for that
an expression can be read back from its text.
-/

namespace SchemaPattern

namespace Expr

/-! ## Redundant groups -/

/-- A row without the brackets that do not capture. -/
def withoutGroup : Expr → Expr
  | group false (branch (e :: e' :: rest)) => branch (e :: e' :: rest)
  | e => e

mutual

/-- The expression without the groups around rows that are branches of a disjunction. -/
def simplified : Expr → Expr
  | disjunction branches => disjunction (simplifiedBranches branches)
  | branch pieces => branch (simplifiedAll pieces)
  | piece atom q => piece (simplified atom) q
  | group capturing body => group capturing (simplified body)
  | e => e

def simplifiedAll : List Expr → List Expr
  | [] => []
  | e :: rest => simplified e :: simplifiedAll rest

def simplifiedBranches : List Expr → List Expr
  | [] => []
  | e :: rest => (simplified e).withoutGroup :: simplifiedBranches rest

end

theorem simplifiedAll_eq_map (es : List Expr) : simplifiedAll es = es.map simplified := by
  induction es with
  | nil => rfl
  | cons e es ih => rw [simplifiedAll, ih, List.map_cons]

theorem simplifiedBranches_eq_map (es : List Expr) :
    simplifiedBranches es = es.map fun e => e.simplified.withoutGroup := by
  induction es with
  | nil => rfl
  | cons e es ih => rw [simplifiedBranches, ih, List.map_cons]

theorem isRow_simplified (e : Expr) : e.simplified.isRow = e.isRow := by
  cases e with
  | branch pieces =>
      match pieces with
      | [] | [_] | _ :: _ :: _ => rfl
  | _ => rfl

theorem withoutGroup_group {e : Expr} (h : e.isRow = true) : (group false e).withoutGroup = e := by
  unfold isRow at h
  split at h
  · rfl
  · cases h

theorem withoutGroup_of_isRow {e : Expr} (h : e.isRow = true) : e.withoutGroup = e := by
  unfold isRow at h
  split at h
  · rfl
  · cases h

theorem asBranch_withoutGroup (e : Expr) : e.withoutGroup.asBranch = e.asBranch := by
  unfold withoutGroup
  split <;> rfl

mutual

theorem form_simplified : ∀ e : Expr, e.simplified.form = e.form
  | disjunction branches => by rw [simplified, form, form, branchForms_simplified]
  | branch [] => rfl
  | branch (e :: rest) => by
      rw [simplified, simplifiedAll, form, ← simplifiedAll, form, forms_simplified]
  | piece atom q => by rw [simplified, form, form, form_simplified]
  | group capturing body => by rw [simplified, form, form, form_simplified]
  | backReference _ | literal _ | wildcard _ | border _ _ | charClass _ | escape _ => rfl

theorem forms_simplified : ∀ es : List Expr, forms (simplifiedAll es) = forms es
  | [] => rfl
  | e :: rest => by rw [simplifiedAll, forms, forms, form_simplified, forms_simplified]

theorem branchForms_simplified :
    ∀ es : List Expr, branchForms (simplifiedBranches es) = branchForms es
  | [] => rfl
  | e :: rest => by
      rw [simplifiedBranches, branchForms, branchForms, branchForms_simplified, ← form_asBranch,
        asBranch_withoutGroup, form_asBranch, isRow_simplified, form_simplified]

end

/-! ## Labels -/

inductive Label
  | leaf (e : Expr)
  | quantifier (q : Quantifier)
  | capture

mutual

/-- The leaves, the quantifiers and the groups that capture, from left to right. -/
def labels : Expr → List Label
  | disjunction branches => labelsOfAll branches
  | branch pieces => labelsOfAll pieces
  | piece atom q => .quantifier q :: labels atom
  | group capturing body => (if capturing then [.capture] else []) ++ labels body
  | e => [.leaf e]

def labelsOfAll : List Expr → List Label
  | [] => []
  | e :: rest => labels e ++ labelsOfAll rest

end

theorem labels_withoutGroup (e : Expr) : e.withoutGroup.labels = e.labels := by
  unfold withoutGroup
  split
  · simp [labels]
  · rfl

mutual

theorem labels_simplified : ∀ e : Expr, e.simplified.labels = e.labels
  | disjunction branches => by rw [simplified, labels, labels, labelsOfAll_simplifiedBranches]
  | branch pieces => by rw [simplified, labels, labels, labelsOfAll_simplifiedAll]
  | piece atom q => by rw [simplified, labels, labels, labels_simplified]
  | group capturing body => by rw [simplified, labels, labels, labels_simplified]
  | backReference _ | literal _ | wildcard _ | border _ _ | charClass _ | escape _ => rfl

theorem labelsOfAll_simplifiedAll :
    ∀ es : List Expr, labelsOfAll (simplifiedAll es) = labelsOfAll es
  | [] => rfl
  | e :: rest => by
      rw [simplifiedAll, labelsOfAll, labelsOfAll, labels_simplified, labelsOfAll_simplifiedAll]

theorem labelsOfAll_simplifiedBranches :
    ∀ es : List Expr, labelsOfAll (simplifiedBranches es) = labelsOfAll es
  | [] => rfl
  | e :: rest => by
      rw [simplifiedBranches, labelsOfAll, labelsOfAll, labels_withoutGroup, labels_simplified,
        labelsOfAll_simplifiedBranches]

end

end Expr

/-! ## Reading expressions -/

namespace Form

def separator : Form → List Char
  | row separator _ => separator
  | _ => []

/-- The numbers behind the first item. -/
def numbers (f : Form) : List Nat := f.items.tail.map fun n => Numeral.decimalValue n.text

end Form

/-- A form of several items is read as a row, of which the first one may be asked for. -/
def Expr.firstPiece : Expr → Expr
  | branch (e :: _) => e
  | e => e

namespace Form

mutual

/-- The expression that has such a form, without redundant groups. -/
def expr : Form → Expr
  | word t => .ofWord t
  | call name square inside =>
      if square ∨ inside.separator = " - ".toList then
        .charClass (.ofForm (call name square inside))
      else if name = [] then .group false (expr inside)
      else if name = "index".toList then .group true (expr inside)
      else .piece (expr inside).firstPiece (.named name inside.numbers)
  | row separator items =>
      if separator = " || ".toList then .disjunction ((exprs items).map .withoutGroup)
      else .branch (exprs items)

def exprs : List Form → List Expr
  | [] => []
  | f :: rest => expr f :: exprs rest

end

theorem exprs_eq_map (fs : List Form) : exprs fs = fs.map expr := by
  induction fs with
  | nil => rfl
  | cons f fs ih => rw [exprs, ih, List.map_cons]

theorem expr_group (capturing : Bool) {inside : Form} (h : inside.separator ≠ " - ".toList) :
    (call (if capturing then "index".toList else []) false inside).expr =
      .group capturing inside.expr := by
  rw [expr, if_neg (by simpa using h)]
  cases capturing <;> rfl

theorem expr_piece (q : Quantifier) {inside : Form} (h : inside.separator ≠ " - ".toList) :
    (call q.name false inside).expr =
      .piece inside.expr.firstPiece (.named q.name inside.numbers) := by
  obtain ⟨hne, hindex⟩ := q.name_ne
  rw [expr, if_neg (by simpa using h), if_neg hne, if_neg hindex]

theorem expr_charClass (c : CharClass) : c.form.expr = .charClass (.ofForm c.form) := by
  cases c <;> rfl

/-- What a quantifier is applied to is read from the first item. -/
theorem firstPiece_expr_ofItems {f : Form} (h : f.expr.firstPiece = f.expr) (fs : List Form) :
    (ofItems ", ".toList (f :: fs)).expr.firstPiece = f.expr := by
  cases fs with
  | nil => exact h
  | cons g gs => rfl

theorem separator_ofItems_ne {f : Form} (h : f.separator ≠ " - ".toList) (fs : List Form) :
    (ofItems ", ".toList (f :: fs)).separator ≠ " - ".toList := by
  cases fs with
  | nil => exact h
  | cons g gs => simp [ofItems, separator]

theorem numbers_ofItems (q : Quantifier) {f : Form}
    (h : ∀ g ∈ f :: q.numbers.map fun n => word (Numeral.decimal n), g.Item) :
    (ofItems ", ".toList (f :: q.numbers.map fun n => word (Numeral.decimal n))).numbers =
      q.numbers := by
  have hvalue (n : Nat) : Numeral.decimalValue (Numeral.decimal n) = n :=
    (Numeral.decimal_spec n).2.2
  simp [numbers, items_ofItems (by simp) h, text, Function.comp_def, hvalue]

end Form

namespace Expr

section

variable {dotAll multiline : Bool} {e e' : Expr}

theorem separator_form (h : e.WellFormed dotAll multiline) :
    e.form.separator ≠ " - ".toList := by
  cases h with
  | disjunction hlength => simp [form_disjunction hlength, Form.separator]
  | branch hlength =>
      rcases hlength with hlength | hlength
      · rw [List.length_eq_zero_iff] at hlength
        simp [hlength, form, Form.separator]
      · simp [form_branch hlength, Form.separator]
  | @charClass c h =>
      cases c <;> simp [form, CharClass.form, CharGroup.form, Form.separator]
  | _ => simp [form, Form.separator]

theorem firstPiece_simplified (h : e.looseness < 1) : e.simplified.firstPiece = e.simplified := by
  cases e with
  | branch => simp [looseness] at h
  | _ => rfl

theorem expr_form_group (capturing : Bool) (h : e.WellFormed dotAll multiline)
    (hexpr : e.form.expr = e.simplified) :
    (group capturing e).form.expr = group capturing e.simplified := by
  rw [form, Form.expr_group capturing (separator_form h), hexpr]

theorem expr_form (h : e.WellFormed dotAll multiline) : e.form.expr = e.simplified := by
  induction h with
  | @disjunction branches hlength hbinds h ih =>
      -- A row has brackets in its form, of its own or not, and loses them.
      have hbranches : ∀ e ∈ branches,
          e.asBranch.form.expr.withoutGroup = e.simplified.withoutGroup := by
        intro e he
        unfold asBranch
        split_ifs with hrow
        · have hsimplified : e.simplified.isRow = true := by rw [isRow_simplified, hrow]
          rw [expr_form_group false (h e he) (ih e he), withoutGroup_group hsimplified,
            withoutGroup_of_isRow hsimplified]
        · rw [ih e he]
      rw [form_disjunction hlength, Form.expr, if_pos rfl, Form.exprs_eq_map, List.map_map,
        List.map_map, simplified, simplifiedBranches_eq_map]
      exact congrArg disjunction (List.map_congr_left hbranches)
  | @branch pieces hlength hbinds h ih =>
      rcases hlength with hlength | hlength
      · rw [List.length_eq_zero_iff] at hlength
        rw [hlength]
        rfl
      · rw [form_branch hlength, Form.expr, if_neg (by simp), Form.exprs_eq_map, List.map_map,
          simplified, simplifiedAll_eq_map]
        exact congrArg branch (List.map_congr_left ih)
  | @piece atom q hbinds hq h ih =>
      have hitems := item_operands q ⟨clear_form h, isRow_form (Nat.lt_succ_of_lt hbinds)⟩
      have hfirst : atom.form.expr.firstPiece = atom.form.expr := by
        rw [ih, firstPiece_simplified hbinds]
      rw [form, Form.expr_piece q (Form.separator_ofItems_ne (separator_form h) _),
        Form.firstPiece_expr_ofItems hfirst, Form.numbers_ofItems q hitems, q.named_name, ih,
        simplified]
  | @group body capturing h ih =>
      rw [expr_form_group capturing h ih, simplified]
  | backReference index =>
      rw [form, Form.expr, ofWord, (Numeral.decimal_spec index).2.2]
      rfl
  | literal c =>
      rw [form, Form.expr, quotedText, List.cons_append, ofWord, unquotedChar_quoted]
      rfl
  | wildcard => cases dotAll <;> rfl
  | border atStart => cases multiline <;> cases atStart <;> rfl
  | charClass h =>
      rw [form, Form.expr_charClass, CharClass.ofForm_form h]
      rfl
  | escape h =>
      rw [form, Form.expr, ofWord_chars h.known]
      rfl

theorem text_eq_iff {dotAll' multiline' : Bool} (h : e.WellFormed dotAll multiline)
    (h' : e'.WellFormed dotAll' multiline') : e.text = e'.text ↔ e.simplified = e'.simplified := by
  rw [← text_form e, ← text_form e']
  constructor
  · intro htext
    have hform := (clear_form h).eq_of_text_eq (clear_form h') htext
    rw [← expr_form h, ← expr_form h', hform]
  · intro hsimplified
    rw [← form_simplified e, ← form_simplified e', hsimplified]

end

end Expr

/-! ## Patterns -/

/-- In particular expressions that differ in a leaf, a quantifier or a group that captures have
different texts. -/
theorem parse_texts_eq_iff {pattern pattern' modifiers modifiers' : String}
    {extended extended' : Bool} {e e' : Expr} (h : parse pattern modifiers extended = .ok e)
    (h' : parse pattern' modifiers' extended' = .ok e') :
    (e.text = e'.text ↔ e.simplified = e'.simplified) ∧
      (e.text = e'.text → e.labels = e'.labels) := by
  have hiff := Expr.text_eq_iff (parse_wellFormed h) (parse_wellFormed h')
  refine ⟨hiff, fun htext => ?_⟩
  rw [← Expr.labels_simplified e, ← Expr.labels_simplified e', hiff.1 htext]

/-- A branch of two pieces with a group around it, and without. -/
theorem parse_texts_eq_iff_group :
    let row : Expr := .branch [.literal 'a', .literal 'b']
    let e : Expr := .disjunction [.group false row, .literal 'c']
    let e' : Expr := .disjunction [row, .literal 'c']
    parse "(?:ab)|c" "" true = .ok e ∧ parse "ab|c" "i" false = .ok e' ∧ e ≠ e' ∧
      e.simplified = e'.simplified ∧ e.text = e'.text ∧ e.labels = e'.labels := by
  intro row e e'
  have hflags : Flags.ofModifiers "" true = .ok { extended := true } := rfl
  have hflags' : Flags.ofModifiers "i" false = .ok { caseInsensitive := true } := rfl
  have h : parse "(?:ab)|c" "" true = .ok e := by
    rw [parse, hflags]
    exact @parsePattern_of_within 100 _ _ _ _ (@patternItems_of_within 60 _ _ _ rfl) rfl
  have h' : parse "ab|c" "i" false = .ok e' := by
    rw [parse, hflags']
    exact @parsePattern_of_within 100 _ _ _ _ (@patternItems_of_within 60 _ _ _ rfl) rfl
  have hne : e ≠ e' := by simp [e, e', row]
  have hsimplified : e.simplified = e'.simplified := rfl
  obtain ⟨hiff, hlabels⟩ := parse_texts_eq_iff h h'
  have htext := hiff.2 hsimplified
  exact ⟨h, h', hne, hsimplified, htext, hlabels htext⟩

end SchemaPattern
