import SchemaPattern.Expr.Text
import SchemaPattern.Proofs.Text.Quoted

/-!
# Forms of texts

A readable text is made of words, of names with something in brackets behind them, and of rows of
these with a separator between them.  A text of such a form has no other, and its end can be seen
from the character behind it.
-/

namespace SchemaPattern

/-- How a text is put together. -/
inductive Form
  | word (text : List Char)
  /-- A name, and behind it brackets, square or round. -/
  | call (name : List Char) (square : Bool) (inside : Form)
  | row (separator : List Char) (items : List Form)

namespace Form

/-! ## Texts -/

mutual

def text : Form → List Char
  | word t => t
  | call name square inside =>
      name ++ (if square then '[' else '(') :: (text inside ++ [if square then ']' else ')'])
  | row separator items => joined separator (texts items)

def texts : List Form → List (List Char)
  | [] => []
  | f :: rest => text f :: texts rest

end

theorem texts_eq_map (fs : List Form) : texts fs = fs.map text := by
  induction fs with
  | nil => rfl
  | cons f fs ih => rw [texts, ih, List.map_cons]

/-- The text of what stands behind the first item of a row. -/
def tail (separator : List Char) (fs : List Form) : List Char :=
  fs.flatMap fun f => separator ++ f.text

theorem tail_nil_append (separator r : List Char) : tail separator [] ++ r = r := by
  simp [tail]

theorem tail_cons_append (separator r : List Char) (f : Form) (fs : List Form) :
    tail separator (f :: fs) ++ r = separator ++ (f.text ++ (tail separator fs ++ r)) := by
  simp [tail]

theorem joined_cons (separator t : List Char) (ts : List (List Char)) :
    joined separator (t :: ts) = t ++ ts.flatMap (separator ++ ·) := by
  induction ts generalizing t with
  | nil => simp [joined, List.intercalate]
  | cons u ts ih =>
      have hrest := ih u
      simp only [joined, List.intercalate, List.intersperse_cons_cons, List.flatten_cons] at hrest ⊢
      rw [hrest]
      simp

/-- A row of one is left out. -/
def ofItems (separator : List Char) : List Form → Form
  | [f] => f
  | items => row separator items

theorem ofItems_of_two_le {separator : List Char} {fs : List Form} (hlength : 2 ≤ fs.length) :
    ofItems separator fs = row separator fs := by
  match fs with
  | _ :: _ :: _ => rfl

theorem text_ofItems (separator : List Char) (fs : List Form) :
    (ofItems separator fs).text = joined separator (fs.map text) := by
  unfold ofItems
  split
  · simp [joined_cons]
  · rw [text, texts_eq_map]

theorem text_ofItems_cons (separator : List Char) (f : Form) (fs : List Form) :
    (ofItems separator (f :: fs)).text = f.text ++ tail separator fs := by
  simp [text_ofItems, joined_cons, tail, List.flatMap_map]

/-! ## Forms that can be read back -/

/-- The characters that tell where a word or a name ends, and the quote. -/
def marks : List Char := [',', ' ', ')', ']', '(', '[', '\'']

def separators : List (List Char) := [", ".toList, " || ".toList, " - ".toList]

inductive IsWord : List Char → Prop
  | plain {t : List Char} (hne : t ≠ []) (h : ∀ c ∈ t, c ∉ marks) : IsWord t
  | char (c : Char) : IsWord (quotedText c)
  | range (c d : Char) : IsWord (quotedText c ++ "..".toList ++ quotedText d)

def isRow : Form → Bool
  | row .. => true
  | _ => false

/-- Words, names and separators are told apart, and the items of a row are no rows. -/
inductive Clear : Form → Prop
  | word {t : List Char} (h : IsWord t) : Clear (word t)
  | call {name : List Char} {square : Bool} {inside : Form} (hname : ∀ c ∈ name, c ∉ marks)
      (h : Clear inside) : Clear (call name square inside)
  | row {separator : List Char} {items : List Form} (hseparator : separator ∈ separators)
      (hlength : 2 ≤ items.length) (hitems : ∀ f ∈ items, f.isRow = false)
      (h : ∀ f ∈ items, Clear f) : Clear (row separator items)

/-- Clear, and fit to be an item of a row. -/
structure Item (f : Form) : Prop where
  clear : f.Clear
  single : f.isRow = false

theorem clear_ofItems {separator : List Char} (hseparator : separator ∈ separators)
    {fs : List Form} (hne : fs ≠ []) (h : ∀ f ∈ fs, f.Item) : (ofItems separator fs).Clear := by
  match fs with
  | [f] => exact (h f (by simp)).clear
  | f :: g :: fs =>
      refine .row hseparator (by simp) (fun e he => ?_) fun e he => ?_
      · exact (h e he).single
      · exact (h e he).clear

/-- A clear form consists of items in a row, or of one. -/
theorem Clear.eq_ofItems {f : Form} (h : f.Clear) :
    ∃ separator ∈ separators, ∃ g gs, f = ofItems separator (g :: gs) ∧ ∀ e ∈ g :: gs, e.Item := by
  have hcomma : ", ".toList ∈ separators := by simp [separators]
  cases h with
  | word h => exact ⟨_, hcomma, _, [], rfl, by simpa using ⟨.word h, rfl⟩⟩
  | call hname h => exact ⟨_, hcomma, _, [], rfl, by simpa using ⟨.call hname h, rfl⟩⟩
  | @row separator items hseparator hlength hitems h =>
      match items with
      | g :: g' :: gs =>
          exact ⟨separator, hseparator, g, g' :: gs, rfl, fun e he => ⟨h e he, hitems e he⟩⟩

/-! ## What stands behind -/

/-- Such a text can stand behind an item. -/
def Ends (r : List Char) : Prop := ∀ c ∈ r.head?, c ∈ [',', ' ', ')', ']']

/-- Such a text can stand behind all items of a row. -/
def Closes (r : List Char) : Prop := ∀ c ∈ r.head?, c ∈ [')', ']']

theorem Closes.ends {r : List Char} (h : Closes r) : Ends r := fun c hc => by
  have := h c hc
  simp_all

theorem closes_nil : Closes [] := by simp [Closes]

theorem closes_bracket (square : Bool) (r : List Char) :
    Closes ((if square then ']' else ')') :: r) := by
  cases square <;> simp [Closes]

theorem Ends.mark {r : List Char} (h : Ends r) : ∀ c ∈ r.head?, c ∈ marks := fun c hc => by
  have := h c hc
  simp only [List.mem_cons, List.not_mem_nil, or_false] at this
  rcases this with rfl | rfl | rfl | rfl <;> simp [marks]

theorem separator_eq_cons {separator : List Char} (h : separator ∈ separators) :
    ∃ c rest, separator = c :: rest ∧ c ∈ [',', ' '] := by
  simp only [separators, List.mem_cons, List.not_mem_nil, or_false] at h
  rcases h with rfl | rfl | rfl
  · exact ⟨',', [' '], by simp⟩
  · exact ⟨' ', ['|', '|', ' '], by simp⟩
  · exact ⟨' ', ['-', ' '], by simp⟩

theorem ends_tail {separator : List Char} (h : separator ∈ separators) (fs : List Form)
    {r : List Char} (hr : Closes r) : Ends (tail separator fs ++ r) := by
  cases fs with
  | nil => exact hr.ends
  | cons f fs =>
      obtain ⟨c, rest, rfl, hc⟩ := separator_eq_cons h
      simp only [List.mem_cons, List.not_mem_nil, or_false] at hc
      rcases hc with rfl | rfl <;> simp [Ends, tail]

theorem separator_inj {separator separator' r s : List Char} (h : separator ∈ separators)
    (h' : separator' ∈ separators) (heq : separator ++ r = separator' ++ s) :
    separator = separator' ∧ r = s := by
  simp only [separators, List.mem_cons, List.not_mem_nil, or_false] at h h'
  rcases h with rfl | rfl | rfl <;> rcases h' with rfl | rfl | rfl <;> simp_all

/-! ## Reading words -/

/-- Where the marks behind two texts without marks begin, both end. -/
theorem append_inj_of_marks {t u r s : List Char} (ht : ∀ c ∈ t, c ∉ marks)
    (hu : ∀ c ∈ u, c ∉ marks) (hr : ∀ c ∈ r.head?, c ∈ marks) (hs : ∀ c ∈ s.head?, c ∈ marks)
    (h : t ++ r = u ++ s) : t = u ∧ r = s := by
  induction t generalizing u with
  | nil =>
      cases u with
      | nil => exact ⟨rfl, h⟩
      | cons c u =>
          subst h
          exact absurd (hr c rfl) (hu c (by simp))
  | cons c t ih =>
      cases u with
      | nil =>
          subst h
          exact absurd (hs c rfl) (ht c (by simp))
      | cons d u =>
          simp only [List.cons_append, List.cons.injEq] at h
          obtain ⟨rfl, h⟩ := h
          obtain ⟨rfl, hrest⟩ :=
            ih (fun c hc => ht c (by simp [hc])) (fun c hc => hu c (by simp [hc])) h
          exact ⟨rfl, hrest⟩

theorem append_ne_quotedText {t : List Char} (hne : t ≠ []) (h : ∀ c ∈ t, c ∉ marks) (r : List Char)
    (c : Char) (s : List Char) : t ++ r ≠ quotedText c ++ s := by
  obtain ⟨d, rest, rfl⟩ := List.exists_cons_of_ne_nil hne
  intro heq
  obtain ⟨rfl, -⟩ := List.cons.inj heq
  exact h '\'' (by simp) (by simp [marks])

theorem Ends.ne_dots {r : List Char} (h : Ends r) (s : List Char) : r ≠ "..".toList ++ s := by
  rintro rfl
  simp [Ends] at h

theorem IsWord.append_inj {t u r s : List Char} (ht : IsWord t) (hu : IsWord u) (hr : Ends r)
    (hs : Ends s) (h : t ++ r = u ++ s) : t = u ∧ r = s := by
  cases ht with
  | plain hne hplain =>
      cases hu with
      | plain hne' hplain' => exact append_inj_of_marks hplain hplain' hr.mark hs.mark h
      | char c => exact absurd h (append_ne_quotedText hne hplain r c s)
      | range c d =>
          rw [List.append_assoc, List.append_assoc] at h
          exact absurd h (append_ne_quotedText hne hplain r c _)
  | char a =>
      cases hu with
      | plain hne' hplain' => exact absurd h.symm (append_ne_quotedText hne' hplain' s a r)
      | char c =>
          obtain ⟨rfl, hrest⟩ := quotedText_append_inj h
          exact ⟨rfl, hrest⟩
      | range c d =>
          rw [List.append_assoc, List.append_assoc] at h
          exact absurd (quotedText_append_inj h).2 (hr.ne_dots _)
  | range a b =>
      rw [List.append_assoc, List.append_assoc] at h
      cases hu with
      | plain hne' hplain' => exact absurd h.symm (append_ne_quotedText hne' hplain' s a _)
      | char c => exact absurd (quotedText_append_inj h).2.symm (hs.ne_dots _)
      | range c d =>
          rw [List.append_assoc, List.append_assoc] at h
          obtain ⟨rfl, hdots⟩ := quotedText_append_inj h
          obtain ⟨rfl, hrest⟩ := quotedText_append_inj (List.append_cancel_left hdots)
          exact ⟨rfl, hrest⟩

/-- A word is not the beginning of a name with brackets behind it. -/
theorem IsWord.append_ne_call {t name r s : List Char} (ht : IsWord t)
    (hname : ∀ c ∈ name, c ∉ marks) (hr : Ends r) (square : Bool) :
    t ++ r ≠ name ++ (if square then '[' else '(') :: s := by
  have hquoted (c : Char) (u : List Char) :
      quotedText c ++ u ≠ name ++ (if square then '[' else '(') :: s := by
    intro h
    cases name with
    | nil => cases square <;> simp [quotedText] at h
    | cons d name => exact append_ne_quotedText (by simp) hname _ c u h.symm
  cases ht with
  | plain hne hplain =>
      intro h
      have hbracket : ∀ c ∈ ((if square then '[' else '(') :: s).head?, c ∈ marks := by
        cases square <;> simp [marks]
      obtain ⟨-, rfl⟩ := append_inj_of_marks hplain hname hr.mark hbracket h
      cases square <;> simp [Ends] at hr
  | char c => exact hquoted c r
  | range c d =>
      rw [List.append_assoc, List.append_assoc]
      exact hquoted c _

/-! ## Reading items -/

/-- Of the items that can stand at the beginning of a text this is the only one. -/
def Unique (f : Form) : Prop :=
  ∀ g r s, g.Item → Ends r → Ends s → f.text ++ r = g.text ++ s → f = g ∧ r = s

theorem tail_inj {separator separator' : List Char} (hseparator : separator ∈ separators)
    (hseparator' : separator' ∈ separators) {fs gs : List Form} (hfs : ∀ f ∈ fs, f.Unique)
    (hgs : ∀ g ∈ gs, g.Item) {r s : List Char} (hr : Closes r) (hs : Closes s)
    (h : tail separator fs ++ r = tail separator' gs ++ s) :
    fs = gs ∧ r = s ∧ (fs ≠ [] → separator = separator') := by
  -- A separator does not begin with what closes a row.
  have hne {separator : List Char} (hseparator : separator ∈ separators) {r s : List Char}
      (hr : Closes r) : r ≠ separator ++ s := by
    obtain ⟨c, rest, rfl, hc⟩ := separator_eq_cons hseparator
    rintro rfl
    have := hr c rfl
    simp only [List.mem_cons, List.not_mem_nil, or_false] at hc this
    rcases hc with rfl | rfl <;> simp at this
  induction fs generalizing gs with
  | nil =>
      cases gs with
      | nil => exact ⟨rfl, h, by simp⟩
      | cons g gs =>
          rw [tail_nil_append, tail_cons_append] at h
          exact absurd h (hne hseparator' hr)
  | cons f fs ih =>
      cases gs with
      | nil =>
          rw [tail_nil_append, tail_cons_append] at h
          exact absurd h.symm (hne hseparator hs)
      | cons g gs =>
          rw [tail_cons_append, tail_cons_append] at h
          obtain ⟨rfl, hitems⟩ := separator_inj hseparator hseparator' h
          obtain ⟨rfl, htail⟩ := hfs f (by simp) g _ _ (hgs g (by simp))
            (ends_tail hseparator fs hr) (ends_tail hseparator gs hs) hitems
          obtain ⟨rfl, hrest, -⟩ := ih (List.forall_mem_cons.1 hfs).2
            (List.forall_mem_cons.1 hgs).2 htail
          exact ⟨rfl, hrest, fun _ => rfl⟩

/-- The items of a form. -/
def items : Form → List Form
  | row _ items => items
  | f => [f]

theorem items_ofItems {separator : List Char} {fs : List Form} (hne : fs ≠ [])
    (h : ∀ f ∈ fs, f.Item) : (ofItems separator fs).items = fs := by
  match fs with
  | [f] =>
      have hsingle := (h f (by simp)).single
      cases f with
      | row => cases hsingle
      | _ => rfl
  | _ :: _ :: _ => rfl

/-- What closes a form shows where it ends. -/
theorem Clear.append_inj {f g : Form} (hf : f.Clear) (hg : g.Clear)
    (hitems : ∀ e ∈ f.items, e.Unique) {r s : List Char} (hr : Closes r) (hs : Closes s)
    (h : f.text ++ r = g.text ++ s) : f = g ∧ r = s := by
  obtain ⟨separator, hseparator, e, es, rfl, hes⟩ := hf.eq_ofItems
  obtain ⟨separator', hseparator', e', es', rfl, hes'⟩ := hg.eq_ofItems
  rw [items_ofItems (by simp) hes] at hitems
  rw [text_ofItems_cons, text_ofItems_cons, List.append_assoc, List.append_assoc] at h
  obtain ⟨rfl, htail⟩ := hitems e (by simp) e' _ _ (hes' e' (by simp))
    (ends_tail hseparator es hr) (ends_tail hseparator' es' hs) h
  obtain ⟨rfl, hrest, hsame⟩ := tail_inj hseparator hseparator' (List.forall_mem_cons.1 hitems).2
    (List.forall_mem_cons.1 hes').2 hr hs htail
  refine ⟨?_, hrest⟩
  cases es with
  | nil => rfl
  | cons d es => rw [hsame (by simp)]

theorem Clear.unique_items {f : Form} (h : f.Clear) : ∀ e ∈ f.items, e.Unique := by
  -- The items of a row are read by themselves, what stands in brackets up to the bracket.
  induction h with
  | word ht =>
      simp only [items, List.forall_mem_singleton]
      intro g r s hg hr hs heq
      cases hg.clear with
      | word hu =>
          obtain ⟨rfl, hrest⟩ := ht.append_inj hu hr hs heq
          exact ⟨rfl, hrest⟩
      | call hname _ =>
          simp only [text, List.append_assoc, List.cons_append] at heq
          exact absurd heq (ht.append_ne_call hname hr _)
      | row => cases hg.single
  | @call name square inside hname hinside ih =>
      simp only [items, List.forall_mem_singleton]
      intro g r s hg hr hs heq
      cases hg.clear with
      | word hu =>
          simp only [text, List.append_assoc, List.cons_append] at heq
          exact absurd heq.symm (hu.append_ne_call hname hs _)
      | @call name' square' inside' hname' hinside' =>
          simp only [text, List.append_assoc, List.cons_append] at heq
          obtain ⟨rfl, hbehind⟩ := append_inj_of_marks hname hname'
            (by cases square <;> simp [marks]) (by cases square' <;> simp [marks]) heq
          obtain ⟨hbracket, hinner⟩ := List.cons.inj hbehind
          obtain rfl : square = square' := by
            cases square <;> cases square' <;> simp_all
          obtain ⟨rfl, hclose⟩ := hinside.append_inj hinside' ih (closes_bracket square r)
            (closes_bracket square s) hinner
          exact ⟨rfl, (List.cons.inj hclose).2⟩
      | row => cases hg.single
  | @row separator fs hseparator hlength hitems h ih =>
      intro f hf
      have hunique := ih f hf
      have hsingle := hitems f hf
      cases f with
      | row => cases hsingle
      | _ => exact hunique _ (by simp [items])

/-- A text is the text of one clear form at most. -/
theorem Clear.eq_of_text_eq {f g : Form} (hf : f.Clear) (hg : g.Clear) (h : f.text = g.text) :
    f = g := by
  have happend : f.text ++ [] = g.text ++ [] := by rw [h]
  exact (hf.append_inj hg hf.unique_items closes_nil closes_nil happend).1

end Form

end SchemaPattern
