import SchemaPattern.Proofs.Host.Reading

/-!
# Reading texts in a row

Outside of classes a text adds nodes to the branch that is being read.  Nothing but the kind of
what stands before it matters for the text behind it, so texts that add nodes can be put in a row,
between bars and into groups.
-/

namespace SchemaPattern

namespace Host

namespace Reader

/-! ## States in a text -/

/-- The reader is not within an escape, a class or a quantifier, case is not ignored, and so many
capturing groups have begun. -/
structure InText (st : State) (count : Nat) : Prop where
  mode : st.mode = .text
  case : st.scope.ignoreCase = false
  count : st.count = count

namespace State

def adding (st : State) (nodes : List Node) (before : Before) (count : Nat) : State :=
  { st with
    mode := .text
    level := { st.level with items := nodes.reverse ++ st.level.items, before }
    count }

end State

section

variable {st : State} {n k m : Nat}

theorem InText.adding (h : InText st n) (nodes : List Node) (before : Before) (m : Nat) :
    InText (st.adding nodes before m) m :=
  ⟨rfl, h.case, rfl⟩

theorem InText.step_eq (h : InText st n) (c : Char) : step st c = text st c := by
  rw [step, h.mode]

theorem InText.add_eq (h : InText st n) (node : Node) : st.add node = st.adding [node] .atom n := by
  rw [← h.count]
  rfl

theorem InText.eq_text (h : InText st n) : { st with mode := .text, count := n } = st := by
  rw [← h.mode, ← h.count]

theorem InText.adding_nil (h : InText st n) : st.adding [] st.level.before n = st :=
  h.eq_text

theorem adding_adding (nodes others : List Node) (before before' : Before) :
    (st.adding nodes before k).adding others before' m = st.adding (nodes ++ others) before' m := by
  simp [State.adding]

/-! ## Texts that add nodes -/

/-- The text adds one node, which a quantifier may follow. -/
def AddsAtom (text : List Char) (n m : Nat) (node : Node) : Prop :=
  ∀ st, InText st n → Reads st text (st.adding [node] .atom m)

def Adds (text : List Char) (n m : Nat) (nodes : List Node) : Prop :=
  ∀ st, InText st n → ∃ before, Reads st text (st.adding nodes before m)

/-- The text begins a branch of its own and adds it with others behind it. -/
def AddsBranches (text : List Char) (n m : Nat) (nodes : List Node) : Prop :=
  ∀ st, InText st n → st.level.items = [] → ∃ level, Reads st text { st with level, count := m } ∧
    level.close = .ofBranches (st.level.branches.reverse ++ nodes)

variable {text others : List Char} {node : Node} {nodes more : List Node}

theorem AddsAtom.adds (h : AddsAtom text n m node) : Adds text n m [node] :=
  fun st hst => ⟨.atom, h st hst⟩

theorem Adds.nil (n : Nat) : Adds [] n n [] := by
  intro st hst
  refine ⟨st.level.before, ?_⟩
  rw [hst.adding_nil]
  exact .nil st

theorem Adds.append (h : Adds text n k nodes) (hmore : Adds others k m more) :
    Adds (text ++ others) n m (nodes ++ more) := by
  intro st hst
  obtain ⟨before, hread⟩ := h st hst
  obtain ⟨before', hread'⟩ := hmore _ (hst.adding nodes before k)
  refine ⟨before', ?_⟩
  rw [← adding_adding]
  exact hread.append hread'

/-! ## Branches -/

theorem currentBranch_adding (before : Before) (hitems : st.level.items = []) :
    (st.adding nodes before m).level.currentBranch = .ofItems nodes := by
  simp [State.adding, Level.currentBranch, hitems]

theorem Adds.branch (h : Adds text n m nodes) : AddsBranches text n m [.ofItems nodes] := by
  intro st hst hitems
  obtain ⟨before, hread⟩ := h st hst
  refine ⟨(st.adding nodes before m).level, ?_, ?_⟩
  · have hmode := hst.mode
    convert hread using 1
    simp [State.adding, hmode]
  · rw [Level.close, currentBranch_adding before hitems]
    simp [State.adding]

theorem Adds.bar (h : Adds text n k nodes) (hmore : AddsBranches others k m more) :
    AddsBranches (text ++ '|' :: others) n m (.ofItems nodes :: more) := by
  intro st hst hitems
  obtain ⟨before, hread⟩ := h st hst
  let next := (st.adding nodes before k).inText (st.adding nodes before k).level.nextBranch
  have hbar : step (st.adding nodes before k) '|' = some next :=
    (hst.adding nodes before k).step_eq '|'
  obtain ⟨level, hread', hclose⟩ := hmore next ⟨rfl, hst.case, rfl⟩ rfl
  refine ⟨level, ?_, ?_⟩
  · have hmode := hst.mode
    convert hread.append (.cons hbar hread') using 1
    simp [next, State.inText, State.adding, hmode]
  · have hbranches : next.level.branches = .ofItems nodes :: st.level.branches := by
      rw [← currentBranch_adding before hitems]
      rfl
    rw [hclose, hbranches, List.reverse_cons, List.append_assoc, List.singleton_append]

/-! ## Groups -/

def groupNode (number : Option Nat) (body : Node) : Node :=
  match number with
  | some k => .capture k body
  | none => .group body

theorem step_close {inner : State} {number : Option Nat} (hmode : inner.mode = .text)
    (hgroups : inner.openGroups = ⟨number, st.level, st.scope⟩ :: st.openGroups) :
    step inner ')' =
      some (st.adding [groupNode number inner.level.close] .atom inner.count) := by
  simp only [step, hmode, text, closeGroup, hgroups]
  rfl

theorem AddsBranches.closed (h : AddsBranches text k m nodes) (hst : InText st n)
    (capturing : Bool) (hcount : (st.openGroup capturing st.scope).count = k) :
    Reads (st.openGroup capturing st.scope) (text ++ [')'])
      (st.adding [groupNode (if capturing then some k else none) (.ofBranches nodes)] .atom m) := by
  obtain ⟨level, hread, hclose⟩ := h (st.openGroup capturing st.scope) ⟨rfl, hst.case, hcount⟩ rfl
  refine hread.append (.single ?_)
  rw [step_close rfl rfl, hclose, ← hcount]
  cases capturing <;> rfl

theorem AddsBranches.group (h : AddsBranches text n m nodes) :
    AddsAtom ("(?:".toList ++ text ++ [')']) n m (.group (.ofBranches nodes)) := by
  intro st hst
  rw [List.append_assoc]
  have hopen : Reads st "(?:".toList (st.openGroup false st.scope) :=
    .cons (hst.step_eq '(') (.cons rfl (.single rfl))
  exact hopen.append (h.closed hst false hst.count)

theorem reads_capturing {after : State} {c : Char} (hst : InText st n)
    (h : Reads (st.openGroup true st.scope) (c :: text) after) :
    Reads st ('(' :: c :: text) after := by
  -- A question mark would repeat what stands before it, and a group begins with nothing.
  have hc : c ≠ '?' := by
    rintro rfl
    cases h
  refine .cons (hst.step_eq '(') (Reads.of_step_eq ?_ h)
  simp only [step, hc, if_false]
  rfl

theorem AddsBranches.capture (h : AddsBranches text (n + 1) m nodes) :
    AddsAtom ('(' :: text ++ [')']) n m (.capture (n + 1) (.ofBranches nodes)) := by
  intro st hst
  have hclosed := h.closed hst true (congrArg (· + 1) hst.count)
  cases text with
  | nil => exact reads_capturing hst hclosed
  | cons c rest => exact reads_capturing hst hclosed

end

end Reader

theorem read_of_addsBranches {text : List Char} {m : Nat} {nodes : List Node}
    (h : Reader.AddsBranches text 0 m nodes) {scope : Reader.Scope}
    (hscope : scope.ignoreCase = false) : read scope text = some (.ofBranches nodes, m) := by
  obtain ⟨level, hread, hclose⟩ := h { scope } ⟨rfl, hscope, rfl⟩ rfl
  rw [read, hread]
  simp [Reader.finish, hclose]

end Host

end SchemaPattern
